/-
A predicate that goes on with a connective is read as it is read alone, and then what follows; and so is
a value that goes on with an operator.

The readers look at one token past what they read. So where a text alone ends, they find the
connective or the operator instead, and leave it as they leave the end.
-/
import RouteExpr.Proofs.Predicate.Shift
import RouteExpr.Proofs.Token.Extend

namespace RouteExpr

open Predicate

/-! ## Tokens that go on -/

/-- Tokens of which the first is a connective. -/
def Lexed.StartsConnective (l : Lexed) : Prop :=
  ∃ t rest c, l = .token t rest ∧ t.kind = .connective c

/-- Tokens of which the first is a connective, an operator or a word, and no part of the value before it. -/
def Lexed.EndsValue (l : Lexed) : Prop :=
  ∃ t rest, l = .token t rest ∧
    ((∃ c, t.kind = .connective c) ∨ (∃ op, t.kind = .operator op) ∨ t.kind = .literal)

theorem Lexed.StartsConnective.endsValue {l : Lexed} (h : l.StartsConnective) : l.EndsValue := by
  obtain ⟨t, rest, c, rfl, hc⟩ := h
  exact ⟨t, rest, rfl, .inl ⟨c, hc⟩⟩

namespace Lexed.Extends

variable {more l l' m : Lexed}

theorem ready (hm : more.EndsValue) (he : Extends more l l') (h : l.ready = .ok m) :
    l'.ready = .ok l' := by
  obtain ⟨t, rest, rfl, -⟩ := hm
  cases he with
  | fault f l' => cases h
  | _ => rfl

theorem takeSuffix (hm : more.EndsValue) (he : Extends more l l') (h : l.ready = .ok m) :
    l'.takeSuffix.1 = l.takeSuffix.1 ∧ Extends more l.takeSuffix.2 l'.takeSuffix.2 := by
  obtain ⟨t, rest, rfl, hk⟩ := hm
  have none_of_blank {b : Token} {rest : Lexed} (hb : b.isBlank = true) :
      (Lexed.token b rest).takeSuffix = (none, .token b rest) :=
    takeSuffix_token fun s hs => by simp [Token.isBlank, hs] at hb
  cases he with
  | eof offset =>
    have hsuffix : ∀ s, t.kind ≠ .suffix s := by
      rintro s hs
      rcases hk with ⟨c, hk⟩ | ⟨op, hk⟩ | hk <;> rw [hs] at hk <;> cases hk
    rw [takeSuffix_token hsuffix]
    exact ⟨rfl, .eof offset⟩
  | blank offset hb =>
    rw [none_of_blank hb]
    exact ⟨rfl, .blank offset hb⟩
  | blanks offset hb hb' =>
    rw [none_of_blank hb, none_of_blank hb']
    exact ⟨rfl, .blanks offset hb hb'⟩
  | token u he =>
    obtain ⟨kind, text, start⟩ := u
    cases kind with
    | suffix s => exact ⟨rfl, he⟩
    | _ => exact ⟨rfl, .token _ he⟩
  | fault f l' => cases h

/-- Past blanks, there is the same token, or what follows instead of the end. -/
theorem skipBlanks (hm : more.EndsValue) (he : Extends more l l')
    (h : l.skipBlanks = .ok m) :
    ∃ m', l'.skipBlanks = .ok m' ∧ ((∃ offset, m = .eof offset) ∧ m' = more ∨
      ∃ t rest rest', m = .token t rest ∧ m' = .token t rest' ∧ Extends more rest rest') := by
  have hmore : more.skipBlanks = .ok more := by
    obtain ⟨t, rest, rfl, hk⟩ := hm
    have hb : ¬ t.isBlank = true := by
      rcases hk with ⟨c, hk⟩ | ⟨op, hk⟩ | hk <;> simp [Token.isBlank, hk]
    rw [Lexed.skipBlanks, if_neg hb]
  induction he with
  | eof offset =>
    cases h
    exact ⟨more, hmore, .inl ⟨⟨offset, rfl⟩, rfl⟩⟩
  | blank offset hb =>
    cases h
    exact ⟨more, by rw [Lexed.skipBlanks, if_pos hb, hmore], .inl ⟨⟨offset, rfl⟩, rfl⟩⟩
  | blanks offset hb hb' =>
    rw [Lexed.skipBlanks, if_pos hb] at h
    cases h
    exact ⟨more, by rw [Lexed.skipBlanks, if_pos hb', hmore], .inl ⟨⟨offset, rfl⟩, rfl⟩⟩
  | token t he ih =>
    rw [Lexed.skipBlanks] at h ⊢
    split at h
    · rename_i hb
      rw [if_pos hb]
      exact ih h
    · rename_i hb
      cases h
      rw [if_neg hb]
      exact ⟨_, rfl, .inr ⟨t, _, _, rfl, rfl, he⟩⟩
  | fault f l' => cases h

end Lexed.Extends

/-! ## Readers on tokens that go on -/

namespace Predicate

open Lexed (Extends)

variable {classes : ClassTable} {more : Lexed}

/-- Neither blanks nor connectives nor operators nor words are part of a value that has begun. -/
theorem readParts_stop {t : Token} {rest : Lexed} (ht : t.isBlank = true ∨
      (∃ c, t.kind = .connective c) ∨ (∃ op, t.kind = .operator op) ∨ t.kind = .literal) :
    readParts (.token t rest) = .ok ([], .token t rest) := by
  have hk : t.kind = .blank ∨ (∃ c, t.kind = .connective c) ∨ (∃ op, t.kind = .operator op) ∨
      t.kind = .literal := ht.imp_left of_decide_eq_true
  rcases hk with hk | ⟨c, hk⟩ | ⟨op, hk⟩ | hk <;>
    exact readParts_other (fun m h => by rw [hk] at h; cases h) fun q h => by rw [hk] at h; cases h

theorem readParts_extends (hm : more.EndsValue) : ∀ {l l' r : Lexed} {ps : List Expr},
    Extends more l l' → readParts l = .ok (ps, r) →
    ∃ r', readParts l' = .ok (ps, r') ∧ Extends more r r'
  | .eof offset, l', r, ps, he, h => by
    cases h
    cases he with
    | eof =>
      obtain ⟨t, rest, rfl, hk⟩ := hm
      exact ⟨_, readParts_stop (.inr hk), .eof offset⟩
    | blank _ hb => exact ⟨_, readParts_stop (.inl hb), .blank offset hb⟩
  | .fault _, _, _, _, _, h => by cases h
  | .token t rest, l', r, ps, he, h => by
    cases he with
    | blanks offset hb hb' =>
      rw [readParts_stop (.inl hb)] at h
      cases h
      exact ⟨_, readParts_stop (.inl hb'), .blanks offset hb hb'⟩
    | token _ he =>
      have hsize := rest.size_takeSuffix
      rcases part_cases t.kind with ⟨m, hk⟩ | ⟨q, hk⟩ | ⟨hp, hq⟩
      · rw [readParts_placeholder hk] at h ⊢
        obtain ⟨_, hready, h⟩ := bind_eq_ok h
        obtain ⟨node, hnode, h⟩ := bind_eq_ok h
        obtain ⟨⟨ps', r'⟩, hrest, h⟩ := bind_eq_ok h
        cases h
        -- the suffix goes with the placeholder, so what is left goes on behind it
        obtain ⟨hs, he'⟩ := he.takeSuffix hm hready
        obtain ⟨r', hr', her⟩ := readParts_extends hm he' hrest
        rw [he.ready hm hready, hnode, hr', hs]
        exact ⟨r', rfl, her⟩
      · rw [readParts_quoted hk] at h ⊢
        obtain ⟨_, hready, h⟩ := bind_eq_ok h
        obtain ⟨node, hnode, h⟩ := bind_eq_ok h
        obtain ⟨⟨ps', r'⟩, hrest, h⟩ := bind_eq_ok h
        cases h
        obtain ⟨r', hr', her⟩ := readParts_extends hm he hrest
        rw [he.ready hm hready, hnode, hr']
        exact ⟨r', rfl, her⟩
      · rw [readParts_other hp hq] at h ⊢
        cases h
        exact ⟨_, rfl, .token t he⟩
  termination_by l => l.size
  decreasing_by all_goals simp only [Lexed.size]; omega

theorem readValue_extends (hm : more.EndsValue) {l l' r : Lexed} {e : Expr}
    (he : Extends more l l') (h : readValue l = .ok (e, r)) :
    ∃ r', readValue l' = .ok (e, r') ∧ Extends more r r' := by
  rcases readValue_eq_ok h with ⟨t, rfl, hk, hr, hw⟩ | ⟨t, rest, ps, rfl, hk, hp, rfl⟩
  · cases he with
    | blanks offset hb hb' => simp [Token.isBlank, hk] at hb
    | token _ he => exact ⟨_, readValue_of_literal hk (he.ready hm hr) hw, he⟩
  · cases he with
    | blanks offset hb hb' =>
      have hblank := of_decide_eq_true hb
      rcases hk with ⟨_, hk⟩ | ⟨_, hk⟩ <;> rw [hk] at hblank <;> cases hblank
    | token _ he =>
      obtain ⟨r', hp', her⟩ := readParts_extends hm (.token t he) hp
      exact ⟨r', readValue_of_parts hk hp', her⟩

theorem readOperand_extends (hm : more.EndsValue) {op : Operator} {symbol t : Token}
    {rest rest' r : Lexed} {operand : Operand} (he : Extends more rest rest')
    (h : readOperand classes op symbol (.token t rest) = .ok (operand, r)) :
    ∃ r', readOperand classes op symbol (.token t rest') = .ok (operand, r') ∧
      Extends more r r' := by
  rcases readOperand_token classes op symbol t with ⟨f, hf⟩ | ⟨read, hread⟩ | hvalue
  · rw [hf] at h; cases h
  · rw [hread] at h ⊢
    obtain ⟨next, hready, h'⟩ := bind_eq_ok h
    obtain ⟨rfl, -⟩ := Lexed.ready_eq_ok hready
    obtain ⟨_, hop, h'⟩ := bind_eq_ok h'
    cases h'
    rw [he.ready hm hready, hop]
    exact ⟨rest', rfl, he⟩
  · rw [hvalue] at h ⊢
    obtain ⟨⟨e, r'⟩, hv, h⟩ := map_eq_ok h
    cases h
    obtain ⟨r', hv', her⟩ := readValue_extends hm (.token t he) hv
    rw [hv']
    exact ⟨r', rfl, her⟩

/-- A condition stays what it is, but where it is a value alone up to the end, what follows may be an
operator. -/
theorem readCondition_extends_or (hm : more.EndsValue) {l l' r : Lexed} {p : Predicate}
    (he : Extends more l l') (h : readCondition classes l = .ok (p, r)) :
    (∃ r', readCondition classes l' = .ok (p, r') ∧ Extends more r r' ∧
      ∀ left, p = alone left → ∀ offset, r ≠ .eof offset) ∨
    ∃ left offset, p = alone left ∧ r = .eof offset ∧
      readCondition classes l' = afterLeft classes left more := by
  obtain ⟨left, rest, next, hleft, hrest, hafter⟩ := readCondition_eq_ok h
  obtain ⟨rest', hleft', her⟩ := readValue_extends hm he hleft
  obtain ⟨next', hrest', hnext⟩ := her.skipBlanks hm hrest
  rcases afterLeft_eq_ok hafter with ⟨op, text, start, after, rest₂, right, rfl, hskip, hright, rfl⟩ |
    ⟨hop, rfl, rfl⟩
  · -- behind the operator there is the operand, so the text does not end there
    obtain ⟨⟨_, ⟨⟩⟩, -⟩ | ⟨t, after₁, after', heq, rfl, heafter⟩ := hnext
    cases heq
    obtain ⟨rest₂', hskip', hnext'⟩ := heafter.skipBlanks hm hskip
    obtain ⟨⟨offset, rfl⟩, -⟩ | ⟨u, rest₃, rest₃', rfl, rfl, her'⟩ := hnext'
    · cases hright
    obtain ⟨r', hright', hr'⟩ := readOperand_extends hm her' hright
    refine .inl ⟨r', ?_, hr', ?_⟩
    · rw [readCondition_of_value hleft' hrest', afterLeft, hskip', ok_bind, hright']
      rfl
    · intro left' heq
      cases left' <;> cases heq
  · rcases hnext with ⟨⟨offset, rfl⟩, rfl⟩ | ⟨u, rest₁, rest₁', rfl, rfl, her'⟩
    · exact .inr ⟨left, offset, rfl, rfl, readCondition_of_value hleft' hrest'⟩
    · have hop' : ∀ t rest, Lexed.token u rest₁' = .token t rest → ∀ op, t.kind ≠ .operator op := by
        rintro t rest ⟨⟩
        exact hop u rest₁ rfl
      refine .inl ⟨_, (readCondition_of_value hleft' hrest').trans (afterLeft_of_not_operator hop'),
        .token u her', fun left _ offset heq => ?_⟩
      cases heq

theorem readCondition_extends (hm : more.StartsConnective) {l l' r : Lexed} {p : Predicate}
    (he : Extends more l l') (h : readCondition classes l = .ok (p, r)) :
    ∃ r', readCondition classes l' = .ok (p, r') ∧ Extends more r r' := by
  rcases readCondition_extends_or hm.endsValue he h with ⟨r', hr', her, -⟩ | ⟨left, offset, rfl, rfl, h'⟩
  · exact ⟨r', hr', her⟩
  · -- a value alone still has no operator behind it: where it ended there is the connective
    obtain ⟨t, rest, c, rfl, hc⟩ := hm
    refine ⟨_, h'.trans (afterLeft_of_not_operator ?_), .eof offset⟩
    rintro u rest' ⟨⟩ op hop
    rw [hc] at hop
    cases hop

theorem checkAfter_of_token {c t : Token} {rest rest' : Lexed}
    (h : checkAfter c (.token t rest) = .ok ()) : checkAfter c (.token t rest') = .ok () := by
  unfold checkAfter at h ⊢
  exact h

/-! ## Chains that go on -/

/-- The groups of two texts with a connective between them: `and` makes one group of the last of the
first text and the first of the second. -/
def joinGroups (c : Connective) : List (List Predicate) → List (List Predicate) →
    List (List Predicate)
  | [], groups => groups
  | [group], groups =>
    match c, groups with
    | .and, next :: groups => (group ++ next) :: groups
    | _, groups => group :: groups
  | group :: groups, groups' => group :: joinGroups c groups groups'

theorem joinGroups_singleton (c : Connective) (p : Predicate) (groups : List (List Predicate)) :
    joinGroups c [[p]] groups = attach p c groups := by
  cases c <;> cases groups <;> rfl

theorem joinGroups_attach (c c' : Connective) (p : Predicate) {groups : List (List Predicate)}
    (hne : groups ≠ []) (groups' : List (List Predicate)) :
    joinGroups c (attach p c' groups) groups' = attach p c' (joinGroups c groups groups') := by
  cases c' with
  | or =>
    match groups, hne with
    | g :: gs, _ => rfl
  | and =>
    match groups, hne with
    | [g], _ => cases c <;> cases groups' <;> rfl
    | g :: g' :: gs, _ => rfl

theorem readChain_ne_nil {n : Nat} {l : Lexed} {groups : List (List Predicate)}
    (h : readChain classes n l = .ok groups) : groups ≠ [] := by
  obtain ⟨p, rest, rest', -, -, ⟨-, rfl⟩ | ⟨m, t, after, next, c, groups', -, -, -, -, -, -, rfl⟩⟩ :=
    readChain_eq_ok h
  · simp
  · cases c <;> cases groups' <;> simp [attach]

/-- A chain that goes on with a connective and a chain has the groups of both, joined. -/
theorem readChain_extends {t : Token} {after next : Lexed} {c : Connective} {k : Nat}
    {groups' : List (List Predicate)} (hc : t.kind = .connective c)
    (hnext : after.skipBlanks = .ok next) (hcheck : checkAfter t next = .ok ())
    (hgroups' : readChain classes k next = .ok groups') :
    ∀ (n : Nat) {l l' : Lexed} {groups : List (List Predicate)}, Extends (.token t after) l l' →
      readChain classes n l = .ok groups →
      ∃ m, readChain classes m l' = .ok (joinGroups c groups groups')
  | n, l, l', groups, he, h => by
    have hm : (Lexed.token t after).StartsConnective := ⟨t, after, c, rfl, hc⟩
    obtain ⟨p, rest, rest₁, hp, hr, hcases⟩ := readChain_eq_ok h
    obtain ⟨rest', hp', her⟩ := readCondition_extends hm he hp
    obtain ⟨rest₁', hr', hnext'⟩ := her.skipBlanks hm.endsValue hr
    obtain ⟨⟨offset, rfl⟩, rfl⟩ |
      ⟨n', u, after₁, next₁, c', groups₁, rfl, rfl, hu, hskip, hcheck₁, hgroups₁, rfl⟩ := hcases
    · -- where the text alone ends there is the connective, and the other chain behind it
      obtain ⟨-, rfl⟩ | ⟨_, _, _, ⟨⟩, -, -⟩ := hnext'
      rw [joinGroups_singleton]
      exact ⟨k + 1, readChain_of_connective hp' hr' hc hnext hcheck hgroups'⟩
    · obtain ⟨⟨_, ⟨⟩⟩, -⟩ | ⟨v, after₂, after', heq, rfl, heafter⟩ := hnext'
      cases heq
      obtain ⟨next₁', hskip', hcases⟩ := heafter.skipBlanks hm.endsValue hskip
      obtain ⟨⟨_, rfl⟩, -⟩ | ⟨w, rest₂, rest₂', rfl, rfl, he₂⟩ := hcases
      · cases hcheck₁
      obtain ⟨m, hm'⟩ := readChain_extends hc hnext hcheck hgroups' n' (.token w he₂) hgroups₁
      rw [joinGroups_attach c c' p (readChain_ne_nil hgroups₁)]
      exact ⟨m + 1, readChain_of_connective hp' hr' hu hskip' (checkAfter_of_token hcheck₁) hm'⟩
  termination_by n => n

end Predicate

end RouteExpr
