/-
Operators and connectives where none can stand: one behind another, behind a condition that has an
operator, at the end of a text, and at its start. What is refused is found at the end of the operator
or the connective that is one too many or that lacks its right side, and what follows it is never
looked at.

Any predicate may come before. It is read as it is alone up to its last condition, so all that counts
is what that condition makes of the operator or the connective that follows it.
-/
import RouteExpr.Proofs.Predicate.Fork
import RouteExpr.Proofs.Predicate.Operand
import RouteExpr.Proofs.Token.Fork

namespace RouteExpr

open Lexer Predicate

namespace Token

/-- All but plain text is at fault where it ends. -/
theorem faultOffset_eq_stop {t : Token} (h : t.kind ≠ .literal) : t.faultOffset = t.stop :=
  if_neg fun hl => h hl.1

theorem faultOffset_operator (op : Operator) (text : List Char) (start : Nat) :
    (Token.mk (.operator op) text start).faultOffset = start + text.length := by
  rw [faultOffset_eq_stop (by simp)]
  simp [stop, length, raw, Kind.opening, Kind.closing]

theorem faultOffset_connective (c : Connective) (text : List Char) (start : Nat) :
    (Token.mk (.connective c) text start).faultOffset = start + text.length := by
  rw [faultOffset_eq_stop (by simp)]
  simp [stop, length, raw, Kind.opening, Kind.closing]

end Token

namespace Predicate

variable {classes : ClassTable}

/-! ## The last condition -/

/-- The last condition of the last group. -/
def lastCondition (p : Predicate) : Option Predicate :=
  p.groups.getLast?.bind fun group => group.conditions.getLast?

/-- Whether a condition is a value alone. -/
def isBare : Predicate → Bool
  | truthy _ => true
  | constant _ => true
  | _ => false

theorem isBare_iff_alone {l r : Lexed} {p : Predicate} (h : readCondition classes l = .ok (p, r)) :
    p.isBare = true ↔ ∃ left, p = alone left := by
  obtain ⟨left, rest, rest', -, -, hafter⟩ := readCondition_eq_ok h
  rcases afterLeft_eq_ok hafter with ⟨op, _, _, _, _, right, -, -, -, rfl⟩ | ⟨-, rfl, -⟩
  · refine ⟨nofun, ?_⟩
    rintro ⟨left', heq⟩
    cases left' <;> cases heq
  · refine ⟨fun _ => ⟨left, rfl⟩, fun _ => ?_⟩
    cases left <;> rfl

theorem lastCondition_ofGroups {groups : List (List Predicate)} (h : Flat groups) :
    (ofGroups groups).lastCondition = groups.getLast?.bind List.getLast? := by
  rw [lastCondition, groups_ofGroups h, List.getLast?_map]
  cases hg : groups.getLast? with
  | none => rfl
  | some g =>
    obtain ⟨hne, hall⟩ := h.2 g (List.mem_of_getLast? hg)
    simp only [Option.map_some, Option.bind_some, conditions_collapse hne hall]

theorem getLast?_attach (p : Predicate) (c : Connective) {groups : List (List Predicate)}
    (h : Flat groups) :
    (attach p c groups).getLast?.bind List.getLast? = groups.getLast?.bind List.getLast? := by
  match c, groups, h.1 with
  | .or, g :: gs, _ =>
    show ([p] :: g :: gs).getLast?.bind _ = _
    rw [List.getLast?_cons_cons]
  | .and, [g], _ =>
    obtain ⟨hne, -⟩ := h.2 g List.mem_cons_self
    obtain ⟨q, qs, rfl⟩ := List.exists_cons_of_ne_nil hne
    simp [attach, List.getLast?_cons_cons]
  | .and, g :: g' :: gs, _ => simp [attach, List.getLast?_cons_cons]

/-- From one condition of a chain to a later one, past so many connectives. -/
inductive Reaches (classes : ClassTable) : Lexed → Nat → Lexed → Prop
  | refl (l : Lexed) : Reaches classes l 0 l
  | step {l rest after next last : Lexed} {p : Predicate} {t : Token} {c : Connective} {k : Nat}
    (hp : readCondition classes l = .ok (p, rest)) (hr : rest.skipBlanks = .ok (.token t after))
    (hc : t.kind = .connective c) (hnext : after.skipBlanks = .ok next)
    (hcheck : checkAfter t next = .ok ()) (h : Reaches classes next k last) :
    Reaches classes l (k + 1) last

/-- A chain that is read reaches its last condition. -/
theorem reaches_of_readChain : ∀ (n : Nat) {l : Lexed} {groups : List (List Predicate)},
    readChain classes n l = .ok groups →
    ∃ k last p rest offset, Reaches classes l k last ∧ readCondition classes last = .ok (p, rest) ∧
      rest.skipBlanks = .ok (.eof offset) ∧ groups.getLast?.bind List.getLast? = some p
  | n, l, groups, h => by
    obtain ⟨p, rest, rest', hp, hr, ⟨⟨offset, rfl⟩, rfl⟩ |
      ⟨m, t, after, next, c, groups', rfl, rfl, hc, hnext, hcheck, hgroups, rfl⟩⟩ := readChain_eq_ok h
    · exact ⟨0, l, p, rest, offset, .refl l, hp, hr, rfl⟩
    · obtain ⟨k, last, q, rest', offset, hreach, hq, hend, hlast⟩ := reaches_of_readChain m hgroups
      refine ⟨k + 1, last, q, rest', offset, .step hp hr hc hnext hcheck hreach, hq, hend, ?_⟩
      rw [getLast?_attach p c (readChain_flat m hgroups), hlast]
  termination_by n => n

theorem Reaches.size {l last : Lexed} {k : Nat} (h : Reaches classes l k last) :
    last.size + k ≤ l.size := by
  induction h with
  | refl => exact Nat.le_refl _
  | step hp hr _ hnext _ _ ih =>
    have h1 := readCondition_size hp
    have h2 := Lexed.size_skipBlanks hr
    have h3 := Lexed.size_skipBlanks hnext
    simp only [Lexed.size] at h2
    omega

/-- A chain is refused where one of its conditions is. -/
theorem Reaches.readChain_error {l last : Lexed} {k m : Nat} {f : Fault}
    (h : Reaches classes l k last) (hlast : readChain classes m last = .error f) :
    readChain classes (m + k) l = .error f := by
  induction h with
  | refl => exact hlast
  | @step l _ _ _ _ p t c k hp hr hc hnext hcheck _ ih =>
    rw [← Nat.add_assoc]
    unfold readChain
    rw [hp, ok_bind]
    dsimp only
    rw [hr, ok_bind]
    dsimp only
    rw [hc]
    dsimp only
    rw [hnext, ok_bind, hcheck, ok_bind, ih hlast]
    rfl

/-- A text is refused where a condition that its chain reaches is, within the bound that is left. -/
theorem Reaches.read_error {cs : List Char} {t : Token} {rest last : Lexed} {k : Nat} {f : Fault}
    (hl : (Lexed.of .predicate 0 cs).skipBlanks = .ok (.token t rest))
    (h : Reaches classes (.token t rest) k last)
    (hlast : ∀ m, last.size ≤ m → readChain classes m last = .error f) :
    read classes cs = .error f := by
  have hsize := h.size
  obtain ⟨m, hm⟩ : ∃ m, (Lexed.token t rest).size = m + k := ⟨(Lexed.token t rest).size - k, by omega⟩
  unfold read
  rw [hl, ok_bind]
  dsimp only
  rw [hm, h.readChain_error (hlast m (by omega))]
  rfl

/-! ## Chains that go on -/

theorem Reaches.extends {more l l' last : Lexed} {k : Nat} (h : Reaches classes l k last)
    (hm : more.EndsValue) (he : Lexed.Extends more l l') :
    ∃ last', Reaches classes l' k last' ∧ Lexed.Extends more last last' := by
  induction h generalizing l' with
  | refl => exact ⟨l', .refl l', he⟩
  | step hp hr hc hnext hcheck _ ih =>
    rcases readCondition_extends_or hm he hp with ⟨r', hp', her, -⟩ | ⟨_, _, -, rfl, -⟩
    · obtain ⟨m', hr', ⟨⟨_, ⟨⟩⟩, -⟩ | ⟨_, _, after', ⟨⟩, rfl, hafter⟩⟩ := her.skipBlanks hm hr
      obtain ⟨next', hnext', ⟨⟨_, rfl⟩, -⟩ | ⟨w, rest₂, rest₂', rfl, rfl, hw⟩⟩ :=
        hafter.skipBlanks hm hnext
      · cases hcheck
      · obtain ⟨last', hreach, hlast⟩ := ih (.token w hw)
        exact ⟨last', .step hp' hr' hc hnext' (checkAfter_of_token hcheck) hreach, hlast⟩
    · cases hr

theorem Reaches.readCondition {l last : Lexed} {k : Nat} (h : Reaches classes l k last)
    (hlast : ∃ q r, Predicate.readCondition classes last = .ok (q, r)) :
    ∃ q r, Predicate.readCondition classes l = .ok (q, r) := by
  cases h with
  | refl => exact hlast
  | step hp => exact ⟨_, _, hp⟩

/-- The last word is no part of a condition that others follow. -/
theorem Reaches.forks {t t' : Token} {blanks after l l' last : Lexed} {k : Nat}
    (h : Reaches classes l k last) (hd : Displaces t' t blanks)
    (hf : Lexed.Forks (.token t blanks) (.token t' after) l l')
    (hlast : ∃ q r, Predicate.readCondition classes last = .ok (q, r)) :
    ∃ last', Reaches classes l' k last' ∧
      Lexed.Forks (.token t blanks) (.token t' after) last last' := by
  induction h generalizing l' with
  | refl => exact ⟨l', .refl l', hf⟩
  | @step l rest after₁ next last p u c k hp hr hc hnext hcheck hreach ih =>
    have hne : rest ≠ .token t blanks := by
      rintro rfl
      rw [Lexed.skipBlanks, if_neg (by simp [Token.isBlank, hd.literal])] at hr
      cases hr
      rw [hd.literal] at hc
      cases hc
    rcases readCondition_forks hd hf hp hne with ⟨r', hp', hfr⟩ | ⟨-, rfl, -⟩
    · obtain ⟨m', hr', hm'⟩ := hfr.skipBlanks hd hr
      cases hm' with
      | here => rw [hd.literal] at hc; cases hc
      | token _ hafter =>
        obtain ⟨next', hnext', hf'⟩ := hafter.skipBlanks hd hnext
        obtain ⟨last', hreach', hlast'⟩ := ih hf' hlast
        refine ⟨last', .step hp' hr' hc hnext' ?_ hreach', hlast'⟩
        cases hf' with
        | here =>
          -- a condition that starts with the word is none
          obtain ⟨q, r, hq⟩ := hreach.readCondition hlast
          obtain ⟨left, rest, -, hleft, -, -⟩ := readCondition_eq_ok hq
          exact absurd hleft (not_readValue hd)
        | token w _ => exact checkAfter_of_token hcheck
    · obtain ⟨offset, hoff⟩ := hd.blanks
      rw [hr] at hoff
      cases hoff

/-! ## Behind a predicate -/

variable {cs o word rest : List Char} {p : Predicate} {c : Connective} {op : Operator}

/-- A text that is read reaches its last condition, with nothing but blanks behind it. -/
theorem reaches_of_read (h : read classes cs = .ok p) (hb : Text.allBlank cs = false) :
    ∃ t r k last q rest offset, (Lexed.of .predicate 0 cs).skipBlanks = .ok (.token t r) ∧
      Reaches classes (.token t r) k last ∧ readCondition classes last = .ok (q, rest) ∧
      rest.skipBlanks = .ok (.eof offset) ∧ p.lastCondition = some q := by
  obtain ⟨l, groups, hl, ⟨t, r, rfl⟩, hgroups, rfl⟩ := read_eq_ok h hb
  obtain ⟨k, last, q, rest, offset, hreach, hq, hrest, hlast⟩ := reaches_of_readChain _ hgroups
  refine ⟨t, r, k, last, q, rest, offset, hl, hreach, hq, hrest, ?_⟩
  rw [lastCondition_ofGroups (readChain_flat _ hgroups), hlast]

/-- Where a text goes on with an operator or a connective, its last condition is read up to that. -/
theorem reaches_extends {more : Lexed} {cs' : List Char} (h : read classes cs = .ok p)
    (hb : Text.allBlank cs = false) (hm : more.EndsValue)
    (he : Lexed.Extends more (Lexed.of .predicate 0 cs) (Lexed.of .predicate 0 cs')) :
    ∃ t r k last q, (Lexed.of .predicate 0 cs').skipBlanks = .ok (.token t r) ∧
      Reaches classes (.token t r) k last ∧ p.lastCondition = some q ∧
      ((∃ left, q = alone left ∧ readCondition classes last = afterLeft classes left more) ∨
        (∀ left, q ≠ alone left) ∧ ∃ rest, readCondition classes last = .ok (q, rest) ∧
          rest.skipBlanks = .ok more) := by
  obtain ⟨t, r, k, last, q, rest, offset, hl, hreach, hq, hrest, hlast⟩ := reaches_of_read h hb
  obtain ⟨l', hl', ⟨⟨_, ⟨⟩⟩, -⟩ | ⟨_, _, r', ⟨⟩, rfl, hr⟩⟩ := he.skipBlanks hm hl
  obtain ⟨last', hreach', hext⟩ := hreach.extends hm (.token t hr)
  refine ⟨t, r', k, last', q, hl', hreach', hlast, ?_⟩
  rcases readCondition_extends_or hm hext hq with ⟨rest', hq', her, hne⟩ | ⟨left, _, rfl, -, hq'⟩
  · refine .inr ⟨?_, rest', hq', ?_⟩
    · rintro left rfl
      rw [skipBlanks_of_alone hq] at hrest
      exact hne left rfl offset (Except.ok.inj hrest)
    · obtain ⟨m', hm', ⟨-, rfl⟩ | ⟨_, _, _, ⟨⟩, -, -⟩⟩ := her.skipBlanks hm hrest
      exact hm'
  · exact .inl ⟨left, rfl, hq'⟩

/-- What cannot follow a connective is refused there. -/
theorem read_connective_error {next : Lexed} {f : Fault} (h : read classes cs = .ok p)
    (hb : Text.allBlank cs = false) (hw : c.IsWord word) (hrest : AfterWord rest)
    (hnext : (Lexed.of .predicate (cs.length + 1 + word.length) rest).skipBlanks = .ok next)
    (hcheck : checkAfter ⟨.connective c, word, cs.length + 1⟩ next = .error f) :
    read classes (cs ++ ' ' :: (word ++ rest)) = .error f := by
  have hapart := hw.apart hrest
  have hext := lexed_extend hapart.toStartsBlank (Lexer.start .predicate 0 cs) rfl rfl rfl
    fun t _ => hapart.stays t
  have hoffset : (Lexer.start .predicate 0 cs).position +
      ((Lexer.start .predicate 0 cs).rest ++ [' ']).length = cs.length + 1 := by
    simp [Lexer.start]
  rw [(hw.blanks rest).1, (hw.blanks rest).2, hoffset, hw.lexed hrest] at hext
  have hmore : ∀ left, afterLeft classes left (.token ⟨.connective c, word, cs.length + 1⟩
      (Lexed.of .predicate (cs.length + 1 + word.length) rest)) = .ok (alone left, _) :=
    fun left => afterLeft_of_not_operator fun t r ht op hop => by cases ht; cases hop
  obtain ⟨t, r, k, last, q, hl, hreach, -, hcases⟩ :=
    reaches_extends h hb ⟨_, _, rfl, .inl ⟨c, rfl⟩⟩ hext
  -- the last condition ends at the connective, be it a value alone or a comparison
  obtain ⟨rest', hq, hrest'⟩ : ∃ rest', readCondition classes last = .ok (q, rest') ∧
      rest'.skipBlanks = .ok (.token ⟨.connective c, word, cs.length + 1⟩
        (Lexed.of .predicate (cs.length + 1 + word.length) rest)) := by
    rcases hcases with ⟨left, rfl, hq⟩ | ⟨-, rest', hq, hrest'⟩
    · exact ⟨_, hq.trans (hmore left), rfl⟩
    · exact ⟨rest', hq, hrest'⟩
  refine hreach.read_error hl fun m hm => ?_
  have h1 := readCondition_size hq
  have h2 := Lexed.size_skipBlanks hrest'
  simp only [Lexed.size] at h2
  obtain ⟨m, rfl⟩ : ∃ m', m = m' + 1 := ⟨m - 1, by omega⟩
  exact readChain_of_check_error hq hrest' rfl hnext hcheck

/-- Behind a value alone, what an operator cannot take is refused. -/
theorem read_operator_error {next : Lexed} {f : Fault} {left : Expr} (h : read classes cs = .ok p)
    (hb : Text.allBlank cs = false) (hlast : p.lastCondition = some (alone left)) (ho : op.Spells o)
    (hrest : AfterWord rest)
    (hnext : (Lexed.of .predicate (cs.length + 1 + o.length) rest).skipBlanks = .ok next)
    (hright : readOperand classes op ⟨.operator op, o, cs.length + 1⟩ next = .error f) :
    read classes (cs ++ ' ' :: (o ++ rest)) = .error f := by
  rcases ho.extends_or_forks hrest cs with hext |
    ⟨t, blanks, t', after, hk, htext, hblanks, hop, -, hforks⟩
  · obtain ⟨t, r, k, last, q, hl, hreach, hq, hcases⟩ :=
      reaches_extends h hb ⟨_, _, rfl, .inr (.inl ⟨op, rfl⟩)⟩ hext
    rw [hlast] at hq
    cases hq
    rcases hcases with ⟨left', heq, hcondition⟩ | ⟨hne, -⟩
    · refine hreach.read_error hl fun m _ => readChain_of_condition_error ?_
      rw [hcondition, afterLeft, hnext, ok_bind, hright]
      rfl
    · exact absurd rfl (hne left)
  · -- a text that ends with `not` ends with a comparison
    exfalso
    have hd : Displaces t' t blanks := ⟨hk, by rw [htext]; rfl, hop, hblanks⟩
    obtain ⟨u, r, k, last, q, rest', offset, hl, hreach, hq, hend, hq'⟩ := reaches_of_read h hb
    rw [hlast] at hq'
    cases hq'
    obtain ⟨l', -, hforks⟩ := hforks.skipBlanks hd hl
    obtain ⟨last', -, hforks⟩ := hreach.forks hd hforks ⟨_, _, hq⟩
    have hrest' : rest' = .eof offset := by
      rw [skipBlanks_of_alone hq] at hend
      exact Except.ok.inj hend
    subst hrest'
    rcases readCondition_forks hd hforks hq (by simp) with ⟨r', -, hr'⟩ | ⟨hne, -⟩
    · exact hr'.not_eof
    · exact hne left rfl

/-- Behind a comparison an operator is refused. -/
theorem read_comparison_error {q : Predicate} (h : read classes cs = .ok p)
    (hb : Text.allBlank cs = false) (hlast : p.lastCondition = some q) (hq : ∀ left, q ≠ alone left)
    (ho : op.Spells o) (hrest : AfterWord rest) :
    ∃ cause, read classes (cs ++ ' ' :: (o ++ rest)) =
      .error ⟨cs.length + 1 + o.length, cause⟩ := by
  rcases ho.extends_or_forks hrest cs with hext |
    ⟨t, blanks, t', after, hk, htext, hblanks, hop, hstop, hforks⟩
  · obtain ⟨t, r, k, last, q', hl, hreach, hq', hcases⟩ :=
      reaches_extends h hb ⟨_, _, rfl, .inr (.inl ⟨op, rfl⟩)⟩ hext
    rw [hlast] at hq'
    cases hq'
    rcases hcases with ⟨left, heq, -⟩ | ⟨-, rest', hcondition, hrest'⟩
    · exact absurd heq (hq left)
    · rw [← Token.faultOffset_operator op o]
      refine ⟨_, hreach.read_error hl fun m _ => readChain_of_leftover hcondition hrest' fun c hc => ?_⟩
      cases hc
  · -- the `not` that the text ends with is the operand, and no longer a word
    have hd : Displaces t' t blanks := ⟨hk, by rw [htext]; rfl, hop, hblanks⟩
    obtain ⟨u, r, k, last, q', rest', offset, hl, hreach, hcondition, hend, hq'⟩ :=
      reaches_of_read h hb
    rw [hlast] at hq'
    cases hq'
    obtain ⟨l', hl', hforks⟩ := hforks.skipBlanks hd hl
    obtain ⟨last', hreach', hforks'⟩ := hreach.forks hd hforks ⟨_, _, hcondition⟩
    have hne : rest' ≠ .token t blanks := by
      rintro rfl
      rw [Lexed.skipBlanks, if_neg (by simp [Token.isBlank, hk])] at hend
      cases hend
    rcases readCondition_forks hd hforks' hcondition hne with ⟨r', -, hr'⟩ | ⟨-, -, cause, herror⟩
    · obtain ⟨m', -, hm'⟩ := hr'.skipBlanks hd hend
      exact hm'.not_eof.elim
    · have hoffset : t'.faultOffset = cs.length + 1 + o.length := by
        obtain ⟨op', hop⟩ := hop
        have hliteral : t'.kind ≠ .literal := by simp [hop]
        rw [Token.faultOffset_eq_stop hliteral, hstop]
      rw [hoffset] at herror
      obtain ⟨v, r', rfl⟩ := hforks.exists_token
      exact ⟨cause, hreach'.read_error hl' fun m _ => readChain_of_condition_error herror⟩

/-! ## At the start -/

theorem read_operator_start (ho : op.Spells o) (hrest : AfterWord rest) :
    read classes (o ++ rest) = .error ⟨o.length, .operatorAtStart (String.ofList o)⟩ := by
  have hl : (Lexed.of .predicate 0 (o ++ rest)).skipBlanks =
      .ok (.token ⟨.operator op, o, 0⟩ (Lexed.of .predicate (0 + o.length) rest)) := by
    rw [ho.lexed hrest]
    rfl
  refine (Reaches.refl _).read_error hl fun m _ => readChain_of_condition_error ?_
  have hoffset := Token.faultOffset_operator op o 0
  rw [Nat.zero_add] at hoffset
  rw [← hoffset]
  rfl

theorem read_connective_start (hw : c.IsWord word) (hrest : AfterWord rest) :
    read classes (word ++ rest) = .error ⟨word.length, .connectiveAtStart (String.ofList word)⟩ := by
  have hl : (Lexed.of .predicate 0 (word ++ rest)).skipBlanks =
      .ok (.token ⟨.connective c, word, 0⟩ (Lexed.of .predicate (0 + word.length) rest)) := by
    rw [hw.lexed hrest]
    rfl
  refine (Reaches.refl _).read_error hl fun m _ => readChain_of_condition_error ?_
  have hoffset := Token.faultOffset_connective c word 0
  rw [Nat.zero_add] at hoffset
  rw [← hoffset]
  rfl

/-! ## Misplaced operators and connectives -/

/-- A text is refused at the end of its first part. -/
def FailsBehind (classes : ClassTable) (before after : List Char) : Prop :=
  ∃ cause, read classes (before ++ after) = .error ⟨before.length, cause⟩

/-- The tokens of an operator behind a space. -/
theorem skipBlanks_space_operator (ho : op.Spells o) (hrest : AfterWord rest) (offset : Nat) :
    (Lexed.of .predicate offset (' ' :: (o ++ rest))).skipBlanks =
      .ok (.token ⟨.operator op, o, offset + 1⟩ (Lexed.of .predicate (offset + 1 + o.length) rest)) := by
  rw [Lexed.skipBlanks_of_cons rfl, ho.lexed hrest]
  rfl

/-- The tokens of a connective behind a space. -/
theorem skipBlanks_space_connective (hw : c.IsWord word) (hrest : AfterWord rest) (offset : Nat) :
    (Lexed.of .predicate offset (' ' :: (word ++ rest))).skipBlanks =
      .ok (.token ⟨.connective c, word, offset + 1⟩
        (Lexed.of .predicate (offset + 1 + word.length) rest)) := by
  rw [Lexed.skipBlanks_of_cons rfl, hw.lexed hrest]
  rfl

theorem skipBlanks_blank (hrest : Text.allBlank rest = true) (offset : Nat) :
    ∃ stop, (Lexed.of .predicate offset rest).skipBlanks = .ok (.eof stop) := by
  have hdrop : rest.dropWhile Text.isBlank = [] :=
    List.dropWhile_eq_nil_iff.2 (by simpa [Text.allBlank] using hrest)
  rw [Lexed.skipBlanks_of, hdrop]
  exact ⟨_, rfl⟩

/-- The last condition of what is read is a value alone, or none is. -/
theorem exists_lastCondition (h : read classes cs = .ok p) (hb : Text.allBlank cs = false) :
    ∃ q, p.lastCondition = some q ∧ (q.isBare = true ↔ ∃ left, q = alone left) := by
  obtain ⟨_, _, _, _, q, _, _, -, -, hq, -, hlast⟩ := reaches_of_read h hb
  exact ⟨q, hlast, isBare_iff_alone hq⟩

theorem failsBehind_of_error {before after text : List Char} {offset : Nat} {cause : Cause}
    (h : read classes text = .error ⟨offset, cause⟩) (htext : before ++ after = text)
    (hoffset : before.length = offset) : FailsBehind classes before after :=
  ⟨cause, by rw [htext, hoffset, h]⟩

/-- A connective takes no connective, no operator and no end behind it. -/
theorem failsBehind_connective (h : read classes cs = .ok p) (hb : Text.allBlank cs = false)
    (hw : c.IsWord word) (hrest : AfterWord rest) :
    (∀ c' word', Connective.IsWord c' word' →
      FailsBehind classes (cs ++ [' '] ++ word ++ [' '] ++ word') rest) ∧
    (∀ op o, Operator.Spells op o → FailsBehind classes (cs ++ [' '] ++ word ++ [' '] ++ o) rest) ∧
    (Text.allBlank rest = true → FailsBehind classes (cs ++ [' '] ++ word) rest) := by
  refine ⟨fun c' word' hw' => ?_, fun op o ho => ?_, fun hblank => ?_⟩
  · have hnext := skipBlanks_space_connective hw' hrest (cs.length + 1 + word.length)
    have herror := read_connective_error h hb hw (.inr (startsBlank_cons rfl _)) hnext rfl
    rw [Token.faultOffset_connective] at herror
    exact failsBehind_of_error herror (by simp) (by simp; omega)
  · have hnext := skipBlanks_space_operator ho hrest (cs.length + 1 + word.length)
    have herror := read_connective_error h hb hw (.inr (startsBlank_cons rfl _)) hnext rfl
    rw [Token.faultOffset_operator] at herror
    exact failsBehind_of_error herror (by simp) (by simp; omega)
  · obtain ⟨stop, hnext⟩ := skipBlanks_blank hblank (cs.length + 1 + word.length)
    have herror := read_connective_error h hb hw hrest hnext rfl
    rw [Token.faultOffset_connective] at herror
    exact failsBehind_of_error herror (by simp) (by simp; omega)

/-- Behind a value alone, an operator takes no operator, no connective and no end behind it. -/
theorem failsBehind_operator {left : Expr} (h : read classes cs = .ok p)
    (hb : Text.allBlank cs = false) (hlast : p.lastCondition = some (alone left)) (ho : op.Spells o)
    (hrest : AfterWord rest) :
    (∀ op' o', Operator.Spells op' o' →
      FailsBehind classes (cs ++ [' '] ++ o ++ [' '] ++ o') rest) ∧
    (∀ c word, Connective.IsWord c word →
      FailsBehind classes (cs ++ [' '] ++ o) ([' '] ++ word ++ rest)) ∧
    (Text.allBlank rest = true → FailsBehind classes (cs ++ [' '] ++ o) rest) := by
  refine ⟨fun op' o' ho' => ?_, fun c word hw => ?_, fun hblank => ?_⟩
  · have hnext := skipBlanks_space_operator ho' hrest (cs.length + 1 + o.length)
    have herror := read_operator_error h hb hlast ho (.inr (startsBlank_cons rfl _)) hnext rfl
    rw [Token.faultOffset_operator] at herror
    exact failsBehind_of_error herror (by simp) (by simp; omega)
  · have hnext := skipBlanks_space_connective hw hrest (cs.length + 1 + o.length)
    have herror := read_operator_error h hb hlast ho (.inr (startsBlank_cons rfl _)) hnext rfl
    rw [Token.faultOffset_operator] at herror
    exact failsBehind_of_error herror (by simp) (by simp; omega)
  · obtain ⟨stop, hnext⟩ := skipBlanks_blank hblank (cs.length + 1 + o.length)
    have herror := read_operator_error h hb hlast ho hrest hnext rfl
    rw [Token.faultOffset_operator] at herror
    exact failsBehind_of_error herror (by simp) (by simp; omega)

/-- An operator or a connective where none can stand is refused at its end, or at the end of the
operator or the connective before it that lacks its right side, whatever follows: at the start of a
text; behind any predicate two connectives, or a connective and an operator, or a connective and the
end; if the last condition of the predicate is a value alone, two operators, or an operator and a
connective, or an operator and the end; and if it is a comparison, an operator. -/
theorem read_misplaced (classes : ClassTable) {o o' c c' rest : List Char}
    (ho : ∃ op : Operator, op.Spells o) (ho' : ∃ op : Operator, op.Spells o')
    (hc : ∃ k : Connective, c ∈ k.spellings) (hc' : ∃ k : Connective, c' ∈ k.spellings)
    (hrest : AfterWord rest) :
    FailsBehind classes o rest ∧ FailsBehind classes c rest ∧
    ∀ cs p, read classes cs = .ok p → Text.allBlank cs = false →
      FailsBehind classes (cs ++ [' '] ++ c ++ [' '] ++ c') rest ∧
      FailsBehind classes (cs ++ [' '] ++ c ++ [' '] ++ o) rest ∧
      (Text.allBlank rest = true → FailsBehind classes (cs ++ [' '] ++ c) rest) ∧
      ∃ q, p.lastCondition = some q ∧
        (q.isBare = true →
          FailsBehind classes (cs ++ [' '] ++ o ++ [' '] ++ o') rest ∧
          FailsBehind classes (cs ++ [' '] ++ o) ([' '] ++ c ++ rest) ∧
          (Text.allBlank rest = true → FailsBehind classes (cs ++ [' '] ++ o) rest)) ∧
        (q.isBare = false → FailsBehind classes (cs ++ [' '] ++ o) rest) := by
  obtain ⟨op, ho⟩ := ho
  obtain ⟨op', ho'⟩ := ho'
  obtain ⟨k, hc⟩ := hc
  obtain ⟨k', hc'⟩ := hc'
  have hw := Connective.isWord_of_spelling hc
  have hw' := Connective.isWord_of_spelling hc'
  refine ⟨⟨_, read_operator_start ho hrest⟩, ⟨_, read_connective_start hw hrest⟩, ?_⟩
  intro cs p h hb
  obtain ⟨htwo, hop, hend⟩ := failsBehind_connective h hb hw hrest
  refine ⟨htwo k' c' hw', hop op o ho, hend, ?_⟩
  obtain ⟨q, hlast, hbare⟩ := exists_lastCondition h hb
  refine ⟨q, hlast, fun hq => ?_, fun hq => ?_⟩
  · obtain ⟨left, rfl⟩ := hbare.1 hq
    obtain ⟨htwo, hconnective, hend⟩ := failsBehind_operator h hb hlast ho hrest
    exact ⟨htwo op' o' ho', hconnective k c hw, hend⟩
  · have hne : ∀ left, q ≠ alone left := fun left heq => by
      rw [hbare.2 ⟨left, heq⟩] at hq
      cases hq
    obtain ⟨cause, herror⟩ := read_comparison_error h hb hlast hne ho hrest
    exact failsBehind_of_error herror (by simp) (by simp; omega)

/-- Behind a placeholder, and behind a class name that is the word `not`. -/
theorem read_misplaced_not :
    FailsBehind (.register .empty "not" .string) "$\x7bx\x7d and or".toList [' ', '\''] ∧
      FailsBehind (.register .empty "not" .string) "$\x7bx\x7d in !=".toList [' ', '\''] ∧
      FailsBehind (.register .empty "not" .string) "$\x7bx\x7d is not in".toList [' ', '\''] := by
  have hx : read (.register .empty "not" .string) "$\x7bx\x7d".toList =
      .ok (alone (.property (.literal "x"))) := by cbv
  have htype : Operator.Spells ⟨.type, false⟩ "is".toList := .words (.keyword rfl)
  have hname : (ClassTable.register .empty "not" .string).resolve?
      (String.ofList ['n', 'o', 't']) = some .string := by decide
  have his := read_type_operand hx (by decide) htype rfl (by decide) hname
  have hin : Operator.Spells ⟨.member, false⟩ "in".toList := .words (.keyword rfl)
  have hne : Operator.Spells ⟨.equal, true⟩ "!=".toList := .symbol (by decide)
  have hand : ∃ k : Connective, "and".toList ∈ k.spellings := ⟨.and, by decide⟩
  have hor : ∃ k : Connective, "or".toList ∈ k.spellings := ⟨.or, by decide⟩
  have hrest : AfterWord [' ', '\''] := .inr (startsBlank_cons rfl _)
  obtain ⟨-, -, hall⟩ := read_misplaced (.register .empty "not" .string) ⟨_, hin⟩ ⟨_, hne⟩ hand hor hrest
  obtain ⟨hconnectives, -, -, q, hq, hbare, -⟩ := hall _ _ hx rfl
  obtain ⟨-, -, -, q', hq', -, hcomparison⟩ := hall _ _ his rfl
  cases hq
  cases hq'
  exact ⟨hconnectives, (hbare rfl).1, hcomparison rfl⟩

end Predicate

end RouteExpr
