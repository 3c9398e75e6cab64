/-
What is read from tokens of a predicate is read from tokens that are read alike.

The readers skip blanks wherever they may stand, and look at the kinds of tokens, at the texts of bare
words, and at what blocks and operands are read as; what type a token names matters behind `is` alone. So
texts whose tokens agree in that, token by token, are the same predicate, wherever the tokens stand and
however they are written otherwise.
-/
import RouteExpr.Proofs.Predicate.Join

namespace RouteExpr

open Predicate

/-! ## Tokens -/

/-- Whatever is read of a token is read of another, but for the type that it names. -/
structure Token.ReadsLike (t t' : Token) : Prop where
  kind : t.SameKind t'
  block : t.kind.isPlaceholder = true → ∀ e, Expr.readBlock t = .ok e → Expr.readBlock t' = .ok e
  region : t.kind.isText = true → ∀ e, Expr.readRegion t.textStart t.text = .ok e →
    Expr.readRegion t'.textStart t'.text = .ok e
  word : t.kind = .literal → t'.text = t.text
  marked : t.kind.isText = true → hasMarker t'.text = hasMarker t.text
  range : t.kind.isText = true → ∀ o, readRange t = .ok o → readRange t' = .ok o
  pattern : t.kind.isText = true → hasMarker t.text = false → ∀ o, readPattern t = .ok o →
    readPattern t' = .ok o

/-- The type that a token names is named by another. -/
def Token.NamesLike (classes : ClassTable) (t t' : Token) : Prop :=
  ∀ o, readType classes t = .ok o → readType classes t' = .ok o

/-- Whether what follows a token is the operand of `is`, which blanks do not change. -/
def Token.leadsToClass (named : Bool) (t : Token) : Bool :=
  match t.kind with
  | .blank => named
  | .operator op => op.comparison = .type
  | _ => false

/-- Two runs of tokens that are read alike up to blanks at the end, or to a fault in both. If they are named,
they begin with the operand of `is`, which is the same type in both. -/
inductive Lexed.ReadsLike (classes : ClassTable) : Bool → Lexed → Lexed → Prop
  | ends {named : Bool} {l l' : Lexed} {offset offset' : Nat} (h : l.skipBlanks = .ok (.eof offset))
    (h' : l'.skipBlanks = .ok (.eof offset')) : ReadsLike classes named l l'
  | fault {named : Bool} (f f' : Fault) : ReadsLike classes named (.fault f) (.fault f')
  | token {named : Bool} {t t' : Token} {rest rest' : Lexed} (ht : t.ReadsLike t')
    (hname : named = true → t.kind.isText = true → t.NamesLike classes t')
    (h : ReadsLike classes (t.leadsToClass named) rest rest') :
    ReadsLike classes named (.token t rest) (.token t' rest')

/-- Unless tokens are named, what a token leads to is not, or is so anyway. -/
theorem Token.leadsToClass_false (named : Bool) (t : Token) :
    t.leadsToClass false = false ∨ t.leadsToClass false = t.leadsToClass named := by
  unfold leadsToClass
  split
  · exact .inl rfl
  · exact .inr rfl
  · exact .inl rfl

theorem Token.leadsToClass_blank {t : Token} (h : t.isBlank = true) (named : Bool) :
    t.leadsToClass named = named := by
  rw [leadsToClass, of_decide_eq_true h]

namespace Lexed.ReadsLike

variable {classes : ClassTable} {named : Bool} {l l' m : Lexed}

/-- Tokens that are read alike behind `is` are so elsewhere. -/
theorem weaken (h : l.ReadsLike classes named l') : l.ReadsLike classes false l' := by
  induction h with
  | ends h h' => exact .ends h h'
  | fault f f' => exact .fault f f'
  | @token named t _ _ _ ht _ h ih =>
    refine .token ht nofun ?_
    rcases t.leadsToClass_false named with heq | heq <;> rw [heq]
    · exact ih
    · exact h

theorem ready (h : l.ReadsLike classes named l') (hl : l.ready = .ok m) : l'.ready = .ok l' := by
  cases h with
  | ends _ h' =>
    cases l' with
    | fault f => cases h'
    | _ => rfl
  | fault f f' => cases hl
  | token ht hname h => rfl

theorem takeSuffix (h : l.ReadsLike classes named l') : l'.takeSuffix.1 = l.takeSuffix.1 ∧
    l.takeSuffix.2.ReadsLike classes false l'.takeSuffix.2 := by
  have none {u : Lexed} {offset : Nat} (hu : u.skipBlanks = .ok (.eof offset)) :
      u.takeSuffix = (none, u) := by
    rcases u with offset | f | ⟨t, rest⟩
    · rfl
    · rfl
    · refine Lexed.takeSuffix_token fun s hs => ?_
      simp [Lexed.skipBlanks, Token.isBlank, hs] at hu
  cases h with
  | ends h h' =>
    rw [none h, none h']
    exact ⟨rfl, .ends h h'⟩
  | fault f f' => exact ⟨rfl, .fault f f'⟩
  | @token _ t t' rest rest' ht hname h =>
    rcases takeSuffix_sameKind ht.kind rest rest' with ⟨s, hl, hl'⟩ | ⟨hl, hl'⟩ <;> rw [hl, hl']
    · exact ⟨rfl, h.weaken⟩
    · exact ⟨rfl, (ReadsLike.token ht hname h).weaken⟩

/-- Past blanks, both come to the end or to tokens that are read alike. -/
theorem skipBlanks (h : l.ReadsLike classes named l') (hl : l.skipBlanks = .ok m) :
    ∃ m', l'.skipBlanks = .ok m' ∧ m.ReadsLike classes named m' ∧
      ((∃ offset offset', m = .eof offset ∧ m' = .eof offset') ∨
        ∃ t t' rest rest', m = .token t rest ∧ m' = .token t' rest' ∧ t.ReadsLike t' ∧
          rest.ReadsLike classes (t.leadsToClass named) rest') := by
  induction h with
  | ends h h' =>
    rw [h] at hl
    cases hl
    exact ⟨_, h', .ends rfl rfl, .inl ⟨_, _, rfl, rfl⟩⟩
  | fault f f' => cases hl
  | @token named t t' rest rest' ht hname h ih =>
    have hblank : t'.isBlank = t.isBlank := decide_eq_decide.2 (ht.kind .blank rfl).symm
    rw [Lexed.skipBlanks] at hl ⊢
    rw [hblank]
    split at hl
    · rename_i hb
      rw [if_pos hb]
      rw [Token.leadsToClass_blank hb] at ih
      exact ih hl
    · rename_i hb
      cases hl
      rw [if_neg hb]
      exact ⟨_, rfl, .token ht hname h, .inr ⟨t, t', rest, rest', rfl, rfl, ht, h⟩⟩

end Lexed.ReadsLike

/-! ## Values -/

namespace Predicate

variable {classes : ClassTable}

theorem isBlank_of_ends {t : Token} {rest : Lexed} {offset : Nat}
    (h : (Lexed.token t rest).skipBlanks = .ok (.eof offset)) : t.isBlank = true := by
  by_contra hb
  rw [Lexed.skipBlanks, if_neg hb] at h
  cases h

theorem readParts_of_ends {l : Lexed} {offset : Nat} (h : l.skipBlanks = .ok (.eof offset)) :
    readParts l = .ok ([], l) := by
  rcases l with offset | f | ⟨t, rest⟩
  · rfl
  · cases h
  · exact readParts_stop (.inl (isBlank_of_ends h))

/-- Parts side by side are the same, and what follows them is read alike. -/
theorem readParts_readsLike : ∀ {l l' r : Lexed} {ps : List Expr}, l.ReadsLike classes false l' →
    readParts l = .ok (ps, r) → ∃ r', readParts l' = .ok (ps, r') ∧ r.ReadsLike classes false r'
  | .eof _, _, _, _, hl, h => by
    cases hl with
    | ends hl hl' =>
      cases h
      exact ⟨_, readParts_of_ends hl', .ends hl hl'⟩
  | .fault _, _, _, _, _, h => by cases h
  | .token t rest, l', r, ps, hl, h => by
    cases hl with
    | ends hl hl' =>
      rw [readParts_of_ends hl] at h
      cases h
      exact ⟨_, readParts_of_ends hl', .ends hl hl'⟩
    | @token _ _ t' _ rest' ht hname hrest =>
      have hsize := rest.size_takeSuffix
      rcases part_cases t.kind with ⟨m, hk⟩ | ⟨q, hk⟩ | ⟨hp, hq⟩
      · rw [readParts_placeholder hk] at h
        obtain ⟨_, hready, h⟩ := bind_eq_ok h
        obtain ⟨node, hnode, h⟩ := bind_eq_ok h
        obtain ⟨⟨ps', r'⟩, hps, h⟩ := bind_eq_ok h
        cases h
        obtain ⟨hs, hsuffix⟩ := hrest.takeSuffix
        obtain ⟨r'', hps', hr⟩ := readParts_readsLike hsuffix hps
        have hplaceholder : t.kind.isPlaceholder = true := Expr.isPlaceholder_iff.2 ⟨m, hk⟩
        obtain ⟨m', hk'⟩ := Expr.isPlaceholder_iff.1 (ht.kind.isPlaceholder_eq ▸ hplaceholder)
        rw [readParts_placeholder hk', hrest.ready hready, ht.block hplaceholder node hnode, hps', hs]
        exact ⟨r'', rfl, hr⟩
      · rw [readParts_quoted hk] at h
        obtain ⟨_, hready, h⟩ := bind_eq_ok h
        obtain ⟨node, hnode, h⟩ := bind_eq_ok h
        obtain ⟨⟨ps', r'⟩, hps, h⟩ := bind_eq_ok h
        cases h
        obtain ⟨r'', hps', hr⟩ := readParts_readsLike hrest.weaken hps
        have hnode' := ht.region (by rw [hk]; rfl) node hnode
        rw [readParts_quoted ((ht.kind _ rfl).1 hk), hrest.ready hready, hnode', hps']
        exact ⟨r'', rfl, hr⟩
      · rw [readParts_other hp hq] at h
        cases h
        have hp' (m : Marker) : t'.kind ≠ .placeholder m := by
          intro hk
          have hplaceholder := ht.kind.isPlaceholder_eq.trans (Expr.isPlaceholder_iff.2 ⟨m, hk⟩)
          obtain ⟨m, hm⟩ := Expr.isPlaceholder_iff.1 hplaceholder
          exact hp m hm
        exact ⟨_, readParts_other hp' fun q => mt (ht.kind _ rfl).2 (hq q), .token ht hname hrest⟩
  termination_by l => l.size
  decreasing_by
    all_goals simp only [Lexed.size]
    all_goals omega

theorem readValue_readsLike {l l' r : Lexed} {e : Expr} (hl : l.ReadsLike classes false l')
    (h : readValue l = .ok (e, r)) : ∃ r', readValue l' = .ok (e, r') ∧ r.ReadsLike classes false r' := by
  rcases readValue_eq_ok h with ⟨t, rfl, hk, hr, hw⟩ | ⟨t, rest, ps, rfl, hk, hp, rfl⟩
  · cases hl with
    | ends hend =>
      have hb := isBlank_of_ends hend
      simp [Token.isBlank, hk] at hb
    | token ht _ hrest =>
      exact ⟨_, readValue_of_literal ((ht.kind _ rfl).1 hk) (hrest.ready hr) (ht.word hk ▸ hw), hrest.weaken⟩
  · obtain ⟨r', hp', hr⟩ := readParts_readsLike hl hp
    cases hl with
    | ends hend =>
      have hb := isBlank_of_ends hend
      rcases hk with ⟨_, hk⟩ | ⟨_, hk⟩ <;> simp [Token.isBlank, hk] at hb
    | token ht _ hrest =>
      refine ⟨r', readValue_of_parts ?_ hp', hr⟩
      rcases hk with ⟨m, hk⟩ | ⟨q, hk⟩
      · have hplaceholder := ht.kind.isPlaceholder_eq ▸ Expr.isPlaceholder_iff.2 ⟨m, hk⟩
        exact .inl (Expr.isPlaceholder_iff.1 hplaceholder)
      · exact .inr ⟨q, (ht.kind _ rfl).1 hk⟩

/-! ## Operands -/

/-- How an operand is read depends on the comparison, and on whether the token is text. -/
theorem readOperand_eq (classes : ClassTable) (op : Operator) (symbol : Token) {t : Token}
    (hc : ∀ c, t.kind ≠ .connective c) (ho : ∀ o, t.kind ≠ .operator o) (rest : Lexed) :
    readOperand classes op symbol (.token t rest) =
      let single (read : Token → Except Fault Operand) : Except Fault (Operand × Lexed) := do
        let rest ← rest.ready
        return (← read t, rest)
      let value : Except Fault (Operand × Lexed) :=
        (readValue (.token t rest)).map fun (e, rest) => (.value e, rest)
      match op.comparison with
      | .type =>
        if t.kind.isText then single (readType classes)
        else .error ⟨t.start, .operatorBefore (String.ofList symbol.text) (String.ofList t.text)⟩
      | .range => if t.kind.isText then single readRange else value
      | .regex => if t.kind.isText && !hasMarker t.text then single readPattern else value
      | _ => value := by
  unfold readOperand
  dsimp only
  split
  · rename_i c hk
    exact absurd hk (hc c)
  · rename_i o hk
    exact absurd hk (ho o)
  · rfl

/-- What is read as an operand is no connective, no operator and no run of blanks. -/
theorem kind_of_readOperand {op : Operator} {symbol t : Token} {rest r : Lexed} {operand : Operand}
    (h : readOperand classes op symbol (.token t rest) = .ok (operand, r)) :
    (∀ c, t.kind ≠ .connective c) ∧ (∀ o, t.kind ≠ .operator o) ∧ t.kind ≠ .blank := by
  have hc : ∀ c, t.kind ≠ .connective c := by
    intro c hk
    simp [readOperand, hk] at h
  have ho : ∀ o, t.kind ≠ .operator o := by
    intro o hk
    simp [readOperand, hk] at h
  refine ⟨hc, ho, fun hk => ?_⟩
  have hvalue : readValue (.token t rest) = unexpected t := by rw [readValue, hk]
  rw [readOperand_eq classes op symbol hc ho, hvalue, hk] at h
  cases hcomparison : op.comparison <;> rw [hcomparison] at h <;> cases h

/-- An operand of one token is read alike. -/
theorem single_readsLike {t t' : Token} {rest rest' r : Lexed} {operand : Operand}
    {read : Token → Except Fault Operand} (hrest : rest.ReadsLike classes false rest')
    (hread : ∀ o, read t = .ok o → read t' = .ok o)
    (h : (do let rest ← rest.ready; return (← read t, rest) : Except Fault (Operand × Lexed)) =
      .ok (operand, r)) :
    ∃ r', (do let rest ← rest'.ready; return (← read t', rest) : Except Fault (Operand × Lexed)) =
      .ok (operand, r') ∧ r.ReadsLike classes false r' := by
  obtain ⟨_, hready, h⟩ := bind_eq_ok h
  obtain ⟨_, ho, h⟩ := bind_eq_ok h
  cases h
  rw [hrest.ready hready, hread _ ho]
  obtain ⟨rfl, -⟩ := Lexed.ready_eq_ok hready
  exact ⟨_, rfl, hrest⟩

/-- An operand that is a value is read alike. -/
theorem value_readsLike {l l' r : Lexed} {operand : Operand} (hl : l.ReadsLike classes false l')
    (h : ((readValue l).map fun p => (Operand.value p.1, p.2)) = .ok (operand, r)) :
    ∃ r', ((readValue l').map fun p => (Operand.value p.1, p.2)) = .ok (operand, r') ∧
      r.ReadsLike classes false r' := by
  obtain ⟨⟨e, r⟩, he, heq⟩ := map_eq_ok h
  cases heq
  obtain ⟨r', he', hr⟩ := readValue_readsLike hl he
  rw [he']
  exact ⟨r', rfl, hr⟩

/-- What is read of an operand is read whatever the operator is written as, and wherever. -/
theorem readOperand_readsLike {op : Operator} {symbol symbol' : Token} {l l' r : Lexed}
    {operand : Operand} (hl : l.ReadsLike classes (op.comparison = .type) l')
    (h : readOperand classes op symbol l = .ok (operand, r)) :
    ∃ r', readOperand classes op symbol' l' = .ok (operand, r') ∧ r.ReadsLike classes false r' := by
  rcases l with offset | f | ⟨t, rest⟩
  · cases h
  · cases h
  obtain ⟨hc, ho, hb⟩ := kind_of_readOperand h
  cases hl with
  | ends hend => exact absurd (of_decide_eq_true (isBlank_of_ends hend)) hb
  | @token _ _ t' _ rest' ht hname hrest =>
    have hvalue := (Lexed.ReadsLike.token ht hname hrest).weaken
    replace hrest := hrest.weaken
    rw [readOperand_eq classes op symbol hc ho] at h
    rw [readOperand_eq classes op symbol' (fun c => mt (ht.kind _ rfl).2 (hc c))
      (fun o => mt (ht.kind _ rfl).2 (ho o)), ← ht.kind.isText_eq]
    dsimp only at h ⊢
    by_cases hk : t.kind.isText = true
    · rw [ht.marked hk]
      simp only [if_pos hk] at h ⊢
      split at h
      · rename_i hop
        exact single_readsLike hrest (hname (decide_eq_true hop) hk) h
      · exact single_readsLike hrest (ht.range hk) h
      · by_cases hm : (t.kind.isText && !hasMarker t.text) = true
        · rw [if_pos hm] at h ⊢
          rw [hk, Bool.true_and, Bool.not_eq_true'] at hm
          exact single_readsLike hrest (ht.pattern hk hm) h
        · rw [if_neg hm] at h ⊢
          exact value_readsLike hvalue h
      · exact value_readsLike hvalue h
    · rw [Bool.not_eq_true] at hk
      simp only [hk, Bool.false_eq_true, Bool.false_and, if_false] at h ⊢
      split at h
      · cases h
      · exact value_readsLike hvalue h
      · exact value_readsLike hvalue h
      · exact value_readsLike hvalue h

/-! ## Conditions and chains -/

theorem readCondition_readsLike {l l' r : Lexed} {p : Predicate} (hl : l.ReadsLike classes false l')
    (h : readCondition classes l = .ok (p, r)) :
    ∃ r', readCondition classes l' = .ok (p, r') ∧ r.ReadsLike classes false r' := by
  obtain ⟨left, rest, next, hleft, hskip, hafter⟩ := readCondition_eq_ok h
  obtain ⟨rest', hleft', hrest⟩ := readValue_readsLike hl hleft
  obtain ⟨next', hskip', hnext, hcases⟩ := hrest.skipBlanks hskip
  rw [readCondition_of_value hleft' hskip']
  rcases afterLeft_eq_ok hafter with
    ⟨op, text, start, after, rest₂, right, rfl, hskip₂, hright, rfl⟩ | ⟨hop, rfl, rfl⟩
  · -- behind the operator stands its operand
    obtain ⟨_, _, ⟨⟩, -⟩ | ⟨_, ⟨kind', text', start'⟩, _, after', ⟨⟩, rfl, ht, hafter'⟩ := hcases
    obtain rfl : kind' = .operator op := (ht.kind _ rfl).1 rfl
    obtain ⟨rest₂', hskip₂', hrest₂, -⟩ := hafter'.skipBlanks hskip₂
    obtain ⟨r', hright', hr⟩ := readOperand_readsLike hrest₂ hright
    rw [afterLeft, hskip₂', ok_bind, hright']
    exact ⟨r', rfl, hr⟩
  · refine ⟨next', afterLeft_of_not_operator ?_, hnext⟩
    rintro t' rest' rfl op hk
    obtain ⟨_, _, -, ⟨⟩⟩ | ⟨t, _, rest, _, rfl, ⟨⟩, ht, -⟩ := hcases
    exact hop t rest rfl op ((ht.kind _ rfl).2 hk)

/-- A chain has the same groups of conditions, within some bound. -/
theorem readChain_readsLike : ∀ (n : Nat) {l l' : Lexed} {groups : List (List Predicate)},
    l.ReadsLike classes false l' → readChain classes n l = .ok groups →
    ∃ m, readChain classes m l' = .ok groups
  | n, l, l', groups, hl, h => by
    obtain ⟨p, rest, next, hp, hskip, hgroups⟩ := readChain_eq_ok h
    obtain ⟨rest', hp', hrest⟩ := readCondition_readsLike hl hp
    obtain ⟨next', hskip', -, hcases⟩ := hrest.skipBlanks hskip
    rcases hgroups with ⟨⟨offset, rfl⟩, rfl⟩ |
      ⟨m, t, after, start, c, groups', rfl, rfl, hc, hskip₂, -, hgroups, rfl⟩
    · obtain ⟨_, _, -, rfl⟩ | ⟨_, _, _, _, ⟨⟩, -⟩ := hcases
      exact ⟨0, readChain_of_eof hp' hskip'⟩
    · -- behind the connective stands a chain again
      obtain ⟨_, _, ⟨⟩, -⟩ | ⟨_, t', _, after', ⟨⟩, rfl, ht, hafter⟩ := hcases
      obtain ⟨start', hskip₂', hstart, -⟩ := hafter.skipBlanks hskip₂
      obtain ⟨m', hgroups'⟩ := readChain_readsLike m hstart.weaken hgroups
      exact ⟨m' + 1, readChain_of_connective hp' hskip' ((ht.kind _ rfl).1 hc) hskip₂'
        (checkAfter_of_readChain hgroups') hgroups'⟩
  termination_by n => n

/-! ## Whole texts -/

/-- Texts are the same predicate where past blanks their tokens are read alike. -/
theorem read_of_readsLike {cs ds : List Char} {p : Predicate} {l l' : Lexed}
    (hl : (Lexed.of .predicate 0 cs).skipBlanks = l.skipBlanks)
    (hl' : (Lexed.of .predicate 0 ds).skipBlanks = l'.skipBlanks) (h : l.ReadsLike classes false l')
    (hp : read classes cs = .ok p) : read classes ds = .ok p := by
  unfold read at hp
  obtain ⟨m, hm, hp⟩ := bind_eq_ok hp
  obtain ⟨m', hm', hlike, hcases⟩ := h.skipBlanks (hl.symm.trans hm)
  obtain ⟨offset, offset', rfl, rfl⟩ | ⟨t, t', rest, rest', rfl, rfl, -, -⟩ := hcases
  · cases hp
    unfold read
    rw [hl', hm']
    rfl
  · obtain ⟨groups, hgroups, hp⟩ := bind_eq_ok hp
    cases hp
    obtain ⟨n, hgroups'⟩ := readChain_readsLike _ hlike hgroups
    exact read_of_chain (hl'.trans hm') hgroups'

end Predicate

end RouteExpr
