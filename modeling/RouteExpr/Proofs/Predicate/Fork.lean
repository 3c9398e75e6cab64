/-
An operator in the place of a word that is no value.

Such a word is read only as the operand of an operator that takes class names or patterns. So where
tokens are the same up to such a word, and the others have an operator there, they are read alike up
to it, and then the operator is refused where it ends.
-/
import RouteExpr.Proofs.Predicate.Extend

namespace RouteExpr

open Predicate

/-- An operator in the place of a word that is no value and that nothing but blanks follows. -/
structure Displaces (t' t : Token) (blanks : Lexed) : Prop where
  literal : t.kind = .literal
  no_value : readWord? t.text = none
  operator : ∃ op, t'.kind = .operator op
  blanks : ∃ offset, blanks.skipBlanks = .ok (.eof offset)

variable {t t' : Token} {blanks after l l' m r : Lexed}

/-! ## Tokens -/

namespace Lexed.Forks

theorem ready (h : Forks (.token t blanks) (.token t' after) l l') : l'.ready = .ok l' := by
  cases h with
  | here => rfl
  | token u h => rfl

theorem exists_token (h : Forks (.token t blanks) (.token t' after) l l') :
    ∃ u r, l' = .token u r := by
  cases h with
  | here => exact ⟨_, _, rfl⟩
  | token u h => exact ⟨_, _, rfl⟩

theorem not_eof {offset : Nat} (h : Forks (.token t blanks) (.token t' after) (.eof offset) l') :
    False := by
  cases h

theorem takeSuffix (hd : Displaces t' t blanks)
    (h : Forks (.token t blanks) (.token t' after) l l') :
    l'.takeSuffix.1 = l.takeSuffix.1 ∧
      Forks (.token t blanks) (.token t' after) l.takeSuffix.2 l'.takeSuffix.2 := by
  cases h with
  | here =>
    obtain ⟨op, hop⟩ := hd.operator
    have ht : ∀ s, t.kind ≠ .suffix s := fun s hs => by rw [hd.literal] at hs; cases hs
    have ht' : ∀ s, t'.kind ≠ .suffix s := fun s hs => by rw [hop] at hs; cases hs
    rw [takeSuffix_token ht, takeSuffix_token ht']
    exact ⟨rfl, .here⟩
  | token u h =>
    obtain ⟨kind, text, start⟩ := u
    cases kind with
    | suffix s => exact ⟨rfl, h⟩
    | _ => exact ⟨rfl, .token _ h⟩

/-- Past blanks, the tokens still fork. -/
theorem skipBlanks (hd : Displaces t' t blanks) (h : Forks (.token t blanks) (.token t' after) l l')
    (hs : l.skipBlanks = .ok m) :
    ∃ m', l'.skipBlanks = .ok m' ∧ Forks (.token t blanks) (.token t' after) m m' := by
  induction h with
  | here =>
    obtain ⟨op, hop⟩ := hd.operator
    rw [Lexed.skipBlanks, if_neg (by simp [Token.isBlank, hd.literal])] at hs
    cases hs
    exact ⟨_, by rw [Lexed.skipBlanks, if_neg (by simp [Token.isBlank, hop])], .here⟩
  | token u h ih =>
    rw [Lexed.skipBlanks] at hs ⊢
    split at hs
    · rename_i hb
      rw [if_pos hb]
      exact ih hs
    · rename_i hb
      cases hs
      rw [if_neg hb]
      exact ⟨_, rfl, .token u h⟩

end Lexed.Forks

/-! ## Readers -/

namespace Predicate

open Lexed (Forks)

variable {classes : ClassTable}

/-- The parts of a value end before the word. -/
theorem readParts_forks (hd : Displaces t' t blanks) : ∀ {l l' r : Lexed} {ps : List Expr},
    Forks (.token t blanks) (.token t' after) l l' → readParts l = .ok (ps, r) →
    ∃ r', readParts l' = .ok (ps, r') ∧ Forks (.token t blanks) (.token t' after) r r'
  | .eof _, _, _, _, hf, _ => by cases hf
  | .fault _, _, _, _, hf, _ => by cases hf
  | .token u rest, l', r, ps, hf, h => by
    have hsize := rest.size_takeSuffix
    cases hf with
    | here =>
      rw [readParts_other (fun m hm => by rw [hd.literal] at hm; cases hm)
        fun q hq => by rw [hd.literal] at hq; cases hq] at h
      cases h
      exact ⟨_, readParts_stop (.inr (.inr (.inl hd.operator))), .here⟩
    | token _ hf =>
      rcases part_cases u.kind with ⟨m, hk⟩ | ⟨q, hk⟩ | ⟨hp, hq⟩
      · rw [readParts_placeholder hk] at h ⊢
        obtain ⟨_, -, h⟩ := bind_eq_ok h
        obtain ⟨node, hnode, h⟩ := bind_eq_ok h
        obtain ⟨⟨ps', r'⟩, hrest, h⟩ := bind_eq_ok h
        cases h
        obtain ⟨hs, hf'⟩ := hf.takeSuffix hd
        obtain ⟨r', hr', hfr⟩ := readParts_forks hd hf' hrest
        rw [hf.ready, hnode, hr', hs]
        exact ⟨r', rfl, hfr⟩
      · rw [readParts_quoted hk] at h ⊢
        obtain ⟨_, -, h⟩ := bind_eq_ok h
        obtain ⟨node, hnode, h⟩ := bind_eq_ok h
        obtain ⟨⟨ps', r'⟩, hrest, h⟩ := bind_eq_ok h
        cases h
        obtain ⟨r', hr', hfr⟩ := readParts_forks hd hf hrest
        rw [hf.ready, hnode, hr']
        exact ⟨r', rfl, hfr⟩
      · rw [readParts_other hp hq] at h ⊢
        cases h
        exact ⟨_, rfl, .token u hf⟩
  termination_by l => l.size
  decreasing_by all_goals simp only [Lexed.size]; omega

/-- The word is no value. -/
theorem not_readValue {e : Expr} (hd : Displaces t' t blanks) :
    readValue (.token t blanks) ≠ .ok (e, r) := by
  intro h
  rcases readValue_eq_ok h with ⟨u, heq, -, -, hw⟩ | ⟨u, rest, ps, heq, ⟨_, hk⟩ | ⟨_, hk⟩, -⟩ <;> cases heq
  · rw [hd.no_value] at hw
    cases hw
  · rw [hd.literal] at hk
    cases hk
  · rw [hd.literal] at hk
    cases hk

theorem readValue_forks (hd : Displaces t' t blanks) {e : Expr}
    (hf : Forks (.token t blanks) (.token t' after) l l') (h : readValue l = .ok (e, r)) :
    ∃ r', readValue l' = .ok (e, r') ∧ Forks (.token t blanks) (.token t' after) r r' := by
  cases hf with
  | here => exact absurd h (not_readValue hd)
  | token u hf =>
    rcases readValue_eq_ok h with ⟨u, heq, hk, hr, hw⟩ | ⟨u, rest, ps, heq, hk, hp, rfl⟩ <;> cases heq
    · exact ⟨_, readValue_of_literal hk hf.ready hw, hf⟩
    · obtain ⟨r', hp', hfr⟩ := readParts_forks hd (.token u hf) hp
      exact ⟨r', readValue_of_parts hk hp', hfr⟩

/-- As an operand the word can be read, and then the operator in its place is refused. -/
theorem readOperand_forks (hd : Displaces t' t blanks) {op : Operator} {symbol : Token}
    {operand : Operand} (hf : Forks (.token t blanks) (.token t' after) l l')
    (h : readOperand classes op symbol l = .ok (operand, r)) :
    (∃ r', readOperand classes op symbol l' = .ok (operand, r') ∧
      Forks (.token t blanks) (.token t' after) r r') ∨
    r = blanks ∧ ∃ cause, readOperand classes op symbol l' = .error ⟨t'.faultOffset, cause⟩ := by
  cases hf with
  | here =>
    refine .inr ⟨?_, ?_⟩
    · rcases readOperand_token classes op symbol t with ⟨f, hf⟩ | ⟨read, hread⟩ | hvalue
      · rw [hf] at h; cases h
      · rw [hread] at h
        obtain ⟨next, hready, h'⟩ := bind_eq_ok h
        obtain ⟨rfl, -⟩ := Lexed.ready_eq_ok hready
        obtain ⟨_, -, h'⟩ := bind_eq_ok h'
        cases h'
        rfl
      · rw [hvalue] at h
        obtain ⟨⟨e, r'⟩, hv, -⟩ := map_eq_ok h
        exact absurd hv (not_readValue hd)
    · obtain ⟨kind, text, start⟩ := t'
      obtain ⟨op', hop⟩ := hd.operator
      cases hop
      exact ⟨_, rfl⟩
  | token u hf =>
    rcases readOperand_token classes op symbol u with ⟨f, hfault⟩ | ⟨read, hread⟩ | hvalue
    · rw [hfault] at h; cases h
    · rw [hread] at h ⊢
      obtain ⟨next, hready, h'⟩ := bind_eq_ok h
      obtain ⟨rfl, -⟩ := Lexed.ready_eq_ok hready
      obtain ⟨_, hop, h'⟩ := bind_eq_ok h'
      cases h'
      rw [hf.ready, hop]
      exact .inl ⟨_, rfl, hf⟩
    · rw [hvalue] at h ⊢
      obtain ⟨⟨e, r'⟩, hv, h⟩ := map_eq_ok h
      cases h
      obtain ⟨r', hv', hfr⟩ := readValue_forks hd (.token u hf) hv
      rw [hv']
      exact .inl ⟨r', rfl, hfr⟩

/-- A condition before the word stays what it is, and one that ends with the word is refused, provided
that the word is not left over. -/
theorem readCondition_forks (hd : Displaces t' t blanks) {p : Predicate}
    (hf : Forks (.token t blanks) (.token t' after) l l')
    (h : readCondition classes l = .ok (p, r)) (hr : r ≠ .token t blanks) :
    (∃ r', readCondition classes l' = .ok (p, r') ∧
      Forks (.token t blanks) (.token t' after) r r') ∨
    (∀ left, p ≠ alone left) ∧ r = blanks ∧
      ∃ cause, readCondition classes l' = .error ⟨t'.faultOffset, cause⟩ := by
  obtain ⟨left, rest, next, hleft, hrest, hafter⟩ := readCondition_eq_ok h
  obtain ⟨rest', hleft', hfr⟩ := readValue_forks hd hf hleft
  obtain ⟨next', hrest', hnext⟩ := hfr.skipBlanks hd hrest
  rw [readCondition_of_value hleft' hrest']
  rcases afterLeft_eq_ok hafter with ⟨op, text, start, next, rest₂, right, rfl, hskip, hright, rfl⟩ |
    ⟨hop, rfl, rfl⟩
  · cases hnext with
    | here => cases hd.literal
    | token _ hnext =>
      obtain ⟨rest₂', hskip', hf₂⟩ := hnext.skipBlanks hd hskip
      rcases readOperand_forks hd hf₂ hright with ⟨r', hright', hfr'⟩ | ⟨hr, cause, hright'⟩
      · refine .inl ⟨r', ?_, hfr'⟩
        rw [afterLeft, hskip', ok_bind, hright']
        rfl
      · refine .inr ⟨fun left' heq => ?_, hr, cause, ?_⟩
        · cases left' <;> cases heq
        · rw [afterLeft, hskip', ok_bind, hright']
          rfl
  · cases hnext with
    | here => exact absurd rfl hr
    | token u hnext =>
      refine .inl ⟨_, afterLeft_of_not_operator ?_, .token u hnext⟩
      rintro v rest'' ⟨⟩
      exact hop u _ rfl

end Predicate

end RouteExpr
