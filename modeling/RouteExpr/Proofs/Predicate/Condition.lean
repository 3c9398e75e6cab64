/-
What the readers of predicates take and what they leave.

A reader that succeeds leaves a part of the tokens it was given, so a chain has at most as many
conditions as it has tokens.
-/
import RouteExpr.Proofs.Expr.Shift

namespace RouteExpr

open Predicate
open RouteExpr.Expr (stepped)

/-! ## What is left -/

namespace Lexed

variable {l m : Lexed}

theorem ready_eq_ok (h : l.ready = .ok m) : m = l ∧ ∀ f, l ≠ .fault f := by
  cases l with
  | fault f => cases h
  | _ => cases h; exact ⟨rfl, fun f hf => by cases hf⟩

theorem size_skipBlanks : ∀ {l m : Lexed}, l.skipBlanks = .ok m → m.size ≤ l.size
  | .eof _, _, h => by cases h; exact Nat.le_refl _
  | .fault _, _, h => by cases h
  | .token t rest, m, h => by
    rw [skipBlanks] at h
    split at h
    · exact Nat.le_succ_of_le (size_skipBlanks h)
    · cases h; exact Nat.le_refl _

end Lexed

namespace Predicate

variable {classes : ClassTable}

theorem skipBlanks_idem {l m : Lexed} (h : l.skipBlanks = .ok m) : m.skipBlanks = .ok m := by
  induction l with
  | eof => cases h; rfl
  | fault => cases h
  | token t rest ih =>
    rw [Lexed.skipBlanks] at h
    split at h
    · exact ih h
    · rename_i hb
      cases h
      rw [Lexed.skipBlanks, if_neg hb]

/-! ## Values -/

/-- A token is a part of a value as a placeholder, or as a quoted text, or not at all. -/
theorem part_cases (k : Token.Kind) : (∃ m, k = .placeholder m) ∨ (∃ q, k = .quoted q) ∨
    (∀ m, k ≠ .placeholder m) ∧ ∀ q, k ≠ .quoted q := by
  cases k <;> simp

theorem readParts_placeholder {t : Token} {rest : Lexed} {m : Marker}
    (ht : t.kind = .placeholder m) :
    readParts (.token t rest) = (do
      let _ ← rest.ready
      let node ← Expr.readBlock t
      let (parts, more) ← readParts rest.takeSuffix.2
      return (stepped rest.takeSuffix.1 node :: parts, more)) := by
  rw [readParts, ht]
  rcases rest with offset | f | ⟨⟨kind, text, start⟩, rest⟩
  · rfl
  · rfl
  · cases kind <;> rfl

theorem readParts_quoted {t : Token} {rest : Lexed} {q : Quote} (ht : t.kind = .quoted q) :
    readParts (.token t rest) = (do
      let _ ← rest.ready
      let node ← Expr.readRegion t.textStart t.text
      let (parts, more) ← readParts rest
      return (node :: parts, more)) := by
  rw [readParts, ht]

/-- Parts end at any token that is neither a placeholder nor a quoted text. -/
theorem readParts_other {t : Token} {rest : Lexed} (hp : ∀ m, t.kind ≠ .placeholder m)
    (hq : ∀ q, t.kind ≠ .quoted q) : readParts (.token t rest) = .ok ([], .token t rest) := by
  rw [readParts]
  split
  · rename_i m hm; exact absurd hm (hp m)
  · rename_i q hm; exact absurd hm (hq q)
  · rfl

theorem readParts_size : ∀ {l : Lexed} {ps : List Expr} {r : Lexed},
    readParts l = .ok (ps, r) → r.size ≤ l.size
  | .eof _, _, _, h => by cases h; exact Nat.le_refl _
  | .fault _, _, _, h => by cases h
  | .token t rest, ps, r, h => by
    have hsize := rest.size_takeSuffix
    rcases part_cases t.kind with ⟨m, hm⟩ | ⟨q, hq⟩ | ⟨hm, hq⟩
    · rw [readParts_placeholder hm] at h
      obtain ⟨_, -, h⟩ := bind_eq_ok h
      obtain ⟨_, -, h⟩ := bind_eq_ok h
      obtain ⟨⟨ps', r'⟩, hr, h⟩ := bind_eq_ok h
      cases h
      have := readParts_size hr
      simp only [Lexed.size]; omega
    · rw [readParts_quoted hq] at h
      obtain ⟨_, -, h⟩ := bind_eq_ok h
      obtain ⟨_, -, h⟩ := bind_eq_ok h
      obtain ⟨⟨ps', r'⟩, hr, h⟩ := bind_eq_ok h
      cases h
      exact Nat.le_succ_of_le (readParts_size hr)
    · rw [readParts_other hm hq] at h
      cases h
      exact Nat.le_refl _
  termination_by l => l.size
  decreasing_by all_goals simp only [Lexed.size]; omega

/-- A value is a word, or parts side by side. -/
theorem readValue_eq_ok {l r : Lexed} {e : Expr} (h : readValue l = .ok (e, r)) :
    (∃ t, l = .token t r ∧ t.kind = .literal ∧ r.ready = .ok r ∧ readWord? t.text = some e) ∨
      ∃ t rest ps, l = .token t rest ∧
        ((∃ m, t.kind = .placeholder m) ∨ ∃ q, t.kind = .quoted q) ∧
        readParts l = .ok (ps, r) ∧ e = .join ps := by
  rcases l with offset | f | ⟨t, rest⟩
  · cases h
  · cases h
  rw [readValue] at h
  split at h
  · rename_i hk
    obtain ⟨rest', hr, hword⟩ := bind_eq_ok h
    obtain ⟨rfl, -⟩ := Lexed.ready_eq_ok hr
    split at hword
    · rename_i hw
      cases hword
      exact .inl ⟨t, rfl, hk, hr, hw⟩
    · cases hword
  · rename_i m hk
    obtain ⟨⟨ps, r'⟩, hp, he⟩ := map_eq_ok h
    cases he
    exact .inr ⟨t, rest, ps, rfl, .inl ⟨m, hk⟩, hp, rfl⟩
  · rename_i q hk
    obtain ⟨⟨ps, r'⟩, hp, he⟩ := map_eq_ok h
    cases he
    exact .inr ⟨t, rest, ps, rfl, .inr ⟨q, hk⟩, hp, rfl⟩
  · cases h

theorem readValue_of_literal {t : Token} {r : Lexed} {e : Expr} (hk : t.kind = .literal)
    (hr : r.ready = .ok r) (hw : readWord? t.text = some e) :
    readValue (.token t r) = .ok (e, r) := by
  rw [readValue, hk]
  dsimp only
  rw [hr, hw]
  rfl

theorem readValue_of_parts {t : Token} {rest r : Lexed} {ps : List Expr}
    (hk : (∃ m, t.kind = .placeholder m) ∨ ∃ q, t.kind = .quoted q)
    (hp : readParts (.token t rest) = .ok (ps, r)) :
    readValue (.token t rest) = .ok (.join ps, r) := by
  rw [readValue]
  rcases hk with ⟨m, hk⟩ | ⟨q, hk⟩ <;>
  · rw [hk]
    dsimp only
    rw [hp]
    rfl

theorem readValue_size {l r : Lexed} {e : Expr} (h : readValue l = .ok (e, r)) :
    r.size ≤ l.size := by
  rcases readValue_eq_ok h with ⟨t, rfl, -⟩ | ⟨t, rest, ps, -, -, hp, -⟩
  · exact Nat.le_succ _
  · exact readParts_size hp

/-! ## Operands -/

/-- An operand is one token, or a value; which of the two does not depend on what follows. -/
theorem readOperand_token (classes : ClassTable) (op : Operator) (symbol t : Token) :
    (∃ f, ∀ rest, readOperand classes op symbol (.token t rest) = .error f) ∨
    (∃ operand : Except Fault Operand, ∀ rest,
      readOperand classes op symbol (.token t rest) = (do
        let rest ← rest.ready
        return (← operand, rest))) ∨
    ∀ rest, readOperand classes op symbol (.token t rest) =
      (readValue (.token t rest)).map fun (e, rest) => (.value e, rest) := by
  unfold readOperand
  dsimp only
  split
  · exact .inl ⟨_, fun _ => rfl⟩
  · exact .inl ⟨_, fun _ => rfl⟩
  · split
    · split
      · exact .inr (.inl ⟨_, fun _ => rfl⟩)
      · exact .inl ⟨_, fun _ => rfl⟩
    · split
      · exact .inr (.inl ⟨_, fun _ => rfl⟩)
      · exact .inr (.inr fun _ => rfl)
    · split
      · exact .inr (.inl ⟨_, fun _ => rfl⟩)
      · exact .inr (.inr fun _ => rfl)
    · exact .inr (.inr fun _ => rfl)

theorem readOperand_size {op : Operator} {symbol : Token} {l r : Lexed} {operand : Operand}
    (h : readOperand classes op symbol l = .ok (operand, r)) : r.size ≤ l.size := by
  rcases l with offset | f | ⟨t, rest⟩
  · cases h
  · cases h
  rcases readOperand_token classes op symbol t with ⟨f, hf⟩ | ⟨operand, ho⟩ | hv
  · rw [hf] at h; cases h
  · rw [ho] at h
    obtain ⟨rest', hr, hread⟩ := bind_eq_ok h
    obtain ⟨rfl, -⟩ := Lexed.ready_eq_ok hr
    obtain ⟨_, -, hread⟩ := bind_eq_ok hread
    cases hread
    exact Nat.le_succ _
  · rw [hv] at h
    obtain ⟨⟨e, r'⟩, he, h⟩ := map_eq_ok h
    cases h
    exact readValue_size he

/-! ## Conditions -/

/-- The condition that a value alone is. -/
def alone : Expr → Predicate
  | .boolean b => .constant b
  | e => .truthy e

/-- What a condition makes of its left side and the tokens behind it. -/
def afterLeft (classes : ClassTable) (left : Expr) : Lexed → Except Fault (Predicate × Lexed)
  | .token ⟨.operator op, text, start⟩ after => do
    let (right, rest) ← readOperand classes op ⟨.operator op, text, start⟩ (← after.skipBlanks)
    return (.comparison left op right, rest)
  | rest => .ok (alone left, rest)

theorem afterLeft_of_not_operator {classes : ClassTable} {left : Expr} {l : Lexed}
    (h : ∀ t rest, l = .token t rest → ∀ op, t.kind ≠ .operator op) :
    afterLeft classes left l = .ok (alone left, l) := by
  rcases l with offset | f | ⟨⟨kind, text, start⟩, rest⟩
  · rfl
  · rfl
  · cases kind with
    | operator op => exact absurd rfl (h _ _ rfl op)
    | _ => rfl

/-- A condition starts with a value. -/
theorem readCondition_eq (classes : ClassTable) {l : Lexed}
    (h : ∀ t rest, l = .token t rest → (∀ op, t.kind ≠ .operator op) ∧ ∀ c, t.kind ≠ .connective c) :
    readCondition classes l = (do
      let (left, rest) ← readValue l
      afterLeft classes left (← rest.skipBlanks)) := by
  have value (l : Lexed) : (do
        let (left, rest) ← readValue l
        let rest ← rest.skipBlanks
        match rest with
        | .token ⟨.operator op, text, start⟩ after => do
          let (right, rest) ← readOperand classes op ⟨.operator op, text, start⟩ (← after.skipBlanks)
          return (.comparison left op right, rest)
        | rest =>
          match left with
          | .boolean b => return (.constant b, rest)
          | left => return (.truthy left, rest)) = (do
        let (left, rest) ← readValue l
        afterLeft classes left (← rest.skipBlanks)) := by
    refine bind_congr fun p => bind_congr fun rest => ?_
    rcases rest with offset | f | ⟨⟨kind, text, start⟩, after⟩
    · cases p.1 <;> rfl
    · cases p.1 <;> rfl
    · cases kind with
      | operator op => rfl
      | _ => cases p.1 <;> rfl
  rcases l with offset | f | ⟨⟨kind, text, start⟩, rest⟩
  · rfl
  · rfl
  obtain ⟨h1, h2⟩ := h _ _ rfl
  cases kind with
  | operator op => exact absurd rfl (h1 op)
  | connective c => exact absurd rfl (h2 c)
  | _ => exact value _

/-- What stands behind the left side is an operator with its operand, or is left. -/
theorem afterLeft_eq_ok {left : Expr} {p : Predicate} {l r : Lexed}
    (h : afterLeft classes left l = .ok (p, r)) :
    (∃ op text start after rest right, l = .token ⟨.operator op, text, start⟩ after ∧
      after.skipBlanks = .ok rest ∧
      readOperand classes op ⟨.operator op, text, start⟩ rest = .ok (right, r) ∧
      p = .comparison left op right) ∨
    (∀ t rest, l = .token t rest → ∀ op, t.kind ≠ .operator op) ∧ p = alone left ∧ r = l := by
  by_cases hop : ∀ t rest, l = .token t rest → ∀ op, t.kind ≠ .operator op
  · rw [afterLeft_of_not_operator hop] at h
    cases h
    exact .inr ⟨hop, rfl, rfl⟩
  · push Not at hop
    obtain ⟨⟨kind, text, start⟩, after, rfl, op, hk⟩ := hop
    cases hk
    obtain ⟨rest, hrest, h⟩ := bind_eq_ok h
    obtain ⟨⟨right, r'⟩, hr, h⟩ := bind_eq_ok h
    cases h
    exact .inl ⟨op, text, start, after, rest, right, rfl, hrest, hr, rfl⟩

/-- A condition is a value, and what stands behind it past blanks. -/
theorem readCondition_eq_ok {l r : Lexed} {p : Predicate}
    (h : readCondition classes l = .ok (p, r)) :
    ∃ left rest rest', readValue l = .ok (left, rest) ∧ rest.skipBlanks = .ok rest' ∧
      afterLeft classes left rest' = .ok (p, r) := by
  have hv : ∀ t rest, l = .token t rest → (∀ op, t.kind ≠ .operator op) ∧
      ∀ c, t.kind ≠ .connective c := by
    rintro ⟨kind, text, start⟩ rest rfl
    constructor <;> rintro x ⟨⟩ <;> cases h
  rw [readCondition_eq classes hv] at h
  obtain ⟨⟨left, rest⟩, hleft, h⟩ := bind_eq_ok h
  obtain ⟨rest', hrest, h⟩ := bind_eq_ok h
  exact ⟨left, rest, rest', hleft, hrest, h⟩

/-- Where a value is read, the condition is what stands behind it past blanks. -/
theorem readCondition_of_value {l rest rest' : Lexed} {left : Expr}
    (hleft : readValue l = .ok (left, rest)) (hrest : rest.skipBlanks = .ok rest') :
    readCondition classes l = afterLeft classes left rest' := by
  have hv : ∀ t rest, l = .token t rest → (∀ op, t.kind ≠ .operator op) ∧
      ∀ c, t.kind ≠ .connective c := by
    rintro ⟨kind, text, start⟩ rest rfl
    constructor <;> rintro x ⟨⟩ <;> cases hleft
  rw [readCondition_eq classes hv, hleft]
  exact congrArg (· >>= afterLeft classes left) hrest

/-- Behind a value alone the blanks are skipped already. -/
theorem skipBlanks_of_alone {l r : Lexed} {left : Expr}
    (h : readCondition classes l = .ok (alone left, r)) : r.skipBlanks = .ok r := by
  obtain ⟨left', rest, rest', -, hrest, hafter⟩ := readCondition_eq_ok h
  rcases afterLeft_eq_ok hafter with ⟨op, _, _, _, _, right, -, -, -, heq⟩ | ⟨-, -, rfl⟩
  · cases left <;> cases heq
  · exact skipBlanks_idem hrest

theorem readCondition_size {l r : Lexed} {p : Predicate}
    (h : readCondition classes l = .ok (p, r)) : r.size ≤ l.size := by
  obtain ⟨left, rest, rest', hleft, hrest, h⟩ := readCondition_eq_ok h
  have h1 := readValue_size hleft
  have h2 := Lexed.size_skipBlanks hrest
  rcases afterLeft_eq_ok h with ⟨op, text, start, after, rest'', right, rfl, hafter, hr, -⟩ |
    ⟨-, -, rfl⟩
  · have h3 := Lexed.size_skipBlanks hafter
    have h4 := readOperand_size hr
    simp only [Lexed.size] at h2
    omega
  · omega

/-! ## Chains -/

/-- A chain is a condition alone, or one with a connective and a chain behind it. -/
theorem readChain_eq_ok {n : Nat} {l : Lexed} {groups : List (List Predicate)}
    (h : readChain classes n l = .ok groups) :
    ∃ p rest rest', readCondition classes l = .ok (p, rest) ∧ rest.skipBlanks = .ok rest' ∧
      ((∃ offset, rest' = .eof offset) ∧ groups = [[p]] ∨
        ∃ m t after next c groups', n = m + 1 ∧ rest' = .token t after ∧ t.kind = .connective c ∧
          after.skipBlanks = .ok next ∧ checkAfter t next = .ok () ∧
          readChain classes m next = .ok groups' ∧ groups = attach p c groups') := by
  unfold readChain at h
  obtain ⟨⟨p, rest⟩, hp, h⟩ := bind_eq_ok h
  obtain ⟨rest', hr, h⟩ := bind_eq_ok h
  refine ⟨p, rest, rest', hp, hr, ?_⟩
  rcases rest' with offset | f | ⟨t, after⟩
  · cases h
    exact .inl ⟨⟨offset, rfl⟩, rfl⟩
  · cases h
  · cases n with
    | zero => cases h
    | succ m =>
      dsimp only at h
      split at h
      · rename_i c hc
        obtain ⟨next, hnext, h⟩ := bind_eq_ok h
        obtain ⟨_, hcheck, h⟩ := bind_eq_ok h
        obtain ⟨groups', hgroups, h⟩ := bind_eq_ok h
        cases h
        exact .inr ⟨m, t, after, next, c, groups', rfl, rfl, hc, hnext, hcheck, hgroups, rfl⟩
      · cases h

theorem readChain_of_eof {n offset : Nat} {l rest : Lexed} {p : Predicate}
    (hp : readCondition classes l = .ok (p, rest)) (hr : rest.skipBlanks = .ok (.eof offset)) :
    readChain classes n l = .ok [[p]] := by
  unfold readChain
  rw [hp, ok_bind]
  dsimp only
  rw [hr, ok_bind]
  rfl

theorem readChain_of_connective {n : Nat} {l rest after next : Lexed} {p : Predicate} {t : Token}
    {c : Connective} {groups : List (List Predicate)}
    (hp : readCondition classes l = .ok (p, rest)) (hr : rest.skipBlanks = .ok (.token t after))
    (hc : t.kind = .connective c) (hnext : after.skipBlanks = .ok next)
    (hcheck : checkAfter t next = .ok ()) (hgroups : readChain classes n next = .ok groups) :
    readChain classes (n + 1) l = .ok (attach p c groups) := by
  unfold readChain
  rw [hp, ok_bind]
  dsimp only
  rw [hr, ok_bind]
  dsimp only
  rw [hc]
  dsimp only
  rw [hnext, ok_bind, hcheck, ok_bind, hgroups]
  rfl

theorem readChain_of_condition_error {n : Nat} {l : Lexed} {f : Fault}
    (hp : readCondition classes l = .error f) : readChain classes n l = .error f := by
  unfold readChain
  rw [hp]
  rfl

/-- A chain is refused where what follows a connective cannot start a condition. -/
theorem readChain_of_check_error {n : Nat} {l rest after next : Lexed} {p : Predicate} {t : Token}
    {c : Connective} {f : Fault} (hp : readCondition classes l = .ok (p, rest))
    (hr : rest.skipBlanks = .ok (.token t after)) (hc : t.kind = .connective c)
    (hnext : after.skipBlanks = .ok next) (hcheck : checkAfter t next = .error f) :
    readChain classes (n + 1) l = .error f := by
  unfold readChain
  rw [hp, ok_bind]
  dsimp only
  rw [hr, ok_bind]
  dsimp only
  rw [hc]
  dsimp only
  rw [hnext, ok_bind, hcheck]
  rfl

/-- A chain is refused where a condition is followed by anything else than a connective. -/
theorem readChain_of_leftover {n : Nat} {l rest after : Lexed} {p : Predicate} {t : Token}
    (hp : readCondition classes l = .ok (p, rest)) (hr : rest.skipBlanks = .ok (.token t after))
    (ht : ∀ c, t.kind ≠ .connective c) :
    readChain classes n l = .error ⟨t.faultOffset, .unexpectedToken (String.ofList t.text)⟩ := by
  unfold readChain
  rw [hp, ok_bind]
  dsimp only
  rw [hr, ok_bind]
  cases n with
  | zero => rfl
  | succ n =>
    dsimp only
    split
    · rename_i c hc
      exact absurd hc (ht c)
    · rfl

/-- A chain is read within any bound that is not less than the number of tokens. -/
theorem readChain_of_size {n : Nat} : ∀ {m : Nat} {l : Lexed} {groups : List (List Predicate)},
    readChain classes n l = .ok groups → l.size ≤ m → readChain classes m l = .ok groups := by
  induction n with
  | zero =>
    intro m l groups h _
    obtain ⟨p, rest, rest', hp, hr, ⟨⟨offset, rfl⟩, rfl⟩ | ⟨m, _, _, _, _, _, hn, -⟩⟩ :=
      readChain_eq_ok h
    · exact readChain_of_eof hp hr
    · cases hn
  | succ n ih =>
    intro m l groups h hm
    obtain ⟨p, rest, rest', hp, hr, ⟨⟨offset, rfl⟩, rfl⟩ |
      ⟨n', t, after, next, c, groups', hn, rfl, hc, hnext, hcheck, hgroups, rfl⟩⟩ :=
      readChain_eq_ok h
    · exact readChain_of_eof hp hr
    · cases hn
      have h1 := readCondition_size hp
      have h2 := Lexed.size_skipBlanks hr
      have h3 := Lexed.size_skipBlanks hnext
      simp only [Lexed.size] at h2
      obtain ⟨m, rfl⟩ : ∃ m', m = m' + 1 := ⟨m - 1, by omega⟩
      exact readChain_of_connective hp hr hc hnext hcheck (ih hgroups (by omega))

end Predicate

end RouteExpr
