/-
Reading a predicate that starts later gives the same predicate, or the same fault so much later.
-/
import RouteExpr.Proofs.Predicate.Condition

namespace RouteExpr.Predicate

variable {k : Nat}

/-! ## Values -/

/-- What is read, and what is left so many characters later. -/
def shiftRest {α : Type} (k : Nat) (p : α × Lexed) : α × Lexed :=
  (p.1, p.2.shift k)

theorem readParts_shift : ∀ l : Lexed,
    readParts (l.shift k) = Fault.shifted k (shiftRest k) (readParts l)
  | .eof _ => rfl
  | .fault _ => rfl
  | .token t rest => by
    have hsize := rest.size_takeSuffix
    rw [Lexed.shift]
    rcases part_cases t.kind with ⟨m, hm⟩ | ⟨q, hq⟩ | ⟨hm, hq⟩
    · rw [readParts_placeholder hm, readParts_placeholder (by exact hm), Lexed.ready_shift,
        Expr.readBlock_shift t (Expr.isPlaceholder_iff.2 ⟨m, hm⟩), Lexed.takeSuffix_shift,
        readParts_shift rest.takeSuffix.2]
      exact shifted_bind fun _ => shifted_bind fun _ => shifted_bind fun _ => rfl
    · rw [readParts_quoted hq, readParts_quoted (by exact hq), Lexed.ready_shift,
        Token.shift_textStart, Token.shift_text, Expr.readRegion_shift, readParts_shift rest]
      exact shifted_bind fun _ => shifted_bind fun _ => shifted_bind fun _ => rfl
    · rw [readParts_other hm hq, readParts_other (t := t.shift k) hm hq]
      rfl
  termination_by l => l.size
  decreasing_by all_goals simp only [Lexed.size]; omega

theorem unexpected_shift {α β : Type} {move : α → β} (t : Token) :
    unexpected (t.shift k) = Fault.shifted k move (unexpected t) := by
  simp only [unexpected, Token.shift_faultOffset, Token.shift_text, shifted_error, Fault.shift]

theorem readValue_shift (l : Lexed) :
    readValue (l.shift k) = Fault.shifted k (shiftRest k) (readValue l) := by
  rcases l with offset | f | ⟨t, rest⟩
  · rfl
  · rfl
  have hparts : (readParts ((Lexed.token t rest).shift k)).map (fun p => (Expr.join p.1, p.2)) =
      Fault.shifted k (shiftRest k)
        ((readParts (.token t rest)).map fun p => (Expr.join p.1, p.2)) := by
    rw [readParts_shift]
    exact shifted_map fun _ => rfl
  rw [Lexed.shift] at hparts ⊢
  rw [readValue, readValue, Token.shift_kind]
  split
  · rw [Lexed.ready_shift, Token.shift_text]
    refine shifted_bind fun _ => ?_
    split
    · rfl
    · exact unexpected_shift t
  · exact hparts
  · exact hparts
  · exact unexpected_shift t

/-! ## Operands -/

theorem readBound_shift (offset : Nat) (text : List Char) :
    readBound (offset + k) text = Fault.shifted k id (readBound offset text) := by
  unfold readBound
  rw [Expr.readRegion_shift]
  dsimp only
  repeat' (first | rfl | split)

theorem readRange_shift (t : Token) :
    readRange (t.shift k) = Fault.shifted k id (readRange t) := by
  unfold readRange
  rw [Token.shift_text, Token.shift_textStart]
  split
  · rw [Nat.add_right_comm]; rfl
  · rename_i low high _
    rw [readBound_shift,
      show t.textStart + k + low.length + 2 = t.textStart + low.length + 2 + k by omega,
      readBound_shift]
    exact shifted_bind fun _ => shifted_bind fun _ => rfl

theorem readPattern_shift (t : Token) :
    readPattern (t.shift k) = Fault.shifted k id (readPattern t) := by
  unfold readPattern
  rw [Token.shift_text, Token.shift_textStart]
  dsimp only
  split <;> rfl

theorem readType_shift (classes : ClassTable) (t : Token) :
    readType classes (t.shift k) = Fault.shifted k id (readType classes t) := by
  unfold readType
  rw [Token.shift_text, Token.shift_start]
  dsimp only
  split <;> rfl

theorem readOperand_shift (classes : ClassTable) (op : Operator) (symbol : Token) (l : Lexed) :
    readOperand classes op (symbol.shift k) (l.shift k) =
      Fault.shifted k (shiftRest k) (readOperand classes op symbol l) := by
  rcases l with offset | f | ⟨t, rest⟩
  · simp only [Lexed.shift, readOperand, Token.shift_faultOffset, Token.shift_text]
    rfl
  · rfl
  have single {read : Token → Except Fault Operand}
      (hread : read (t.shift k) = Fault.shifted k id (read t)) :
      (do let rest ← (rest.shift k).ready
          return (← read (t.shift k), rest) : Except Fault (Operand × Lexed)) =
        Fault.shifted k (shiftRest k) (do
          let rest ← rest.ready
          return (← read t, rest)) := by
    rw [Lexed.ready_shift, hread]
    exact shifted_bind fun _ => shifted_bind fun _ => rfl
  have hvalue : (readValue ((Lexed.token t rest).shift k)).map (fun p => (Operand.value p.1, p.2)) =
      Fault.shifted k (shiftRest k)
        ((readValue (.token t rest)).map fun p => (Operand.value p.1, p.2)) := by
    rw [readValue_shift]
    exact shifted_map fun _ => rfl
  rw [Lexed.shift] at hvalue ⊢
  unfold readOperand
  simp only [Token.shift_kind, Token.shift_text, Token.shift_faultOffset, Token.shift_start]
  split
  · rfl
  · rfl
  · split
    · split
      · exact single (readType_shift classes t)
      · rfl
    · split
      · exact single (readRange_shift t)
      · exact hvalue
    · by_cases hc : (t.kind.isText && !hasMarker t.text) = true
      · rw [if_pos hc]; exact (if_pos hc).trans (single (readPattern_shift t))
      · rw [if_neg hc]; exact (if_neg hc).trans hvalue
    · exact hvalue

/-! ## Conditions and chains -/

theorem afterLeft_shift (classes : ClassTable) (left : Expr) (l : Lexed) :
    afterLeft classes left (l.shift k) = Fault.shifted k (shiftRest k) (afterLeft classes left l) := by
  rcases l with offset | f | ⟨⟨kind, text, start⟩, after⟩
  · rfl
  · rfl
  · cases kind with
    | operator op =>
      rw [Lexed.shift, Token.shift, afterLeft, afterLeft, Lexed.skipBlanks_shift]
      refine shifted_bind fun after => ?_
      rw [show (⟨.operator op, text, start + k⟩ : Token) = Token.shift k ⟨.operator op, text, start⟩
        from rfl, readOperand_shift]
      exact shifted_bind fun _ => rfl
    | _ => rfl

theorem readCondition_shift (classes : ClassTable) (l : Lexed) :
    readCondition classes (l.shift k) =
      Fault.shifted k (shiftRest k) (readCondition classes l) := by
  by_cases h : ∀ t rest, l = .token t rest →
      (∀ op, t.kind ≠ .operator op) ∧ ∀ c, t.kind ≠ .connective c
  · have h' : ∀ t rest, l.shift k = .token t rest →
        (∀ op, t.kind ≠ .operator op) ∧ ∀ c, t.kind ≠ .connective c := by
      rcases l with offset | f | ⟨u, rest'⟩ <;> intro t rest ht <;> cases ht
      exact h u rest' rfl
    rw [readCondition_eq classes h, readCondition_eq classes h', readValue_shift]
    refine shifted_bind fun p => ?_
    dsimp only [shiftRest]
    rw [Lexed.skipBlanks_shift]
    exact shifted_bind fun rest => afterLeft_shift classes p.1 rest
  · rcases l with offset | f | ⟨⟨kind, text, start⟩, rest⟩
    · rfl
    · rfl
    cases kind with
    | operator op =>
      simp only [readCondition, Lexed.shift]
      rw [Token.shift_faultOffset]
      rfl
    | connective c =>
      simp only [readCondition, Lexed.shift]
      rw [Token.shift_faultOffset]
      rfl
    | _ => exact absurd (by rintro _ _ ⟨rfl, rfl⟩; simp) h

theorem checkAfter_shift (connective : Token) (l : Lexed) :
    checkAfter (connective.shift k) (l.shift k) = Fault.shifted k id (checkAfter connective l) := by
  rcases l with offset | f | ⟨t, rest⟩
  · simp only [Lexed.shift, checkAfter, Token.shift_faultOffset, Token.shift_text]
    rfl
  · rfl
  · simp only [Lexed.shift, checkAfter, Token.shift_kind, Token.shift_faultOffset, Token.shift_text]
    split <;> rfl

theorem readChain_shift (classes : ClassTable) (n : Nat) (l : Lexed) :
    readChain classes n (l.shift k) = Fault.shifted k id (readChain classes n l) := by
  induction n generalizing l with
  | zero =>
    unfold readChain
    rw [readCondition_shift]
    refine shifted_bind fun p => ?_
    dsimp only [shiftRest]
    rw [Lexed.skipBlanks_shift]
    refine shifted_bind fun rest => ?_
    rcases rest with offset | f | ⟨t, rest⟩
    · rfl
    · rfl
    · exact unexpected_shift t
  | succ n ih =>
    unfold readChain
    rw [readCondition_shift]
    refine shifted_bind fun p => ?_
    dsimp only [shiftRest]
    rw [Lexed.skipBlanks_shift]
    refine shifted_bind fun rest => ?_
    rcases rest with offset | f | ⟨t, rest⟩
    · rfl
    · rfl
    simp only [Lexed.shift, Token.shift_kind]
    split
    · rw [Lexed.skipBlanks_shift]
      refine shifted_bind fun rest => ?_
      rw [checkAfter_shift, ih]
      exact shifted_bind fun _ => shifted_bind fun _ => rfl
    · exact unexpected_shift t

end RouteExpr.Predicate
