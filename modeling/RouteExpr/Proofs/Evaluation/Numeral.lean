/-
Numbers that a predicate compares with, bare and in quotes.

A bare number is read with the predicate: as an integer of 64 bits, or else as a double. In quotes it is a
text, and is read when it is compared: as an integer of 64 bits, or else as a decimal, and as a double only
where decimals do not reach. Main statement: no comparison with a number tells the two apart exactly when the
decimal of the double is the number that the text is as a decimal.
-/
import RouteExpr.Proofs.Evaluation.Alike
import RouteExpr.Proofs.Value.Number
import Mathlib.Data.List.TFAE
import Mathlib.Tactic.TFAE

namespace RouteExpr

namespace Value

variable {v a b : Value}

/-! ## Values of one number -/

/-- Two values that are finite doubles of one number, and one number as decimals or both none. -/
structure SameNumber (a b : Value) : Prop where
  double : ∃ x y, a.toDouble? = some x ∧ b.toDouble? = some y ∧ x.isFinite = true ∧ y.isFinite = true ∧
    x.value = y.value
  decimal : a.decimalValue? = b.decimalValue?

/-- No comparison with a finite number tells two values of one number apart. -/
theorem SameNumber.holds (h : SameNumber a b) (hv : v.IsFinite) {c : Comparison}
    (hc : c ∈ Comparison.ordered) : c.holds v a = c.holds v b := by
  obtain ⟨x, y, hx, hy, hxfinite, hyfinite, hvalue⟩ := h.double
  obtain ⟨z, hz, hzfinite⟩ := hv
  have hnumeric : numericOrder? v a = numericOrder? v b := by
    rw [numericOrder?_eq, numericOrder?_eq, decimalOrder?_eq, decimalOrder?_eq, h.decimal,
      doubleOrder?_eq hz hx hzfinite hxfinite, doubleOrder?_eq hz hy hzfinite hyfinite, hvalue]
  obtain ⟨o, ho, hn⟩ := IsFinite.exists_order? ⟨z, hz, hzfinite⟩ ⟨x, hx, hxfinite⟩
  obtain ⟨o', ho', hn'⟩ := IsFinite.exists_order? ⟨z, hz, hzfinite⟩ ⟨y, hy, hyfinite⟩
  refine (Comparison.holds_eq_iff ho ho').2 ?_ c hc
  exact Option.some.inj (hn.symm.trans (hnumeric.trans hn'))

/-- The text of an integer at the edge of the decimals reads as that decimal, and as a double beyond it. -/
theorem readings_edge {i : Int} (hi : i ∈ Decimal.edge) :
    (plain (writeInt i)).toDouble? = some (Double.ofInt i) ∧
      (plain (writeInt i)).decimalValue? = some (i : ℚ) := by
  have hroom : ∀ i ∈ Decimal.edge, i.natAbs < 0x1000000000000000000000000 := by decide
  refine ⟨?_, ?_⟩
  · rw [toDouble?_plain (read?_writeInt i), ofNumeral_ofInt, if_pos (Double.value_edge hi).1]
  · obtain ⟨d, hd, hvalue⟩ := Decimal.read?_writeInt (hroom i hi)
    unfold decimalValue?
    rw [toDecimal?_plain, hd, Option.map_some, hvalue]

/-- An integer, or a text that is a numeral. -/
inductive Numeric : Value → Prop
  | integer (i : Int64) : Numeric (integer i)
  | numeral {cs : List Char} (h : isNumeral cs = true) : Numeric (plain cs)

end Value

namespace Predicate

open Value

variable {word : List Char} {e : Expr} {w v : Value}

/-! ## Bare numbers as values -/

/-- A number is an integer that its text is read as, or the double of its text. -/
theorem readNumber?_value (h : readNumber? word = some e) (hw : ∀ ctx, e.evaluate ctx = .ok w) :
    ∃ n, Numeral.read? word = some n ∧ (Double.ofNumeral n).isFinite = true ∧
      ((∃ i, readInt64? word = some i ∧ n.integer? = some i.toInt ∧ w = .integer i) ∨
        readInt64? word = none ∧ w = .float (Double.ofNumeral n)) := by
  have hvalue := hw (.constant .null)
  unfold readNumber? at h
  split at h
  · rename_i i hi
    cases h
    rw [Expr.evaluate] at hvalue
    obtain ⟨n, hn, hinteger⟩ := readInt64?_eq_some hi
    obtain ⟨m, hm, hfinite⟩ := isFinite_of_readInt64? hi
    cases hn.symm.trans hm
    exact ⟨n, hn, hfinite, .inl ⟨i, hi, hinteger, (Except.ok.inj hvalue).symm⟩⟩
  · rename_i hi
    obtain ⟨n, hn, h⟩ := Option.bind_eq_some_iff.1 h
    dsimp only at h
    split at h
    · rename_i hfinite
      cases h
      rw [Expr.evaluate] at hvalue
      exact ⟨n, hn, hfinite, .inr ⟨hi, (Except.ok.inj hvalue).symm⟩⟩
    · cases h

variable (h : readNumber? word = some e) (hw : ∀ ctx, e.evaluate ctx = .ok w)
include h hw

/-- A number and its text are finite doubles of one number. -/
theorem double_of_readNumber? : ∃ x y, w.toDouble? = some x ∧ (plain word).toDouble? = some y ∧
    x.isFinite = true ∧ y.isFinite = true ∧ x.value = y.value := by
  obtain ⟨n, hn, hfinite, hcases⟩ := readNumber?_value h hw
  have htext := toDouble?_plain hn
  rw [if_pos hfinite] at htext
  rcases hcases with ⟨i, -, hinteger, rfl⟩ | ⟨-, rfl⟩
  · obtain ⟨x, hx, hxfinite⟩ := isFinite_integer i
    cases hx
    exact ⟨_, _, rfl, htext, hxfinite, hfinite, (Double.value_ofNumeral hinteger).symm⟩
  · exact ⟨_, _, rfl, htext, hfinite, hfinite, rfl⟩

/-- A number and its text are one number as decimals or both none, unless the text is a decimal for which
the number is a double. -/
theorem decimal_of_readNumber? : w.decimalValue? = (plain word).decimalValue? ∨
    ∃ d x, (plain word).toDecimal? = some d ∧ w = .float x ∧ x.isFinite = true := by
  obtain ⟨n, hn, hfinite, ⟨i, hi, -, rfl⟩ | ⟨hi, rfl⟩⟩ := readNumber?_value h hw
  · left
    unfold decimalValue?
    rw [toDecimal?_plain, Decimal.read?, hi]
    rfl
  · cases hd : Decimal.ofNumeral? n with
    | some d =>
      refine .inr ⟨d, _, ?_, rfl, hfinite⟩
      rw [toDecimal?_plain, Decimal.read?, hi, hn, Option.bind_some, hd]
    | none =>
      left
      unfold decimalValue?
      rw [toDecimal?_plain, Decimal.read?, hi, hn, Option.bind_some, hd]
      rfl

/-- Where no comparison with a number tells a number from its text, they are one number as decimals. -/
theorem decimal_of_holds (hsame : ∀ v : Value, v.Numeric → v.IsFinite →
    ∀ c ∈ Comparison.ordered, c.holds v w = c.holds v (plain word)) :
    w.decimalValue? = (plain word).decimalValue? := by
  obtain ⟨x, y, hx, hy, hxfinite, hyfinite, -⟩ := double_of_readNumber? h hw
  have hnumeral : isNumeral word = true := by
    obtain ⟨-, n, hn⟩ := readNumber?_eq_some h
    exact Option.isSome_iff_exists.2 ⟨n, hn⟩
  have horder {v : Value} (hv : v.Numeric) (hfinite : v.IsFinite) :
      numericOrder? v w = numericOrder? v (plain word) := by
    obtain ⟨o, ho, hn⟩ := hfinite.exists_order? ⟨x, hx, hxfinite⟩
    obtain ⟨o', ho', hn'⟩ := hfinite.exists_order? ⟨y, hy, hyfinite⟩
    rw [hn, hn', (Comparison.holds_eq_iff ho ho').1 (hsame v hv hfinite)]
  rcases decimal_of_readNumber? h hw with heq | ⟨d, z, hd, rfl, hzfinite⟩
  · exact heq
  have hd : (plain word).decimalValue? = some d.value := congrArg _ hd
  cases hd' : Decimal.ofDouble? z with
  | some d' =>
    -- against its own text the number is equal
    have hd' : (float z).decimalValue? = some d'.value := congrArg _ hd'
    have hself := horder (.numeral hnumeral) ⟨y, hy, hyfinite⟩
    rw [numericOrder?_of_decimalValue? hd hd', numericOrder?_of_decimalValue? hd hd, Option.some.injEq,
      compare_eq_iff_eq.2 rfl, compare_eq_iff_eq] at hself
    rw [hd, hd', hself]
  | none =>
    -- against some integer at the edge of the decimals it is not where its text is
    obtain ⟨i, hi, hne⟩ := Decimal.exists_edge d.abs_value_le
      (Decimal.le_abs_of_ofDouble?_eq_none hzfinite hd')
    have hd' : (float z).decimalValue? = none := congrArg _ hd'
    obtain ⟨hdouble, hdecimal⟩ := readings_edge hi
    have hedge := horder (.numeral (Option.isSome_iff_exists.2 ⟨_, read?_writeInt i⟩))
      ⟨_, hdouble, (Double.value_edge hi).1⟩
    rw [numericOrder?_of_decimalValue? hdecimal hd, numericOrder?_eq, decimalOrder?_eq, hdecimal, hd',
      doubleOrder?_eq hdouble rfl (Double.value_edge hi).1 hzfinite] at hedge
    exact absurd (Option.some.inj hedge).symm hne

/-- A text is equal to its number unless both are decimals and not one number. -/
theorem equal_holds_iff : Comparison.equal.holds (plain word) w = .ok true ↔
    ∀ x y, (plain word).decimalValue? = some x → w.decimalValue? = some y → x = y := by
  obtain ⟨a, b, ha, hb, hafinite, hbfinite, hvalue⟩ := double_of_readNumber? h hw
  obtain ⟨o, ho, hnumeric⟩ := IsFinite.exists_order? ⟨b, hb, hbfinite⟩ ⟨a, ha, hafinite⟩
  rw [Comparison.holds_of_order? (by decide) ho, Except.ok.injEq, Comparison.asks, beq_iff_eq]
  rw [numericOrder?_eq, decimalOrder?_eq, doubleOrder?_eq hb ha hbfinite hafinite, hvalue,
    compare_eq_iff_eq.2 rfl] at hnumeric
  cases hx : (plain word).decimalValue? with
  | none =>
    rw [hx] at hnumeric
    exact ⟨fun _ x _ hnone => absurd hnone.symm (Option.some_ne_none x),
      fun _ => (Option.some.inj hnumeric).symm⟩
  | some x =>
    cases hy : w.decimalValue? with
    | none =>
      rw [hx, hy] at hnumeric
      exact ⟨fun _ _ y _ hnone => absurd hnone.symm (Option.some_ne_none y),
        fun _ => (Option.some.inj hnumeric).symm⟩
    | some y =>
      rw [hx, hy] at hnumeric
      have horder : compare x y = o := Option.some.inj hnumeric
      rw [← horder, compare_eq_iff_eq]
      refine ⟨fun heq x' y' hx' hy' => ?_, fun heq => heq x y rfl rfl⟩
      rw [← Option.some.inj hx', ← Option.some.inj hy', heq]

omit h hw

/-! ## Operands that are numbers -/

variable {classes : ClassTable} {ctx : Context} {left : Expr} {op : Operator}

theorem evaluate_value (hleft : left.evaluate ctx = .ok v) (hright : e.evaluate ctx = .ok w) :
    (comparison left op (.value e)).evaluate ctx =
      (op.comparison.holds v w).map (· != op.negated) := by
  rw [evaluate, hleft, ok_bind, compareWith, hright, ok_bind]
  cases op.comparison.holds v w <;> rfl

/-- In a comparison with a finite number, an expression is as good as another of one number with it. -/
theorem evaluate_sameNumber {a b : Value} {e' : Expr} (h : SameNumber a b) (he : e.evaluate ctx = .ok a)
    (he' : e'.evaluate ctx = .ok b) (hc : op.comparison ∈ Comparison.ordered)
    (hfinite : ∀ v, left.evaluate ctx = .ok v → v.IsFinite) :
    (comparison left op (.value e)).evaluate ctx = (comparison left op (.value e')).evaluate ctx := by
  cases hv : left.evaluate ctx with
  | error err => rw [evaluate, evaluate, hv]; rfl
  | ok v => rw [evaluate_value hv he, evaluate_value hv he', h.holds (hfinite v hv) hc]

/-- Each of equality and the orderings has a symbol. -/
theorem spells_ordered {c : Comparison} (hc : c ∈ Comparison.ordered) :
    ∃ o, Operator.Spells ⟨c, false⟩ o := by
  simp only [Comparison.ordered, List.mem_cons, List.not_mem_nil, or_false] at hc
  rcases hc with rfl | rfl | rfl | rfl | rfl
  · exact ⟨_, .symbol (s := "==") (by simp [Lexer.symbols])⟩
  · exact ⟨_, .symbol (s := "<") (by simp [Lexer.symbols])⟩
  · exact ⟨_, .symbol (s := "<=") (by simp [Lexer.symbols])⟩
  · exact ⟨_, .symbol (s := ">") (by simp [Lexer.symbols])⟩
  · exact ⟨_, .symbol (s := ">=") (by simp [Lexer.symbols])⟩

theorem read_placeholder : read .empty ['$', '\x7b', 'x', '\x7d'] =
    .ok (alone (.property (.literal "x"))) := by
  cbv

/-- Where every property has one value, a property has that value unless its name is that of a method. -/
theorem evaluate_constant {path : String} (hpath : isHostName (Text.trimmed path) = false) (v : Value) :
    (Expr.property (.literal path)).evaluate (.constant v) = .ok v := by
  have htext : (Value.string path).text = path := rfl
  rw [Expr.evaluate, Expr.evaluate, ok_bind]
  dsimp only
  rw [htext, hpath]
  rfl

theorem evaluate_placeholder (v : Value) :
    (Expr.property (.literal "x")).evaluate (.constant v) = .ok v :=
  evaluate_constant (by cbv) v

/-- Behind equality and the orderings a number means the same bare and in quotes, whatever finite number it
is compared with, exactly when it does to integers and to texts that are numerals, and exactly when its text
and its double are one number as decimals. An integer of 64 bits always does. And a text is equal to its
number unless both are decimals and not one number. -/
theorem number_operand_tfae (h : readNumber? word = some e) (hw : ∀ ctx, e.evaluate ctx = .ok w) :
    List.TFAE [
      ∀ classes cs left op o (q : Quote), read classes cs = .ok (alone left) →
        Text.allBlank cs = false → Operator.Spells op o → op.comparison ∈ Comparison.ordered →
        ∃ p p', read classes (cs ++ [' '] ++ o ++ [' '] ++ word) = .ok p ∧
          read classes (cs ++ [' '] ++ o ++ [' '] ++ [q.toChar] ++ word ++ [q.toChar]) = .ok p' ∧
          ∀ ctx, (∀ v, left.evaluate ctx = .ok v → v.IsFinite) → p.evaluate ctx = p'.evaluate ctx,
      ∀ v : Value, v.Numeric → v.IsFinite →
        ∀ c ∈ Comparison.ordered, c.holds v w = c.holds v (plain word),
      w.decimalValue? = (plain word).decimalValue?] ∧
    (∀ i, w = .integer i → w.decimalValue? = (plain word).decimalValue?) ∧
    (Comparison.equal.holds (plain word) w = .ok true ↔
      ∀ x y, (plain word).decimalValue? = some x → w.decimalValue? = some y → x = y) := by
  have htext (ctx : Context) : (Expr.literal (String.ofList word)).evaluate ctx = .ok (plain word) := by
    rw [Expr.evaluate]
    rfl
  have hvalues : ∀ c ∈ Comparison.ordered, c ∉ [Comparison.type, .regex, .range] := by decide
  refine ⟨?_, fun i hi => ?_, equal_holds_iff h hw⟩
  · tfae_have 1 → 2 := by
      intro hread v hnumeric hfinite c hc
      obtain ⟨o, ho⟩ := spells_ordered hc
      obtain ⟨hbare, hquoted⟩ := read_number_operand read_placeholder rfl ho (hvalues c hc) h .single
      obtain ⟨p, p', hp, hp', hsame⟩ := hread _ _ _ _ _ .single read_placeholder rfl ho hc
      cases hbare.symm.trans hp
      cases hquoted.symm.trans hp'
      have heq := hsame (.constant v) fun u hu => by
        cases (evaluate_placeholder v).symm.trans hu
        exact hfinite
      rw [evaluate_value (evaluate_placeholder v) (hw _),
        evaluate_value (evaluate_placeholder v) (htext _)] at heq
      revert heq
      cases c.holds v w <;> cases c.holds v (plain word) <;> simp [Except.map]
    tfae_have 2 → 3 := decimal_of_holds h hw
    tfae_have 3 → 1 := by
      intro hdecimal classes cs left op o q hleft hb ho hc
      obtain ⟨hbare, hquoted⟩ := read_number_operand hleft hb ho (hvalues _ hc) h q
      have hsame : SameNumber w (plain word) := ⟨double_of_readNumber? h hw, hdecimal⟩
      exact ⟨_, _, hbare, hquoted, fun ctx => evaluate_sameNumber hsame (hw ctx) (htext ctx) hc⟩
    tfae_finish
  · subst hi
    rcases decimal_of_readNumber? h hw with heq | ⟨_, _, -, hfloat, -⟩
    · exact heq
    · cases hfloat

/-- A half is one number bare and in quotes. -/
theorem number_operand_tfae_half :
    ∃ p p', read .empty ['$', '\x7b', 'x', '\x7d', ' ', '<', '=', ' ', '0', '.', '5'] = .ok p ∧
      read .empty ['$', '\x7b', 'x', '\x7d', ' ', '<', '=', ' ', '\'', '0', '.', '5', '\''] = .ok p' ∧
      ∀ ctx, (∀ v, (Expr.property (.literal "x")).evaluate ctx = .ok v → v.IsFinite) →
        p.evaluate ctx = p'.evaluate ctx := by
  have h : readNumber? ['0', '.', '5'] =
      some (.float (Double.ofNumeral ⟨none, ['0'], some ['5'], none⟩)) :=
    readNumber?_float (by decide +kernel) (by decide +kernel) (by decide +kernel)
  have hw (x : Double) (ctx : Context) : (Expr.float x).evaluate ctx = .ok (.float x) := by
    rw [Expr.evaluate]
  have hdecimal : (Value.float (Double.ofNumeral ⟨none, ['0'], some ['5'], none⟩)).toDecimal? =
      (plain ['0', '.', '5']).toDecimal? := by decide +kernel
  have hdecimal := congrArg (Option.map Decimal.value) hdecimal
  have hall := ((number_operand_tfae h (hw _)).1.out 2 0).1 hdecimal
  have ho : Operator.Spells ⟨.lessEqual, false⟩ ['<', '='] :=
    .symbol (s := "<=") (by simp [Lexer.symbols])
  exact hall _ _ _ _ _ .single read_placeholder rfl ho (by decide)

/-- A bare integer beyond 64 bits is not equal to its own digits: it is read as the double nearest to it. In
quotes it is. -/
theorem read_bare_integer_unequal :
    let digits := "12345678901234567890".toList
    ∃ p p', read .empty (['$', '\x7b', 'x', '\x7d', ' ', '=', '=', ' '] ++ digits) = .ok p ∧
      read .empty (['$', '\x7b', 'x', '\x7d', ' ', '=', '=', ' ', '\''] ++ digits ++ ['\'']) = .ok p' ∧
      p.evaluate (.constant (plain digits)) = .ok false ∧
      p'.evaluate (.constant (plain digits)) = .ok true := by
  intro digits
  have h : readNumber? digits = some (.float (Double.ofNumeral ⟨none, digits, none, none⟩)) :=
    readNumber?_float (by decide +kernel) (by decide +kernel) (by decide +kernel)
  have ho : Operator.Spells ⟨.equal, false⟩ ['=', '='] := .symbol (s := "==") (by simp [Lexer.symbols])
  obtain ⟨hbare, hquoted⟩ := read_number_operand read_placeholder rfl ho (by decide) h .single
  refine ⟨_, _, hbare, hquoted, ?_, ?_⟩
  · rw [evaluate_value (evaluate_placeholder _) (by rw [Expr.evaluate])]
    decide +kernel
  · rw [evaluate_value (evaluate_placeholder _) (by rw [Expr.evaluate])]
    decide +kernel

end Predicate

end RouteExpr
