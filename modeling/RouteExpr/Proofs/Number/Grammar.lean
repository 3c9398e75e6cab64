/-
The grammar of numerals, by their characters and not by a reader.

A numeral is a sign, a mantissa and an exponent, of which only the mantissa has to be there. It is an integer
where the mantissa has no point and the exponent is left out. The reader of numerals, the test that cuts a
text at the letter of its exponent, and the readers of integers and indices accept these texts and no others.
-/
import RouteExpr.Proofs.Checked.Bytes
import RouteExpr.Proofs.Number.Integer

namespace RouteExpr

namespace Numeral

/-! ## Parts of numerals by their characters -/

/-- A sign or nothing, and whether it is a minus. -/
inductive SignText : List Char → Bool → Prop
  | none : SignText [] false
  | plus : SignText ['+'] false
  | minus : SignText ['-'] true

/-- Decimal digits, at least one. -/
structure Digits (cs : List Char) : Prop where
  ne_nil : cs ≠ []
  all : ∀ c ∈ cs, c.isDigit = true

/-- Decimal digits with at most one point among them, at least one digit. -/
structure Mantissa (cs : List Char) : Prop where
  digit : ∃ c ∈ cs, c.isDigit = true
  all : ∀ c ∈ cs, c.isDigit = true ∨ c = '.'
  points : cs.count '.' ≤ 1

/-- The letter of an exponent with a sign and digits, or nothing. -/
inductive ExponentText : List Char → Prop
  | none : ExponentText []
  | some {letter : Char} {sign digits : List Char} {negative : Bool} (hletter : letter = 'e' ∨ letter = 'E')
    (hsign : SignText sign negative) (hdigits : Digits digits) : ExponentText (letter :: (sign ++ digits))

/-- The texts that are numerals. -/
inductive Grammar : List Char → Prop
  | text {sign mantissa exponent : List Char} {negative : Bool} (hsign : SignText sign negative)
    (hmantissa : Mantissa mantissa) (hexponent : ExponentText exponent) :
    Grammar (sign ++ (mantissa ++ exponent))

/-- The texts of integers, and the integers. -/
inductive IntegerGrammar : List Char → Int → Prop
  | text {sign digits : List Char} {negative : Bool} (hsign : SignText sign negative)
    (hdigits : Digits digits) :
    IntegerGrammar (sign ++ digits) (if negative then -(digitsToNat digits : Int) else digitsToNat digits)

/-- The texts of indices, and the indices: digits behind at most a plus, below the limit of 64 bits. -/
inductive IndexGrammar : List Char → Nat → Prop
  | bare {digits : List Char} (hdigits : Digits digits) (hlimit : digitsToNat digits < 2 ^ 64) :
    IndexGrammar digits (digitsToNat digits)
  | plus {digits : List Char} (hdigits : Digits digits) (hlimit : digitsToNat digits < 2 ^ 64) :
    IndexGrammar ('+' :: digits) (digitsToNat digits)

variable {cs : List Char}

theorem signText_writeSign (s : Option Sign) : SignText (writeSign s) (s = some .minus) := by
  rcases s with _ | _ | _
  · exact .none
  · exact .plus
  · exact .minus

/-- A sign is taken from in front of digits and points. -/
theorem SignText.takeSign {sign : List Char} {negative : Bool} (h : SignText sign negative)
    (hcs : ∀ c ∈ cs.head?, c ≠ '+' ∧ c ≠ '-') :
    ∃ s : Option Sign, sign = writeSign s ∧ negative = decide (s = some .minus) ∧
      Numeral.takeSign (sign ++ cs) = (s, cs) := by
  obtain ⟨s, rfl, hs⟩ : ∃ s : Option Sign, sign = writeSign s ∧ negative = decide (s = some .minus) := by
    cases h with
    | none => exact ⟨Option.none, rfl, rfl⟩
    | plus => exact ⟨some .plus, rfl, rfl⟩
    | minus => exact ⟨some .minus, rfl, rfl⟩
  exact ⟨s, rfl, hs, takeSign_writeSign hcs⟩

theorem Digits.mantissa (h : Digits cs) : Mantissa cs where
  digit := (Checked.exists_digit_iff h.all).2 h.ne_nil
  all c hc := .inl (h.all c hc)
  points := by rw [Checked.count_point h.all]; exact Nat.zero_le 1

/-- A mantissa starts with a digit or a point. -/
theorem Mantissa.head_ne_sign (h : Mantissa cs) (tail : List Char) :
    ∀ c ∈ (cs ++ tail).head?, c ≠ '+' ∧ c ≠ '-' := by
  obtain ⟨d, hd, -⟩ := h.digit
  obtain ⟨c, cs, rfl⟩ := List.exists_cons_of_ne_nil (List.ne_nil_of_mem hd)
  rintro _ ⟨⟩
  rcases h.all c List.mem_cons_self with hc | rfl
  · constructor <;> rintro rfl <;> cases hc
  · decide

/-- A mantissa has no letter in it. -/
theorem Mantissa.ne_letter (h : Mantissa cs) : ∀ c ∈ cs, c ≠ 'e' ∧ c ≠ 'E' := by
  intro c hc
  rcases h.all c hc with hd | rfl
  · constructor <;> rintro rfl <;> cases hd
  · decide

theorem isMantissa_iff_mantissa : Checked.isMantissa cs = true ↔ Mantissa cs := by
  rw [Checked.isMantissa_iff]
  exact ⟨fun ⟨hdigit, hall, hpoints⟩ => ⟨hdigit, hall, hpoints⟩, fun h => ⟨h.digit, h.all, h.points⟩⟩

theorem isExponent_iff_digits : Checked.isExponent cs = true ↔ Digits cs := by
  simp only [Checked.isExponent, Bool.and_eq_true, Bool.not_eq_true', List.isEmpty_eq_false_iff,
    List.all_eq_true]
  exact ⟨fun ⟨hne, hall⟩ => ⟨hne, hall⟩, fun h => ⟨h.ne_nil, h.all⟩⟩

/-- What ends a numeral is an exponent or nothing. -/
theorem exponentText_iff :
    ExponentText cs ↔ Checked.IsTail cs ∧ Checked.endsNumeral cs = true := by
  constructor
  · rintro (_ | ⟨hletter, hsign, hdigits⟩)
    · exact ⟨.inl rfl, rfl⟩
    · obtain ⟨s, -, -, htake⟩ := hsign.takeSign (head_ne_sign hdigits.all)
      refine ⟨.inr (Checked.startsExponent_cons.2 hletter), ?_⟩
      rw [Checked.endsNumeral, htake]
      exact isExponent_iff_digits.2 hdigits
  · rintro ⟨rfl | hstart, hends⟩
    · exact .none
    · rcases cs with _ | ⟨letter, rest⟩
      · cases hstart
      · rw [← takeSign_write rest]
        exact .some (Checked.startsExponent_cons.1 hstart) (signText_writeSign _)
          (isExponent_iff_digits.1 hends)

/-! ## Numerals that are read -/

/-- A numeral that is read has digits beside its point, and in its exponent. -/
theorem WellFormed.of_read? {n : Numeral} (h : read? cs = some n) : n.WellFormed := by
  have exponent {upper : Bool} {rest : List Char} {e e' : Exponent} (he' : some e = some e')
      (he : readExponent? upper rest = some e) : e'.digits ≠ [] := by
    cases he'
    unfold readExponent? at he
    dsimp only at he
    split at he
    · cases he
    · rename_i hd
      cases he
      simp only [Bool.or_eq_true, not_or, List.isEmpty_iff] at hd
      exact hd.1
  refine ⟨(read?_eq_some h).2, ?_, ?_⟩
  all_goals
    unfold read? at h
    dsimp only at h
    split at h
    · cases h
    rename_i hdigits
    obtain ⟨tail, htail, rfl⟩ := Option.map_eq_some_iff.1 h
  · simpa [List.isEmpty_iff] using hdigits
  · intro e he
    dsimp only at he
    subst he
    unfold readTail? at htail
    split at htail
    · cases htail
    · obtain ⟨e', he', heq⟩ := Option.map_eq_some_iff.1 htail
      exact exponent heq he'
    · obtain ⟨e', he', heq⟩ := Option.map_eq_some_iff.1 htail
      exact exponent heq he'
    · cases htail

theorem WellFormed.mantissa {n : Numeral} (h : n.WellFormed) :
    Mantissa (n.whole ++ writeFraction n.fraction) := by
  have hne := h.digits_ne
  cases hf : n.fraction with
  | none =>
    rw [hf, Option.getD_none, List.append_nil] at hne
    rw [writeFraction, List.append_nil]
    exact Digits.mantissa ⟨hne, h.whole⟩
  | some digits =>
    have hdigits := h.fraction digits hf
    rw [hf, Option.getD_some, ne_eq, List.append_eq_nil_iff, not_and_or] at hne
    have hnil : ∀ (c : Char) cs, [] = c :: cs → c.isDigit = false := by simp
    have hpoint := Checked.isMantissa_point h.whole hdigits hnil
    rw [List.append_nil] at hpoint
    exact isMantissa_iff_mantissa.1 (hpoint.2 ⟨hne, rfl⟩)

theorem WellFormed.exponentText {n : Numeral} (h : n.WellFormed) : ExponentText (writeTail n.exponent) := by
  cases he : n.exponent with
  | none => exact .none
  | some e =>
    refine .some ?_ (signText_writeSign e.sign) ⟨h.exponent_ne e he, h.exponent e he⟩
    cases e.upper
    · exact .inl rfl
    · exact .inr rfl

/-- A text is a numeral if and only if the grammar says so. -/
theorem isNumeral_iff : isNumeral cs = true ↔ Grammar cs := by
  constructor
  · intro h
    obtain ⟨n, hn⟩ := Option.isSome_iff_exists.1 h
    have hn' := WellFormed.of_read? hn
    rw [(read?_eq_some hn).1, write_eq, List.append_assoc, List.append_assoc, ← List.append_assoc n.whole]
    exact .text (signText_writeSign n.sign) hn'.mantissa hn'.exponentText
  · rintro ⟨hsign, hmantissa, hexponent⟩
    obtain ⟨s, -, -, htake⟩ := hsign.takeSign (hmantissa.head_ne_sign _)
    obtain ⟨htail, hends⟩ := exponentText_iff.1 hexponent
    rw [isNumeral, Checked.isSome_read? (congrArg Prod.snd htake) hmantissa.ne_letter htail,
      isMantissa_iff_mantissa.2 hmantissa, hends]
    rfl

/-! ## Integers that are read -/

/-- A numeral that is an integer is a sign and digits. -/
theorem eq_digits_of_integer? {n : Numeral} {i : Int} (h : read? cs = some n) (hi : n.integer? = some i) :
    cs = writeSign n.sign ++ n.whole ∧ Digits n.whole ∧
      i = if n.negative then -(digitsToNat n.whole : Int) else digitsToNat n.whole := by
  obtain ⟨hfraction, hexponent, hi⟩ := integer?_eq_some hi
  have hn := WellFormed.of_read? h
  have hne := hn.digits_ne
  rw [hfraction, Option.getD_none, List.append_nil] at hne
  refine ⟨?_, ⟨hne, hn.whole⟩, hi⟩
  rw [(read?_eq_some h).1, write_eq, hfraction, hexponent, writeFraction, writeTail, List.append_nil,
    List.append_nil]

theorem read?_digits (s : Option Sign) (h : Digits cs) :
    read? (writeSign s ++ cs) = some ⟨s, cs, none, none⟩ := by
  have hn : WellFormed ⟨s, cs, none, none⟩ :=
    ⟨⟨h.all, nofun, nofun⟩, by simpa using h.ne_nil, nofun⟩
  have hread := read?_write hn
  rwa [write_eq, writeFraction, writeTail, List.append_nil, List.append_nil] at hread

/-- A text is read as a numeral that is an integer if and only if the grammar says so. -/
theorem integer?_iff {i : Int} :
    (∃ n, read? cs = some n ∧ n.integer? = some i) ↔ IntegerGrammar cs i := by
  constructor
  · rintro ⟨n, hn, hi⟩
    obtain ⟨hcs, hdigits, rfl⟩ := eq_digits_of_integer? hn hi
    rw [hcs]
    simpa [negative] using IntegerGrammar.text (signText_writeSign n.sign) hdigits
  · rintro ⟨hsign, hdigits⟩
    obtain ⟨s, rfl, rfl, -⟩ := hsign.takeSign (head_ne_sign hdigits.all)
    exact ⟨_, read?_digits s hdigits, rfl⟩

theorem IntegerGrammar.grammar {i : Int} (h : IntegerGrammar cs i) : Grammar cs := by
  obtain ⟨n, hn, -⟩ := integer?_iff.2 h
  exact isNumeral_iff.1 (Option.isSome_iff_exists.2 ⟨n, hn⟩)

end Numeral

open Numeral (Grammar IntegerGrammar IndexGrammar Digits digitsToNat)

variable {cs : List Char}

/-- The texts of integers of 64 bits are those of integers within the range. -/
theorem readInt64?_iff {i : Int64} : readInt64? cs = some i ↔ IntegerGrammar cs i.toInt := by
  rw [← Numeral.integer?_iff]
  constructor
  · exact readInt64?_eq_some
  · rintro ⟨n, hn, hi⟩
    rw [readInt64?, hn, Option.bind_some, hi, Option.bind_some, int64?_toInt]

/-- The texts that are read as indices are those of the grammar. -/
theorem readIndex?_iff {i : Nat} : readIndex? cs = some i ↔ IndexGrammar cs i := by
  constructor
  · intro h
    obtain ⟨n, hn, h⟩ := Option.bind_eq_some_iff.1 h
    split at h
    · rename_i j hj
      obtain ⟨hcs, hdigits, hvalue⟩ := Numeral.eq_digits_of_integer? hn hj
      split at h
      · cases h
      · rename_i hrange
        cases h
        simp only [Bool.or_eq_true, decide_eq_true_eq, not_or, not_le] at hrange
        obtain ⟨hminus, hlimit⟩ := hrange
        simp only [Numeral.negative, hminus, decide_false, Bool.false_eq_true, if_false] at hvalue
        rw [hcs, Int.ofNat.inj hvalue]
        rw [Int.ofNat.inj hvalue] at hlimit
        rcases hs : n.sign with _ | _ | _
        · exact .bare hdigits hlimit
        · exact .plus hdigits hlimit
        · exact absurd hs hminus
    · cases h
  · have read (s : Option Sign) (hs : s ≠ some .minus) {digits : List Char} (hdigits : Digits digits)
        (hlimit : digitsToNat digits < 2 ^ 64) :
        readIndex? (Numeral.writeSign s ++ digits) = some (digitsToNat digits) := by
      have hinteger : Numeral.integer? ⟨s, digits, none, none⟩ = some (Int.ofNat (digitsToNat digits)) := by
        simp [Numeral.integer?, Numeral.negative, hs]
      rw [readIndex?, Numeral.read?_digits s hdigits, Option.bind_some, hinteger]
      dsimp only
      rw [if_neg (by simpa [hs] using hlimit)]
    rintro (⟨hdigits, hlimit⟩ | ⟨hdigits, hlimit⟩)
    · exact read none nofun hdigits hlimit
    · exact read (some .plus) nofun hdigits hlimit

/-- What a decimal is read from is a numeral. -/
theorem Decimal.grammar_of_read? {d : Decimal} (h : Decimal.read? cs = some d) : Grammar cs := by
  unfold Decimal.read? at h
  split at h
  · rename_i i hi
    exact (readInt64?_iff.1 hi).grammar
  · obtain ⟨n, hn, -⟩ := Option.bind_eq_some_iff.1 h
    exact Numeral.isNumeral_iff.1 (Option.isSome_iff_exists.2 ⟨n, hn⟩)

end RouteExpr
