/-
What is read as a numeral is the written form of that numeral, and what is written is read back.

A numeral is made of nothing but digits, signs, a point and the letter of an exponent. So no blank is in
it, and trimming gives it back from between blanks.
-/
import RouteExpr.Number.Numeral
import RouteExpr.Text.Blank
import Mathlib.Data.List.TakeWhile

namespace RouteExpr.Numeral

variable {cs : List Char}

/-! ## Parts of numerals -/

/-- A numeral whose digits are digits. -/
structure Plain (n : Numeral) : Prop where
  whole : ∀ c ∈ n.whole, c.isDigit = true
  fraction : ∀ digits, n.fraction = some digits → ∀ c ∈ digits, c.isDigit = true
  exponent : ∀ e, n.exponent = some e → ∀ c ∈ e.digits, c.isDigit = true

/-- The point with the digits after it, as text. -/
def writeFraction : Option (List Char) → List Char
  | none => []
  | some digits => '.' :: digits

/-- The exponent, if there is one, as text. -/
def writeTail : Option Exponent → List Char
  | none => []
  | some e => writeExponent e

theorem write_eq (n : Numeral) :
    n.write = writeSign n.sign ++ n.whole ++ writeFraction n.fraction ++ writeTail n.exponent := by
  unfold write writeFraction writeTail
  rcases n.fraction with _ | digits <;> rcases n.exponent with _ | e <;> rfl

theorem takeSign_write (cs : List Char) : writeSign (takeSign cs).1 ++ (takeSign cs).2 = cs := by
  unfold takeSign
  split <;> rfl

/-- Where a point comes first, it is taken with the digits behind it. -/
theorem takeFraction_cases (cs : List Char) :
    (∃ rest, cs = '.' :: rest ∧
      takeFraction cs = (some (rest.takeWhile Char.isDigit), rest.dropWhile Char.isDigit)) ∨
    takeFraction cs = (none, cs) := by
  unfold takeFraction
  split
  · exact .inl ⟨_, rfl, rfl⟩
  · exact .inr rfl

theorem takeFraction_write (cs : List Char) :
    writeFraction (takeFraction cs).1 ++ (takeFraction cs).2 = cs := by
  rcases takeFraction_cases cs with ⟨rest, rfl, h⟩ | h
  · rw [h, writeFraction, List.cons_append, List.takeWhile_append_dropWhile]
  · rw [h]; rfl

theorem isDigit_takeFraction {digits : List Char} (h : (takeFraction cs).1 = some digits) :
    ∀ c ∈ digits, c.isDigit = true := by
  rcases takeFraction_cases cs with ⟨rest, -, hf⟩ | hf <;> rw [hf] at h <;> cases h
  exact fun c hc => List.mem_takeWhile_imp hc

theorem readExponent?_eq_some {upper : Bool} {e : Exponent} (h : readExponent? upper cs = some e) :
    cs = writeSign e.sign ++ e.digits ∧ e.upper = upper ∧ ∀ c ∈ e.digits, c.isDigit = true := by
  have hsign := takeSign_write cs
  unfold readExponent? at h
  dsimp only at h
  split at h
  · cases h
  · rename_i hd
    cases h
    simp only [Bool.or_eq_true, Bool.not_eq_true', not_or, Bool.not_eq_false] at hd
    exact ⟨hsign.symm, rfl, fun c hc => List.all_eq_true.1 hd.2 c hc⟩

theorem readTail?_eq_some {e : Option Exponent} (h : readTail? cs = some e) :
    cs = writeTail e ∧ ∀ e', e = some e' → ∀ c ∈ e'.digits, c.isDigit = true := by
  have letter {c : Char} {upper : Bool} {rest : List Char}
      (hc : c = if upper then 'E' else 'e')
      (h : (readExponent? upper rest).map some = some e) :
      c :: rest = writeTail e ∧ ∀ e', e = some e' → ∀ c ∈ e'.digits, c.isDigit = true := by
    obtain ⟨e', he, rfl⟩ := Option.map_eq_some_iff.1 h
    obtain ⟨rfl, hu, hd⟩ := readExponent?_eq_some he
    refine ⟨by rw [writeTail, writeExponent, hu, hc], ?_⟩
    rintro _ ⟨⟩
    exact hd
  unfold readTail? at h
  split at h
  · cases h
    exact ⟨rfl, nofun⟩
  · exact letter rfl h
  · exact letter rfl h
  · cases h

/-! ## Whole numerals -/

/-- A text that is read as a numeral is the written form of it. -/
theorem read?_eq_some {n : Numeral} (h : read? cs = some n) : cs = n.write ∧ n.Plain := by
  have hsign := takeSign_write cs
  have hwhole := List.takeWhile_append_dropWhile (p := Char.isDigit) (l := (takeSign cs).2)
  have hfraction := takeFraction_write ((takeSign cs).2.dropWhile Char.isDigit)
  unfold read? at h
  dsimp only at h
  split at h
  · cases h
  · obtain ⟨e, he, rfl⟩ := Option.map_eq_some_iff.1 h
    obtain ⟨htail, hdigits⟩ := readTail?_eq_some he
    refine ⟨?_, fun c hc => List.mem_takeWhile_imp hc, fun digits hd => isDigit_takeFraction hd,
      hdigits⟩
    rw [write_eq]
    dsimp only
    rw [← htail, List.append_assoc, hfraction, List.append_assoc, hwhole, hsign]

/-- The characters that numerals are made of. -/
def IsMark (c : Char) : Prop :=
  c.isDigit = true ∨ c = '+' ∨ c = '-' ∨ c = '.' ∨ c = 'e' ∨ c = 'E'

instance (c : Char) : Decidable (IsMark c) :=
  inferInstanceAs (Decidable (_ ∨ _))

theorem isMark_writeSign {s : Option Sign} : ∀ c ∈ writeSign s, IsMark c := by
  rcases s with _ | _ | _ <;> simp [writeSign, Sign.toChar, IsMark]

theorem isMark_write {n : Numeral} (h : n.Plain) : ∀ c ∈ n.write, IsMark c := by
  intro c hc
  rw [write_eq, List.mem_append, List.mem_append, List.mem_append] at hc
  rcases hc with ((hc | hc) | hc) | hc
  · exact isMark_writeSign c hc
  · exact .inl (h.whole c hc)
  · rcases hf : n.fraction with _ | digits <;> rw [hf] at hc
    · cases hc
    · rcases List.mem_cons.1 hc with rfl | hc
      · simp [IsMark]
      · exact .inl (h.fraction digits hf c hc)
  · rcases he : n.exponent with _ | e <;> rw [he] at hc
    · cases hc
    · rcases List.mem_cons.1 hc with rfl | hc
      · split <;> simp [IsMark]
      · rcases List.mem_append.1 hc with hc | hc
        · exact isMark_writeSign c hc
        · exact .inl (h.exponent e he c hc)

/-- A numeral has no character but those. -/
theorem isMark_of_read? {n : Numeral} (h : read? cs = some n) : ∀ c ∈ cs, IsMark c := by
  obtain ⟨rfl, hp⟩ := read?_eq_some h
  exact isMark_write hp

/-- A numeral has at most one point. -/
theorem count_point_le {n : Numeral} (h : read? cs = some n) : cs.count '.' ≤ 1 := by
  obtain ⟨rfl, hp⟩ := read?_eq_some h
  have digits {ds : List Char} (hd : ∀ c ∈ ds, c.isDigit = true) : ds.count '.' = 0 :=
    List.count_eq_zero.2 fun hmem => absurd (hd '.' hmem) (by decide)
  have sign (s : Option Sign) : (writeSign s).count '.' = 0 := by
    rcases s with _ | _ | _ <;> rfl
  have hfraction : (writeFraction n.fraction).count '.' ≤ 1 := by
    cases hf : n.fraction with
    | none => exact Nat.zero_le 1
    | some ds => rw [writeFraction, List.count_cons_self, digits (hp.fraction ds hf)]
  have htail : (writeTail n.exponent).count '.' = 0 := by
    cases he : n.exponent with
    | none => rfl
    | some e =>
      have hletter : (if e.upper then 'E' else 'e') ≠ '.' := by split <;> decide
      rw [writeTail, writeExponent, List.count_cons_of_ne hletter, List.count_append, sign,
        digits (hp.exponent e he)]
  rw [write_eq, List.count_append, List.count_append, List.count_append, sign, digits hp.whole, htail]
  omega

/-! ## Reading written numerals -/

/-- A numeral with a digit beside the point, and one in its exponent. -/
structure WellFormed (n : Numeral) : Prop extends n.Plain where
  digits_ne : n.whole ++ n.fraction.getD [] ≠ []
  exponent_ne : ∀ e, n.exponent = some e → e.digits ≠ []

/-- Digits are taken up to what is none. -/
theorem takeWhile_digits {digits rest : List Char} (hd : ∀ c ∈ digits, c.isDigit = true)
    (hr : ∀ c ∈ rest.head?, c.isDigit = false) :
    (digits ++ rest).takeWhile Char.isDigit = digits ∧
      (digits ++ rest).dropWhile Char.isDigit = rest := by
  rw [List.takeWhile_append_of_pos hd, List.dropWhile_append_of_pos hd]
  cases rest with
  | nil => simp
  | cons c rest => simp [hr c rfl]

/-- A sign is taken from in front of what starts with none. -/
theorem takeSign_writeSign {s : Option Sign} (h : ∀ c ∈ cs.head?, c ≠ '+' ∧ c ≠ '-') :
    takeSign (writeSign s ++ cs) = (s, cs) := by
  rcases s with _ | _ | _
  · cases cs with
    | nil => rfl
    | cons c cs =>
      obtain ⟨hplus, hminus⟩ := h c rfl
      simp [writeSign, takeSign, hplus, hminus]
  · rfl
  · rfl

/-- Digits do not start with a sign. -/
theorem head_ne_sign (h : ∀ c ∈ cs, c.isDigit = true) : ∀ c ∈ cs.head?, c ≠ '+' ∧ c ≠ '-' := by
  intro c hc
  have hdigit := h c (List.mem_of_mem_head? hc)
  constructor <;> rintro rfl <;> cases hdigit

theorem readTail?_writeTail {e : Option Exponent}
    (hd : ∀ e', e = some e' → ∀ c ∈ e'.digits, c.isDigit = true)
    (hne : ∀ e', e = some e' → e'.digits ≠ []) : readTail? (writeTail e) = some e := by
  cases e with
  | none => rfl
  | some e =>
    obtain ⟨upper, sign, digits⟩ := e
    have hsign : takeSign (writeSign sign ++ digits) = (sign, digits) :=
      takeSign_writeSign (head_ne_sign (hd _ rfl))
    have hread : readExponent? upper (writeSign sign ++ digits) = some ⟨upper, sign, digits⟩ := by
      unfold readExponent?
      rw [hsign]
      simpa [hne _ rfl] using hd _ rfl
    cases upper <;> simp [writeTail, writeExponent, readTail?, hread]

/-- A numeral is read back from its written form. -/
theorem read?_write {n : Numeral} (h : n.WellFormed) : read? n.write = some n := by
  obtain ⟨sign, whole, fraction, exponent⟩ := n
  have htail : ∀ c ∈ (writeTail exponent).head?, c.isDigit = false := by
    rcases exponent with _ | ⟨_ | _, _, _⟩ <;> rintro _ ⟨⟩ <;> rfl
  have hpoint : ∀ c ∈ (writeFraction fraction ++ writeTail exponent).head?, c.isDigit = false := by
    cases fraction with
    | none => exact htail
    | some digits => rintro _ ⟨⟩; rfl
  have hfraction : takeFraction (writeFraction fraction ++ writeTail exponent) =
      (fraction, writeTail exponent) := by
    cases fraction with
    | none => rcases exponent with _ | ⟨_ | _, _, _⟩ <;> rfl
    | some digits =>
      obtain ⟨htake, hdrop⟩ := takeWhile_digits (h.fraction _ rfl) htail
      simp only [writeFraction, List.cons_append, takeFraction, htake, hdrop]
  have hsign : takeSign (writeSign sign ++ (whole ++ (writeFraction fraction ++ writeTail exponent))) =
      (sign, whole ++ (writeFraction fraction ++ writeTail exponent)) := by
    refine takeSign_writeSign ?_
    cases whole with
    | cons c whole =>
      rintro _ ⟨⟩
      exact head_ne_sign h.whole c rfl
    | nil =>
      -- without digits before it there is a point
      cases fraction with
      | none => exact absurd rfl h.digits_ne
      | some digits => rintro _ ⟨⟩; decide
  obtain ⟨htake, hdrop⟩ := takeWhile_digits h.whole hpoint
  have hdigits : (whole.isEmpty && (fraction.getD []).isEmpty) = false := by
    simpa [List.isEmpty_iff] using h.digits_ne
  rw [write_eq]
  dsimp only
  rw [List.append_assoc, List.append_assoc]
  unfold read?
  rw [hsign]
  dsimp only
  rw [htake, hdrop, hfraction]
  dsimp only
  rw [hdigits, readTail?_writeTail h.exponent h.exponent_ne]
  rfl

/-! ## Numerals between blanks -/

theorem isBlank_of_isMark {c : Char} (h : IsMark c) : Text.isBlank c = false := by
  rcases h with h | rfl | rfl | rfl | rfl | rfl
  · have hrange : 48 ≤ c.toNat ∧ c.toNat ≤ 57 := by
      simpa [Char.isDigit, UInt32.le_iff_toNat_le] using h
    unfold Text.isBlank
    simp
    omega
  all_goals rfl

/-- A text with a blank in it is no numeral. -/
theorem read?_eq_none_of_blank {c : Char} (hc : c ∈ cs) (h : Text.isBlank c = true) :
    read? cs = none := by
  refine Option.eq_none_iff_forall_ne_some.2 fun n hn => ?_
  rw [isBlank_of_isMark (isMark_of_read? hn c hc)] at h
  cases h

theorem trim_read? {n : Numeral} (h : read? cs = some n) {front back : List Char}
    (hfront : Text.allBlank front = true) (hback : Text.allBlank back = true) :
    Text.trim (front ++ cs ++ back) = cs :=
  Text.trim_between hfront hback
    (fun c hc => isBlank_of_isMark (isMark_of_read? h c (List.mem_of_mem_head? hc)))
    fun c hc => isBlank_of_isMark (isMark_of_read? h c (List.mem_of_mem_getLast? hc))

theorem trim_of_read? {n : Numeral} (h : read? cs = some n) : Text.trim cs = cs := by
  have hblank : Text.allBlank [] = true := rfl
  have htrim := trim_read? h hblank hblank
  rwa [List.nil_append, List.append_nil] at htrim

end RouteExpr.Numeral
