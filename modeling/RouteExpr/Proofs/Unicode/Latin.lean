/-
The capital letters of the Latin alphabet in the tables for case.

A table is a text of words, and these letters are decided by its first words. So the tables are read
up to there and no further.
-/
import RouteExpr.Unicode.Case
import Mathlib.Tactic

namespace RouteExpr

/-! ## Parts of a text -/

theorem Text.splitOn_ne_nil (mark : Char) (cs : List Char) : splitOn mark cs ≠ [] := by
  cases cs with
  | nil => simp [splitOn]
  | cons c cs =>
    rw [splitOn]
    split
    · simp
    · split <;> simp

/-- A part goes up to the first mark. -/
theorem Text.splitOn_append {mark : Char} {part : List Char} (h : mark ∉ part) (rest : List Char) :
    splitOn mark (part ++ mark :: rest) = part :: splitOn mark rest := by
  obtain ⟨first, others, hrest⟩ := List.exists_cons_of_ne_nil (splitOn_ne_nil mark rest)
  induction part with
  | nil => simp [splitOn, hrest]
  | cons c part ih =>
    rw [List.mem_cons, not_or] at h
    simp [splitOn, ih h.2, Ne.symm h.1]

namespace Unicode

/-! ## The first words of a table -/

theorem words_append {text more : String} (word : List Char) {rest : List Char}
    (h : text.toList = word ++ ' ' :: rest) (hword : ' ' ∉ word ∧ word ≠ []) :
    words (text ++ more) = word :: words (String.ofList rest ++ more) := by
  simp only [words, String.toList_append, String.toList_ofList, h, List.append_assoc,
    List.cons_append]
  rw [Text.splitOn_append hword.1, List.filter_cons_of_pos (by simp [hword.2])]

theorem decodeFrom_cons {next : Nat} {word : List Char} {rest : List (List Char)} (low high : Nat)
    (h : splitNumbers '-' 0 word = (low - next, high - low)) (hlow : next ≤ low)
    (hhigh : low ≤ high) :
    Ranges.decodeFrom next (word :: rest) = (low, high) :: Ranges.decodeFrom (high + 1) rest := by
  rw [Ranges.decodeFrom, h]
  dsimp only
  rw [Nat.add_sub_cancel' hlow, Nat.add_sub_cancel' hhigh]

theorem casedCharacters_eq : ∃ rest, casedCharacters = (0x41, 0x5a) :: rest := by
  unfold casedCharacters Ranges.decode
  simp only [String.append_assoc]
  rw [words_append "41-19".toList (by simp; rfl) (by decide),
    decodeFrom_cons 0x41 0x5a (by decide) (by decide) (by decide)]
  exact ⟨_, rfl⟩

theorem caseIgnoredCharacters_eq : ∃ rest, caseIgnoredCharacters =
    (0x27, 0x27) :: (0x2e, 0x2e) :: (0x3a, 0x3a) :: (0x5e, 0x5e) :: rest := by
  unfold caseIgnoredCharacters Ranges.decode
  simp only [String.append_assoc]
  rw [words_append "27".toList (by simp; rfl) (by decide),
    words_append "6".toList (by simp; rfl) (by decide),
    words_append "b".toList (by simp; rfl) (by decide),
    words_append "23".toList (by simp; rfl) (by decide),
    decodeFrom_cons 0x27 0x27 (by decide) (by decide) (by decide),
    decodeFrom_cons 0x2e 0x2e (by decide) (by decide) (by decide),
    decodeFrom_cons 0x3a 0x3a (by decide) (by decide) (by decide),
    decodeFrom_cons 0x5e 0x5e (by decide) (by decide) (by decide)]
  exact ⟨_, rfl⟩

theorem lowercaseShifts_eq : ∃ rest, lowercaseShifts = ⟨0x41, 0x1a, 1, 0x20⟩ :: rest := by
  unfold lowercaseShifts Shift.decode
  simp only [String.append_assoc]
  rw [words_append "41*1a+20".toList (by simp; rfl) (by decide), List.map_cons,
    show Shift.ofWord "41*1a+20".toList = ⟨0x41, 0x1a, 1, 0x20⟩ by decide]
  exact ⟨_, rfl⟩

/-! ## Capital letters -/

/-- Whether a character is a capital letter of the Latin alphabet. -/
def IsLatinCapital (c : Char) : Prop :=
  0x41 ≤ c.toNat ∧ c.toNat ≤ 0x5a

variable {c : Char}

theorem isCased_of_isLatinCapital (h : IsLatinCapital c) : isCased c = true := by
  obtain ⟨rest, hrest⟩ := casedCharacters_eq
  simp [isCased, hrest, Ranges.has, h.1, h.2]

theorem isCaseIgnored_of_isLatinCapital (h : IsLatinCapital c) : isCaseIgnored c = false := by
  obtain ⟨rest, hrest⟩ := caseIgnoredCharacters_eq
  obtain ⟨hlow, hhigh⟩ := h
  rw [isCaseIgnored, hrest]
  -- the first three ranges end before the letter, the fourth starts behind it
  have before {n : Nat} (hn : n < 0x41) : ¬ c.toNat ≤ n := by omega
  have behind : ¬ 0x5e ≤ c.toNat := by omega
  simp [Ranges.has, before, behind]

theorem lowercase_of_isLatinCapital (h : IsLatinCapital c) :
    lowercase c = [Char.ofNat (c.toNat + 0x20)] := by
  obtain ⟨rest, hrest⟩ := lowercaseShifts_eq
  obtain ⟨hlow, hhigh⟩ := h
  have hmoves : Shift.moves ⟨0x41, 0x1a, 1, 0x20⟩ c.toNat = true := by
    simp [Shift.moves, hlow, hhigh, Nat.mod_one]
  have hsum : ((c.toNat : Int) + 0x20).toNat = c.toNat + 0x20 := by omega
  rw [lowercase, if_neg (by omega), Shift.move, Shift.target?, hrest, List.find?_cons, hmoves]
  simp [hsum]

end Unicode

end RouteExpr
