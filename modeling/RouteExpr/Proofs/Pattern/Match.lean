/-
What a regular expression matches, as a relation between positions of a text.

The run over marks computes this relation: the positions it ends at are those that some marked
position is related to. A repetition without a limit is cut off after as many rounds as there are
positions, since a round that adds no position adds none later. Between the anchors of the text, an
expression is found where it matches from the first position to the last.
-/
import RouteExpr.Pattern.Regex
import Mathlib.Logic.Function.Iterate
import Mathlib.Order.MinMax

namespace RouteExpr.Pattern.Regex

/-! ## Matching -/

/-- A relation taken so many times in a row. -/
def Repeats (R : Nat → Nat → Prop) : Nat → Nat → Nat → Prop
  | 0, i, j => i = j
  | n + 1, i, j => ∃ k, R i k ∧ Repeats R n k j

/-- The character before a position, where this one stands before the text. -/
def charBefore (start : Option Char) (text : List Char) : Nat → Option Char
  | 0 => start
  | i + 1 => text[i]?

/-- Whether a match that begins at one position of the text may end at another. -/
def Matches (text : List Char) : Regex → Nat → Nat → Prop
  | empty, i, j => i = j
  | one set, i, j => ∃ c, text[i]? = some c ∧ set.has c = true ∧ j = i + 1
  | look l, i, j => l.holds (charBefore none text i) text[i]? = true ∧ i = j
  | group _ r, i, j => r.Matches text i j
  | seq a b, i, j => ∃ k, a.Matches text i k ∧ b.Matches text k j
  | alt a b, i, j => a.Matches text i j ∨ b.Matches text i j
  | times r least most, i, j =>
    ∃ n, least ≤ n ∧ (∀ m, most = some m → n ≤ max least m) ∧ Repeats (r.Matches text) n i j

/-- Whether the expression matches the text from its start to its end. -/
def MatchesWhole (r : Regex) (text : List Char) : Prop :=
  r.Matches text 0 text.length

variable {R : Nat → Nat → Prop} {text : List Char} {marks : Marks} {step : Marks → Marks} {n i j : Nat}

/-! ## Repeated relations -/

theorem Repeats.add {m : Nat} (hi : Repeats R n i j) {k : Nat} (hj : Repeats R m j k) :
    Repeats R (n + m) i k := by
  induction n generalizing i with
  | zero =>
    cases hi
    simpa using hj
  | succ n ih =>
    obtain ⟨l, hl, hrest⟩ := hi
    rw [Nat.succ_add]
    exact ⟨l, hl, ih hrest⟩

theorem Repeats.split {m : Nat} (h : Repeats R (n + m) i j) :
    ∃ k, Repeats R n i k ∧ Repeats R m k j := by
  induction n generalizing i with
  | zero => exact ⟨i, rfl, by simpa using h⟩
  | succ n ih =>
    rw [Nat.succ_add] at h
    obtain ⟨l, hl, hrest⟩ := h
    obtain ⟨k, hk, hj⟩ := ih hrest
    exact ⟨k, ⟨l, hl, hk⟩, hj⟩

/-- Rounds that may stand still are as good as fewer rounds. -/
theorem repeats_or_eq_iff : Repeats (fun i j => i = j ∨ R i j) n i j ↔ ∃ m ≤ n, Repeats R m i j := by
  induction n generalizing i with
  | zero =>
    constructor
    · intro h
      exact ⟨0, le_rfl, h⟩
    · rintro ⟨m, hm, h⟩
      obtain rfl : m = 0 := by omega
      exact h
  | succ n ih =>
    constructor
    · rintro ⟨k, rfl | hk, hrest⟩
      · obtain ⟨m, hm, h⟩ := ih.1 hrest
        exact ⟨m, by omega, h⟩
      · obtain ⟨m, hm, h⟩ := ih.1 hrest
        exact ⟨m + 1, by omega, k, hk, h⟩
    · rintro ⟨m, hm, h⟩
      cases m with
      | zero =>
        obtain rfl : i = j := h
        exact ⟨i, .inl rfl, ih.2 ⟨0, by omega, rfl⟩⟩
      | succ m =>
        obtain ⟨k, hk, hrest⟩ := h
        exact ⟨k, .inr hk, ih.2 ⟨m, by omega, hrest⟩⟩

/-! ## Marked positions -/

/-- Whether a position is marked. -/
def Marks.Has (marks : Marks) (i : Nat) : Prop :=
  marks[i]? = some true

theorem Marks.Has.lt (h : marks.Has i) : i < marks.length := by
  obtain ⟨hi, -⟩ := List.getElem?_eq_some_iff.1 h
  exact hi

@[simp] theorem Marks.length_or (a b : Marks) : (a.or b).length = min a.length b.length := by
  simp [Marks.or]

theorem Marks.has_or {a b : Marks} (h : a.length = b.length) : (a.or b).Has i ↔ a.Has i ∨ b.Has i := by
  unfold Marks.Has Marks.or
  rw [List.getElem?_zipWith]
  by_cases hi : i < a.length
  · rw [List.getElem?_eq_getElem hi, List.getElem?_eq_getElem (h ▸ hi)]
    simp
  · rw [List.getElem?_eq_none (not_lt.1 hi)]
    simp [h ▸ not_lt.1 hi]

/-- A step over the marks of a text takes the marked positions to those they are related to. -/
structure Computes (text : List Char) (step : Marks → Marks) (R : Nat → Nat → Prop) : Prop where
  length : ∀ marks, marks.length = text.length + 1 → (step marks).length = text.length + 1
  has : ∀ marks, marks.length = text.length + 1 →
    ∀ j, (step marks).Has j ↔ ∃ i, marks.Has i ∧ R i j

/-! ## Repeated steps -/

theorem exactly_eq_iterate : exactly step n marks = step^[n] marks := by
  induction n generalizing marks with
  | zero => rfl
  | succ n ih =>
    rw [exactly]
    split
    next h => exact (Function.iterate_fixed h (n + 1)).symm
    next => exact ih

/-- The marks with those that a step takes them to. -/
def grow (step : Marks → Marks) (marks : Marks) : Marks :=
  marks.or (step marks)

theorem upTo_eq_iterate : upTo step n marks = (grow step)^[n] marks := by
  induction n generalizing marks with
  | zero => rfl
  | succ n ih =>
    rw [upTo]
    split
    next h => exact (Function.iterate_fixed h (n + 1)).symm
    next => exact ih

theorem Computes.iterate (h : Computes text step R) (n : Nat) :
    Computes text (step^[n]) (Repeats R n) := by
  induction n with
  | zero => exact ⟨fun _ hm => hm, fun marks _ j => by simp [Repeats]⟩
  | succ n ih =>
    refine ⟨fun marks hm => ih.length _ (h.length marks hm), fun marks hm j => ?_⟩
    rw [Function.iterate_succ_apply, ih.has _ (h.length marks hm)]
    simp only [h.has marks hm, Repeats]
    constructor
    · rintro ⟨k, ⟨i, hi, hk⟩, hj⟩
      exact ⟨i, hi, k, hk, hj⟩
    · rintro ⟨i, hi, k, hk, hj⟩
      exact ⟨k, ⟨i, hi, hk⟩, hj⟩

theorem Computes.comp {step' : Marks → Marks} {R' : Nat → Nat → Prop} (h : Computes text step R)
    (h' : Computes text step' R') :
    Computes text (fun m => step' (step m)) fun i j => ∃ k, R i k ∧ R' k j := by
  refine ⟨fun marks hm => h'.length _ (h.length marks hm), fun marks hm j => ?_⟩
  simp only [h'.has _ (h.length marks hm), h.has marks hm]
  constructor
  · rintro ⟨k, ⟨i, hi, hk⟩, hj⟩
    exact ⟨i, hi, k, hk, hj⟩
  · rintro ⟨i, hi, k, hk, hj⟩
    exact ⟨k, ⟨i, hi, hk⟩, hj⟩

theorem Computes.or {step' : Marks → Marks} {R' : Nat → Nat → Prop} (h : Computes text step R)
    (h' : Computes text step' R') :
    Computes text (fun m => (step m).or (step' m)) fun i j => R i j ∨ R' i j := by
  refine ⟨fun marks hm => ?_, fun marks hm j => ?_⟩
  · rw [Marks.length_or, h.length marks hm, h'.length marks hm, min_self]
  · rw [Marks.has_or ((h.length marks hm).trans (h'.length marks hm).symm), h.has marks hm,
      h'.has marks hm, ← exists_or]
    simp only [and_or_left]

theorem computes_id (text : List Char) : Computes text (fun m => m) fun i j => i = j :=
  ⟨fun _ hm => hm, fun _ _ j => by simp⟩

theorem Computes.grow (h : Computes text step R) :
    Computes text (grow step) fun i j => i = j ∨ R i j :=
  (computes_id text).or h

theorem Computes.upTo (h : Computes text step R) (n : Nat) :
    Computes text (upTo step n) fun i j => ∃ m ≤ n, Repeats R m i j := by
  have hstep := h.grow.iterate n
  refine ⟨fun marks hm => ?_, fun marks hm j => ?_⟩
  · rw [upTo_eq_iterate]
    exact hstep.length marks hm
  · rw [upTo_eq_iterate, hstep.has marks hm]
    simp only [repeats_or_eq_iff]

/-! ## Steps until nothing is new -/

/-- Adding marks that are not there yet makes more of them. -/
theorem Marks.count_lt_count_or {a b : Marks} (hlength : a.length = b.length) (h : a.or b ≠ a) :
    a.count true < (a.or b).count true := by
  induction a generalizing b with
  | nil => cases h (by simp [Marks.or])
  | cons x xs ih =>
    obtain ⟨y, ys, rfl⟩ := List.exists_cons_of_length_eq_add_one hlength.symm
    have hrest : xs.length = ys.length := by simpa using hlength
    have hor : Marks.or (x :: xs) (y :: ys) = (x || y) :: Marks.or xs ys := rfl
    have hle : xs.count true ≤ (Marks.or xs ys).count true := by
      by_cases hxs : Marks.or xs ys = xs
      · rw [hxs]
      · exact (ih hrest hxs).le
    rw [hor] at h ⊢
    rw [List.count_cons, List.count_cons]
    cases x with
    | true =>
      have hxs : Marks.or xs ys ≠ xs := by simpa using h
      simpa using ih hrest hxs
    | false =>
      cases y with
      | true =>
        simp
        omega
      | false =>
        have hxs : Marks.or xs ys ≠ xs := by simpa using h
        simpa using ih hrest hxs

/-- After as many rounds as there are positions, nothing is new. -/
theorem Computes.grow_iterate_length (h : Computes text step R) (hm : marks.length = text.length + 1) :
    Regex.grow step ((Regex.grow step)^[text.length + 1] marks) =
      (Regex.grow step)^[text.length + 1] marks := by
  have hlength (n : Nat) : ((Regex.grow step)^[n] marks).length = text.length + 1 :=
    (h.grow.iterate n).length marks hm
  have hstep (n : Nat) : ((Regex.grow step)^[n] marks).length =
      (step ((Regex.grow step)^[n] marks)).length :=
    (hlength n).trans (h.length _ (hlength n)).symm
  have hcount (n : Nat) : Regex.grow step ((Regex.grow step)^[n] marks) = (Regex.grow step)^[n] marks ∨
      n ≤ ((Regex.grow step)^[n] marks).count true := by
    induction n with
    | zero => exact .inr (Nat.zero_le _)
    | succ n ih =>
      rw [Function.iterate_succ_apply']
      by_cases hn : Regex.grow step ((Regex.grow step)^[n] marks) = (Regex.grow step)^[n] marks
      · exact .inl (by rw [hn, hn])
      · have hlt := Marks.count_lt_count_or (hstep n) hn
        exact .inr ((ih.resolve_left hn).trans_lt hlt)
  by_contra hne
  have hle := (hcount (text.length + 1)).resolve_left hne
  have hlt := Marks.count_lt_count_or (hstep _) hne
  have hmost : List.count true ((Regex.grow step)^[text.length + 2] marks) ≤ text.length + 1 := by
    rw [← hlength (text.length + 2)]
    exact List.count_le_length
  rw [Function.iterate_succ_apply'] at hmost
  exact absurd (hle.trans_lt hlt) hmost.not_gt

theorem Computes.upTo_length (h : Computes text step R) :
    Computes text (Regex.upTo step (text.length + 1)) fun i j => ∃ m, Repeats R m i j := by
  have hcut := h.upTo (text.length + 1)
  refine ⟨hcut.length, fun marks hm j => ⟨fun hj => ?_, fun hj => ?_⟩⟩
  · obtain ⟨i, hi, m, -, hrepeats⟩ := (hcut.has marks hm j).1 hj
    exact ⟨i, hi, m, hrepeats⟩
  · obtain ⟨i, hi, m, hrepeats⟩ := hj
    have hlength := hcut.length marks hm
    have hfixed := h.grow_iterate_length hm
    rw [← upTo_eq_iterate] at hfixed
    -- the marks of the last round are closed under the relation
    have hclosed {k l : Nat} (hk : (Regex.upTo step (text.length + 1) marks).Has k) (hkl : R k l) :
        (Regex.upTo step (text.length + 1) marks).Has l := by
      rw [← hfixed, Regex.grow, Marks.has_or (hlength.trans (h.length _ hlength).symm), h.has _ hlength]
      exact .inr ⟨k, hk, hkl⟩
    have hstart : (Regex.upTo step (text.length + 1) marks).Has i :=
      (hcut.has marks hm i).2 ⟨i, hi, 0, Nat.zero_le _, rfl⟩
    clear hi
    induction m generalizing i with
    | zero =>
      obtain rfl : i = j := hrepeats
      exact hstart
    | succ m ih =>
      obtain ⟨k, hk, hrest⟩ := hrepeats
      exact ih k hrest (hclosed hstart hk)

/-! ## Steps of single expressions -/

theorem computes_advance (set : CharSet) (text : List Char) :
    Computes text (advance set text) ((one set).Matches text) := by
  refine ⟨fun marks hm => by simp [advance, hm], fun marks hm j => ?_⟩
  cases j with
  | zero => simp [advance, Marks.Has, Matches]
  | succ j =>
    simp only [advance, Marks.Has, Matches, List.getElem?_cons_succ, List.getElem?_zipWith]
    constructor
    · intro h
      cases hc : text[j]? with
      | none => simp [hc] at h
      | some c =>
        cases hmark : marks[j]? with
        | none => simp [hc, hmark] at h
        | some mark =>
          simp only [hc, hmark, Option.some.injEq, Bool.and_eq_true] at h
          exact ⟨j, h.1 ▸ hmark, c, hc, h.2, rfl⟩
    · rintro ⟨i, hi, c, hc, hset, heq⟩
      obtain rfl : j = i := by omega
      simp [hc, hi, hset]

theorem has_filterLook (l : Look) (start : Option Char) (text : List Char) {marks : Marks}
    (hm : marks.length = text.length + 1) (j : Nat) :
    Marks.Has (filterLook l start text marks) j ↔
      marks.Has j ∧ l.holds (charBefore start text j) text[j]? = true := by
  induction text generalizing start marks j with
  | nil =>
    obtain ⟨mark, rfl⟩ := List.length_eq_one_iff.1 hm
    cases j with
    | zero => simp [filterLook, Marks.Has, charBefore]
    | succ j => simp [filterLook, Marks.Has]
  | cons c cs ih =>
    obtain ⟨mark, rest, rfl⟩ := List.exists_cons_of_length_eq_add_one hm
    cases j with
    | zero => simp [filterLook, Marks.Has, charBefore]
    | succ j =>
      have hrest := ih (some c) (by simpa using hm) j
      cases j with
      | zero => simpa [filterLook, Marks.Has, charBefore] using hrest
      | succ j => simpa [filterLook, Marks.Has, charBefore] using hrest

theorem length_filterLook (l : Look) (start : Option Char) (text : List Char) {marks : Marks}
    (hm : marks.length = text.length + 1) : (filterLook l start text marks).length = text.length + 1 := by
  induction text generalizing start marks with
  | nil =>
    obtain ⟨mark, rfl⟩ := List.length_eq_one_iff.1 hm
    rfl
  | cons c cs ih =>
    obtain ⟨mark, rest, rfl⟩ := List.exists_cons_of_length_eq_add_one hm
    simpa [filterLook] using ih (some c) (by simpa using hm)

theorem computes_filterLook (l : Look) (text : List Char) :
    Computes text (filterLook l none text) ((look l).Matches text) := by
  refine ⟨fun marks hm => length_filterLook l none text hm, fun marks hm j => ?_⟩
  rw [has_filterLook l none text hm]
  simp only [Matches]
  constructor
  · rintro ⟨hj, hlook⟩
    exact ⟨j, hj, hlook, rfl⟩
  · rintro ⟨i, hi, hlook, rfl⟩
    exact ⟨hi, hlook⟩

/-! ## Runs -/

/-- So many repetitions, and then up to so many more. -/
theorem exists_repeats_iff {least most : Nat} :
    (∃ k, Repeats R least i k ∧ ∃ m ≤ most - least, Repeats R m k j) ↔
      ∃ n, least ≤ n ∧ n ≤ max least most ∧ Repeats R n i j := by
  constructor
  · rintro ⟨k, hk, m, hm, hj⟩
    exact ⟨least + m, by omega, by omega, hk.add hj⟩
  · rintro ⟨n, hleast, hmost, h⟩
    obtain ⟨m, rfl⟩ := Nat.exists_eq_add_of_le hleast
    obtain ⟨k, hk, hj⟩ := h.split
    exact ⟨k, hk, m, by omega, hj⟩

theorem exists_repeats_unlimited_iff {least : Nat} :
    (∃ k, Repeats R least i k ∧ ∃ m, Repeats R m k j) ↔ ∃ n, least ≤ n ∧ Repeats R n i j := by
  constructor
  · rintro ⟨k, hk, m, hj⟩
    exact ⟨least + m, by omega, hk.add hj⟩
  · rintro ⟨n, hleast, h⟩
    obtain ⟨m, rfl⟩ := Nat.exists_eq_add_of_le hleast
    obtain ⟨k, hk, hj⟩ := h.split
    exact ⟨k, hk, m, hj⟩

theorem computes_exactly (h : Computes text step R) (n : Nat) :
    Computes text (exactly step n) (Repeats R n) := by
  have heq : exactly step n = step^[n] := funext fun _ => exactly_eq_iterate
  exact heq ▸ h.iterate n

/-- A run takes the marked positions to those where a match from one of them may end. -/
theorem computes_run (text : List Char) (r : Regex) : Computes text (run text r) (r.Matches text) := by
  induction r with
  | empty => exact computes_id text
  | one set => exact computes_advance set text
  | look l => exact computes_filterLook l text
  | group _ r ih => exact ih
  | seq a b iha ihb => exact iha.comp ihb
  | alt a b iha ihb => exact iha.or ihb
  | times r least most ih =>
    have hexactly := computes_exactly ih least
    cases most with
    | none =>
      have hrun := hexactly.comp ih.upTo_length
      simp only [exists_repeats_unlimited_iff] at hrun
      simpa [run, Matches] using hrun
    | some most =>
      have hrun := hexactly.comp (ih.upTo (most - least))
      simp only [exists_repeats_iff] at hrun
      simpa [run, Matches] using hrun

/-! ## Searches -/

theorem Matches.le (r : Regex) (hi : i ≤ text.length) (h : r.Matches text i j) : j ≤ text.length := by
  have hrun := computes_run text r
  have hlength : (List.replicate (text.length + 1) true).length = text.length + 1 := by simp
  have hmark : Marks.Has (List.replicate (text.length + 1) true) i := by
    simpa [Marks.Has, List.getElem?_replicate] using Nat.lt_succ_of_le hi
  have hlt := ((hrun.has _ hlength j).2 ⟨i, hmark, h⟩).lt
  rw [hrun.length _ hlength] at hlt
  omega

/-- An expression is found in a text where it matches between two positions. -/
theorem occursIn_iff {r : Regex} :
    r.occursIn text = true ↔ ∃ i j, i ≤ text.length ∧ r.Matches text i j := by
  have hrun := computes_run text r
  have hlength : (List.replicate (text.length + 1) true).length = text.length + 1 := by simp
  have hmark (i : Nat) : Marks.Has (List.replicate (text.length + 1) true) i ↔ i ≤ text.length := by
    rw [Marks.Has, List.getElem?_replicate, Option.ite_none_right_eq_some, and_iff_left rfl,
      Nat.lt_succ_iff]
  have hany : r.occursIn text = true ↔
      ∃ j, Marks.Has (run text r (List.replicate (text.length + 1) true)) j := by
    simp [occursIn, Marks.Has, List.mem_iff_getElem?]
  rw [hany, exists_comm]
  simp only [hrun.has _ hlength, hmark]

/-- Between the anchors of the text, an expression is found where it matches all of it. -/
theorem occursIn_anchored_iff {r : Regex} {remembers : Bool} :
    (seq (look .textStart) (seq (group remembers r) (look .textEnd))).occursIn text = true ↔
      r.MatchesWhole text := by
  rw [occursIn_iff]
  simp only [Matches, Look.holds, MatchesWhole]
  constructor
  · rintro ⟨i, j, hi, k, ⟨hstart, rfl⟩, l, hr, hend, rfl⟩
    have hl := Matches.le r hi hr
    have hzero : i = 0 := by
      cases i with
      | zero => rfl
      | succ i => simp [charBefore, List.getElem?_eq_getElem hi] at hstart
    have hlast : l = text.length := by
      simp only [Option.isNone_iff_eq_none, List.getElem?_eq_none_iff] at hend
      omega
    rwa [hzero, hlast] at hr
  · intro hr
    exact ⟨0, text.length, Nat.zero_le _, 0, ⟨rfl, rfl⟩, text.length, hr, by simp, rfl⟩

end RouteExpr.Pattern.Regex
