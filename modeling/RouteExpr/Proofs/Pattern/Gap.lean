/-
The blanks and comments that a pattern may have between its parts.

What flags let be skipped is a gap at the start of a text. A gap before a character that stays is
skipped whatever follows that character. Where a text is all gap, what is put behind it either goes
on as if nothing were before it, or stands in a comment that is still open.
-/
import RouteExpr.Pattern.Reader
import Mathlib.Data.List.TakeWhile

namespace RouteExpr.Pattern

/-! ## Texts up to a character -/

/-- Up to the first element that is left, a text is taken and dropped alike whatever follows. -/
theorem takeWhile_dropWhile_eq_cons {α : Type} {p : α → Bool} {xs r : List α} {x : α}
    (h : xs.dropWhile p = x :: r) :
    xs = xs.takeWhile p ++ x :: r ∧ ∀ r', (xs.takeWhile p ++ x :: r').takeWhile p = xs.takeWhile p ∧
      (xs.takeWhile p ++ x :: r').dropWhile p = x :: r' := by
  have hx : ¬ p x = true := by
    have hhead := List.head?_dropWhile_not p xs
    rw [h] at hhead
    simpa using hhead
  have hall : ∀ y ∈ xs.takeWhile p, p y = true := fun y hy => List.mem_takeWhile_imp hy
  refine ⟨by rw [← h, List.takeWhile_append_dropWhile], fun r' => ⟨?_, ?_⟩⟩
  · rw [List.takeWhile_append_of_pos hall, List.takeWhile_cons_of_neg hx, List.append_nil]
  · rw [List.dropWhile_append_of_pos hall, List.dropWhile_cons_of_neg hx]

theorem dropWhile_eq_append_cons {α : Type} {p : α → Bool} {xs part r : List α} {x : α}
    (h : xs.dropWhile p = part ++ x :: r) :
    ∃ gap, xs = gap ++ (part ++ x :: r) ∧
      ∀ r', (gap ++ (part ++ x :: r')).dropWhile p = part ++ x :: r' := by
  cases part with
  | nil =>
    obtain ⟨hxs, hgap⟩ := takeWhile_dropWhile_eq_cons h
    exact ⟨_, hxs, fun r' => (hgap r').2⟩
  | cons y part =>
    obtain ⟨hxs, hgap⟩ := takeWhile_dropWhile_eq_cons h
    exact ⟨_, hxs, fun r' => (hgap _).2⟩

namespace Flags

variable {flags : Flags} {cs r : List Char} {c : Char}

/-! ## Texts without a gap -/

/-- The first character that is left, with any text behind it, has nothing before it to skip. -/
theorem skipComments_cons_of_eq {inside : Bool} (h : skipComments inside cs = c :: r)
    (r' : List Char) : skipComments false (c :: r') = c :: r' := by
  induction cs generalizing inside with
  | nil => cases inside <;> cases h
  | cons d ds ih =>
    cases inside with
    | true => exact ih h
    | false =>
      rw [skipComments] at h
      split at h
      next => exact ih h
      next hblank =>
        split at h
        next => exact ih h
        next hmark =>
          cases h
          rw [skipComments, if_neg hblank, if_neg hmark]

theorem skip_cons_of_eq (h : flags.skip cs = c :: r) (r' : List Char) :
    flags.skip (c :: r') = c :: r' := by
  unfold skip at h ⊢
  split at h
  next hs => rw [if_pos hs, skipComments_cons_of_eq h]
  next hs => rw [if_neg hs]

@[simp] theorem skip_skip (flags : Flags) (cs : List Char) : flags.skip (flags.skip cs) = flags.skip cs := by
  cases h : flags.skip cs with
  | nil => cases flags.spaced <;> simp [skip, skipComments]
  | cons c r => exact skip_cons_of_eq h r

/-- Only blanks and the marks of comments are skipped. -/
theorem skip_cons (hblank : Text.isBlank c = false) (hmark : c ≠ '#') (r : List Char) :
    flags.skip (c :: r) = c :: r := by
  cases h : flags.spaced <;> simp [skip, h, skipComments, hblank, hmark]

@[simp] theorem skip_nil (flags : Flags) : flags.skip [] = [] := by
  cases h : flags.spaced <;> simp [skip, h, skipComments]

/-! ## Gaps -/

theorem skipComments_eq_cons {inside : Bool} (h : skipComments inside cs = c :: r) :
    ∃ gap, cs = gap ++ c :: r ∧ ∀ r', skipComments inside (gap ++ c :: r') = c :: r' := by
  induction cs generalizing inside with
  | nil => cases inside <;> cases h
  | cons d ds ih =>
    -- a character that is skipped joins the gap, and what is left has one by induction
    have hjoin {inside' : Bool} (hd : ∀ ds, skipComments inside (d :: ds) = skipComments inside' ds) :
        ∃ gap, d :: ds = gap ++ c :: r ∧ ∀ r', skipComments inside (gap ++ c :: r') = c :: r' := by
      obtain ⟨gap, rfl, hgap⟩ := ih ((hd ds).symm.trans h)
      exact ⟨d :: gap, rfl, fun r' => (hd _).trans (hgap r')⟩
    cases inside with
    | true => exact hjoin fun _ => rfl
    | false =>
      by_cases hblank : Text.isBlank d = true
      · exact hjoin fun _ => by rw [skipComments, if_pos hblank]
      · by_cases hmark : d = '#'
        · exact hjoin fun _ => by rw [skipComments, if_neg hblank, if_pos hmark]
        · rw [skipComments, if_neg hblank, if_neg hmark] at h
          cases h
          exact ⟨[], rfl, fun _ => by simp [skipComments, hblank, hmark]⟩

/-- What is left begins after a gap, and the gap is skipped whatever follows the first character. -/
theorem skip_eq_cons (h : flags.skip cs = c :: r) :
    ∃ gap, cs = gap ++ c :: r ∧ ∀ r', flags.skip (gap ++ c :: r') = c :: r' := by
  unfold skip at h ⊢
  split at h
  next hs =>
    simp only [hs, if_true]
    exact skipComments_eq_cons h
  next hs =>
    exact ⟨[], h, fun _ => by rw [if_neg hs]; rfl⟩

/-- A part that is not empty stands behind a gap where it is what is left. -/
theorem skip_eq_append {part after : List Char} (h : flags.skip cs = part ++ after) (hpart : part ≠ []) :
    ∃ gap, cs = gap ++ (part ++ after) ∧ ∀ next, flags.skip (gap ++ (part ++ next)) = part ++ next := by
  obtain ⟨c, part, rfl⟩ := List.exists_cons_of_ne_nil hpart
  obtain ⟨gap, hcs, hgap⟩ := skip_eq_cons h
  exact ⟨gap, hcs, fun next => hgap _⟩

/-- A part and the character behind it stand behind a gap where they are what is left. -/
theorem skip_eq_append_cons {part : List Char} (h : flags.skip cs = part ++ c :: r) :
    ∃ gap, cs = gap ++ (part ++ c :: r) ∧
      ∀ r', flags.skip (gap ++ (part ++ c :: r')) = part ++ c :: r' := by
  cases part with
  | nil => exact skip_eq_cons h
  | cons d part =>
    obtain ⟨gap, hcs, hgap⟩ := skip_eq_cons h
    exact ⟨gap, hcs, fun r' => hgap _⟩

/-- What is left of a text stays when the text goes on. -/
theorem skip_append_of_eq (h : flags.skip cs = c :: r) (next : List Char) :
    flags.skip (cs ++ next) = c :: r ++ next := by
  obtain ⟨gap, rfl, hgap⟩ := skip_eq_cons h
  rw [List.append_assoc, List.cons_append, hgap]

theorem skip_append (h : flags.skip cs ≠ []) (next : List Char) :
    flags.skip (cs ++ next) = flags.skip cs ++ next := by
  obtain ⟨c, r, hcs⟩ := List.exists_cons_of_ne_nil h
  rw [skip_append_of_eq hcs, hcs]

/-- What is left is no longer than the text. -/
theorem length_skip_le (flags : Flags) (cs : List Char) : (flags.skip cs).length ≤ cs.length := by
  cases h : flags.skip cs with
  | nil => exact Nat.zero_le _
  | cons c r =>
    obtain ⟨gap, rfl, -⟩ := skip_eq_cons h
    simp

/-! ## Texts that are all gap -/

theorem skipComments_append_of_eq_nil {inside : Bool} (h : skipComments inside cs = []) :
    ∃ inside', ∀ next, skipComments inside (cs ++ next) = skipComments inside' next := by
  induction cs generalizing inside with
  | nil => exact ⟨inside, fun _ => rfl⟩
  | cons d ds ih =>
    cases inside with
    | true => exact ih h
    | false =>
      simp only [List.cons_append, skipComments] at h ⊢
      split at h
      next hblank => simpa only [if_pos hblank] using ih h
      next hblank =>
        split at h
        next hmark => simpa only [if_neg hblank, if_pos hmark] using ih h
        next => cases h

/-- Behind a text that is all gap, nothing is skipped for its sake, or a comment goes on. -/
theorem skip_append_of_eq_nil (h : flags.skip cs = []) :
    (∀ next, flags.skip (cs ++ next) = flags.skip next) ∨
      ∀ next, flags.skip (cs ++ next) = skipComments true next := by
  unfold skip at h ⊢
  split at h
  next hs =>
    obtain ⟨inside, hinside⟩ := skipComments_append_of_eq_nil h
    simp only [hs, if_true, hinside]
    cases inside with
    | true => exact .inr fun _ => rfl
    | false => exact .inl fun _ => rfl
  next hs =>
    rw [h]
    exact .inl fun _ => rfl

end Flags

end RouteExpr.Pattern
