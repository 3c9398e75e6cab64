/-
Where one text is found in another.
-/
import RouteExpr.Text.Find
import Mathlib.Data.List.Infix

namespace RouteExpr.Text

/-- A text begins with another where that one is a prefix of it, and then goes on behind it. -/
theorem afterStart?_eq (start cs : List Char) :
    afterStart? start cs = if start.isPrefixOf cs then some (cs.drop start.length) else none := by
  fun_induction afterStart? start cs with
  | case1 cs => simp
  | case2 p ps => simp
  | case3 p ps cs ih => simp [ih]
  | case4 p ps c cs h => simp [h]

theorem occurs_iff {sought cs : List Char} : occurs sought cs = true ↔ sought <:+: cs := by
  unfold occurs
  induction cs with
  | nil => cases sought <;> simp [cut?]
  | cons c cs ih =>
    rw [cut?, List.infix_cons_iff, afterStart?_eq, ← List.isPrefixOf_iff_prefix, ← ih]
    split
    · rename_i rest hrest
      split at hrest <;> simp_all
    · rename_i hnone
      split at hnone <;> simp_all

/-- A text as what stands before the first occurrence of another in it, and what stands behind. -/
structure SplitsAt (sought cs before after : List Char) : Prop where
  eq : cs = before ++ (sought ++ after)
  first : ∀ u v, cs = u ++ (sought ++ v) → before.length ≤ u.length

theorem SplitsAt.nil {sought after : List Char} : SplitsAt sought (sought ++ after) [] after :=
  ⟨rfl, fun u _ _ => Nat.zero_le u.length⟩

/-- Where a text does not begin with what is sought, the first occurrence is that in the rest of it. -/
theorem SplitsAt.cons {c : Char} {sought cs before after : List Char} (hc : ¬ sought <+: c :: cs)
    (h : SplitsAt sought cs before after) : SplitsAt sought (c :: cs) (c :: before) after := by
  refine ⟨congrArg (c :: ·) h.eq, fun u v huv => ?_⟩
  cases u with
  | nil => exact absurd ⟨v, huv.symm⟩ hc
  | cons d u => exact Nat.succ_le_succ (h.first u v (List.cons.inj huv).2)

/-- A character twice in a row is found first behind a text that neither has it twice in a row nor ends with
it. -/
theorem SplitsAt.pair {c : Char} {u v : List Char} (hu : ¬ [c, c] <:+: u) (hlast : u.getLast? ≠ some c) :
    SplitsAt [c, c] (u ++ ([c, c] ++ v)) u v := by
  refine ⟨rfl, fun u' v' heq => ?_⟩
  rcases List.append_eq_append_iff.1 heq with ⟨w, rfl, -⟩ | ⟨w, rfl, hw⟩
  · rw [List.length_append]
    exact Nat.le_add_right _ _
  · -- what is found sooner would begin with the last character, or be inside
    match w, hw with
    | [], _ => rw [List.append_nil]
    | [d], hw =>
      obtain ⟨rfl, -⟩ := List.cons.inj hw
      simp at hlast
    | d :: e :: w, hw =>
      simp only [List.cons_append, List.nil_append, List.cons.injEq] at hw
      obtain ⟨rfl, rfl, -⟩ := hw
      exact absurd ⟨u', w, by simp⟩ hu

/-- There is one first occurrence. -/
theorem SplitsAt.unique {sought cs u v u' v' : List Char} (h : SplitsAt sought cs u v)
    (h' : SplitsAt sought cs u' v') : u = u' ∧ v = v' := by
  have hlength : u.length = u'.length := Nat.le_antisymm (h.first _ _ h'.eq) (h'.first _ _ h.eq)
  obtain ⟨hu, hv⟩ := List.append_inj (h.eq.symm.trans h'.eq) hlength
  exact ⟨hu, List.append_cancel_left hv⟩

/-- The text is cut around the first occurrence. -/
theorem splitsAt_of_cut? {sought cs u v : List Char} (h : cut? sought cs = some (u, v)) :
    SplitsAt sought cs u v := by
  induction cs generalizing u with
  | nil =>
    cases sought with
    | nil => cases h; exact .nil
    | cons d sought => cases h
  | cons c cs ih =>
    rw [cut?] at h
    split at h
    · rename_i rest hrest
      cases h
      rw [afterStart?_eq_some hrest]
      exact .nil
    · rename_i hnone
      obtain ⟨⟨u', v'⟩, hcut, heq⟩ := Option.map_eq_some_iff.1 h
      cases heq
      refine .cons (fun hstart => ?_) (ih hcut)
      rw [afterStart?_eq, if_pos (List.isPrefixOf_iff_prefix.2 hstart)] at hnone
      cases hnone

/-- What is found in a text stands between what is before it and what is after it. -/
theorem cut?_eq_some {sought cs u v : List Char} (h : cut? sought cs = some (u, v)) :
    cs = u ++ (sought ++ v) :=
  (splitsAt_of_cut? h).eq

theorem cut?_eq_some_iff {sought cs u v : List Char} :
    cut? sought cs = some (u, v) ↔ SplitsAt sought cs u v := by
  refine ⟨splitsAt_of_cut?, fun h => ?_⟩
  have hoccurs : occurs sought cs = true := occurs_iff.2 ⟨u, v, by rw [h.eq, List.append_assoc]⟩
  obtain ⟨⟨u', v'⟩, hcut⟩ := Option.isSome_iff_exists.1 hoccurs
  obtain ⟨rfl, rfl⟩ := h.unique (splitsAt_of_cut? hcut)
  exact hcut

theorem cut?_eq_none_iff {sought cs : List Char} : cut? sought cs = none ↔ ¬ sought <:+: cs := by
  rw [← occurs_iff, occurs, Bool.not_eq_true, Option.isSome_eq_false_iff, Option.isNone_iff_eq_none]

/-- Nothing is found to start where its first character does not stand. -/
theorem cut?_append_of_not_mem {c : Char} {u : List Char} (hu : c ∉ u) (sought cs : List Char) :
    cut? (c :: sought) (u ++ cs) = (cut? (c :: sought) cs).map fun p => (u ++ p.1, p.2) := by
  induction u with
  | nil => simp
  | cons d u ih =>
    obtain ⟨hd, hu⟩ := not_or.1 (fun h => hu (List.mem_cons.2 h))
    rw [List.cons_append, cut?, afterStart?, if_neg hd, ih hu, Option.map_map]
    rfl

end RouteExpr.Text
