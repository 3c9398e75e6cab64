/-
The order in which objects list their fields does not matter for what values are compared by.

A value with the fields of its objects in the order of their keys has the same texts and the same
numbers, the same kinds and the same fields under a key. So no comparison and no conversion tells two
values apart that are the same when sorted.
-/
import RouteExpr.Evaluation
import RouteExpr.Proofs.Value.Alike
import Mathlib.Data.List.Sort
import Mathlib.Data.String.Basic

namespace RouteExpr

/-! ## Entries in the order of their keys -/

/-- Entries in the order of their keys; those with the same key stay in the order they had. -/
def byKey {α : Type} (entries : List (String × α)) : List (String × α) :=
  entries.mergeSort fun a b => a.1 ≤ b.1

section ByKey

variable {α β : Type} (entries : List (String × α))

theorem byKey_perm : (byKey entries).Perm entries :=
  List.mergeSort_perm entries _

theorem keyLE_trans (a b c : String × α) (hab : decide (a.1 ≤ b.1) = true)
    (hbc : decide (b.1 ≤ c.1) = true) : decide (a.1 ≤ c.1) = true :=
  decide_eq_true ((of_decide_eq_true hab).trans (of_decide_eq_true hbc))

theorem keyLE_total (a b : String × α) : (decide (a.1 ≤ b.1) || decide (b.1 ≤ a.1)) = true := by
  rcases le_total a.1 b.1 with h | h <;> simp [h]

theorem pairwise_byKey : (byKey entries).Pairwise fun a b => a.1 ≤ b.1 :=
  (List.pairwise_mergeSort keyLE_trans keyLE_total entries).imp of_decide_eq_true

@[simp] theorem byKey_byKey : byKey (byKey entries) = byKey entries :=
  List.mergeSort_of_pairwise ((pairwise_byKey entries).imp fun hab => by simpa using hab)

/-- Sorting changes nothing but keys and values together. -/
theorem byKey_map (f : α → β) :
    byKey (entries.map fun entry => (entry.1, f entry.2)) =
      (byKey entries).map fun entry => (entry.1, f entry.2) := by
  unfold byKey
  rw [List.map_mergeSort]
  intro a _ b _
  rfl

/-- The first entry under a key stays the first. -/
theorem find?_byKey (key : String) :
    (byKey entries).find? (fun entry => entry.1 == key) =
      entries.find? fun entry => entry.1 == key := by
  have hsorted : (entries.filter fun entry => entry.1 == key).Pairwise fun a b =>
      decide (a.1 ≤ b.1) = true := by
    refine List.pairwise_of_forall_mem_list fun a ha b hb => ?_
    have hakey : a.1 = key := by simpa using (List.mem_filter.1 ha).2
    have hbkey : b.1 = key := by simpa using (List.mem_filter.1 hb).2
    rw [hakey, hbkey]
    exact decide_eq_true le_rfl
  -- sorting is stable, and no entry under the key is lost or added
  have hsub : (entries.filter fun entry => entry.1 == key).Sublist
      ((byKey entries).filter fun entry => entry.1 == key) := by
    have h := List.sublist_mergeSort keyLE_trans keyLE_total hsorted List.filter_sublist
    simpa [byKey] using h.filter fun entry => entry.1 == key
  have hlength := ((byKey_perm entries).filter fun entry => entry.1 == key).length_eq
  rw [← List.head?_filter, ← List.head?_filter, hsub.eq_of_length hlength.symm]

/-- Entries with distinct keys are sorted alike in whatever order they are listed. -/
theorem byKey_eq_of_perm {entries entries' : List (String × α)}
    (hkeys : (entries.map Prod.fst).Nodup) (h : entries.Perm entries') :
    byKey entries = byKey entries' := by
  have hperm : (byKey entries).Perm (byKey entries') :=
    (byKey_perm entries).trans (h.trans (byKey_perm entries').symm)
  refine hperm.eq_of_pairwise (fun a b ha hb hab hba => ?_) (pairwise_byKey entries)
    (pairwise_byKey entries')
  have ha' : a ∈ entries := (byKey_perm entries).mem_iff.1 ha
  have hb' : b ∈ entries := h.mem_iff.2 ((byKey_perm entries').mem_iff.1 hb)
  exact List.inj_on_of_nodup_map hkeys ha' hb' (le_antisymm hab hba)

end ByKey

/-! ## Sorted values -/

namespace Value

mutual

/-- The value with the fields of its objects, at every depth, in the order of their keys. -/
def sorted : Value → Value
  | array items => array (sortedItems items)
  | object fields => object (byKey (sortedFields fields))
  | v => v

/-- The values of a list, sorted. -/
def sortedItems : List Value → List Value
  | [] => []
  | v :: vs => sorted v :: sortedItems vs

/-- The values of an object, sorted, in the order in which the object lists them. -/
def sortedFields : List (String × Value) → List (String × Value)
  | [] => []
  | (k, v) :: fields => (k, sorted v) :: sortedFields fields

end

/-- The same value, but for the order in which objects list their fields. -/
def Relisted (v w : Value) : Prop :=
  v.sorted = w.sorted

@[simp] theorem sorted_null : sorted null = null := by simp [sorted]

@[simp] theorem sorted_boolean (b : Bool) : (boolean b).sorted = boolean b := by simp [sorted]

@[simp] theorem sorted_integer (i : Int64) : (integer i).sorted = integer i := by simp [sorted]

@[simp] theorem sorted_float (x : Double) : (float x).sorted = float x := by simp [sorted]

@[simp] theorem sorted_string (s : String) : (string s).sorted = string s := by simp [sorted]

theorem sortedItems_eq_map (items : List Value) : sortedItems items = items.map sorted := by
  induction items with
  | nil => rw [sortedItems, List.map_nil]
  | cons v vs ih => rw [sortedItems, ih, List.map_cons]

theorem sortedFields_eq_map (fields : Fields) :
    sortedFields fields = fields.map fun field => (field.1, field.2.sorted) := by
  induction fields with
  | nil => rw [sortedFields, List.map_nil]
  | cons field fields ih =>
    obtain ⟨k, v⟩ := field
    rw [sortedFields, ih, List.map_cons]

theorem shownFields_eq_map (fields : Fields) :
    shownFields fields = fields.map fun field => (field.1, field.2.shown) := by
  induction fields with
  | nil => rw [shownFields, List.map_nil]
  | cons field fields ih =>
    obtain ⟨k, v⟩ := field
    rw [shownFields, ih, List.map_cons]

mutual

@[simp] theorem sorted_sorted : ∀ v : Value, v.sorted.sorted = v.sorted
  | null | boolean _ | integer _ | float _ | string _ => by simp
  | array items => by
    rw [sorted, sorted, sortedItems_sortedItems items]
  | object fields => by
    rw [sorted, sorted, sortedFields_eq_map (byKey _), ← byKey_map, ← sortedFields_eq_map,
      sortedFields_sortedFields fields, byKey_byKey]

theorem sortedItems_sortedItems : ∀ items : List Value,
    sortedItems (sortedItems items) = sortedItems items
  | [] => by rw [sortedItems, sortedItems]
  | v :: vs => by
    rw [sortedItems, sortedItems, sorted_sorted v, sortedItems_sortedItems vs]

theorem sortedFields_sortedFields : ∀ fields : Fields,
    sortedFields (sortedFields fields) = sortedFields fields
  | [] => by rw [sortedFields, sortedFields]
  | (k, v) :: fields => by
    rw [sortedFields, sortedFields, sorted_sorted v, sortedFields_sortedFields fields]

end

mutual

/-- A value is shown as it is when sorted: the text of an object lists its keys in order. -/
@[simp] theorem shown_sorted : ∀ v : Value, v.sorted.shown = v.shown
  | null | boolean _ | integer _ | float _ | string _ => by simp
  | array items => by
    rw [sorted, shown, shown, shownItems_sortedItems items]
  | object fields => by
    have hkeys (fields : List (String × String)) : sortByKey fields = byKey fields := rfl
    rw [sorted, shown, shown, hkeys, hkeys, shownFields_eq_map (byKey _), ← byKey_map, byKey_byKey,
      ← shownFields_eq_map, shownFields_sortedFields fields]

theorem shownItems_sortedItems : ∀ items : List Value,
    shownItems (sortedItems items) = shownItems items
  | [] => by rw [sortedItems]
  | v :: vs => by
    rw [sortedItems, shownItems, shownItems, shown_sorted v, shownItems_sortedItems vs]

theorem shownFields_sortedFields : ∀ fields : Fields,
    shownFields (sortedFields fields) = shownFields fields
  | [] => by rw [sortedFields]
  | (k, v) :: fields => by
    rw [sortedFields, shownFields, shownFields, shown_sorted v, shownFields_sortedFields fields]

end

/-! ## Readings -/

variable (v a b : Value)

@[simp] theorem isNull_sorted : v.sorted.isNull = v.isNull := by
  cases v <;> simp [sorted, isNull]

@[simp] theorem kind_sorted : v.sorted.kind = v.kind := by
  cases v <;> simp [sorted, kind]

@[simp] theorem isTruthy_sorted : v.sorted.isTruthy = v.isTruthy := by
  cases v <;> simp [sorted, isTruthy]

@[simp] theorem text_sorted : v.sorted.text = v.text := by
  have h := shown_sorted v
  cases v <;> simp_all [sorted, text]

@[simp] theorem toDouble?_sorted : v.sorted.toDouble? = v.toDouble? := by
  cases v <;> simp [sorted, toDouble?]

@[simp] theorem toInt64?_sorted : v.sorted.toInt64? = v.toInt64? := by
  cases v <;> simp [sorted, toInt64?]

@[simp] theorem toDecimal?_sorted : v.sorted.toDecimal? = v.toDecimal? := by
  cases v <;> simp [sorted, toDecimal?]

/-! ## Comparisons -/

theorem numericOrder?_sorted : numericOrder? a.sorted b.sorted = numericOrder? a b := by
  simp [numericOrder?]

theorem order?_sorted : order? a.sorted b.sorted = order? a b := by
  simp [order?, numericOrder?_sorted]

theorem equals_sorted : equals a.sorted b.sorted = equals a b := by
  simp [equals_eq, numericOrder?_sorted]

theorem equalsIgnoreCase_sorted : equalsIgnoreCase a.sorted b.sorted = equalsIgnoreCase a b := by
  simp [equalsIgnoreCase_eq]

theorem containsBy_sorted (fold : String → String) :
    containsBy fold a.sorted b.sorted = containsBy fold a b := by
  have htext := text_sorted a
  cases a with
  | array items =>
    simp [sorted, containsBy, sortedItems_eq_map, List.any_map, Function.comp_def, equals_sorted]
  | _ => simp_all [sorted, containsBy]

theorem contains_sorted (fold : String → String) :
    contains fold a.sorted b.sorted = contains fold a b := by
  simp [contains, containsBy_sorted]

theorem memberOf_sorted : memberOf a.sorted b.sorted = memberOf a b := by
  have htext := text_sorted b
  cases b with
  | array items => simp [sorted, memberOf, sortedItems_eq_map, List.any_map, Function.comp_def]
  | _ => simp_all [sorted, memberOf]

theorem fits_sorted (p : Pattern) : v.sorted.fits p = v.fits p := by
  simp [fits]

theorem fitsText_sorted : fitsText a.sorted b.sorted = fitsText a b := by
  simp [fitsText, fits_sorted]

theorem inRange_sorted : inRange v.sorted a.sorted b.sorted = inRange v a b := by
  simp [inRange, numericOrder?_sorted]

theorem inRangeText_sorted (range : String) : inRangeText v.sorted range = inRangeText v range := by
  unfold inRangeText
  split
  · rfl
  · exact inRange_sorted v (.string _) (.string _)

end Value

/-- No comparison sees the order of fields, nor does its error. -/
theorem Comparison.holds_sorted (c : Comparison) (a b : Value) :
    c.holds a.sorted b.sorted = c.holds a b := by
  cases c <;> simp [holds, Value.equals_sorted, Value.equalsIgnoreCase_sorted, Value.order?_sorted,
    Value.contains_sorted, Value.memberOf_sorted, Value.fitsText_sorted, Value.inRangeText_sorted,
    Value.startsWith, Value.endsWith]

/-! ## Conversions and steps -/

namespace ValueType

@[simp] theorem admits_sorted (t : ValueType) (v : Value) : t.admits v.sorted = t.admits v := by
  cases t <;> cases v <;> simp [Value.sorted, admits]

theorem convert?_sorted (t : ValueType) (v : Value) :
    t.convert? v.sorted = (t.convert? v).map Value.sorted := by
  unfold convert?
  rw [Value.isNull_sorted, admits_sorted]
  by_cases hnull : v.isNull = true
  · simp [hnull, Value.sorted]
  by_cases hadmits : t.admits v = true
  · simp [hnull, hadmits]
  simp only [if_neg hnull, if_neg hadmits]
  cases t with
  | string => simp [Value.sorted]
  | integer => cases h : v.toInt64? <;> simp [h, Value.sorted]
  | float => cases h : v.toDouble? <;> simp [h, Value.sorted]
  | number => cases h : v.toInt64? <;> cases h' : v.toDouble? <;> simp [h, h', Value.sorted]
  | boolean =>
    cases v with
    | string s => cases h : readBoolean? s <;> simp [h, Value.sorted]
    | _ => simp [Value.sorted]
  | list => simp [Value.sorted, Value.sortedItems]
  | map => rfl
  | object => rfl

end ValueType

theorem Step.refuse_sorted {α : Type} (s : Step) (v : Value) :
    (s.refuse v.sorted : Outcome α) = s.refuse v := by
  unfold refuse
  rw [Value.kind_sorted, Value.text_sorted]

theorem Step.apply_sorted (s : Step) (v : Value) :
    s.apply v.sorted = (s.apply v).map Value.sorted := by
  cases v with
  | integer i =>
    rw [Value.sorted_integer]
    unfold apply
    dsimp only
    split <;> simp [Except.map, refuse]
  | float x => simp [apply, Except.map]
  | string text =>
    rw [Value.sorted_string]
    unfold apply
    dsimp only
    repeat' split
    all_goals simp [Except.map, refuse]
  | null => rw [Value.sorted_null]; rfl
  | boolean b => rw [Value.sorted_boolean]; rfl
  | array items =>
    rw [show s.apply (Value.array items).sorted = s.refuse (Value.array items).sorted by
      rw [Value.sorted]; rfl, s.refuse_sorted]
    rfl
  | object fields =>
    rw [show s.apply (Value.object fields).sorted = s.refuse (Value.object fields).sorted by
      rw [Value.sorted]; rfl, s.refuse_sorted]
    rfl

end RouteExpr
