/-
Computations that check each index before they use it.

An index that is out of range, a slice that does not lie within what it is taken from and a
difference below zero each stop a checked computation for good. Where a part of a list stands is
what makes a slice of it succeed, and a checked computation that mirrors a plain one only ever stops
with the faults of that one.
-/
import RouteExpr.Fault
import RouteExpr.Proofs.Result
import Mathlib.Tactic

namespace RouteExpr

/-! ## Checked computations -/

/-- Why a checked computation stops. -/
inductive Halt where
  /-- An index or a slice is out of range, or a difference is below zero. -/
  | outOfRange
  /-- A branch that is there for the sake of the definition alone, such as the end of the bound on
  the turns of a loop. -/
  | unreachable
  /-- The text is at fault. -/
  | fault (e : SyntaxError)
  deriving DecidableEq, Repr

/-- A computation that checks its indices. -/
abbrev Checked (α : Type) : Type :=
  Except Halt α

namespace Checked

variable {α β γ δ : Type}

/-- The item at an index. -/
def item (xs : List α) (i : Nat) : Checked α :=
  match xs[i]? with
  | some x => .ok x
  | none => .error .outOfRange

/-- The items from one index to another. -/
def slice (xs : List α) (first stop : Nat) : Checked (List α) :=
  if first ≤ stop ∧ stop ≤ xs.length then .ok ((xs.take stop).drop first) else .error .outOfRange

/-- The difference of two numbers. -/
def minus (a b : Nat) : Checked Nat :=
  if b ≤ a then .ok (a - b) else .error .outOfRange

/-- A fault at an offset of a text. -/
def fail (text : String) (offset : Nat) (cause : Cause) : Checked α :=
  .error (.fault ⟨⟨offset, cause⟩, text⟩)

theorem minus_eq {a b : Nat} (h : b ≤ a) : minus a b = .ok (a - b) := if_pos h

theorem minus_add (a b : Nat) : minus (a + b) b = .ok a := by
  rw [minus_eq (Nat.le_add_left b a), Nat.add_sub_cancel]

/-! ## Parts of lists -/

/-- A part of a list stands at an index. -/
def PartAt (xs : List α) (i : Nat) (part : List α) : Prop :=
  ∃ before after, xs = before ++ part ++ after ∧ before.length = i

section PartAt

variable {xs part p q : List α} {i j : Nat}

theorem partAt_self (xs : List α) : PartAt xs 0 xs := ⟨[], [], by simp, rfl⟩

theorem PartAt.left (h : PartAt xs i (p ++ q)) : PartAt xs i p := by
  obtain ⟨before, after, rfl, hi⟩ := h
  exact ⟨before, q ++ after, by simp only [List.append_assoc], hi⟩

theorem PartAt.right (h : PartAt xs i (p ++ q)) : PartAt xs (i + p.length) q := by
  obtain ⟨before, after, rfl, rfl⟩ := h
  exact ⟨before ++ p, after, by simp only [List.append_assoc], List.length_append⟩

theorem PartAt.le (h : PartAt xs i part) : i + part.length ≤ xs.length := by
  obtain ⟨before, after, rfl, rfl⟩ := h
  simp only [List.length_append]
  omega

theorem PartAt.le_length {text : String} {part : List Char} (h : PartAt text.toList i part) :
    i + part.length ≤ text.length := by
  rw [← String.length_toList]
  exact h.le

theorem PartAt.take_drop (h : PartAt xs i part) : (xs.take (i + part.length)).drop i = part := by
  obtain ⟨before, after, rfl, rfl⟩ := h
  rw [← List.length_append, List.take_left, List.drop_left]

theorem partAt_take_drop {first stop : Nat} (hfirst : first ≤ stop) (hstop : stop ≤ xs.length) :
    PartAt xs first ((xs.take stop).drop first) := by
  refine ⟨(xs.take stop).take first, xs.drop stop, ?_, ?_⟩
  · rw [List.take_append_drop, List.take_append_drop]
  · rw [List.length_take, List.length_take]
    omega

/-- What stands somewhere can be sliced out. -/
theorem PartAt.slice (h : PartAt xs i part) : slice xs i (i + part.length) = .ok part := by
  rw [Checked.slice, if_pos ⟨Nat.le_add_right _ _, h.le⟩, h.take_drop]

/-- `PartAt.slice` with the end as a number of its own. -/
theorem PartAt.slice_eq (h : PartAt xs i part) (hj : i + part.length = j) :
    Checked.slice xs i j = .ok part := by
  rw [← hj, h.slice]

/-- What stands at the end is sliced out up to the end. -/
theorem slice_last {xs part : List α} (before : List α) (h : xs = before ++ part) (hi : before.length = i) :
    Checked.slice xs i xs.length = .ok part := by
  refine PartAt.slice_eq ⟨before, [], by rw [h, List.append_nil], hi⟩ ?_
  rw [h, List.length_append, hi]

theorem PartAt.item {x : α} (h : PartAt xs i (x :: part)) : item xs i = .ok x := by
  obtain ⟨before, after, rfl, rfl⟩ := h
  simp [Checked.item]

end PartAt

/-! ## Mirrored computations -/

/-- A checked computation does what a plain one does: what it gives is related to what the plain one
gives, and it stops with nothing but the fault of the plain one, which is within the text. -/
inductive Mirrors (text : String) (r : α → β → Prop) : Checked α → Except Fault β → Prop where
  | ok {a : α} {b : β} (h : r a b) : Mirrors text r (.ok a) (.ok b)
  | fault {f : Fault} (h : f.offset ≤ text.length) :
    Mirrors text r (.error (.fault ⟨f, text⟩)) (.error f)

/-- What a plain computation over a text gives, as a checked one gives it. -/
def lifted (text : String) (f : β → α) : Except Fault β → Checked α
  | .ok b => .ok (f b)
  | .error e => .error (.fault ⟨e, text⟩)

section Mirrors

variable {text : String} {r : α → β → Prop} {s : γ → δ → Prop} {x : Checked α} {y : Except Fault β}

theorem Mirrors.error {offset : Nat} {cause : Cause} (h : offset ≤ text.length) :
    Mirrors text r (fail text offset cause) (.error ⟨offset, cause⟩) := .fault h

theorem Mirrors.of_ok {b : β} (h : Mirrors text r x (.ok b)) : ∃ a, x = .ok a ∧ r a b := by
  cases h with
  | ok hab => exact ⟨_, rfl, hab⟩

theorem Mirrors.of_error {f : Fault} (h : Mirrors text r x (.error f)) :
    x = .error (.fault ⟨f, text⟩) ∧ f.offset ≤ text.length := by
  cases h with
  | fault hf => exact ⟨rfl, hf⟩

/-- `Mirrors.bind` where the second step needs to know what the first one gave. -/
theorem Mirrors.bind_of {f : α → Checked γ} {g : β → Except Fault δ} (h : Mirrors text r x y)
    (hf : ∀ a b, y = .ok b → r a b → Mirrors text s (f a) (g b)) :
    Mirrors text s (x >>= f) (y >>= g) := by
  cases h with
  | ok hab => exact hf _ _ rfl hab
  | fault he => exact .fault he

theorem Mirrors.bind {f : α → Checked γ} {g : β → Except Fault δ} (h : Mirrors text r x y)
    (hf : ∀ a b, r a b → Mirrors text s (f a) (g b)) : Mirrors text s (x >>= f) (y >>= g) :=
  h.bind_of fun a b _ => hf a b

theorem Mirrors.map {f : α → γ} {g : β → δ} (h : Mirrors text r x y)
    (hf : ∀ a b, r a b → s (f a) (g b)) : Mirrors text s (x.map f) (y.map g) := by
  cases h with
  | ok hab => exact .ok (hf _ _ hab)
  | fault he => exact .fault he

/-- `Mirrors.map` where the plain computation is done already. -/
theorem Mirrors.map_left {f : α → γ} {r' : γ → β → Prop} (h : Mirrors text r x y)
    (hf : ∀ a b, r a b → r' (f a) b) : Mirrors text r' (x.map f) y := by
  cases h with
  | ok hab => exact .ok (hf _ _ hab)
  | fault he => exact .fault he

/-- The end of a computation, where what is known is put together. -/
theorem Mirrors.bind_pure {f : α → γ} {g : β → δ} (h : Mirrors text r x y)
    (hf : ∀ a b, r a b → s (f a) (g b)) :
    Mirrors text s (x >>= fun a => pure (f a)) (y >>= fun b => pure (g b)) :=
  h.bind fun a b hab => .ok (hf a b hab)

theorem Mirrors.eq_lifted {f : β → α} (h : Mirrors text (fun a b => a = f b) x y) :
    x = lifted text f y := by
  cases h with
  | ok hab => rw [hab]; rfl
  | fault _ => rfl

/-- A checked computation gives what the plain one gives, or stops with its fault. -/
theorem Mirrors.cases (h : Mirrors text r x y) :
    (∃ a b, x = .ok a ∧ y = .ok b ∧ r a b) ∨
      ∃ f, x = .error (.fault ⟨f, text⟩) ∧ y = .error f ∧ f.offset ≤ text.length := by
  cases h with
  | ok hab => exact .inl ⟨_, _, rfl, rfl, hab⟩
  | fault hf => exact .inr ⟨_, rfl, rfl, hf⟩

end Mirrors

end Checked

end RouteExpr
