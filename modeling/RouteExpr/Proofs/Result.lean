/-
Results of one step after another: a value comes of the values of all steps, an error of the first
step that has one.
-/

namespace RouteExpr

variable {ε α β : Type} {x : Except ε α} {e : ε}

/-! ## Values -/

theorem ok_bind (a : α) (f : α → Except ε β) : .ok a >>= f = f a := rfl

theorem bind_eq_ok {f : α → Except ε β} {b : β} (h : x >>= f = .ok b) :
    ∃ a, x = .ok a ∧ f a = .ok b := by
  cases x with
  | ok a => exact ⟨a, rfl, h⟩
  | error e => cases h

theorem map_eq_ok {f : α → β} {b : β} (h : x.map f = .ok b) : ∃ a, x = .ok a ∧ f a = b := by
  cases x with
  | ok a => exact ⟨a, rfl, Except.ok.inj h⟩
  | error e => cases h

/-! ## Whether there is a value -/

theorem exists_map_eq_ok {f : α → β} : (∃ b, x.map f = .ok b) ↔ ∃ a, x = .ok a := by
  cases x with
  | ok a => exact ⟨fun _ => ⟨a, rfl⟩, fun _ => ⟨f a, rfl⟩⟩
  | error e => simp [Except.map]

/-- There is a value of both steps where there is one of the first, and one of the second whatever
value the first has. -/
theorem exists_bind_eq_ok {f : α → Except ε β} {p : Prop}
    (hf : ∀ a, x = .ok a → ((∃ b, f a = .ok b) ↔ p)) :
    (∃ b, x >>= f = .ok b) ↔ (∃ a, x = .ok a) ∧ p := by
  cases x with
  | ok a => exact (hf a rfl).trans ⟨fun hp => ⟨⟨a, rfl⟩, hp⟩, fun h => h.2⟩
  | error e =>
    constructor
    · rintro ⟨_, h⟩
      cases h
    · rintro ⟨⟨_, h⟩, -⟩
      cases h

theorem exists_mapM_eq_ok {f : α → Except ε β} {as : List α} :
    (∃ bs, as.mapM f = .ok bs) ↔ ∀ a ∈ as, ∃ b, f a = .ok b := by
  induction as with
  | nil => exact ⟨fun _ => nofun, fun _ => ⟨[], rfl⟩⟩
  | cons a as ih =>
    rw [List.mapM_cons, List.forall_mem_cons, ← ih]
    exact exists_bind_eq_ok fun b _ => exists_map_eq_ok

/-! ## Results that are the same up to a map -/

theorem map_bind {γ : Type} {f : α → Except ε β} {k : β → γ} :
    (x >>= f).map k = x >>= fun a => (f a).map k := by
  cases x <;> rfl

/-- Results that are the same up to `s` are the same after steps that do not tell such values apart. -/
theorem bind_congr_of_map {σ : Type} {s : α → σ} {y : Except ε α} {f g : α → Except ε β}
    (h : x.map s = y.map s) (hf : ∀ a b, s a = s b → f a = g b) : x >>= f = y >>= g := by
  cases x with
  | ok a =>
    cases y with
    | ok b => exact hf a b (Except.ok.inj h)
    | error e => cases h
  | error e =>
    cases y with
    | ok b => cases h
    | error e' => cases h; rfl

/-! ## Results with the same value -/

/-- Two results that have the same value, or an error each. -/
def SameValue (x y : Except ε α) : Prop :=
  (∃ a, x = .ok a ∧ y = .ok a) ∨ ∃ e e', x = .error e ∧ y = .error e'

theorem sameValue_of_iff {y : Except ε α} (h : ∀ a, x = .ok a ↔ y = .ok a) : SameValue x y := by
  cases x with
  | ok a => exact .inl ⟨a, rfl, (h a).1 rfl⟩
  | error e =>
    cases y with
    | ok a => cases (h a).2 rfl
    | error e' => exact .inr ⟨e, e', rfl, rfl⟩

theorem SameValue.isOk_eq {y : Except ε α} (h : SameValue x y) : x.isOk = y.isOk := by
  rcases h with ⟨a, rfl, rfl⟩ | ⟨e, e', rfl, rfl⟩ <;> rfl

/-! ## Errors -/

/-- An error is that of the first step, or one of the second on what the first gives. -/
theorem bind_eq_error {f : α → Except ε β} :
    x >>= f = .error e ↔ x = .error e ∨ ∃ a, x = .ok a ∧ f a = .error e := by
  cases x with
  | ok a =>
    refine ⟨fun h => .inr ⟨a, rfl, h⟩, ?_⟩
    rintro (h | ⟨_, ⟨⟩, h⟩)
    · cases h
    · exact h
  | error e' =>
    refine ⟨fun h => .inl (congrArg Except.error (Except.error.inj h)), ?_⟩
    rintro (h | ⟨_, h, -⟩)
    · cases h; rfl
    · cases h

/-- Where the second step has no such error, the error is that of the first. -/
theorem bind_eq_error_of_ne {f : α → Except ε β} (hf : ∀ a, f a ≠ .error e) :
    x >>= f = .error e ↔ x = .error e := by
  rw [bind_eq_error]
  refine ⟨?_, .inl⟩
  rintro (h | ⟨a, -, h⟩)
  · exact h
  · exact absurd h (hf a)

theorem bind_pure_eq_error {g : α → β} : (x >>= fun a => .ok (g a)) = .error e ↔ x = .error e :=
  bind_eq_error_of_ne fun _ => nofun

end RouteExpr
