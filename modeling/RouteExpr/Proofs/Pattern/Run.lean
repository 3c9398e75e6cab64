/-
Runs of the reader of patterns.

A run is made of steps, each after the gap before it. What a run takes of its text it takes alike whatever
may follow, and groups around it change nothing as long as it does not leave them. The reader succeeds exactly
where a run ends with its text, outside all groups.
-/
import RouteExpr.Proofs.Pattern.Step

namespace RouteExpr.Pattern

namespace Progress

variable {p q r : Progress} {cs : List Char} {n : Nat}

/-! ## Runs -/

/-- The step after the gap before what is left, if anything is. -/
def next? (p : Progress) : Option Progress :=
  if p.flags.skip p.rest = [] then none else (p.withRest (p.flags.skip p.rest)).step?

/-- Some steps lead from one state of the reader to another. -/
inductive Reads : Progress → Progress → Prop where
  | refl (p : Progress) : Reads p p
  | step {p q r : Progress} (h : p.next? = some q) (hrest : Reads q r) : Reads p r

theorem next?_congr (h : p.flags.skip cs = p.flags.skip p.rest) : (p.withRest cs).next? = p.next? := by
  simp [next?, h]

/-- A run depends on what is left behind the gap. -/
theorem Reads.congr (hreads : Reads p r) (h : p.flags.skip cs = p.flags.skip p.rest) :
    ∃ rest, Reads (p.withRest cs) (r.withRest rest) ∧ r.flags.skip rest = r.flags.skip r.rest := by
  cases hreads with
  | refl => exact ⟨cs, .refl _, h⟩
  | step hnext hrest => exact ⟨r.rest, .step ((next?_congr h).trans hnext) hrest, rfl⟩

theorem Reads.trans (h : Reads p q) (h' : Reads q r) : Reads p r := by
  induction h with
  | refl => exact h'
  | step hnext _ ih => exact .step hnext (ih h')

/-- A step takes a token behind a gap, and takes it alike before any text that may follow. -/
theorem next?_eq_some (h : p.next? = some q) (hcs : p.flags.skip cs = p.flags.skip p.rest) :
    ∃ gap token after, cs = gap ++ (token ++ after) ∧ Decided p.flags token ∧
      (∀ next, p.flags.skip (gap ++ (token ++ next)) = token ++ next) ∧
      q.flags.skip q.rest = q.flags.skip after ∧
      ∀ next, Follows q.flags after next →
        ∃ rest, (p.withRest (gap ++ (token ++ next))).next? = some (q.withRest rest) ∧
          q.flags.skip rest = q.flags.skip next := by
  unfold next? at h
  split at h
  next => cases h
  next hne =>
    have hgoes := step?_goes (p := p.withRest (p.flags.skip p.rest)) (Flags.skip_skip _ _) hne h
    obtain ⟨token, after, htoken, hrest, hafter, hnext⟩ := hgoes
    obtain ⟨gap, rfl, hgap⟩ := Flags.skip_eq_append (hcs.trans hrest) htoken.ne_nil
    refine ⟨gap, token, after, rfl, htoken, hgap, hafter, fun next hfollows => ?_⟩
    obtain ⟨rest, hstep, hskip⟩ := hnext next hfollows
    refine ⟨rest, ?_, hskip⟩
    have htext : token ++ next ≠ [] := List.append_ne_nil_of_left_ne_nil htoken.ne_nil next
    simpa only [next?, withRest_flags, withRest_rest, withRest_withRest, hgap, if_neg htext] using hstep

/-- What a run takes of its text it takes alike before any text that may follow. -/
theorem Reads.swap (h : Reads p r) (cs : List Char) (hcs : p.flags.skip cs = p.flags.skip p.rest) :
    ∃ pre after, cs = pre ++ after ∧ r.flags.skip r.rest = r.flags.skip after ∧
      (pre = [] ∧ p.flags = r.flags ∨ Decided p.flags pre) ∧
      ∀ next, Follows r.flags after next →
        ∃ rest, Reads (p.withRest (pre ++ next)) (r.withRest rest) ∧
          r.flags.skip rest = r.flags.skip next := by
  induction h generalizing cs with
  | refl p => exact ⟨[], cs, rfl, hcs.symm, .inl ⟨rfl, rfl⟩, fun next _ => ⟨next, .refl _, rfl⟩⟩
  | @step p q r hstep hrest ih =>
    obtain ⟨gap, token, after₁, rfl, htoken, hgap, hafter₁, hnext₁⟩ := next?_eq_some hstep hcs
    obtain ⟨pre, after, rfl, hafter, hpre, hnext⟩ := ih after₁ hafter₁.symm
    refine ⟨gap ++ (token ++ pre), after, by simp, hafter, .inr (htoken.append hgap pre),
      fun next hfollows => ?_⟩
    -- the token is followed by the rest of what is taken, or by what follows the run
    have hfollows₁ : Follows q.flags (pre ++ after) (pre ++ next) := by
      obtain ⟨rfl, hflags⟩ | hpre := hpre
      · rw [hflags]
        exact hfollows
      · exact .alike rfl rfl hpre
    obtain ⟨rest₁, hstep₁, hrest₁⟩ := hnext₁ _ hfollows₁
    obtain ⟨rest₂, hreads, hrest₂⟩ := hnext next hfollows
    obtain ⟨rest, hreads', hskip⟩ := hreads.congr hrest₁
    refine ⟨rest, ?_, hskip.trans hrest₂⟩
    rw [List.append_assoc, List.append_assoc]
    exact .step hstep₁ hreads'

/-! ## The whole text -/

theorem finish?_of_end (h : p.flags.skip p.rest = []) (n : Nat) :
    finish? n p = if p.outer.isEmpty then some p.level.close else none := by
  cases n <;> simp [finish?, h]

theorem length_skip_lt (h : p.next? = some q) :
    (q.flags.skip q.rest).length < (p.flags.skip p.rest).length := by
  obtain ⟨gap, token, after, hrest, htoken, hgap, hafter, -⟩ := next?_eq_some h rfl
  have hle := Flags.length_skip_le q.flags after
  have hpos := List.length_pos_iff.2 htoken.ne_nil
  rw [hafter, hrest, hgap, List.length_append]
  omega

theorem finish?_succ (hne : p.flags.skip p.rest ≠ []) (n : Nat) :
    finish? (n + 1) p = p.next?.bind (finish? n) := by
  rw [finish?, next?, if_neg hne]
  simp only [List.isEmpty_iff, if_neg hne]
  rfl

theorem finish?_of_stuck (h : p.next? = none) (hne : p.flags.skip p.rest ≠ []) (n : Nat) :
    finish? n p = none := by
  cases n with
  | zero => simp [finish?, hne]
  | succ n => rw [finish?_succ hne, h, Option.bind_none]

/-- The reader goes on from where a run leads as it does from where it began. -/
theorem finish?_of_reads (h : Reads p r) (hn : (p.flags.skip p.rest).length ≤ n) :
    ∃ m, finish? n p = finish? m r := by
  induction h generalizing n with
  | refl p => exact ⟨n, rfl⟩
  | @step p q r hstep hrest ih =>
    have hlt := length_skip_lt hstep
    have hne : p.flags.skip p.rest ≠ [] := List.length_pos_iff.1 (Nat.zero_lt_of_lt hlt)
    cases n with
    | zero => omega
    | succ n =>
      obtain ⟨m, hm⟩ := ih (Nat.le_of_lt_succ (hlt.trans_le hn))
      exact ⟨m, by rw [finish?_succ hne, hstep, Option.bind_some, hm]⟩

theorem exists_reads_of_end {item : Item} (hend : p.flags.skip p.rest = []) (h : finish? n p = some item) :
    ∃ r, Reads p r ∧ r.flags.skip r.rest = [] ∧ r.outer = [] ∧ item = r.level.close := by
  rw [finish?_of_end hend] at h
  split at h
  next houter =>
    cases h
    exact ⟨p, .refl p, hend, List.isEmpty_iff.1 houter, rfl⟩
  next => cases h

theorem exists_reads_of_finish? {item : Item} (h : finish? n p = some item) :
    ∃ r, Reads p r ∧ r.flags.skip r.rest = [] ∧ r.outer = [] ∧ item = r.level.close := by
  induction n generalizing p with
  | zero =>
    by_cases hend : p.flags.skip p.rest = []
    · exact exists_reads_of_end hend h
    · simp [finish?, hend] at h
  | succ n ih =>
    by_cases hend : p.flags.skip p.rest = []
    · exact exists_reads_of_end hend h
    · rw [finish?_succ hend] at h
      obtain ⟨q, hstep, hq⟩ := Option.bind_eq_some_iff.1 h
      obtain ⟨r, hreads, hr⟩ := ih hq
      exact ⟨r, .step hstep hreads, hr⟩

/-- The reader succeeds exactly where a run ends with its text outside all groups. -/
theorem finish?_eq_some_iff {item : Item} (hn : (p.flags.skip p.rest).length ≤ n) :
    finish? n p = some item ↔
      ∃ r, Reads p r ∧ r.flags.skip r.rest = [] ∧ r.outer = [] ∧ item = r.level.close := by
  constructor
  · exact exists_reads_of_finish?
  · rintro ⟨r, hreads, hend, houter, rfl⟩
    obtain ⟨m, hm⟩ := finish?_of_reads hreads hn
    rw [hm, finish?_of_end hend, houter]
    rfl

/-- The reader fails where a run gets stuck. -/
theorem finish?_of_reads_stuck (h : Reads p r) (hstuck : r.next? = none) (hne : r.flags.skip r.rest ≠ [])
    (hn : (p.flags.skip p.rest).length ≤ n) : finish? n p = none := by
  obtain ⟨m, hm⟩ := finish?_of_reads h hn
  rw [hm, finish?_of_stuck hstuck hne]

/-! ## Groups around -/

variable {outer : List Outer}

theorem next?_under (h : p.outer = [] → ∀ s, p.flags.skip p.rest ≠ ')' :: s) :
    (p.under outer).next? = p.next?.map (·.under outer) := by
  unfold next?
  rw [under_flags, under_rest]
  split
  next => rfl
  next => exact step?_under (p := p.withRest (p.flags.skip p.rest)) h

/-- No group can be left where none is open. -/
theorem next?_of_leave {s : List Char} (h : p.flags.skip p.rest = ')' :: s) (houter : p.outer = []) :
    p.next? = none := by
  rw [next?, h, if_neg (List.cons_ne_nil _ _), step?_cons]
  simp [Lead.of, stepBy?, leave?, houter]

theorem Reads.under (h : Reads p r) (outer : List Outer) : Reads (p.under outer) (r.under outer) := by
  induction h with
  | refl p => exact .refl _
  | @step p q r hstep hrest ih =>
    refine .step ?_ ih
    rw [next?_under, hstep, Option.map_some]
    intro houter s hs
    rw [next?_of_leave hs houter] at hstep
    cases hstep

/-- A run under groups is a run without them, unless it leaves the innermost of them. -/
theorem Reads.of_under (h : Reads (p.under outer) r) :
    (∃ r', Reads p r' ∧ r = r'.under outer) ∨
      ∃ r' s, Reads p r' ∧ r'.outer = [] ∧ r'.flags.skip r'.rest = ')' :: s := by
  generalize hp : p.under outer = p' at h
  induction h generalizing p with
  | refl => exact .inl ⟨p, .refl p, hp.symm⟩
  | @step p' q' r hstep hrest ih =>
    subst hp
    by_cases hleave : p.outer = [] ∧ ∃ s, p.flags.skip p.rest = ')' :: s
    · obtain ⟨houter, s, hs⟩ := hleave
      exact .inr ⟨p, s, .refl p, houter, hs⟩
    · rw [next?_under fun houter s hs => hleave ⟨houter, s, hs⟩, Option.map_eq_some_iff] at hstep
      obtain ⟨q, hq, rfl⟩ := hstep
      obtain ⟨r', hreads, hr'⟩ | ⟨r', s, hreads, houter, hs⟩ := ih rfl
      · exact .inl ⟨r', .step hq hreads, hr'⟩
      · exact .inr ⟨r', s, .step hq hreads, houter, hs⟩

end Progress

end RouteExpr.Pattern
