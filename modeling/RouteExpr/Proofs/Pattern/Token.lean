/-
The tokens of a pattern are read alike whatever follows them.

Each reader takes a token off the front of a text and leaves the rest, blanks and comments aside.
What it reads depends on the token alone, so with another text behind the token it reads the same.
The boundary of words is the one escape that looks ahead: a brace with a word makes it longer.
-/
import RouteExpr.Proofs.Pattern.Gap

namespace RouteExpr.Pattern

variable {flags : Flags} {cs rest ds : List Char} {n : Nat}

/-! ## Taking tokens -/

/-- A reader takes the same token alike before any text, and leaves that text. -/
def Takes {α : Type} (flags : Flags) (read : List Char → Option (α × List Char)) (x : α)
    (token : List Char) : Prop :=
  ∀ next, ∃ rest, read (token ++ next) = some (x, rest) ∧ flags.skip rest = flags.skip next

/-- What a reader takes off the front of a text is such a token, and what it leaves is behind that. -/
def TakesFrom {α : Type} (flags : Flags) (read : List Char → Option (α × List Char)) (x : α)
    (cs rest : List Char) : Prop :=
  ∃ token after, cs = token ++ after ∧ flags.skip rest = flags.skip after ∧ Takes flags read x token

/-! ## Hexadecimal digits -/

theorem takeHex_eq_some (h : takeHex flags n cs = some (ds, rest)) :
    ∃ token after, cs = token ++ after ∧ flags.skip rest = flags.skip after ∧
      (0 < n → token ≠ []) ∧ Takes flags (takeHex flags n) ds token := by
  induction n generalizing cs ds with
  | zero =>
    cases h
    exact ⟨[], rest, rfl, rfl, nofun, fun next => ⟨next, rfl, rfl⟩⟩
  | succ n ih =>
    cases cs with
    | nil => cases h
    | cons c cs =>
      rw [takeHex] at h
      split at h
      next hc =>
        obtain ⟨⟨ds, r⟩, hrest, heq⟩ := Option.map_eq_some_iff.1 h
        cases heq
        obtain ⟨token, after, hcs, hafter, -, hnext⟩ := ih hrest
        by_cases htoken : token = []
        · subst htoken
          refine ⟨[c], cs, rfl, ?_, fun _ => List.cons_ne_nil _ _, fun next => ?_⟩
          · rw [hafter, ← hcs.trans (List.nil_append after), Flags.skip_skip]
          · obtain ⟨rest', hread, hrest'⟩ := hnext (flags.skip next)
            refine ⟨rest', ?_, hrest'.trans (Flags.skip_skip flags next)⟩
            rw [List.nil_append] at hread
            simp [takeHex, hc, hread]
        · obtain ⟨gap, rfl, hgap⟩ := Flags.skip_eq_append hcs htoken
          refine ⟨c :: (gap ++ token), after, by simp, hafter, fun _ => List.cons_ne_nil _ _,
            fun next => ?_⟩
          obtain ⟨rest', hread, hrest'⟩ := hnext next
          refine ⟨rest', ?_, hrest'⟩
          rw [List.cons_append, List.append_assoc, takeHex, if_pos hc, hgap, hread]
          rfl
      next => cases h

/-! ## Texts before a brace -/

theorem takeBraced_eq_some (h : takeBraced flags n cs = some (ds, rest)) :
    ∃ token, token ≠ [] ∧ cs = token ++ rest ∧
      ∀ m, token.length ≤ m → ∀ next, takeBraced flags m (token ++ next) = some (ds, next) := by
  induction n generalizing cs ds with
  | zero => cases h
  | succ n ih =>
    cases cs with
    | nil => cases h
    | cons c cs =>
      rw [takeBraced] at h
      split at h
      next hc =>
        cases h
        refine ⟨[c], List.cons_ne_nil _ _, rfl, fun m hm next => ?_⟩
        cases m with
        | zero => cases hm
        | succ m => simp [takeBraced, hc]
      next hc =>
        obtain ⟨⟨ds, r⟩, hrest, heq⟩ := Option.map_eq_some_iff.1 h
        cases heq
        obtain ⟨token, htoken, hcs, hnext⟩ := ih hrest
        obtain ⟨gap, rfl, hgap⟩ := Flags.skip_eq_append hcs htoken
        refine ⟨c :: (gap ++ token), List.cons_ne_nil _ _, by simp, fun m hm next => ?_⟩
        rw [List.length_cons, List.length_append] at hm
        cases m with
        | zero => omega
        | succ m =>
          rw [List.cons_append, List.append_assoc, takeBraced, if_neg hc, hgap, hnext m (by omega)]
          rfl

/-- A word is what stands before a brace, if it has letters and hyphens only. -/
theorem takeWord_eq (flags : Flags) (n : Nat) (cs : List Char) :
    takeWord flags n cs =
      (takeBraced flags n cs).filter fun p => p.1.all fun c => c.isAlpha || c = '-' := by
  induction n generalizing cs with
  | zero => rfl
  | succ n ih =>
    cases cs with
    | nil => rfl
    | cons c cs =>
      rw [takeWord, takeBraced]
      by_cases hend : c = '\x7d'
      · rw [if_pos hend, if_pos hend]
        rfl
      · rw [if_neg hend, if_neg hend, ih]
        cases hread : takeBraced flags n (flags.skip cs) with
        | none => simp
        | some p =>
          by_cases hc : (c.isAlpha || c = '-') = true
          · by_cases hall : (p.1.all fun c => c.isAlpha || c = '-') = true
            · simp [Option.filter, hc, hall]
            · simp [Option.filter, hc, hall]
          · simp [Option.filter, hc]

theorem takeWord_eq_some (h : takeWord flags n cs = some (ds, rest)) :
    ∃ token, token ≠ [] ∧ cs = token ++ rest ∧
      ∀ m, token.length ≤ m → ∀ next, takeWord flags m (token ++ next) = some (ds, next) := by
  rw [takeWord_eq, Option.filter_eq_some_iff] at h
  obtain ⟨hread, hall⟩ := h
  obtain ⟨token, htoken, hcs, hnext⟩ := takeBraced_eq_some hread
  refine ⟨token, htoken, hcs, fun m hm next => ?_⟩
  rw [takeWord_eq, hnext m hm next, Option.filter_eq_some_iff]
  exact ⟨rfl, hall⟩

/-- What stands in braces, blanks and comments aside. -/
theorem takeBraced_skip_eq_some (h : takeBraced flags cs.length (flags.skip cs) = some (ds, rest)) :
    ∃ token, cs = token ++ rest ∧ ∀ next,
      takeBraced flags (token ++ next).length (flags.skip (token ++ next)) = some (ds, next) := by
  obtain ⟨token, htoken, hcs, hnext⟩ := takeBraced_eq_some h
  obtain ⟨gap, rfl, hgap⟩ := Flags.skip_eq_append hcs htoken
  refine ⟨gap ++ token, by simp, fun next => ?_⟩
  rw [List.append_assoc, hgap]
  exact hnext _ (by simp; omega) next

/-! ## Numbers of characters -/

theorem readHex_eq_some {count : Nat} {x : Char} (hcount : 0 < count)
    (h : readHex flags count cs = some (x, rest)) :
    ∃ token after, cs = token ++ after ∧ flags.skip rest = flags.skip after ∧
      (∀ next, (flags.skip (token ++ next)).head? = (flags.skip cs).head?) ∧
      Takes flags (readHex flags count) x token := by
  unfold readHex at h
  split at h
  next r hopen =>
    simp only [Option.bind_eq_bind, Option.bind_eq_some_iff, Prod.exists] at h
    obtain ⟨digits, rest₁, hbraced, h⟩ := h
    obtain ⟨gap, rfl, hgap⟩ := Flags.skip_eq_cons hopen
    obtain ⟨token, rfl, hnext⟩ := takeBraced_skip_eq_some hbraced
    split at h
    next => cases h
    next hdigits =>
      obtain ⟨y, hy, heq⟩ := Option.bind_eq_some_iff.1 h
      cases heq
      refine ⟨gap ++ '\x7b' :: token, rest₁, by simp, Flags.skip_skip flags rest₁, fun next => ?_,
        fun next => ⟨flags.skip next, ?_, Flags.skip_skip flags next⟩⟩
      · rw [List.append_assoc, List.cons_append, hgap, hopen]
        rfl
      · rw [List.append_assoc, List.cons_append]
        simp only [readHex, hgap, hnext next, Option.bind_eq_bind, Option.bind_some, if_neg hdigits, hy]
        rfl
  next r hopen =>
    simp only [Option.bind_eq_bind, Option.bind_eq_some_iff, Prod.exists] at h
    obtain ⟨digits, rest₁, hhex, y, hy, heq⟩ := h
    cases heq
    obtain ⟨token, after, hcs, hafter, htoken, hnext⟩ := takeHex_eq_some hhex
    obtain ⟨c, token, rfl⟩ := List.exists_cons_of_ne_nil (htoken hcount)
    obtain ⟨gap, rfl, hgap⟩ := Flags.skip_eq_append hcs (List.cons_ne_nil c token)
    have hc : c ≠ '\x7b' := by
      rintro rfl
      exact hopen _ hcs
    refine ⟨gap ++ c :: token, after, by simp, hafter, fun next => ?_, fun next => ?_⟩
    · rw [List.append_assoc, hgap, hcs]
      rfl
    · obtain ⟨rest', hread, hrest'⟩ := hnext next
      refine ⟨rest', ?_, hrest'⟩
      rw [List.append_assoc]
      simp only [readHex, hgap]
      split
      next r heq =>
        cases heq
        exact absurd rfl hc
      next =>
        simp only [hread, Option.bind_eq_bind, Option.bind_some, hy]
        rfl

theorem readHex_takes {count : Nat} {x : Char} (hcount : 0 < count)
    (h : readHex flags count cs = some (x, rest)) : TakesFrom flags (readHex flags count) x cs rest := by
  obtain ⟨token, after, hcs, hafter, -, htakes⟩ := readHex_eq_some hcount h
  exact ⟨token, after, hcs, hafter, htakes⟩

theorem readProperty_eq_some {negated : Bool} {set : CharSet}
    (h : readProperty flags negated cs = some (set, rest)) :
    TakesFrom flags (readProperty flags negated) set cs rest := by
  unfold readProperty at h
  split at h
  next => cases h
  next hunicode =>
    split at h
    next => cases h
    next r hopen =>
      simp only [Option.bind_eq_bind, Option.bind_eq_some_iff, Prod.exists] at h
      obtain ⟨text, rest₁, hbraced, chars, hchars, set₁, hset, heq⟩ := h
      cases heq
      obtain ⟨gap, rfl, hgap⟩ := Flags.skip_eq_cons hopen
      obtain ⟨token, rfl, hnext⟩ := takeBraced_skip_eq_some hbraced
      refine ⟨gap ++ '\x7b' :: token, rest, by simp, rfl, fun next => ⟨next, ?_, rfl⟩⟩
      rw [List.append_assoc, List.cons_append]
      simp only [readProperty, if_neg hunicode, hgap, hnext next, Option.bind_eq_bind, Option.bind_some,
        hchars, hset]
      rfl
    next c r hbrace hopen =>
      obtain ⟨gap, rfl, hgap⟩ := Flags.skip_eq_cons hopen
      split at h
      next => cases h
      next hslash =>
        simp only [Option.bind_eq_bind, Option.bind_eq_some_iff] at h
        obtain ⟨chars, hchars, set₁, hset, heq⟩ := h
        cases heq
        refine ⟨gap ++ [c], r, by simp, Flags.skip_skip flags r,
          fun next => ⟨flags.skip next, ?_, Flags.skip_skip flags next⟩⟩
        rw [List.append_assoc, List.singleton_append]
        simp only [readProperty, if_neg hunicode, hgap, if_neg hslash, Option.bind_eq_bind,
          Option.bind_some, hchars, hset]
        rfl

/-! ## Texts that may follow -/

/-- A text that is not all gap, and not a brace with nothing but a gap behind it. -/
def Decided (flags : Flags) (part : List Char) : Prop :=
  ∃ c r, flags.skip part = c :: r ∧ (c = '\x7b' → flags.skip r ≠ [])

theorem Decided.ne_nil {part : List Char} (h : Decided flags part) : part ≠ [] := by
  rintro rfl
  obtain ⟨c, r, hskip, -⟩ := h
  simp at hskip

/-- A decided part stays decided behind a gap and before any text. -/
theorem Decided.append {gap part : List Char} (h : Decided flags part)
    (hgap : ∀ next, flags.skip (gap ++ (part ++ next)) = part ++ next) (next : List Char) :
    Decided flags (gap ++ (part ++ next)) := by
  obtain ⟨c, r, hskip, hbrace⟩ := h
  have hpart : part ++ next = c :: r ++ next := by
    rw [← Flags.skip_append_of_eq hskip, ← hgap next, Flags.skip_skip]
  refine ⟨c, r ++ next, (hgap next).trans hpart, fun hc => ?_⟩
  rw [Flags.skip_append (hbrace hc)]
  simp [hbrace hc]

/-- A text that may follow a token instead of the one that does: none that the token could take up,
or one that begins alike. -/
inductive Follows (flags : Flags) (after next : List Char) : Prop where
  | quiet (h : ∀ c ∈ (flags.skip next).head?, c ≠ '?' ∧ c ≠ '\x7b')
  | alike {part r r' : List Char} (hafter : after = part ++ r) (hnext : next = part ++ r')
      (h : Decided flags part)

theorem Follows.head {after next r : List Char} {c : Char} (h : Follows flags after next)
    (hnext : next = c :: r) (hc : c = '?' ∨ c = '\x7b') : ∃ r', after = c :: r' := by
  have hskip : flags.skip next = c :: r := by
    subst hnext
    obtain rfl | rfl := hc
    · exact Flags.skip_cons rfl (by decide) r
    · exact Flags.skip_cons rfl (by decide) r
  cases h with
  | quiet h =>
    rw [hskip] at h
    obtain ⟨hquestion, hbrace⟩ := h c rfl
    cases hc with
    | inl h => exact absurd h hquestion
    | inr h => exact absurd h hbrace
  | @alike part r₁ r' hafter hnext' h =>
    obtain ⟨d, ds, hpart, -⟩ := h
    cases part with
    | nil => simp at hpart
    | cons d' ds' =>
      rw [hnext] at hnext'
      cases hnext'
      exact ⟨ds' ++ r₁, hafter⟩

theorem Follows.skip_head {after next r : List Char} {c : Char} (h : Follows flags after next)
    (hnext : flags.skip next = c :: r) (hc : c = '?' ∨ c = '\x7b') :
    ∃ r', flags.skip after = c :: r' := by
  cases h with
  | quiet h =>
    rw [hnext] at h
    obtain ⟨hquestion, hbrace⟩ := h c rfl
    cases hc with
    | inl h => exact absurd h hquestion
    | inr h => exact absurd h hbrace
  | @alike part r₁ r' hafter hnext' h =>
    obtain ⟨d, ds, hpart, -⟩ := h
    rw [hnext', Flags.skip_append_of_eq hpart, List.cons_append, List.cons.injEq] at hnext
    exact ⟨ds ++ r₁, by rw [hafter, Flags.skip_append_of_eq hpart, hnext.1, List.cons_append]⟩

theorem Follows.brace {r r' ds : List Char} {c : Char} (h : Follows flags ('\x7b' :: r) ('\x7b' :: r'))
    (hskip : flags.skip r = c :: ds) : ∃ ds', flags.skip r' = c :: ds' := by
  cases h with
  | quiet h =>
    rw [Flags.skip_cons rfl (by decide)] at h
    exact absurd rfl (h _ rfl).2
  | @alike part r₁ r₂ hafter hnext h =>
    obtain ⟨d, ds, hpart, hdecided⟩ := h
    cases part with
    | nil => simp at hpart
    | cons d' part =>
      rw [List.cons_append, List.cons.injEq] at hafter hnext
      obtain ⟨rfl, rfl⟩ := hafter
      obtain ⟨-, rfl⟩ := hnext
      rw [Flags.skip_cons rfl (by decide)] at hpart
      cases hpart
      rw [Flags.skip_append (hdecided rfl)] at hskip
      rw [Flags.skip_append (hdecided rfl)]
      obtain ⟨e, es, hes⟩ := List.exists_cons_of_ne_nil (hdecided rfl)
      rw [hes] at hskip ⊢
      cases hskip
      exact ⟨_, rfl⟩

/-! ## Escapes -/

/-- What a word is made of under flags. -/
def Flags.wordKind (flags : Flags) : WordKind :=
  if flags.unicode then .unicode else .ascii

/-- The assertion that a word in braces names. -/
def wordLook? (kind : WordKind) (word : List Char) : Option Look :=
  match String.ofList word with
  | "start" => some (.wordStart kind)
  | "end" => some (.wordEnd kind)
  | "start-half" => some (.halfStart kind)
  | "end-half" => some (.halfEnd kind)
  | _ => none

theorem readBoundary_brace {c : Char} {r ds : List Char} (h : flags.skip r = c :: ds) :
    readBoundary flags ('\x7b' :: r) =
      if c.isAlpha || c = '-' then
        (takeWord flags r.length (c :: ds)).bind fun p => (wordLook? flags.wordKind p.1).map (·, p.2)
      else some (.wordBoundary flags.wordKind, '\x7b' :: r) := by
  simp only [readBoundary, h]
  change (if _ then _ else some (Look.wordBoundary flags.wordKind, _)) = _
  congr 1
  change (takeWord flags r.length (c :: ds)).bind _ = _
  congr 1
  funext p
  unfold wordLook?
  generalize String.ofList p.1 = word
  split
  next => rfl
  next => rfl
  next => rfl
  next => rfl
  next => simp

theorem readBoundary_of_ne (h : ∀ r, cs ≠ '\x7b' :: r) :
    readBoundary flags cs = some (.wordBoundary flags.wordKind, cs) := by
  simp only [readBoundary, Flags.wordKind]

theorem readBoundary_eq_some {l : Look} (h : readBoundary flags cs = some (l, rest)) :
    ∃ token, cs = token ++ rest ∧
      ∀ next, Follows flags rest next → readBoundary flags (token ++ next) = some (l, next) := by
  by_cases hbrace : ∃ r, cs = '\x7b' :: r
  · obtain ⟨r, rfl⟩ := hbrace
    cases hskip : flags.skip r with
    | nil => simp [readBoundary, hskip] at h
    | cons c ds =>
      rw [readBoundary_brace hskip] at h
      split at h
      next hc =>
        obtain ⟨⟨word, rest₁⟩, htake, hlook⟩ := Option.bind_eq_some_iff.1 h
        obtain ⟨l, hl, heq⟩ := Option.map_eq_some_iff.1 hlook
        cases heq
        obtain ⟨token, htoken, hcs, hread⟩ := takeWord_eq_some htake
        obtain ⟨d, token, rfl⟩ := List.exists_cons_of_ne_nil htoken
        rw [List.cons_append, List.cons.injEq] at hcs
        obtain ⟨rfl, rfl⟩ := hcs
        obtain ⟨gap, rfl, hgap⟩ := Flags.skip_eq_cons hskip
        refine ⟨'\x7b' :: (gap ++ c :: token), by simp, fun next _ => ?_⟩
        rw [List.cons_append, List.append_assoc, List.cons_append, readBoundary_brace (hgap _), if_pos hc,
          ← List.cons_append, hread _ (by simp; omega)]
        simp [hl]
      next hc =>
        cases h
        refine ⟨[], rfl, fun next hfollows => ?_⟩
        rw [List.nil_append]
        by_cases hnext : ∃ r', next = '\x7b' :: r'
        · obtain ⟨r', rfl⟩ := hnext
          obtain ⟨ds', hskip'⟩ := hfollows.brace hskip
          rw [readBoundary_brace hskip', if_neg hc]
        · rw [readBoundary_of_ne fun r' hr' => hnext ⟨r', hr'⟩]
  · have hne : ∀ r, cs ≠ '\x7b' :: r := fun r hr => hbrace ⟨r, hr⟩
    rw [readBoundary_of_ne hne] at h
    cases h
    refine ⟨[], rfl, fun next hfollows => ?_⟩
    rw [List.nil_append, readBoundary_of_ne]
    rintro r rfl
    obtain ⟨r', hr'⟩ := hfollows.head rfl (.inr rfl)
    exact hne r' hr'

/-- An escape is read alike as far as what stands behind its letter is. -/
theorem readEscape_of_takes {α : Type} (f : List Char → Option (α × List Char)) (toAtom : α → Atom)
    {c : Char} {a : Atom}
    (hescape : ∀ ds, readEscape flags (c :: ds) = (f ds).map fun p => (toAtom p.1, p.2))
    (hf : ∀ x rest, f cs = some (x, rest) → TakesFrom flags f x cs rest)
    (h : readEscape flags (c :: cs) = some (a, rest)) :
    TakesFrom flags (readEscape flags) a (c :: cs) rest := by
  rw [hescape] at h
  obtain ⟨⟨x, r⟩, hread, heq⟩ := Option.map_eq_some_iff.1 h
  cases heq
  obtain ⟨token, after, rfl, hafter, htakes⟩ := hf x r hread
  refine ⟨c :: token, after, rfl, hafter, fun next => ?_⟩
  obtain ⟨rest', hread', hrest'⟩ := htakes next
  refine ⟨rest', ?_, hrest'⟩
  rw [List.cons_append, hescape, hread']
  rfl

theorem readEscape_hex {a : Atom} (h : readEscape flags ('x' :: cs) = some (a, rest)) :
    TakesFrom flags (readEscape flags) a ('x' :: cs) rest := by
  obtain ⟨⟨x, r⟩, hread, heq⟩ := Option.map_eq_some_iff.1 h
  cases heq
  obtain ⟨token, after, rfl, hafter, hhead, htakes⟩ := readHex_eq_some (by decide) hread
  refine ⟨'x' :: token, after, rfl, hafter, fun next => ?_⟩
  obtain ⟨rest', hread', hrest'⟩ := htakes next
  refine ⟨rest', ?_, hrest'⟩
  simp [readEscape, hread', hhead]

theorem readEscape_boundary {a : Atom} (h : readEscape flags ('b' :: cs) = some (a, rest)) :
    ∃ token, 'b' :: cs = token ++ rest ∧
      ∀ next, Follows flags rest next → readEscape flags (token ++ next) = some (a, next) := by
  obtain ⟨⟨l, r⟩, hread, heq⟩ := Option.map_eq_some_iff.1 h
  cases heq
  obtain ⟨token, rfl, htakes⟩ := readBoundary_eq_some hread
  refine ⟨'b' :: token, rfl, fun next hfollows => ?_⟩
  simp [readEscape, htakes next hfollows]

theorem map_prod_eq_some {α β : Type} {k : Option α} {g : α → β} {b : β}
    (h : (k.map fun x => (g x, cs)) = some (b, rest)) :
    rest = cs ∧ ∀ ds : List Char, (k.map fun x => (g x, ds)) = some (b, ds) := by
  obtain ⟨x, rfl, heq⟩ := Option.map_eq_some_iff.1 h
  cases heq
  exact ⟨rfl, fun _ => rfl⟩

/-- The escapes that are one letter. -/
theorem readEscape_letter {a : Atom} {c : Char} (hc : c ∉ ['x', 'u', 'U', 'p', 'P', 'b'])
    (h : readEscape flags (c :: cs) = some (a, rest)) :
    rest = cs ∧ ∀ ds, readEscape flags (c :: ds) = some (a, ds) := by
  simp only [List.mem_cons, List.not_mem_nil, or_false, not_or] at hc
  obtain ⟨hx, hu, hU, hp, hP, hb⟩ := hc
  unfold readEscape at h ⊢
  simp only at h ⊢
  split at h
  next => exact absurd rfl hx
  next => exact absurd rfl hu
  next => exact absurd rfl hU
  next => exact absurd rfl hp
  next => exact absurd rfl hP
  next => cases h; exact ⟨rfl, fun _ => rfl⟩
  next => cases h; exact ⟨rfl, fun _ => rfl⟩
  next => cases h; exact ⟨rfl, fun _ => rfl⟩
  next => cases h; exact ⟨rfl, fun _ => rfl⟩
  next => cases h; exact ⟨rfl, fun _ => rfl⟩
  next => exact absurd rfl hb
  next =>
    split at h
    next hclass => simpa only [hclass, if_true] using map_prod_eq_some h
    next hclass =>
      split at h
      next hletter => simpa only [if_neg hclass, if_pos hletter] using map_prod_eq_some h
      next hletter =>
        split at h
        next hascii =>
          cases h
          exact ⟨rfl, fun _ => by rw [if_neg hclass, if_neg hletter, if_pos hascii]⟩
        next => cases h

/-- An escape is read alike before any text, unless it is an assertion: then what follows must not make it
longer. -/
theorem readEscape_eq_some {a : Atom} (h : readEscape flags cs = some (a, rest)) :
    ∃ token after, cs = token ++ after ∧ flags.skip rest = flags.skip after ∧
      ∀ next, (∀ l, a = .look l → Follows flags after next) →
        ∃ rest', readEscape flags (token ++ next) = some (a, rest') ∧
          flags.skip rest' = flags.skip next := by
  have hany (h : TakesFrom flags (readEscape flags) a cs rest) :
      ∃ token after, cs = token ++ after ∧ flags.skip rest = flags.skip after ∧
        ∀ next, (∀ l, a = .look l → Follows flags after next) →
          ∃ rest', readEscape flags (token ++ next) = some (a, rest') ∧
            flags.skip rest' = flags.skip next := by
    obtain ⟨token, after, hcs, hafter, htakes⟩ := h
    exact ⟨token, after, hcs, hafter, fun next _ => htakes next⟩
  cases cs with
  | nil => cases h
  | cons c cs =>
    by_cases hc : c ∈ ['x', 'u', 'U', 'p', 'P', 'b']
    · simp only [List.mem_cons, List.not_mem_nil, or_false] at hc
      obtain rfl | rfl | rfl | rfl | rfl | rfl := hc
      · exact hany (readEscape_hex h)
      · exact hany (readEscape_of_takes (readHex flags 4) (.char · false) (fun _ => rfl)
          (fun _ _ => readHex_takes (by decide)) h)
      · exact hany (readEscape_of_takes (readHex flags 8) (.char · false) (fun _ => rfl)
          (fun _ _ => readHex_takes (by decide)) h)
      · exact hany (readEscape_of_takes (readProperty flags false) .set (fun _ => rfl)
          (fun _ _ => readProperty_eq_some) h)
      · exact hany (readEscape_of_takes (readProperty flags true) .set (fun _ => rfl)
          (fun _ _ => readProperty_eq_some) h)
      · obtain ⟨l, hl⟩ : ∃ l, a = .look l := by
          obtain ⟨p, -, heq⟩ := Option.map_eq_some_iff.1 h
          cases heq
          exact ⟨p.1, rfl⟩
        obtain ⟨token, hcs, htakes⟩ := readEscape_boundary h
        exact ⟨token, rest, hcs, rfl, fun next hfollows => ⟨next, htakes next (hfollows l hl), rfl⟩⟩
    · obtain ⟨rfl, hread⟩ := readEscape_letter hc h
      exact hany ⟨[c], rest, rfl, rfl, fun next => ⟨next, hread next, rfl⟩⟩

end RouteExpr.Pattern
