/-
Markers, blocks and quoted texts, character by character.

Whether a text starts with a marker is decided by its first characters, and no character that ends
a token is part of a marker. So what is cut off a text stays the same when the text goes on, and
when a text without a marker is put in front of one that starts with a marker, none arises between
the two.
-/
import RouteExpr.Predicate.Reader
import Mathlib.Data.List.TakeWhile
import Mathlib.Tactic

namespace RouteExpr

open Lexer Predicate

/-! ## Markers at the start of a text -/

/-- Whether a character stands in a marker. -/
def Marker.holds (c : Char) : Prop :=
  ∃ m : Marker, c ∈ m.chars

instance (c : Char) : Decidable (Marker.holds c) :=
  decidable_of_iff (c ∈ Marker.short.chars ∨ c ∈ Marker.long.chars) <| by
    constructor
    · rintro (h | h); exacts [⟨_, h⟩, ⟨_, h⟩]
    · rintro ⟨m, h⟩; cases m; exacts [.inl h, .inr h]

theorem not_holds_of_isBlank {c : Char} (h : Text.isBlank c = true) : ¬ Marker.holds c := by
  have all : ∀ m : Marker, ∀ d ∈ m.chars, Text.isBlank d = false := by
    intro m
    cases m <;> simp [Marker.chars, Text.isBlank]
  rintro ⟨m, hm⟩
  rw [all m c hm] at h
  cases h

theorem Marker.chars_eq_cons (m : Marker) : ∃ rest, m.chars = '$' :: rest := by
  cases m <;> exact ⟨_, rfl⟩

theorem startsMarker_iff {cs : List Char} :
    startsMarker cs = true ↔ ∃ m : Marker, m.chars <+: cs := by
  unfold startsMarker markerAt?
  split
  · rename_i h; simp only [Option.isSome_some, true_iff]
    exact ⟨.short, List.isPrefixOf_iff_prefix.1 h⟩
  · rename_i h
    split
    · rename_i h'; simp only [Option.isSome_some, true_iff]
      exact ⟨.long, List.isPrefixOf_iff_prefix.1 h'⟩
    · rename_i h'
      simp only [Option.isSome_none, Bool.false_eq_true, false_iff]
      rintro ⟨m, hm⟩
      cases m
      · exact h (List.isPrefixOf_iff_prefix.2 hm)
      · exact h' (List.isPrefixOf_iff_prefix.2 hm)

/-- A marker at the start of a text is found, whatever follows. -/
theorem markerAt?_chars (m : Marker) (rest : List Char) : markerAt? (m.chars ++ rest) = some m := by
  cases m <;> rfl

theorem markerAt?_eq_some {cs : List Char} {m : Marker} (h : markerAt? cs = some m) :
    cs = m.chars ++ cs.drop m.chars.length := by
  unfold markerAt? at h
  have found {n : Marker} (hn : n.chars.isPrefixOf cs = true) :
      cs = n.chars ++ cs.drop n.chars.length := by
    obtain ⟨rest, rfl⟩ := List.isPrefixOf_iff_prefix.1 hn
    rw [List.drop_left]
  split at h
  · cases h; exact found (by assumption)
  · split at h
    · cases h; exact found (by assumption)
    · cases h

theorem startsMarker_append {u : List Char} (v : List Char) (h : startsMarker u = true) :
    startsMarker (u ++ v) = true := by
  obtain ⟨m, hm⟩ := startsMarker_iff.1 h
  exact startsMarker_iff.2 ⟨m, hm.trans (List.prefix_append u v)⟩

/-- A text that starts with no marker has none at the start of any part it begins with. -/
theorem startsMarker_of_append {u v : List Char} (h : startsMarker (u ++ v) = false) :
    startsMarker u = false := by
  by_contra hu
  rw [startsMarker_append v (by simpa using hu)] at h
  cases h

/-- A prefix of a text that goes on past `c` either ends before `c` or has it. -/
theorem prefix_append_cons {p u v : List Char} {c : Char} (h : p <+: u ++ c :: v) :
    p <+: u ∨ ∃ w, p = u ++ c :: w := by
  rcases List.prefix_or_prefix_of_prefix h (List.prefix_append u _) with h' | ⟨w, rfl⟩
  · exact .inl h'
  · cases w with
    | nil => exact .inl (by simp)
    | cons d w =>
      rw [List.prefix_append_right_inj, List.cons_prefix_cons] at h
      exact .inr ⟨w, by rw [h.1]⟩

/-- A character that stands in no marker ends what has to be looked at to find one. -/
theorem markerAt?_append_of_not_holds {u v : List Char} {c : Char} (hc : ¬ Marker.holds c) :
    markerAt? (u ++ c :: v) = markerAt? u := by
  have same (m : Marker) : m.chars.isPrefixOf (u ++ c :: v) = m.chars.isPrefixOf u := by
    rw [Bool.eq_iff_iff, List.isPrefixOf_iff_prefix, List.isPrefixOf_iff_prefix]
    refine ⟨fun h => ?_, fun h => h.trans (List.prefix_append _ _)⟩
    rcases prefix_append_cons h with h | ⟨w, hw⟩
    · exact h
    · exact absurd ⟨m, by rw [hw]; simp⟩ hc
  unfold markerAt?
  rw [same, same]

theorem startsMarker_append_of_not_holds {u v : List Char} {c : Char} (hc : ¬ Marker.holds c) :
    startsMarker (u ++ c :: v) = startsMarker u := by
  unfold startsMarker
  rw [markerAt?_append_of_not_holds hc]

/-- The first character of a marker stands nowhere else in one. -/
theorem startsMarker_append_dollar {u v : List Char} (hu : u ≠ []) :
    startsMarker (u ++ '$' :: v) = startsMarker u := by
  rw [Bool.eq_iff_iff]
  refine ⟨fun h => ?_, startsMarker_append _⟩
  obtain ⟨m, hm⟩ := startsMarker_iff.1 h
  rcases prefix_append_cons hm with hm | ⟨w, hw⟩
  · exact startsMarker_iff.2 ⟨m, hm⟩
  · -- a marker that reached past `u` would have its first character twice
    obtain ⟨d, u, rfl⟩ := List.exists_cons_of_ne_nil hu
    have : '$' ∈ m.chars.tail := by rw [hw]; simp
    cases m <;> exact absurd this (by decide)

theorem startsMarker_cons_of_ne {c : Char} {cs : List Char} (hc : c ≠ '$') :
    startsMarker (c :: cs) = false := by
  by_contra h
  obtain ⟨m, hm⟩ := startsMarker_iff.1 (by simpa using h)
  cases m <;> exact hc (List.cons_prefix_cons.1 hm).1.symm

theorem startsMarker_eq_cons {cs : List Char} (h : startsMarker cs = true) :
    ∃ rest, cs = '$' :: rest := by
  obtain ⟨m, rest, rfl⟩ := startsMarker_iff.1 h
  cases m <;> exact ⟨_, rfl⟩

/-! ## Blanks at the start of a text -/

section Blanks

variable {cs : List Char}

theorem no_blanks (h : ∀ c ∈ cs.head?, Text.isBlank c = false) :
    cs.takeWhile Text.isBlank = [] ∧ cs.dropWhile Text.isBlank = cs := by
  cases cs with
  | nil => exact ⟨rfl, rfl⟩
  | cons c cs =>
    have hc := h c rfl
    rw [List.takeWhile_cons_of_neg (by rw [hc]; decide),
      List.dropWhile_cons_of_neg (by rw [hc]; decide)]
    exact ⟨rfl, rfl⟩

/-- Blanks that end before the text does end at the same place when it goes on. -/
theorem blanks_append (tail : List Char) (h : cs.dropWhile Text.isBlank ≠ []) :
    (cs ++ tail).takeWhile Text.isBlank = cs.takeWhile Text.isBlank ∧
      (cs ++ tail).dropWhile Text.isBlank = cs.dropWhile Text.isBlank ++ tail := by
  have hlen : (cs.takeWhile Text.isBlank).length ≠ cs.length := by
    intro hl
    have := congrArg List.length (List.takeWhile_append_dropWhile (p := Text.isBlank) (l := cs))
    rw [List.length_append, hl] at this
    exact h (List.length_eq_zero_iff.1 (by omega))
  rw [List.takeWhile_append, if_neg hlen, List.dropWhile_append, if_neg (by simpa using h)]
  exact ⟨rfl, rfl⟩

/-- Blanks up to the end of a text are taken up by those that follow. -/
theorem blanks_append_of_blank (tail : List Char)
    (h : cs.dropWhile Text.isBlank = []) :
    (cs ++ tail).takeWhile Text.isBlank = cs ++ tail.takeWhile Text.isBlank ∧
      (cs ++ tail).dropWhile Text.isBlank = tail.dropWhile Text.isBlank := by
  rw [List.takeWhile_append_of_pos (List.dropWhile_eq_nil_iff.1 h), List.dropWhile_append, h]
  exact ⟨rfl, rfl⟩

end Blanks

/-! ## Texts up to a place -/

/-- A text is cut at the first place where what follows stops it, or not at all. -/
theorem takeUntil_spec (stop : List Char → Bool) (cs : List Char) :
    cs = (takeUntil stop cs).1 ++ (takeUntil stop cs).2 ∧
      ((takeUntil stop cs).2 ≠ [] → stop (takeUntil stop cs).2 = true) ∧
      ∀ u v, (takeUntil stop cs).1 = u ++ v → v ≠ [] → stop (v ++ (takeUntil stop cs).2) = false := by
  induction cs with
  | nil => simp [takeUntil]
  | cons c cs ih =>
    obtain ⟨h1, h2, h3⟩ := ih
    unfold takeUntil
    split
    · rename_i hs
      refine ⟨rfl, fun _ => hs, fun u v huv hv => ?_⟩
      exact absurd (List.append_eq_nil_iff.1 huv.symm).2 hv
    · rename_i hs
      refine ⟨by simpa using h1, h2, fun u v huv hv => ?_⟩
      cases u with
      | nil =>
        rw [List.nil_append] at huv
        rw [← huv, List.cons_append, ← h1]; simpa using hs
      | cons d u =>
        exact h3 u v (List.cons.inj huv).2 hv

/-- A text that is stopped nowhere inside, and then at once, is cut off whole. -/
theorem takeUntil_append {stop : List Char → Bool} {rest : List Char}
    (hrest : rest = [] ∨ stop rest = true) :
    ∀ {cs : List Char}, (∀ u v, cs = u ++ v → v ≠ [] → stop (v ++ rest) = false) →
      takeUntil stop (cs ++ rest) = (cs, rest)
  | [], _ => by
    rcases hrest with rfl | h
    · rfl
    · cases rest with
      | nil => rfl
      | cons c cs => simp only [List.nil_append, takeUntil, h, if_true]
  | c :: cs, h => by
    have hc := h [] (c :: cs) rfl (by simp)
    have ih : takeUntil stop (cs ++ rest) = (cs, rest) := takeUntil_append hrest fun u v huv hv =>
      h (c :: u) v (by rw [huv, List.cons_append]) hv
    rw [List.cons_append] at hc ⊢
    simp only [takeUntil, hc, Bool.false_eq_true, if_false, ih]

/-! ## Blocks -/

theorem not_holds_brace : ¬ Marker.holds '\x7d' := by decide

theorem takeBlock_eq_some {d : Nat} {cs body rest : List Char}
    (h : takeBlock d cs = some (body, rest)) : cs = body ++ '\x7d' :: rest := by
  induction cs generalizing d body with
  | nil => cases h
  | cons c cs ih =>
    unfold takeBlock at h
    split at h
    · rename_i hc
      subst hc
      cases d with
      | zero => cases h; rfl
      | succ d =>
        obtain ⟨⟨b, r⟩, hb, he⟩ := Option.map_eq_some_iff.1 h
        cases he
        rw [ih hb, List.cons_append]
    · obtain ⟨⟨b, r⟩, hb, he⟩ := Option.map_eq_some_iff.1 h
      cases he
      rw [ih hb, List.cons_append]

/-- A block ends at the same brace when the text goes on. -/
theorem takeBlock_append {d : Nat} {cs body rest : List Char} (more : List Char)
    (h : takeBlock d cs = some (body, rest)) :
    takeBlock d (cs ++ more) = some (body, rest ++ more) := by
  induction cs generalizing d body with
  | nil => cases h
  | cons c cs ih =>
    rw [List.cons_append]
    unfold takeBlock at h ⊢
    split at h
    · rename_i hc
      rw [if_pos hc]
      cases d with
      | zero => cases h; rfl
      | succ d =>
        obtain ⟨⟨b, r⟩, hb, he⟩ := Option.map_eq_some_iff.1 h
        cases he
        simp only [ih hb, Option.map_some]
    · rename_i hc
      rw [if_neg hc]
      obtain ⟨⟨b, r⟩, hb, he⟩ := Option.map_eq_some_iff.1 h
      cases he
      -- a marker that starts here ends before the closing brace
      have hs : startsMarker (c :: (cs ++ more)) = startsMarker (c :: cs) := by
        rw [takeBlock_eq_some hb, List.append_assoc, List.cons_append, ← List.cons_append,
          startsMarker_append_of_not_holds not_holds_brace, ← List.cons_append,
          startsMarker_append_of_not_holds not_holds_brace]
      rw [hs, ih hb]; rfl

/-- A block inside a block opens with its whole marker. -/
theorem takeBlock_marker (depth : Nat) (m : Marker) (cs : List Char) :
    takeBlock depth (m.chars ++ cs) =
      (takeBlock (depth + 1) cs).map fun r => (m.chars ++ r.1, r.2) := by
  have dollar (ds : List Char) (h : Lexer.startsMarker ('$' :: ds) = true) :
      takeBlock depth ('$' :: ds) =
        (takeBlock (depth + 1) ds).map fun r => ('$' :: r.1, r.2) := by
    conv_lhs => unfold takeBlock
    simp only [h, if_true]
    rfl
  -- the characters of a marker after its first neither open nor close anything
  have skip (ch : Char) (ds : List Char) (hb : ch ≠ '\x7d') (hd : ch ≠ '$') :
      takeBlock (depth + 1) (ch :: ds) =
        (takeBlock (depth + 1) ds).map fun r => (ch :: r.1, r.2) := by
    rw [takeBlock]
    simp only [hb, startsMarker_cons_of_ne hd, Bool.false_eq_true, if_false]
  have hm : Lexer.startsMarker (m.chars ++ cs) = true := by
    rw [Lexer.startsMarker, markerAt?_chars]; rfl
  cases m with
  | short =>
    rw [Marker.chars, List.cons_append] at hm ⊢
    rw [dollar _ hm, List.cons_append, skip _ _ (by decide) (by decide), List.nil_append,
      Option.map_map]
    rfl
  | long =>
    rw [Marker.chars, List.cons_append] at hm ⊢
    rw [dollar _ hm]
    simp only [List.cons_append, List.nil_append]
    repeat rw [skip _ _ (by decide) (by decide)]
    simp only [Option.map_map]
    rfl

/-! ## Quoted texts -/

theorem takeQuoted_eq_some {q : Char} {cs text rest : List Char}
    (h : takeQuoted q cs = some (text, rest)) : cs = text ++ q :: rest ∧ q ∉ text := by
  induction cs generalizing text with
  | nil => cases h
  | cons c cs ih =>
    unfold takeQuoted at h
    split at h
    · rename_i hc; cases h; exact ⟨by rw [hc]; rfl, by simp⟩
    · rename_i hc
      obtain ⟨⟨b, r⟩, hb, he⟩ := Option.map_eq_some_iff.1 h
      cases he
      obtain ⟨h1, h2⟩ := ih hb
      exact ⟨by rw [h1, List.cons_append], by simp [h2, Ne.symm hc]⟩

/-- A text without the quote ends before the next quote. -/
theorem takeQuoted_of_not_mem {q : Char} {text rest : List Char} (h : q ∉ text) :
    takeQuoted q (text ++ q :: rest) = some (text, rest) := by
  induction text with
  | nil => simp [takeQuoted]
  | cons c cs ih =>
    have hc : c ≠ q := fun hc => h (by rw [hc]; exact List.mem_cons_self)
    rw [List.cons_append, takeQuoted, if_neg hc, ih fun h' => h (List.mem_cons_of_mem _ h')]
    rfl

theorem takeQuoted_append {q : Char} {cs text rest : List Char} (more : List Char)
    (h : takeQuoted q cs = some (text, rest)) :
    takeQuoted q (cs ++ more) = some (text, rest ++ more) := by
  induction cs generalizing text with
  | nil => cases h
  | cons c cs ih =>
    rw [List.cons_append]
    unfold takeQuoted at h ⊢
    split at h
    · rename_i hc; rw [if_pos hc]; cases h; rfl
    · rename_i hc
      rw [if_neg hc]
      obtain ⟨⟨b, r⟩, hb, he⟩ := Option.map_eq_some_iff.1 h
      cases he
      rw [ih hb]; rfl

/-! ## Markers anywhere in a text -/

theorem hasMarker_iff {cs : List Char} :
    hasMarker cs = true ↔ ∃ u v, cs = u ++ v ∧ startsMarker v = true := by
  induction cs with
  | nil =>
    simp only [hasMarker, Bool.false_eq_true, false_iff]
    rintro ⟨u, v, h, hv⟩
    rw [(List.append_eq_nil_iff.1 h.symm).2] at hv
    exact absurd hv (by decide)
  | cons c cs ih =>
    simp only [hasMarker, Bool.or_eq_true, ih]
    constructor
    · rintro (h | ⟨u, v, rfl, hv⟩)
      · exact ⟨[], _, rfl, h⟩
      · exact ⟨c :: u, v, rfl, hv⟩
    · rintro ⟨u, v, h, hv⟩
      cases u with
      | nil => rw [List.nil_append] at h; exact .inl (h ▸ hv)
      | cons d u => exact .inr ⟨u, v, (List.cons.inj h).2, hv⟩

/-- A text has a marker in it where the characters of one stand in it. -/
theorem hasMarker_iff_infix {cs : List Char} :
    hasMarker cs = true ↔ ∃ m : Marker, m.chars <:+: cs := by
  rw [hasMarker_iff]
  constructor
  · rintro ⟨u, v, rfl, hv⟩
    obtain ⟨m, rest, rfl⟩ := startsMarker_iff.1 hv
    exact ⟨m, u, rest, List.append_assoc _ _ _⟩
  · rintro ⟨m, u, rest, rfl⟩
    exact ⟨u, m.chars ++ rest, List.append_assoc _ _ _, startsMarker_iff.2 ⟨m, rest, rfl⟩⟩

theorem hasMarker_eq_false_iff {cs : List Char} :
    hasMarker cs = false ↔ ∀ u v, cs = u ++ v → startsMarker v = false := by
  rw [← Bool.not_eq_true, hasMarker_iff]
  constructor
  · intro h u v huv
    by_contra hv
    exact h ⟨u, v, huv, by simpa using hv⟩
  · rintro h ⟨u, v, huv, hv⟩
    rw [h u v huv] at hv
    cases hv

/-- A text without a marker is cut off whole where the text ends or a marker follows. -/
theorem takeUntil_startsMarker {cs rest : List Char} (h : hasMarker cs = false)
    (hrest : rest = [] ∨ startsMarker rest = true) :
    takeUntil startsMarker (cs ++ rest) = (cs, rest) := by
  refine takeUntil_append hrest fun u v huv hv => ?_
  have hm := hasMarker_eq_false_iff.1 h u v huv
  rcases hrest with rfl | hr
  · rwa [List.append_nil]
  · obtain ⟨r, rfl⟩ := startsMarker_eq_cons hr
    rwa [startsMarker_append_dollar hv]

end RouteExpr
