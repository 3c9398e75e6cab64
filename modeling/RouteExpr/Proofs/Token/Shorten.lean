/-
Texts with all their markers written short.

A marker is one thing to whatever looks for one, however it is written: it opens a block, it ends plain
text and bare words, and nothing else looks at its characters. So what is cut off a text is the same when
its markers are written another way, but for the markers in it, and so is what is left.
-/
import RouteExpr.Proofs.Text.Find
import RouteExpr.Proofs.Token.Separate

namespace RouteExpr

open Lexer Predicate

/-! ## Markers written short -/

/-- A text with every marker written short. -/
def shorten : List Char → List Char
  | [] => []
  | c :: cs =>
    match markerAt? (c :: cs) with
    | some m =>
      have : 1 ≤ m.chars.length := by cases m <;> decide
      Marker.short.chars ++ shorten ((c :: cs).drop m.chars.length)
    | none => c :: shorten cs
termination_by cs => cs.length

section Shorten

variable {c : Char} {cs ds p u v : List Char}

@[simp] theorem shorten_nil : shorten [] = [] := by
  rw [shorten]

@[simp] theorem shorten_chars (m : Marker) (cs : List Char) :
    shorten (m.chars ++ cs) = Marker.short.chars ++ shorten cs := by
  obtain ⟨tail, hm⟩ := m.chars_eq_cons
  have hmark : markerAt? ('$' :: (tail ++ cs)) = some m := by
    rw [← List.cons_append, ← hm, markerAt?_chars]
  have hdrop : ('$' :: (tail ++ cs)).drop m.chars.length = cs := by
    rw [← List.cons_append, ← hm, List.drop_left]
  rw [hm, List.cons_append, shorten]
  split
  · rename_i m' hm'
    rw [hmark] at hm'
    cases hm'
    rw [hdrop]
  · rename_i hm'
    rw [hmark] at hm'
    cases hm'

theorem shorten_cons (h : startsMarker (c :: cs) = false) : shorten (c :: cs) = c :: shorten cs := by
  rw [shorten]
  split
  · rename_i m hm
    rw [startsMarker, hm] at h
    cases h
  · rfl

/-- A text starts with a marker, or with a character where none starts. -/
@[elab_as_elim]
theorem marker_induction {motive : List Char → Prop} (nil : motive [])
    (marker : ∀ m cs, motive cs → motive (Marker.chars m ++ cs))
    (char : ∀ c cs, startsMarker (c :: cs) = false → motive cs → motive (c :: cs)) :
    ∀ cs, motive cs
  | [] => nil
  | c :: cs => by
    cases hs : startsMarker (c :: cs) with
    | false => exact char c cs hs (marker_induction nil marker char cs)
    | true =>
      obtain ⟨m, rest, hrest⟩ := startsMarker_iff.1 hs
      have hlength := congrArg List.length hrest
      rw [← hrest]
      exact marker m rest (marker_induction nil marker char rest)
  termination_by cs => cs.length
  decreasing_by
    · simp
    · have : 0 < m.chars.length := by cases m <;> decide
      rw [List.length_append] at hlength
      omega

/-- What has no dollar sign starts a text just as well as the text with its markers written short. -/
theorem isPrefix_shorten (hp : '$' ∉ p) : p <+: shorten cs ↔ p <+: cs := by
  induction p generalizing cs with
  | nil => simp
  | cons d p ih =>
    obtain ⟨hd, hp⟩ := not_or.1 (fun h => hp (List.mem_cons.2 h))
    have hmarker (m : Marker) (us : List Char) : ¬ d :: p <+: m.chars ++ us := by
      obtain ⟨tail, hm⟩ := m.chars_eq_cons
      rw [hm, List.cons_append, List.cons_prefix_cons]
      exact fun h => hd h.1.symm
    cases cs using marker_induction with
    | nil => rw [shorten_nil]
    | marker m cs => rw [shorten_chars, iff_false_intro (hmarker _ _), iff_false_intro (hmarker _ _)]
    | char c cs h => rw [shorten_cons h, List.cons_prefix_cons, List.cons_prefix_cons, ih hp]

@[simp] theorem startsMarker_shorten (cs : List Char) : startsMarker (shorten cs) = startsMarker cs := by
  cases cs using marker_induction with
  | nil => rw [shorten_nil]
  | marker m cs =>
    rw [shorten_chars, startsMarker_iff.2 ⟨_, List.prefix_append _ _⟩,
      startsMarker_iff.2 ⟨_, List.prefix_append _ _⟩]
  | char c cs h =>
    rw [h, shorten_cons h]
    by_contra hs
    obtain ⟨m, hm⟩ := startsMarker_iff.1 (Bool.not_eq_false _ ▸ hs)
    obtain ⟨tail, htail⟩ := m.chars_eq_cons
    have hdollar : '$' ∉ tail := by cases m <;> cases htail <;> decide
    rw [htail, List.cons_prefix_cons, isPrefix_shorten hdollar, ← List.cons_prefix_cons, ← htail] at hm
    rw [startsMarker_iff.2 ⟨m, hm⟩] at h
    cases h

/-- No marker goes on over a character that stands in none. -/
theorem shorten_append_cons (hc : ¬ Marker.holds c) (u v : List Char) :
    shorten (u ++ c :: v) = shorten u ++ c :: shorten v := by
  induction u using marker_induction with
  | nil =>
    have hdollar : c ≠ '$' := by rintro rfl; exact hc (by decide)
    rw [List.nil_append, shorten_cons (startsMarker_cons_of_ne hdollar), shorten_nil, List.nil_append]
  | marker m u ih => rw [List.append_assoc, shorten_chars, shorten_chars, ih, List.append_assoc]
  | char d u h ih =>
    have hs : startsMarker (d :: (u ++ c :: v)) = false := by
      rw [← List.cons_append, startsMarker_append_of_not_holds hc, h]
    rw [List.cons_append, shorten_cons hs, shorten_cons h, ih, List.cons_append]

theorem head?_shorten (cs : List Char) : (shorten cs).head? = cs.head? := by
  cases cs using marker_induction with
  | nil => rw [shorten_nil]
  | marker m cs => rw [shorten_chars]; cases m <;> rfl
  | char c cs h => rw [shorten_cons h]; rfl

theorem mem_shorten (hc : ¬ Marker.holds c) : c ∈ shorten cs ↔ c ∈ cs := by
  have hchars (m : Marker) : c ∉ m.chars := fun h => hc ⟨m, h⟩
  induction cs using marker_induction with
  | nil => rw [shorten_nil]
  | marker m cs ih => simp [hchars, ih]
  | char d cs h ih =>
    rw [shorten_cons h, List.mem_cons, List.mem_cons]
    exact or_congr_right ih

theorem shorten_of_no_marker (h : hasMarker cs = false) : shorten cs = cs := by
  induction cs with
  | nil => rw [shorten_nil]
  | cons c cs ih =>
    obtain ⟨hs, hrest⟩ := Bool.or_eq_false_iff.1 h
    rw [shorten_cons hs, ih hrest]

/-! ## What is the same of both texts -/

theorem hasMarker_shorten (cs : List Char) : hasMarker (shorten cs) = hasMarker cs := by
  have hmarker (m : Marker) (us : List Char) : hasMarker (m.chars ++ us) = true :=
    hasMarker_iff.2 ⟨[], _, rfl, startsMarker_iff.2 ⟨m, List.prefix_append _ _⟩⟩
  induction cs using marker_induction with
  | nil => rw [shorten_nil]
  | marker m cs ih => rw [shorten_chars, hmarker, hmarker]
  | char c cs h ih =>
    have hs := startsMarker_shorten (c :: cs)
    rw [shorten_cons h] at hs ⊢
    rw [hasMarker, hasMarker, hs, ih]

theorem blanks_shorten (cs : List Char) :
    (shorten cs).takeWhile Text.isBlank = cs.takeWhile Text.isBlank ∧
      (shorten cs).dropWhile Text.isBlank = shorten (cs.dropWhile Text.isBlank) := by
  induction cs using marker_induction with
  | nil => simp
  | marker m cs ih =>
    have hblank (m : Marker) (us : List Char) : ∀ c ∈ (m.chars ++ us).head?, Text.isBlank c = false := by
      cases m <;> rintro _ ⟨⟩ <;> rfl
    obtain ⟨htake, hdrop⟩ := no_blanks (hblank m cs)
    obtain ⟨htake', hdrop'⟩ := no_blanks (hblank .short (shorten cs))
    rw [shorten_chars, htake, hdrop, htake', hdrop', shorten_chars]
    exact ⟨rfl, rfl⟩
  | char c cs h ih =>
    rw [shorten_cons h]
    by_cases hc : Text.isBlank c = true
    · rw [List.takeWhile_cons_of_pos hc, List.takeWhile_cons_of_pos hc, List.dropWhile_cons_of_pos hc,
        List.dropWhile_cons_of_pos hc, ih.1, ih.2]
      exact ⟨rfl, rfl⟩
    · rw [List.takeWhile_cons_of_neg hc, List.takeWhile_cons_of_neg hc, List.dropWhile_cons_of_neg hc,
        List.dropWhile_cons_of_neg hc, shorten_cons h]
      exact ⟨rfl, rfl⟩

theorem allBlank_shorten (cs : List Char) : Text.allBlank (shorten cs) = Text.allBlank cs := by
  induction cs using marker_induction with
  | nil => rw [shorten_nil]
  | marker m cs => rw [shorten_chars]; cases m <;> rfl
  | char c cs h ih =>
    unfold Text.allBlank at ih ⊢
    rw [shorten_cons h, List.all_cons, List.all_cons, ih]

/-- A block ends at the brace that it ends at with the markers written short. -/
theorem takeBlock_shorten (d : Nat) (cs : List Char) :
    takeBlock d (shorten cs) = (takeBlock d cs).map fun p => (shorten p.1, shorten p.2) := by
  induction cs using marker_induction generalizing d with
  | nil => rw [shorten_nil]; rfl
  | marker m cs ih =>
    rw [shorten_chars, takeBlock_marker, takeBlock_marker, ih, Option.map_map, Option.map_map]
    simp only [Function.comp_def, shorten_chars]
  | char c cs h ih =>
    have hs := startsMarker_shorten (c :: cs)
    rw [shorten_cons h] at hs ⊢
    by_cases hc : c = '\x7d'
    · subst hc
      have hbrace (u : List Char) : shorten ('\x7d' :: u) = '\x7d' :: shorten u :=
        shorten_cons (startsMarker_cons_of_ne (by decide))
      cases d with
      | zero => simp [takeBlock]
      | succ d =>
        show (takeBlock d (shorten cs)).map _ = ((takeBlock d cs).map _).map _
        rw [ih, Option.map_map, Option.map_map]
        simp only [Function.comp_def, hbrace]
    · rw [takeBlock.eq_def, takeBlock.eq_def]
      dsimp only
      rw [if_neg hc, if_neg hc, hs, h, ih]
      -- the block has the character in front, where no marker starts either
      cases hb : takeBlock d cs with
      | none => simp [hb]
      | some p =>
        rw [takeBlock_eq_some hb, ← List.cons_append] at h
        simp [hb, shorten_cons (startsMarker_of_append h)]

/-- A quoted text ends at the quote that it ends at with the markers written short. -/
theorem takeQuoted_shorten (q : Quote) (cs : List Char) :
    takeQuoted q.toChar (shorten cs) =
      (takeQuoted q.toChar cs).map fun p => (shorten p.1, shorten p.2) := by
  have hq := not_holds_quote q
  cases ht : takeQuoted q.toChar cs with
  | some p =>
    obtain ⟨hcs, hmem⟩ := takeQuoted_eq_some ht
    rw [hcs, shorten_append_cons hq, takeQuoted_of_not_mem (by rwa [mem_shorten hq])]
    rfl
  | none =>
    cases ht' : takeQuoted q.toChar (shorten cs) with
    | none => rfl
    | some p =>
      have hmem : q.toChar ∈ cs := by
        rw [← mem_shorten hq, (takeQuoted_eq_some ht').1]
        simp
      obtain ⟨u, v, rfl, hu⟩ := List.eq_append_cons_of_mem hmem
      rw [takeQuoted_of_not_mem hu] at ht
      cases ht

/-- Text that ends before a marker is the same with the markers written short. -/
theorem takeUntil_shorten {stop : List Char → Bool}
    (hmarker : ∀ cs, startsMarker cs = true → stop cs = true)
    (hstop : ∀ cs, stop (shorten cs) = stop cs) (cs : List Char) :
    takeUntil stop (shorten cs) = ((takeUntil stop cs).1, shorten (takeUntil stop cs).2) := by
  have hnil (us : List Char) (hus : stop us = true) : takeUntil stop us = ([], us) := by
    cases us with
    | nil => rfl
    | cons c us => rw [takeUntil, hus]; rfl
  induction cs using marker_induction with
  | nil => rw [shorten_nil]; simp [takeUntil]
  | marker m cs ih =>
    have hs : stop (m.chars ++ cs) = true := hmarker _ (startsMarker_iff.2 ⟨m, List.prefix_append _ _⟩)
    rw [hnil _ hs, hnil _ (by rw [hstop, hs])]
  | char c cs h ih =>
    have hs := hstop (c :: cs)
    cases hc : stop (c :: cs) with
    | true => rw [hnil _ hc, hnil _ (by rw [hs, hc])]
    | false =>
      rw [shorten_cons h] at hs ⊢
      rw [takeUntil, takeUntil, hs, hc, ih]
      rfl

/-! ## Words and symbols -/

theorem endsWord_shorten (cs : List Char) : endsWord (shorten cs) = endsWord cs := by
  cases cs using marker_induction with
  | nil => rw [shorten_nil]
  | marker m cs => rw [shorten_chars]; cases m <;> rfl
  | char c cs h =>
    have hs := startsMarker_shorten (c :: cs)
    rw [shorten_cons h] at hs ⊢
    rw [endsWord, endsWord, hs]

theorem endsWord_of_marker : ∀ cs, startsMarker cs = true → endsWord cs = true
  | [], _ => rfl
  | c :: cs, h => by rw [endsWord, h, Bool.or_true]

theorem takeWord_shorten (cs : List Char) :
    takeWord (shorten cs) = ((takeWord cs).1, shorten (takeWord cs).2) :=
  takeUntil_shorten endsWord_of_marker endsWord_shorten cs

theorem endsPlain_shorten (d : Nat) (cs : List Char) : endsPlain d (shorten cs) = endsPlain d cs := by
  cases cs using marker_induction with
  | nil => rw [shorten_nil]
  | marker m cs => rw [shorten_chars]; cases m <;> rfl
  | char c cs h =>
    have hs := startsMarker_shorten (c :: cs)
    rw [shorten_cons h] at hs ⊢
    rw [endsPlain, endsPlain, hs]

theorem endsPlain_of_marker (d : Nat) : ∀ cs, startsMarker cs = true → endsPlain d cs = true
  | [], _ => rfl
  | c :: cs, h => by rw [endsPlain, h, Bool.or_true]

theorem takeNextWord?_shorten (cs : List Char) :
    takeNextWord? (shorten cs) = (takeNextWord? cs).map fun p => (p.1, p.2.1, shorten p.2.2) := by
  unfold takeNextWord?
  rw [(blanks_shorten cs).1, (blanks_shorten cs).2, takeWord_shorten]
  dsimp only
  split <;> rfl

theorem takeWith?_shorten (cs : List Char) :
    takeWith? (shorten cs) = (takeWith? cs).map fun p => (p.1, shorten p.2) := by
  unfold takeWith?
  rw [takeNextWord?_shorten, Option.bind_map, Option.map_bind]
  congr 1
  funext ⟨blanks, word, rest⟩
  dsimp only [Function.comp_apply]
  split <;> rfl

theorem takeNegated?_shorten (cs : List Char) :
    takeNegated? (shorten cs) = (takeNegated? cs).map fun p => (p.1, p.2.1, shorten p.2.2) := by
  unfold takeNegated?
  rw [takeNextWord?_shorten, Option.bind_map, Option.map_bind]
  congr 1
  funext ⟨blanks, word, rest⟩
  dsimp only [Function.comp_apply]
  cases edge? word with
  | some c => simp [takeWith?_shorten, Function.comp_def]
  | none => simp [Function.comp_def]

theorem classifyWord_shorten (word cs : List Char) :
    classifyWord word (shorten cs) =
      ((classifyWord word cs).1, (classifyWord word cs).2.1, shorten (classifyWord word cs).2.2) := by
  unfold classifyWord
  rw [takeNegated?_shorten, takeWith?_shorten]
  split
  · rfl
  split
  · rfl
  split
  · cases takeNegated? cs <;> rfl
  cases edge? word with
  | some c => cases takeWith? cs <;> rfl
  | none =>
    dsimp only
    split <;> rfl

theorem afterStart?_shorten (hp : '$' ∉ p) (cs : List Char) :
    Text.afterStart? p (shorten cs) = (Text.afterStart? p cs).map shorten := by
  induction p generalizing cs with
  | nil => rfl
  | cons d p ih =>
    obtain ⟨hd, hp⟩ := not_or.1 (fun h => hp (List.mem_cons.2 h))
    cases cs using marker_induction with
    | nil => rw [shorten_nil]; rfl
    | marker m cs =>
      have hnone (m : Marker) (us : List Char) : Text.afterStart? (d :: p) (m.chars ++ us) = none := by
        obtain ⟨tail, hm⟩ := m.chars_eq_cons
        rw [hm, List.cons_append, Text.afterStart?, if_neg fun h => hd h.symm]
      rw [shorten_chars, hnone, hnone]
      rfl
    | char c cs h =>
      rw [shorten_cons h, Text.afterStart?, Text.afterStart?, ih hp]
      split <;> rfl

theorem takeSymbol?_shorten (cs : List Char) :
    takeSymbol? (shorten cs) = (takeSymbol? cs).map fun p => (p.1, p.2.1, shorten p.2.2) := by
  have hplain : ∀ entry ∈ symbols, '$' ∉ entry.1.toList := by simp [symbols]
  unfold takeSymbol?
  generalize symbols = entries at hplain ⊢
  induction entries with
  | nil => rfl
  | cons entry entries ih =>
    rw [List.findSome?_cons, List.findSome?_cons, ih fun e he => hplain e (List.mem_cons_of_mem _ he)]
    dsimp only
    rw [afterStart?_shorten (hplain entry List.mem_cons_self)]
    cases Text.afterStart? entry.1.toList cs <;> rfl

/-! ## First occurrences -/

/-- A text that starts with a character of no marker and has no dollar sign is first found at the same
place. -/
theorem cut?_shorten (hc : ¬ Marker.holds c) (hp : '$' ∉ p) (cs : List Char) :
    Text.cut? (c :: p) (shorten cs) = (Text.cut? (c :: p) cs).map fun q => (shorten q.1, shorten q.2) := by
  have hchars (m : Marker) : c ∉ m.chars := fun h => hc ⟨m, h⟩
  have hdollar : '$' ∉ c :: p := by
    rw [List.mem_cons, not_or]
    exact ⟨by rintro rfl; exact hc (by decide), hp⟩
  induction cs using marker_induction with
  | nil => rw [shorten_nil]; rfl
  | marker m cs ih =>
    rw [shorten_chars, Text.cut?_append_of_not_mem (hchars _), Text.cut?_append_of_not_mem (hchars _), ih,
      Option.map_map, Option.map_map]
    simp only [Function.comp_def, shorten_chars]
  | char d cs h ih =>
    have hafter := afterStart?_shorten hdollar (d :: cs)
    rw [shorten_cons h] at hafter ⊢
    rw [Text.cut?, Text.cut?, hafter, ih]
    cases hstart : Text.afterStart? (c :: p) (d :: cs) with
    | some rest => simp
    | none =>
      cases hcut : Text.cut? (c :: p) cs with
      | none => rfl
      | some q =>
        -- what stands in front of it has the character in front, where no marker starts either
        rw [Text.cut?_eq_some hcut, ← List.cons_append] at h
        simp [shorten_cons (startsMarker_of_append h)]

/-! ## Texts that differ in how markers are written -/

/-- Behind the same character the texts go on alike. -/
theorem cons_of_shorten_eq (hs : startsMarker (c :: cs) = false) (h : shorten (c :: cs) = shorten ds) :
    ∃ ds', ds = c :: ds' ∧ startsMarker ds = false ∧ shorten cs = shorten ds' := by
  have hd : startsMarker ds = false := by rw [← startsMarker_shorten, ← h, startsMarker_shorten, hs]
  cases ds with
  | nil =>
    rw [shorten_cons hs, shorten_nil] at h
    cases h
  | cons d ds =>
    rw [shorten_cons hs, shorten_cons hd] at h
    obtain ⟨rfl, hrest⟩ := List.cons.inj h
    exact ⟨ds, rfl, hd, hrest⟩

/-- Behind a marker, however it is written, the texts go on alike. -/
theorem marker_of_shorten_eq {m : Marker} (h : shorten (m.chars ++ cs) = shorten ds) :
    ∃ m' ds', ds = Marker.chars m' ++ ds' ∧ shorten cs = shorten ds' := by
  have hs : startsMarker ds = true := by
    rw [← startsMarker_shorten, ← h, startsMarker_shorten]
    exact startsMarker_iff.2 ⟨m, List.prefix_append _ _⟩
  obtain ⟨m', ds', rfl⟩ := startsMarker_iff.1 hs
  rw [shorten_chars, shorten_chars, List.append_cancel_left_eq] at h
  exact ⟨m', ds', rfl, h⟩

theorem nil_of_shorten_eq (h : shorten [] = shorten ds) : ds = [] := by
  rw [← List.head?_eq_none_iff, ← head?_shorten, ← h, shorten_nil]
  rfl

/-- Without a marker there is no other way to write a text. -/
theorem eq_of_shorten_eq (h : shorten cs = shorten ds) (hm : hasMarker cs = false) : ds = cs := by
  have hm' : hasMarker ds = false := by rw [← hasMarker_shorten, ← h, hasMarker_shorten, hm]
  rw [← shorten_of_no_marker hm', ← h, shorten_of_no_marker hm]

/-- What is mapped to the same, if there is something on one side, is there on the other. -/
theorem exists_of_map_eq {α β : Type} {f : α → β} {x y : Option α} {a : α} (h : x.map f = y.map f)
    (hx : x = some a) : ∃ b, y = some b ∧ f a = f b := by
  rw [hx] at h
  obtain ⟨b, hb, hab⟩ := Option.map_eq_some_iff.1 h.symm
  exact ⟨b, hb, hab.symm⟩

variable {body rest : List Char}

theorem takeBlock_of_shorten_eq {d : Nat} (h : shorten cs = shorten ds)
    (hb : takeBlock d cs = some (body, rest)) :
    ∃ body' rest', takeBlock d ds = some (body', rest') ∧ shorten body = shorten body' ∧
      shorten rest = shorten rest' := by
  have hmap := takeBlock_shorten d cs
  rw [h, takeBlock_shorten] at hmap
  obtain ⟨⟨body', rest'⟩, hb', heq⟩ := exists_of_map_eq hmap.symm hb
  obtain ⟨hbody, hrest⟩ := Prod.mk.inj heq
  exact ⟨body', rest', hb', hbody, hrest⟩

theorem takeQuoted_of_shorten_eq {q : Quote} (h : shorten cs = shorten ds)
    (ht : takeQuoted q.toChar cs = some (body, rest)) :
    ∃ body' rest', takeQuoted q.toChar ds = some (body', rest') ∧ shorten body = shorten body' ∧
      shorten rest = shorten rest' := by
  have hmap := takeQuoted_shorten q cs
  rw [h, takeQuoted_shorten] at hmap
  obtain ⟨⟨body', rest'⟩, ht', heq⟩ := exists_of_map_eq hmap.symm ht
  obtain ⟨hbody, hrest⟩ := Prod.mk.inj heq
  exact ⟨body', rest', ht', hbody, hrest⟩

theorem takeUntil_of_shorten_eq {stop : List Char → Bool}
    (hmarker : ∀ cs, startsMarker cs = true → stop cs = true)
    (hstop : ∀ cs, stop (shorten cs) = stop cs) (h : shorten cs = shorten ds) :
    (takeUntil stop cs).1 = (takeUntil stop ds).1 ∧
      shorten (takeUntil stop cs).2 = shorten (takeUntil stop ds).2 := by
  have heq := takeUntil_shorten hmarker hstop cs
  rw [h, takeUntil_shorten hmarker hstop] at heq
  exact ⟨(Prod.mk.inj heq).1.symm, (Prod.mk.inj heq).2.symm⟩

end Shorten

end RouteExpr
