/-
Markers and the braces that close them.

A block counts the markers and the braces on its way and knows nothing of quotes. So a text in which
every brace closes a marker and every marker is closed can stand in a block without ending it, and in
a template that is cut into tokens every marker is closed, since it opens a block that ends or stands
in one.
-/
import RouteExpr.Proofs.Token.Separate

namespace RouteExpr

open Predicate

/-- How many markers start in a text. -/
def markers : List Char → Nat
  | [] => 0
  | c :: cs => markers cs + if Lexer.startsMarker (c :: cs) then 1 else 0

/-- Every brace of a text closes a marker of it: up to the brace, more markers start than braces
stand. -/
def ClosesMarkers (cs : List Char) : Prop :=
  ∀ u v, cs = u ++ '\x7d' :: v → u.count '\x7d' < markers u

/-- What holds of all that stands in front of an item holds up to each index of the item. -/
theorem forall_before_iff {α : Type} {a : α} {xs : List α} {p : List α → Prop} :
    (∀ u v, xs = u ++ a :: v → p u) ↔ ∀ i < xs.length, xs[i]? = some a → p (xs.take i) := by
  constructor
  · intro h i hi ha
    refine h _ (xs.drop (i + 1)) ?_
    rw [List.getElem?_eq_getElem hi] at ha
    rw [← Option.some.inj ha, ← List.drop_eq_getElem_cons hi, List.take_append_drop]
  · rintro h u v rfl
    have := h u.length (by simp) (by simp)
    rwa [List.take_left] at this

instance (cs : List Char) : Decidable (ClosesMarkers cs) :=
  decidable_of_iff _ forall_before_iff.symm

namespace Lexer

variable {cs u v : List Char} {c : Char} {d k : Nat}

/-! ## Counting markers -/

theorem markers_cons_of_ne (hc : c ≠ '$') : markers (c :: cs) = markers cs := by
  rw [markers, startsMarker_cons_of_ne hc]
  rfl

/-- No marker goes on over a character that stands in none. -/
theorem markers_append (hc : ¬ Marker.holds c) (u v : List Char) :
    markers (u ++ c :: v) = markers u + markers v := by
  induction u with
  | nil =>
    have hdollar : c ≠ '$' := by rintro rfl; exact hc (by decide)
    rw [List.nil_append, markers_cons_of_ne hdollar, markers, Nat.zero_add]
  | cons d u ih =>
    rw [List.cons_append, markers, markers, ih, ← List.cons_append,
      startsMarker_append_of_not_holds hc]
    omega

theorem markers_chars (m : Marker) (cs : List Char) : markers (m.chars ++ cs) = markers cs + 1 := by
  have hstart : startsMarker (m.chars ++ cs) = true :=
    startsMarker_iff.2 ⟨m, List.prefix_append _ _⟩
  have htail : ∀ d ∈ m.chars.tail, d ≠ '$' := by cases m <;> simp [Marker.chars]
  obtain ⟨tail, hm⟩ := m.chars_eq_cons
  rw [hm] at hstart htail ⊢
  rw [List.cons_append, markers, ← List.cons_append, hstart]
  -- the characters after the first one start no marker
  suffices markers (tail ++ cs) = markers cs by rw [this]; rfl
  clear hm hstart
  induction tail with
  | nil => rfl
  | cons e tail ih =>
    rw [List.cons_append, markers_cons_of_ne (htail e List.mem_cons_self)]
    exact ih fun a ha => htail a (List.mem_cons_of_mem _ ha)

/-- Text in which no marker starts adds none. -/
theorem markers_append_of_none (h : ∀ a b, u = a ++ b → b ≠ [] → startsMarker (b ++ cs) = false) :
    markers (u ++ cs) = markers cs := by
  induction u with
  | nil => rfl
  | cons c u ih =>
    rw [List.cons_append, markers, ← List.cons_append, h [] (c :: u) rfl (by simp), ih]
    · rfl
    · exact fun a b hab hb => h (c :: a) b (by rw [hab, List.cons_append]) hb

/-! ## Blocks -/

/-- In a block, and before the brace that ends it, as many braces stand as markers are open. -/
theorem takeBlock_count {body rest : List Char} (h : takeBlock d cs = some (body, rest)) :
    body.count '\x7d' = d + markers body := by
  induction cs generalizing d body with
  | nil => cases h
  | cons c cs ih =>
    unfold takeBlock at h
    split at h
    · rename_i hc
      subst hc
      cases d with
      | zero => cases h; rfl
      | succ d =>
        obtain ⟨⟨b, r⟩, hb, he⟩ := Option.map_eq_some_iff.1 h
        cases he
        rw [List.count_cons_self, ih hb, markers_cons_of_ne (by decide)]
        omega
    · rename_i hc
      obtain ⟨⟨b, r⟩, hb, he⟩ := Option.map_eq_some_iff.1 h
      cases he
      have hcount := ih hb
      -- a marker that starts here ends before the brace
      have hs : startsMarker (c :: cs) = startsMarker (c :: b) := by
        rw [takeBlock_eq_some hb, ← List.cons_append,
          startsMarker_append_of_not_holds not_holds_brace]
      rw [List.count_cons_of_ne (hc), hcount, markers, hs]
      split <;> omega

/-- A block goes on over a text of which every brace closes a marker, open before it or its own, and
every marker is closed, where a character follows that stands in no marker. -/
theorem takeBlock_closed (hc : ¬ Marker.holds c)
    (hcloses : ∀ u v, cs = u ++ '\x7d' :: v → u.count '\x7d' < k + markers u)
    (hclosed : k + markers cs ≤ cs.count '\x7d') (rest : List Char) :
    takeBlock (d + k) (cs ++ c :: rest) =
      (takeBlock d (c :: rest)).map fun p => (cs ++ p.1, p.2) := by
  induction cs generalizing k with
  | nil =>
    rw [List.count_nil, markers] at hclosed
    rw [show k = 0 by omega, List.nil_append, Nat.add_zero]
    cases takeBlock d (c :: rest) <;> rfl
  | cons e cs ih =>
    have hnext : (takeBlock d (c :: rest)).map (fun p => (e :: cs ++ p.1, p.2)) =
        ((takeBlock d (c :: rest)).map fun p => (cs ++ p.1, p.2)).map fun p => (e :: p.1, p.2) := by
      cases takeBlock d (c :: rest) <;> rfl
    rw [hnext, List.cons_append]
    by_cases he : e = '\x7d'
    · subst he
      have hopen := hcloses [] cs rfl
      rw [markers_cons_of_ne (by decide), List.count_cons_self] at hclosed
      obtain ⟨k, rfl⟩ : ∃ j, k = j + 1 := ⟨k - 1, by simp [markers] at hopen; omega⟩
      show (takeBlock (d + k) (cs ++ c :: rest)).map _ = _
      rw [ih _ (by omega)]
      · intro u v huv
        have := hcloses ('\x7d' :: u) v (by rw [huv, List.cons_append])
        rw [List.count_cons_self, markers_cons_of_ne (by decide)] at this
        omega
    · have hs (w : List Char) : startsMarker (e :: (w ++ c :: rest)) = startsMarker (e :: w) := by
        rw [← List.cons_append, startsMarker_append_of_not_holds hc]
      have hopens : (if startsMarker (e :: (cs ++ c :: rest)) = true then d + k + 1 else d + k) =
          d + (k + if startsMarker (e :: cs) then 1 else 0) := by
        rw [hs]
        split <;> omega
      rw [List.count_cons_of_ne he, markers] at hclosed
      rw [takeBlock.eq_def]
      dsimp only
      rw [if_neg he, hopens, ih _ (by omega)]
      intro u v huv
      have hbrace : startsMarker (e :: cs) = startsMarker (e :: u) := by
        rw [huv, ← List.cons_append, startsMarker_append_of_not_holds not_holds_brace]
      have := hcloses (e :: u) v (by rw [huv, List.cons_append])
      rw [List.count_cons_of_ne he, markers, ← hbrace] at this
      omega

/-- A text that a block goes on over, whatever is open, unless a marker goes on behind it. -/
def Neutral (cs : List Char) : Prop :=
  ∀ d c rest, ¬ Marker.holds c →
    takeBlock d (cs ++ c :: rest) = (takeBlock d (c :: rest)).map fun p => (cs ++ p.1, p.2)

theorem neutral_of_closes (h : ClosesMarkers cs) (hclosed : markers cs ≤ cs.count '\x7d') :
    Neutral cs := by
  intro d c rest hc
  refine takeBlock_closed (d := d) (k := 0) hc (fun u v huv => ?_) (by omega) rest
  rw [Nat.zero_add]
  exact h u v huv

theorem Neutral.cons (h : Neutral cs) (hdollar : c ≠ '$') (hbrace : c ≠ '\x7d') :
    Neutral (c :: cs) := by
  intro d e rest he
  rw [List.cons_append, takeBlock.eq_def]
  dsimp only
  rw [if_neg hbrace, startsMarker_cons_of_ne hdollar]
  simp only [Bool.false_eq_true, if_false]
  rw [h d e rest he, Option.map_map]
  rfl

theorem neutral_nil : Neutral [] := by
  intro d c rest hc
  rw [List.nil_append]
  cases takeBlock d (c :: rest) <;> rfl

/-- Text without markers and braces in front of a neutral one. -/
theorem Neutral.prepend (h : Neutral cs) (hu : ∀ c ∈ u, c ≠ '$' ∧ c ≠ '\x7d') :
    Neutral (u ++ cs) := by
  induction u with
  | nil => exact h
  | cons c u ih =>
    obtain ⟨hdollar, hbrace⟩ := hu c List.mem_cons_self
    exact (ih fun e he => hu e (List.mem_cons_of_mem _ he)).cons hdollar hbrace

/-- Neutral texts are neutral together, where no marker goes on from the one into the other. -/
theorem Neutral.append (hu : Neutral u) (hv : ∀ c ∈ v.head?, ¬ Marker.holds c) (h : Neutral v) :
    Neutral (u ++ v) := by
  cases v with
  | nil => rwa [List.append_nil]
  | cons c v =>
    intro d e rest he
    rw [List.append_assoc, List.cons_append, hu d c _ (hv c rfl), ← List.cons_append,
      h d e rest he, Option.map_map]
    simp only [Function.comp_def, List.append_assoc]

/-- A block of neutral text ends at the brace behind it. -/
theorem Neutral.takeBlock (h : Neutral cs) (rest : List Char) :
    takeBlock 0 (cs ++ '\x7d' :: rest) = some (cs, rest) := by
  rw [h 0 '\x7d' rest not_holds_brace]
  simp [Lexer.takeBlock]

/-! ## Templates -/

/-- In what is cut into the tokens of a template, every marker is closed. -/
theorem markers_le_count {l : Lexer} {ts : List Token} (hm : l.mode = .template)
    (hp : l.peeked = none) (h : l.lexed.toTokens = .ok ts) : markers l.rest ≤ l.rest.count '\x7d' := by
  induction ts generalizing l with
  | nil =>
    rw [rest_of_toTokens_nil hp h]
    exact Nat.le_refl 0
  | cons t ts ih =>
    obtain ⟨l', hs, -, hts, hne⟩ := scan_of_toTokens_cons hp h
    have htakes := scan_takes hs
    have ih := ih (htakes.mode.trans hm) (htakes.peeked.trans hp) hts
    rw [htakes.rest]
    have plain (hplain : t.isPlain = true) :
        markers (t.raw ++ l'.rest) ≤ (t.raw ++ l'.rest).count '\x7d' := by
      rw [markers_append_of_none (scan_separate (by rw [hm]; decide) hs hplain), List.count_append]
      omega
    rcases scan_template hm hne hs with ⟨s, hk⟩ | hk | ⟨m, hk, hblock⟩
    · exact plain (by rw [Token.isPlain, hk])
    · exact plain (by rw [Token.isPlain, hk])
    · have hcount := takeBlock_count hblock
      have hraw : t.raw ++ l'.rest = m.chars ++ (t.text ++ '\x7d' :: l'.rest) := by
        simp [Token.raw, hk, Token.Kind.opening, Token.Kind.closing]
      rw [hraw, markers_chars, markers_append not_holds_brace, List.count_append, List.count_append,
        List.count_cons_self]
      omega

end Lexer

end RouteExpr
