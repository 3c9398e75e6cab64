/-
Texts that differ in nothing but how markers are written.

With all markers written short they are one text. So they have the same blocks, but for the markers in
them, and the same tokens, but for the markers in these.
-/
import RouteExpr.Proofs.Token.Block
import RouteExpr.Proofs.Token.Spelling

namespace RouteExpr

open Lexer

/-- Two texts that are the same character by character, but that where the one has a marker the other
may have any. -/
inductive Respelled : List Char → List Char → Prop
  | nil : Respelled [] []
  | char (c : Char) {cs ds : List Char} (h : Respelled cs ds) : Respelled (c :: cs) (c :: ds)
  | marker (m m' : Marker) {cs ds : List Char} (h : Respelled cs ds) :
    Respelled (m.chars ++ cs) (m'.chars ++ ds)

variable {c : Char} {cs ds us body : List Char} {m : Marker}

theorem Respelled.append_left (u : List Char) (h : Respelled cs ds) : Respelled (u ++ cs) (u ++ ds) := by
  induction u with
  | nil => exact h
  | cons c u ih => exact .char c ih

theorem Respelled.refl (cs : List Char) : Respelled cs cs := by
  simpa using Respelled.nil.append_left cs

/-! ## Markers written short -/

theorem shorten_append_of_no_dollar {p : List Char} (hp : '$' ∉ p) (cs : List Char) :
    shorten (p ++ cs) = p ++ shorten cs := by
  induction p with
  | nil => rfl
  | cons d p ih =>
    obtain ⟨hd, hp⟩ := not_or.1 (fun h => hp (List.mem_cons.2 h))
    rw [List.cons_append, shorten_cons (startsMarker_cons_of_ne (Ne.symm hd)), ih hp, List.cons_append]

/-- A marker that one of the texts makes with a character in front, the other makes as well. -/
theorem marker_cons_of_shorten_eq (h : shorten cs = shorten ds) (hc : c :: cs = m.chars ++ us) :
    ∃ vs, c :: ds = m.chars ++ vs ∧ shorten us = shorten vs := by
  obtain ⟨tail, hm⟩ := m.chars_eq_cons
  have htail : '$' ∉ tail := by cases m <;> cases hm <;> decide
  rw [hm, List.cons_append] at hc
  obtain ⟨rfl, rfl⟩ := List.cons.inj hc
  rw [shorten_append_of_no_dollar htail] at h
  obtain ⟨vs, rfl⟩ := (isPrefix_shorten htail).1 ⟨_, h⟩
  rw [shorten_append_of_no_dollar htail, List.append_cancel_left_eq] at h
  exact ⟨vs, by rw [hm, List.cons_append], h⟩

theorem shorten_cons_congr (c : Char) (h : shorten cs = shorten ds) :
    shorten (c :: cs) = shorten (c :: ds) := by
  have both {cs ds : List Char} (h : shorten cs = shorten ds) (hs : startsMarker (c :: cs) = true) :
      shorten (c :: cs) = shorten (c :: ds) ∧ startsMarker (c :: ds) = true := by
    obtain ⟨m, us, hus⟩ := startsMarker_iff.1 hs
    obtain ⟨vs, hvs, heq⟩ := marker_cons_of_shorten_eq h hus.symm
    rw [← hus, hvs, shorten_chars, shorten_chars, heq]
    exact ⟨rfl, startsMarker_iff.2 ⟨m, List.prefix_append _ _⟩⟩
  cases hs : startsMarker (c :: cs) with
  | true => exact (both h hs).1
  | false =>
    cases hs' : startsMarker (c :: ds) with
    | true => exact (both h.symm hs').1.symm
    | false => rw [shorten_cons hs, shorten_cons hs', h]

/-- Texts differ in how markers are written exactly if with short markers they are the same. -/
theorem respelled_iff : Respelled cs ds ↔ shorten cs = shorten ds := by
  constructor
  · intro h
    induction h with
    | nil => rfl
    | char c _ ih => exact shorten_cons_congr c ih
    | marker m m' _ ih => rw [shorten_chars, shorten_chars, ih]
  · intro h
    induction cs using marker_induction generalizing ds with
    | nil =>
      rw [nil_of_shorten_eq h]
      exact .nil
    | marker m cs ih =>
      obtain ⟨m', ds, rfl, hrest⟩ := marker_of_shorten_eq h
      exact .marker m m' (ih hrest)
    | char c cs hs ih =>
      obtain ⟨ds, rfl, -, hrest⟩ := cons_of_shorten_eq hs h
      exact .char c (ih hrest)

/-! ## Blocks -/

/-- A block of the one text is a block of the other, but for the markers in it. -/
theorem HasBlock.of_shorten_eq (h : HasBlock cs body) (heq : shorten cs = shorten ds) :
    ∃ body', HasBlock ds body' ∧ shorten body = shorten body' := by
  induction cs using marker_induction generalizing ds with
  | nil => exact absurd h hasBlock_nil
  | marker m cs ih =>
    obtain ⟨m', ds, rfl, hrest⟩ := marker_of_shorten_eq heq
    rcases hasBlock_chars.1 h with ⟨rest, ht⟩ | h
    · obtain ⟨body', rest', ht', hbody, -⟩ := takeBlock_of_shorten_eq hrest ht
      exact ⟨body', hasBlock_chars.2 (.inl ⟨rest', ht'⟩), hbody⟩
    · obtain ⟨body', hblock, hbody⟩ := ih h hrest
      exact ⟨body', hasBlock_chars.2 (.inr hblock), hbody⟩
  | char c cs hs ih =>
    obtain ⟨ds, rfl, -, hrest⟩ := cons_of_shorten_eq hs heq
    rcases hasBlock_cons.1 h with ⟨m, after, hm, -⟩ | h
    · rw [hm, startsMarker_iff.2 ⟨m, List.prefix_append _ _⟩] at hs
      cases hs
    · obtain ⟨body', hblock, hbody⟩ := ih h hrest
      exact ⟨body', hasBlock_cons.2 (.inr hblock), hbody⟩

/-- What can stand in a block still can with its markers written another way. -/
theorem Closed.of_shorten_eq (h : Closed cs) (heq : shorten cs = shorten ds) : Closed ds := by
  have hbrace : shorten (cs ++ '\x7d' :: []) = shorten (ds ++ '\x7d' :: []) := by
    rw [shorten_append_cons not_holds_brace, shorten_append_cons not_holds_brace, heq]
  have htake : takeBlock 0 (cs ++ '\x7d' :: []) = some (cs, []) := takeBlock_eq_some_iff.2 ⟨rfl, h⟩
  obtain ⟨body', rest', ht', -, hrest⟩ := takeBlock_of_shorten_eq hbrace htake
  rw [nil_of_shorten_eq hrest] at ht'
  obtain ⟨hds, hclosed⟩ := takeBlock_eq_some_iff.1 ht'
  rwa [List.append_cancel_right hds]

/-- Whether no block of a text, at whatever depth, has a quote in it. -/
def BlocksUnquoted (cs : List Char) : Prop :=
  ∀ body, HasBlock cs body → ∀ c ∈ body, quote? c = none

theorem unquoted_of_shorten_eq (h : ∀ c ∈ cs, quote? c = none) (heq : shorten cs = shorten ds) :
    ∀ c ∈ ds, quote? c = none := by
  intro c hc
  by_contra hquote
  obtain ⟨q, hq⟩ := Option.ne_none_iff_exists'.1 hquote
  obtain rfl := quote?_eq_some hq
  have hmem : q.toChar ∈ cs := by
    rwa [← mem_shorten (not_holds_quote q), heq, mem_shorten (not_holds_quote q)]
  exact hquote (h _ hmem)

theorem BlocksUnquoted.of_shorten_eq (h : BlocksUnquoted cs) (heq : shorten cs = shorten ds) :
    BlocksUnquoted ds := by
  intro body hblock
  obtain ⟨body', hblock', hbody⟩ := hblock.of_shorten_eq heq.symm
  exact unquoted_of_shorten_eq (h body' hblock') hbody.symm

theorem BlocksUnquoted.of_isInfix (h : BlocksUnquoted cs) (hu : us <:+: cs) : BlocksUnquoted us :=
  fun body hblock => h body (hblock.of_isInfix hu)

end RouteExpr
