/-
Markers and the braces that match them, by their places in a text.

From the marker of a block on, each marker goes one deeper and each brace comes one back, and the
brace that matches the marker is the first at which the depth is zero again. A block is taken up to
that brace, so it is taken where there is one; the markers in it are matched in it, each by a brace of
its own. So a block has none that is left open, and taking its text apart fails at quotes alone.
-/
import RouteExpr.Proofs.Token.Block

namespace RouteExpr

open Lexer

/-! ## Depth -/

/-- How deep in blocks a text ends that begins with the marker of one: each marker opens a block, and
each brace closes one. -/
def blockDepth (cs : List Char) : Int :=
  markers cs - cs.count '\x7d'

/-- The brace at a place of a text brings the depth of the block that begins at another back to
zero. -/
structure Balances (cs : List Char) (i j : Nat) : Prop where
  le : i ≤ j
  brace : cs[j]? = some '\x7d'
  depth_eq : blockDepth ((cs.take (j + 1)).drop i) = 0

/-- The marker at a place of a text is matched by the brace at another, which is the first to bring
the depth back to zero. -/
structure Matched (cs : List Char) (i j : Nat) : Prop where
  marker : startsMarker (cs.drop i) = true
  least : IsLeast {j | Balances cs i j} j

variable {cs w body rest u v : List Char} {m : Marker} {i j k d : Nat}

/-- Behind a brace of a block, as many blocks are open as there are more markers than braces between its
marker and that brace. -/
theorem blockDepth_block (m : Marker) (u : List Char) :
    blockDepth (m.chars ++ (u ++ ['\x7d'])) = markers u - u.count '\x7d' := by
  have hnone : m.chars.count '\x7d' = 0 :=
    List.count_eq_zero.2 fun h => not_holds_brace ⟨m, h⟩
  rw [blockDepth, markers_chars, markers_append not_holds_brace, markers, List.count_append,
    List.count_append, hnone, List.count_singleton_self]
  omega

/-- The braces that bring the depth of a block back to zero, by the texts between its marker and
them. -/
theorem balances_iff (hi : cs.drop i = m.chars ++ w) :
    Balances cs i j ↔ ∃ u v, w = u ++ '\x7d' :: v ∧ markers u = u.count '\x7d' ∧
      j = i + (m.chars.length + u.length) := by
  have hpart (u v : List Char) (hw : w = u ++ '\x7d' :: v) :
      (cs.take (i + (m.chars.length + u.length) + 1)).drop i = m.chars ++ (u ++ ['\x7d']) := by
    have hlen : i + (m.chars.length + u.length) + 1 - i = (m.chars ++ (u ++ ['\x7d'])).length := by
      simp only [List.length_append, List.length_singleton]
      omega
    have hrest : m.chars ++ w = m.chars ++ (u ++ ['\x7d']) ++ v := by simp [hw]
    rw [List.drop_take, hi, hlen, hrest, List.take_left]
  constructor
  · rintro ⟨hle, hbrace, hdepth⟩
    obtain ⟨n, rfl⟩ := Nat.exists_eq_add_of_le hle
    rw [← List.getElem?_drop, hi] at hbrace
    -- no brace stands in a marker
    have hn : m.chars.length ≤ n := by
      by_contra hlt
      rw [List.getElem?_append_left (Nat.lt_of_not_le hlt)] at hbrace
      exact not_holds_brace ⟨m, List.mem_of_getElem? hbrace⟩
    rw [List.getElem?_append_right hn] at hbrace
    obtain ⟨hlt, hget⟩ := List.getElem?_eq_some_iff.1 hbrace
    have hw : w = w.take (n - m.chars.length) ++ '\x7d' :: w.drop (n - m.chars.length + 1) := by
      rw [← hget, ← List.drop_eq_getElem_cons hlt, List.take_append_drop]
    have hlen : m.chars.length + (w.take (n - m.chars.length)).length = n := by
      rw [List.length_take]
      omega
    refine ⟨_, _, hw, ?_, by rw [hlen]⟩
    have := hpart _ _ hw
    rw [hlen] at this
    rw [this, blockDepth_block] at hdepth
    omega
  · rintro ⟨u, v, hw, heq, rfl⟩
    refine ⟨Nat.le_add_right _ _, ?_, ?_⟩
    · rw [← List.getElem?_drop, hi, hw, ← List.append_assoc, ← List.length_append]
      simp
    · rw [hpart u v hw, blockDepth_block, heq, Int.sub_self]

/-! ## Blocks that end -/

/-- A block ends in a text that has more braces than it opens blocks, those open before it counted. -/
theorem exists_takeBlock_of_lt (h : d + markers cs < cs.count '\x7d') :
    ∃ body rest, takeBlock d cs = some (body, rest) := by
  induction cs generalizing d with
  | nil => simp at h
  | cons c cs ih =>
    -- the rest of the block, where it goes on behind the character
    have step {n : Nat} (hn : n + markers cs < cs.count '\x7d')
        (heq : takeBlock d (c :: cs) = (takeBlock n cs).map fun p => (c :: p.1, p.2)) :
        ∃ body rest, takeBlock d (c :: cs) = some (body, rest) := by
      obtain ⟨body, rest, htake⟩ := ih hn
      exact ⟨c :: body, rest, by rw [heq, htake]; rfl⟩
    by_cases hc : c = '\x7d'
    · subst hc
      rw [markers_cons_of_ne (by decide), List.count_cons_self] at h
      cases d with
      | zero => exact ⟨[], cs, rfl⟩
      | succ d => exact step (n := d) (by omega) rfl
    · rw [markers, List.count_cons_of_ne hc] at h
      refine step (n := if startsMarker (c :: cs) then d + 1 else d) ?_
        (by simp only [takeBlock, hc, if_false])
      split at h <;> rename_i hs <;> simp only [hs, if_true, Bool.false_eq_true, if_false] <;> omega

/-- The brace that ends a block is the first to bring its depth back to zero. -/
theorem isLeast_of_takeBlock (hi : cs.drop i = m.chars ++ w) (h : takeBlock 0 w = some (body, rest)) :
    IsLeast {j | Balances cs i j} (i + (m.chars.length + body.length)) := by
  obtain ⟨hw, hclosed⟩ := takeBlock_eq_some_iff.1 h
  refine ⟨(balances_iff hi).2 ⟨body, rest, hw, hclosed.markers_eq, rfl⟩, fun j hj => ?_⟩
  obtain ⟨u, v, hu, heq, rfl⟩ := (balances_iff hi).1 hj
  -- a brace that stands sooner closes a marker of the block, so something is open behind it
  by_contra hlt
  rcases List.append_eq_append_iff.1 (hw.symm.trans hu) with ⟨x, rfl, -⟩ | ⟨x, rfl, hx⟩
  · rw [List.length_append] at hlt
    omega
  · cases x with
    | nil => simp at hlt
    | cons e x =>
      obtain ⟨rfl, -⟩ := List.cons.inj hx
      have := hclosed.closes u x rfl
      omega

/-- A block ends where some brace brings its depth back to zero. -/
theorem exists_balances_iff (hi : cs.drop i = m.chars ++ w) :
    (∃ j, Balances cs i j) ↔ ∃ body rest, takeBlock 0 w = some (body, rest) := by
  constructor
  · rintro ⟨j, hj⟩
    obtain ⟨u, v, hw, heq, -⟩ := (balances_iff hi).1 hj
    obtain ⟨body, rest, htake⟩ : ∃ body rest, takeBlock 0 (u ++ ['\x7d']) = some (body, rest) := by
      refine exists_takeBlock_of_lt ?_
      rw [markers_append not_holds_brace, markers, List.count_append, List.count_singleton_self]
      omega
    have hwhole := takeBlock_append v htake
    rw [List.append_assoc, List.singleton_append, ← hw] at hwhole
    exact ⟨body, _, hwhole⟩
  · rintro ⟨body, rest, htake⟩
    exact ⟨_, (isLeast_of_takeBlock hi htake).1⟩

/-- The brace that matches a marker is the one that ends the block behind it. -/
theorem matched_iff (hi : cs.drop i = m.chars ++ w) :
    Matched cs i j ↔ ∃ body rest, takeBlock 0 w = some (body, rest) ∧
      j = i + (m.chars.length + body.length) := by
  constructor
  · rintro ⟨-, hleast⟩
    obtain ⟨body, rest, htake⟩ := (exists_balances_iff hi).1 ⟨j, hleast.1⟩
    exact ⟨body, rest, htake, hleast.unique (isLeast_of_takeBlock hi htake)⟩
  · rintro ⟨body, rest, htake, rfl⟩
    refine ⟨startsMarker_iff.2 ⟨m, ?_⟩, isLeast_of_takeBlock hi htake⟩
    rw [hi]
    exact List.prefix_append _ _

/-! ## Blocks in blocks -/

/-- A marker in a text that can stand in a block is closed in it. -/
theorem Closed.exists_takeBlock (h : Closed (u ++ (m.chars ++ v))) :
    ∃ body rest, takeBlock 0 v = some (body, rest) := by
  have hbefore := h.closes.count_le
  have htotal := h.markers_eq
  have hnone : m.chars.count '\x7d' = 0 :=
    List.count_eq_zero.2 fun h => not_holds_brace ⟨m, h⟩
  rw [markers_append_chars, List.count_append, List.count_append, hnone] at htotal
  exact exists_takeBlock_of_lt (by omega)

/-- A matched marker stands in front of a closed text and the brace that matches it. -/
theorem Matched.exists_body (h : Matched cs i j) : ∃ m body rest,
    cs.drop i = Marker.chars m ++ (body ++ '\x7d' :: rest) ∧ Closed body ∧
      j = i + (m.chars.length + body.length) := by
  obtain ⟨m, w, hw⟩ := startsMarker_iff.1 h.marker
  obtain ⟨body, rest, htake, hj⟩ := (matched_iff hw.symm).1 h
  obtain ⟨rfl, hclosed⟩ := takeBlock_eq_some_iff.1 htake
  exact ⟨m, body, rest, hw.symm, hclosed, hj⟩

/-- Only at its first character does a marker start with one. -/
theorem startsMarker_drop_chars (hk : 0 < k) (hkm : k < m.chars.length) :
    startsMarker ((m.chars ++ w).drop k) = false := by
  rw [List.drop_append_of_le_length hkm.le, List.drop_eq_getElem_cons hkm, List.cons_append]
  refine startsMarker_cons_of_ne ?_
  have hdollar : ∀ i, (hi : i < m.chars.length) → 0 < i → m.chars[i] ≠ '$' := by
    cases m <;> decide
  exact hdollar k hkm hk

/-- A marker between that of a block and the brace that matches it stands in the text between the two. -/
theorem Matched.marker_inside (h : Matched cs i j) (hik : i < k) (hkj : k ≤ j)
    (hk : startsMarker (cs.drop k) = true) : ∃ m u m' v rest,
      cs.drop i = Marker.chars m ++ (u ++ (Marker.chars m' ++ v) ++ '\x7d' :: rest) ∧
        Closed (u ++ (m'.chars ++ v)) ∧
        k = i + (m.chars.length + u.length) ∧ j = k + (m'.chars.length + v.length) := by
  obtain ⟨m, body, rest, hi, hclosed, rfl⟩ := h.exists_body
  obtain ⟨n, rfl⟩ := Nat.exists_eq_add_of_lt hik
  rw [Nat.add_assoc, ← List.drop_drop, hi] at hk
  have hmn : m.chars.length ≤ n + 1 := by
    by_contra hlt
    rw [startsMarker_drop_chars n.succ_pos (Nat.lt_of_not_le hlt)] at hk
    cases hk
  obtain ⟨n', hn⟩ := Nat.exists_eq_add_of_le hmn
  rw [hn, ← List.drop_drop, List.drop_left, List.drop_append_of_le_length (by omega),
    startsMarker_append_of_not_holds not_holds_brace] at hk
  obtain ⟨m', v, hv⟩ := startsMarker_iff.1 hk
  have hbody : body = body.take n' ++ (m'.chars ++ v) := by rw [hv, List.take_append_drop]
  have hlen := congrArg List.length hv
  have hn' : n' ≤ body.length := by omega
  refine ⟨m, body.take n', m', v, rest, hbody ▸ hi, hbody ▸ hclosed, ?_, ?_⟩
  · rw [List.length_take, Nat.min_eq_left hn']
    omega
  · rw [List.length_append, List.length_drop] at hlen
    omega

/-- A marker in a block is matched in it, before the brace that ends the block. -/
theorem Matched.inner (h : Matched cs i j) (hik : i < k) (hkj : k ≤ j)
    (hk : startsMarker (cs.drop k) = true) : ∃ j' < j, Matched cs k j' := by
  obtain ⟨m, u, m', v, rest, hi, hclosed, rfl, rfl⟩ := h.marker_inside hik hkj hk
  obtain ⟨body, after, htake⟩ := hclosed.exists_takeBlock
  have hdrop : cs.drop (i + (m.chars.length + u.length)) = m'.chars ++ (v ++ '\x7d' :: rest) := by
    rw [← List.drop_drop, hi, ← List.drop_drop, List.drop_left, List.append_assoc, List.drop_left,
      List.append_assoc]
  refine ⟨_, ?_, (matched_iff hdrop).2 ⟨body, _, takeBlock_append _ htake, rfl⟩⟩
  have hv := congrArg List.length (takeBlock_eq_some htake)
  rw [List.length_append, List.length_cons] at hv
  omega

/-- A brace matches one marker. -/
theorem Matched.unique (h : Matched cs i j) (h' : Matched cs k j) : i = k := by
  wlog hik : i ≤ k generalizing i k
  · exact (this h' h (Nat.le_of_not_le hik)).symm
  by_contra hne
  obtain ⟨j', hj', hinner⟩ := h.inner (Nat.lt_of_le_of_ne hik hne) h'.least.1.le h'.marker
  exact hj'.ne (hinner.least.unique h'.least)

/-! ## Taking a block apart -/

namespace Lexer

variable {l : Lexer} {f : Fault}

/-- Where a marker starts, a step takes the block behind it, or there is no end of one. -/
theorem scan_marker (hrest : l.rest = m.chars ++ cs) :
    l.scan = match takeBlock 0 cs with
      | some (body, rest) => .ok (l.emit (.placeholder m) body rest)
      | none => l.unclosed .unclosedPlaceholder := by
  obtain ⟨tail, hm⟩ := m.chars_eq_cons
  have hs : l.suffix? = none := by
    by_contra hne
    obtain ⟨s, hs⟩ := Option.ne_none_iff_exists'.1 hne
    obtain ⟨c, us, hsigns, hc⟩ := suffix?_eq_cons hs
    rw [hrest, hm] at hsigns
    obtain ⟨rfl, -⟩ := List.cons.inj hsigns
    rcases hc with hc | hc <;> cases hc
  have hmarker : markerAt? (m.chars ++ cs) = some m := markerAt?_chars m cs
  have hdrop : (m.chars ++ cs).drop m.chars.length = cs := List.drop_left
  unfold scan
  rw [hrest]
  rw [hm, List.cons_append] at hmarker hdrop ⊢
  dsimp only
  rw [hs, hmarker]
  dsimp only
  rcases htake : takeBlock 0 cs with _ | ⟨body, rest⟩ <;> simp only [hm, hdrop, htake]

/-- A step fails at a quoted text or at a block that does not end. -/
theorem scan_error_cases (h : l.scan = .error f) : (∃ q, f.cause = .unclosedQuote q) ∨
    ∃ m cs, l.rest = Marker.chars m ++ cs ∧ takeBlock 0 cs = none := by
  have quoted {q : Quote} {cs : List Char} (h : l.takeQuotedToken q cs = .error f) :
      ∃ q, f.cause = .unclosedQuote q := by
    unfold takeQuotedToken at h
    split at h
    · cases h
    · cases h
      exact ⟨q, rfl⟩
  unfold scan at h
  split at h
  · cases h
  · rename_i c cs hrest
    split at h
    · cases h
    · split at h
      · rename_i m hm
        split at h
        · cases h
        · rename_i hnone
          exact .inr ⟨m, _, hrest.trans (markerAt?_eq_some hm), hnone⟩
      · refine .inl ?_
        split at h
        · cases h
        · unfold scanFunction at h
          grind
        · unfold scanPredicate at h
          grind

/-- Where every marker begins a block that ends, what cannot be cut into tokens has a quote that is not
closed. -/
theorem unclosedQuote_of_toTokens {l : Lexer} (hp : l.peeked = none)
    (hends : ∀ u m v, l.rest = u ++ (Marker.chars m ++ v) →
      ∃ body rest, takeBlock 0 v = some (body, rest))
    (h : l.lexed.toTokens = .error f) : ∃ q, f.cause = .unclosedQuote q := by
  induction hn : l.rest.length using Nat.strong_induction_on generalizing l with
  | _ n ih =>
    subst hn
    rw [lexed_eq hp] at h
    rcases hs : l.scan with g | ⟨t, l'⟩ <;> rw [hs] at h
    · cases h
      rcases scan_error_cases hs with hquote | ⟨m, cs, hrest, hnone⟩
      · exact hquote
      · obtain ⟨body, rest, htake⟩ := hends [] m cs hrest
        rw [hnone] at htake
        cases htake
    · dsimp only at h
      split at h
      · cases h
      · rename_i ht
        have htakes := scan_takes hs
        rcases hrest : l'.lexed.toTokens with g | ts <;> rw [Lexed.toTokens, hrest] at h <;> cases h
        refine ih _ (htakes.length_lt ht) (htakes.peeked.trans hp) (fun u m v hmarker => ?_) hrest rfl
        exact hends (t.raw ++ u) m v (by rw [htakes.rest, hmarker, List.append_assoc])

end Lexer

end RouteExpr
