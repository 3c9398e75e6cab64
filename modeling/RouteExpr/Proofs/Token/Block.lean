/-
The blocks of a text, and how many are open behind it.

A block stands between a marker and the brace that closes it: in between, every brace closes a marker
and every marker is closed. So where a block ends can be counted without cutting the text into tokens,
and a block that starts in another ends in it. The blocks of a text without quotes are those of its
placeholder tokens and the blocks in these, and it is cut into tokens where no block is left open.
-/
import RouteExpr.Proofs.Token.Balance

namespace RouteExpr

open Lexer

/-- A text that can stand in a block: every brace closes a marker, and every marker is closed. -/
structure Closed (cs : List Char) : Prop where
  closes : ClosesMarkers cs
  markers_eq : markers cs = cs.count '\x7d'

instance (cs : List Char) : Decidable (Closed cs) :=
  decidable_of_iff (ClosesMarkers cs ∧ markers cs = cs.count '\x7d')
    ⟨fun h => ⟨h.1, h.2⟩, fun h => ⟨h.1, h.2⟩⟩

/-- A block of a text, at whatever depth: what stands between a marker and the brace that closes it. -/
def HasBlock (cs body : List Char) : Prop :=
  ∃ before m after, cs = before ++ (Marker.chars m ++ (body ++ '\x7d' :: after)) ∧ Closed body

/-- How many blocks are open behind a text in front of which `depth` are: a marker opens one, and a
brace closes one, if one is open. -/
def openAfter (depth : Nat) : List Char → Nat
  | [] => depth
  | c :: cs =>
    openAfter (if startsMarker (c :: cs) then depth + 1 else if c = '\x7d' then depth - 1 else depth) cs

variable {cs body text u v rest : List Char} {c : Char} {d : Nat} {m : Marker}

/-! ## Closed texts -/

/-- In a block every brace closes a marker, open before it or its own. -/
theorem takeBlock_closes (h : takeBlock d cs = some (body, rest)) (hbody : body = u ++ '\x7d' :: v) :
    u.count '\x7d' < d + markers u := by
  induction cs generalizing d body u with
  | nil => cases h
  | cons c cs ih =>
    unfold takeBlock at h
    split at h
    · rename_i hc
      subst hc
      cases d with
      | zero =>
        cases h
        exact absurd hbody (by simp)
      | succ d =>
        obtain ⟨⟨b, r⟩, hb, he⟩ := Option.map_eq_some_iff.1 h
        cases he
        cases u with
        | nil => simp
        | cons e u =>
          obtain ⟨rfl, hrest⟩ := List.cons_eq_cons.1 (hbody.trans List.cons_append)
          have hlt := ih hb hrest
          rw [List.count_cons_self, markers_cons_of_ne (by decide)]
          omega
    · rename_i hc
      obtain ⟨⟨b, r⟩, hb, he⟩ := Option.map_eq_some_iff.1 h
      cases he
      cases u with
      | nil => exact absurd (List.cons.inj hbody).1 hc
      | cons e u =>
        obtain ⟨rfl, hrest⟩ := List.cons_eq_cons.1 (hbody.trans List.cons_append)
        have hlt := ih hb hrest
        -- a marker that starts here ends before the brace
        have hs : startsMarker (c :: cs) = startsMarker (c :: u) := by
          rw [takeBlock_eq_some hb, hrest, List.append_assoc, List.cons_append, ← List.cons_append,
            startsMarker_append_of_not_holds not_holds_brace]
        rw [List.count_cons_of_ne hc, markers, ← hs]
        split at hlt <;> rename_i hstart <;> simp only [hstart, if_true, Bool.false_eq_true, if_false] <;>
          omega

/-- What is taken as a block is what stands before the brace that closes it. -/
theorem takeBlock_eq_some_iff :
    takeBlock 0 cs = some (body, rest) ↔ cs = body ++ '\x7d' :: rest ∧ Closed body := by
  constructor
  · intro h
    refine ⟨takeBlock_eq_some h, ⟨fun u v huv => ?_, ?_⟩⟩
    · simpa using takeBlock_closes h huv
    · simpa using (takeBlock_count h).symm
  · rintro ⟨rfl, h⟩
    exact (neutral_of_closes h.closes h.markers_eq.le).takeBlock rest

theorem markers_le_append (u v : List Char) : markers u ≤ markers (u ++ v) := by
  induction u with
  | nil => exact Nat.zero_le _
  | cons c u ih =>
    rw [List.cons_append, markers, markers, ← List.cons_append]
    cases hs : startsMarker (c :: u) with
    | false => simp; omega
    | true => rw [startsMarker_append v hs]; simpa

/-- No marker goes on over the start of another. -/
theorem markers_append_chars (u : List Char) (m : Marker) (v : List Char) :
    markers (u ++ (m.chars ++ v)) = markers u + markers v + 1 := by
  induction u with
  | nil => rw [List.nil_append, markers_chars, markers, Nat.zero_add]
  | cons c u ih =>
    obtain ⟨tail, hm⟩ := m.chars_eq_cons
    have hs : startsMarker (c :: (u ++ (m.chars ++ v))) = startsMarker (c :: u) := by
      rw [hm, List.cons_append, ← List.cons_append, startsMarker_append_dollar (by simp)]
    rw [List.cons_append, markers, markers, ih, hs]
    omega

/-- Up to any place of a text in which every brace closes a marker, no more braces stand than markers
start. -/
theorem ClosesMarkers.count_le (h : ClosesMarkers (u ++ v)) : u.count '\x7d' ≤ markers u := by
  induction u using List.reverseRecOn generalizing v with
  | nil => exact Nat.le_refl 0
  | append_singleton u c ih =>
    have hmarkers := markers_le_append u [c]
    by_cases hc : c = '\x7d'
    · subst hc
      have := h u v (by simp)
      rw [List.count_append, List.count_singleton_self]
      omega
    · have := ih (v := c :: v) (by simpa using h)
      rw [List.count_append, List.count_singleton, if_neg (by simpa using hc)]
      omega

/-! ## Blocks of parts of a text -/

theorem hasBlock_nil : ¬ HasBlock [] body := by
  rintro ⟨before, m, after, h, -⟩
  simp at h

/-- A block starts with the marker at the start of a text, or behind the first character. -/
theorem hasBlock_cons : HasBlock (c :: cs) body ↔
    (∃ m after, c :: cs = Marker.chars m ++ (body ++ '\x7d' :: after) ∧ Closed body) ∨
      HasBlock cs body := by
  constructor
  · rintro ⟨before, m, after, h, hclosed⟩
    cases before with
    | nil => exact .inl ⟨m, after, h, hclosed⟩
    | cons e before => exact .inr ⟨before, m, after, (List.cons.inj h).2, hclosed⟩
  · rintro (⟨m, after, h, hclosed⟩ | ⟨before, m, after, rfl, hclosed⟩)
    · exact ⟨[], m, after, h, hclosed⟩
    · exact ⟨c :: before, m, after, rfl, hclosed⟩

/-- What is a block of a text from its start on can be taken there. -/
theorem startsBlock_iff : (∃ m after, cs = Marker.chars m ++ (body ++ '\x7d' :: after) ∧ Closed body) ↔
    ∃ m rest, markerAt? cs = some m ∧ takeBlock 0 (cs.drop m.chars.length) = some (body, rest) := by
  constructor
  · rintro ⟨m, after, rfl, h⟩
    refine ⟨m, after, markerAt?_chars m _, ?_⟩
    rw [List.drop_left]
    exact takeBlock_eq_some_iff.2 ⟨rfl, h⟩
  · rintro ⟨m, rest, hm, ht⟩
    obtain ⟨hdrop, h⟩ := takeBlock_eq_some_iff.1 ht
    refine ⟨m, rest, ?_, h⟩
    rw [← hdrop]
    exact markerAt?_eq_some hm

/-- The blocks of a text, from the left. -/
def blocks : List Char → List (List Char)
  | [] => []
  | c :: cs =>
    match (markerAt? (c :: cs)).bind fun m => takeBlock 0 ((c :: cs).drop m.chars.length) with
    | some (body, _) => body :: blocks cs
    | none => blocks cs

theorem mem_blocks : body ∈ blocks cs ↔ HasBlock cs body := by
  induction cs with
  | nil => simp [blocks, hasBlock_nil]
  | cons c cs ih =>
    have hstart : (∃ rest, ((markerAt? (c :: cs)).bind fun m =>
        takeBlock 0 ((c :: cs).drop m.chars.length)) = some (body, rest)) ↔
        ∃ m rest, markerAt? (c :: cs) = some m ∧
          takeBlock 0 ((c :: cs).drop m.chars.length) = some (body, rest) := by
      simp only [Option.bind_eq_some_iff]
      exact exists_comm
    rw [hasBlock_cons, startsBlock_iff, ← hstart, ← ih, blocks]
    split
    · rename_i body' rest hbody
      rw [hbody, List.mem_cons]
      simp [eq_comm]
    · rename_i hnone
      rw [hnone]
      simp

theorem forall_hasBlock {p : List Char → Prop} :
    (∀ body, HasBlock cs body → p body) ↔ ∀ body ∈ blocks cs, p body := by
  simp only [mem_blocks]

/-- Blocks of a part of a text are blocks of the text. -/
theorem HasBlock.of_isInfix (h : HasBlock u body) (hu : u <:+: cs) : HasBlock cs body := by
  obtain ⟨before, m, after, rfl, hclosed⟩ := h
  obtain ⟨front, back, rfl⟩ := hu
  exact ⟨front ++ before, m, after ++ back, by simp, hclosed⟩

theorem HasBlock.closed (h : HasBlock cs body) : Closed body := by
  obtain ⟨before, m, after, -, hclosed⟩ := h
  exact hclosed

/-- A block is shorter than a text that it stands in. -/
theorem HasBlock.length_lt (h : HasBlock cs body) : body.length < cs.length := by
  obtain ⟨before, m, after, rfl, -⟩ := h
  simp only [List.length_append, List.length_cons]
  omega

/-- Where no marker starts, no block does. -/
theorem hasBlock_append_of_none
    (h : ∀ a b, u = a ++ b → b ≠ [] → startsMarker (b ++ cs) = false) :
    HasBlock (u ++ cs) body ↔ HasBlock cs body := by
  induction u with
  | nil => rfl
  | cons c u ih =>
    rw [List.cons_append, hasBlock_cons, ih fun a b hab => h (c :: a) b (by rw [hab]; rfl)]
    refine or_iff_right ?_
    rintro ⟨m, after, heq, -⟩
    have hnone := h [] (c :: u) rfl (by simp)
    rw [List.cons_append, heq] at hnone
    rw [startsMarker_iff.2 ⟨m, List.prefix_append _ _⟩] at hnone
    cases hnone

/-- A block that starts in a closed text ends in it. -/
theorem Closed.hasBlock_append (h : Closed text) :
    HasBlock (text ++ '\x7d' :: cs) body ↔ HasBlock text body ∨ HasBlock cs body := by
  constructor
  · rintro ⟨before, m, after, heq, hclosed⟩
    rcases List.append_eq_append_iff.1 heq with ⟨x, rfl, hx⟩ | ⟨w, rfl, hw⟩
    · -- the marker stands behind the text
      cases x with
      | nil =>
        obtain ⟨tail, hm⟩ := m.chars_eq_cons
        rw [hm] at hx
        cases hx
      | cons e x => exact .inr ⟨x, m, after, (List.cons.inj hx).2, hclosed⟩
    · -- the marker starts in the text, and ends in it, since no marker holds a brace
      obtain ⟨w, rfl⟩ : m.chars <+: w := by
        rcases prefix_append_cons ⟨_, hw⟩ with hprefix | ⟨x, hx⟩
        · exact hprefix
        · exact absurd ⟨m, by rw [hx]; simp⟩ not_holds_brace
      rw [List.append_assoc, List.append_cancel_left_eq] at hw
      refine .inl ⟨before, m, ?_⟩
      -- what follows the marker has more braces than markers, so it goes on past the block
      have hcount : markers w < w.count '\x7d' := by
        have hbefore := h.closes.count_le
        have htotal := h.markers_eq
        rw [markers_append_chars, List.count_append, List.count_append,
          List.count_eq_zero.2 fun hm => not_holds_brace ⟨m, hm⟩] at htotal
        omega
      have hlonger (x : List Char) : body ≠ w ++ x := by
        rintro rfl
        exact absurd hclosed.closes.count_le (by omega)
      rcases List.append_eq_append_iff.1 hw with ⟨x, hx, hafter⟩ | ⟨x, hx, -⟩
      · cases x with
        | nil => exact absurd (by rw [hx, List.append_nil, List.append_nil]) (hlonger [])
        | cons e x =>
          obtain ⟨rfl, -⟩ := List.cons.inj hafter
          exact ⟨x, by rw [hx], hclosed⟩
      · exact absurd hx (hlonger x)
  · rintro (hblock | hblock)
    · exact hblock.of_isInfix (List.prefix_append _ _).isInfix
    · exact hblock.of_isInfix ⟨text ++ ['\x7d'], [], by simp⟩

/-- The blocks of a text that starts with a marker are what is taken behind it, and those behind it. -/
theorem hasBlock_chars : HasBlock (m.chars ++ cs) body ↔
    (∃ rest, takeBlock 0 cs = some (body, rest)) ∨ HasBlock cs body := by
  obtain ⟨tail, hm⟩ := m.chars_eq_cons
  have htail : ∀ c ∈ tail, c ≠ '$' := by
    cases m <;> cases hm <;> simp
  rw [hm, List.cons_append, hasBlock_cons, hasBlock_append_of_none (no_marker_of_no_dollar htail),
    startsBlock_iff, ← List.cons_append, ← hm, markerAt?_chars]
  simp

/-- The blocks of a text that starts with a block are that block and those in it, and those behind it. -/
theorem Closed.hasBlock_block (h : Closed text) (m : Marker) :
    HasBlock (m.chars ++ (text ++ '\x7d' :: cs)) body ↔
      (text = body ∨ HasBlock text body) ∨ HasBlock cs body := by
  have htake : takeBlock 0 (text ++ '\x7d' :: cs) = some (text, cs) := takeBlock_eq_some_iff.2 ⟨rfl, h⟩
  rw [hasBlock_chars, h.hasBlock_append, or_assoc, htake]
  simp

/-! ## Open blocks -/

theorem openAfter_append_of_none
    (h : ∀ a b, u = a ++ b → b ≠ [] → startsMarker (b ++ cs) = false) :
    openAfter 0 (u ++ cs) = openAfter 0 cs := by
  induction u with
  | nil => rfl
  | cons c u ih =>
    have hnone := h [] (c :: u) rfl (by simp)
    rw [List.cons_append] at hnone ⊢
    rw [openAfter, hnone, ← ih fun a b hab => h (c :: a) b (by rw [hab]; rfl)]
    simp

theorem openAfter_chars (m : Marker) (d : Nat) (cs : List Char) :
    openAfter d (m.chars ++ cs) = openAfter (d + 1) cs := by
  cases m <;> rfl

/-- Behind a block as many are open as before it. -/
theorem openAfter_of_takeBlock_eq_some (h : takeBlock d cs = some (body, rest)) :
    openAfter (d + 1) cs = openAfter 0 rest := by
  induction cs generalizing d body with
  | nil => cases h
  | cons c cs ih =>
    unfold takeBlock at h
    split at h
    · rename_i hc
      subst hc
      rw [openAfter, startsMarker_cons_of_ne (by decide)]
      cases d with
      | zero => cases h; rfl
      | succ d =>
        obtain ⟨p, hb, he⟩ := Option.map_eq_some_iff.1 h
        cases he
        exact ih hb
    · rename_i hc
      obtain ⟨p, hb, he⟩ := Option.map_eq_some_iff.1 h
      cases he
      rw [openAfter, if_neg hc, ← ih hb]
      split <;> rfl

/-- A block that does not end stays open. -/
theorem openAfter_of_takeBlock_eq_none (h : takeBlock d cs = none) : 0 < openAfter (d + 1) cs := by
  induction cs generalizing d with
  | nil => exact Nat.succ_pos d
  | cons c cs ih =>
    unfold takeBlock at h
    split at h
    · rename_i hc
      subst hc
      rw [openAfter, startsMarker_cons_of_ne (by decide)]
      cases d with
      | zero => cases h
      | succ d => exact ih (Option.map_eq_none_iff.1 h)
    · rename_i hc
      have hopen := ih (Option.map_eq_none_iff.1 h)
      rw [openAfter, if_neg hc]
      split at hopen <;> rename_i hs <;> simpa [hs] using hopen

/-- Where every brace closes a marker, as many blocks are open behind a text as markers are not
closed. -/
theorem openAfter_add_count (h : ∀ u v, cs = u ++ '\x7d' :: v → u.count '\x7d' < d + markers u) :
    openAfter d cs + cs.count '\x7d' = d + markers cs := by
  induction cs generalizing d with
  | nil => rfl
  | cons c cs ih =>
    by_cases hc : c = '\x7d'
    · subst hc
      obtain ⟨d, rfl⟩ : ∃ k, d = k + 1 := ⟨d - 1, by have := h [] cs rfl; simp [markers] at this; omega⟩
      rw [openAfter, startsMarker_cons_of_ne (by decide), List.count_cons_self,
        markers_cons_of_ne (by decide)]
      have hrest := ih (d := d) fun u v huv => by
        have := h ('\x7d' :: u) v (by rw [huv, List.cons_append])
        rw [List.count_cons_self, markers_cons_of_ne (by decide)] at this
        omega
      simp only [Bool.false_eq_true, if_false, if_true, Nat.add_sub_cancel]
      omega
    · rw [openAfter, if_neg hc, List.count_cons_of_ne hc, markers]
      have hrest := ih (d := if startsMarker (c :: cs) then d + 1 else d) fun u v huv => by
        have hs : startsMarker (c :: cs) = startsMarker (c :: u) := by
          rw [huv, ← List.cons_append, startsMarker_append_of_not_holds not_holds_brace]
        have := h (c :: u) v (by rw [huv, List.cons_append])
        rw [List.count_cons_of_ne hc, markers, ← hs] at this
        split <;> simp_all
        omega
      rw [hrest]
      split <;> omega

theorem Closed.openAfter_eq (h : Closed cs) : openAfter 0 cs = 0 := by
  have := openAfter_add_count (d := 0) fun u v huv => by
    rw [Nat.zero_add]
    exact h.closes u v huv
  have := h.markers_eq
  omega

/-! ## Texts without quotes -/

theorem Token.raw_append_of_placeholder {t : Token} (ht : t.kind = .placeholder m)
    (rest : List Char) : t.raw ++ rest = m.chars ++ (t.text ++ '\x7d' :: rest) := by
  simp [raw, ht, Kind.opening, Kind.closing]

theorem Lexed.exists_toTokens_token {t : Token} {l : Lexed} :
    (∃ ts, (Lexed.token t l).toTokens = .ok ts) ↔ ∃ ts, l.toTokens = .ok ts := by
  rw [toTokens]
  cases l.toTokens with
  | ok ts => exact ⟨fun _ => ⟨ts, rfl⟩, fun _ => ⟨t :: ts, rfl⟩⟩
  | error f => simp [Except.map]

namespace Lexer

open Token

variable {l l' : Lexer} {t : Token} {ts : List Token}

/-- Where no quote is left in a template or a block, the next token is plain or a block, unless a
marker stands there that opens one without an end. -/
theorem scan_unquoted (hm : l.mode ≠ .predicate) (hne : l.rest ≠ [])
    (hquote : ∀ c ∈ l.rest, quote? c = none) :
    (∃ t l', l.scan = .ok (t, l') ∧ (t.isPlain = true ∨ ∃ m, t.kind = .placeholder m)) ∨
      ∃ m cs f, l.rest = Marker.chars m ++ cs ∧ takeBlock 0 cs = none ∧ l.scan = .error f := by
  obtain ⟨c, cs, hrest⟩ := List.exists_cons_of_ne_nil hne
  have hc : quote? c = none := hquote c (by rw [hrest]; exact List.mem_cons_self)
  unfold scan
  rw [hrest]
  dsimp only
  split
  · exact .inl ⟨_, _, rfl, .inl rfl⟩
  · split
    · rename_i m hmark
      have heq := markerAt?_eq_some hmark
      split
      · exact .inl ⟨_, _, rfl, .inr ⟨m, rfl⟩⟩
      · rename_i hnone
        exact .inr ⟨m, _, _, heq, hnone, rfl⟩
    · refine .inl ?_
      cases hmode : l.mode with
      | template => exact ⟨_, _, rfl, .inl rfl⟩
      | predicate => exact absurd hmode hm
      | function =>
        unfold scanFunction
        dsimp only
        rw [hc]
        split_ifs <;> exact ⟨_, _, rfl, .inl rfl⟩

/-- A token of a template or a block leaves as many blocks open as there were. -/
theorem openAfter_of_scan (hm : l.mode ≠ .predicate) (h : l.scan = .ok (t, l'))
    (ht : t.isPlain = true ∨ ∃ m, t.kind = .placeholder m) :
    openAfter 0 l.rest = openAfter 0 l'.rest := by
  rw [(scan_takes h).rest]
  rcases ht with hplain | ⟨m, hk⟩
  · exact openAfter_append_of_none (scan_separate hm h hplain)
  · rw [raw_append_of_placeholder hk, openAfter_chars,
      openAfter_of_takeBlock_eq_some (takeBlock_of_scan h hk)]

/-- Without quotes, a template or a block is cut into tokens exactly if no block is left open. -/
theorem exists_toTokens_iff : ∀ (l : Lexer), l.mode ≠ .predicate → l.peeked = none →
    (∀ c ∈ l.rest, quote? c = none) → ((∃ ts, l.lexed.toTokens = .ok ts) ↔ openAfter 0 l.rest = 0)
  | l, hm, hp, hquote => by
    by_cases hne : l.rest = []
    · rw [lexed_of_nil hp hne, hne]
      exact ⟨fun _ => rfl, fun _ => ⟨[], rfl⟩⟩
    rcases scan_unquoted hm hne hquote with ⟨t, l', hs, hkind⟩ | ⟨m, cs, f, hrest, hblock, hs⟩
    · have htakes := scan_takes hs
      have heof : t.kind ≠ .eof := fun h => hne (htakes.eof.1 h)
      have hlt := htakes.length_lt heof
      rw [openAfter_of_scan hm hs hkind, ← exists_toTokens_iff l' (by rwa [htakes.mode])
        (htakes.peeked.trans hp)
        fun c hc => hquote c (by rw [htakes.rest]; exact List.mem_append_right _ hc),
        lexed_of_scan hp hs heof, Lexed.exists_toTokens_token]
    · rw [lexed_of_error hp hs, hrest, openAfter_chars]
      have hopen := openAfter_of_takeBlock_eq_none hblock
      constructor
      · rintro ⟨ts, hts⟩
        cases hts
      · intro h
        omega
  termination_by l => l.rest.length

/-- The blocks of a template or a block are those of its tokens, where these have no quotes. -/
theorem hasBlock_iff_tokens (hm : l.mode ≠ .predicate) (hp : l.peeked = none)
    (h : l.lexed.toTokens = .ok ts) (hquote : ∀ t ∈ ts, ∀ q, t.kind ≠ .quoted q) :
    HasBlock l.rest body ↔
      ∃ t ∈ ts, t.kind.isPlaceholder = true ∧ (t.text = body ∨ HasBlock t.text body) := by
  induction ts generalizing l with
  | nil =>
    rw [rest_of_toTokens_nil hp h]
    simp [hasBlock_nil]
  | cons t ts ih =>
    obtain ⟨l', hs, -, hts, -⟩ := scan_of_toTokens_cons hp h
    have htakes := scan_takes hs
    rw [List.exists_mem_cons_iff, ← ih (by rwa [htakes.mode]) (htakes.peeked.trans hp) hts
      fun u hu => hquote u (List.mem_cons_of_mem _ hu), htakes.rest]
    cases hplaceholder : t.kind.isPlaceholder with
    | false =>
      have hplain := isPlain_iff.2 ⟨hplaceholder, hquote t List.mem_cons_self⟩
      rw [hasBlock_append_of_none (scan_separate hm hs hplain)]
      simp
    | true =>
      obtain ⟨m, hk⟩ : ∃ m, t.kind = .placeholder m := by
        cases hk : t.kind <;> first | exact ⟨_, rfl⟩ | (rw [hk] at hplaceholder; cases hplaceholder)
      have hclosed := (takeBlock_eq_some_iff.1 (takeBlock_of_scan hs hk)).2
      rw [raw_append_of_placeholder hk, hclosed.hasBlock_block]
      simp

end Lexer

/-- The text of a placeholder is a block of the region that the placeholder stands in. -/
theorem Lexed.hasBlock_text {mode : Mode} {offset : Nat} {t : Token}
    (ht : t ∈ (Lexed.of mode offset cs).tokens) (hk : t.kind = .placeholder m) : HasBlock cs t.text := by
  obtain ⟨l₁, l₂, -, -, hs, -⟩ := scan_of_mem_tokens (Lexer.start mode offset cs) rfl ht
  obtain ⟨before, after, hcs⟩ := Lexed.raw_isInfix ht
  refine ⟨before, m, after, ?_, (takeBlock_eq_some_iff.1 (takeBlock_of_scan hs hk)).2⟩
  rw [← hcs, List.append_assoc, Token.raw_append_of_placeholder hk]

theorem quote?_eq_none (h : c ≠ '\'' ∧ c ≠ '"') : quote? c = none := by
  rw [quote?, if_neg h.1, if_neg h.2]

/-- No token of a template or a block without quotes is quoted, and none has a quote in it. -/
theorem Lexed.unquoted {mode : Mode} (hm : mode ≠ .predicate) {offset : Nat}
    (hquote : ∀ c ∈ cs, quote? c = none) {t : Token} (ht : t ∈ (Lexed.of mode offset cs).tokens) :
    (∀ q, t.kind ≠ .quoted q) ∧ ∀ c ∈ t.text, quote? c = none := by
  have hraw : ∀ c ∈ t.raw, quote? c = none := by
    obtain ⟨before, after, htokens⟩ := List.append_of_mem ht
    have hraws := (lexed_separate (Lexer.start mode offset cs) hm rfl).1
    intro c hc
    refine hquote c (hraws.subset ?_)
    rw [← Lexed.of_eq_lexed, htokens, Token.raws_append, Token.raws_cons]
    exact List.mem_append_right _ (List.mem_append_left _ hc)
  refine ⟨fun q hq => ?_, fun c hc => hraw c ?_⟩
  · have := hraw q.toChar (by rw [Token.raw, hq]; simp [Token.Kind.opening])
    rw [quote?_toChar] at this
    cases this
  · rw [Token.raw]
    exact List.mem_append_left _ (List.mem_append_right _ hc)

end RouteExpr
