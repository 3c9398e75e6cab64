/-
Where the markers of a template or of a block are: each opens a placeholder token, or is inside a
quoted one.

The other tokens are plain. Plain text ends where a marker starts, so no marker starts in a plain
token, not even one that goes on into the tokens behind it.
-/
import RouteExpr.Proofs.Result
import RouteExpr.Proofs.Token.Scan
import Mathlib.Data.List.TakeWhile

namespace RouteExpr

open Lexer Predicate

/-! ## Plain tokens -/

namespace Token

/-- Whether a token is neither a placeholder nor quoted. -/
def isPlain (t : Token) : Bool :=
  match t.kind with
  | .placeholder _ => false
  | .quoted _ => false
  | _ => true

theorem isPlain_iff {t : Token} :
    t.isPlain = true ↔ t.kind.isPlaceholder = false ∧ ∀ q, t.kind ≠ .quoted q := by
  unfold isPlain
  cases t.kind <;> simp [Kind.isPlaceholder]

/-- The characters that tokens were cut from. -/
def raws (ts : List Token) : List Char :=
  ts.flatMap raw

@[simp] theorem raws_nil : raws [] = [] := rfl

@[simp] theorem raws_cons (t : Token) (ts : List Token) : raws (t :: ts) = t.raw ++ raws ts := rfl

theorem raws_append (ts us : List Token) : raws (ts ++ us) = raws ts ++ raws us :=
  List.flatMap_append

theorem raw_of_isPlain {t : Token} (h : t.isPlain = true) : t.raw = t.text := by
  obtain ⟨kind, text, start⟩ := t
  cases kind with
  | placeholder m => cases h
  | quoted q => cases h
  | _ => simp [raw, Kind.opening, Kind.closing]

theorem length_text_le {t : Token} {ts : List Token} (h : t ∈ ts) :
    t.text.length ≤ (raws ts).length := by
  obtain ⟨before, after, rfl⟩ := List.append_of_mem h
  rw [raws_append, raws_cons, raw]
  simp only [List.length_append]
  omega

/-- Tokens in a row where no marker starts in a plain one. -/
def Separate (ts : List Token) : Prop :=
  ∀ before t after, ts = before ++ t :: after → t.isPlain = true →
    ∀ u v, t.raw = u ++ v → v ≠ [] → startsMarker (v ++ raws after) = false

theorem Separate.of_isInfix {ts us : List Token} (h : Separate ts) (hi : us <:+: ts) :
    Separate us := by
  obtain ⟨front, back, rfl⟩ := hi
  rintro before t after rfl ht u v huv hv
  have := h (front ++ before) t (after ++ back) (by simp) ht u v huv hv
  rw [raws_append, ← List.append_assoc] at this
  exact startsMarker_of_append this

theorem Separate.tail {t : Token} {ts : List Token} (h : Separate (t :: ts)) : Separate ts :=
  h.of_isInfix (List.suffix_cons t ts).isInfix

/-! ## Markers in what tokens were cut from -/

/-- In front of text, a plain token brings no marker. -/
theorem Separate.hasMarker_append {t : Token} {ts : List Token} {cs : List Char}
    (h : Separate (t :: ts)) (ht : t.isPlain = true) (hcs : cs <+: raws ts) :
    hasMarker (t.raw ++ cs) = hasMarker cs := by
  obtain ⟨more, hmore⟩ := hcs
  have none : ∀ u v, t.raw = u ++ v → v ≠ [] → startsMarker (v ++ cs) = false := by
    intro u v huv hv
    have := h [] t ts rfl ht u v huv hv
    rw [← hmore, ← List.append_assoc] at this
    exact startsMarker_of_append this
  generalize t.raw = raw at none
  induction raw with
  | nil => rfl
  | cons c raw ih =>
    rw [List.cons_append, hasMarker, ← List.cons_append, none [] (c :: raw) rfl (by simp),
      Bool.false_or]
    exact ih fun u v huv hv => none (c :: u) v (by rw [huv, List.cons_append]) hv

/-- A character that stands in no marker keeps the markers on its two sides apart. -/
theorem hasMarker_append_cons {c : Char} (hc : ¬ Marker.holds c) (u v : List Char) :
    hasMarker (u ++ c :: v) = (hasMarker u || hasMarker v) := by
  induction u with
  | nil =>
    have hdollar : c ≠ '$' := by rintro rfl; exact hc (by decide)
    show (startsMarker (c :: v) || hasMarker v) = _
    rw [startsMarker_cons_of_ne hdollar]
    rfl
  | cons d u ih =>
    rw [List.cons_append, hasMarker, hasMarker, ih, ← List.cons_append,
      startsMarker_append_of_not_holds hc, Bool.or_assoc]

/-- In front of text, a quoted token brings the markers of its text. -/
theorem hasMarker_quoted_append {t : Token} {q : Quote} (ht : t.kind = .quoted q)
    (cs : List Char) : hasMarker (t.raw ++ cs) = (hasMarker t.text || hasMarker cs) := by
  have hraw : t.raw ++ cs = [] ++ q.toChar :: (t.text ++ q.toChar :: cs) := by
    simp [raw, ht, Kind.opening, Kind.closing]
  rw [hraw, hasMarker_append_cons (not_holds_quote q), hasMarker_append_cons (not_holds_quote q)]
  rfl

end Token

/-! ## Tokens of templates and blocks -/

theorem Lexed.tokens_of_toTokens {ts : List Token} :
    ∀ {l : Lexed}, l.toTokens = .ok ts → l.tokens = ts
  | .eof _, h => by cases h; rfl
  | .fault _, h => by cases h
  | .token t rest, h => by
    rw [toTokens] at h
    cases hr : rest.toTokens with
    | error f => rw [hr] at h; cases h
    | ok us =>
      rw [hr] at h
      cases h
      rw [tokens, tokens_of_toTokens hr]

namespace Lexer

open Token

variable {l l' : Lexer} {t : Token}

theorem rest_of_toTokens_nil (hp : l.peeked = none) (h : l.lexed.toTokens = .ok []) :
    l.rest = [] := by
  rcases hl : l.lexed with offset | f | ⟨t, rest⟩ <;> rw [hl] at h
  · exact rest_of_lexed_eof hp hl
  · cases h
  · obtain ⟨us, -, heq⟩ := map_eq_ok h
    cases heq

theorem scan_of_toTokens_cons {us : List Token} (hp : l.peeked = none)
    (h : l.lexed.toTokens = .ok (t :: us)) :
    ∃ l', l.scan = .ok (t, l') ∧ l.lexed = .token t l'.lexed ∧ l'.lexed.toTokens = .ok us ∧
      l.rest ≠ [] := by
  rcases hl : l.lexed with offset | f | ⟨u, rest⟩ <;> rw [hl] at h
  · cases h
  · cases h
  · obtain ⟨us, hus, heq⟩ := map_eq_ok h
    cases heq
    obtain ⟨l', hs, rfl, hk⟩ := scan_of_lexed_token hp hl
    exact ⟨l', hs, rfl, hus, fun hnil => hk ((scan_takes hs).eof.2 hnil)⟩

/-- No marker starts in characters of which none is a dollar sign. -/
theorem no_marker_of_no_dollar {text rest : List Char} (h : ∀ c ∈ text, c ≠ '$') :
    ∀ u v, text = u ++ v → v ≠ [] → startsMarker (v ++ rest) = false := by
  intro u v huv hv
  obtain ⟨c, v, rfl⟩ := List.exists_cons_of_ne_nil hv
  exact startsMarker_cons_of_ne (h c (by rw [huv]; simp))

/-- No marker starts in text that is cut off at markers. -/
theorem no_marker_of_takeUntil {stop : List Char → Bool} {cs : List Char}
    (hstop : ∀ c cs, stop (c :: cs) = false → startsMarker (c :: cs) = false) :
    ∀ u v, (takeUntil stop cs).1 = u ++ v → v ≠ [] →
      startsMarker (v ++ (takeUntil stop cs).2) = false := by
  intro u v huv hv
  have hs := (takeUntil_spec stop cs).2.2 u v huv hv
  obtain ⟨c, v, rfl⟩ := List.exists_cons_of_ne_nil hv
  exact hstop c _ hs

/-- No marker starts in a plain token of a template or a block. -/
theorem scan_separate (hm : l.mode ≠ .predicate) (h : l.scan = .ok (t, l'))
    (ht : t.isPlain = true) :
    ∀ u v, t.raw = u ++ v → v ≠ [] → startsMarker (v ++ l'.rest) = false := by
  rw [raw_of_isPlain ht]
  generalize hr : (t, l') = r at h
  cases cuts_of_scan h with
  | eof => cases hr; exact no_marker_of_no_dollar (by simp)
  | suffix hs =>
    cases hr
    apply no_marker_of_no_dollar
    show ∀ c ∈ l.rest.take 2, c ≠ '$'
    rcases (suffix?_eq_some hs).2.2 with h | h <;> rw [h] <;> simp
  | block => cases hr; cases ht
  | text => cases hr; exact no_marker_of_takeUntil fun _ _ hs => hs
  | blanks =>
    cases hr
    refine no_marker_of_no_dollar fun d hd hdollar => ?_
    have hblank := List.mem_takeWhile_imp hd
    rw [hdollar] at hblank
    cases hblank
  | quoted => cases hr; cases ht
  | openParen | closeParen | comma => cases hr; exact no_marker_of_no_dollar (by simp)
  | plain => cases hr; exact no_marker_of_takeUntil fun _ _ => startsMarker_of_endsPlain
  | brace hmode | symbol hmode | word hmode => exact absurd hmode hm

/-- The tokens of a template or a block are cut from the text in order, and no marker starts in a
plain one. -/
theorem lexed_separate : ∀ (l : Lexer), l.mode ≠ .predicate → l.peeked = none →
    raws l.lexed.tokens <+: l.rest ∧ Separate l.lexed.tokens
  | l, hm, hp => by
    rcases hs : l.scan with f | ⟨t, l'⟩
    · rw [lexed_of_error hp hs]
      exact ⟨List.nil_prefix, by rintro (_ | _) _ _ ⟨⟩⟩
    have htakes := scan_takes hs
    by_cases hk : t.kind = .eof
    · rw [lexed_of_nil hp (htakes.eof.1 hk)]
      exact ⟨List.nil_prefix, by rintro (_ | _) _ _ ⟨⟩⟩
    have hlt := htakes.length_lt hk
    obtain ⟨hpre, hsep⟩ := lexed_separate l' (by rw [htakes.mode]; exact hm)
      (htakes.peeked.trans hp)
    rw [lexed_of_scan hp hs hk, Lexed.tokens]
    refine ⟨by rw [raws_cons, htakes.rest, List.prefix_append_right_inj]; exact hpre, ?_⟩
    rintro (_ | ⟨_, before⟩) u after heq hu
    · -- what the other tokens were cut from is what the first one left
      cases heq
      intro x v hxv hv
      obtain ⟨more, hmore⟩ := hpre
      have := scan_separate hm hs hu x v hxv hv
      rw [← hmore, ← List.append_assoc] at this
      exact startsMarker_of_append this
    · exact hsep before u after (List.cons.inj heq).2 hu
  termination_by l => l.rest.length

/-- Each token was cut off by a lexer of the same mode, which had an end of the text left. -/
theorem scan_of_mem_tokens : ∀ (l : Lexer), l.peeked = none → t ∈ l.lexed.tokens →
    ∃ l₁ l₂ : Lexer, l₁.mode = l.mode ∧ l₁.rest ≠ [] ∧ l₁.scan = .ok (t, l₂) ∧ l₁.rest <:+ l.rest
  | l, hp, ht => by
    rcases hs : l.scan with f | ⟨u, l'⟩
    · rw [lexed_of_error hp hs] at ht; cases ht
    have htakes := scan_takes hs
    by_cases hk : u.kind = .eof
    · rw [lexed_of_nil hp (htakes.eof.1 hk)] at ht; cases ht
    have hlt := htakes.length_lt hk
    rw [lexed_of_scan hp hs hk, Lexed.tokens] at ht
    rcases List.mem_cons.1 ht with rfl | ht
    · exact ⟨l, l', rfl, fun hnil => hk (htakes.eof.2 hnil), hs, List.suffix_refl _⟩
    · obtain ⟨l₁, l₂, hm, hne, hs₁, hrest⟩ := scan_of_mem_tokens l' (htakes.peeked.trans hp) ht
      exact ⟨l₁, l₂, hm.trans htakes.mode, hne, hs₁, hrest.trans ⟨u.raw, htakes.rest.symm⟩⟩
  termination_by l => l.rest.length

end Lexer

/-- No token of a template or a block is longer than the region. -/
theorem Lexed.length_text_le {mode : Mode} (hm : mode ≠ .predicate) {offset : Nat} {cs : List Char}
    {t : Token} (ht : t ∈ (Lexed.of mode offset cs).tokens) : t.text.length ≤ cs.length := by
  have hraws := (Lexer.lexed_separate (Lexer.start mode offset cs) hm rfl).1
  exact (Token.length_text_le ht).trans hraws.length_le

/-- The characters of a token stand in the region. -/
theorem Lexed.raw_isInfix {mode : Mode} {offset : Nat} {cs : List Char} {t : Token}
    (ht : t ∈ (Lexed.of mode offset cs).tokens) : t.raw <:+: cs := by
  obtain ⟨l₁, l₂, -, -, hs, hrest⟩ := scan_of_mem_tokens (Lexer.start mode offset cs) rfl ht
  rw [(scan_takes hs).rest] at hrest
  exact (List.prefix_append _ _).isInfix.trans hrest.isInfix

/-- In a template no text is quoted. -/
theorem Lexed.not_quoted_of_template {offset : Nat} {cs : List Char} {t : Token}
    (ht : t ∈ (Lexed.of .template offset cs).tokens) (q : Quote) : t.kind ≠ .quoted q := by
  intro hq
  obtain ⟨l₁, l₂, hm, hne, hs, -⟩ := scan_of_mem_tokens (Lexer.start .template offset cs) rfl ht
  rcases scan_template hm hne hs with ⟨s, hk⟩ | hk | ⟨m, hk, -⟩ <;>
  · rw [hq] at hk; cases hk

end RouteExpr
