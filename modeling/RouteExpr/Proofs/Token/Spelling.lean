/-
Tokens of texts that differ in how markers are written.

Such texts are cut at the same places. Their tokens are the same but for their offsets and for the
markers that open placeholders, or stand in the texts of placeholders and in quoted texts: in no other
token does a marker start.
-/
import RouteExpr.Proofs.Token.Shorten

namespace RouteExpr

open Lexer

/-! ## Tokens -/

/-- The kind of a token, whatever marker opens it. -/
def Token.Kind.short : Token.Kind → Token.Kind
  | .placeholder _ => .placeholder .short
  | kind => kind

/-- A token at the start of a text, with its markers written short. -/
def Token.short (t : Token) : Token :=
  ⟨t.kind.short, if t.isPlain then t.text else shorten t.text, 0⟩

theorem keepsKinds_short : KeepsKinds Token.short := by
  intro t k hk
  show t.kind.short = k ↔ t.kind = k
  cases t.kind <;> cases k <;> simp_all [Token.Kind.short, Token.Kind.isPlaceholder]

namespace Token

variable {t t' : Token}

/-- Tokens that are the same with short markers are both plain or neither is. -/
theorem isPlain_of_short_eq (h : t.short = t'.short) (ht : t.isPlain = true) : t'.isPlain = true := by
  obtain ⟨hp, hq⟩ := isPlain_iff.1 ht
  rw [(keepsKinds_short.sameKind h).isPlaceholder_eq] at hp
  exact isPlain_iff.2 ⟨hp, fun q => mt (keepsKinds_short.sameKind h _ rfl).2 (hq q)⟩

theorem text_of_short_eq (h : t.short = t'.short) (ht : t.isPlain = true) : t'.text = t.text := by
  have htext := congrArg Token.text h
  simp only [short, ht, isPlain_of_short_eq h ht, if_true] at htext
  exact htext.symm

theorem shorten_text_eq (h : t.short = t'.short) : shorten t.text = shorten t'.text := by
  cases ht : t.isPlain with
  | true => rw [text_of_short_eq h ht]
  | false =>
    have ht' : t'.isPlain = false := by
      by_contra hplain
      rw [isPlain_of_short_eq h.symm (by simpa using hplain)] at ht
      cases ht
    have htext := congrArg Token.text h
    simpa only [short, ht, ht', Bool.false_eq_true, if_false] using htext

end Token

/-- Two lexers whose texts differ only in how markers are written. -/
structure Lexer.Alike (l l' : Lexer) : Prop where
  mode : l'.mode = l.mode
  depth : l'.depth = l.depth
  after : l'.afterPlaceholder = l.afterPlaceholder
  peeked : l.peeked = none
  peeked' : l'.peeked = none
  rest : shorten l.rest = shorten l'.rest

/-- The next step cuts off a token that is the same but for the markers in it, and leads to a state
that goes on alike. -/
def Lexer.ScansLike (l' : Lexer) (r : Token × Lexer) : Prop :=
  ∃ t' m', l'.scan = .ok (t', m') ∧ r.1.short = t'.short ∧ r.2.Alike m'

namespace Lexer.Alike

variable {l l' : Lexer}

theorem symm (h : l.Alike l') : l'.Alike l :=
  ⟨h.mode.symm, h.depth.symm, h.after.symm, h.peeked', h.peeked, h.rest.symm⟩

theorem emit (h : l.Alike l') {k k' : Token.Kind} (hk : k.short = k'.short) {text text' us vs : List Char}
    (hrest : shorten us = shorten vs) : (l.emit k text us).2.Alike (l'.emit k' text' vs).2 := by
  refine ⟨h.mode, h.depth, ?_, h.peeked, h.peeked', hrest⟩
  rw [emit_after, emit_after]
  cases k <;> cases k' <;> first | rfl | cases hk

/-- A suffix stands behind both or neither. -/
theorem suffix (h : l.Alike l') {s : Step} (hs : l.suffix? = some s) :
    l'.suffix? = some s ∧ l'.rest.take 2 = l.rest.take 2 ∧
      shorten (l.rest.drop 2) = shorten (l'.rest.drop 2) := by
  obtain ⟨c, us, hrest, hsign⟩ := suffix?_eq_cons hs
  have hdollar : c ≠ '$' := by rcases hsign with rfl | rfl <;> decide
  have hshort := h.rest
  rw [hrest] at hshort
  obtain ⟨vs, hvs, -, hshort₁⟩ := cons_of_shorten_eq (startsMarker_cons_of_ne hdollar) hshort
  obtain ⟨ws, rfl, -, hshort₂⟩ := cons_of_shorten_eq (startsMarker_cons_of_ne hdollar) hshort₁
  have htake : l'.rest.take 2 = l.rest.take 2 := by rw [hvs, hrest]; rfl
  refine ⟨?_, htake, ?_⟩
  · unfold suffix? at hs ⊢
    rw [h.mode, h.after, htake, hs]
  · rw [hvs, hrest]
    exact hshort₂

theorem no_suffix (h : l.Alike l') (hs : l.suffix? = none) : l'.suffix? = none := by
  cases hs' : l'.suffix? with
  | none => rfl
  | some s =>
    rw [(h.symm.suffix hs').1] at hs
    cases hs

theorem head?_eq (h : l.Alike l') : l'.rest.head? = l.rest.head? := by
  rw [← head?_shorten, ← h.rest, head?_shorten]

/-- A test that markers written in either way pass alike is passed by both texts or by neither. -/
theorem stop_eq (h : l.Alike l') {stop : List Char → Bool} (hstop : ∀ cs, stop (shorten cs) = stop cs) :
    stop l'.rest = stop l.rest := by
  rw [← hstop, ← h.rest, hstop]

/-- A letter that opens no marker is taken off both texts. -/
theorem cons (h : l.Alike l') {c : Char} {cs : List Char} (hrest : l.rest = c :: cs) (hc : c ≠ '$') :
    ∃ ds, l'.rest = c :: ds ∧ shorten cs = shorten ds := by
  have hshort := h.rest
  rw [hrest] at hshort
  obtain ⟨ds, hds, -, hcs⟩ := cons_of_shorten_eq (startsMarker_cons_of_ne hc) hshort
  exact ⟨ds, hds, hcs⟩

/-- A plain token of the same text is cut off both texts. -/
theorem cut_plain (h : l.Alike l') {k : Token.Kind} {text us vs : List Char} {e e' : Nat} (he : e' = e)
    (hc : l'.Cuts ({ l' with depth := e' }.emit k text vs)) (hrest : shorten us = shorten vs) :
    l'.ScansLike ({ l with depth := e }.emit k text us) := by
  have hdepth : ({ l with depth := e } : Lexer).Alike { l' with depth := e' } :=
    ⟨h.mode, he, h.after, h.peeked, h.peeked', h.rest⟩
  exact ⟨_, _, scan_of_cuts hc, rfl, hdepth.emit rfl hrest⟩

/-- A block is cut off both texts, but for the markers that open it or stand in it. -/
theorem cut_block (h : l.Alike l') {m : Marker} {body rest : List Char} (hsuffix : l.suffix? = none)
    (hmark : markerAt? l.rest = some m)
    (hbody : takeBlock 0 (l.rest.drop m.chars.length) = some (body, rest)) :
    l'.ScansLike (l.emit (.placeholder m) body rest) := by
  have hshort := h.rest
  rw [markerAt?_eq_some hmark] at hshort
  obtain ⟨m', ds, hds, hdrop⟩ := marker_of_shorten_eq hshort
  obtain ⟨body', rest', hbody', heq, hrest⟩ := takeBlock_of_shorten_eq hdrop hbody
  have hscan : l'.Cuts (l'.emit (.placeholder m') body' rest') := by
    refine .block (h.no_suffix hsuffix) ?_ ?_
    · rw [hds, markerAt?_chars]
    · rwa [hds, List.drop_left]
  have hkind : (Token.Kind.placeholder m).short = (Token.Kind.placeholder m').short := rfl
  exact ⟨_, _, scan_of_cuts hscan, congrArg (Token.mk _ · 0) heq, h.emit hkind hrest⟩

/-- A run of literal text is cut off both texts. -/
theorem cut_text (h : l.Alike l') (hmode : l.mode = .template) (hne : l.rest ≠ [])
    (hsuffix : l.suffix? = none) (hmark : markerAt? l.rest = none) :
    l'.ScansLike (l.emit .literal (takeUntil startsMarker l.rest).1 (takeUntil startsMarker l.rest).2) := by
  obtain ⟨htext, hrest⟩ := takeUntil_of_shorten_eq (fun _ hs => hs) startsMarker_shorten h.rest
  rw [htext]
  refine h.cut_plain h.depth (.text (h.mode.trans hmode) ?_ (h.no_suffix hsuffix) ?_) hrest
  · exact fun hnil => hne (nil_of_shorten_eq (hnil ▸ h.rest.symm))
  · refine markerAt?_eq_none ?_
    rw [h.stop_eq startsMarker_shorten, startsMarker, hmark]
    rfl

/-- A run of blanks is cut off both texts. -/
theorem cut_blanks (h : l.Alike l') {c : Char} {cs : List Char} (hmode : l.mode ≠ .template)
    (hrest : l.rest = c :: cs) (hsuffix : l.suffix? = none) (hblank : Text.isBlank c = true) :
    l'.ScansLike l.takeBlanks := by
  obtain ⟨ds, hds, -⟩ := h.cons hrest (by rintro rfl; cases hblank)
  have htake : l.rest.takeWhile Text.isBlank = l'.rest.takeWhile Text.isBlank := by
    rw [← (blanks_shorten l.rest).1, h.rest, (blanks_shorten l'.rest).1]
  have hdrop : shorten (l.rest.dropWhile Text.isBlank) = shorten (l'.rest.dropWhile Text.isBlank) := by
    rw [← (blanks_shorten l.rest).2, h.rest, (blanks_shorten l'.rest).2]
  rw [takeBlanks, htake]
  exact h.cut_plain h.depth (.blanks (by rwa [h.mode]) hds (h.no_suffix hsuffix) hblank) hdrop

/-- A quoted text is cut off both texts, but for the markers in it. -/
theorem cut_quoted (h : l.Alike l') {q : Quote} {cs text rest : List Char}
    (hmode : l.mode = .predicate ∨ l.mode = .function ∧ 0 < l.depth) (hr : l.rest = q.toChar :: cs)
    (hsuffix : l.suffix? = none) (ht : takeQuoted q.toChar cs = some (text, rest)) :
    l'.ScansLike (l.emit (.quoted q) text rest) := by
  obtain ⟨ds, hds, hcs⟩ := h.cons hr (toChar_plain q).2.1
  obtain ⟨text', rest', ht', heq, hrest⟩ := takeQuoted_of_shorten_eq hcs ht
  have hscan : l'.Cuts (l'.emit (.quoted q) text' rest') :=
    .quoted (by rwa [h.mode, h.depth]) hds (h.no_suffix hsuffix) ht'
  have hkind : (Token.Kind.quoted q).short = (Token.Kind.quoted q).short := rfl
  exact ⟨_, _, scan_of_cuts hscan, congrArg (Token.mk _ · 0) heq, h.emit hkind hrest⟩

/-- A plain stretch of a call is cut off both texts. -/
theorem cut_stretch (h : l.Alike l') (hmode : l.mode = .function)
    (hends : endsPlain l.depth l.rest = false) :
    l'.ScansLike (l.emit .literal (takeUntil (endsPlain l.depth) l.rest).1
      (takeUntil (endsPlain l.depth) l.rest).2) := by
  obtain ⟨htext, hrest⟩ := takeUntil_of_shorten_eq (endsPlain_of_marker l.depth)
    (endsPlain_shorten l.depth) h.rest
  have hends' : endsPlain l'.depth l'.rest = false := by
    rw [h.depth, h.stop_eq (endsPlain_shorten l.depth), hends]
  have hscan := Lexer.Cuts.plain (h.mode.trans hmode) hends'
  rw [h.depth, ← htext] at hscan
  exact h.cut_plain h.depth hscan hrest

/-- A symbol of a condition is cut off both texts. -/
theorem cut_symbol (h : l.Alike l') {k : Token.Kind} {text rest : List Char}
    (hmode : l.mode = .predicate) (hword : endsWord l.rest = false)
    (hbrace : l.rest.head? ≠ some '\x7d') (hsuffix : l.suffix? = none)
    (ht : takeSymbol? l.rest = some (k, text, rest)) : l'.ScansLike (l.emit k text rest) := by
  have hmap := takeSymbol?_shorten l.rest
  rw [h.rest, takeSymbol?_shorten] at hmap
  obtain ⟨⟨k', text', vs⟩, ht', heq⟩ := exists_of_map_eq hmap.symm ht
  simp only [Prod.mk.injEq] at heq
  obtain ⟨rfl, rfl, hrest⟩ := heq
  exact h.cut_plain h.depth (.symbol (h.mode.trans hmode) ((h.stop_eq endsWord_shorten).trans hword)
    (h.head?_eq ▸ hbrace) (h.no_suffix hsuffix) ht') hrest

/-- A word of a condition is cut off both texts. -/
theorem cut_word (h : l.Alike l') {k : Token.Kind} {text rest : List Char}
    (hmode : l.mode = .predicate) (hword : endsWord l.rest = false)
    (hbrace : l.rest.head? ≠ some '\x7d') (hsuffix : l.suffix? = none)
    (ht : takeSymbol? l.rest = none)
    (hw : classifyWord (takeWord l.rest).1 (takeWord l.rest).2 = (k, text, rest)) :
    l'.ScansLike (l.emit k text rest) := by
  have ht' : takeSymbol? l'.rest = none := by
    rw [← Option.map_eq_none_iff, ← takeSymbol?_shorten, ← h.rest, takeSymbol?_shorten, ht]
    rfl
  obtain ⟨htext, hrest⟩ : (takeWord l.rest).1 = (takeWord l'.rest).1 ∧
      shorten (takeWord l.rest).2 = shorten (takeWord l'.rest).2 :=
    takeUntil_of_shorten_eq endsWord_of_marker endsWord_shorten h.rest
  have hw' := classifyWord_shorten (takeWord l.rest).1 (takeWord l.rest).2
  rw [hrest, classifyWord_shorten, hw, htext] at hw'
  simp only [Prod.mk.injEq] at hw'
  obtain ⟨hk, htext', hrest'⟩ := hw'
  exact h.cut_plain h.depth (.word (h.mode.trans hmode) ((h.stop_eq endsWord_shorten).trans hword)
    (h.head?_eq ▸ hbrace) (h.no_suffix hsuffix) ht' (Prod.ext hk (Prod.ext htext' rfl))) hrest'.symm

/-- A step cuts the same token off both texts, but for the markers in it. -/
theorem scan (h : l.Alike l') {r : Token × Lexer} (hs : l.scan = .ok r) : l'.ScansLike r := by
  cases cuts_of_scan hs with
  | eof hnil =>
    have hshort := h.rest
    exact h.cut_plain h.depth (.eof (nil_of_shorten_eq (hnil ▸ hshort))) rfl
  | suffix hsuffix =>
    obtain ⟨hsuffix', htake, hdrop⟩ := h.suffix hsuffix
    rw [← htake]
    exact h.cut_plain h.depth (.suffix hsuffix') hdrop
  | block hsuffix hmark hbody => exact h.cut_block hsuffix hmark hbody
  | text hmode hne hsuffix hmark => exact h.cut_text hmode hne hsuffix hmark
  | blanks hmode hrest hsuffix hblank => exact h.cut_blanks hmode hrest hsuffix hblank
  | quoted hmode hrest hsuffix ht => exact h.cut_quoted hmode hrest hsuffix ht
  | openParen hmode hrest =>
    obtain ⟨ds, hds, hcs⟩ := h.cons hrest (by decide)
    exact h.cut_plain (by rw [h.depth]) (.openParen (h.mode.trans hmode) hds) hcs
  | closeParen hmode hrest =>
    obtain ⟨ds, hds, hcs⟩ := h.cons hrest (by decide)
    exact h.cut_plain (by rw [h.depth]) (.closeParen (h.mode.trans hmode) hds) hcs
  | comma hmode hrest =>
    obtain ⟨ds, hds, hcs⟩ := h.cons hrest (by decide)
    exact h.cut_plain h.depth (.comma (h.mode.trans hmode) hds) hcs
  | plain hmode hends => exact h.cut_stretch hmode hends
  | brace hmode hsuffix hrest =>
    obtain ⟨ds, hds, hcs⟩ := h.cons hrest (by decide)
    exact h.cut_plain h.depth (.brace (h.mode.trans hmode) (h.no_suffix hsuffix) hds) hcs
  | symbol hmode hword hbrace hsuffix ht => exact h.cut_symbol hmode hword hbrace hsuffix ht
  | word hmode hword hbrace hsuffix ht hw => exact h.cut_word hmode hword hbrace hsuffix ht hw

/-- The tokens of the texts are the same, but for the markers in them. -/
theorem lexed {l l' : Lexer} (h : l.Alike l') : l.lexed.Same Token.short l'.lexed := by
  rcases hs : l.scan with f | ⟨t, m⟩
  · rcases hs' : l'.scan with f' | ⟨t', m'⟩
    · rw [lexed_of_error h.peeked hs, lexed_of_error h.peeked' hs']
      exact .fault f f'
    · obtain ⟨t, m, hok, -⟩ := h.symm.scan hs'
      rw [hs] at hok
      cases hok
  · obtain ⟨t', m', hs', ht, hm⟩ := h.scan hs
    have heof : t.kind = .eof ↔ t'.kind = .eof := keepsKinds_short.sameKind ht _ rfl
    rw [lexed_eq h.peeked, hs, lexed_eq h.peeked', hs']
    dsimp only
    by_cases hend : t.kind = .eof
    · rw [if_pos hend, if_pos (heof.1 hend)]
      exact .eof _ _
    · rw [if_neg hend, if_neg (mt heof.2 hend)]
      exact .token ht hm.lexed
  termination_by l.rest.length
  decreasing_by exact (scan_takes hs).length_lt hend

end Lexer.Alike

/-- Texts that differ in how markers are written have the same tokens, but for the markers in them. -/
theorem Lexed.of_same (mode : Mode) (offset offset' : Nat) {cs ds : List Char}
    (h : shorten cs = shorten ds) :
    (Lexed.of mode offset cs).Same Token.short (Lexed.of mode offset' ds) := by
  have halike : (Lexer.start mode offset cs).Alike (Lexer.start mode offset' ds) :=
    ⟨rfl, rfl, rfl, rfl, rfl, h⟩
  exact halike.lexed

end RouteExpr
