/-
The pieces that a text is read of.

Whatever is read as an expression is a chain of pieces that stay apart: each text of a template goes on
up to a marker, and each block is read by itself as it is in its text. So texts are read as expressions
exactly where they are such chains, and a text can be cut in front of any of its blocks.
-/
import RouteExpr.Proofs.Expr.Call
import RouteExpr.Proofs.Predicate.Shape
import RouteExpr.Proofs.Token.Block
import RouteExpr.Proofs.Token.Suffix
import RouteExpr.Proofs.Token.Tiling

namespace RouteExpr

open Lexer Predicate Token

namespace Lexer

variable {l l' m : Lexer} {t : Token}

/-! ## Tokens of templates -/

/-- Text of a template is the characters up to a marker, of which there is one at least. -/
theorem scan_literal_plain (hm : l.mode = .template) (h : l.scan = .ok (t, l')) (ht : t.kind = .literal) :
    t.text ≠ [] ∧ hasMarker t.text = false ∧ startsMarker l.rest = false := by
  have hraw : t.raw = t.text := raw_of_isPlain (by rw [isPlain, ht])
  have htakes := scan_takes h
  have hne : l.rest ≠ [] := fun hnil => by rw [htakes.eof.2 hnil] at ht; cases ht
  have hplain := scan_separate (by simp [hm]) h (by rw [isPlain, ht])
  rw [hraw] at hplain
  have htext : t.text ≠ [] := hraw ▸ htakes.raw_ne_nil hne
  refine ⟨htext, hasMarker_eq_false_iff.2 fun u v huv => ?_, ?_⟩
  · rcases eq_or_ne v [] with rfl | hv
    · rfl
    · have hstart := hplain u v huv hv
      rw [← Bool.not_eq_true] at hstart ⊢
      exact fun hmarker => hstart (startsMarker_append l'.rest hmarker)
  · rw [htakes.rest, hraw]
    exact hplain [] t.text rfl htext

end Lexer

namespace Expr

variable {l l' m : Lexer} {t : Token} {es : List Expr}

theorem suffixChars_some (s : Step) : suffixChars (some s) = [s.sign, s.sign] := by
  cases s <;> rfl

theorem stepped_ne_literal {e : Expr} (h : e.isPlaceholder = true) (suffix : Option Step) (s : String) :
    stepped suffix e ≠ literal s := by
  cases suffix with
  | none =>
    rintro rfl
    cases h
  | some step => exact nofun

/-- A block that is a token is read by itself as it is in its text. -/
theorem read_raw {k : Marker} {rest : List Char} {e : Expr} (hk : t.kind = .placeholder k)
    (hblock : takeBlock 0 (t.text ++ '\x7d' :: rest) = some (t.text, rest)) (h : readBlock t = .ok e) :
    read t.raw = .ok e := by
  obtain ⟨-, hclosed⟩ := takeBlock_eq_some_iff.1 hblock
  have hneutral := neutral_of_closes hclosed.closes hclosed.markers_eq.le
  have hraw : t.raw = k.chars ++ (t.text ++ ['\x7d']) := by
    rw [Token.raw, hk, List.append_assoc]
    rfl
  have hshift := readBlock_shift (k := t.start) ⟨.placeholder k, t.text, 0⟩ rfl
  have ht : Token.shift t.start ⟨.placeholder k, t.text, 0⟩ = t := by
    rw [Token.shift, Nat.zero_add, ← hk]
  rw [ht, h] at hshift
  obtain ⟨e', he', rfl⟩ := shifted_eq_ok hshift.symm
  rw [hraw, read_block k hneutral]
  exact he'

/-- Where a marker stands or nothing is left, text in front joins no other. -/
theorem prependText_of_start (hp : l.peeked = none) (hs : l.suffix? = none)
    (hstart : l.rest = [] ∨ startsMarker l.rest = true) (h : templateParts readBlock l.lexed = .ok es)
    (cs : List Char) : prependText cs es = literal (String.ofList cs) :: es := by
  rcases hl : l.lexed with offset | f | ⟨t, rest⟩ <;> rw [hl] at h
  · cases h
    rfl
  · cases h
  · obtain ⟨l', hscan, -, ht⟩ := scan_of_lexed_token hp hl
    have hmarker := hstart.resolve_left fun hnil => ht ((scan_takes hscan).eof.2 hnil)
    obtain ⟨k, hk⟩ := isPlaceholder_iff.1 (scan_of_startsMarker hs hmarker hscan)
    rw [templateParts_placeholder hk] at h
    obtain ⟨node, hnode, h⟩ := bind_eq_ok h
    obtain ⟨more, -, h⟩ := bind_eq_ok h
    cases h
    unfold prependText
    split
    · rename_i s _ heq
      exact absurd (List.cons.inj heq).1 (stepped_ne_literal (readBlockTo_isPlaceholder hnode) _ s)
    · rfl

/-! ## Pieces of what is read -/

/-- Whether pieces start with a text. -/
def StartsText : List Piece → Prop
  | .text .. :: _ => True
  | _ => False

theorem isChain_text_cons {cs : List Char} {hne : cs ≠ []} {hp : hasMarker cs = false} {pieces : List Piece} :
    (Piece.text cs hne hp :: pieces).IsChain Piece.Apart ↔
      ¬ StartsText pieces ∧ pieces.IsChain Piece.Apart := by
  rw [List.isChain_cons]
  refine and_congr_left' ?_
  rcases pieces with _ | ⟨p, pieces⟩
  · simp [StartsText]
  · cases p <;> simp [StartsText, Piece.Apart]

/-- Pieces that the start of what a template has left is cut into, `cs` being that start. -/
structure CutInto (l : Lexer) (cs : List Char) (pieces : List Piece) : Prop where
  source : cs = pieces.flatMap Piece.source
  chain : pieces.IsChain Piece.Apart
  follows : Follows l.afterPlaceholder pieces
  text : StartsText pieces → l.rest ≠ [] ∧ startsMarker l.rest = false

theorem cutInto_nil (l : Lexer) : CutInto l [] [] :=
  ⟨rfl, .nil, trivial, nofun⟩

/-- Where no suffix stands behind a placeholder, no text starts with one. -/
theorem not_prefix_of_suffix?_eq_none {cs : List Char} (hm : l.mode ≠ .function)
    (hafter : l.afterPlaceholder = true) (hs : l.suffix? = none) (hcs : cs <+: l.rest) :
    ¬ ['+', '+'] <+: cs ∧ ¬ ['-', '-'] <+: cs := by
  have hno (s : Step) : ¬ [s.sign, s.sign] <+: cs := by
    intro hsigns
    have hsome := suffix?_eq_some_iff.2
      ⟨hm, hafter, (List.prefix_iff_eq_take.1 (hsigns.trans hcs)).symm⟩
    rw [hs] at hsome
    cases hsome
  exact ⟨hno .increment, hno .decrement⟩

/-- A text in front of pieces. -/
theorem CutInto.cons_text {cs : List Char} {pieces : List Piece} (h : CutInto l' cs pieces)
    (hm : l.mode = .template) (hs : l.suffix? = none) (hscan : l.scan = .ok (t, l'))
    (ht : t.kind = .literal) :
    ∃ hne hp, CutInto l (t.raw ++ cs) (.text t.text hne hp :: pieces) := by
  obtain ⟨hne, hp, hmarker⟩ := scan_literal_plain hm hscan ht
  have hraw : t.raw = t.text := raw_of_isPlain (by rw [isPlain, ht])
  have htakes := scan_takes hscan
  refine ⟨hne, hp, ?_, ?_, fun hafter => ?_, fun _ => ⟨fun hnil => ?_, hmarker⟩⟩
  · rw [h.source, hraw]
    rfl
  · -- the text goes on up to a marker, so no text follows it
    refine isChain_text_cons.2 ⟨fun htext => ?_, h.chain⟩
    obtain ⟨hrest, hno⟩ := h.text htext
    rw [(scan_literal hm hscan ht).resolve_left hrest] at hno
    cases hno
  · refine not_prefix_of_suffix?_eq_none (by simp [hm]) hafter hs ?_
    rw [htakes.rest, hraw]
    exact List.prefix_append _ _
  · rw [htakes.eof.2 hnil] at ht
    cases ht

/-- A block in front of pieces. -/
theorem CutInto.cons_block {cs ds : List Char} {e : Expr} {pieces : List Piece} (h : CutInto l' ds pieces)
    (l : Lexer) (suffix : Option Step) (hafter : suffix = none → l'.afterPlaceholder = true)
    (reads : read cs = .ok e) (hb : e.isPlaceholder = true) :
    CutInto l (cs ++ (suffixChars suffix ++ ds)) (.block cs e suffix reads hb :: pieces) := by
  refine ⟨?_, ?_, trivial, nofun⟩
  · rw [h.source, ← List.append_assoc]
    rfl
  · refine List.isChain_cons.2 ⟨fun p hp => ?_, h.chain⟩
    obtain ⟨more, rfl⟩ := List.head?_eq_some_iff.1 hp
    cases p with
    | block => cases suffix <;> trivial
    | text =>
      cases suffix with
      | none => exact h.follows (hafter rfl)
      | some s => trivial

/-- What is read up to some token, no suffix, is read of the pieces that the tokens before it are cut
from. -/
theorem exists_pieces {front : List Token} {l m : Lexer} {es : List Expr} (hm : l.mode = .template)
    (hp : l.peeked = none) (hs : l.suffix? = none) (hall : l.TakesAll front m) (hend : m.suffix? = none)
    (h : templateParts readBlock l.lexed = .ok es) :
    ∃ pieces es', CutInto l (raws front) pieces ∧ es = pieces.map Piece.tree ++ es' ∧
      templateParts readBlock m.lexed = .ok es' := by
  match front, hall with
  | [], .nil _ => exact ⟨[], es, cutInto_nil l, rfl, h⟩
  | t :: front, .cons (m := l') hnext ht hall =>
    rw [next_eq_scan hp] at hnext
    have htakes := scan_takes hnext
    have hm' := htakes.mode.trans hm
    have hp' := htakes.peeked.trans hp
    have hne : l.rest ≠ [] := fun hnil => ht (htakes.eof.2 hnil)
    rw [lexed_of_scan hp hnext ht] at h
    rcases scan_template hm hne hnext with ⟨s, hk⟩ | hk | ⟨k, hk, hblock⟩
    · rw [(scan_suffix_iff hnext).1 hk] at hs
      cases hs
    · rw [templateParts_text (by rw [hk]; rfl)] at h
      obtain ⟨rest, hrest, rfl⟩ := map_eq_ok h
      have hs' : l'.suffix? = none := suffix?_of_not_after (htakes.after.trans (by rw [hk]; rfl))
      obtain ⟨pieces, es', hcut, rfl, hes'⟩ := exists_pieces hm' hp' hs' hall hend hrest
      obtain ⟨hne, hplain, hcut'⟩ := hcut.cons_text hm hs hnext hk
      refine ⟨_, es', hcut', ?_, hes'⟩
      rw [prependText_of_start hp' hs' (scan_literal hm hnext hk) hrest,
        raw_of_isPlain (by rw [isPlain, hk])]
      rfl
    · rw [templateParts_placeholder hk] at h
      obtain ⟨node, hnode, h⟩ := bind_eq_ok h
      obtain ⟨rest, hrest, h⟩ := bind_eq_ok h
      cases h
      have hreads := read_raw hk hblock hnode
      have hb := readBlockTo_isPlaceholder hnode
      have hafter : l'.afterPlaceholder = true := htakes.after.trans (by rw [hk]; rfl)
      rcases hs' : l'.suffix? with _ | s
      · rw [takeSuffix_lexed_of_none hp' hs'] at hrest ⊢
        obtain ⟨pieces, es', hcut, rfl, hes'⟩ := exists_pieces hm' hp' hs' hall hend hrest
        exact ⟨_, es', hcut.cons_block l none (fun _ => hafter) hreads hb, rfl, hes'⟩
      · rw [takeSuffix_lexed_of_some hp' hs'] at hrest ⊢
        -- the suffix is the next of the tokens in front
        cases hall with
        | nil =>
          rw [hend] at hs'
          cases hs'
        | @cons _ n _ u front hnext' _ hall =>
          rw [next_eq_scan hp', scan_of_cuts (.suffix hs')] at hnext'
          cases hnext'
          obtain ⟨pieces, es', hcut, rfl, hes'⟩ := exists_pieces
            (l := (l'.emit (.suffix s) _ _).2) hm' hp' (suffix?_of_not_after rfl) hall hend hrest
          have hcut' := hcut.cons_block l (some s) (by simp) hreads hb
          rw [suffixChars_some, ← (suffix?_eq_some_iff.1 hs').2.2] at hcut'
          refine ⟨.block _ _ (some s) hreads hb :: pieces, es', ?_, rfl, hes'⟩
          have hraw : Token.raw ⟨.suffix s, l'.rest.take 2, l'.position⟩ = l'.rest.take 2 := raw_of_isPlain rfl
          rw [raws_cons, raws_cons, hraw]
          exact hcut'
termination_by front.length

/-- All that is read of a template is read of the pieces that it is cut into. -/
theorem exists_pieces_whole (hm : l.mode = .template) (hp : l.peeked = none) (hs : l.suffix? = none)
    (h : templateParts readBlock l.lexed = .ok es) :
    ∃ pieces, CutInto l l.rest pieces ∧ es = pieces.map Piece.tree := by
  obtain ⟨ts, m, hall, -, hlast⟩ := exists_takesAll hp
  obtain ⟨hrest, -⟩ := hall.rest_eq hp
  have hl : Within .template l.position l.rest l := ⟨hm, hp, Nat.le_refl _, by simp⟩
  have hp' := (hall.within hl).peeked
  rw [next_eq_scan hp'] at hlast
  have hend : m.suffix? = none := by
    rcases hsome : m.suffix? with _ | s
    · rfl
    · rw [scan_of_cuts (.suffix hsome)] at hlast
      rcases hlast with ⟨f, hf⟩ | ⟨e, n, he, hk⟩
      · cases hf
      · cases he
        cases hk
  obtain ⟨pieces, es', hcut, rfl, hes'⟩ := exists_pieces hm hp hs hall hend h
  rcases hlast with ⟨f, hf⟩ | ⟨e, n, he, hk⟩
  · rw [lexed_of_error hp' hf] at hes'
    cases hes'
  · have hnil := (scan_takes he).eof.1 hk
    rw [lexed_of_nil hp' hnil] at hes'
    cases hes'
    rw [hnil, List.append_nil] at hrest
    exact ⟨pieces, hrest ▸ hcut, List.append_nil _⟩

/-- The parts that are joined in an expression. -/
def parts : Expr → List Expr
  | literal s => if s = "" then [] else [literal s]
  | concat ps => ps
  | e => [e]

theorem parts_tree (p : Piece) : p.tree.parts = [p.tree] := by
  cases p with
  | text cs hne hp =>
    have : String.ofList cs ≠ "" := fun h => hne (String.ofList_eq_empty_iff.1 h)
    exact if_neg this
  | block cs e suffix reads hb =>
    cases suffix with
    | some s => rfl
    | none =>
      cases e with
      | property | call => rfl
      | _ => cases hb

theorem parts_join_pieces (pieces : List Piece) :
    (join (pieces.map Piece.tree)).parts = pieces.map Piece.tree := by
  rcases pieces with _ | ⟨p, _ | ⟨q, pieces⟩⟩
  · rfl
  · exact parts_tree p
  · rfl

/-- Pieces that stay apart are read as their own expressions, joined. -/
theorem readRegion_pieces (offset : Nat) {pieces : List Piece} (h : pieces.IsChain Piece.Apart) :
    readRegion offset (pieces.flatMap Piece.source) = .ok (join (pieces.map Piece.tree)) := by
  unfold readRegion template
  rw [Lexed.of_eq_lexed, templateParts_pieces pieces _ rfl rfl rfl h (Follows.of_not pieces)]
  rfl

end Expr

end RouteExpr
