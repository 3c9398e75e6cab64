/-
Templates are compositional: texts and blocks put one behind the other are read as their own
expressions one behind the other, and have their own texts, one behind the other, as their value.

A block ends at the same brace whatever follows it, and text ends where the next block starts. So
the tokens of the whole are the tokens of the pieces, provided that no piece runs into the next: two
texts would be one, and a text that starts with a suffix would step the block before it.
-/
import RouteExpr.Evaluation
import RouteExpr.Proofs.Expr.Shift

namespace RouteExpr

open Lexer Predicate

/-! ## Tokens of templates -/

namespace Lexer

variable {l : Lexer}

/-- Only two signs of one kind are a suffix. -/
theorem suffix?_of_not_prefix (h1 : ¬ ['+', '+'] <+: l.rest) (h2 : ¬ ['-', '-'] <+: l.rest) :
    l.suffix? = none := by
  cases hs : l.suffix? with
  | none => rfl
  | some s =>
    rcases (suffix?_eq_some hs).2.2 with h | h
    · exact absurd (List.prefix_iff_eq_take.2 h.symm) h1
    · exact absurd (List.prefix_iff_eq_take.2 h.symm) h2

/-- A block is taken as a placeholder in every mode. -/
theorem scan_block {m : Marker} {body after : List Char} (hs : l.suffix? = none)
    (hr : l.rest = m.chars ++ (body ++ '\x7d' :: after))
    (hb : takeBlock 0 (body ++ '\x7d' :: after) = some (body, after)) :
    l.scan = .ok (l.emit (.placeholder m) body after) := by
  refine scan_of_cuts (.block hs ?_ ?_) <;> rw [hr]
  · exact markerAt?_chars m _
  · rwa [List.drop_left]

/-- Text up to a marker or the end is taken whole. -/
theorem scan_text {cs after : List Char} (hm : l.mode = .template) (hs : l.suffix? = none)
    (hne : cs ≠ []) (hp : hasMarker cs = false) (hr : l.rest = cs ++ after)
    (ha : after = [] ∨ startsMarker after = true) :
    l.scan = .ok (l.emit .literal cs after) := by
  obtain ⟨c, cs, rfl⟩ := List.exists_cons_of_ne_nil hne
  have ht := takeUntil_startsMarker hp ha
  have hstart : startsMarker (c :: (cs ++ after)) = false := by
    have hc := hasMarker_eq_false_iff.1 hp [] _ rfl
    rcases ha with rfl | ha
    · rwa [List.append_nil]
    · obtain ⟨r, rfl⟩ := startsMarker_eq_cons ha
      rwa [← List.cons_append, startsMarker_append_dollar (by simp)]
  rw [← List.cons_append, ← hr] at hstart
  rw [← hr] at ht
  have hcut := scan_of_cuts (.text hm (by rw [hr]; simp) hs (markerAt?_eq_none hstart))
  rwa [ht] at hcut

/-- Where no suffix stands, none is taken. -/
theorem takeSuffix_lexed_of_none (hp : l.peeked = none) (h : l.suffix? = none) :
    l.lexed.takeSuffix = (none, l.lexed) := by
  rcases hl : l.lexed with offset | f | ⟨t, rest⟩
  · rfl
  · rfl
  · obtain ⟨l', hs, -, -⟩ := scan_of_lexed_token hp hl
    refine Lexed.takeSuffix_token fun s hk => ?_
    rw [(scan_suffix_iff hs).1 hk] at h
    cases h

theorem takeSuffix_lexed_of_some {s : Step} (hp : l.peeked = none) (h : l.suffix? = some s) :
    l.lexed.takeSuffix = (some s, (l.emit (.suffix s) (l.rest.take 2) (l.rest.drop 2)).2.lexed) := by
  rw [lexed_of_emit hp (scan_of_cuts (.suffix h)) (by simp)]
  rfl

end Lexer

namespace Expr

/-! ## Placeholders as whole texts -/

/-- The characters of a suffix. -/
def suffixChars : Option Step → List Char
  | none => []
  | some .increment => ['+', '+']
  | some .decrement => ['-', '-']

/-- Parts that are joined to a placeholder are that placeholder alone. -/
theorem eq_singleton_of_join {parts : List Expr} {e : Expr} (h : join parts = e)
    (he : e.isPlaceholder = true) : parts = [e] := by
  subst h
  match parts, he with
  | [], he => cases he
  | [p], _ => rfl
  | _ :: _ :: _, he => cases he

theorem templateParts_eq_nil {block : ReadBlock} {l : Lexed} (h : templateParts block l = .ok []) :
    ∃ offset, l = .eof offset := by
  cases l with
  | eof offset => exact ⟨offset, rfl⟩
  | fault f => cases h
  | token t rest =>
    exfalso
    rcases ht : t.kind.isPlaceholder with _ | _
    · rw [templateParts_text ht] at h
      obtain ⟨ps, -, hpre⟩ := map_eq_ok h
      unfold prependText at hpre
      split at hpre <;> cases hpre
    · obtain ⟨m, hm⟩ := isPlaceholder_iff.1 ht
      rw [templateParts_placeholder hm] at h
      obtain ⟨node, -, h⟩ := bind_eq_ok h
      obtain ⟨ps, -, h⟩ := bind_eq_ok h
      cases h

/-- Tokens that are read as one placeholder are one placeholder. -/
theorem templateParts_eq_singleton {block : ReadBlock} {l : Lexed} {e : Expr}
    (h : templateParts block l = .ok [e]) (he : e.isPlaceholder = true) :
    ∃ t m offset, l = .token t (.eof offset) ∧ t.kind = .placeholder m ∧ block t = .ok e := by
  cases l with
  | eof offset => cases h
  | fault f => cases h
  | token t rest =>
    rcases ht : t.kind.isPlaceholder with _ | _
    · rw [templateParts_text ht] at h
      obtain ⟨ps, -, hpre⟩ := map_eq_ok h
      unfold prependText at hpre
      split at hpre <;> (cases hpre; cases he)
    · obtain ⟨m, hm⟩ := isPlaceholder_iff.1 ht
      rw [templateParts_placeholder hm] at h
      obtain ⟨node, hb, h⟩ := bind_eq_ok h
      obtain ⟨ps, hp, h⟩ := bind_eq_ok h
      obtain ⟨hnode, rfl⟩ := List.cons.inj (Except.ok.inj h)
      obtain ⟨offset, hoff⟩ := templateParts_eq_nil hp
      -- a suffix would make the whole a step
      rcases rest with o | f | ⟨⟨kind, text, start⟩, rest⟩
      · exact ⟨t, m, o, rfl, hm, hb.trans (congrArg Except.ok hnode)⟩
      · cases hoff
      · cases kind with
        | suffix s => rw [← hnode] at he; cases he
        | _ => cases hoff

/-- A text that is read as a placeholder is a marker, what it opens, and the brace that closes
it. -/
theorem eq_block_of_read {cs : List Char} {e : Expr} (h : read cs = .ok e)
    (he : e.isPlaceholder = true) :
    ∃ (m : Marker) (body : List Char), cs = m.chars ++ (body ++ ['\x7d']) ∧
      takeBlock 0 (body ++ ['\x7d']) = some (body, []) ∧
      readBlock ⟨.placeholder m, body, 0⟩ = .ok e := by
  -- the tokens are one placeholder, and all that is left behind it is the end
  unfold read readRegion template at h
  rw [Lexed.of_eq_lexed] at h
  obtain ⟨parts, hp, h⟩ := map_eq_ok h
  rw [eq_singleton_of_join h he] at hp
  obtain ⟨t, m, offset, hl, hm, hread⟩ := templateParts_eq_singleton hp he
  obtain ⟨l', hs, hl', hk⟩ := scan_of_lexed_token rfl hl
  have ht := scan_takes hs
  have hrest := rest_of_lexed_eof ht.peeked hl'
  have hblock := takeBlock_of_scan hs hm
  have hraw : cs = t.raw ++ l'.rest := ht.rest
  rw [hrest] at hblock hraw
  have htok : t = ⟨.placeholder m, t.text, 0⟩ := by
    have hstart : t.start = 0 := ht.start
    rw [← hm, ← hstart]
  refine ⟨m, t.text, ?_, hblock, htok ▸ hread⟩
  rw [hraw, Token.raw, hm]
  simp [Token.Kind.opening, Token.Kind.closing]

/-! ## Pieces -/

/-- A piece of a template: text without a marker, or a block with or without a suffix. A block is a
text that is read as a placeholder. -/
inductive Piece where
  | text (cs : List Char) (nonempty : cs ≠ []) (plain : hasMarker cs = false)
  | block (cs : List Char) (tree : Expr) (suffix : Option Step) (reads : read cs = .ok tree)
    (isBlock : tree.isPlaceholder = true)

namespace Piece

/-- The characters of a piece. -/
def source : Piece → List Char
  | text cs _ _ => cs
  | block cs _ suffix _ _ => cs ++ suffixChars suffix

/-- The expression of a piece alone. -/
def tree : Piece → Expr
  | text cs _ _ => literal (String.ofList cs)
  | block _ e suffix _ _ => stepped suffix e

/-- The text that a piece alone has in a context: its own characters, or those of the value of the
block, stepped where a suffix is written. -/
def shown (ctx : Context) : Piece → Outcome String
  | text cs _ _ => .ok (String.ofList cs)
  | block _ e none _ _ => (e.evaluate ctx).map Value.text
  | block _ e (some s) _ _ => (e.evaluate ctx >>= s.apply).map Value.text

/-- Pieces that stay apart when one follows the other: no text follows a text, and none that starts
with a suffix follows a block without one. -/
def Apart : Piece → Piece → Prop
  | text .., text .. => False
  | block _ _ none _ _, text cs _ _ => ¬ ['+', '+'] <+: cs ∧ ¬ ['-', '-'] <+: cs
  | _, _ => True

end Piece

/-! ## Reading pieces -/

/-- What the pieces that are left leave to be read: after a block without a suffix they do not start
with one. -/
def Follows (after : Bool) : List Piece → Prop
  | .text cs _ _ :: _ => after = true → ¬ ['+', '+'] <+: cs ∧ ¬ ['-', '-'] <+: cs
  | _ => True

theorem source_block_eq {cs : List Char} {e : Expr} (suffix : Option Step)
    (reads : read cs = .ok e) (hb : e.isPlaceholder = true) :
    ∃ (m : Marker) (body : List Char),
      (Piece.block cs e suffix reads hb).source = m.chars ++ (body ++ '\x7d' :: suffixChars suffix) ∧
      takeBlock 0 (body ++ ['\x7d']) = some (body, []) ∧
      readBlock ⟨.placeholder m, body, 0⟩ = .ok e := by
  obtain ⟨m, body, hcs, hblock, hread⟩ := eq_block_of_read reads hb
  refine ⟨m, body, ?_, hblock, hread⟩
  simp [Piece.source, hcs]

/-- Where pieces start that are not a text, there is a marker or nothing. -/
theorem source_starts {p : Piece} {pieces : List Piece} (h : (p :: pieces).IsChain Piece.Apart)
    {cs : List Char} {hne : cs ≠ []} {hp : hasMarker cs = false} (ht : p = .text cs hne hp) :
    pieces.flatMap Piece.source = [] ∨ startsMarker (pieces.flatMap Piece.source) = true := by
  subst ht
  match pieces, h with
  | [], _ => exact .inl rfl
  | .text .. :: _, h => exact (List.isChain_cons_cons.1 h).1.elim
  | .block cs e suffix reads hb :: pieces, _ =>
    obtain ⟨m, body, hs, -, -⟩ := source_block_eq suffix reads hb
    refine .inr (startsMarker_iff.2 ⟨m, ?_⟩)
    rw [List.flatMap_cons, hs, List.append_assoc]
    exact List.prefix_append _ _

/-- No suffix stands where pieces go on after a block without one. -/
theorem suffix?_of_follows {l : Lexer} {p : Piece} {pieces : List Piece}
    (hr : l.rest = (p :: pieces).flatMap Piece.source)
    (hc : (p :: pieces).IsChain Piece.Apart)
    (hf : Follows l.afterPlaceholder (p :: pieces)) : l.suffix? = none := by
  cases ha : l.afterPlaceholder with
  | false => exact suffix?_of_not_after ha
  | true =>
    have none_of_dollar {rest : List Char} (h : l.rest = '$' :: rest) : l.suffix? = none := by
      refine suffix?_of_not_prefix ?_ ?_ <;>
      · rw [h]; intro hp; exact absurd (List.cons_prefix_cons.1 hp).1 (by decide)
    cases p with
    | block cs e suffix reads hb =>
      obtain ⟨m, body, hs, -, -⟩ := source_block_eq suffix reads hb
      obtain ⟨rest, hm⟩ := m.chars_eq_cons
      exact none_of_dollar (by rw [hr, List.flatMap_cons, hs, hm]; rfl)
    | text cs hne hp =>
      rw [ha] at hf
      obtain ⟨h1, h2⟩ := hf rfl
      -- a text of one sign is followed by a marker, if by anything
      have apart {c : Char} (hcd : c ≠ '$') (h : ¬ [c, c] <+: cs) : ¬ [c, c] <+: l.rest := by
        have hsrc : l.rest = cs ++ pieces.flatMap Piece.source := hr
        rw [hsrc]
        match cs, hne with
        | [d], _ =>
          rcases source_starts hc rfl with hn | hm
          · rwa [hn, List.append_nil]
          · obtain ⟨r, hm⟩ := startsMarker_eq_cons hm
            rw [hm]
            simp [hcd]
        | d :: d' :: ds, _ => simpa using h
      exact suffix?_of_not_prefix (apart (by decide) h1) (apart (by decide) h2)

theorem prependText_tree {cs : List Char} {hne : cs ≠ []} {hp : hasMarker cs = false}
    {pieces : List Piece} (h : (Piece.text cs hne hp :: pieces).IsChain Piece.Apart) :
    prependText cs (pieces.map Piece.tree) = literal (String.ofList cs) :: pieces.map Piece.tree := by
  match pieces, h with
  | [], _ => rfl
  | .text .. :: _, h => exact (List.isChain_cons_cons.1 h).1.elim
  | .block cs' e suffix reads hb :: pieces, _ =>
    have : ∀ s, (Piece.block cs' e suffix reads hb).tree ≠ literal s := by
      intro s hs
      cases suffix with
      | none => simp only [Piece.tree, stepped] at hs; rw [hs] at hb; cases hb
      | some s => cases hs
    rw [List.map_cons]
    unfold prependText
    split
    · rename_i s' _ heq
      exact absurd (List.cons.inj heq).1 (this s')
    · rfl

theorem Follows.of_not (pieces : List Piece) : Follows false pieces := by
  match pieces with
  | [] => trivial
  | .block .. :: _ => trivial
  | .text .. :: _ => exact fun h => by cases h

/-- What follows a block is its suffix and then the other pieces. -/
theorem takeSuffix_pieces {l : Lexer} {cs : List Char} {e : Expr} {suffix : Option Step}
    {reads : read cs = .ok e} {hb : e.isPlaceholder = true} {pieces : List Piece}
    (hm : l.mode = .template) (hp : l.peeked = none) (ha : l.afterPlaceholder = true)
    (hr : l.rest = suffixChars suffix ++ pieces.flatMap Piece.source)
    (hc : (Piece.block cs e suffix reads hb :: pieces).IsChain Piece.Apart) :
    ∃ l' : Lexer, l.lexed.takeSuffix = (suffix, l'.lexed) ∧ l'.mode = .template ∧
      l'.peeked = none ∧ l'.rest = pieces.flatMap Piece.source ∧
      Follows l'.afterPlaceholder pieces := by
  cases suffix with
  | none =>
    have hf : Follows l.afterPlaceholder pieces := by
      match pieces, hc with
      | [], _ => trivial
      | .block .. :: _, _ => trivial
      | .text .. :: _, hc => exact fun _ => (List.isChain_cons_cons.1 hc).1
    have hnone : l.suffix? = none := by
      match pieces with
      | [] => exact suffix?_of_not_prefix (by rw [hr]; simp [suffixChars]) (by rw [hr]; simp [suffixChars])
      | p :: pieces => exact suffix?_of_follows hr hc.of_cons hf
    exact ⟨l, takeSuffix_lexed_of_none hp hnone, hm, hp, hr, hf⟩
  | some s =>
    have hsome : l.suffix? = some s := by
      unfold suffix?
      rw [ha, hm, hr]
      cases s <;> rfl
    refine ⟨_, takeSuffix_lexed_of_some hp hsome, hm, hp, ?_, Follows.of_not pieces⟩
    rw [emit_rest, hr]
    cases s <;> rfl

/-- The invariant of reading pieces: a lexer in front of them reads each as its own expression. -/
theorem templateParts_pieces : ∀ (pieces : List Piece) (l : Lexer), l.mode = .template →
    l.peeked = none → l.rest = pieces.flatMap Piece.source → pieces.IsChain Piece.Apart →
    Follows l.afterPlaceholder pieces →
    templateParts readBlock l.lexed = .ok (pieces.map Piece.tree)
  | [], l, _, hp, hr, _, _ => by rw [lexed_of_nil hp hr]; rfl
  | .text cs hne hplain :: pieces, l, hm, hp, hr, hc, hf => by
    have hscan : l.scan = .ok (l.emit .literal cs (pieces.flatMap Piece.source)) :=
      scan_text hm (suffix?_of_follows hr hc hf) hne hplain hr (source_starts hc rfl)
    have hraw : Token.raw ⟨.literal, cs, l.position⟩ = cs := by
      simp [Token.raw, Token.Kind.opening, Token.Kind.closing]
    have ih := templateParts_pieces pieces (l.emit .literal cs (pieces.flatMap Piece.source)).2
      hm hp rfl hc.of_cons (Follows.of_not pieces)
    rw [lexed_of_emit hp hscan (by simp), templateParts_text rfl, ih, hraw]
    exact congrArg Except.ok (prependText_tree hc)
  | .block cs e suffix reads hb :: pieces, l, hm, hp, hr, hc, hf => by
    obtain ⟨m, body, hs, hblock, hread⟩ := source_block_eq suffix reads hb
    have hr' : l.rest = m.chars ++ (body ++ '\x7d' :: (suffixChars suffix ++
        pieces.flatMap Piece.source)) := by
      rw [hr, List.flatMap_cons, hs]; simp
    have hblock' := takeBlock_append (suffixChars suffix ++ pieces.flatMap Piece.source) hblock
    rw [List.append_assoc, List.singleton_append, List.nil_append] at hblock'
    have hscan := scan_block (suffix?_of_follows hr hc hf) hr' hblock'
    -- the block stands further on than it does alone
    have hnode : readBlock ⟨.placeholder m, body, l.position⟩ = .ok e := by
      have := readBlock_shift (k := l.position) ⟨.placeholder m, body, 0⟩ rfl
      rw [hread, Token.shift, Nat.zero_add] at this
      exact this
    obtain ⟨l', htake, hm', hp', hr'', hf'⟩ := takeSuffix_pieces
      (l := (l.emit (.placeholder m) body (suffixChars suffix ++ pieces.flatMap Piece.source)).2)
      hm hp rfl rfl hc
    have ih := templateParts_pieces pieces l' hm' hp' hr'' hc.of_cons hf'
    rw [lexed_of_emit hp hscan (by simp), templateParts_placeholder rfl, hnode, htake, ih]
    rfl

/-! ## Evaluating pieces -/

theorem evaluateAll_eq_mapM (ctx : Context) (es : List Expr) :
    evaluateAll ctx es = es.mapM (evaluate ctx) := by
  induction es with
  | nil => rfl
  | cons e es ih => rw [evaluateAll, List.mapM_cons, ih]

/-- The text that an expression has in a context. -/
def textIn (ctx : Context) (e : Expr) : Outcome String :=
  (e.evaluate ctx).map Value.text

theorem mapM_textIn (ctx : Context) (es : List Expr) :
    es.mapM (textIn ctx) = (es.mapM (evaluate ctx)).map (List.map Value.text) := by
  induction es with
  | nil => rfl
  | cons e es ih =>
    rw [List.mapM_cons, List.mapM_cons, ih, textIn]
    rcases e.evaluate ctx with err | v
    · rfl
    · rcases es.mapM (evaluate ctx) with err | vs <;> rfl

/-- The text of joined parts is their texts, one behind the other; the first error is the
outcome. -/
theorem textIn_join (ctx : Context) (es : List Expr) :
    (join es).textIn ctx = (es.mapM (textIn ctx)).map String.join := by
  match es with
  | [] => rfl
  | [e] =>
    rw [List.mapM_cons, List.mapM_nil, join]
    rcases e.textIn ctx with err | s
    · rfl
    · exact congrArg Except.ok (by simp [String.join])
  | e :: e' :: es =>
    rw [mapM_textIn, join, textIn, evaluate, evaluateAll_eq_mapM]
    · rcases (e :: e' :: es).mapM (evaluate ctx) with err | vs <;> rfl
    · intro h; cases h
    · intro part h; cases h

theorem textIn_tree (ctx : Context) (p : Piece) : p.tree.textIn ctx = p.shown ctx := by
  match p with
  | .text cs _ _ => rfl
  | .block _ e none _ _ => rfl
  | .block _ e (some s) _ _ => rfl

theorem mapM_tree (ctx : Context) (pieces : List Piece) :
    (pieces.map Piece.tree).mapM (textIn ctx) = pieces.mapM (Piece.shown ctx) := by
  induction pieces with
  | nil => rfl
  | cons p pieces ih => rw [List.map_cons, List.mapM_cons, List.mapM_cons, textIn_tree, ih]

/-! ## Templates -/

/-- Pieces that stay apart are read as their own expressions, joined; in every context the text of
the whole is the texts of the pieces, one behind the other, and where a piece has an error the first
such error is the outcome. -/
theorem read_pieces (pieces : List Piece) (h : pieces.IsChain Piece.Apart) :
    read (pieces.flatMap Piece.source) = .ok (join (pieces.map Piece.tree)) ∧
      ∀ ctx : Context, ((join (pieces.map Piece.tree)).evaluate ctx).map Value.text =
        (pieces.mapM (Piece.shown ctx)).map String.join := by
  constructor
  · unfold read readRegion template
    rw [Lexed.of_eq_lexed, templateParts_pieces pieces _ rfl rfl rfl h (Follows.of_not pieces)]
    rfl
  · intro ctx
    exact (textIn_join ctx _).trans (by rw [mapM_tree])

/-- A text, a block with a suffix, and a block of the other marker. -/
theorem read_pieces_stepped :
    ∃ body id : Piece, [.text ['n', '='] (by decide) (by decide), body, id].IsChain Piece.Apart ∧
      read ['n', '=', '$', '\x7b', 'b', '\x7d', '+', '+', '$', 's', 'i', 'm', 'p', 'l', 'e', '\x7b',
          'i', '\x7d'] =
        .ok (concat [literal "n=", step .increment (property (literal "b")),
          property (literal "i")]) := by
  have hb : read ['$', '\x7b', 'b', '\x7d'] = .ok (property (literal "b")) := by cbv
  have hi : read ['$', 's', 'i', 'm', 'p', 'l', 'e', '\x7b', 'i', '\x7d'] =
      .ok (property (literal "i")) := by cbv
  have hc : List.IsChain Piece.Apart [.text ['n', '='] (by decide) (by decide),
      .block _ _ (some .increment) hb rfl, .block _ _ none hi rfl] :=
    .cons_cons trivial (.cons_cons trivial (.singleton _))
  exact ⟨_, _, hc, (read_pieces _ hc).1⟩

end Expr

end RouteExpr
