/-
Signs behind the blocks of a text.

A suffix is two signs of one kind right behind a placeholder, and stands nowhere else. So of a run of
signs behind a block the first two step the block, if there are two, and the others are plain text in
front of what follows. In a predicate such text is a word, which ends the value that the block is part of.
-/
import RouteExpr.Proofs.Expr.Pieces
import RouteExpr.Proofs.Predicate.Extend
import RouteExpr.Proofs.Predicate.Range

namespace RouteExpr

open Lexer Predicate Token

namespace Expr

variable {l m : Lexer} {t : Token}

/-! ## Signs in front of pieces -/

/-- Parts with signs in front, which are plain text. -/
def prependSigns (s : Step) (j : Nat) (es : List Expr) : List Expr :=
  if j = 0 then es else prependText (List.replicate j s.sign) es

/-- Where a piece starts that is no text, no sign stands. -/
theorem head_source_ne_sign (s : Step) {pieces : List Piece} (h : ¬ StartsText pieces) :
    (pieces.flatMap Piece.source).head? ≠ some s.sign := by
  match pieces with
  | [] => exact nofun
  | .text .. :: _ => exact absurd trivial h
  | .block cs e suffix reads hb :: pieces =>
    obtain ⟨m, body, hs, -, -⟩ := source_block_eq suffix reads hb
    obtain ⟨rest, hm⟩ := m.chars_eq_cons
    rw [List.flatMap_cons, hs, hm]
    cases s <;> exact nofun

/-- A run that starts a text is within the first part of it, if the second does not start with more of
the run. -/
theorem exists_append_of_replicate {c : Char} {j : Nat} {cs rest post : List Char}
    (h : cs ++ rest = List.replicate j c ++ post) (hrest : rest.head? ≠ some c) :
    ∃ ds, cs = List.replicate j c ++ ds ∧ post = ds ++ rest := by
  rcases List.append_eq_append_iff.1 h with ⟨run, hrun, rfl⟩ | hwithin
  · rcases run with _ | ⟨d, run⟩
    · exact ⟨[], by rw [hrun]; simp, rfl⟩
    · have hd : d ∈ List.replicate j c := hrun ▸ by simp
      rw [(List.mem_replicate.1 hd).2] at hrest
      exact absurd rfl hrest
  · exact hwithin

/-- Signs in front of what is cut into pieces are in the first of these, a text. -/
theorem exists_pieces_behind {s : Step} {j : Nat} {post : List Char} {pieces : List Piece}
    (hchain : pieces.IsChain Piece.Apart)
    (hsource : pieces.flatMap Piece.source = List.replicate j s.sign ++ post) :
    ∃ pieces' : List Piece, pieces'.IsChain Piece.Apart ∧ pieces'.flatMap Piece.source = post ∧
      pieces.map Piece.tree = prependSigns s j (pieces'.map Piece.tree) := by
  cases j with
  | zero => exact ⟨pieces, hchain, hsource, rfl⟩
  | succ j =>
    match pieces, hchain with
    | [], _ => cases hsource
    | .block cs e suffix reads hb :: pieces, _ =>
      have hno : ¬ StartsText (.block cs e suffix reads hb :: pieces) := not_false
      refine absurd ?_ (head_source_ne_sign s hno)
      rw [hsource]
      rfl
    | .text cs hne hp :: pieces, hchain =>
      obtain ⟨hno, hchain'⟩ := isChain_text_cons.1 hchain
      rw [List.flatMap_cons, Piece.source] at hsource
      -- the text ends where a block starts, so the run of signs is within it
      obtain ⟨ds, rfl, rfl⟩ := exists_append_of_replicate hsource (head_source_ne_sign s hno)
      have htree := prependText_tree hchain
      rcases eq_or_ne ds [] with rfl | hds
      · refine ⟨pieces, hchain', rfl, ?_⟩
        rw [List.append_nil] at htree
        rw [prependSigns, if_neg (Nat.succ_ne_zero j), htree, List.map_cons, Piece.tree, List.append_nil]
      · have hplain : hasMarker ds = false := hasMarker_of_isInfix hp (List.suffix_append _ _).isInfix
        have hds' : (Piece.text ds hds hplain :: pieces).IsChain Piece.Apart :=
          isChain_text_cons.2 ⟨hno, hchain'⟩
        refine ⟨_, hds', rfl, ?_⟩
        rw [prependSigns, if_neg (Nat.succ_ne_zero j), List.map_cons, List.map_cons, Piece.tree, Piece.tree,
          ← htree, prependText_append, prependText_tree hds']

/-! ## Signs behind blocks -/

variable {mode : Mode} {offset k : Nat} {region post : List Char} {s : Step}

/-- Behind a block the suffix is taken, and the signs that are left are in front of what follows. -/
theorem exists_takeSuffix_signs (h : SignsBehind offset region t s k post) (hscan : m.scan = .ok (t, l))
    (hl : Within mode offset region l) (hmode : mode ≠ .function) :
    ∃ n : Lexer, l.lexed.takeSuffix = (stepOf s k, n.lexed) ∧ n.mode = mode ∧ n.peeked = none ∧
      n.suffix? = none ∧ n.rest = List.replicate (signsLeft k) s.sign ++ post := by
  obtain ⟨hr, hs⟩ := h.suffix? hscan hl hmode
  unfold stepOf at hs ⊢
  unfold signsLeft
  split at hs
  · rename_i hk
    rw [if_pos hk, if_pos hk]
    refine ⟨_, takeSuffix_lexed_of_some hl.peeked hs, hl.mode_eq, hl.peeked, suffix?_of_not_after rfl, ?_⟩
    rw [emit_rest, hr, List.drop_append_of_le_length (by simpa), List.drop_replicate]
  · rename_i hk
    rw [if_neg hk, if_neg hk]
    exact ⟨l, takeSuffix_lexed_of_none hl.peeked hs, hl.mode_eq, hl.peeked, hs, hr⟩

/-- A region is read of the text before a block, the block with the suffix that a run of signs behind it
starts with, and the text behind the run with the signs that are left in front. -/
theorem readRegion_signs {x : Expr} {front ts : List Token} (h : SignsBehind offset region t s k post)
    (htokens : (Lexed.of .template offset region).toTokensEof = .ok (front ++ t :: ts))
    (hread : readRegion offset region = .ok x) :
    ∃ a e b, readRegion offset (region.take (t.start - offset)) = .ok a ∧
      readBlock t = .ok e ∧ e.isPlaceholder = true ∧ readRegion (t.stop + k) post = .ok b ∧
      x = join (a.parts ++ stepped (stepOf s k) e :: prependSigns s (signsLeft k) b.parts) := by
  obtain ⟨_, hk⟩ := isPlaceholder_iff.1 h.block
  obtain ⟨es, hes, rfl⟩ := map_eq_ok hread
  obtain ⟨m, m', hall, hm, hscan, hm', -⟩ :=
    exists_takesAll_of_toTokensEof (within_start .template offset region) htokens
  have htakes := scan_takes hscan
  have hend : m.suffix? = none := by
    rcases hs : m.suffix? with _ | s'
    · rfl
    · rw [(scan_suffix_iff hscan).2 hs] at hk
      cases hk
  -- what stands before the block
  obtain ⟨before, es', hcut, rfl, hes'⟩ := exists_pieces rfl rfl (suffix?_of_not_after rfl) hall hend hes
  have hbefore : region.take (t.start - offset) = before.flatMap Piece.source := by
    obtain ⟨hrest, hposition⟩ := hall.rest_eq rfl
    change region = raws front ++ m.rest at hrest
    change m.position + m.rest.length = offset + region.length at hposition
    have hlength := congrArg List.length hrest
    rw [List.length_append] at hlength
    have hstart : t.start - offset = (raws front).length := by rw [htakes.start]; omega
    rw [hstart, ← hcut.source]
    conv_lhs => rw [hrest]
    exact List.take_left
  -- the block and its suffix
  rw [lexed_of_scan hm.peeked hscan (by simp [hk]), templateParts_placeholder hk] at hes'
  obtain ⟨e, he, hes'⟩ := bind_eq_ok hes'
  obtain ⟨more, hmore, hes'⟩ := bind_eq_ok hes'
  cases hes'
  obtain ⟨n, htake, hn, hp, hs, hrest⟩ := exists_takeSuffix_signs h hscan hm' (by decide)
  rw [htake] at hmore ⊢
  -- what stands behind the run
  obtain ⟨behind, hcut', rfl⟩ := exists_pieces_whole hn hp hs hmore
  obtain ⟨behind', hchain, hsource, htree⟩ := exists_pieces_behind hcut'.chain (hcut'.source.symm.trans hrest)
  refine ⟨join (before.map Piece.tree), e, join (behind'.map Piece.tree), ?_, he,
    readBlockTo_isPlaceholder he, ?_, ?_⟩
  · rw [hbefore]
    exact readRegion_pieces offset hcut.chain
  · rw [← hsource]
    exact readRegion_pieces _ hchain
  · rw [parts_join_pieces, parts_join_pieces, htree]

/-- In a value of a predicate too a block is read with the suffix that a run of signs behind it starts
with, and signs that are left end the value: they are a word behind it. -/
theorem readParts_signs {es : List Expr} {rest : Lexed} (h : SignsBehind offset region t s k post)
    (hm : Within .predicate offset region m) (hscan : m.scan = .ok (t, l))
    (hread : readParts m.lexed = .ok (es, rest)) :
    ∃ e more, readBlock t = .ok e ∧ e.isPlaceholder = true ∧ es = stepped (stepOf s k) e :: more ∧
      (0 < signsLeft k → more = [] ∧ ∃ u after, rest = .token u after ∧ u.kind = .literal ∧
        List.replicate (signsLeft k) s.sign <+: u.text) := by
  obtain ⟨_, hk⟩ := isPlaceholder_iff.1 h.block
  have hl := (scan_takes hscan).within hm
  rw [lexed_of_scan hm.peeked hscan (by simp [hk]), readParts_placeholder hk] at hread
  obtain ⟨-, -, hread⟩ := bind_eq_ok hread
  obtain ⟨e, he, hread⟩ := bind_eq_ok hread
  obtain ⟨⟨more, rest'⟩, hmore, hread⟩ := bind_eq_ok hread
  cases hread
  obtain ⟨n, htake, hn, hp, hs, hr⟩ := exists_takeSuffix_signs h hscan hl (by decide)
  rw [htake] at hmore ⊢
  refine ⟨e, more, he, readBlockTo_isPlaceholder he, rfl, fun hleft => ?_⟩
  obtain ⟨j, hj⟩ := Nat.exists_eq_add_of_lt hleft
  rw [Nat.zero_add] at hj
  rw [hj] at hr ⊢
  obtain ⟨text, after, hscan'⟩ := scan_signs (by simp [hn]) hs hr
  rw [lexed_of_emit hp hscan' (by simp), readParts_stop (.inr (.inr (.inr rfl)))] at hmore
  cases hmore
  exact ⟨rfl, _, _, rfl, rfl, List.prefix_append _ _⟩

end Expr

open RouteExpr.Expr

/-- A suffix stands right behind a placeholder that two signs of one kind follow, and nowhere else. So
behind a block a run of signs is a suffix, if there are two, and plain text: a region is read as the text
before the block, the block, stepped once at most, and the signs that are left with the text behind them,
and in the value of a predicate the block is stepped once at most as well. -/
theorem signs_behind_blocks :
    (∀ (mode : Mode) (offset : Nat) (region : List Char) (front ts : List Token) (u : Token) (s : Step),
      (Lexed.of mode offset region).toTokensEof = .ok (front ++ u :: ts) →
      (u.kind = .suffix s ↔ mode ≠ .function ∧ ∃ t, front.getLast? = some t ∧
        t.kind.isPlaceholder = true ∧ (region.drop (t.stop - offset)).take 2 = [s.sign, s.sign])) ∧
    ∀ (offset k : Nat) (region post : List Char) (front : List Token) (t : Token) (s : Step),
      SignsBehind offset region t s k post →
      (∀ (mode : Mode) (ts : List Token), mode ≠ .function →
        (Lexed.of mode offset region).toTokensEof = .ok (front ++ t :: ts) →
        ∃ more, ts = suffixOf s k t.stop ++ more ∧ StartsPlain s (signsLeft k) more) ∧
      (∀ (ts : List Token) (x : Expr),
        (Lexed.of .template offset region).toTokensEof = .ok (front ++ t :: ts) →
        readRegion offset region = .ok x →
        ∃ a e b, readRegion offset (region.take (t.start - offset)) = .ok a ∧
          readBlock t = .ok e ∧ e.isPlaceholder = true ∧ readRegion (t.stop + k) post = .ok b ∧
          x = join (a.parts ++ stepped (stepOf s k) e :: prependSigns s (signsLeft k) b.parts)) ∧
      ∀ (l m : Lexer) (es : List Expr) (rest : Lexed),
        (Lexer.start .predicate offset region).TakesAll front l → l.scan = .ok (t, m) →
        readParts l.lexed = .ok (es, rest) →
        ∃ e more, readBlock t = .ok e ∧ e.isPlaceholder = true ∧ es = stepped (stepOf s k) e :: more ∧
          (0 < signsLeft k → more = [] ∧ ∃ u after, rest = .token u after ∧ u.kind = .literal ∧
            List.replicate (signsLeft k) s.sign <+: u.text) := by
  refine ⟨fun mode offset region front ts u s htokens => isSuffix_iff htokens, ?_⟩
  intro offset k region post front t s h
  refine ⟨fun mode ts hmode htokens => h.tokens hmode htokens,
    fun ts x htokens hread => readRegion_signs h htokens hread, ?_⟩
  intro l m es rest hall hscan hread
  exact readParts_signs h (hall.within (within_start .predicate offset region)) hscan hread

/-- A block with three signs behind it: two of them step it, and one is text. -/
theorem signs_behind_blocks_three :
    ((Token.Kind.suffix .increment = .suffix .increment) ↔ Mode.template ≠ .function ∧
      ∃ t : Token, [⟨.placeholder .short, ['b'], 0⟩].getLast? = some t ∧ t.kind.isPlaceholder = true ∧
        (['$', '\x7b', 'b', '\x7d', '+', '+', '+', 'c'].drop (t.stop - 0)).take 2 = ['+', '+']) ∧
    (∃ more : List Token, [⟨.suffix .increment, ['+', '+'], 4⟩, ⟨.literal, ['+', 'c'], 6⟩, ⟨.eof, [], 8⟩] =
      suffixOf .increment 3 4 ++ more ∧ StartsPlain .increment 1 more) ∧
    (∃ a e b, readRegion 0 [] = .ok a ∧ readBlock ⟨.placeholder .short, ['b'], 0⟩ = .ok e ∧
      e.isPlaceholder = true ∧ readRegion 7 ['c'] = .ok b ∧
      concat [step .increment (property (literal "b")), literal "+c"] =
        join (a.parts ++ step .increment e :: prependSigns .increment 1 b.parts)) ∧
    ∃ e more, readBlock ⟨.placeholder .short, ['b'], 0⟩ = .ok e ∧ e.isPlaceholder = true ∧
      [step .increment (property (literal "b"))] = step .increment e :: more ∧
      (0 < 1 → more = [] ∧ ∃ u after, Lexed.token ⟨.literal, ['+', 'c'], 6⟩ (.eof 8) = .token u after ∧
        u.kind = .literal ∧ ['+'] <+: u.text) := by
  have hsigns : SignsBehind 0 ['$', '\x7b', 'b', '\x7d', '+', '+', '+', 'c']
      ⟨.placeholder .short, ['b'], 0⟩ .increment 3 ['c'] :=
    ⟨rfl, by decide, by decide, fun h => absurd h (by decide)⟩
  have htokens : (Lexed.of .template 0 ['$', '\x7b', 'b', '\x7d', '+', '+', '+', 'c']).toTokensEof =
      .ok ([] ++ ⟨.placeholder .short, ['b'], 0⟩ :: [⟨.suffix .increment, ['+', '+'], 4⟩,
        ⟨.literal, ['+', 'c'], 6⟩, ⟨.eof, [], 8⟩]) := by decide
  obtain ⟨hrun, hread, hvalue⟩ := signs_behind_blocks.2 _ _ _ _ _ _ _ hsigns
  refine ⟨signs_behind_blocks.1 .template 0 _ [⟨.placeholder .short, ['b'], 0⟩] _
    ⟨.suffix .increment, ['+', '+'], 4⟩ .increment htokens, hrun .template _ (by decide) htokens,
    hread _ _ htokens ?_, hvalue _ _ _ _ (.nil _) rfl ?_⟩
  · cbv
  · rfl

end RouteExpr
