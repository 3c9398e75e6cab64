/-
A text that goes on with an operator has the tokens that it has alone, and then the operator, unless
it ends with the word `not`: that takes up an operator in words and negates it.

Whichever it is, the operator or its negation is found where the operator ends.
-/
import RouteExpr.Proofs.Token.Word

namespace RouteExpr

open Lexer

namespace Lexer

variable {c : Comparison} {words rest : List Char}

/-! ## Words that are taken up -/

theorem words_ne_with (h : c.Words words) (hrest : AfterWord rest) :
    (takeWord (words ++ rest)).1 ≠ "with".toList := by
  cases h with
  | keyword h =>
    obtain ⟨hplain, -⟩ := keyword_spec h
    rw [hplain.takeWord hrest]
    rintro rfl
    cases h
  | edge h hg =>
    obtain ⟨hplain, -⟩ := edge_spec h
    rw [List.append_assoc, List.append_assoc, hplain.takeWord (hg.startsBlank _).afterWord]
    rintro rfl
    cases h

/-- A `not` with nothing but blanks behind it is a plain word. -/
theorem classifyWord_not_of_blank {cs : List Char} (h : cs.dropWhile Text.isBlank = []) :
    classifyWord "not".toList cs = (.literal, "not".toList, cs) := by
  have hneg : takeNegated? cs = none := by
    unfold takeNegated?
    rcases takeNextWord?_of_blank h with hn | ⟨blanks, hn⟩ <;> rw [hn] <;> rfl
  unfold classifyWord
  rw [if_neg (by decide), if_neg (by decide), if_pos rfl, hneg]

/-- A lexer past a token that is no placeholder is like one that starts there. -/
theorem Takes.eq_start {l l' : Lexer} {t : Token} (h : l.Takes t l') (hm : l.mode = .predicate)
    (hp : l.peeked = none) (hd : l'.depth = 0) (hk : t.kind.isPlaceholder = false) :
    l' = Lexer.start .predicate l'.position l'.rest := by
  have hmode := h.mode.trans hm
  have hpeeked := h.peeked.trans hp
  have hafter := h.after.trans hk
  obtain ⟨mode, position, cs, depth, after, peeked⟩ := l'
  cases hmode; cases hpeeked; cases hafter; cases hd
  rfl

/-! ## Where an operator follows -/

/-- Where a text does not go on with `with`, the only step that can go otherwise is over a `not` that
the text ends with. -/
theorem Turns.of_not {tail : List Char} {m m' : Lexer} {t : Token} (h : Turns tail m t m')
    (ht : StartsBlank tail)
    (hwith : (takeWord (tail.dropWhile Text.isBlank)).1 ≠ "with".toList) :
    t.kind = .literal ∧ t.text = "not".toList ∧ takeWord m.rest = ("not".toList, m'.rest) ∧
      m'.rest.dropWhile Text.isBlank = [] := by
  -- the step is over a word that is no longer the same token
  obtain ⟨r, hclass, hne⟩ : ∃ r, classifyWord (takeWord m.rest).1 (takeWord m.rest).2 =
      (t.kind, t.text, r) ∧ classifyWord (takeWord m.rest).1 ((takeWord m.rest).2 ++ tail) ≠
        (t.kind, t.text, r ++ tail) := by
    by_contra hall
    push Not at hall
    exact h.scan_ne (scan_extend ht h.mode h.scan h.ne_eof h.rest_ne_nil hall)
  obtain ⟨hnot, hblank⟩ : (takeWord m.rest).1 = "not".toList ∧
      (takeWord m.rest).2.dropWhile Text.isBlank = [] := by
    by_contra hcon
    apply hne
    rw [ht.classifyWord hwith, hclass]
    · rfl
    · intro hnot
      exact ht.takeNegated? hwith fun hnil => hcon ⟨hnot, hnil⟩
  rw [hnot, classifyWord_not_of_blank hblank, Prod.mk.injEq, Prod.mk.injEq] at hclass
  obtain ⟨hk, htext, -⟩ := hclass
  have hm' : (takeWord m.rest).2 = m'.rest := by
    have hrest := (scan_takes h.scan).rest
    have hcut : m.rest = (takeWord m.rest).1 ++ (takeWord m.rest).2 :=
      (takeUntil_spec endsWord m.rest).1
    rw [Token.raw, ← hk, ← htext] at hrest
    rw [hnot] at hcut
    exact List.append_cancel_left (hcut.symm.trans hrest)
  rw [hm'] at hblank
  exact ⟨hk.symm, htext.symm, Prod.ext hnot hm', hblank⟩

/-- Behind the `not` there are blanks alone. -/
theorem Turns.skipBlanks {tail : List Char} {m m' : Lexer} {t : Token} (h : Turns tail m t m')
    (hk : t.kind = .literal) (hblank : m'.rest.dropWhile Text.isBlank = []) :
    ∃ offset, m'.lexed.skipBlanks = .ok (.eof offset) := by
  have hd := (scan_depth h.mode h.scan).trans h.depth
  rw [(scan_takes h.scan).eq_start h.mode h.peeked hd (by rw [hk]; rfl), ← Lexed.of_eq_lexed,
    Lexed.skipBlanks_of, hblank]
  exact ⟨_, rfl⟩

/-- With an operator in words behind it, the `not` is the negation of that operator. -/
theorem Turns.lexed_words {m m' : Lexer} {t : Token} (h : Turns (' ' :: (words ++ rest)) m t m')
    (hw : c.Words words) (hrest : AfterWord rest) (hk : t.kind = .literal)
    (hnot : takeWord m.rest = ("not".toList, m'.rest))
    (hblank : m'.rest.dropWhile Text.isBlank = []) :
    ∃ t' after, (m.extend (' ' :: (words ++ rest))).lexed = .token t' after ∧
      t'.kind = .operator ⟨c, true⟩ ∧
      t'.stop = m.position + m.rest.length + 1 + words.length := by
  have hgap : Gap (m'.rest ++ [' ']) := by
    refine ⟨by simp, fun e he => ?_⟩
    rcases List.mem_append.1 he with he | he
    · exact List.dropWhile_eq_nil_iff.1 hblank e he
    · rw [List.mem_singleton.1 he]
      rfl
  have hclass := classifyWord_not_words hw hgap hrest.endsWord
  rw [List.append_assoc, List.singleton_append] at hclass
  have hscan : (m.extend (' ' :: (words ++ rest))).scan =
      .ok ((m.extend (' ' :: (words ++ rest))).emit (.operator ⟨c, true⟩)
        ("not".toList ++ (m'.rest ++ [' '] ++ words)) rest) := by
    have hcuts := h.scan
    generalize hr : (t, m') = r at hcuts
    cases cuts_of_scan hcuts with
    | word hmode hend hbrace hsuffix htake hw' =>
      refine scan_extend_word (startsBlank_cons rfl _) hmode hend hbrace hsuffix htake ?_
      rw [hnot]
      exact hclass
    | text hmode | plain hmode => rw [h.mode] at hmode; cases hmode
    | symbol hmode hend hbrace hsuffix htake =>
      cases hr
      rcases (takeSymbol?_eq_some htake).2.2 with ⟨_, rfl⟩ | ⟨_, rfl⟩ <;> cases hk
    | _ => cases hr; cases hk
  have hlength : m.rest.length = 3 + m'.rest.length := by
    have hcut : m.rest = (takeWord m.rest).1 ++ (takeWord m.rest).2 :=
      (takeUntil_spec endsWord m.rest).1
    rw [hcut, hnot, List.length_append]
    rfl
  refine ⟨_, _, lexed_of_emit h.peeked hscan (by simp), rfl, ?_⟩
  simp only [Token.stop, Token.length, Token.raw, Token.Kind.opening, Token.Kind.closing,
    List.nil_append, List.append_nil, List.length_append, List.length_singleton, hlength]
  show m.position + (3 + (m'.rest.length + 1 + words.length)) = _
  omega

end Lexer

/-! ## Operators behind a text -/

/-- The first word of an operator that is no comparison in words is taken up by no `not`. -/
theorem Operator.Spells.apart {op : Operator} {o rest : List Char} (h : op.Spells o)
    (hrest : AfterWord rest) (hwords : ∀ c, ¬ Comparison.Words c o) :
    Apart (' ' :: (o ++ rest)) := by
  cases h with
  | symbol h =>
    have hsymbols : ∀ entry ∈ symbols, entry.1.toList ≠ "with".toList ∧
        edge? entry.1.toList = none ∧
        Comparison.ofKeyword? (String.ofList entry.1.toList) = none := by
      simp only [symbols, List.mem_cons, List.not_mem_nil, or_false]
      rintro entry (rfl | rfl | rfl | rfl | rfl | rfl | rfl | rfl | rfl | rfl | rfl | rfl) <;>
        exact ⟨by decide, rfl, rfl⟩
    obtain ⟨hwith, hedge, hkeyword⟩ := hsymbols _ h
    exact (symbols_spec _ h).1.apart hwith hedge hkeyword hrest
  | words h => exact absurd h (hwords _)
  | negatedWords h hg =>
    rw [List.append_assoc, List.append_assoc]
    exact plainWord_not.apart (by decide) rfl rfl (hg.startsBlank _).afterWord
  | negatedKeyword h =>
    obtain ⟨hplain, -⟩ := keyword_spec h
    have hcases := keyword_cases h
    simp only [List.mem_cons, List.not_mem_nil, or_false] at hcases
    apply hplain.negated.apart _ _ _ hrest <;>
      rcases hcases with rfl | rfl | rfl | rfl | rfl | rfl | rfl <;> first | rfl | decide

/-- The tokens of a text that goes on with an operator are its own and then the operator, or its own
up to a `not` that it ends with, and then an operator that ends at the same place. -/
theorem Operator.Spells.extends_or_forks {op : Operator} {o rest : List Char} (h : op.Spells o)
    (hrest : AfterWord rest) (cs : List Char) :
    Lexed.Extends (.token ⟨.operator op, o, cs.length + 1⟩
        (Lexed.of .predicate (cs.length + 1 + o.length) rest))
      (Lexed.of .predicate 0 cs) (Lexed.of .predicate 0 (cs ++ ' ' :: (o ++ rest))) ∨
    ∃ t blanks t' after, t.kind = .literal ∧ t.text = "not".toList ∧
      (∃ offset, blanks.skipBlanks = .ok (.eof offset)) ∧ (∃ op', t'.kind = .operator op') ∧
      t'.stop = cs.length + 1 + o.length ∧
      Lexed.Forks (.token t blanks) (.token t' after)
        (Lexed.of .predicate 0 cs) (Lexed.of .predicate 0 (cs ++ ' ' :: (o ++ rest))) := by
  have hblanks : (' ' :: (o ++ rest)).takeWhile Text.isBlank = [' '] ∧
      (' ' :: (o ++ rest)).dropWhile Text.isBlank = o ++ rest := by
    obtain ⟨d, more, rfl, hd⟩ := h.eq_cons
    exact blanks_space ⟨d, more ++ rest, rfl, hd⟩
  have hmore : Lexed.of .predicate ((Lexer.start .predicate 0 cs).position +
        ((Lexer.start .predicate 0 cs).rest ++ (' ' :: (o ++ rest)).takeWhile Text.isBlank).length)
        ((' ' :: (o ++ rest)).dropWhile Text.isBlank) =
      .token ⟨.operator op, o, cs.length + 1⟩ (Lexed.of .predicate (cs.length + 1 + o.length) rest) := by
    rw [hblanks.1, hblanks.2, ← h.lexed hrest]
    simp [Lexer.start]
  by_cases hwords : ∃ c, Comparison.Words c o
  · obtain ⟨c, hw⟩ := hwords
    have hextend := lexed_extend_or (startsBlank_cons (c := ' ') rfl (o ++ rest))
      (Lexer.start .predicate 0 cs) rfl rfl rfl
    rw [hmore] at hextend
    rcases hextend with hextends | ⟨m, t, m', hturns, hstop, hforks⟩
    · exact .inl hextends
    · obtain ⟨hk, htext, hnot, hblank⟩ := hturns.of_not (startsBlank_cons rfl _)
        (by rw [hblanks.2]; exact words_ne_with hw hrest)
      obtain ⟨t', after, hlexed, hop, ht'⟩ := hturns.lexed_words hw hrest hk hnot hblank
      rw [hlexed, lexed_of_scan hturns.peeked hturns.scan hturns.ne_eof] at hforks
      refine .inr ⟨t, _, t', after, hk, htext, hturns.skipBlanks hk hblank, ⟨_, hop⟩, ?_, hforks⟩
      rw [ht', hstop]
      simp [Lexer.start]
  · have hapart := h.apart hrest fun c hc => hwords ⟨c, hc⟩
    have hextends := lexed_extend hapart.toStartsBlank (Lexer.start .predicate 0 cs) rfl rfl rfl
      fun t _ => hapart.stays t
    rw [hmore] at hextends
    exact .inl hextends

end RouteExpr
