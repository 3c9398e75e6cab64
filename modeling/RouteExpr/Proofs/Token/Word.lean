/-
Words and symbols that stand before a blank, and the operators that they spell.

A word without quotes and markers in it ends at the blank, so it is looked up alone. The words of an
operator may stand apart by any blanks, and are one token all the same.
-/
import RouteExpr.Proofs.Number.Integer
import RouteExpr.Proofs.Token.Extend

namespace RouteExpr

open Lexer

/-! ## Words before a blank -/

namespace Lexer

/-- A word in which nothing ends it or has a meaning of its own. -/
structure PlainWord (word : List Char) : Prop where
  nonempty : word ≠ []
  plain : ∀ d ∈ word, Text.isBlank d = false ∧ quote? d = none ∧ d ≠ '$' ∧ d ≠ '\x7d'

/-- Blanks, at least one. -/
structure Gap (gap : List Char) : Prop where
  nonempty : gap ≠ []
  blank : ∀ c ∈ gap, Text.isBlank c = true

variable {word gap tail : List Char}

theorem Gap.startsBlank (h : Gap gap) (rest : List Char) : StartsBlank (gap ++ rest) := by
  obtain ⟨c, cs, rfl⟩ := List.exists_cons_of_ne_nil h.nonempty
  exact ⟨c, cs ++ rest, rfl, h.blank c List.mem_cons_self⟩

theorem startsBlank_cons {c : Char} (hc : Text.isBlank c = true) (cs : List Char) :
    StartsBlank (c :: cs) :=
  ⟨c, cs, rfl, hc⟩

/-- A text that is empty or starts with a blank, so that words end before it. -/
def AfterWord (tail : List Char) : Prop :=
  tail = [] ∨ StartsBlank tail

theorem StartsBlank.afterWord (h : StartsBlank tail) : AfterWord tail :=
  .inr h

theorem AfterWord.endsWord (h : AfterWord tail) : endsWord tail = true := by
  rcases h with rfl | ht
  · rfl
  · obtain ⟨c, cs, rfl, hc⟩ := ht.starts
    simp [Lexer.endsWord, hc]

theorem AfterWord.takeSymbol? (h : AfterWord tail) (cs : List Char) :
    Lexer.takeSymbol? (cs ++ tail) =
      (Lexer.takeSymbol? cs).map fun (kind, text, rest) => (kind, text, rest ++ tail) := by
  rcases h with rfl | ht
  · simp
  · exact ht.takeSymbol? cs

/-- Where no blank follows it, one space is all the blanks. -/
theorem blanks_space {cs : List Char} (h : ∃ d more, cs = d :: more ∧ Text.isBlank d = false) :
    (' ' :: cs).takeWhile Text.isBlank = [' '] ∧ (' ' :: cs).dropWhile Text.isBlank = cs := by
  obtain ⟨d, more, rfl, hd⟩ := h
  rw [List.takeWhile_cons_of_pos rfl, List.dropWhile_cons_of_pos rfl,
    List.takeWhile_cons_of_neg (by simp [hd]), List.dropWhile_cons_of_neg (by simp [hd])]
  exact ⟨rfl, rfl⟩

theorem plainWord_not : PlainWord "not".toList :=
  ⟨by decide, by simp [Text.isBlank, quote?]⟩

theorem plainWord_connective {word : List Char} (h : word ∈ ["and".toList, "or".toList]) :
    PlainWord word := by
  simp only [List.mem_cons, List.not_mem_nil, or_false] at h
  rcases h with rfl | rfl <;> exact ⟨by decide, by simp [Text.isBlank, quote?]⟩

/-- A word with the sign of a negation in front of it. -/
theorem PlainWord.negated (h : PlainWord word) : PlainWord ('!' :: word) := by
  refine ⟨by simp, fun d hd => ?_⟩
  rcases List.mem_cons.1 hd with rfl | hd
  · simp [Text.isBlank, quote?]
  · exact h.plain d hd

theorem PlainWord.eq_cons (h : PlainWord word) :
    ∃ d more, word = d :: more ∧ Text.isBlank d = false := by
  obtain ⟨d, more, rfl⟩ := List.exists_cons_of_ne_nil h.nonempty
  exact ⟨d, more, rfl, (h.plain d List.mem_cons_self).1⟩

/-- A plain word ends where the text does, or where words end. -/
theorem PlainWord.takeWord_of_end (h : PlainWord word) (ht : endsWord tail = true) :
    Lexer.takeWord (word ++ tail) = (word, tail) := by
  refine takeUntil_append (.inr ht) fun u v huv hv => ?_
  obtain ⟨d, v, rfl⟩ := List.exists_cons_of_ne_nil hv
  obtain ⟨h1, h2, h3, -⟩ := h.plain d (by rw [huv]; simp)
  rw [List.cons_append, endsWord, h1, h2, startsMarker_cons_of_ne h3]
  rfl

theorem PlainWord.takeWord (h : PlainWord word) (ht : AfterWord tail) :
    Lexer.takeWord (word ++ tail) = (word, tail) :=
  h.takeWord_of_end ht.endsWord

/-- Behind a gap, a word is the next word. -/
theorem PlainWord.takeNextWord? (h : PlainWord word) (hg : Gap gap) (ht : endsWord tail = true) :
    Lexer.takeNextWord? (gap ++ (word ++ tail)) = some (gap, word, tail) := by
  obtain ⟨d, more, rfl, hd⟩ := h.eq_cons
  have hd : ¬ Text.isBlank d = true := by rw [hd]; simp
  have htake : (gap ++ (d :: more ++ tail)).takeWhile Text.isBlank = gap := by
    rw [List.takeWhile_append_of_pos hg.blank, List.cons_append, List.takeWhile_cons_of_neg hd,
      List.append_nil]
  have hdrop : (gap ++ (d :: more ++ tail)).dropWhile Text.isBlank = d :: more ++ tail := by
    rw [List.dropWhile_append_of_pos hg.blank, List.cons_append, List.dropWhile_cons_of_neg hd]
  unfold Lexer.takeNextWord?
  rw [htake, hdrop, h.takeWord_of_end ht]
  simp [hg.nonempty]

/-- A plain word that neither is `with` nor starts an operator is taken up by no word before it. -/
theorem PlainWord.apart (h : PlainWord word) (hwith : word ≠ "with".toList) (hedge : edge? word = none)
    (hkeyword : Comparison.ofKeyword? (String.ofList word) = none) (ht : AfterWord tail) :
    Apart (' ' :: (word ++ tail)) := by
  obtain ⟨d, more, rfl, hd⟩ := h.eq_cons
  have hdrop := (blanks_space ⟨d, more ++ tail, rfl, hd⟩).2
  refine ⟨startsBlank_cons rfl _, ?_, ?_, ?_⟩ <;> rw [← List.cons_append] at hdrop <;>
    rw [hdrop, h.takeWord ht]
  · exact hwith
  · exact hedge
  · exact hkeyword

theorem takeWith?_gap (hg : Gap gap) (ht : endsWord tail = true) :
    takeWith? (gap ++ ("with".toList ++ tail)) = some (gap ++ "with".toList, tail) := by
  have hwith : PlainWord "with".toList := ⟨by decide, by simp [Text.isBlank, quote?]⟩
  unfold takeWith?
  rw [hwith.takeNextWord? hg ht]
  rfl

/-- Where a plain word starts, it is a symbol, or classified with what follows. -/
theorem PlainWord.lexed (h : PlainWord word) {k : Token.Kind} {text rest : List Char}
    (hk : k = .literal ∨ (∃ c, k = .connective c) ∨ ∃ op, k = .operator op)
    (htoken : takeSymbol? (word ++ tail) = some (k, text, rest) ∨
      takeSymbol? (word ++ tail) = none ∧
        classifyWord (Lexer.takeWord (word ++ tail)).1 (Lexer.takeWord (word ++ tail)).2 =
          (k, text, rest)) (offset : Nat) :
    Lexed.of .predicate offset (word ++ tail) =
      .token ⟨k, text, offset⟩ (Lexed.of .predicate (offset + text.length) rest) := by
  obtain ⟨ho, hcl, hp, hne⟩ : k.opening = [] ∧ k.closing = [] ∧ k.isPlaceholder = false ∧
      k ≠ .eof := by
    rcases hk with rfl | ⟨_, rfl⟩ | ⟨_, rfl⟩ <;> exact ⟨rfl, rfl, rfl, by simp⟩
  have hs : (Lexer.start .predicate offset (word ++ tail)).scan =
      .ok ((Lexer.start .predicate offset (word ++ tail)).emit k text rest) := by
    obtain ⟨d, more, hd⟩ := List.exists_cons_of_ne_nil h.nonempty
    obtain ⟨h1, h2, h3, h4⟩ := h.plain d (by rw [hd]; exact List.mem_cons_self)
    have hword : endsWord (word ++ tail) = false := by
      rw [hd, List.cons_append, endsWord, h1, h2, startsMarker_cons_of_ne h3]
      rfl
    have hbrace : (word ++ tail).head? ≠ some '\x7d' := by
      rw [hd]
      simpa using h4
    apply scan_of_cuts
    rcases htoken with hsome | ⟨hnone, hclass⟩
    · exact .symbol rfl hword hbrace rfl hsome
    · exact .word rfl hword hbrace rfl hnone hclass
  rw [Lexed.of_eq_lexed, lexed_of_emit rfl hs hne]
  refine congrArg (Lexed.token _) ?_
  simp [emit, start, Token.stop, Token.length, Token.raw, ho, hcl, hp, Lexed.of_eq_lexed]

end Lexer

/-! ## Spellings of operators -/

/-- The words of a comparison: a keyword, or `starts` or `ends` with `with` behind any blanks. -/
inductive Comparison.Words : Comparison → List Char → Prop
  | keyword {c : Comparison} {word : List Char}
    (h : Comparison.ofKeyword? (String.ofList word) = some c) : Words c word
  | edge {c : Comparison} {word gap : List Char} (h : edge? word = some c) (hg : Gap gap) :
    Words c (word ++ gap ++ "with".toList)

/-- The spellings of an operator: its symbol, the words of its comparison, and for the negation these
words behind `not` and any blanks, or a keyword behind `!`. -/
inductive Operator.Spells : Operator → List Char → Prop
  | symbol {op : Operator} {s : String} (h : (s, .operator op) ∈ symbols) : Spells op s.toList
  | words {c : Comparison} {words : List Char} (h : c.Words words) : Spells ⟨c, false⟩ words
  | negatedWords {c : Comparison} {words gap : List Char} (h : c.Words words) (hg : Gap gap) :
    Spells ⟨c, true⟩ ("not".toList ++ gap ++ words)
  | negatedKeyword {c : Comparison} {word : List Char}
    (h : Comparison.ofKeyword? (String.ofList word) = some c) : Spells ⟨c, true⟩ ('!' :: word)

/-- The spellings in words of connectives and operators. -/
inductive Token.Kind.InWords : Token.Kind → List Char → Prop
  | and : InWords (.connective .and) "and".toList
  | or : InWords (.connective .or) "or".toList
  | comparison {c : Comparison} {words : List Char} (h : c.Words words) :
    InWords (.operator ⟨c, false⟩) words
  | negation {c : Comparison} {words gap : List Char} (h : c.Words words) (hg : Gap gap) :
    InWords (.operator ⟨c, true⟩) ("not".toList ++ gap ++ words)
  | negatedKeyword {c : Comparison} {word : List Char}
    (h : Comparison.ofKeyword? (String.ofList word) = some c) :
    InWords (.operator ⟨c, true⟩) ('!' :: word)

namespace Lexer

variable {word gap tail : List Char} {c : Comparison}

theorem keyword_cases (h : Comparison.ofKeyword? (String.ofList word) = some c) :
    word ∈ ["contains".toList, "in".toList, "regex".toList, "is".toList, "range".toList,
      "startsWith".toList, "endsWith".toList] := by
  have back {s : String} (hs : String.ofList word = s) : word = s.toList := by
    rw [← hs, String.toList_ofList]
  unfold Comparison.ofKeyword? at h
  split at h
  any_goals (rename_i hs; rw [back hs]; simp)
  cases h

/-- A keyword is a plain word, begins with no symbol, and takes up no word behind it. -/
theorem keyword_spec (h : Comparison.ofKeyword? (String.ofList word) = some c) :
    PlainWord word ∧ edge? word = none ∧ takeSymbol? word = none ∧ takeSymbol? ('!' :: word) = none ∧
      (∀ rest, classifyWord word rest = (.operator ⟨c, false⟩, word, rest)) ∧
      ∀ rest, classifyWord ('!' :: word) rest = (.operator ⟨c, true⟩, '!' :: word, rest) := by
  have hcases := keyword_cases h
  simp only [List.mem_cons, List.not_mem_nil, or_false] at hcases
  rcases hcases with rfl | rfl | rfl | rfl | rfl | rfl | rfl <;> cases h <;>
    exact ⟨⟨by decide, by simp [Text.isBlank, quote?]⟩, rfl, rfl, rfl, fun _ => rfl, fun _ => rfl⟩

/-- `starts` and `ends` are plain words, begin with no symbol, and are one token with the `with` behind
them. -/
theorem edge_spec (h : edge? word = some c) :
    PlainWord word ∧ takeSymbol? word = none ∧ ∀ {taken tail rest : List Char},
      takeWith? tail = some (taken, rest) →
      classifyWord word tail = (.operator ⟨c, false⟩, word ++ taken, rest) := by
  have hclass (hand : word ≠ "and".toList) (hor : word ≠ "or".toList) (hnot : word ≠ "not".toList)
      {taken tail rest : List Char} (ht : takeWith? tail = some (taken, rest)) :
      classifyWord word tail = (.operator ⟨c, false⟩, word ++ taken, rest) := by
    unfold classifyWord
    rw [if_neg hand, if_neg hor, if_neg hnot, h]
    dsimp only
    rw [ht]
  unfold edge? at h
  split at h
  · rename_i hs
    subst hs
    exact ⟨⟨by decide, by simp [Text.isBlank, quote?]⟩, rfl, hclass (by decide) (by decide) (by decide)⟩
  · split at h
    · rename_i hs
      subst hs
      exact ⟨⟨by decide, by simp [Text.isBlank, quote?]⟩, rfl,
        hclass (by decide) (by decide) (by decide)⟩
    · cases h

/-- Behind `not`, the words of a comparison are taken up whole. -/
theorem takeNegated?_words {words : List Char} (h : c.Words words) (hg : Gap gap)
    (ht : endsWord tail = true) :
    takeNegated? (gap ++ (words ++ tail)) = some (c, gap ++ words, tail) := by
  unfold takeNegated?
  cases h with
  | keyword h =>
    obtain ⟨hplain, hedge, -⟩ := keyword_spec h
    rw [hplain.takeNextWord? hg ht, Option.bind_some]
    dsimp only
    rw [hedge, h]
    rfl
  | edge h hg' =>
    obtain ⟨hplain, -⟩ := edge_spec h
    rw [List.append_assoc, List.append_assoc,
      hplain.takeNextWord? hg (hg'.startsBlank _).afterWord.endsWord, Option.bind_some]
    dsimp only
    rw [h]
    dsimp only
    rw [takeWith?_gap hg' ht, Option.map_some, List.append_assoc, List.append_assoc]

/-- A `not` in front of an operator in words is one token with it. -/
theorem classifyWord_not_words {words : List Char} (h : c.Words words) (hg : Gap gap)
    (ht : endsWord tail = true) : classifyWord "not".toList (gap ++ (words ++ tail)) =
      (.operator ⟨c, true⟩, "not".toList ++ (gap ++ words), tail) := by
  unfold classifyWord
  rw [if_neg (by decide), if_neg (by decide), if_pos rfl, takeNegated?_words h hg ht]

end Lexer

theorem symbols_spec : ∀ entry ∈ symbols, PlainWord entry.1.toList ∧
    takeSymbol? entry.1.toList = some (entry.2, entry.1.toList, []) := by
  simp only [symbols, List.mem_cons, List.not_mem_nil, or_false]
  rintro entry (rfl | rfl | rfl | rfl | rfl | rfl | rfl | rfl | rfl | rfl | rfl | rfl) <;>
    exact ⟨⟨by decide, by simp [Text.isBlank, quote?]⟩, rfl⟩

/-- No spelling starts with a blank. -/
theorem Operator.Spells.eq_cons {op : Operator} {o : List Char} (h : op.Spells o) :
    ∃ d more, o = d :: more ∧ Text.isBlank d = false := by
  have ofWord {word more : List Char} (hw : PlainWord word) (ho : o = word ++ more) :
      ∃ d more, o = d :: more ∧ Text.isBlank d = false := by
    obtain ⟨d, word, rfl, hd⟩ := hw.eq_cons
    exact ⟨d, word ++ more, ho, hd⟩
  cases h with
  | symbol h => exact ofWord (symbols_spec _ h).1 (List.append_nil _).symm
  | words h =>
    cases h with
    | keyword h => exact ofWord (keyword_spec h).1 (List.append_nil _).symm
    | edge h hg => exact ofWord (edge_spec h).1 (List.append_assoc _ _ _)
  | negatedWords h hg => exact ⟨'n', _, rfl, rfl⟩
  | negatedKeyword h => exact ⟨'!', _, rfl, rfl⟩

namespace Token.Kind.InWords

variable {k : Token.Kind} {words tail : List Char}

/-- Words are classified whole where they end. -/
theorem classifyWord (h : k.InWords words) (ht : endsWord tail = true) :
    Lexer.classifyWord (takeWord (words ++ tail)).1 (takeWord (words ++ tail)).2 = (k, words, tail) := by
  cases h with
  | and =>
    rw [(plainWord_connective (by decide)).takeWord_of_end ht]
    rfl
  | or =>
    rw [(plainWord_connective (by decide)).takeWord_of_end ht]
    rfl
  | comparison h =>
    cases h with
    | keyword h =>
      obtain ⟨hplain, -, -, -, hc, -⟩ := keyword_spec h
      rw [hplain.takeWord_of_end ht, hc]
    | edge h hg =>
      obtain ⟨hplain, -, hc⟩ := edge_spec h
      have hend := (hg.startsBlank ("with".toList ++ tail)).afterWord.endsWord
      rw [List.append_assoc, List.append_assoc, hplain.takeWord_of_end hend, hc (takeWith?_gap hg ht),
        List.append_assoc]
  | @negation c words gap h hg =>
    have hend := (hg.startsBlank (words ++ tail)).afterWord.endsWord
    rw [List.append_assoc, List.append_assoc, plainWord_not.takeWord_of_end hend,
      classifyWord_not_words h hg ht, List.append_assoc]
  | negatedKeyword h =>
    obtain ⟨hplain, -, -, -, -, hc⟩ := keyword_spec h
    rw [hplain.negated.takeWord_of_end ht, hc]

/-- The first of the words is a plain one that begins with no symbol. -/
theorem starts (h : k.InWords words) : ∃ word more, words = word ++ more ∧ PlainWord word ∧
    takeSymbol? word = none ∧ AfterWord more := by
  cases h with
  | and => exact ⟨"and".toList, [], rfl, plainWord_connective (by decide), rfl, .inl rfl⟩
  | or => exact ⟨"or".toList, [], rfl, plainWord_connective (by decide), rfl, .inl rfl⟩
  | comparison h =>
    cases h with
    | keyword h =>
      obtain ⟨hplain, -, hs, -⟩ := keyword_spec h
      exact ⟨_, [], (List.append_nil _).symm, hplain, hs, .inl rfl⟩
    | edge h hg =>
      obtain ⟨hplain, hs, -⟩ := edge_spec h
      exact ⟨_, _, List.append_assoc _ _ _, hplain, hs, (hg.startsBlank _).afterWord⟩
  | negation h hg =>
    exact ⟨_, _, List.append_assoc _ _ _, plainWord_not, rfl, (hg.startsBlank _).afterWord⟩
  | negatedKeyword h =>
    obtain ⟨hplain, -, -, hs, -⟩ := keyword_spec h
    exact ⟨_, [], (List.append_nil _).symm, hplain.negated, hs, .inl rfl⟩

theorem isToken (h : k.InWords words) : (∃ c, k = .connective c) ∨ ∃ op, k = .operator op := by
  cases h
  · exact .inl ⟨_, rfl⟩
  · exact .inl ⟨_, rfl⟩
  all_goals exact .inr ⟨_, rfl⟩

/-- Words that end where words end are one token. -/
theorem lexed (h : k.InWords words) (ht : AfterWord tail) (offset : Nat) :
    Lexed.of .predicate offset (words ++ tail) =
      .token ⟨k, words, offset⟩ (Lexed.of .predicate (offset + words.length) tail) := by
  have hclass := h.classifyWord ht.endsWord
  obtain ⟨word, more, rfl, hplain, hs, hmore⟩ := h.starts
  have hafter : AfterWord (more ++ tail) := by
    rcases hmore with rfl | hmore
    · exact ht
    · obtain ⟨c, cs, rfl, hc⟩ := hmore.starts
      exact .inr (startsBlank_cons hc _)
  rw [List.append_assoc] at hclass ⊢
  refine hplain.lexed (.inr h.isToken) (.inr ⟨?_, hclass⟩) offset
  rw [hafter.takeSymbol?, hs]
  rfl

end Token.Kind.InWords

/-- A spelling of an operator that ends where words end is one token, the operator. -/
theorem Operator.Spells.lexed {op : Operator} {o tail : List Char} (h : op.Spells o)
    (ht : AfterWord tail) (offset : Nat) :
    Lexed.of .predicate offset (o ++ tail) =
      .token ⟨.operator op, o, offset⟩ (Lexed.of .predicate (offset + o.length) tail) := by
  cases h with
  | symbol h =>
    obtain ⟨hplain, hs⟩ := symbols_spec _ h
    refine hplain.lexed (.inr (.inr ⟨op, rfl⟩)) (.inl ?_) offset
    rw [ht.takeSymbol?, hs]
    rfl
  | words h => exact (Token.Kind.InWords.comparison h).lexed ht offset
  | negatedWords h hg => exact (Token.Kind.InWords.negation h hg).lexed ht offset
  | negatedKeyword h => exact (Token.Kind.InWords.negatedKeyword h).lexed ht offset

/-! ## Other words -/

/-- The words of connectives and operators; `with` is one only behind another. -/
def languageWords : List (List Char) :=
  ["and".toList, "or".toList, "not".toList, "starts".toList, "ends".toList, "contains".toList,
    "in".toList, "regex".toList, "is".toList, "range".toList, "startsWith".toList, "endsWith".toList]

/-- All other words are plain text, unless a negation stands in front. -/
theorem classifyWord_of_not_mem {word : List Char} (hword : word ∉ languageWords)
    (hnot : word.head? ≠ some '!') (rest : List Char) :
    classifyWord word rest = (.literal, word, rest) := by
  have hne {w : List Char} (hw : w ∈ languageWords) : word ≠ w := by
    rintro rfl
    exact hword hw
  have hedge : edge? word = none := by
    unfold edge?
    rw [if_neg (hne (by decide)), if_neg (hne (by decide))]
  have hkeyword : Comparison.ofKeyword? (String.ofList word) = none := by
    by_contra hsome
    obtain ⟨c, hc⟩ := Option.ne_none_iff_exists'.1 hsome
    have hsub : ∀ w ∈ ["contains".toList, "in".toList, "regex".toList, "is".toList, "range".toList,
        "startsWith".toList, "endsWith".toList], w ∈ languageWords := by decide
    exact hword (hsub word (keyword_cases hc))
  unfold classifyWord
  rw [if_neg (hne (by decide)), if_neg (hne (by decide)), if_neg (hne (by decide)), hedge]
  dsimp only
  split
  · rename_i hc
    exfalso
    split at hc
    · exact hnot rfl
    · rw [hkeyword] at hc
      cases hc
  · rfl

/-! ## Numerals -/

/-- The characters of numerals end no word and start no symbol. -/
theorem isMark_plain {d : Char} (h : Numeral.IsMark d) :
    (Text.isBlank d = false ∧ quote? d = none ∧ d ≠ '$' ∧ d ≠ '\x7d') ∧
      d ∉ ['!', '=', '>', '<', '~', '&', '|'] := by
  have hne {e : Char} (he : ¬ Numeral.IsMark e) : d ≠ e := by
    rintro rfl
    exact he h
  have hquote : quote? d = none := by
    unfold quote?
    rw [if_neg (hne (by decide)), if_neg (hne (by decide))]
  refine ⟨⟨Numeral.isBlank_of_isMark h, hquote, hne (by decide), hne (by decide)⟩, ?_⟩
  simp only [List.mem_cons, List.not_mem_nil, or_false, not_or]
  exact ⟨hne (by decide), hne (by decide), hne (by decide), hne (by decide), hne (by decide),
    hne (by decide), hne (by decide)⟩

theorem takeSymbol?_eq_none {d : Char} {cs : List Char}
    (h : d ∉ ['!', '=', '>', '<', '~', '&', '|']) : takeSymbol? (d :: cs) = none := by
  simp only [List.mem_cons, List.not_mem_nil, or_false, not_or] at h
  unfold takeSymbol?
  rw [List.findSome?_eq_none_iff]
  simp only [symbols, List.mem_cons, List.not_mem_nil, or_false]
  rintro entry (rfl | rfl | rfl | rfl | rfl | rfl | rfl | rfl | rfl | rfl | rfl | rfl) <;>
    simp [Text.afterStart?, Ne.symm h.1, Ne.symm h.2.1, Ne.symm h.2.2.1, Ne.symm h.2.2.2.1,
      Ne.symm h.2.2.2.2.1, Ne.symm h.2.2.2.2.2.1, Ne.symm h.2.2.2.2.2.2]

/-- No word of the language is made of the characters of numerals alone. -/
theorem classifyWord_of_marks {word : List Char} (h : ∀ d ∈ word, Numeral.IsMark d)
    (rest : List Char) : classifyWord word rest = (.literal, word, rest) := by
  have hwords : languageWords.all (·.any fun d => ¬ Numeral.IsMark d) = true := by decide
  simp only [List.all_eq_true, List.any_eq_true, decide_eq_true_eq] at hwords
  refine classifyWord_of_not_mem (fun hw => ?_) (fun hnot => ?_) rest
  · obtain ⟨d, hd, hmark⟩ := hwords word hw
    exact hmark (h d hd)
  · exact absurd (h '!' (List.mem_of_mem_head? hnot)) (by decide)

/-- A word of the characters of numerals up to the end of a region is one token, plain text. -/
theorem Lexed.of_marks {word : List Char} (hne : word ≠ []) (hmark : ∀ d ∈ word, Numeral.IsMark d)
    (offset : Nat) : Lexed.of .predicate offset word =
      .token ⟨.literal, word, offset⟩ (.eof (offset + word.length)) := by
  have hplain : PlainWord word := ⟨hne, fun d hd => (isMark_plain (hmark d hd)).1⟩
  have hsymbol : takeSymbol? word = none := by
    obtain ⟨d, cs, rfl⟩ := List.exists_cons_of_ne_nil hne
    exact takeSymbol?_eq_none (isMark_plain (hmark d List.mem_cons_self)).2
  have hword : takeWord (word ++ []) = (word, []) := hplain.takeWord_of_end rfl
  have hlexed : Lexed.of .predicate offset (word ++ []) =
      .token ⟨.literal, word, offset⟩ (Lexed.of .predicate (offset + word.length) []) := by
    refine hplain.lexed (.inl rfl) (.inr ⟨?_, ?_⟩) offset
    · rw [List.append_nil, hsymbol]
    · rw [hword, classifyWord_of_marks hmark]
  rw [List.append_nil] at hlexed
  exact hlexed

/-- A numeral up to the end of a region is one token, plain text. -/
theorem Lexed.of_numeral {word : List Char} {n : Numeral} (h : Numeral.read? word = some n)
    (offset : Nat) : Lexed.of .predicate offset word =
      .token ⟨.literal, word, offset⟩ (.eof (offset + word.length)) := by
  have hne : word ≠ [] := by
    rintro rfl
    cases h
  exact Lexed.of_marks hne (Numeral.isMark_of_read? h) offset

/-! ## No other spellings -/

namespace Lexer

variable {l l' : Lexer} {t : Token} {op : Operator}

theorem takeWord_ends (cs : List Char) : endsWord (takeWord cs).2 = true := by
  by_cases hnil : (takeWord cs).2 = []
  · rw [hnil]
    rfl
  · exact (takeUntil_spec endsWord cs).2.1 hnil

theorem takeNextWord?_gap {cs gap word rest : List Char}
    (h : takeNextWord? cs = some (gap, word, rest)) : Gap gap ∧ endsWord rest = true := by
  unfold takeNextWord? at h
  dsimp only at h
  split at h
  · cases h
  · rename_i hne
    cases h
    exact ⟨⟨by simpa using hne, fun c hc => List.mem_takeWhile_imp hc⟩, takeWord_ends _⟩

theorem takeWith?_spells {cs taken rest : List Char} (h : takeWith? cs = some (taken, rest)) :
    ∃ gap, Gap gap ∧ taken = gap ++ "with".toList ∧ endsWord rest = true := by
  obtain ⟨⟨gap, word, r⟩, hw, h⟩ := Option.bind_eq_some_iff.1 h
  obtain ⟨hg, hend⟩ := takeNextWord?_gap hw
  dsimp only at h
  split at h
  · rename_i hwith
    cases h
    exact ⟨gap, hg, by rw [hwith], hend⟩
  · cases h

theorem takeNegated?_spells {cs taken rest : List Char} {c : Comparison}
    (h : takeNegated? cs = some (c, taken, rest)) :
    ∃ gap words, Gap gap ∧ c.Words words ∧ taken = gap ++ words ∧ endsWord rest = true := by
  obtain ⟨⟨gap, word, r⟩, hw, h⟩ := Option.bind_eq_some_iff.1 h
  obtain ⟨hg, hend⟩ := takeNextWord?_gap hw
  dsimp only at h
  split at h
  · rename_i hedge
    obtain ⟨⟨taken', r'⟩, ht, h⟩ := Option.map_eq_some_iff.1 h
    cases h
    obtain ⟨gap', hg', rfl, hend'⟩ := takeWith?_spells ht
    exact ⟨gap, _, hg, .edge hedge hg', by simp, hend'⟩
  · obtain ⟨c', hc, h⟩ := Option.map_eq_some_iff.1 h
    cases h
    exact ⟨gap, word, hg, .keyword hc, rfl, hend⟩

/-- What a bare word is classified as has a spelling in words, unless it is plain text, and ends where words
end. -/
theorem classifyWord_inWords {word rest text rest' : List Char} {k : Token.Kind}
    (h : classifyWord word rest = (k, text, rest')) (hend : endsWord rest = true) :
    (k = .literal ∨ k.InWords text) ∧ endsWord rest' = true := by
  unfold classifyWord at h
  split at h
  · rename_i hand
    cases h
    exact ⟨.inr (hand ▸ .and), hend⟩
  · split at h
    · rename_i hor
      cases h
      exact ⟨.inr (hor ▸ .or), hend⟩
    · split at h
      · rename_i hnot
        split at h
        · rename_i hn
          cases h
          obtain ⟨gap, words, hg, hw, rfl, hend'⟩ := takeNegated?_spells hn
          rw [hnot, ← List.append_assoc]
          exact ⟨.inr (.negation hw hg), hend'⟩
        · cases h
          exact ⟨.inl rfl, hend⟩
      · split at h
        · rename_i hedge
          split at h
          · rename_i hw
            cases h
            obtain ⟨gap, hg, rfl, hend'⟩ := takeWith?_spells hw
            rw [← List.append_assoc]
            exact ⟨.inr (.comparison (.edge hedge hg)), hend'⟩
          · cases h
            exact ⟨.inl rfl, hend⟩
        · dsimp only at h
          split at h
          · rename_i hc
            cases h
            split at hc
            · exact ⟨.inr (.negatedKeyword hc), hend⟩
            · exact ⟨.inr (.comparison (.keyword hc)), hend⟩
          · cases h
            exact ⟨.inl rfl, hend⟩

end Lexer

end RouteExpr
