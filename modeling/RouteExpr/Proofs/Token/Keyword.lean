/-
Words and symbols among the tokens of a predicate.

A bare word goes on up to the end of the text, a blank, a quote or a marker, and is looked up whole together
with the words behind it that may complete an operator. So no two words stand side by side, no keyword is found
inside a longer word, and whatever is spelled like a keyword is one. A symbol needs nothing behind it and is
the longest that stands where it begins.
-/
import RouteExpr.Proofs.Text.Find
import RouteExpr.Proofs.Token.Layout
import RouteExpr.Proofs.Token.Suffix

namespace RouteExpr

open Lexer

/-! ## Where words end -/

/-- The texts that end a bare word in front of them. -/
inductive WordEnds : List Char → Prop
  | eof : WordEnds []
  | blank {c : Char} (hc : Text.isBlank c = true) (cs : List Char) : WordEnds (c :: cs)
  | quote (q : Quote) (cs : List Char) : WordEnds (q.toChar :: cs)
  | marker (m : Marker) (cs : List Char) : WordEnds (m.chars ++ cs)

theorem endsWord_iff {cs : List Char} : endsWord cs = true ↔ WordEnds cs := by
  constructor
  · intro h
    rcases cs with _ | ⟨c, cs⟩
    · exact .eof
    · simp only [endsWord, Bool.or_eq_true, Option.isSome_iff_exists] at h
      rcases h with (hc | ⟨q, hq⟩) | hm
      · exact .blank hc cs
      · rw [quote?_eq_some hq]
        exact .quote q cs
      · obtain ⟨m, rest, hrest⟩ := startsMarker_iff.1 hm
        rw [← hrest]
        exact .marker m rest
  · rintro (_ | ⟨hc, _⟩ | ⟨q, cs⟩ | ⟨m, cs⟩)
    · rfl
    · simp [endsWord, hc]
    · exact endsWord_quote q cs
    · exact endsWord_chars m cs

/-! ## Words and symbols -/

namespace Token

variable {t : Token}

/-- Whether the text of a token ends in a letter. -/
def EndsInLetter (t : Token) : Prop :=
  ∃ c ∈ t.text.getLast?, c.isAlpha = true

/-- Whether a token is a connective or an operator. -/
def Relates (t : Token) : Prop :=
  (∃ c, t.kind = .connective c) ∨ ∃ op, t.kind = .operator op

/-- Whether a token is a word: plain text, or a connective or an operator whose spelling ends in a letter. -/
def IsWord (t : Token) : Prop :=
  t.kind = .literal ∨ t.Relates ∧ t.EndsInLetter

/-- Whether a token is a symbol: any other connective or operator. -/
def IsSymbol (t : Token) : Prop :=
  t.Relates ∧ ¬ t.EndsInLetter

theorem IsWord.ne_eof (h : t.IsWord) : t.kind ≠ .eof := by
  rcases h with hk | ⟨⟨_, hk⟩ | ⟨_, hk⟩, -⟩ <;> rw [hk] <;> nofun

end Token

/-- The last of words ends in a letter. -/
theorem Comparison.Words.endsInLetter {c : Comparison} {words : List Char} (h : c.Words words) :
    ∃ d ∈ words.getLast?, d.isAlpha = true := by
  cases h with
  | keyword h =>
    have hletter : ∀ w ∈ ["contains".toList, "in".toList, "regex".toList, "is".toList, "range".toList,
        "startsWith".toList, "endsWith".toList], ∃ d ∈ w.getLast?, d.isAlpha = true := by simp
    exact hletter _ (keyword_cases h)
  | edge h hg => exact ⟨'h', List.mem_getLast?_append_of_mem_getLast? rfl, rfl⟩

theorem Token.Kind.InWords.endsInLetter {k : Token.Kind} {words : List Char} (h : k.InWords words) :
    ∃ d ∈ words.getLast?, d.isAlpha = true := by
  cases h with
  | and => exact ⟨'d', rfl, rfl⟩
  | or => exact ⟨'r', rfl, rfl⟩
  | comparison h => exact h.endsInLetter
  | negation h hg =>
    obtain ⟨d, hd, hletter⟩ := h.endsInLetter
    exact ⟨d, List.mem_getLast?_append_of_mem_getLast? hd, hletter⟩
  | negatedKeyword h =>
    obtain ⟨d, hd, hletter⟩ := (Comparison.Words.keyword h).endsInLetter
    exact ⟨d, List.mem_getLast?_cons hd, hletter⟩

namespace Lexer

variable {l l' : Lexer} {t u : Token} {cs text rest : List Char} {k : Token.Kind}

/-- No symbol begins with one that comes before it. -/
theorem symbols_pairwise : symbols.Pairwise fun a b => ¬ a.1.toList <+: b.1.toList := by
  simp [symbols]

theorem symbols_not_letter {s : String} (h : (s, k) ∈ symbols) : ¬ ∃ d ∈ s.toList.getLast?, d.isAlpha = true := by
  simp only [symbols, List.mem_cons, Prod.mk.injEq, List.not_mem_nil, or_false] at h
  rcases h with ⟨rfl, -⟩ | ⟨rfl, -⟩ | ⟨rfl, -⟩ | ⟨rfl, -⟩ | ⟨rfl, -⟩ | ⟨rfl, -⟩ | ⟨rfl, -⟩ | ⟨rfl, -⟩ |
    ⟨rfl, -⟩ | ⟨rfl, -⟩ | ⟨rfl, -⟩ | ⟨rfl, -⟩ <;> simp

/-- The symbol that is taken is the longest of those that the text begins with. -/
theorem takeSymbol?_longest (h : takeSymbol? cs = some (k, text, rest)) :
    (∃ s, (s, k) ∈ symbols ∧ text = s.toList) ∧
      ∀ entry ∈ symbols, entry.1.toList <+: cs → entry.1.toList <+: text := by
  unfold takeSymbol? at h
  obtain ⟨before, ⟨s, kind⟩, after, hsymbols, hs, hbefore⟩ := List.findSome?_eq_some_iff.1 h
  obtain ⟨_, hr, heq⟩ := Option.map_eq_some_iff.1 hs
  cases heq
  have hcs : s.toList <+: cs := ⟨_, (Text.afterStart?_eq_some hr).symm⟩
  have hpairwise := symbols_pairwise
  rw [hsymbols, List.pairwise_append, List.pairwise_cons] at hpairwise
  refine ⟨⟨s, by simp [hsymbols], rfl⟩, fun entry hentry hentrycs => ?_⟩
  rw [hsymbols, List.mem_append, List.mem_cons] at hentry
  rcases hentry with hentry | rfl | hentry
  · -- those before it were tried
    have hnone := Option.map_eq_none_iff.1 (hbefore entry hentry)
    rw [Text.afterStart?_eq, if_pos (List.isPrefixOf_iff_prefix.2 hentrycs)] at hnone
    cases hnone
  · exact List.prefix_rfl
  · rcases List.prefix_or_prefix_of_prefix hentrycs hcs with hshort | hlong
    · exact hshort
    · exact absurd hlong (hpairwise.2.1.1 entry hentry)

/-! ## One token -/

/-- A token that is plain text, a connective or an operator is a symbol that was taken or a word that was
classified, and stands where no word ends. -/
theorem scan_symbol_or_word (h : l.scan = .ok (t, l')) (hmode : l.mode = .predicate)
    (ht : t.kind = .literal ∨ t.Relates) :
    endsWord l.rest = false ∧ (takeSymbol? l.rest = some (t.kind, t.text, l'.rest) ∨
      classifyWord (takeWord l.rest).1 (takeWord l.rest).2 = (t.kind, t.text, l'.rest)) := by
  generalize hr : (t, l') = r at h
  cases cuts_of_scan h with
  | symbol _ hplain _ _ hs =>
    cases hr
    exact ⟨hplain, .inl hs⟩
  | word _ hplain _ _ _ hw =>
    cases hr
    exact ⟨hplain, .inr hw⟩
  | text hm => rw [hmode] at hm; cases hm
  | plain hm => rw [hmode] at hm; cases hm
  | _ =>
    cases hr
    rcases ht with hk | ⟨_, hk⟩ | ⟨_, hk⟩ <;> cases hk

theorem scan_word (h : l.scan = .ok (t, l')) (hmode : l.mode = .predicate) (ht : t.IsWord) :
    endsWord l.rest = false ∧
      classifyWord (takeWord l.rest).1 (takeWord l.rest).2 = (t.kind, t.text, l'.rest) := by
  obtain ⟨hplain, hs | hw⟩ := scan_symbol_or_word h hmode (ht.imp_right And.left)
  · exfalso
    obtain ⟨⟨s, hmem, htext⟩, -⟩ := takeSymbol?_longest hs
    rcases ht with hk | ⟨-, hletter⟩
    · rcases (takeSymbol?_eq_some hs).2.2 with ⟨_, hk'⟩ | ⟨_, hk'⟩ <;> rw [hk] at hk' <;> cases hk'
    · rw [Token.EndsInLetter, htext] at hletter
      exact symbols_not_letter hmem hletter
  · exact ⟨hplain, hw⟩

theorem scan_symbol (h : l.scan = .ok (t, l')) (hmode : l.mode = .predicate) (ht : t.IsSymbol) :
    takeSymbol? l.rest = some (t.kind, t.text, l'.rest) := by
  obtain ⟨hrelates, hletter⟩ := ht
  obtain ⟨-, hs | hw⟩ := scan_symbol_or_word h hmode (.inr hrelates)
  · exact hs
  · exfalso
    rcases (classifyWord_inWords hw (takeWord_ends _)).1 with hk | hwords
    · rcases hrelates with ⟨_, hk'⟩ | ⟨_, hk'⟩ <;> rw [hk] at hk' <;> cases hk'
    · exact hletter hwords.endsInLetter

end Lexer

/-! ## Tokens of a text -/

namespace Token

/-- A word stands whole in a text, in front of the token `next`. It is plain text exactly where no keyword
stands whole, and otherwise it is the keyword; `not`, `starts` and `ends` are keywords with the words that
complete them only. -/
structure IsWhole (text : List Char) (t : Token) (next : Option Token) : Prop where
  covers : text.drop t.start = t.text ++ text.drop t.stop
  ends : WordEnds (text.drop t.stop)
  apart : ∀ u ∈ next, ¬ u.IsWord
  literal_iff : t.kind = .literal ↔ ¬ ∃ k words rest, Kind.InWords k words ∧
    text.drop t.start = words ++ rest ∧ WordEnds rest
  keyword : t.kind ≠ .literal → t.kind.InWords t.text
  not_keyword : t.kind = .literal → ∀ k, ¬ Kind.InWords k t.text

/-- A token is one of the symbols, and no symbol that stands in the text where it does is longer. -/
structure IsLongest (text : List Char) (t : Token) : Prop where
  covers : text.drop t.start = t.text ++ text.drop t.stop
  symbol : ∃ s, (s, t.kind) ∈ symbols ∧ t.text = s.toList
  longest : ∀ entry ∈ symbols, entry.1.toList <+: text.drop t.start → entry.1.toList <+: t.text

end Token

open Token

section Tokens

variable {text : List Char} {l l' : Lexer} {t : Token} {ts : List Token}

/-- What stands where a lexer of a text takes a token that nothing delimits. -/
theorem Lexer.Within.covers (hl : Within .predicate 0 text l) (hl' : Within .predicate 0 text l')
    (h : l.scan = .ok (t, l')) (ht : t.kind = .literal ∨ t.Relates) :
    text.drop t.start = l.rest ∧ text.drop t.stop = l'.rest ∧ l.rest = t.text ++ l'.rest := by
  have htakes := scan_takes h
  have hraw : t.raw = t.text := by
    rcases ht with hk | ⟨_, hk⟩ | ⟨_, hk⟩ <;> simp [Token.raw, hk, Token.Kind.opening, Token.Kind.closing]
  refine ⟨?_, ?_, ?_⟩
  · rw [htakes.start, hl.rest, Nat.sub_zero]
  · rw [← htakes.position, hl'.rest, Nat.sub_zero]
  · rw [htakes.rest, hraw]

theorem Lexer.Within.isWhole (hl : Within .predicate 0 text l) (hl' : Within .predicate 0 text l')
    (h : l.scan = .ok (t, l')) (ht : t.IsWord) (hts : l'.lexed.toTokensEof = .ok ts) :
    t.IsWhole text ts.head? := by
  obtain ⟨hstart, hstop, hrest⟩ := hl.covers hl' h (ht.imp_right And.left)
  obtain ⟨-, hclass⟩ := scan_word h hl.mode_eq ht
  obtain ⟨hwords, hends⟩ := classifyWord_inWords hclass (takeWord_ends _)
  -- words that stand there whole are what is classified
  have hkind {k : Token.Kind} {words rest : List Char} (hk : k.InWords words)
      (heq : l.rest = words ++ rest) (hrest : WordEnds rest) : k = t.kind := by
    have hk := hk.classifyWord (endsWord_iff.2 hrest)
    rw [← heq, hclass] at hk
    exact (Prod.mk.inj hk).1.symm
  have hcovers : text.drop t.start = t.text ++ text.drop t.stop := by rw [hstart, hstop, hrest]
  have hend : WordEnds (text.drop t.stop) := by
    rw [hstop]
    exact endsWord_iff.1 hends
  have hliteral : t.kind = .literal → ∀ k words rest, Kind.InWords k words →
      text.drop t.start = words ++ rest → ¬ WordEnds rest := by
    intro hlit k words rest hk heq hr
    have hsame := hkind hk (hstart ▸ heq) hr
    rw [hlit] at hsame
    rcases hk.isToken with ⟨_, hk⟩ | ⟨_, hk⟩ <;> rw [hk] at hsame <;> cases hsame
  refine ⟨hcovers, hend, ?_, ⟨?_, ?_⟩, fun hne => hwords.resolve_left hne, ?_⟩
  · intro u hu hword
    obtain ⟨us, rfl⟩ := List.head?_eq_some_iff.1 hu
    obtain ⟨m, hscan, -, -⟩ := exists_scan_of_toTokensEof hl'.peeked hts
    rw [(scan_word hscan hl'.mode_eq hword).1] at hends
    cases hends
  · rintro hlit ⟨k, words, rest, hk, heq, hr⟩
    exact hliteral hlit k words rest hk heq hr
  · intro hno
    by_contra hne
    exact hno ⟨_, _, _, hwords.resolve_left hne, hcovers, hend⟩
  · intro hlit k hk
    exact hliteral hlit k _ _ hk hcovers hend

theorem Lexer.Within.isLongest (hl : Within .predicate 0 text l) (hl' : Within .predicate 0 text l')
    (h : l.scan = .ok (t, l')) (ht : t.IsSymbol) : t.IsLongest text := by
  obtain ⟨hstart, hstop, hrest⟩ := hl.covers hl' h (.inr ht.1)
  obtain ⟨hsymbol, hlongest⟩ := takeSymbol?_longest (scan_symbol h hl.mode_eq ht)
  refine ⟨by rw [hstart, hstop, hrest], hsymbol, fun entry hentry hstands => ?_⟩
  exact hlongest entry hentry (hstart ▸ hstands)

end Tokens

/-- Words are whole and symbols are maximal among the tokens of a predicate. -/
theorem words_and_symbols {text : List Char} {front ts : List Token} {t : Token}
    (h : tokenize .predicate text = .ok (front ++ t :: ts)) :
    (t.IsWord → t.IsWhole text ts.head?) ∧ (t.IsSymbol → t.IsLongest text) := by
  obtain ⟨l, l', -, hl, hscan, hl', hts⟩ := exists_takesAll_of_toTokensEof (within_start _ 0 text) h
  constructor
  · exact fun ht => hl.isWhole hl' hscan ht (hts ht.ne_eof)
  · exact hl.isLongest hl' hscan

/-- A `not` in front of no keyword is plain text, and a symbol goes up to the keyword behind it. -/
theorem words_and_symbols_not :
    let text := "not inx >=in".toList
    let word : Token := ⟨.literal, "not".toList, 0⟩
    let symbol : Token := ⟨.operator ⟨.greaterEqual, false⟩, ['>', '='], 8⟩
    tokenize .predicate text = .ok [word, ⟨.blank, [' '], 3⟩, ⟨.literal, "inx".toList, 4⟩,
        ⟨.blank, [' '], 7⟩, symbol, ⟨.operator ⟨.member, false⟩, "in".toList, 10⟩, ⟨.eof, [], 12⟩] ∧
      (word.IsWord ∧ word.IsWhole text (some ⟨.blank, [' '], 3⟩)) ∧
      symbol.IsSymbol ∧ symbol.IsLongest text := by
  intro text word symbol
  have htokens : tokenize .predicate text = .ok [word, ⟨.blank, [' '], 3⟩, ⟨.literal, "inx".toList, 4⟩,
      ⟨.blank, [' '], 7⟩, symbol, ⟨.operator ⟨.member, false⟩, "in".toList, 10⟩, ⟨.eof, [], 12⟩] := rfl
  have hword : word.IsWord := .inl rfl
  have hsymbol : symbol.IsSymbol := ⟨.inr ⟨_, rfl⟩, by simp [Token.EndsInLetter, symbol]⟩
  have hfront := @words_and_symbols text [word, ⟨.blank, [' '], 3⟩, ⟨.literal, "inx".toList, 4⟩,
    ⟨.blank, [' '], 7⟩] _ symbol htokens
  exact ⟨htokens, ⟨hword, (@words_and_symbols text [] _ word htokens).1 hword⟩, hsymbol, hfront.2 hsymbol⟩

end RouteExpr
