/-
A predicate that goes on behind a blank has the tokens that it has alone, up to the blanks at its
end.

Most tokens end at a blank or before it. The words `not`, `starts` and `ends` look past blanks at
the next word, so where one of them stands alone, what goes on must not start with a word that it
takes up.
-/
import RouteExpr.Proofs.Token.Scan
import Mathlib.Data.List.TakeWhile

namespace RouteExpr

open Lexer

namespace Lexer

/-! ## Texts behind a blank -/

/-- A text that starts with a blank. -/
structure StartsBlank (tail : List Char) : Prop where
  starts : ∃ c cs, tail = c :: cs ∧ Text.isBlank c = true

/-- A text behind a blank whose first word no word before it takes up. -/
structure Apart (tail : List Char) : Prop extends StartsBlank tail where
  not_with : (takeWord (tail.dropWhile Text.isBlank)).1 ≠ "with".toList
  not_edge : edge? (takeWord (tail.dropWhile Text.isBlank)).1 = none
  not_keyword : Comparison.ofKeyword? (String.ofList (takeWord (tail.dropWhile Text.isBlank)).1) = none

variable {tail : List Char}

theorem StartsBlank.markerAt? (ht : StartsBlank tail) (cs : List Char) :
    Lexer.markerAt? (cs ++ tail) = Lexer.markerAt? cs := by
  obtain ⟨c, rest, rfl, hc⟩ := ht.starts
  exact markerAt?_append_of_not_holds (not_holds_of_isBlank hc)

theorem StartsBlank.takeWord (ht : StartsBlank tail) (cs : List Char) :
    Lexer.takeWord (cs ++ tail) = ((Lexer.takeWord cs).1, (Lexer.takeWord cs).2 ++ tail) := by
  unfold Lexer.takeWord
  induction cs with
  | nil =>
    obtain ⟨c, rest, rfl, hc⟩ := ht.starts
    simp [takeUntil, endsWord, hc]
  | cons c cs ih =>
    have hends : endsWord (c :: cs ++ tail) = endsWord (c :: cs) := by
      rw [List.cons_append, endsWord, endsWord, ← List.cons_append, startsMarker, ht.markerAt?]
      rfl
    rw [List.cons_append] at hends ⊢
    rw [takeUntil, takeUntil, hends, ih]
    split <;> rfl

/-! ## Words behind blanks -/

/-- What is taken and what is left, where the text goes on. -/
def withRest {α : Type} (tail : List Char) (p : α × List Char) : α × List Char :=
  (p.1, p.2 ++ tail)

theorem StartsBlank.takeNextWord? (ht : StartsBlank tail) {cs : List Char}
    (h : cs.dropWhile Text.isBlank ≠ []) :
    Lexer.takeNextWord? (cs ++ tail) =
      (Lexer.takeNextWord? cs).map fun (blanks, word, rest) => (blanks, word, rest ++ tail) := by
  unfold Lexer.takeNextWord?
  rw [(blanks_append tail h).1, (blanks_append tail h).2, ht.takeWord]
  dsimp only
  split <;> rfl

/-- Behind blanks alone, the next word is that of the text that follows. -/
theorem StartsBlank.takeNextWord?_blank (ht : StartsBlank tail) {cs : List Char}
    (h : cs.dropWhile Text.isBlank = []) :
    ∃ blanks rest, Lexer.takeNextWord? (cs ++ tail) =
      some (blanks, (Lexer.takeWord (tail.dropWhile Text.isBlank)).1, rest) := by
  have hne : cs ++ tail.takeWhile Text.isBlank ≠ [] := by
    obtain ⟨c, rest, rfl, hc⟩ := ht.starts
    simp [hc]
  unfold Lexer.takeNextWord?
  rw [(blanks_append_of_blank tail h).1, (blanks_append_of_blank tail h).2]
  simp only [List.isEmpty_iff, if_neg hne]
  exact ⟨_, _, rfl⟩

/-- Behind blanks alone there is no next word. -/
theorem takeNextWord?_of_blank {cs : List Char} (h : cs.dropWhile Text.isBlank = []) :
    takeNextWord? cs = none ∨ ∃ blanks, takeNextWord? cs = some (blanks, [], []) := by
  unfold takeNextWord?
  rw [h]
  dsimp only
  split
  · exact .inl rfl
  · exact .inr ⟨_, rfl⟩

section NoWith

variable (ht : StartsBlank tail)
  (hw : (Lexer.takeWord (tail.dropWhile Text.isBlank)).1 ≠ "with".toList)

include ht hw

theorem StartsBlank.takeWith? (cs : List Char) :
    Lexer.takeWith? (cs ++ tail) = (Lexer.takeWith? cs).map (withRest tail) := by
  unfold Lexer.takeWith?
  by_cases h : cs.dropWhile Text.isBlank = []
  · -- the next word is the first of the tail, which is not `with`
    obtain ⟨blanks, rest, hnext⟩ := ht.takeNextWord?_blank h
    rw [hnext, Option.bind_some]
    dsimp only
    rw [if_neg hw]
    rcases takeNextWord?_of_blank h with hn | ⟨blanks, hn⟩ <;> rw [hn] <;> rfl
  · rw [ht.takeNextWord? h]
    rcases Lexer.takeNextWord? cs with _ | ⟨blanks, word, rest⟩
    · rfl
    · simp only [Option.map_some, Option.bind_some]
      split <;> rfl

theorem StartsBlank.takeNegated? {cs : List Char} (h : cs.dropWhile Text.isBlank ≠ []) :
    Lexer.takeNegated? (cs ++ tail) =
      (Lexer.takeNegated? cs).map fun (c, taken, rest) => (c, taken, rest ++ tail) := by
  unfold Lexer.takeNegated?
  rw [ht.takeNextWord? h]
  rcases Lexer.takeNextWord? cs with _ | ⟨blanks, word, rest⟩
  · rfl
  · simp only [Option.map_some, Option.bind_some, ht.takeWith? hw]
    cases edge? word with
    | some c => rcases Lexer.takeWith? rest with _ | ⟨taken, rest⟩ <;> rfl
    | none => rcases Comparison.ofKeyword? (String.ofList word) with _ | c <;> rfl

/-- Only a `not` behind which the text ends can take up what the text goes on with. -/
theorem StartsBlank.classifyWord {word rest : List Char}
    (hnot : word = "not".toList → Lexer.takeNegated? (rest ++ tail) =
      (Lexer.takeNegated? rest).map fun (c, taken, rest) => (c, taken, rest ++ tail)) :
    Lexer.classifyWord word (rest ++ tail) =
      ((Lexer.classifyWord word rest).1, withRest tail (Lexer.classifyWord word rest).2) := by
  unfold Lexer.classifyWord
  rw [ht.takeWith? hw]
  by_cases hn : word = "not".toList
  · rw [hnot hn]
    rcases Lexer.takeNegated? rest with _ | ⟨c, taken, rest'⟩ <;>
      simp only [if_pos hn, Option.map_none, Option.map_some] <;>
      repeat' (first | rfl | split)
  · simp only [if_neg hn]
    rcases Lexer.takeWith? rest with _ | ⟨taken, rest'⟩ <;>
      simp only [Option.map_none, Option.map_some] <;>
      repeat' (first | rfl | split)

end NoWith

theorem Apart.takeNegated? (ht : Apart tail) (cs : List Char) :
    Lexer.takeNegated? (cs ++ tail) =
      (Lexer.takeNegated? cs).map fun (c, taken, rest) => (c, taken, rest ++ tail) := by
  by_cases h : cs.dropWhile Text.isBlank = []
  · -- the next word is the first of the tail, which starts no operator
    obtain ⟨blanks, rest, hw⟩ := ht.takeNextWord?_blank h
    unfold Lexer.takeNegated?
    rw [hw, Option.bind_some]
    dsimp only
    rw [ht.not_edge]
    dsimp only
    rw [ht.not_keyword]
    rcases takeNextWord?_of_blank h with hn | ⟨blanks, hn⟩ <;> rw [hn] <;> rfl
  · exact ht.toStartsBlank.takeNegated? ht.not_with h

theorem Apart.classifyWord (ht : Apart tail) (word rest : List Char) :
    Lexer.classifyWord word (rest ++ tail) =
      ((Lexer.classifyWord word rest).1, withRest tail (Lexer.classifyWord word rest).2) :=
  ht.toStartsBlank.classifyWord ht.not_with fun _ => ht.takeNegated? rest

/-- A token of a word that is the same when the text goes on. -/
def Stays (tail : List Char) (t : Token) : Prop :=
  ∀ word rest rest', classifyWord word rest = (t.kind, t.text, rest') →
    classifyWord word (rest ++ tail) = (t.kind, t.text, rest' ++ tail)

theorem Apart.stays (ht : Apart tail) (t : Token) : Stays tail t := by
  intro word rest rest' h
  rw [ht.classifyWord, h]
  rfl

/-- A word that looks at no other word is the same token whatever follows. -/
theorem classifyWord_alone {word : List Char} (hnot : word ≠ "not".toList)
    (hedge : edge? word = none) : ∃ k, ∀ rest, classifyWord word rest = (k, word, rest) := by
  unfold Lexer.classifyWord
  simp only [if_neg hnot, hedge]
  by_cases hand : word = "and".toList
  · exact ⟨_, fun rest => if_pos hand⟩
  by_cases hor : word = "or".toList
  · exact ⟨_, fun rest => by rw [if_neg hand, if_pos hor]⟩
  simp only [if_neg hand, if_neg hor]
  cases Comparison.ofKeyword? (String.ofList _) with
  | some c => exact ⟨_, fun rest => rfl⟩
  | none => exact ⟨_, fun rest => rfl⟩

/-- Tokens that are not made of words stay, and so does a word that looks at no other word. -/
theorem stays_of_literal {t : Token} (hop : ∀ op, t.kind ≠ .operator op)
    (hc : ∀ c, t.kind ≠ .connective c)
    (hword : t.kind = .literal → t.text ≠ "not".toList ∧ edge? t.text = none) : Stays tail t := by
  intro word rest rest' h
  rcases (classifyWord_spec h).2.2 with ⟨hk, htext⟩ | ⟨c, hk⟩ | ⟨op, hk⟩
  · obtain ⟨hnot, hedge⟩ := hword hk
    rw [htext] at hnot hedge
    obtain ⟨k, hk⟩ := classifyWord_alone hnot hedge
    rw [hk] at h ⊢
    cases h
    rfl
  · exact absurd hk (hc c)
  · exact absurd hk (hop op)

/-! ## Symbols -/

theorem afterStart?_append {p cs rest : List Char} {c : Char} (hc : c ∉ p) :
    Text.afterStart? p (cs ++ c :: rest) = (Text.afterStart? p cs).map (· ++ c :: rest) := by
  induction p generalizing cs with
  | nil => rfl
  | cons d p ih =>
    have hd : d ≠ c := fun h => hc (by rw [h]; exact List.mem_cons_self)
    cases cs with
    | nil => simp [Text.afterStart?, hd]
    | cons e cs =>
      rw [List.cons_append, Text.afterStart?, Text.afterStart?, ih fun h => hc (List.mem_cons_of_mem d h)]
      split <;> rfl

theorem takeSymbol?_append (cs rest : List Char) {c : Char} (hc : Text.isBlank c = true) :
    takeSymbol? (cs ++ c :: rest) =
      (takeSymbol? cs).map fun (kind, text, rest') => (kind, text, rest' ++ c :: rest) := by
  have plain : ∀ entry ∈ symbols, ∀ d ∈ entry.1.toList, Text.isBlank d = false := by
    simp [symbols, Text.isBlank]
  unfold takeSymbol?
  generalize symbols = entries at plain
  induction entries with
  | nil => rfl
  | cons entry entries ih =>
    obtain ⟨symbol, kind⟩ := entry
    have hsymbol : c ∉ symbol.toList := fun h => by
      rw [plain _ List.mem_cons_self c h] at hc; cases hc
    rw [List.findSome?_cons, List.findSome?_cons, ih fun e he => plain e (List.mem_cons_of_mem _ he)]
    dsimp only
    rw [afterStart?_append hsymbol]
    cases Text.afterStart? symbol.toList cs <;> rfl

/-! ## One token -/

/-- The lexer with more text behind what is left. -/
def extend (tail : List Char) (l : Lexer) : Lexer :=
  { l with rest := l.rest ++ tail }

variable {l l' : Lexer} {t : Token}

theorem ofSymbol?_eq_none {cs : List Char} (h : ∃ c ∈ cs, c ≠ '+' ∧ c ≠ '-') :
    Step.ofSymbol? (String.ofList cs) = none := by
  obtain ⟨c, hc, hp, hm⟩ := h
  cases hs : Step.ofSymbol? (String.ofList cs) with
  | none => rfl
  | some s =>
    rcases ofSymbol?_eq_some hs with rfl | rfl
    · simp [hp] at hc
    · simp [hm] at hc

theorem StartsBlank.suffix? (ht : StartsBlank tail) : (l.extend tail).suffix? = l.suffix? := by
  obtain ⟨c, rest, rfl, hc⟩ := ht.starts
  have hne : c ≠ '+' ∧ c ≠ '-' := by
    constructor <;> rintro rfl <;> cases hc
  have hsymbol : Step.ofSymbol? (String.ofList ((l.rest ++ c :: rest).take 2)) =
      Step.ofSymbol? (String.ofList (l.rest.take 2)) := by
    rcases l.rest with _ | ⟨d, _ | ⟨e, more⟩⟩
    · exact ofSymbol?_eq_none ⟨c, by simp, hne⟩
    · refine (ofSymbol?_eq_none ⟨c, by simp, hne⟩).trans ?_
      cases hs : Step.ofSymbol? (String.ofList ([d].take 2)) with
      | none => rfl
      | some s => rcases ofSymbol?_eq_some hs with h | h <;> cases h
    · rfl
  unfold Lexer.suffix?
  show (if l.afterPlaceholder && l.mode ≠ .function then _ else none) = _
  rw [← hsymbol]
  rfl

theorem StartsBlank.endsWord (ht : StartsBlank tail) {cs : List Char} (h : endsWord cs = false) :
    Lexer.endsWord (cs ++ tail) = false := by
  obtain ⟨c, cs, rfl⟩ := List.exists_cons_of_ne_nil (ne_nil_of_endsWord h)
  rw [List.cons_append, Lexer.endsWord, ← List.cons_append, startsMarker, ht.markerAt?]
  exact h

theorem StartsBlank.takeSymbol? (ht : StartsBlank tail) (cs : List Char) :
    Lexer.takeSymbol? (cs ++ tail) =
      (Lexer.takeSymbol? cs).map fun (kind, text, rest) => (kind, text, rest ++ tail) := by
  obtain ⟨c, more, rfl, hc⟩ := ht.starts
  exact takeSymbol?_append cs more hc

/-- Where a word is cut off, it is still the one that is cut off when the text goes on, with the words
that it takes up then. -/
theorem scan_extend_word {k : Token.Kind} {text rest : List Char} (ht : StartsBlank tail)
    (hm : l.mode = .predicate) (hend : Lexer.endsWord l.rest = false)
    (hbrace : l.rest.head? ≠ some '\x7d') (hs : l.suffix? = none)
    (htake : Lexer.takeSymbol? l.rest = none)
    (hclass : Lexer.classifyWord (Lexer.takeWord l.rest).1 ((Lexer.takeWord l.rest).2 ++ tail) =
      (k, text, rest)) :
    (l.extend tail).scan = .ok ((l.extend tail).emit k text rest) := by
  refine scan_of_cuts (.word hm (ht.endsWord hend) ?_ (ht.suffix?.trans hs) ?_ ?_)
  · rwa [extend, List.head?_append_of_ne_nil _ (ne_nil_of_endsWord hend)]
  · rw [extend, ht.takeSymbol?, htake]
    rfl
  · rwa [extend, ht.takeWord]

/-- A token is the same when the text goes on, unless it is the blanks at the end. -/
theorem scan_extend (ht : StartsBlank tail) (hm : l.mode = .predicate) (h : l.scan = .ok (t, l'))
    (hk : t.kind ≠ .eof) (hb : t.kind = .blank → l'.rest ≠ [])
    (hstays : ∀ rest, Lexer.classifyWord (Lexer.takeWord l.rest).1 (Lexer.takeWord l.rest).2 =
        (t.kind, t.text, rest) →
      Lexer.classifyWord (Lexer.takeWord l.rest).1 ((Lexer.takeWord l.rest).2 ++ tail) =
        (t.kind, t.text, rest ++ tail)) :
    (l.extend tail).scan = .ok (t, l'.extend tail) := by
  have hs := ht.suffix? (l := l)
  have hcons {c : Char} {cs : List Char} (hrest : l.rest = c :: cs) :
      (l.extend tail).rest = c :: (cs ++ tail) := by
    rw [extend, hrest, List.cons_append]
  generalize hr : (t, l') = r at h
  cases cuts_of_scan h with
  | eof => cases hr; exact absurd rfl hk
  | suffix hsuffix =>
    cases hr
    have htwo : 2 ≤ l.rest.length := by
      have hlen := List.length_take (i := 2) (l := l.rest)
      rcases (suffix?_eq_some hsuffix).2.2 with h | h <;>
      · rw [h] at hlen
        simp only [List.length_cons, List.length_nil] at hlen
        omega
    have hscan := scan_of_cuts (.suffix (hs.trans hsuffix))
    rw [extend, List.take_append_of_le_length htwo, List.drop_append_of_le_length htwo] at hscan
    exact hscan
  | @block m body rest hsuffix hmark hblock =>
    cases hr
    refine scan_of_cuts (.block (hs.trans hsuffix) ((ht.markerAt? _).trans hmark) ?_)
    have hlen : m.chars.length ≤ l.rest.length := by
      rw [markerAt?_eq_some hmark, List.length_append]
      omega
    rw [extend, List.drop_append_of_le_length hlen, takeBlock_append tail hblock]
  | text hmode => rw [hm] at hmode; cases hmode
  | blanks hmode hrest hsuffix hc =>
    cases hr
    obtain ⟨h1, h2⟩ := blanks_append tail (hb rfl)
    have hscan := scan_of_cuts (.blanks (l := l.extend tail) hmode (hcons hrest) (hs.trans hsuffix) hc)
    rw [takeBlanks, extend, h1, h2] at hscan
    exact hscan
  | quoted hmode hrest hsuffix hquoted =>
    cases hr
    exact scan_of_cuts (.quoted (l := l.extend tail) hmode (hcons hrest) (hs.trans hsuffix)
      (takeQuoted_append tail hquoted))
  | openParen hmode | closeParen hmode | comma hmode | plain hmode => rw [hm] at hmode; cases hmode
  | brace hmode hsuffix hrest =>
    cases hr
    exact scan_of_cuts (.brace (l := l.extend tail) hmode (hs.trans hsuffix) (hcons hrest))
  | symbol hmode hend hbrace hsuffix htake =>
    cases hr
    refine scan_of_cuts (.symbol hmode (ht.endsWord hend) ?_ (hs.trans hsuffix) ?_)
    · rwa [extend, List.head?_append_of_ne_nil _ (ne_nil_of_endsWord hend)]
    · rw [extend, ht.takeSymbol?, htake]
      rfl
  | word hmode hend hbrace hsuffix htake hclass =>
    cases hr
    exact scan_extend_word ht hmode hend hbrace hsuffix htake (hstays _ hclass)

/-- Where a blank comes next, and no suffix can stand, the blanks are a token. -/
theorem scan_of_blank {c : Char} {cs : List Char} (hm : l.mode = .predicate)
    (hs : l.suffix? = none) (hl : l.rest = c :: cs) (hc : Text.isBlank c = true) :
    l.scan = .ok l.takeBlanks :=
  scan_of_cuts (.blanks (by rw [hm]; decide) hl hs hc)

/-- Blanks at the end are taken up by those that follow. -/
theorem scan_extend_blank (ht : StartsBlank tail) (hm : l.mode = .predicate)
    (hb : l.rest.dropWhile Text.isBlank = []) :
    (l.extend tail).scan = .ok ((l.extend tail).emit .blank
      (l.rest ++ tail.takeWhile Text.isBlank) (tail.dropWhile Text.isBlank)) := by
  have hall := List.dropWhile_eq_nil_iff.1 hb
  have hs : (l.extend tail).suffix? = none := by
    rw [ht.suffix?]
    cases hs : l.suffix? with
    | none => rfl
    | some s =>
      rcases (suffix?_eq_some hs).2.2 with h | h <;>
      · have := hall _ (List.mem_of_mem_take (h ▸ List.mem_cons_self))
        cases this
  obtain ⟨c, cs, hcs, hc⟩ : ∃ c cs, l.rest ++ tail = c :: cs ∧ Text.isBlank c = true := by
    rcases hl : l.rest with _ | ⟨c, cs⟩
    · exact ht.starts
    · exact ⟨c, _, rfl, hall c (by rw [hl]; exact List.mem_cons_self)⟩
  obtain ⟨h1, h2⟩ := blanks_append_of_blank tail hb
  have hrest : (l.extend tail).rest = l.rest ++ tail := rfl
  rw [scan_of_blank (l := l.extend tail) hm hs hcs hc, takeBlanks, hrest, h1, h2]

/-- Only inside placeholders are parentheses counted. -/
theorem scan_depth (hm : l.mode = .predicate) (h : l.scan = .ok (t, l')) : l'.depth = l.depth := by
  generalize hr : (t, l') = r at h
  cases cuts_of_scan h with
  | openParen hmode | closeParen hmode => rw [hm] at hmode; cases hmode
  | _ => cases hr; rfl

end Lexer

/-! ## All tokens -/

/-- How tokens change when the text goes on behind a blank: blanks at the end are taken up by those
that follow, and then there is `more`. What becomes of a fault is left open. -/
inductive Lexed.Extends (more : Lexed) : Lexed → Lexed → Prop
  | eof (offset : Nat) : Extends more (.eof offset) more
  | blank (offset : Nat) {b : Token} (hb : b.isBlank = true) :
    Extends more (.eof offset) (.token b more)
  | blanks (offset : Nat) {b b' : Token} (hb : b.isBlank = true) (hb' : b'.isBlank = true) :
    Extends more (.token b (.eof offset)) (.token b' more)
  | token (t : Token) {l l' : Lexed} (h : Extends more l l') :
    Extends more (.token t l) (.token t l')
  | fault (f : Fault) (l : Lexed) : Extends more (.fault f) l

/-- Tokens that are the same up to a place, where the ones go on with `p` and the others with `q`. -/
inductive Lexed.Forks (p q : Lexed) : Lexed → Lexed → Prop
  | here : Forks p q p q
  | token (t : Token) {l l' : Lexed} (h : Forks p q l l') : Forks p q (.token t l) (.token t l')

theorem Lexed.Forks.mem {t : Token} {rest q l l' : Lexed} (h : Forks (.token t rest) q l l') :
    t ∈ l.tokens := by
  induction h with
  | here => exact List.mem_cons_self
  | token u _ ih => exact List.mem_cons_of_mem _ ih

namespace Lexer

variable {tail : List Char}

/-- The lexer behind a text and the blanks after it. -/
theorem emit_blank_eq_start {l : Lexer} (hm : l.mode = .predicate) (hp : l.peeked = none)
    (hd : l.depth = 0) (text rest : List Char) :
    (l.emit .blank text rest).2 = Lexer.start .predicate (l.position + text.length) rest := by
  obtain ⟨mode, position, cs, depth, after, peeked⟩ := l
  cases hm; cases hp; cases hd
  simp [emit, start, Token.stop, Token.length, Token.raw, Token.Kind.opening, Token.Kind.closing,
    Token.Kind.isPlaceholder]

/-- A step of a lexer that goes otherwise when the text goes on, and is not over blanks at its end. -/
structure Turns (tail : List Char) (l : Lexer) (t : Token) (l' : Lexer) : Prop where
  mode : l.mode = .predicate
  peeked : l.peeked = none
  depth : l.depth = 0
  scan : l.scan = .ok (t, l')
  ne_eof : t.kind ≠ .eof
  rest_ne_nil : t.kind = .blank → l'.rest ≠ []
  scan_ne : (l.extend tail).scan ≠ .ok (t, l'.extend tail)

/-- The tokens of a text that goes on behind a blank are those of the text and of what follows, or
those of the text up to a step that goes otherwise. -/
theorem lexed_extend_or (ht : StartsBlank tail) : ∀ (l : Lexer), l.mode = .predicate →
    l.peeked = none → l.depth = 0 → Lexed.Extends (Lexed.of .predicate
      (l.position + (l.rest ++ tail.takeWhile Text.isBlank).length) (tail.dropWhile Text.isBlank))
      l.lexed (l.extend tail).lexed ∨
    ∃ m t m', Turns tail m t m' ∧ m.position + m.rest.length = l.position + l.rest.length ∧
      Lexed.Forks m.lexed (m.extend tail).lexed l.lexed (l.extend tail).lexed
  | l, hm, hp, hd => by
    -- at the end, and at the blanks before it
    have atEnd (hb : l.rest.dropWhile Text.isBlank = []) :
        ∃ b : Token, b.isBlank = true ∧ (l.extend tail).lexed = .token b (Lexed.of .predicate
          (l.position + (l.rest ++ tail.takeWhile Text.isBlank).length)
          (tail.dropWhile Text.isBlank)) := by
      have hs := scan_extend_blank ht hm hb
      refine ⟨⟨.blank, l.rest ++ tail.takeWhile Text.isBlank, l.position⟩, rfl, ?_⟩
      rw [lexed_of_emit (l := l.extend tail) hp hs (by simp),
        emit_blank_eq_start (l := l.extend tail) hm hp hd]
      rfl
    rcases hs : l.scan with f | ⟨t, l'⟩
    · rw [lexed_of_error hp hs]
      exact .inl (.fault _ _)
    have htakes := scan_takes hs
    by_cases hk : t.kind = .eof
    · have hnil := htakes.eof.1 hk
      obtain ⟨b, hb, he⟩ := atEnd (by rw [hnil]; rfl)
      rw [lexed_of_nil hp hnil, he]
      exact .inl (.blank _ hb)
    have hp' := htakes.peeked.trans hp
    by_cases hblank : t.kind = .blank ∧ l'.rest = []
    · -- the last token is blanks, which become those and the blanks that follow
      obtain ⟨b, hb, he⟩ := atEnd ((scan_blank hs hblank.1).2.symm.trans hblank.2)
      rw [lexed_of_scan hp hs hk, lexed_of_nil hp' hblank.2, he]
      exact .inl (.blanks _ (by simp [Token.isBlank, hblank.1]) hb)
    have hpos : l'.position + l'.rest.length = l.position + l.rest.length := by
      rw [htakes.position, htakes.length, Token.stop, htakes.start]; omega
    by_cases hse : (l.extend tail).scan = .ok (t, l'.extend tail)
    · have hlt := htakes.length_lt hk
      rw [lexed_of_scan hp hs hk, lexed_of_scan (l := l.extend tail) hp hse hk]
      rcases lexed_extend_or ht l' (htakes.mode.trans hm) hp' ((scan_depth hm hs).trans hd) with
        ih | ⟨m, u, m', hturns, hm', hforks⟩
      · rw [List.length_append, ← Nat.add_assoc, hpos, Nat.add_assoc, ← List.length_append] at ih
        exact .inl (.token t ih)
      · exact .inr ⟨m, u, m', hturns, hm'.trans hpos, .token t hforks⟩
    · exact .inr ⟨l, t, l', ⟨hm, hp, hd, hs, hk, fun hb hn => hblank ⟨hb, hn⟩, hse⟩, rfl, .here⟩
  termination_by l => l.rest.length

theorem lexed_extend (ht : StartsBlank tail) (l : Lexer) (hm : l.mode = .predicate)
    (hp : l.peeked = none) (hd : l.depth = 0) (hstays : ∀ t ∈ l.lexed.tokens, Stays tail t) :
    Lexed.Extends (Lexed.of .predicate
      (l.position + (l.rest ++ tail.takeWhile Text.isBlank).length) (tail.dropWhile Text.isBlank))
      l.lexed (l.extend tail).lexed := by
  rcases lexed_extend_or ht l hm hp hd with h | ⟨m, t, m', hturns, -, hforks⟩
  · exact h
  · -- the token at the step stays, so the step goes as it did
    rw [lexed_of_scan hturns.peeked hturns.scan hturns.ne_eof] at hforks
    exact absurd (scan_extend ht hturns.mode hturns.scan hturns.ne_eof hturns.rest_ne_nil
      fun rest hw => hstays t hforks.mem _ _ rest hw) hturns.scan_ne

end Lexer

/-! ## Blanks at the start -/

namespace Lexed

/-- Past blanks at the start, the tokens are those of what is behind them. -/
theorem skipBlanks_of (offset : Nat) (cs : List Char) :
    (Lexed.of .predicate offset cs).skipBlanks =
      (Lexed.of .predicate (offset + (cs.takeWhile Text.isBlank).length)
        (cs.dropWhile Text.isBlank)).skipBlanks := by
  cases cs with
  | nil => rfl
  | cons c cs =>
    by_cases hc : Text.isBlank c = true
    · have hs := scan_of_blank (l := Lexer.start .predicate offset (c :: cs)) rfl rfl rfl hc
      rw [of_eq_lexed, lexed_of_emit rfl hs (by simp), skipBlanks,
        emit_blank_eq_start rfl rfl rfl]
      rfl
    · rw [List.takeWhile_cons_of_neg hc, List.dropWhile_cons_of_neg hc]
      rfl

/-- A blank at the start moves the tokens behind blanks. -/
theorem skipBlanks_of_cons {c : Char} (hc : Text.isBlank c = true) (offset : Nat)
    (cs : List Char) :
    (Lexed.of .predicate offset (c :: cs)).skipBlanks =
      (Lexed.of .predicate (offset + 1) cs).skipBlanks := by
  rw [skipBlanks_of, skipBlanks_of (offset + 1), List.takeWhile_cons_of_pos hc,
    List.dropWhile_cons_of_pos hc, List.length_cons, Nat.add_right_comm, Nat.add_assoc]

/-- Past blanks, a text that has more than blanks has a token. -/
theorem skipBlanks_eq_token {offset : Nat} {cs : List Char} {l : Lexed}
    (hb : Text.allBlank cs = false) (h : (Lexed.of .predicate offset cs).skipBlanks = .ok l) :
    ∃ t rest, l = .token t rest := by
  rw [skipBlanks_of] at h
  have hne : cs.dropWhile Text.isBlank ≠ [] := fun hnil => by
    have : Text.allBlank cs = true := by
      simpa [Text.allBlank] using List.dropWhile_eq_nil_iff.1 hnil
    rw [this] at hb; cases hb
  obtain ⟨c, cs', hcs⟩ := List.exists_cons_of_ne_nil hne
  have hc : Text.isBlank c ≠ true := by
    have := List.head?_dropWhile_not Text.isBlank cs
    rw [hcs] at this
    simpa using this
  rw [hcs, of_eq_lexed] at h
  generalize hstart : Lexer.start .predicate _ (c :: cs') = start at h
  have hrest : start.rest = c :: cs' := by rw [← hstart]; rfl
  have hm : start.mode = .predicate := by rw [← hstart]; rfl
  have hp : start.peeked = none := by rw [← hstart]; rfl
  rcases hs : start.scan with f | ⟨t, l'⟩
  · rw [lexed_of_error hp hs] at h; cases h
  have hk : t.kind ≠ .eof := fun hk => by
    rw [(scan_takes hs).eof.1 hk] at hrest; cases hrest
  have hblank : ¬ t.isBlank = true := fun hb => by
    have hlt := (scan_takes hs).length_lt hk
    rw [(scan_blank hs (of_decide_eq_true hb)).2, hrest, List.dropWhile_cons_of_neg hc] at hlt
    exact Nat.lt_irrefl _ hlt
  rw [lexed_of_scan hp hs hk, skipBlanks, if_neg hblank] at h
  cases h
  exact ⟨t, l'.lexed, rfl⟩

end Lexed

end RouteExpr
