/-
The next token at a cursor.

A step of a cursor is a step of the lexer over the characters that are left to it: it gives the same
token, with the number of its characters, and goes on at the same place, or it has the same fault,
which is at the last character of the region.
-/
import RouteExpr.Proofs.Checked.Cursor
import RouteExpr.Proofs.Text.Find

namespace RouteExpr.Checked

namespace Cursor

open Lexer (takeUntil takeQuoted takeBlock takeWord)

/-! ## Cutting off a token -/

/-- The token of a kind up to a position, the text of which stands between two others. -/
def cut (c : Cursor) (kind : Token.Kind) (first last position : Nat) : Checked (Cut × Cursor) := do
  let text ← c.collect first last
  let length ← minus position c.position
  return (⟨⟨kind, text, c.position⟩, length⟩,
    { c with position := position, afterPlaceholder := kind.isPlaceholder })

/-- A run of blanks. -/
def takeBlanks (c : Cursor) : Checked (Cut × Cursor) :=
  let stop := c.seek (fun pos => !(c.charAt? pos).any Text.isBlank) c.position
  c.cut .blank c.position stop stop

/-- A quoted text, of which the opening quote is the next character. -/
def takeQuoted (c : Cursor) (quote : Quote) : Checked (Cut × Cursor) :=
  let first := c.position + 1
  let stop := c.seek (fun pos => c.charAt? pos = some quote.toChar) first
  if stop < c.stop then c.cut (.quoted quote) first stop (stop + 1)
  else c.unclosed (.unclosedQuote quote)

/-- A block, of which the marker is next. -/
def takePlaceholder (c : Cursor) (m : Marker) : Checked (Cut × Cursor) := do
  let first := c.position + m.chars.length
  let (depth, stop) ← c.blockEnd 1 first
  if 0 < depth then c.unclosed .unclosedPlaceholder
  else c.cut (.placeholder m) first stop (stop + 1)

/-- Plain text up to a position where it ends. -/
def takePlain (c : Cursor) (ends : Nat → Bool) : Checked (Cut × Cursor) :=
  let stop := c.seek ends c.position
  c.cut .literal c.position stop stop

/-! ## Words of predicates -/

/-- Whether a bare word ends at a position. -/
def endsWordAt (c : Cursor) (pos : Nat) : Bool :=
  match c.charAt? pos with
  | none => true
  | some ch => Text.isBlank ch || (Lexer.quote? ch).isSome || (c.markerAt? pos).isSome

/-- The end of the bare word at a position. -/
def wordEnd (c : Cursor) (pos : Nat) : Nat :=
  c.seek c.endsWordAt pos

/-- The position past blanks, of which there is one at least. -/
def skipSpaces? (c : Cursor) (pos : Nat) : Option Nat :=
  let stop := c.seek (fun pos => !(c.charAt? pos).any Text.isBlank) pos
  if pos < stop then some stop else none

/-- The end of the word `with` past blanks. -/
def withAfter? (c : Cursor) (pos : Nat) : Checked (Option Nat) :=
  match c.skipSpaces? pos with
  | none => return none
  | some first => do
    let stop := c.wordEnd first
    let word ← c.collect first stop
    return if word = "with".toList then some stop else none

/-- The comparison in words past blanks, and its end. -/
def keywordAfter? (c : Cursor) (pos : Nat) : Checked (Option (Comparison × Nat)) :=
  match c.skipSpaces? pos with
  | none => return none
  | some first => do
    let stop := c.wordEnd first
    let word ← c.collect first stop
    match Lexer.edge? word with
    | some comparison => return (← c.withAfter? stop).map fun stop => (comparison, stop)
    | none =>
      return (Comparison.ofKeyword? (String.ofList word)).map fun comparison => (comparison, stop)

/-- The kind of a bare word that stops at a position, and where its token stops. -/
def classifyWord (c : Cursor) (word : List Char) (stop : Nat) : Checked (Token.Kind × Nat) :=
  if word = "and".toList then return (.connective .and, stop)
  else if word = "or".toList then return (.connective .or, stop)
  else if word = "not".toList then do
    match ← c.keywordAfter? stop with
    | some (comparison, stop) => return (.operator ⟨comparison, true⟩, stop)
    | none => return (.literal, stop)
  else
    match Lexer.edge? word with
    | some comparison => do
      match ← c.withAfter? stop with
      | some stop => return (.operator ⟨comparison, false⟩, stop)
      | none => return (.literal, stop)
    | none =>
      let (negated, keyword) :=
        match word with
        | '!' :: keyword => (true, keyword)
        | keyword => (false, keyword)
      match Comparison.ofKeyword? (String.ofList keyword) with
      | some comparison => return (.operator ⟨comparison, negated⟩, stop)
      | none => return (.literal, stop)

/-- A bare word with the words that it takes up. -/
def takeWordToken (c : Cursor) : Checked (Cut × Cursor) := do
  let stop := c.wordEnd c.position
  let word ← c.collect c.position stop
  let (kind, stop) ← c.classifyWord word stop
  c.cut kind c.position stop stop

/-! ## One token -/

/-- Whether plain text inside a placeholder ends at a position. -/
def endsPlainAt (c : Cursor) (pos : Nat) : Bool :=
  match c.charAt? pos with
  | none => true
  | some ch =>
    Text.isBlank ch || ch = '(' || ch = ')' || ch = ',' ||
      ((Lexer.quote? ch).isSome && 0 < c.depth) || (c.markerAt? pos).isSome

/-- The next token inside a placeholder. -/
def scanFunction (c : Cursor) (ch : Char) : Checked (Cut × Cursor) :=
  let next := c.position + 1
  if Text.isBlank ch then c.takeBlanks
  else if ch = '(' then { c with depth := c.depth + 1 }.cut .openParen c.position next next
  else if ch = ')' then { c with depth := c.depth - 1 }.cut .closeParen c.position next next
  else if ch = ',' then c.cut .comma c.position next next
  else
    match Lexer.quote? ch with
    | some quote => if 0 < c.depth then c.takeQuoted quote else c.takePlain c.endsPlainAt
    | none => c.takePlain c.endsPlainAt

/-- The next token of a predicate. A symbol has as many characters as bytes. -/
def scanPredicate (c : Cursor) (ch : Char) : Checked (Cut × Cursor) :=
  if Text.isBlank ch then c.takeBlanks
  else
    match Lexer.quote? ch with
    | some quote => c.takeQuoted quote
    | none =>
      if ch = '\x7d' then c.cut .closingBrace c.position (c.position + 1) (c.position + 1)
      else
        match Lexer.symbols.find? fun entry => c.matchesAt c.position entry.1.toList with
        | some (symbol, kind) =>
          let stop := c.position + symbol.utf8ByteSize
          c.cut kind c.position stop stop
        | none => c.takeWordToken

/-- The suffix that stands right after a placeholder. -/
def suffix? (c : Cursor) : Checked (Option Step) :=
  if c.afterPlaceholder && c.mode ≠ .function then do
    let suffix ← c.collect c.position (min (c.position + 2) c.stop)
    return Step.ofSymbol? (String.ofList suffix)
  else return none

/-- The next token of the region. -/
def scan (c : Cursor) : Checked (Cut × Cursor) :=
  match c.charAt? c.position with
  | none => return (⟨⟨.eof, [], c.position⟩, 0⟩, { c with afterPlaceholder := false })
  | some ch => do
    match ← c.suffix? with
    | some step => c.cut (.suffix step) c.position (c.position + 2) (c.position + 2)
    | none =>
      match c.markerAt? c.position with
      | some m => c.takePlaceholder m
      | none =>
        match c.mode with
        | .template => c.takePlain fun pos => (c.markerAt? pos).isSome
        | .function => c.scanFunction ch
        | .predicate => c.scanPredicate ch

/-! ## Stepping -/

/-- Takes the next token. -/
def next (c : Cursor) : Checked (Cut × Cursor) :=
  match c.peeked with
  | some cut => return (cut, { c with peeked := none })
  | none => c.scan

/-- Looks at the next token without taking it. -/
def peek (c : Cursor) : Checked (Cut × Cursor) :=
  match c.peeked with
  | some cut => return (cut, c)
  | none => c.scan.map fun (cut, c) => (cut, { c with peeked := some cut })

/-! ## The lexer at a cursor -/

/-- The lexer over the characters that are left, without a token that was looked at. -/
def view (c : Cursor) : Lexer :=
  ⟨c.mode, c.position, c.restAt c.position, c.depth, c.afterPlaceholder, none⟩

/-- The cursor where a lexer is. -/
def moved (c : Cursor) (l : Lexer) : Cursor :=
  { c with position := l.position, depth := l.depth, afterPlaceholder := l.afterPlaceholder }

/-- A step of the lexer as a step of the cursor. -/
def lift (c : Cursor) : Except Fault (Token × Lexer) → Checked (Cut × Cursor)
  | .ok (t, l) => .ok (.of t, c.moved l)
  | .error f => .error (.fault ⟨f, c.text⟩)

variable {c : Cursor} {t : Token} {l : Lexer}

theorem view_moved (h : c.view.Takes t l) : (c.moved l).view = l := by
  have hpos : l.position = c.position + t.raw.length := by rw [h.position, Token.stop, h.start]; rfl
  have hleft : c.restAt c.position = t.raw ++ l.rest := h.rest
  have hrest : c.restAt l.position = l.rest := by rw [hpos, restAt_add, hleft, List.drop_left]
  have hmode : l.mode = c.mode := h.mode
  have hpeeked : l.peeked = none := h.peeked
  obtain ⟨mode, position, rest, depth, after, peeked⟩ := l
  simp only at hpos hrest hmode hpeeked
  subst hrest hmode hpeeked
  rfl

/-- Cutting off the characters of a token is what the lexer emits. -/
theorem cut_eq (kind : Token.Kind) (text rest : List Char) {first last position : Nat}
    (hrest : c.restAt c.position = kind.opening ++ text ++ kind.closing ++ rest)
    (hpos : c.position ≤ c.stop) (hfirst : c.position + kind.opening.length = first)
    (hlast : first + text.length = last) (hposition : last + kind.closing.length = position) :
    c.cut kind first last position = c.lift (.ok (c.view.emit kind text rest)) := by
  have hlen := length_restAt hpos
  rw [hrest] at hlen
  simp only [List.length_append] at hlen
  have htext : c.collect first last = .ok text := by
    refine collect_eq (kind.closing ++ rest) ?_ (by omega) hlast
    rw [← hfirst, restAt_add, hrest]
    simp only [List.append_assoc, List.drop_left]
  have hstop : position = (⟨kind, text, c.position⟩ : Token).stop := by
    simp only [Token.stop, Token.length, Token.raw, List.length_append]
    omega
  have hlength : minus position c.position = .ok (⟨kind, text, c.position⟩ : Token).length := by
    rw [hstop, Token.stop, Nat.add_comm, minus_add]
  rw [cut, htext, ok_bind, hlength, ok_bind, hstop]
  rfl

/-- `cut_eq` for a token that nothing delimits. -/
theorem cut_plain (kind : Token.Kind) (text rest : List Char) (d : Nat)
    (hrest : c.restAt c.position = text ++ rest) (hpos : c.position ≤ c.stop)
    (ho : kind.opening = []) (hc : kind.closing = []) :
    { c with depth := d }.cut kind c.position (c.position + text.length) (c.position + text.length) =
      c.lift (.ok ({ c.view with depth := d }.emit kind text rest)) := by
  refine (cut_eq (c := { c with depth := d }) kind text rest ?_ hpos ?_ rfl ?_).trans rfl
  · rw [ho, hc, List.nil_append, List.append_nil]
    exact hrest
  · rw [ho]
    rfl
  · rw [hc]
    rfl

theorem unclosed_eq (cause : Cause) (hpos : c.position ≤ c.stop) :
    c.unclosed cause = c.lift (c.view.unclosed cause) := by
  have hlen := length_restAt hpos
  rw [Lexer.unclosed, unclosed, lift, fail, ← hlen]
  rfl

/-- A walk over blanks, and what is left behind them. -/
theorem seek_blanks (c : Cursor) (pos : Nat) :
    c.seek (fun pos => !(c.charAt? pos).any Text.isBlank) pos =
      pos + ((c.restAt pos).takeWhile Text.isBlank).length ∧
    c.restAt (pos + ((c.restAt pos).takeWhile Text.isBlank).length) =
      (c.restAt pos).dropWhile Text.isBlank := by
  have hrest := restAt_seek (fun rest => !rest.head?.any Text.isBlank) c pos
  have hseek : c.seek (fun pos => !(c.charAt? pos).any Text.isBlank) pos = _ :=
    seek_eq (fun rest => !rest.head?.any Text.isBlank) (fun pos _ => by rw [charAt?_eq]) pos
  rw [takeUntil_not] at hseek hrest
  exact ⟨hseek, hrest⟩

theorem takeBlanks_eq (hpos : c.position ≤ c.stop) :
    c.takeBlanks = c.lift (.ok c.view.takeBlanks) := by
  rw [takeBlanks, (seek_blanks c c.position).1]
  exact cut_plain .blank _ _ c.depth List.takeWhile_append_dropWhile.symm hpos rfl rfl

theorem takePlain_eq {ends : Nat → Bool} {stops : List Char → Bool}
    (h : ∀ pos, pos < c.stop → ends pos = stops (c.restAt pos)) (hpos : c.position ≤ c.stop) :
    c.takePlain ends = c.lift (.ok (c.view.emit .literal (takeUntil stops (c.restAt c.position)).1
      (takeUntil stops (c.restAt c.position)).2)) := by
  rw [takePlain, seek_eq stops h]
  exact cut_plain .literal _ _ c.depth (takeUntil_spec stops _).1 hpos rfl rfl

theorem takeQuoted_eq_lift {quote : Quote} {cs : List Char}
    (hrest : c.restAt c.position = quote.toChar :: cs) :
    c.takeQuoted quote = c.lift (c.view.takeQuotedToken quote cs) := by
  have hpos : c.position < c.stop := lt_stop_of_restAt (by rw [hrest]; simp)
  have hcs : c.restAt (c.position + 1) = cs := by
    rw [restAt_add, hrest, List.drop_one, List.tail_cons]
  have hlen : c.position + 1 + (c.restAt (c.position + 1)).length = c.stop := length_restAt hpos
  have hstop : c.seek (fun pos => c.charAt? pos = some quote.toChar) (c.position + 1) = _ :=
    seek_eq (fun rest => rest.head? = some quote.toChar) (fun pos _ => by rw [charAt?_eq]) _
  rw [hcs] at hlen hstop
  rw [takeQuoted, hstop, Lexer.takeQuotedToken, takeQuoted_eq]
  have hspec := takeUntil_spec (fun rest => rest.head? = some quote.toChar) cs
  rcases hu : takeUntil (fun rest => rest.head? = some quote.toChar) cs with ⟨text, _ | ⟨d, rest⟩⟩
    <;> rw [hu] at hspec
  · -- the quote does not stand in the rest of the region, so the walk reaches its end
    have htext : cs = text := by simpa using hspec.1
    simp only [← hlen, htext, Nat.lt_irrefl, if_false]
    exact unclosed_eq _ (Nat.le_of_lt hpos)
  · have hd : d = quote.toChar := by simpa using hspec.2.1
    have hcut : cs = text ++ quote.toChar :: rest := hd ▸ hspec.1
    have hlt : c.position + 1 + text.length < c.stop := by
      rw [← hlen, hcut, List.length_append, List.length_cons]
      omega
    simp only [hlt, if_true]
    refine cut_eq (.quoted quote) text rest ?_ (Nat.le_of_lt hpos) rfl rfl rfl
    rw [hrest, hcut]
    simp only [Token.Kind.opening, Token.Kind.closing, List.append_assoc, List.cons_append,
      List.nil_append]

theorem takePlaceholder_eq {m : Marker} {cs : List Char}
    (hrest : c.restAt c.position = m.chars ++ cs) :
    c.takePlaceholder m = c.lift (match takeBlock 0 cs with
      | some (body, rest) => .ok (c.view.emit (.placeholder m) body rest)
      | none => c.view.unclosed .unclosedPlaceholder) := by
  have hne : c.restAt c.position ≠ [] := by rw [hrest]; cases m <;> simp [Marker.chars]
  have hpos : c.position ≤ c.stop := Nat.le_of_lt (lt_stop_of_restAt hne)
  have hcs : c.restAt (c.position + m.chars.length) = cs := by
    rw [restAt_add, hrest, List.drop_left]
  have hfirst : c.position + m.chars.length ≤ c.stop := by
    rw [← length_restAt hpos, hrest, List.length_append]
    omega
  rw [takePlaceholder]
  rcases blockEnd_cases c 0 _ hfirst with ⟨body, rest, ht, hb⟩ | ⟨d, stop, ht, hb⟩ <;> rw [hcs] at ht
  · simp only [hb, ok_bind, Nat.lt_irrefl, if_false, ht]
    refine cut_eq (.placeholder m) body rest ?_ hpos rfl rfl rfl
    rw [hrest, takeBlock_eq_some ht]
    simp only [Token.Kind.opening, Token.Kind.closing, List.append_assoc, List.cons_append,
      List.nil_append]
  · simp only [hb, ok_bind, Nat.succ_pos, if_true, ht]
    exact unclosed_eq _ hpos

/-! ## Words by position -/

variable {pos : Nat}

theorem endsWordAt_eq (h : pos < c.stop) : c.endsWordAt pos = Lexer.endsWord (c.restAt pos) := by
  obtain ⟨ch, hch⟩ := exists_charAt? h
  rw [endsWordAt, hch, isSome_markerAt?, restAt_of_charAt? hch]
  rfl

theorem wordEnd_eq (c : Cursor) (pos : Nat) :
    c.wordEnd pos = pos + (takeWord (c.restAt pos)).1.length :=
  seek_eq Lexer.endsWord (fun _ => endsWordAt_eq) pos

/-- The word past blanks, by position. -/
theorem skipSpaces?_cases (hpos : pos ≤ c.stop) :
    (c.skipSpaces? pos = none ∧ Lexer.takeNextWord? (c.restAt pos) = none) ∨
    ∃ blanks word rest, c.skipSpaces? pos = some (pos + blanks.length) ∧
      Lexer.takeNextWord? (c.restAt pos) = some (blanks, word, rest) ∧
      c.wordEnd (pos + blanks.length) = pos + (blanks ++ word).length ∧
      c.collect (pos + blanks.length) (pos + (blanks ++ word).length) = .ok word ∧
      c.restAt (pos + (blanks ++ word).length) = rest ∧
      pos + (blanks ++ word).length ≤ c.stop := by
  obtain ⟨hseek, hdrop⟩ := seek_blanks c pos
  have hlen := length_restAt hpos
  rw [skipSpaces?, hseek]
  by_cases hb : (c.restAt pos).takeWhile Text.isBlank = []
  · refine .inl ⟨by simp [hb], ?_⟩
    simp [Lexer.takeNextWord?, hb]
  · have hnext : Lexer.takeNextWord? (c.restAt pos) = some ((c.restAt pos).takeWhile Text.isBlank,
        (takeWord ((c.restAt pos).dropWhile Text.isBlank)).1,
        (takeWord ((c.restAt pos).dropWhile Text.isBlank)).2) := by
      simp [Lexer.takeNextWord?, hb]
    have hcut := Lexer.takeNextWord?_eq_some hnext
    have hend := wordEnd_eq c (pos + ((c.restAt pos).takeWhile Text.isBlank).length)
    have hlt : pos < pos + ((c.restAt pos).takeWhile Text.isBlank).length :=
      Nat.lt_add_of_pos_right (List.length_pos_iff.2 hb)
    rw [hdrop] at hend
    generalize (c.restAt pos).takeWhile Text.isBlank = blanks at *
    generalize (takeWord ((c.restAt pos).dropWhile Text.isBlank)).1 = word at *
    generalize (takeWord ((c.restAt pos).dropWhile Text.isBlank)).2 = rest at *
    rw [hcut] at hlen
    simp only [List.length_append] at hlen
    refine .inr ⟨blanks, word, rest, if_pos hlt, hnext, ?_, ?_, ?_, ?_⟩
    · rw [hend, List.length_append, Nat.add_assoc]
    · refine collect_eq rest ?_ (by omega) ?_
      · rw [restAt_add, hcut, List.append_assoc, List.drop_left]
      · rw [List.length_append, Nat.add_assoc]
    · rw [restAt_add, hcut, List.drop_left]
    · rw [List.length_append]
      omega

theorem withAfter?_eq (hpos : pos ≤ c.stop) :
    c.withAfter? pos =
      .ok ((Lexer.takeWith? (c.restAt pos)).map fun r => pos + r.1.length) := by
  rw [withAfter?, Lexer.takeWith?]
  rcases skipSpaces?_cases hpos with ⟨hs, hn⟩ | ⟨blanks, word, rest, hs, hn, hend, hword, -, -⟩
  · rw [hs, hn]
    rfl
  · simp only [hs, hn, hend, hword, ok_bind, Option.bind_some]
    by_cases hw : word = "with".toList
    · simp only [hw, if_true, Option.map_some]
      rfl
    · simp only [hw, if_false, Option.map_none]
      rfl

theorem keywordAfter?_eq (hpos : pos ≤ c.stop) :
    c.keywordAfter? pos =
      .ok ((Lexer.takeNegated? (c.restAt pos)).map fun r => (r.1, pos + r.2.1.length)) := by
  rw [keywordAfter?, Lexer.takeNegated?]
  rcases skipSpaces?_cases hpos with ⟨hs, hn⟩ | ⟨blanks, word, rest, hs, hn, hend, hword, hrest, hle⟩
  · rw [hs, hn]
    rfl
  · simp only [hs, hn, hend, hword, ok_bind, Option.bind_some]
    rcases Lexer.edge? word with _ | comparison
    · dsimp only
      cases Comparison.ofKeyword? (String.ofList word) <;> rfl
    · simp only [withAfter?_eq hle, hrest, ok_bind, Option.map_map]
      rcases Lexer.takeWith? rest with _ | ⟨tail, rest'⟩
      · rfl
      · simp only [Option.map_some, Function.comp_apply, List.length_append, Nat.add_assoc]
        rfl

/-- A bare word is classified by the words behind it. -/
theorem classifyWord_eq (c : Cursor) (word : List Char) (first : Nat)
    (hpos : first + word.length ≤ c.stop) :
    c.classifyWord word (first + word.length) =
      .ok ((Lexer.classifyWord word (c.restAt (first + word.length))).1,
        first + (Lexer.classifyWord word (c.restAt (first + word.length))).2.1.length) := by
  unfold classifyWord Lexer.classifyWord
  split
  · rfl
  · split
    · rfl
    · split
      · rw [keywordAfter?_eq hpos, ok_bind]
        rcases Lexer.takeNegated? _ with _ | ⟨comparison, tail, rest⟩
        · rfl
        · simp only [Option.map_some, List.length_append, Nat.add_assoc]
          rfl
      · rcases Lexer.edge? word with _ | comparison
        · dsimp only
          rcases Comparison.ofKeyword? _ with _ | comparison <;> rfl
        · dsimp only
          rw [withAfter?_eq hpos, ok_bind]
          rcases Lexer.takeWith? _ with _ | ⟨tail, rest⟩
          · rfl
          · simp only [Option.map_some, List.length_append, Nat.add_assoc]
            rfl

/-! ## Symbols by position -/

/-- The first symbol that stands at a position is the one that is taken off what is left there. -/
theorem takeSymbol?_eq (c : Cursor) (pos : Nat) :
    Lexer.takeSymbol? (c.restAt pos) =
      (Lexer.symbols.find? fun entry => c.matchesAt pos entry.1.toList).map fun entry =>
        (entry.2, entry.1.toList, c.restAt (pos + entry.1.toList.length)) := by
  rw [Lexer.takeSymbol?]
  induction Lexer.symbols with
  | nil => rfl
  | cons entry entries ih =>
    rw [List.findSome?_cons, List.find?_cons, ih, matchesAt_eq]
    dsimp only
    rw [Text.afterStart?_eq]
    by_cases h : entry.1.toList.isPrefixOf (c.restAt pos) = true
    · simp only [h, if_true, Option.map_some, restAt_add]
    · simp only [h, Bool.false_eq_true, if_false, Option.map_none]

theorem utf8ByteSize_symbols : ∀ entry ∈ Lexer.symbols, entry.1.utf8ByteSize = entry.1.toList.length := by
  decide

/-! ## One token -/

theorem endsPlainAt_eq (h : pos < c.stop) :
    c.endsPlainAt pos = Lexer.endsPlain c.depth (c.restAt pos) := by
  obtain ⟨ch, hch⟩ := exists_charAt? h
  rw [endsPlainAt, hch, isSome_markerAt?, restAt_of_charAt? hch]
  rfl

/-- `cut_plain` for a token of one character. -/
theorem cut_one (kind : Token.Kind) (d : Nat) {ch : Char} {cs : List Char}
    (hrest : c.restAt c.position = ch :: cs) (ho : kind.opening = []) (hc : kind.closing = []) :
    { c with depth := d }.cut kind c.position (c.position + 1) (c.position + 1) =
      c.lift (.ok ({ c.view with depth := d }.emit kind [ch] cs)) := by
  have hpos : c.position < c.stop := lt_stop_of_restAt (by rw [hrest]; simp)
  exact cut_plain kind [ch] cs d hrest (Nat.le_of_lt hpos) ho hc

theorem scanFunction_eq {ch : Char} {cs : List Char} (hrest : c.restAt c.position = ch :: cs) :
    c.scanFunction ch = c.lift (c.view.scanFunction ch cs) := by
  have hpos : c.position < c.stop := lt_stop_of_restAt (by rw [hrest]; simp)
  have hplain : c.takePlain c.endsPlainAt = c.lift (.ok (c.view.emit .literal
      (takeUntil (Lexer.endsPlain c.depth) (ch :: cs)).1
      (takeUntil (Lexer.endsPlain c.depth) (ch :: cs)).2)) := by
    rw [← hrest]
    exact takePlain_eq (fun _ => endsPlainAt_eq) (Nat.le_of_lt hpos)
  unfold scanFunction Lexer.scanFunction
  dsimp only
  split
  · exact takeBlanks_eq (Nat.le_of_lt hpos)
  · split
    · exact cut_one .openParen _ hrest rfl rfl
    · split
      · exact cut_one .closeParen _ hrest rfl rfl
      · split
        · exact cut_one .comma c.depth hrest rfl rfl
        · rcases hq : Lexer.quote? ch with _ | quote
          · exact hplain
          · dsimp only
            rw [Lexer.quote?_eq_some hq] at hrest
            by_cases hd : 0 < c.depth
            · rw [if_pos hd, if_pos (show 0 < c.view.depth from hd)]
              exact takeQuoted_eq_lift hrest
            · rw [if_neg hd, if_neg (show ¬ 0 < c.view.depth from hd)]
              exact hplain

theorem takeWordToken_eq (hpos : c.position ≤ c.stop) :
    c.takeWordToken =
      let (word, rest) := takeWord (c.restAt c.position)
      let (kind, text, rest) := Lexer.classifyWord word rest
      c.lift (.ok (c.view.emit kind text rest)) := by
  have hcut : c.restAt c.position = _ := (takeUntil_spec Lexer.endsWord _).1
  have hrest := restAt_seek Lexer.endsWord c c.position
  have hend := wordEnd_eq c c.position
  have hlen := length_restAt hpos
  rw [takeWordToken, takeWord] at *
  rw [hend]
  generalize takeUntil Lexer.endsWord (c.restAt c.position) = r at *
  obtain ⟨word, rest⟩ := r
  dsimp only at *
  rw [hcut, List.length_append] at hlen
  have hword : c.collect c.position (c.position + word.length) = .ok word :=
    collect_eq rest hcut hpos rfl
  have hclass := classifyWord_eq c word c.position (by omega)
  rw [hrest] at hclass
  rw [hword, ok_bind, hclass, ok_bind]
  rcases hw : Lexer.classifyWord word rest with ⟨kind, text, rest'⟩
  obtain ⟨htext, -, hkind⟩ := Lexer.classifyWord_spec hw
  obtain ⟨ho, hc⟩ : kind.opening = [] ∧ kind.closing = [] := by
    rcases hkind with ⟨rfl, -⟩ | ⟨_, rfl⟩ | ⟨_, rfl⟩ <;> exact ⟨rfl, rfl⟩
  exact cut_plain kind text rest' c.depth (hcut.trans htext) hpos ho hc

theorem scanPredicate_eq {ch : Char} {cs : List Char} (hrest : c.restAt c.position = ch :: cs) :
    c.scanPredicate ch = c.lift (c.view.scanPredicate ch cs) := by
  have hpos : c.position < c.stop := lt_stop_of_restAt (by rw [hrest]; simp)
  unfold scanPredicate Lexer.scanPredicate
  split
  · exact takeBlanks_eq (Nat.le_of_lt hpos)
  · rcases hq : Lexer.quote? ch with _ | quote
    · dsimp only
      split
      · exact cut_one .closingBrace c.depth hrest rfl rfl
      · have hsymbol := takeSymbol?_eq c c.position
        rw [hrest] at hsymbol
        rcases hs : Lexer.symbols.find? fun entry => c.matchesAt c.position entry.1.toList with
          _ | ⟨symbol, kind⟩ <;> rw [hs] at hsymbol <;> simp only [hs]
        · rw [hsymbol, Option.map_none, takeWordToken_eq (Nat.le_of_lt hpos), hrest]
        · obtain ⟨hcut, -, hkind⟩ := Lexer.takeSymbol?_eq_some hsymbol
          obtain ⟨ho, hc⟩ : kind.opening = [] ∧ kind.closing = [] := by
            rcases hkind with ⟨_, rfl⟩ | ⟨_, rfl⟩ <;> exact ⟨rfl, rfl⟩
          have hsize := utf8ByteSize_symbols _ (List.mem_of_find?_eq_some hs)
          rw [hsymbol, Option.map_some]
          dsimp only at hsize ⊢
          rw [hsize]
          exact cut_plain kind _ _ c.depth (hrest.trans hcut) (Nat.le_of_lt hpos) ho hc
    · dsimp only
      rw [Lexer.quote?_eq_some hq] at hrest
      exact takeQuoted_eq_lift hrest

theorem suffix?_eq (hpos : c.position ≤ c.stop) : c.suffix? = .ok c.view.suffix? := by
  have htake : c.collect c.position (min (c.position + 2) c.stop) =
      .ok ((c.restAt c.position).take 2) := by
    have hlen := length_restAt hpos
    refine collect_eq _ (List.take_append_drop 2 _).symm hpos ?_
    rw [List.length_take]
    omega
  unfold suffix? Lexer.suffix?
  rw [htake, ok_bind]
  by_cases h : (c.afterPlaceholder && c.mode ≠ .function) = true
  · rw [if_pos h]
    exact congrArg Except.ok (if_pos h).symm
  · rw [if_neg h]
    exact congrArg Except.ok (if_neg h).symm

/-- A step of a cursor is the step of the lexer over what is left. -/
theorem scan_eq (c : Cursor) : c.scan = c.lift c.view.scan := by
  unfold scan Lexer.scan
  rcases hch : c.charAt? c.position with _ | ch
  · have hnil : c.view.rest = [] := by rwa [charAt?_eq, List.head?_eq_none_iff] at hch
    rw [hnil]
    rfl
  · have hrest : c.view.rest = ch :: c.restAt (c.position + 1) := restAt_of_charAt? hch
    have hne : c.restAt c.position ≠ [] := by rw [show c.restAt c.position = _ from hrest]; simp
    have hpos : c.position ≤ c.stop := Nat.le_of_lt (lt_stop_of_restAt hne)
    rw [hrest]
    dsimp only
    rw [suffix?_eq hpos, ok_bind, markerAt?_eq, show c.restAt c.position = _ from hrest]
    rcases hs : c.view.suffix? with _ | step
    · dsimp only
      rcases hm : Lexer.markerAt? (ch :: c.restAt (c.position + 1)) with _ | m
      · dsimp only
        rw [show c.view.mode = c.mode from rfl]
        rcases c.mode
        · refine (takePlain_eq (fun pos _ => isSome_markerAt? c pos) hpos).trans ?_
          rw [show c.restAt c.position = _ from hrest]
        · exact scanFunction_eq hrest
        · exact scanPredicate_eq hrest
      · exact takePlaceholder_eq (hrest.trans (markerAt?_eq_some hm))
    · -- the two characters of the suffix are there
      have htake : (c.view.rest.take 2).length = 2 := by
        rcases (Lexer.suffix?_eq_some hs).2.2 with h | h <;> rw [h] <;> rfl
      have hcut := cut_plain (c := c) (.suffix step) _ _ c.depth
        (List.take_append_drop 2 c.view.rest).symm hpos rfl rfl
      rwa [htake, hrest] at hcut

/-! ## Faults -/

/-- A lexer has a fault at the last character that is left. -/
theorem scan_eq_error {l : Lexer} {f : Fault} (h : l.scan = .error f) :
    l.rest ≠ [] ∧ f.offset = l.position + l.rest.length - 1 := by
  have unclosed {α : Type} {cause : Cause} (h : (l.unclosed cause : Except Fault α) = .error f) :
      f.offset = l.position + l.rest.length - 1 := by
    cases h; rfl
  have quoted {q : Quote} {cs : List Char} (h : l.takeQuotedToken q cs = .error f) :
      f.offset = l.position + l.rest.length - 1 := by
    unfold Lexer.takeQuotedToken at h
    split at h
    · cases h
    · exact unclosed h
  unfold Lexer.scan at h
  split at h
  · cases h
  · rename_i c cs hl
    refine ⟨by rw [hl]; simp, ?_⟩
    split at h
    · cases h
    · split at h
      · split at h
        · cases h
        · exact unclosed h
      · split at h
        · cases h
        · unfold Lexer.scanFunction at h
          grind
        · unfold Lexer.scanPredicate at h
          grind

theorem scan_cases (c : Cursor) :
    (∃ t l, c.view.scan = .ok (t, l) ∧ c.scan = .ok (.of t, c.moved l)) ∨
      ∃ f, c.view.scan = .error f ∧ c.scan = .error (.fault ⟨f, c.text⟩) ∧
        f.offset ≤ c.text.length := by
  rw [scan_eq]
  rcases hs : c.view.scan with f | ⟨t, l⟩
  · refine .inr ⟨f, rfl, rfl, ?_⟩
    obtain ⟨hne, hf⟩ := scan_eq_error hs
    have hlen := length_restAt (Nat.le_of_lt (lt_stop_of_restAt hne))
    have hstop := c.stop_le
    rw [hf]
    change c.position + (c.restAt c.position).length - 1 ≤ _
    omega
  · exact .inl ⟨t, l, rfl, rfl⟩

end Cursor

end RouteExpr.Checked
