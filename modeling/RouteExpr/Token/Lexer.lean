/-
Cutting a region of a text into tokens, one at a time.

A lexer holds what is left of its region and the offset where that begins, so the tokens of a region
are those of the region taken as a text of its own, but for the offsets. A step that fails leaves
the lexer as it was.
-/
import RouteExpr.Text.Blank
import RouteExpr.Text.Find
import RouteExpr.Token

namespace RouteExpr

/-! ## Lexers -/

/-- What is recognized besides placeholders. -/
inductive Mode where
  /-- Expressions: all else is literal text. -/
  | template
  /-- Inside a placeholder: parentheses, commas, and quotes within parentheses. -/
  | function
  /-- Predicates: operators, connectives, quotes and bare words. -/
  | predicate
  deriving DecidableEq, Repr

/-- A lexer in the middle of a region. -/
structure Lexer where
  mode : Mode
  /-- The offset of the next character. -/
  position : Nat
  /-- The characters that are left. -/
  rest : List Char
  /-- How many parentheses are open. -/
  depth : Nat
  /-- Whether the last token was a placeholder. -/
  afterPlaceholder : Bool
  /-- A token that was looked at but not taken. -/
  peeked : Option Token
  deriving DecidableEq, Repr

namespace Lexer

/-- A lexer at the start of a region whose first character has an offset. -/
def start (mode : Mode) (offset : Nat) (region : List Char) : Lexer :=
  ⟨mode, offset, region, 0, false, none⟩

/-- A lexer over the characters of a text between two offsets. -/
def slice (mode : Mode) (text : List Char) (first stop : Nat) : Lexer :=
  start mode first ((text.take stop).drop first)

/-! ## Markers and blocks -/

/-- The marker that a text begins with. -/
def markerAt? (cs : List Char) : Option Marker :=
  if Marker.short.chars.isPrefixOf cs then some .short
  else if Marker.long.chars.isPrefixOf cs then some .long
  else none

/-- Whether a text begins with a marker. -/
def startsMarker (cs : List Char) : Bool :=
  (markerAt? cs).isSome

/-- The text up to the brace that closes a block, and the text after that brace. Each marker on the
way opens a block of its own, `depth` of which are open. -/
def takeBlock (depth : Nat) : List Char → Option (List Char × List Char)
  | [] => none
  | c :: cs =>
    if c = '\x7d' then
      match depth with
      | 0 => some ([], cs)
      | outer + 1 => (takeBlock outer cs).map fun (body, rest) => (c :: body, rest)
    else
      (takeBlock (if startsMarker (c :: cs) then depth + 1 else depth) cs).map fun (body, rest) =>
        (c :: body, rest)

/-- The longest start of a text at no place of which what follows makes `stop` hold, and the
rest. -/
def takeUntil (stop : List Char → Bool) : List Char → List Char × List Char
  | [] => ([], [])
  | c :: cs =>
    if stop (c :: cs) then ([], c :: cs)
    else
      let (taken, rest) := takeUntil stop cs
      (c :: taken, rest)

/-- The text up to a quote and the text after it. -/
def takeQuoted (quote : Char) : List Char → Option (List Char × List Char)
  | [] => none
  | c :: cs =>
    if c = quote then some ([], cs)
    else (takeQuoted quote cs).map fun (text, rest) => (c :: text, rest)

/-! ## Words of predicates -/

/-- The quote that a character is. -/
def quote? (c : Char) : Option Quote :=
  if c = '\'' then some .single else if c = '"' then some .double else none

/-- Whether a bare word ends before this text. -/
def endsWord : List Char → Bool
  | [] => true
  | c :: cs => Text.isBlank c || (quote? c).isSome || startsMarker (c :: cs)

/-- The bare word that a text begins with, and the rest. -/
def takeWord (cs : List Char) : List Char × List Char :=
  takeUntil endsWord cs

/-- Blanks, at least one, the word after them, and the rest. -/
def takeNextWord? (cs : List Char) : Option (List Char × List Char × List Char) :=
  let blanks := cs.takeWhile Text.isBlank
  if blanks.isEmpty then none
  else
    let (word, rest) := takeWord (cs.dropWhile Text.isBlank)
    some (blanks, word, rest)

/-- The word `with` after blanks: what is taken and the rest. -/
def takeWith? (cs : List Char) : Option (List Char × List Char) :=
  (takeNextWord? cs).bind fun (blanks, word, rest) =>
    if word = "with".toList then some (blanks ++ word, rest) else none

/-- The comparison of the words `starts` and `ends` when `with` follows. -/
def edge? (word : List Char) : Option Comparison :=
  if word = "starts".toList then some .startsWith
  else if word = "ends".toList then some .endsWith
  else none

/-- The comparison in words after `not`: its comparison, what is taken, and the rest. -/
def takeNegated? (cs : List Char) : Option (Comparison × List Char × List Char) :=
  (takeNextWord? cs).bind fun (blanks, word, rest) =>
    match edge? word with
    | some comparison =>
      (takeWith? rest).map fun (tail, rest) => (comparison, blanks ++ word ++ tail, rest)
    | none => (Comparison.ofKeyword? (String.ofList word)).map fun c => (c, blanks ++ word, rest)

/-- A bare word as a token: its kind, its characters, and the rest. Some words take up the words
after them. -/
def classifyWord (word rest : List Char) : Token.Kind × List Char × List Char :=
  if word = "and".toList then (.connective .and, word, rest)
  else if word = "or".toList then (.connective .or, word, rest)
  else if word = "not".toList then
    match takeNegated? rest with
    | some (comparison, tail, rest) => (.operator ⟨comparison, true⟩, word ++ tail, rest)
    | none => (.literal, word, rest)
  else
    match edge? word with
    | some comparison =>
      match takeWith? rest with
      | some (tail, rest) => (.operator ⟨comparison, false⟩, word ++ tail, rest)
      | none => (.literal, word, rest)
    | none =>
      let (negated, keyword) :=
        match word with
        | '!' :: keyword => (true, keyword)
        | keyword => (false, keyword)
      match Comparison.ofKeyword? (String.ofList keyword) with
      | some comparison => (.operator ⟨comparison, negated⟩, word, rest)
      | none => (.literal, word, rest)

/-! ## Symbols of predicates -/

/-- The symbols of operators and connectives; one that begins with another comes before it. -/
def symbols : List (String × Token.Kind) := [
  ("!=~", .operator ⟨.equalIgnoreCase, true⟩), ("!~~", .operator ⟨.containsIgnoreCase, true⟩),
  ("==", .operator ⟨.equal, false⟩), ("!=", .operator ⟨.equal, true⟩),
  ("=~", .operator ⟨.equalIgnoreCase, false⟩), (">=", .operator ⟨.greaterEqual, false⟩),
  ("<=", .operator ⟨.lessEqual, false⟩), ("~~", .operator ⟨.containsIgnoreCase, false⟩),
  ("&&", .connective .and), ("||", .connective .or), (">", .operator ⟨.greater, false⟩),
  ("<", .operator ⟨.less, false⟩)]

/-- The first of the symbols that a text begins with: its kind, its characters, and the rest. -/
def takeSymbol? (cs : List Char) : Option (Token.Kind × List Char × List Char) :=
  symbols.findSome? fun (symbol, kind) =>
    (Text.afterStart? symbol.toList cs).map fun rest => (kind, symbol.toList, rest)

/-! ## One token -/

/-- The lexer past a token of a kind and a text, where `rest` is left. -/
def emit (l : Lexer) (kind : Token.Kind) (text rest : List Char) : Token × Lexer :=
  let token : Token := ⟨kind, text, l.position⟩
  (token, { l with
    position := token.stop
    rest := rest
    afterPlaceholder := kind.isPlaceholder })

/-- A fault at the last character of the region. -/
def unclosed {α : Type} (l : Lexer) (cause : Cause) : Except Fault α :=
  .error ⟨l.position + l.rest.length - 1, cause⟩

/-- A run of blanks as a token. -/
def takeBlanks (l : Lexer) : Token × Lexer :=
  l.emit .blank (l.rest.takeWhile Text.isBlank) (l.rest.dropWhile Text.isBlank)

/-- A quoted text as a token, of which the opening quote is `quote` and `cs` follows it. -/
def takeQuotedToken (l : Lexer) (quote : Quote) (cs : List Char) : Except Fault (Token × Lexer) :=
  match takeQuoted quote.toChar cs with
  | some (text, rest) => .ok (l.emit (.quoted quote) text rest)
  | none => l.unclosed (.unclosedQuote quote)

/-- Whether plain text inside a placeholder ends before this text. -/
def endsPlain (depth : Nat) : List Char → Bool
  | [] => true
  | c :: cs =>
    Text.isBlank c || c = '(' || c = ')' || c = ',' || ((quote? c).isSome && 0 < depth) ||
      startsMarker (c :: cs)

/-- The next token inside a placeholder. -/
def scanFunction (l : Lexer) (c : Char) (cs : List Char) : Except Fault (Token × Lexer) :=
  let plain : Token × Lexer :=
    let (text, rest) := takeUntil (endsPlain l.depth) (c :: cs)
    l.emit .literal text rest
  if Text.isBlank c then .ok l.takeBlanks
  else if c = '(' then .ok ({ l with depth := l.depth + 1 }.emit .openParen [c] cs)
  else if c = ')' then .ok ({ l with depth := l.depth - 1 }.emit .closeParen [c] cs)
  else if c = ',' then .ok (l.emit .comma [c] cs)
  else
    match quote? c with
    | some quote => if 0 < l.depth then l.takeQuotedToken quote cs else .ok plain
    | none => .ok plain

/-- The next token of a predicate. -/
def scanPredicate (l : Lexer) (c : Char) (cs : List Char) : Except Fault (Token × Lexer) :=
  if Text.isBlank c then .ok l.takeBlanks
  else
    match quote? c with
    | some quote => l.takeQuotedToken quote cs
    | none =>
      if c = '\x7d' then .ok (l.emit .closingBrace [c] cs)
      else
        match takeSymbol? (c :: cs) with
        | some (kind, text, rest) => .ok (l.emit kind text rest)
        | none =>
          let (word, rest) := takeWord (c :: cs)
          let (kind, text, rest) := classifyWord word rest
          .ok (l.emit kind text rest)

/-- The suffix that stands right after a placeholder. -/
def suffix? (l : Lexer) : Option Step :=
  if l.afterPlaceholder && l.mode ≠ .function then Step.ofSymbol? (String.ofList (l.rest.take 2))
  else none

/-- The next token of the region. -/
def scan (l : Lexer) : Except Fault (Token × Lexer) :=
  match l.rest with
  | [] => .ok (l.emit .eof [] [])
  | c :: cs =>
    match l.suffix? with
    | some step => .ok (l.emit (.suffix step) (l.rest.take 2) (l.rest.drop 2))
    | none =>
      match markerAt? (c :: cs) with
      | some marker =>
        match takeBlock 0 ((c :: cs).drop marker.chars.length) with
        | some (body, rest) => .ok (l.emit (.placeholder marker) body rest)
        | none => l.unclosed .unclosedPlaceholder
      | none =>
        match l.mode with
        | .template =>
          let (text, rest) := takeUntil startsMarker (c :: cs)
          .ok (l.emit .literal text rest)
        | .function => l.scanFunction c cs
        | .predicate => l.scanPredicate c cs

/-! ## Stepping -/

/-- Takes the next token. -/
def next (l : Lexer) : Except Fault (Token × Lexer) :=
  match l.peeked with
  | some token => .ok (token, { l with peeked := none })
  | none => l.scan

/-- Looks at the next token without taking it. -/
def peek (l : Lexer) : Except Fault (Token × Lexer) :=
  match l.peeked with
  | some token => .ok (token, l)
  | none => l.scan.map fun (token, l) => (token, { l with peeked := some token })

end Lexer

/-! ## All tokens of a region -/

/-- The tokens of a region up to its end or to the first fault. -/
inductive Lexed where
  | eof (offset : Nat)
  | fault (f : Fault)
  | token (t : Token) (rest : Lexed)
  deriving DecidableEq, Repr

namespace Lexed

/-- How many tokens there are. -/
def size : Lexed → Nat
  | token _ rest => rest.size + 1
  | _ => 0

/-- The tokens before the end, or the fault instead of them. -/
def toTokens : Lexed → Except Fault (List Token)
  | eof _ => .ok []
  | fault f => .error f
  | token t rest => rest.toTokens.map (t :: ·)

/-- The tokens with the end as the last one, or the fault instead of them. -/
def toTokensEof : Lexed → Except Fault (List Token)
  | eof offset => .ok [⟨.eof, [], offset⟩]
  | fault f => .error f
  | token t rest => rest.toTokensEof.map (t :: ·)

/-- The tokens, unless a fault comes before the first. -/
def ready : Lexed → Except Fault Lexed
  | fault f => .error f
  | l => .ok l

/-- The tokens from the first that is no run of blanks. -/
def skipBlanks : Lexed → Except Fault Lexed
  | eof offset => .ok (eof offset)
  | fault f => .error f
  | token t rest => if t.isBlank then rest.skipBlanks else .ok (token t rest)

end Lexed

/-- The tokens that a lexer has left, at most so many. -/
def Lexer.run : Nat → Lexer → Lexed
  | 0, l =>
    match l.next with
    | .error f => .fault f
    | .ok (token, _) => .eof token.start
  | n + 1, l =>
    match l.next with
    | .error f => .fault f
    | .ok (token, next) =>
      if token.kind = .eof then .eof token.start else .token token (Lexer.run n next)

/-- The tokens of a region. Each takes a character at least, so their number is within the bound. -/
def Lexed.of (mode : Mode) (offset : Nat) (region : List Char) : Lexed :=
  Lexer.run region.length (Lexer.start mode offset region)

/-- The tokens of a text, the end included. -/
def tokenize (mode : Mode) (text : List Char) : Except Fault (List Token) :=
  (Lexed.of mode 0 text).toTokensEof

end RouteExpr
