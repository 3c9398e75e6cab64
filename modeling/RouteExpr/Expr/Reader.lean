/-
Reading expressions.

A placeholder is a call when its first parenthesis closes at the very end, blanks aside, and a name
otherwise. Quoted arguments are expressions again. Every block inside another has fewer characters,
which bounds how deep reading goes.
-/
import RouteExpr.Expr
import RouteExpr.Token.Lexer

namespace RouteExpr.Expr

/-- How a placeholder token becomes an expression. -/
abbrev ReadBlock := Token → Except Fault Expr

/-! ## Templates -/

/-- The parts of a template: text, and placeholders with the suffix that follows them. -/
def templateParts (block : ReadBlock) : Lexed → Except Fault (List Expr)
  | .eof _ => .ok []
  | .fault f => .error f
  | .token t rest =>
    match t.kind with
    | .placeholder _ => do
      let node ← block t
      match rest with
      | .token ⟨.suffix s, _, _⟩ rest =>
        return step s node :: (← templateParts block rest)
      | rest => return node :: (← templateParts block rest)
    | _ => return prependText t.raw (← templateParts block rest)

/-- A region of text as an expression. -/
def template (block : ReadBlock) (offset : Nat) (region : List Char) : Except Fault Expr :=
  (templateParts block (Lexed.of .template offset region)).map join

/-! ## Inside placeholders -/

/-- The tokens without runs of blanks at either end. -/
def trimTokens (tokens : List Token) : List Token :=
  ((tokens.dropWhile Token.isBlank).reverse.dropWhile Token.isBlank).reverse

/-- The parts of a name or of an argument without quotes. -/
def segmentParts (block : ReadBlock) : List Token → Except Fault (List Expr)
  | [] => .ok []
  | t :: ts =>
    match t.kind with
    | .placeholder _ => do
      let node ← block t
      return node :: (← segmentParts block ts)
    | _ => return prependText t.raw (← segmentParts block ts)

/-- A name, or an argument without quotes, blanks around it aside. -/
def segment (block : ReadBlock) (tokens : List Token) : Except Fault Expr :=
  (segmentParts block (trimTokens tokens)).map join

/-- The tokens up to the parenthesis that closes the one before them, `depth` of which are open in
between, and the tokens after it. -/
def takeInner (depth : Nat) : List Token → Option (List Token × List Token)
  | [] => none
  | t :: ts =>
    let more (depth : Nat) := (takeInner depth ts).map fun (inner, rest) => (t :: inner, rest)
    match t.kind, depth with
    | .closeParen, 0 => some ([], ts)
    | .closeParen, outer + 1 => more outer
    | .openParen, _ => more (depth + 1)
    | _, _ => more depth

/-- The tokens of the name and of the arguments, when the tokens are a call. -/
def splitCall? (tokens : List Token) : Option (List Token × List Token) :=
  let opens (t : Token) : Bool := t.kind = .openParen
  match tokens.dropWhile fun t => !opens t with
  | [] => none
  | _ :: after =>
    (takeInner 0 after).bind fun (inner, rest) =>
      if rest.all Token.isBlank then some (tokens.takeWhile fun t => !opens t, inner) else none

/-- The tokens between commas outside of parentheses. -/
def splitArguments (depth : Nat) : List Token → List (List Token)
  | [] => [[]]
  | t :: ts =>
    let more (depth : Nat) : List (List Token) :=
      match splitArguments depth ts with
      | [] => [[t]]
      | first :: others => (t :: first) :: others
    match t.kind, depth with
    | .comma, 0 => [] :: splitArguments 0 ts
    | .openParen, _ => more (depth + 1)
    | .closeParen, _ => more (depth - 1)
    | _, _ => more depth

/-- An argument: a quoted text is an expression of its own. -/
def argument (block : ReadBlock) (tokens : List Token) : Except Fault Expr :=
  match trimTokens tokens with
  | [⟨.quoted quote, text, start⟩] =>
    template block (Token.textStart ⟨.quoted quote, text, start⟩) text
  | _ => segment block tokens

/-- The arguments of a call; blanks alone are none. -/
def arguments (block : ReadBlock) (tokens : List Token) : Except Fault (List Expr) :=
  if tokens.all Token.isBlank then .ok []
  else (splitArguments 0 tokens).mapM (argument block)

/-- The tokens inside a placeholder as a call or a name. -/
def inside (block : ReadBlock) (tokens : List Token) : Except Fault Expr :=
  match splitCall? tokens with
  | some (name, args) => do
    let name ← segment block name
    return call name (← arguments block args)
  | none => (segment block tokens).map property

/-! ## Blocks -/

/-- A placeholder token as an expression, of which at most so many are inside one another. One that
holds blanks alone names nothing; in particular one without characters. -/
def readBlockTo : Nat → ReadBlock
  | 0, t => .error ⟨t.stop - 1, .namelessPlaceholder⟩
  | depth + 1, t =>
    if Text.allBlank t.text then .error ⟨t.stop - 1, .namelessPlaceholder⟩
    else do
      let tokens ← (Lexed.of .function t.textStart t.text).toTokens
      inside (readBlockTo depth) tokens

/-- A placeholder token as an expression. Each block inside it is shorter than its text. -/
def readBlock (t : Token) : Except Fault Expr :=
  readBlockTo t.text.length t

/-! ## Whole texts -/

/-- A region of text as an expression. -/
def readRegion (offset : Nat) (region : List Char) : Except Fault Expr :=
  template readBlock offset region

/-- A text as an expression. -/
def read (text : List Char) : Except Fault Expr :=
  readRegion 0 text

end RouteExpr.Expr
