/-
Evaluating a text against a message given as JSON.

The text is read first, then the message, then the text is evaluated; the first of these that fails
is the outcome. Blank input is the empty message.
-/
import RouteExpr.Json.Reader
import RouteExpr.Language
import RouteExpr.Message.Host
import RouteExpr.Reference

namespace RouteExpr.Command

/-! ## Errors -/

/-- Why a command fails. -/
inductive Failure where
  | text (e : SyntaxError)
  | evaluation (e : EvaluationError)
  | json
  /-- Input that is not UTF-8. -/
  | encoding
  | unknownTopic (name : String)
  deriving DecidableEq, Repr

/-- The wording of a failure. What is wrong with a pattern or with a JSON text is not told. -/
def Failure.message : Failure → String
  | text e => "Syntax error: " ++ if e.isPattern then e.message else e.shown
  | evaluation e => "Evaluation error: " ++ e.message
  | json => "Invalid JSON"
  | encoding => "IO error: stream did not contain valid UTF-8"
  | unknownTopic name =>
    "Unknown category: '" ++ name ++ "'\nRun 'simple docs' to see available categories."

/-- Whether the wording leaves out what is wrong. -/
def Failure.isBrief : Failure → Bool
  | text e => e.isPattern
  | evaluation (.invalidPattern _) => true
  | json => true
  | _ => false

/-! ## Checks -/

/-- A text with what it is to be evaluated against. -/
structure Check where
  text : String
  /-- Whether the text is a predicate rather than an expression. -/
  isPredicate : Bool
  /-- The message as JSON. -/
  input : Option String
  /-- Whether the text is only read and not evaluated. -/
  readOnly : Bool

/-- What a check finds. -/
inductive Finding where
  /-- The text can be read. -/
  | valid
  | value (doc : Json)
  | holds (b : Bool)

namespace Check

/-- The message that a text describes. -/
def message (input : Option String) : Except Failure Message :=
  let cs := (input.getD "").toList
  if Text.allBlank cs then .ok .empty
  else
    match Json.parse? cs with
    | some doc => .ok (.ofJson doc)
    | none => .error .json

/-- The context of a check in an environment. -/
def context (environment : List (String × String)) (c : Check) : Except Failure Context := do
  let m ← message c.input
  return { Host.ofMessage m with environment := environment }.context

/-- Carries out a check. -/
def run (environment : List (String × String)) (c : Check) : Except Failure Finding :=
  if c.isPredicate then do
    let rule ← (Rule.parse .standard c.text).mapError .text
    if c.readOnly then return .valid
    let ctx ← c.context environment
    return .holds (← (rule.holds ctx).mapError .evaluation)
  else do
    let expression ← (Expression.parse c.text).mapError .text
    if c.readOnly then return .valid
    let ctx ← c.context environment
    return .value (.ofValue (← (expression.evaluate ctx).mapError .evaluation))

end Check

/-! ## Input -/

/-- The text of a check's input: the one given, else what a stream yields, if there is one. -/
def readInput (given : Option String) (stream : Option ByteArray) :
    Except Failure (Option String) :=
  match given, stream with
  | some text, _ => .ok (some text)
  | none, none => .ok none
  | none, some bytes =>
    match String.fromUTF8? bytes with
    | some text => .ok (some text)
    | none => .error .encoding

/-! ## Reference -/

/-- The topic with a name. -/
def findTopic (name : String) : Except Failure Reference.Topic :=
  match Reference.Topic.ofName? name with
  | some topic => .ok topic
  | none => .error (.unknownTopic name)

end RouteExpr.Command
