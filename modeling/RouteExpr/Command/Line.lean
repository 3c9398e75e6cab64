/-
The command line: which commands there are, how their arguments are read, and what they print.

Arguments that begin with a hyphen are options until a double hyphen; an option with a value takes
it from the same argument or from the next one. An option given twice, one that is not known, and a
missing or surplus argument are usage errors.
-/
import RouteExpr.Command.Check
import RouteExpr.Json.Printer

namespace RouteExpr.Command

/-! ## Requests -/

/-- What the command line asks for. -/
inductive Request where
  /-- Evaluate an expression and print its value as JSON. -/
  | eval (text : String) (input : Option String) (pretty : Bool)
  /-- Evaluate a predicate and print the outcome. -/
  | test (text : String) (input : Option String)
  /-- Read a text without evaluating it. -/
  | check (text : String) (isPredicate : Bool)
  /-- Print a page of the reference. -/
  | docs (topic : Option String)
  deriving DecidableEq, Repr

/-! ## Options -/

/-- The options and arguments of one command. -/
structure Given where
  positional : List String
  input : Option String
  pretty : Bool
  predicate : Bool
  deriving DecidableEq, Repr

/-- An option of a command. -/
inductive Switch where
  | input
  | pretty
  | predicate
  deriving DecidableEq, Repr

/-- A command by name with the options that it takes. -/
inductive Verb where
  | eval
  | test
  | check
  | docs
  deriving DecidableEq, Repr

namespace Verb

/-- The command of a name. -/
def ofName? : String → Option Verb
  | "eval" => some eval
  | "test" => some test
  | "check" => some check
  | "docs" => some docs
  | _ => none

/-- The option with a long name. -/
def long? (v : Verb) (name : String) : Option Switch :=
  match v, name with
  | eval, "input" => some .input
  | eval, "pretty" => some .pretty
  | test, "input" => some .input
  | check, "predicate" => some .predicate
  | _, _ => none

/-- The option with a letter. -/
def short? (v : Verb) (letter : Char) : Option Switch :=
  match v, letter with
  | eval, 'i' => some .input
  | eval, 'p' => some .pretty
  | test, 'i' => some .input
  | _, _ => none

end Verb

/-- Sets the input, unless it is set. -/
def Given.setInput (g : Given) (text : List Char) : Option Given :=
  if g.input.isSome then none else some { g with input := some (String.ofList text) }

/-- Sets an option without a value, unless it is set. -/
def Given.setFlag (g : Given) : Switch → Option Given
  | .input => none
  | .pretty => if g.pretty then none else some { g with pretty := true }
  | .predicate => if g.predicate then none else some { g with predicate := true }

/-- The letters of an argument after its hyphen; whether the input is still to come. -/
def readLetters (v : Verb) (g : Given) : List Char → Option (Given × Bool)
  | [] => some (g, false)
  | c :: cs =>
    match v.short? c with
    | none => none
    | some .input =>
      match cs with
      | [] => some (g, true)
      | '=' :: text => (g.setInput text).map fun g => (g, false)
      | text => (g.setInput text).map fun g => (g, false)
    | some flag => (g.setFlag flag).bind fun g => readLetters v g cs

/-- An argument after its two hyphens; whether the input is still to come. -/
def readLong (v : Verb) (g : Given) (cs : List Char) : Option (Given × Bool) :=
  let name := String.ofList (cs.takeWhile (· != '='))
  match v.long? name, cs.dropWhile (· != '=') with
  | none, _ => none
  | some .input, [] => some (g, true)
  | some .input, _ :: text => (g.setInput text).map fun g => (g, false)
  | some flag, [] => (g.setFlag flag).map fun g => (g, false)
  | some _, _ :: _ => none

/-- The arguments of a command; `awaiting` when the next one is the input. -/
def readArguments (v : Verb) (g : Given) (awaiting : Bool) : List String → Option Given
  | [] => if awaiting then none else some g
  | arg :: args =>
    match arg.toList with
    | ['-', '-'] =>
      if awaiting then none else some { g with positional := g.positional ++ args }
    | '-' :: '-' :: cs =>
      if awaiting then none
      else (readLong v g cs).bind fun (g, awaiting) => readArguments v g awaiting args
    | '-' :: c :: cs =>
      if awaiting then none
      else (readLetters v g (c :: cs)).bind fun (g, awaiting) => readArguments v g awaiting args
    | cs =>
      if awaiting then (g.setInput cs).bind fun g => readArguments v g false args
      else readArguments v { g with positional := g.positional ++ [arg] } false args

/-- The request of a command with its arguments. -/
def Verb.request? (v : Verb) (g : Given) : Option Request :=
  match v, g.positional with
  | .eval, [text] => some (.eval text g.input g.pretty)
  | .test, [text] => some (.test text g.input)
  | .check, [text] => some (.check text g.predicate)
  | .docs, [] => some (.docs none)
  | .docs, [topic] => some (.docs (some topic))
  | _, _ => none

/-- The request that a command line makes; none on a usage error. -/
def Request.ofArguments? : List String → Option Request
  | [] => none
  | name :: args =>
    (Verb.ofName? name).bind fun v =>
      (readArguments v ⟨[], none, false, false⟩ false args).bind v.request?

/-- Whether a request reads the standard input. -/
def Request.readsInput : Request → Bool
  | eval _ input _ => input.isNone
  | test _ input => input.isNone
  | _ => false

/-! ## Results -/

/-- What a run prints and the code it ends with. -/
structure Result where
  code : Nat
  out : String
  err : String
  deriving DecidableEq, Repr

/-- A finding as it is printed. -/
def Finding.shown (layout : Json.Layout) : Finding → String
  | .valid => "Syntax is valid\n"
  | .holds b => (if b then "true" else "false") ++ "\n"
  | .value doc => Json.write layout doc ++ "\n"

/-- A failure as it is printed. -/
def Failure.result (f : Failure) : Result :=
  ⟨1, "", f.message ++ if f.isBrief then "" else "\n"⟩

/-- What is printed in the end. -/
def resultOf : Except Failure String → Result
  | .ok out => ⟨0, out, ""⟩
  | .error f => f.result

/-- Carries out a check whose input may come from a stream. -/
def runCheck (environment : List (String × String)) (stream : Option ByteArray)
    (layout : Json.Layout) (c : Check) : Except Failure String := do
  let input ← if c.readOnly then pure none else readInput c.input stream
  let finding ← Check.run environment { c with input := input }
  return finding.shown layout

/-- Carries out a request. -/
def Request.run (environment : List (String × String)) (stream : Option ByteArray) :
    Request → Result
  | eval text input pretty =>
    resultOf (runCheck environment stream (if pretty then .lines else .compact)
      ⟨text, false, input, false⟩)
  | test text input => resultOf (runCheck environment stream .compact ⟨text, true, input, false⟩)
  | check text isPredicate =>
    resultOf (runCheck environment stream .compact ⟨text, isPredicate, none, true⟩)
  | docs none => ⟨0, Reference.overview, ""⟩
  | docs (some name) => resultOf ((findTopic name).map Reference.Topic.page)

end RouteExpr.Command
