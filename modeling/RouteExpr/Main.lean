/-
The command line program.

It reads the arguments, the environment and, where a request needs it, the standard input; all else
is `Command.Request.run`.
-/
import RouteExpr.Command.Line

open RouteExpr

/-! ## Reading -/

/-- Everything that a stream yields. -/
partial def readAll (stream : IO.FS.Stream) (sofar : ByteArray) : IO ByteArray := do
  let chunk ← stream.read 65536
  if chunk.isEmpty then return sofar else readAll stream (sofar ++ chunk)

/-- The standard input, unless it is a terminal. -/
def readStandardInput : IO (Option ByteArray) := do
  let stream ← IO.getStdin
  if ← stream.isTty then return none else return some (← readAll stream .empty)

/-- A variable of the environment as it is listed: its name, an equals sign, and its text. -/
def readVariable (entry : List Char) : Option (String × String) :=
  (Text.cut? ['='] entry).map fun (name, text) => (String.ofList name, String.ofList text)

/-- The variables of the environment. -/
def readEnvironment : IO (List (String × String)) := do
  try
    let bytes ← IO.FS.readBinFile "/proc/self/environ"
    let text := (String.fromUTF8? bytes).getD ""
    return (Text.splitOn '\x00' text.toList).filterMap readVariable
  catch _ => return []

/-! ## Running -/

/-- Runs the program. -/
def main (args : List String) : IO UInt32 := do
  match Command.Request.ofArguments? args with
  | none =>
    IO.eprintln "usage: simple eval|test|check|docs"
    return 2
  | some request =>
    let stream ← if request.readsInput then readStandardInput else pure none
    let result := request.run (← readEnvironment) stream
    IO.print result.out
    IO.eprint result.err
    return UInt32.ofNat result.code
