/-
The text that shows a host in full: every value with its kind, and the names of its methods.
-/
import RouteExpr.Message.Host
import RouteExpr.Text.Quoted

namespace RouteExpr

/-! ## Values -/

/-- A double with a place at least: positional from `10 ^ -4` to below `10 ^ 16`, else with a power
of ten. -/
def Double.detailed (x : Double) : String :=
  match x.view with
  | .finite negative m e =>
    let body :=
      if m = 0 then "0.0".toList
      else
        let d := Double.shortest .up m e
        if d.leading < -4 || 15 < d.leading then d.scientific false else d.pointed
    String.ofList ((if negative then ['-'] else []) ++ body)
  | _ => String.ofList x.text

/-- Parts between brackets, with commas between them. -/
def bracketed (opening closing : String) (parts : List String) : String :=
  opening ++ String.intercalate ", " parts ++ closing

namespace Value

mutual

/-- A value with its kind. -/
def detailed : Value → String
  | null => "Null"
  | boolean b => "Boolean(" ++ (if b then "true" else "false") ++ ")"
  | float x => "Float(" ++ x.detailed ++ ")"
  | integer i => "Integer(" ++ String.ofList (writeInt i.toInt) ++ ")"
  | string s => "String(" ++ Text.quoted s ++ ")"
  | array items => "Array(" ++ bracketed "[" "]" (detailedItems items) ++ ")"
  | object fields => "Object(" ++ bracketed "\x7b" "\x7d" (detailedFields fields) ++ ")"

/-- Values with their kinds. -/
def detailedItems : List Value → List String
  | [] => []
  | v :: vs => detailed v :: detailedItems vs

/-- Keys with values and their kinds. -/
def detailedFields : List (String × Value) → List String
  | [] => []
  | (k, v) :: rest => (Text.quoted k ++ ": " ++ detailed v) :: detailedFields rest

end

end Value

/-! ## Messages and hosts -/

/-- Named parts of something that has a name. -/
def labelled (name : String) (parts : List (String × String)) : String :=
  bracketed (name ++ " \x7b ") " \x7d" (parts.map fun (key, text) => key ++ ": " ++ text)

/-- A message in full. -/
def Message.detailed (m : Message) : String :=
  let fields (fs : Fields) : String := bracketed "\x7b" "\x7d" (Value.detailedFields fs)
  labelled "Message" [
    ("body", m.body.detailed),
    ("headers", fields m.headers),
    ("properties", fields m.properties),
    ("variables", fields m.vars),
    ("history", bracketed "[" "]" (m.history.map Text.quoted))]

/-- A host in full. -/
def Host.detailed (h : Host) : String :=
  labelled "MessageContext" [
    ("message", h.message.detailed),
    ("beans", bracketed "[" "]" (h.methodNames.map Text.quoted))]

end RouteExpr
