/-
A message with what its host adds to it: methods of beans, class names, and the variables of the
environment.
-/
import RouteExpr.Evaluation.Basic
import RouteExpr.Message
import RouteExpr.Text.Case

namespace RouteExpr

/-! ## Hosts -/

/-- A method of a bean: a value for its arguments, or the text of a failure. -/
abbrev Method := List Value → Except String Value

/-- What a message is evaluated with. -/
structure Host where
  message : Message
  /-- The methods by bean and name, with a dot between the two. -/
  methods : List (String × Method)
  /-- The class names that conversions know. -/
  classes : ClassTable
  /-- The variables of the environment. -/
  environment : List (String × String)

namespace Host

/-- A message with the standard class names and nothing else. -/
def ofMessage (message : Message) : Host :=
  ⟨message, [], .standard, []⟩

/-- The host with one method more, in place of one with the same name. -/
def withMethod (h : Host) (bean name : String) (method : Method) : Host :=
  let key := bean ++ "." ++ name
  { h with methods := (key, method) :: h.methods.filter fun entry => entry.1 != key }

/-- The names of all methods, sorted. -/
def methodNames (h : Host) : List String :=
  (h.methods.map Prod.fst).mergeSort fun a b => a ≤ b

/-- The result of a method. -/
def callMethod (h : Host) (reference : String) (args : List Value) : Outcome Value :=
  let name := "bean:" ++ reference
  match h.methods.find? fun entry => entry.1 == reference with
  | none => .error (.unknownFunction name)
  | some (_, method) =>
    match method args with
    | .ok v => .ok v
    | .error cause => .error (.invocation name cause)

/-! ## Headers -/

/-- Whether two names are equal but for the case of letters of ASCII. -/
def equalsIgnoringCase (a b : String) : Bool :=
  a.toList.map Char.toLower == b.toList.map Char.toLower

/-- The header of exactly this name, else the first of this name but for case, else null. -/
def header (h : Host) (name : String) : Value :=
  match h.message.headers.get? name with
  | some v => v
  | none =>
    match h.message.headers.find? fun field => equalsIgnoringCase field.1 name with
    | some (_, v) => v
    | none => .null

/-! ## Functions -/

/-- The number of characters of a text, of elements of a list, of keys of an object. -/
def sizeOf : Value → Nat
  | .null => 0
  | .string s => s.length
  | .array items => items.length
  | .object fields => fields.length
  | v => v.text.length

/-- A function of text applied to the text of a value; null stays null. -/
def mapText (f : String → String) (v : Value) : Value :=
  if v.isNull then .null else .string (f v.text)

/-- The part of a text before the first occurrence of a separator, or after it; null without one. -/
def substring (before : Bool) (subject separator : Value) : Value :=
  if subject.isNull then .null
  else
    match Text.cut? separator.text.toList subject.text.toList with
    | some (left, right) => .string (String.ofList (if before then left else right))
    | none => .null

/-- A text with each occurrence of another replaced. -/
def replace (old new subject : Value) : Value :=
  let replaced (s : String) : List Char :=
    Text.replaceAll old.text.toList new.text.toList s.toList
  mapText (fun s => String.ofList (replaced s)) subject

/-- The refusal of a number of arguments. -/
def refuseCount {α : Type} (function expected : String) : Outcome α :=
  .error (.invalidArguments function (.count expected))

/-- A value converted to the type that another value names. -/
def convertTo (h : Host) (function : String) (v target : Value) : Outcome Value :=
  match h.classes.resolve? target.text with
  | none => .error (.invalidArguments function (.unknownType target.text))
  | some type =>
    match type.convert? v with
    | some w => .ok w
    | none => .error (.typeMismatch (.conversion v.kind v.text type))

/-- A function of one value, which is the body when no argument is given. -/
def ofSubject (h : Host) (name : String) (args : List Value) (f : Value → Value) : Outcome Value :=
  match args with
  | [] => .ok (f h.message.body)
  | [v] => .ok (f v)
  | _ => refuseCount name "at most one argument"

/-- The result of a function of the language; `none` when there is no function of this name. -/
def builtin? (h : Host) (name : String) (args : List Value) : Option (Outcome Value) :=
  let body := h.message.body
  match name with
  | "messageHistory" => some (.ok (.array (h.message.history.map Value.string)))
  | "bodyAs" => some (
    match args with
    | [target] => h.convertTo name body target
    | _ => refuseCount name "a type name")
  | "headerAs" => some (
    match args with
    | [key, target] => h.convertTo name (h.header key.text) target
    | _ => refuseCount name "a header name and a type name")
  | "uppercase" => some (h.ofSubject name args (mapText Text.upper))
  | "lowercase" => some (h.ofSubject name args (mapText Text.lower))
  | "trim" => some (h.ofSubject name args (mapText Text.trimmed))
  | "length" => some (h.ofSubject name args fun v => .integer (Int64.ofNat (sizeOf v)))
  | "isEmpty" => some (h.ofSubject name args fun v => .boolean (sizeOf v = 0))
  | "not" => some (h.ofSubject name args fun v => .boolean !v.isTruthy)
  | "concat" => some (.ok (.string (String.join (args.map Value.text))))
  | "substringBefore" => some (
    match args with
    | [separator] => .ok (substring true body separator)
    | [subject, separator] => .ok (substring true subject separator)
    | _ => refuseCount name "an optional value and a separator")
  | "substringAfter" => some (
    match args with
    | [separator] => .ok (substring false body separator)
    | [subject, separator] => .ok (substring false subject separator)
    | _ => refuseCount name "an optional value and a separator")
  | "replace" => some (
    match args with
    | [old, new] => .ok (replace old new body)
    | [old, new, subject] => .ok (replace old new subject)
    | _ => refuseCount name "from, to and an optional value")
  | _ => none

/-- The result of a method or a function, unless there is none of this name. -/
def call? (h : Host) (name : String) (args : List Value) : Option (Outcome Value) :=
  match Text.afterStart? "bean:".toList name.toList with
  | some reference => some (h.callMethod (String.ofList reference) args)
  | none => h.builtin? name args

/-! ## Paths -/

/-- The value at a path of keys and indices. A missing key, an index past the end and everything
below null are null; below a scalar there is nothing. -/
def navigateKeys (v : Value) : List (List Char) → Option Value
  | [] => some v
  | key :: keys =>
    match v with
    | .null => some .null
    | .object fields => navigateKeys ((Fields.get? fields (String.ofList key)).getD .null) keys
    | .array items =>
      match readIndex? key with
      | some i => navigateKeys (items[i]?.getD .null) keys
      | none => none
    | _ => none

/-- The value at a path with dots between its keys. -/
def navigate (v : Value) (path : List Char) : Option Value :=
  navigateKeys v (Text.splitOn '.' path)

/-- The key of a path that starts with a word: after a dot or a colon, or between brackets. -/
def keyAfter? (path : List Char) (word : String) : Option (List Char) :=
  match Text.afterStart? word.toList path with
  | some ('.' :: key) => some key
  | some (':' :: key) => some key
  | some ('[' :: rest) => Text.beforeEnd? [']'] rest
  | _ => none

/-- The value under a key, null without one. -/
def fieldOrNull (fields : Fields) (key : List Char) : Value :=
  (fields.get? (String.ofList key)).getD .null

/-- The variable of the environment under a key, null without one. -/
def environmentValue (h : Host) (key : List Char) : Value :=
  match h.environment.find? fun entry => entry.1 == String.ofList key with
  | some (_, text) => .string text
  | none => .null

/-- The value of a path: of the body, of everything of one kind, under a key, or of a function
without arguments. -/
def property (h : Host) (path : String) : Outcome Value :=
  let path := (Text.afterStart? "in.".toList path.toList).getD path.toList
  let name := String.ofList path
  let m := h.message
  if name = "body" then .ok m.body
  else
    match Text.afterStart? "body.".toList path with
    | some rest =>
      match navigate m.body rest with
      | some v => .ok v
      | none => .error (.propertyNotFound name)
    | none =>
      match name with
      | "headers" => .ok (.object m.headers)
      | "exchangeProperties" => .ok (.object m.properties)
      | "variables" => .ok (.object m.vars)
      | _ =>
        match ["headers", "header"].findSome? (keyAfter? path) with
        | some key => .ok (h.header (String.ofList key))
        | none =>
          match keyAfter? path "exchangeProperty" with
          | some key => .ok (fieldOrNull m.properties key)
          | none =>
            match keyAfter? path "variable" with
            | some key => .ok (fieldOrNull m.vars key)
            | none =>
              match ["sys", "sysenv", "env"].findSome? (keyAfter? path) with
              | some key => .ok (h.environmentValue key)
              | none => (h.call? name []).getD (.error (.propertyNotFound name))

/-- The result of a function. -/
def invoke (h : Host) (name : String) (args : List Value) : Outcome Value :=
  (h.call? name args).getD (.error (.unknownFunction name))

/-- The context in which the placeholders of a message are resolved. -/
def context (h : Host) : Context :=
  ⟨h.property, h.invoke⟩

end Host

end RouteExpr
