/-
Reading predicates.

A text is a chain of conditions with a connective between each and the next. A condition is a value,
or a comparison of one with an operand whose form depends on the operator: a class name after `is`,
two numbers after `range`, a pattern after `regex`, and else a value.
-/
import RouteExpr.Expr.Reader
import RouteExpr.Predicate

namespace RouteExpr.Predicate

/-! ## Bare words -/

/-- A text as a number: an integer when it is one of 64 bits, else a finite float. -/
def readNumber? (text : List Char) : Option Expr :=
  match readInt64? text with
  | some i => some (.integer i)
  | none =>
    (Numeral.read? text).bind fun n =>
      let x := Double.ofNumeral n
      if x.isFinite then some (.float x) else none

/-- A bare word as a value: a boolean, null, or a number. -/
def readWord? (word : List Char) : Option Expr :=
  match String.ofList word with
  | "true" => some (.boolean true)
  | "false" => some (.boolean false)
  | "null" => some .null
  | _ => readNumber? word

/-- The fault of a token that cannot stand where it does. -/
def unexpected {α : Type} (t : Token) : Except Fault α :=
  .error ⟨t.faultOffset, .unexpectedToken (String.ofList t.text)⟩

/-! ## Values -/

/-- Placeholders and quoted texts that stand side by side, and what follows them. -/
def readParts : Lexed → Except Fault (List Expr × Lexed)
  | .eof offset => .ok ([], .eof offset)
  | .fault f => .error f
  | .token t rest =>
    match t.kind with
    | .placeholder _ => do
      let _ ← rest.ready
      let node ← Expr.readBlock t
      match rest with
      | .token ⟨.suffix s, _, _⟩ rest => do
        let (parts, rest) ← readParts rest
        return (.step s node :: parts, rest)
      | rest => do
        let (parts, rest) ← readParts rest
        return (node :: parts, rest)
    | .quoted _ => do
      let _ ← rest.ready
      let node ← Expr.readRegion t.textStart t.text
      let (parts, rest) ← readParts rest
      return (node :: parts, rest)
    | _ => .ok ([], .token t rest)

/-- A value: a single bare word, or placeholders and quoted texts side by side. -/
def readValue : Lexed → Except Fault (Expr × Lexed)
  | .eof offset => .error ⟨offset, .missingValue⟩
  | .fault f => .error f
  | .token t rest =>
    match t.kind with
    | .literal => do
      let rest ← rest.ready
      match readWord? t.text with
      | some e => return (e, rest)
      | none => unexpected t
    | .placeholder _ => (readParts (.token t rest)).map fun (parts, rest) => (.join parts, rest)
    | .quoted _ => (readParts (.token t rest)).map fun (parts, rest) => (.join parts, rest)
    | _ => unexpected t

/-! ## Operands -/

/-- Whether a text has a marker in it. -/
def hasMarker : List Char → Bool
  | [] => false
  | c :: cs => Lexer.startsMarker (c :: cs) || hasMarker cs

/-- A bound of a range, at an offset: an expression if it has a placeholder, else a number. -/
def readBound (offset : Nat) (text : List Char) : Except Fault Expr :=
  if hasMarker text then Expr.readRegion offset text
  else
    let bound := Text.trim text
    if bound.head? = some '.' || bound.getLast? = some '.' then
      .error ⟨offset, .dottedBound (String.ofList bound)⟩
    else
      match readNumber? bound with
      | some e => .ok e
      | none => .error ⟨offset, .boundNotNumber (String.ofList bound)⟩

/-- The two bounds of a range around the first two dots. -/
def readRange (t : Token) : Except Fault Operand :=
  match Text.cut? ['.', '.'] t.text with
  | none => .error ⟨t.textStart + t.text.length, .noRange (String.ofList t.text)⟩
  | some (low, high) => do
    let low' ← readBound t.textStart low
    return .range low' (← readBound (t.textStart + low.length + 2) high)

/-- A pattern that is written out. -/
def readPattern (t : Token) : Except Fault Operand :=
  let source := String.ofList t.text
  match Pattern.compile? source with
  | some p => .ok (.pattern p)
  | none => .error ⟨t.textStart, .invalidPattern source⟩

/-- A class name as a type. -/
def readType (classes : ClassTable) (t : Token) : Except Fault Operand :=
  let name := String.ofList t.text
  match classes.resolve? name with
  | some type => .ok (.type type)
  | none => .error ⟨t.start, .unknownClass name⟩

/-- The operand of an operator, `symbol` being the operator as written. -/
def readOperand (classes : ClassTable) (op : Operator) (symbol : Token) :
    Lexed → Except Fault (Operand × Lexed)
  | .fault f => .error f
  | .eof _ => .error ⟨symbol.faultOffset, .operatorAtEnd (String.ofList symbol.text)⟩
  | .token t rest =>
    let name := String.ofList symbol.text
    let single (read : Token → Except Fault Operand) : Except Fault (Operand × Lexed) := do
      let rest ← rest.ready
      return (← read t, rest)
    let value : Except Fault (Operand × Lexed) :=
      (readValue (.token t rest)).map fun (e, rest) => (.value e, rest)
    match t.kind with
    | .connective _ => .error ⟨symbol.faultOffset, .operatorAtEnd name⟩
    | .operator _ => .error ⟨t.faultOffset, .operatorBefore name (String.ofList t.text)⟩
    | kind =>
      match op.comparison with
      | .type =>
        if kind.isText then single (readType classes)
        else .error ⟨t.start, .operatorBefore name (String.ofList t.text)⟩
      | .range => if kind.isText then single readRange else value
      | .regex => if kind.isText && !hasMarker t.text then single readPattern else value
      | _ => value

/-! ## Conditions -/

/-- A value alone, or with an operator and its operand. -/
def readCondition (classes : ClassTable) (l : Lexed) : Except Fault (Predicate × Lexed) := do
  match l with
  | .token t _ =>
    match t.kind with
    | .operator _ => .error ⟨t.faultOffset, .operatorAtStart (String.ofList t.text)⟩
    | .connective _ => .error ⟨t.faultOffset, .connectiveAtStart (String.ofList t.text)⟩
    | _ => pure ()
  | _ => pure ()
  let (left, rest) ← readValue l
  let rest ← rest.skipBlanks
  match rest with
  | .token ⟨.operator op, text, start⟩ after => do
    let (right, rest) ← readOperand classes op ⟨.operator op, text, start⟩ (← after.skipBlanks)
    return (.comparison left op right, rest)
  | rest =>
    match left with
    | .boolean b => return (.constant b, rest)
    | left => return (.truthy left, rest)

/-- Checks that a condition can start after a connective. -/
def checkAfter (connective : Token) : Lexed → Except Fault Unit
  | .eof _ => .error ⟨connective.faultOffset, .connectiveAtEnd (String.ofList connective.text)⟩
  | .fault f => .error f
  | .token t _ =>
    let refuse : Except Fault Unit :=
      .error ⟨t.faultOffset,
        .connectiveBefore (String.ofList connective.text) (String.ofList t.text)⟩
    match t.kind with
    | .connective _ => refuse
    | .operator _ => refuse
    | _ => .ok ()

/-! ## Chains -/

/-- A condition in front of the groups that follow it past a connective. -/
def attach (p : Predicate) (connective : Connective) (groups : List (List Predicate)) :
    List (List Predicate) :=
  match connective, groups with
  | .and, group :: groups => (p :: group) :: groups
  | _, groups => [p] :: groups

/-- The groups of conditions that a text holds, at most so many conditions and one. -/
def readChain (classes : ClassTable) : Nat → Lexed → Except Fault (List (List Predicate))
  | bound, l => do
    let (p, rest) ← readCondition classes l
    match ← rest.skipBlanks with
    | .eof _ => return [[p]]
    | .fault f => .error f
    | .token t rest =>
      match bound with
      | 0 => unexpected t
      | n + 1 =>
        match t.kind with
        | .connective c => do
          let rest ← rest.skipBlanks
          checkAfter t rest
          return attach p c (← readChain classes n rest)
        | _ => unexpected t

/-- A text as a predicate. Blanks alone never hold. -/
def read (classes : ClassTable) (text : List Char) : Except Fault Predicate := do
  let l ← (Lexed.of .predicate 0 text).skipBlanks
  match l with
  | .eof _ => return .constant false
  | l => return ofGroups (← readChain classes l.size l)

end RouteExpr.Predicate
