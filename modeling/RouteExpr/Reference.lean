/-
The reference of the language: an overview, and a page for each topic.
-/
import RouteExpr.Text.Case

namespace RouteExpr.Reference

/-! ## Topics -/

/-- What a page of the reference is about. -/
inductive Topic where
  | grammar
  | operators
  | properties
  | functions
  | types
  deriving DecidableEq, Repr

/-- The topic that a name stands for, whatever the case of its letters. -/
def Topic.ofName? (name : String) : Option Topic :=
  match Text.lower name with
  | "syntax" => some grammar
  | "operators" | "ops" => some operators
  | "properties" | "property" | "props" => some properties
  | "functions" | "function" | "fns" => some functions
  | "types" | "type" | "classes" => some types
  | _ => none

/-! ## Pages -/

/-- Lines as a text, each ended by a line feed. -/
def ofLines (lines : List String) : String :=
  String.join (lines.map (· ++ "\n"))

/-- The page that lists the topics. -/
def overview : String :=
  ofLines [
    "SIMPLE LANGUAGE DOCUMENTATION",
    "",
    "Simple is a small expression and predicate language for message routing.",
    "Expressions interpolate $\x7b...\x7d placeholders into text; predicates compare",
    "values and combine the results with && and ||.",
    "",
    "DOCUMENTATION CATEGORIES",
    "",
    "  syntax            Placeholders, literal text, quoting, increment/decrement",
    "  operators         Comparison and logical operators in predicates",
    "  properties        Message properties a placeholder can read",
    "  functions         Built-in functions and bean invocation",
    "  types             Class names accepted by 'is' and bodyAs/headerAs",
    "",
    "QUICK REFERENCE",
    "",
    "  $\x7bbody\x7d                         Message body",
    "  $\x7bheader.foo\x7d                   Header 'foo'",
    "  $\x7bbodyAs(Integer)\x7d              Function call",
    "  $\x7bheader.count\x7d++               Increment",
    "  $\x7bheader.foo\x7d == 'abc'          Comparison",
    "  $\x7bbody\x7d contains 'x' && $\x7bheader.n\x7d > 5",
    "                                  Logical AND (binds tighter than ||)",
    "",
    "Run 'simple docs <category>' for detailed documentation."]

/-- The page about placeholders, literal text and quoting. -/
def grammarPage : String :=
  ofLines [
    "SYNTAX",
    "",
    "PLACEHOLDERS",
    "  $\x7bname\x7d               Resolve a property path or zero-argument function",
    "  $simple\x7bname\x7d         Same as $\x7bname\x7d",
    "  $\x7bname(a, b)\x7d         Call a function; arguments are split on top-level commas",
    "  $\x7bname('a,b')\x7d        Quoted arguments keep commas and spaces",
    "  $\x7bheader.$\x7bbody\x7d\x7d     Placeholders nest; the inner one is resolved first",
    "",
    "LITERAL TEXT",
    "  Everything outside a placeholder is literal text in an expression,",
    "  quotes included:",
    "",
    "    Hello $\x7bbody\x7d!          => Hello World!",
    "    +++++++++++++           => +++++++++++++",
    "",
    "INCREMENT / DECREMENT",
    "  ++ or -- written directly after a placeholder adds or subtracts one:",
    "",
    "    $\x7bheader.count\x7d++       (count = 123)  => 124",
    "    Logging ++ start ++     => Logging ++ start ++  (unchanged)",
    "",
    "QUOTING IN PREDICATES",
    "  String operands are single or double quoted and may contain placeholders:",
    "",
    "    $\x7bheader.name\x7d == 'Hello $\x7bbody\x7d'",
    "",
    "  Bare words on the right of an operator must be numbers, true, false or",
    "  null. Anything else is a syntax error located at the word.",
    "",
    "ERRORS",
    "  Syntax errors report the 0-based character offset of the token that",
    "  caused the failure:",
    "",
    "    $\x7bbody\x7d == == 'foo'",
    "                 ^"]

/-- The page about the operators of predicates. -/
def operatorsPage : String :=
  ofLines [
    "OPERATORS",
    "",
    "COMPARISON",
    "  ==   !=               Equality; numbers compare numerically",
    "  =~   !=~              Case-insensitive equality",
    "  >  >=  <  <=          Ordering; numeric when both sides are numbers",
    "  contains  !contains   Substring, or membership for a list",
    "  ~~   !~~              Case-insensitive substring",
    "  in  not in  !in       Membership in a comma separated list: 'a,b,c'",
    "  regex  not regex      The whole value matches the pattern",
    "  is  not is  !is       Type check: $\x7bbody\x7d is String",
    "  range  not range      Inclusive numeric range: 100..199",
    "  starts with           Prefix (also startsWith)",
    "  ends with             Suffix (also endsWith)",
    "",
    "  Any keyword operator can be negated with 'not ' or a '!' prefix.",
    "",
    "NULL",
    "  null is the absent value. Only null equals null, and every ordering",
    "  comparison involving null is false:",
    "",
    "    $\x7bheader.missing\x7d == null     => true",
    "    $\x7bbody\x7d == null               (body '') => false",
    "",
    "LOGICAL",
    "  &&  and               Both sides must hold",
    "  ||  or                Either side must hold",
    "",
    "  && binds tighter than ||. There are no parentheses:",
    "",
    "    a || b && c   is   a || (b && c)",
    "",
    "  Evaluation short-circuits from left to right.",
    "",
    "TRUTHINESS",
    "  A placeholder alone is a condition. It holds when the value is present,",
    "  and for text when it is non-empty and not 'false'. An empty predicate is",
    "  always false."]

/-- The page about the properties of a message. -/
def propertiesPage : String :=
  ofLines [
    "PROPERTIES",
    "",
    "  body, in.body               The message body",
    "  body.items.0                Navigate into map and list bodies",
    "  header.foo                  Header 'foo' (also header:foo, header[foo],",
    "                              headers.foo, in.header.foo)",
    "  headers                     All headers as a map",
    "  exchangeProperty.foo        Exchange property 'foo'",
    "  variable.foo                Variable 'foo'",
    "  sys.NAME  sysenv.NAME  env.NAME",
    "                              Process environment variable",
    "  messageHistory              Ids of the steps the message went through",
    "",
    "  Missing headers, properties and variables resolve to null. Unknown",
    "  property paths are an evaluation error."]

/-- The page about functions and beans. -/
def functionsPage : String :=
  ofLines [
    "FUNCTIONS",
    "",
    "TYPED ACCESS",
    "  bodyAs(Type)                Body converted to a type",
    "  headerAs(name, Type)        Header converted to a type",
    "",
    "TEXT",
    "  uppercase([value])          Upper case; the body when no value is given",
    "  lowercase([value])          Lower case",
    "  trim([value])               Without surrounding whitespace",
    "  length([value])             Characters of text, elements of a list",
    "  isEmpty([value])            True for null, '' and empty collections",
    "  not([value])                Negated truthiness",
    "  concat(a, b, ...)           Arguments joined as text",
    "  substringBefore([value,] separator)",
    "  substringAfter([value,] separator)",
    "  replace(from, to[, value])",
    "",
    "BEANS",
    "  $\x7bbean:generator.generateId\x7d         Invoke a registered bean method",
    "  $\x7bbean:generator.next('order')\x7d      With arguments"]

/-- The page about the class names. -/
def typesPage : String :=
  ofLines [
    "TYPES",
    "",
    "  String    java.lang.String, CharSequence",
    "  Integer   int, Long, long, java.lang.Integer, java.lang.Long",
    "  Double    double, Float, float, java.lang.Double, java.lang.Float",
    "  Number    java.lang.Number (any numeric value)",
    "  Boolean   boolean, java.lang.Boolean",
    "  List      Collection, java.util.List, java.util.Collection",
    "  Map       java.util.Map",
    "  Object    java.lang.Object (any value that is not null)",
    "",
    "  Class names are resolved when a predicate is parsed; an unknown name is a",
    "  syntax error located at the name. Names may be quoted:",
    "",
    "    $\x7bbody\x7d is 'java.lang.String'"]

/-- The page about a topic. -/
def Topic.page : Topic → String
  | grammar => grammarPage
  | operators => operatorsPage
  | properties => propertiesPage
  | functions => functionsPage
  | types => typesPage

end RouteExpr.Reference
