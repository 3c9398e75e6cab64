/-
Patterns: regular expressions that have to match the whole of a text.

The source is put into a group between the anchors of the text before it is read, and the result is
searched for. What the source makes of that text decides, so an unbalanced source may escape its
group.
-/
import RouteExpr.Pattern.Reader
import RouteExpr.Text.Quoted

namespace RouteExpr

/-! ## Patterns -/

namespace Pattern

/-- The text that is read for a source. -/
def anchored (source : String) : List Char :=
  "^(?:".toList ++ source.toList ++ ")$".toList

end Pattern

/-- A source with the regular expression that it writes between the anchors. -/
structure Pattern where
  source : String
  regex : Pattern.Regex
  reads : Pattern.Regex.read? (Pattern.anchored source) = some regex

namespace Pattern

/-- The pattern of a source, if that is a regular expression between the anchors. -/
def compile? (source : String) : Option Pattern :=
  match h : Regex.read? (anchored source) with
  | some regex => some ⟨source, regex, h⟩
  | none => none

/-- Patterns are equal when their sources are. -/
theorem ext_source {p q : Pattern} (h : p.source = q.source) : p = q := by
  obtain ⟨s, r, hp⟩ := p
  obtain ⟨t, u, hq⟩ := q
  cases h
  cases (hp.symm.trans hq : some r = some u)
  rfl

instance : DecidableEq Pattern := fun p q =>
  if h : p.source = q.source then isTrue (ext_source h)
  else isFalse fun e => h (congrArg Pattern.source e)

/-- Whether the pattern matches a text. -/
def matches? (p : Pattern) (text : String) : Bool :=
  p.regex.occursIn text.toList

/-- The text that shows a pattern. -/
def shown (p : Pattern) : String :=
  "Pattern(" ++ Text.quoted p.source ++ ")"

end Pattern

end RouteExpr
