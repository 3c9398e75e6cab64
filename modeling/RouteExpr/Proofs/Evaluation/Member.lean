/-
Membership in a list and in a text with commas.

A list is searched by the texts of its items, a text part by part after it is split at its commas and each part
is trimmed. The texts that come back from between commas and blanks are those without a comma and without a
blank at either end. As long as the items of a list have such texts, the list and their texts between commas
have the same members.
-/
import RouteExpr.Evaluation
import RouteExpr.Proofs.Message.Path

namespace RouteExpr

/-! ## Texts between commas -/

namespace Text

/-- A text that comes back from between commas and blanks. -/
structure IsPart (cs : List Char) : Prop where
  comma : ',' ∉ cs
  first : ∀ c ∈ cs.head?, isBlank c = false
  last : ∀ c ∈ cs.getLast?, isBlank c = false

/-- A text with any blanks around it. -/
inductive Spaced (cs : List Char) : List Char → Prop
  | mk (before after : List Char) (hbefore : allBlank before = true) (hafter : allBlank after = true) :
    Spaced cs (before ++ cs ++ after)

/-- Texts, one at least, with commas between them and any blanks around each. -/
inductive Listed : List (List Char) → List Char → Prop
  | single {part spaced : List Char} (hspaced : Spaced part spaced) : Listed [part] spaced
  | cons {part spaced rest : List Char} {parts : List (List Char)} (hspaced : Spaced part spaced)
    (hrest : Listed parts rest) : Listed (part :: parts) (spaced ++ ',' :: rest)

namespace Spaced

variable {part spaced : List Char}

theorem trim (h : Spaced part spaced) (hpart : IsPart part) : trim spaced = part := by
  obtain ⟨before, after, hbefore, hafter⟩ := h
  exact trim_between hbefore hafter hpart.first hpart.last

/-- The comma is no blank, so blanks bring none. -/
theorem comma (h : Spaced part spaced) (hpart : IsPart part) : ',' ∉ spaced := by
  have hblank {bs : List Char} (hbs : allBlank bs = true) : ',' ∉ bs := fun hmem =>
    absurd (List.all_eq_true.1 hbs ',' hmem) (by decide)
  obtain ⟨before, after, hbefore, hafter⟩ := h
  rw [List.mem_append, List.mem_append]
  rintro ((hmem | hmem) | hmem)
  · exact hblank hbefore hmem
  · exact hpart.comma hmem
  · exact hblank hafter hmem

end Spaced

/-- Splitting at the commas and trimming undoes the listing. -/
theorem Listed.trim_splitOn {parts : List (List Char)} {cs : List Char} (h : Listed parts cs)
    (hparts : ∀ part ∈ parts, IsPart part) : (splitOn ',' cs).map trim = parts := by
  induction h with
  | single hspaced =>
    have hpart := hparts _ List.mem_cons_self
    rw [splitOn_of_not_mem (hspaced.comma hpart), List.map_singleton, hspaced.trim hpart]
  | cons hspaced _ ih =>
    obtain ⟨hpart, hrest⟩ := List.forall_mem_cons.1 hparts
    rw [splitOn_append (hspaced.comma hpart), List.map_cons, hspaced.trim hpart, ih hrest]

end Text

/-! ## Members -/

namespace Value

variable {left : Value} {items : List Value} {s : String}

theorem memberOf_array : left.memberOf (.array items) = true ↔
    left ≠ .null ∧ ∃ item ∈ items, item.text = left.text := by
  have hnull : left.isNull = false ↔ left ≠ .null := by cases left <;> simp [isNull]
  rw [memberOf, Bool.and_eq_true, Bool.not_eq_true', hnull, List.any_eq_true]
  simp only [beq_iff_eq]

/-- A text has the members of a list whose texts it lists. -/
theorem memberOf_listed (hitems : ∀ item ∈ items, Text.IsPart item.text.toList)
    (hs : Text.Listed (items.map fun item => item.text.toList) s.toList) :
    left.memberOf (.string s) = left.memberOf (.array items) := by
  have hparts : (Text.splitOn ',' s.toList).map Text.trim = items.map fun item => item.text.toList :=
    hs.trim_splitOn (List.forall_mem_map.2 hitems)
  calc left.memberOf (.string s)
      = (!left.isNull &&
          ((Text.splitOn ',' s.toList).map Text.trim).any fun part => String.ofList part == left.text) := by
        rw [List.any_map]
        rfl
    _ = left.memberOf (.array items) := by
        rw [hparts, List.any_map, memberOf]
        simp only [Function.comp_def, String.ofList_toList]

end Value

namespace Predicate

variable {ctx : Context} {e list text : Expr} {left : Value} {items : List Value} {s : String}

theorem evaluate_member {right : Expr} {w : Value} (he : e.evaluate ctx = .ok left)
    (hright : right.evaluate ctx = .ok w) (negated : Bool) :
    (comparison e ⟨.member, negated⟩ (.value right)).evaluate ctx = .ok (left.memberOf w != negated) := by
  rw [evaluate, he, ok_bind, compareWith, hright, ok_bind, Comparison.holds, ok_bind]
  rfl

/-- A value is in a list exactly when it is in the text that lists the texts of the items, commas between them
and any blanks around the commas, if no comma and no blank at an end is in those texts. That is when it is not
null and has the text of an item. -/
theorem member_listed (he : e.evaluate ctx = .ok left) (hlist : list.evaluate ctx = .ok (.array items))
    (htext : text.evaluate ctx = .ok (.string s)) (hitems : ∀ item ∈ items, Text.IsPart item.text.toList)
    (hs : Text.Listed (items.map fun item => item.text.toList) s.toList) (negated : Bool) :
    ∃ holds : Bool, (holds = true ↔ left ≠ .null ∧ ∃ item ∈ items, item.text = left.text) ∧
      (comparison e ⟨.member, negated⟩ (.value list)).evaluate ctx = .ok (holds != negated) ∧
      (comparison e ⟨.member, negated⟩ (.value text)).evaluate ctx = .ok (holds != negated) := by
  refine ⟨left.memberOf (.array items), Value.memberOf_array, evaluate_member he hlist negated, ?_⟩
  rw [evaluate_member he htext negated, Value.memberOf_listed hitems hs]

/-- The list of a text and a number, and both between blanks and a comma. -/
theorem member_listed_seven :
    let items := [Value.string "a b", .integer 7]
    let ctx : Context := ⟨fun _ => .ok (.array items), fun name _ => .error (.unknownFunction name)⟩
    ((Expr.integer 7).evaluate ctx = .ok (.integer 7) ∧
      (Expr.property (.literal "x")).evaluate ctx = .ok (.array items) ∧
      (Expr.literal "a b ,\t7").evaluate ctx = .ok (.string "a b ,\t7") ∧
      (∀ item ∈ items, Text.IsPart item.text.toList) ∧
      Text.Listed (items.map fun item => item.text.toList) "a b ,\t7".toList) ∧
    ∃ holds : Bool,
      (holds = true ↔ Value.integer 7 ≠ .null ∧ ∃ item ∈ items, item.text = (Value.integer 7).text) ∧
      (comparison (.integer 7) ⟨.member, true⟩ (.value (.property (.literal "x")))).evaluate ctx =
        .ok (holds != true) ∧
      (comparison (.integer 7) ⟨.member, true⟩ (.value (.literal "a b ,\t7"))).evaluate ctx =
        .ok (holds != true) := by
  intro items ctx
  have hlist : (Expr.property (.literal "x")).evaluate ctx = .ok (.array items) := by cbv
  have hitems : ∀ item ∈ items, Text.IsPart item.text.toList := by
    intro item hitem
    obtain htext | htext : item.text.toList = ['a', ' ', 'b'] ∨ item.text.toList = ['7'] := by
      obtain rfl | rfl : item = .string "a b" ∨ item = .integer 7 := by simpa [items] using hitem
      · exact .inl rfl
      · exact .inr rfl
    all_goals
      rw [htext]
      constructor <;> simp [Text.isBlank]
  have hseven : Text.Listed [['7']] ['\t', '7'] := .single (.mk ['\t'] [] rfl rfl)
  have hs : Text.Listed (items.map fun item => item.text.toList) "a b ,\t7".toList :=
    .cons (.mk [] [' '] rfl rfl) hseven
  exact ⟨⟨rfl, hlist, rfl, hitems, hs⟩, member_listed rfl hlist rfl hitems hs true⟩

end Predicate

end RouteExpr
