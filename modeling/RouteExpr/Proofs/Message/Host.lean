/-
What a host and its message can come to.

No function of the language and no property of a message takes a step, so none overflows. A path of a
header, however it is spelled, comes to the header of that name.
-/
import RouteExpr.Message.Host

namespace RouteExpr

/-- A context that never overflows itself. -/
structure Context.Returns (ctx : Context) : Prop where
  property (path : String) : ctx.property path ≠ .error .decimalOverflow
  invoke (name : String) (args : List Value) : ctx.invoke name args ≠ .error .decimalOverflow

namespace Host

variable (h : Host)

theorem context_property (path : String) : h.context.property path = h.property path := rfl

theorem context_invoke (name : String) (args : List Value) :
    h.context.invoke name args = h.invoke name args := rfl

theorem callMethod_ne_overflow (reference : String) (args : List Value) :
    h.callMethod reference args ≠ .error .decimalOverflow := by
  unfold callMethod
  dsimp only
  split
  · nofun
  · split <;> nofun

theorem convertTo_ne_overflow (function : String) (v target : Value) :
    h.convertTo function v target ≠ .error .decimalOverflow := by
  unfold convertTo
  split
  · nofun
  · split <;> nofun

theorem ofSubject_ne_overflow (name : String) (args : List Value) (f : Value → Value) :
    h.ofSubject name args f ≠ .error .decimalOverflow := by
  unfold ofSubject
  split <;> nofun

theorem builtin?_ne_overflow {name : String} {args : List Value} {o : Outcome Value}
    (ho : h.builtin? name args = some o) : o ≠ .error .decimalOverflow := by
  unfold builtin? at ho
  dsimp only at ho
  split at ho <;> cases ho <;>
    first
    | exact h.ofSubject_ne_overflow _ _ _
    | (split <;> first | exact h.convertTo_ne_overflow _ _ _ | (intro ho; cases ho))
    | (intro ho; cases ho)

theorem call?_ne_overflow {name : String} {args : List Value} {o : Outcome Value}
    (ho : h.call? name args = some o) : o ≠ .error .decimalOverflow := by
  unfold call? at ho
  split at ho
  · cases ho; exact h.callMethod_ne_overflow _ _
  · exact h.builtin?_ne_overflow ho

theorem call?_getD_ne_overflow {name : String} {args : List Value} {e : EvaluationError}
    (he : e ≠ .decimalOverflow) :
    (h.call? name args).getD (.error e) ≠ .error .decimalOverflow := by
  cases ho : h.call? name args with
  | none => exact fun heq => he (Except.error.inj heq)
  | some o => exact h.call?_ne_overflow ho

/-- A message and its host never overflow themselves. -/
theorem context_returns : h.context.Returns where
  property path := by
    show h.property path ≠ _
    unfold property
    dsimp only
    -- a path gives a value, is refused, or names a function without arguments
    repeat' (first | exact h.call?_getD_ne_overflow (by simp) | split | (intro hp; cases hp))
  invoke name args := h.call?_getD_ne_overflow (by simp)

/-! ## Headers by their paths -/

/-- The spellings of the path of a header. -/
def headerPaths (name : String) : List String :=
  ["", "in."].flatMap fun lead => ["header", "headers"].flatMap fun word =>
    [lead ++ word ++ "." ++ name, lead ++ word ++ ":" ++ name, lead ++ word ++ "[" ++ name ++ "]"]

theorem property_of_header_key {path : String} {key : List Char}
    (hpath : "header".toList <+: path.toList)
    (hkey : ["headers", "header"].findSome? (keyAfter? path.toList) = some key) :
    h.property path = .ok (h.header (String.ofList key)) := by
  obtain ⟨rest, hrest⟩ := hpath
  have hin : Text.afterStart? "in.".toList path.toList = none := by
    rw [← hrest]
    rfl
  have hbody : Text.afterStart? "body.".toList path.toList = none := by
    rw [← hrest]
    rfl
  have hname : path ≠ "body" := by
    rintro rfl
    cases hkey
  unfold property
  dsimp only
  rw [hin, Option.getD_none, String.ofList_toList, if_neg hname, hbody]
  dsimp only
  -- no map as a whole has a key
  split
  · cases hkey
  · cases hkey
  · cases hkey
  · rw [hkey]

/-- The key of a header stands behind a dot or a colon, or between brackets. -/
theorem keyAfter?_header {word : String} (hword : word ∈ ["header", "headers"]) {tail key : List Char}
    (htail : tail ∈ ['.' :: key, ':' :: key, '[' :: (key ++ [']'])]) :
    ["headers", "header"].findSome? (keyAfter? (word.toList ++ tail)) = some key := by
  have hend : Text.beforeEnd? [']'] (key ++ [']']) = some key := by
    simp [Text.beforeEnd?, Text.afterStart?]
  have hfound : keyAfter? (word.toList ++ tail) word = some key := by
    simp only [List.mem_cons, List.not_mem_nil, or_false] at hword htail
    rcases hword with rfl | rfl <;> rcases htail with rfl | rfl | rfl <;> first | rfl | exact hend
  simp only [List.mem_cons, List.not_mem_nil, or_false] at hword htail
  rcases hword with rfl | rfl
  · have hmany : keyAfter? ("header".toList ++ tail) "headers" = none := by
      rcases htail with rfl | rfl | rfl <;> rfl
    rw [List.findSome?_cons, hmany, List.findSome?_cons, hfound]
  · rw [List.findSome?_cons, hfound]

/-- In front of the path of a header, the word for the message changes nothing. -/
theorem property_in {path : String} (hpath : "header".toList <+: path.toList) :
    h.property ("in." ++ path) = h.property path := by
  obtain ⟨rest, hrest⟩ := hpath
  have hin : Text.afterStart? "in.".toList ("in." ++ path).toList = some path.toList := by
    rw [String.toList_append]
    rfl
  have hno : Text.afterStart? "in.".toList path.toList = none := by
    rw [← hrest]
    rfl
  unfold property
  dsimp only
  rw [hin, hno]
  rfl

theorem property_of_header_tail {word path name : String} (hword : word ∈ ["header", "headers"])
    (tail : List Char)
    (htail : tail ∈ ['.' :: name.toList, ':' :: name.toList, '[' :: (name.toList ++ [']'])])
    (htext : path.toList = word.toList ++ tail) :
    h.property path = .ok (h.header name) ∧ h.property ("in." ++ path) = .ok (h.header name) := by
  have hpath : "header".toList <+: path.toList := by
    rw [htext]
    simp only [List.mem_cons, List.not_mem_nil, or_false] at hword
    rcases hword with rfl | rfl
    · exact List.prefix_append _ _
    · exact ⟨'s' :: tail, rfl⟩
  have hvalue : h.property path = .ok (h.header name) := by
    rw [h.property_of_header_key hpath (htext ▸ keyAfter?_header hword htail), String.ofList_toList]
  exact ⟨hvalue, (h.property_in hpath).trans hvalue⟩

/-- Every spelling of the path of a header comes to the header. -/
theorem property_headerPath {path name : String} (hpath : path ∈ headerPaths name) :
    h.property path = .ok (h.header name) := by
  simp only [headerPaths, List.mem_flatMap] at hpath
  obtain ⟨lead, hlead, word, hword, hpath⟩ := hpath
  obtain ⟨path', rfl, hplain, hin⟩ : ∃ path', path = lead ++ path' ∧
      h.property path' = .ok (h.header name) ∧ h.property ("in." ++ path') = .ok (h.header name) := by
    simp only [List.mem_cons, List.not_mem_nil, or_false] at hpath
    rcases hpath with rfl | rfl | rfl
    · exact ⟨word ++ "." ++ name, by simp [String.append_assoc],
        h.property_of_header_tail hword ('.' :: name.toList) (by simp) (by simp)⟩
    · exact ⟨word ++ ":" ++ name, by simp [String.append_assoc],
        h.property_of_header_tail hword (':' :: name.toList) (by simp) (by simp)⟩
    · exact ⟨word ++ "[" ++ name ++ "]", by simp [String.append_assoc],
        h.property_of_header_tail hword ('[' :: (name.toList ++ [']'])) (by simp) (by simp)⟩
  simp only [List.mem_cons, List.not_mem_nil, or_false] at hlead
  rcases hlead with rfl | rfl
  · rwa [String.empty_append]
  · exact hin

/-- A path with a dot is the header of the rest of it. -/
theorem property_header (name : String) : h.property ("header." ++ name) = .ok (h.header name) :=
  h.property_headerPath (by simp [headerPaths])

/-- A path with brackets is the header of the name between them. -/
theorem property_header_brackets (name : String) :
    h.property ("header[" ++ name ++ "]") = .ok (h.header name) :=
  h.property_headerPath (by simp [headerPaths])

end Host

end RouteExpr
