/-
Evaluating a predicate in two contexts of which one has the digits where the other has the integer.

As long as no function is called and no type is asked for, each step of the evaluation finds values that
are alike, or the same refusal: texts of names are the same, so the same properties are asked for, and
what is joined, stepped or compared cannot be told apart.
-/
import RouteExpr.Proofs.Predicate.Operand
import RouteExpr.Proofs.Predicate.Shape
import RouteExpr.Proofs.Value.Alike

namespace RouteExpr

/-! ## Outcomes -/

/-- Two errors of one kind, whatever they say. -/
inductive EvaluationError.SameKind : EvaluationError → EvaluationError → Prop
  | propertyNotFound (p q : String) : SameKind (.propertyNotFound p) (.propertyNotFound q)
  | unknownFunction (n m : String) : SameKind (.unknownFunction n) (.unknownFunction m)
  | invalidArguments (n m : String) (why why' : BadArguments) :
    SameKind (.invalidArguments n why) (.invalidArguments m why')
  | typeMismatch (why why' : Mismatch) : SameKind (.typeMismatch why) (.typeMismatch why')
  | invalidPattern (s t : String) : SameKind (.invalidPattern s) (.invalidPattern t)
  | invocation (n m cause cause' : String) : SameKind (.invocation n cause) (.invocation m cause')
  | decimalOverflow : SameKind .decimalOverflow .decimalOverflow

theorem EvaluationError.SameKind.refl (err : EvaluationError) : err.SameKind err := by
  cases err <;> constructor

/-- Two outcomes that are related values, or errors of one kind. -/
inductive Outcome.Alike {α β : Type} (related : α → β → Prop) : Outcome α → Outcome β → Prop
  | ok {a : α} {b : β} (h : related a b) : Alike related (.ok a) (.ok b)
  | error {err err' : EvaluationError} (h : err.SameKind err') :
    Alike related (.error err) (.error err')

/-- Two contexts in which every property has values that are alike, or one error. -/
def Context.Alike (ctx ctx' : Context) : Prop :=
  ∀ path, (∃ v v', ctx.property path = .ok v ∧ ctx'.property path = .ok v' ∧ v.Alike v') ∨
    ∃ err, ctx.property path = .error err ∧ ctx'.property path = .error err

/-- A context in which every property has one value, and no function is known. -/
def Context.constant (v : Value) : Context where
  property _ := .ok v
  invoke name _ := .error (.unknownFunction name)

namespace Outcome.Alike

variable {α β γ δ : Type} {r : α → β → Prop} {s : γ → δ → Prop} {x : Outcome α} {y : Outcome β}

/-- One step after another gives alike outcomes when both do; the second is taken after a value only. -/
theorem bind {f : α → Outcome γ} {g : β → Outcome δ} (h : Outcome.Alike r x y)
    (hf : ∀ a b, x = .ok a → y = .ok b → r a b → Outcome.Alike s (f a) (g b)) :
    Outcome.Alike s (x >>= f) (y >>= g) := by
  cases h with
  | ok h => exact hf _ _ rfl rfl h
  | error h => exact .error h

theorem of_eq {x y : Outcome α} (h : x = y) : Outcome.Alike Eq x y := by
  cases h
  cases x with
  | ok a => exact .ok rfl
  | error err => exact .error (.refl err)

end Outcome.Alike

/-! ## Calls -/

namespace Expr

mutual

/-- Evaluating an expression comes to a call: of a function, or of a method of the host by its name. -/
inductive Calls (ctx : Context) : Expr → Prop
  | call (name : Expr) (args : List Expr) : Calls ctx (call name args)
  | host {name : Expr} {v : Value} (h : name.evaluate ctx = .ok v)
    (hhost : isHostName (Text.trimmed v.text) = true) : Calls ctx (property name)
  | name {name : Expr} (h : Calls ctx name) : Calls ctx (property name)
  | parts {parts : List Expr} (h : CallsAmong ctx parts) : Calls ctx (concat parts)
  | operand {s : Step} {e : Expr} (h : Calls ctx e) : Calls ctx (step s e)

/-- Evaluating expressions in order comes to a call: one of them does, and those before it have
values. -/
inductive CallsAmong (ctx : Context) : List Expr → Prop
  | head {e : Expr} {es : List Expr} (h : Calls ctx e) : CallsAmong ctx (e :: es)
  | tail {e : Expr} {es : List Expr} {v : Value} (he : e.evaluate ctx = .ok v)
    (h : CallsAmong ctx es) : CallsAmong ctx (e :: es)

end

end Expr

/-- Evaluating an operand comes to a call. -/
inductive Operand.Calls (ctx : Context) : Operand → Prop
  | value {e : Expr} (h : e.Calls ctx) : Calls ctx (value e)
  | low {low high : Expr} (h : low.Calls ctx) : Calls ctx (range low high)
  | high {low high : Expr} {v : Value} (hlow : low.evaluate ctx = .ok v) (h : high.Calls ctx) :
    Calls ctx (range low high)

namespace Predicate

mutual

/-- Evaluating a predicate comes to a call. -/
inductive Calls (ctx : Context) : Predicate → Prop
  | truthy {e : Expr} (h : e.Calls ctx) : Calls ctx (truthy e)
  | left {left : Expr} {op : Operator} {right : Operand} (h : left.Calls ctx) :
    Calls ctx (comparison left op right)
  | right {left : Expr} {op : Operator} {right : Operand} {v : Value}
    (hleft : left.evaluate ctx = .ok v) (h : right.Calls ctx) : Calls ctx (comparison left op right)
  | all {ps : List Predicate} (h : CallsUntil ctx false ps) : Calls ctx (all ps)
  | any {ps : List Predicate} (h : CallsUntil ctx true ps) : Calls ctx (any ps)

/-- Evaluating predicates in order, up to the first with an outcome, comes to a call. -/
inductive CallsUntil (ctx : Context) : Bool → List Predicate → Prop
  | head {outcome : Bool} {p : Predicate} {ps : List Predicate} (h : Calls ctx p) :
    CallsUntil ctx outcome (p :: ps)
  | tail {outcome : Bool} {p : Predicate} {ps : List Predicate}
    (hp : p.evaluate ctx = .ok !outcome) (h : CallsUntil ctx outcome ps) :
    CallsUntil ctx outcome (p :: ps)

end

end Predicate

/-! ## Steps -/

/-- Values that are alike are stepped to values that are alike, or both refused. -/
theorem Step.apply_alike (s : Step) {v v' : Value} (h : v.Alike v') :
    Outcome.Alike Value.Alike (s.apply v) (s.apply v') := by
  have one (i : Int64) :
      (∃ j, s.apply (.integer i) = .ok (.integer j) ∧ s.apply (Value.digits i) = .ok (Value.digits j)) ∨
      s.apply (.integer i) = s.refuse (.integer i) ∧
        s.apply (Value.digits i) = s.refuse (Value.digits i) := by
    unfold apply Value.digits
    dsimp only
    rw [String.toList_ofList, trim_writeInt, readInt64?_writeInt]
    dsimp only
    cases int64? (i.toInt + s.delta) with
    | some j => exact .inl ⟨j, rfl, rfl⟩
    | none => exact .inr ⟨rfl, rfl⟩
  cases h with
  | refl =>
    cases s.apply v with
    | ok w => exact .ok (.refl w)
    | error err => exact .error (.refl err)
  | digits i =>
    rcases one i with ⟨j, h1, h2⟩ | ⟨h1, h2⟩ <;> rw [h1, h2]
    · exact .ok (.digits j)
    · exact .error (.typeMismatch _ _)
  | integer i =>
    rcases one i with ⟨j, h1, h2⟩ | ⟨h1, h2⟩ <;> rw [h1, h2]
    · exact .ok (.integer j)
    · exact .error (.typeMismatch _ _)

/-! ## Expressions -/

variable {ctx ctx' : Context}

namespace Expr

mutual

/-- Without a call, an expression has values that are alike in contexts that are alike. -/
theorem evaluate_alike (hctx : ctx.Alike ctx') : ∀ {e : Expr}, ¬ e.Calls ctx →
    Outcome.Alike Value.Alike (e.evaluate ctx) (e.evaluate ctx')
  | literal text, _ => by rw [evaluate, evaluate]; exact .ok (.refl _)
  | integer i, _ => by rw [evaluate, evaluate]; exact .ok (.refl _)
  | float x, _ => by rw [evaluate, evaluate]; exact .ok (.refl _)
  | boolean b, _ => by rw [evaluate, evaluate]; exact .ok (.refl _)
  | null, _ => by rw [evaluate, evaluate]; exact .ok (.refl _)
  | property name, hcalls => by
    rw [evaluate, evaluate]
    refine (evaluate_alike hctx fun h => hcalls (.name h)).bind fun v v' hv _ h => ?_
    -- the names are one text, which is no name of a method
    have hhost : ¬ isHostName (Text.trimmed v.text) = true := fun hhost =>
      hcalls (.host hv hhost)
    dsimp only
    rw [← h.text, if_neg hhost, if_neg hhost]
    rcases hctx (Text.trimmed v.text) with ⟨w, w', hw, hw', h⟩ | ⟨err, hw, hw'⟩ <;> rw [hw, hw']
    · exact .ok h
    · exact .error (.refl err)
  | call name args, hcalls => absurd (.call name args) hcalls
  | concat parts, hcalls => by
    rw [evaluate, evaluate]
    refine (evaluateAll_alike hctx fun h => hcalls (.parts h)).bind fun vs vs' _ _ h => ?_
    rw [show vs.map Value.text = vs'.map Value.text from h]
    exact .ok (.refl _)
  | step s e, hcalls => by
    rw [evaluate, evaluate]
    exact (evaluate_alike hctx fun h => hcalls (.operand h)).bind fun v v' _ _ h => s.apply_alike h

/-- Without a call, expressions have values with the same texts in contexts that are alike. -/
theorem evaluateAll_alike (hctx : ctx.Alike ctx') : ∀ {es : List Expr}, ¬ CallsAmong ctx es →
    Outcome.Alike (fun vs vs' => vs.map Value.text = vs'.map Value.text) (evaluateAll ctx es)
      (evaluateAll ctx' es)
  | [], _ => by rw [evaluateAll, evaluateAll]; exact .ok rfl
  | e :: es, hcalls => by
    rw [evaluateAll, evaluateAll]
    refine (evaluate_alike hctx fun h => hcalls (.head h)).bind fun v v' hv _ h => ?_
    refine (evaluateAll_alike hctx fun h => hcalls (.tail hv h)).bind fun vs vs' _ _ hs => ?_
    exact .ok (by rw [List.map_cons, List.map_cons, h.text, hs])

end

end Expr

/-! ## Predicates -/

namespace Predicate

/-- No operand but a type tells values that are alike from each other. -/
theorem compareWith_alike (hctx : ctx.Alike ctx') {c : Comparison} {v v' : Value} (hv : v.Alike v')
    {right : Operand} (hright : ∀ t, right ≠ .type t) (hcalls : ¬ right.Calls ctx) :
    Outcome.Alike Eq (compareWith ctx c v right) (compareWith ctx' c v' right) := by
  cases right with
  | type t => exact absurd rfl (hright t)
  | pattern p =>
    rw [compareWith, compareWith, Value.fits_congr hv p]
    exact .ok rfl
  | range low high =>
    rw [compareWith, compareWith]
    refine (Expr.evaluate_alike hctx fun h => hcalls (.low h)).bind fun a a' ha _ hlow => ?_
    refine (Expr.evaluate_alike hctx fun h => hcalls (.high ha h)).bind fun b b' _ _ hhigh => ?_
    exact .of_eq (Value.inRange_congr hv hlow hhigh)
  | value e =>
    rw [compareWith, compareWith]
    refine (Expr.evaluate_alike hctx fun h => hcalls (.value h)).bind fun w w' _ _ hw => ?_
    exact .of_eq (c.holds_congr hv hw)

theorem ShapedCondition.evaluate_alike (hctx : ctx.Alike ctx') {p : Predicate}
    (hp : p.ShapedCondition)
    (hasks : ∀ left op right, p = Predicate.comparison left op right → op.comparison ≠ .type)
    (hcalls : ¬ p.Calls ctx) : Outcome.Alike Eq (p.evaluate ctx) (p.evaluate ctx') := by
  cases hp with
  | constant b =>
    rw [evaluate, evaluate]
    exact .ok rfl
  | truthy e he =>
    rw [evaluate, evaluate]
    refine (Expr.evaluate_alike hctx fun h => hcalls (.truthy h)).bind fun v v' _ _ h => ?_
    exact .ok h.isTruthy
  | comparison left op right hfits =>
    have hright : ∀ t, right ≠ .type t := by
      rintro t rfl
      exact hasks left op _ rfl hfits
    rw [evaluate, evaluate]
    refine (Expr.evaluate_alike hctx fun h => hcalls (.left h)).bind fun v v' hv _ h => ?_
    refine (compareWith_alike hctx h hright fun h => hcalls (.right hv h)).bind fun b b' _ _ hb => ?_
    exact .ok (by rw [hb])

/-- Conditions in order have one outcome when each has, as far as they are evaluated. -/
theorem evaluateAll_alike : ∀ {ps : List Predicate},
    (∀ p ∈ ps, ¬ p.Calls ctx → Outcome.Alike Eq (p.evaluate ctx) (p.evaluate ctx')) →
    ¬ CallsUntil ctx false ps → Outcome.Alike Eq (evaluateAll ctx ps) (evaluateAll ctx' ps)
  | [], _, _ => by rw [evaluateAll, evaluateAll]; exact .ok rfl
  | p :: ps, h, hcalls => by
    rw [evaluateAll, evaluateAll]
    refine (h p List.mem_cons_self fun h => hcalls (.head h)).bind fun b b' hb _ heq => ?_
    cases heq
    cases b with
    | false => exact .ok rfl
    | true =>
      exact evaluateAll_alike (fun q hq => h q (List.mem_cons_of_mem _ hq)) fun h =>
        hcalls (.tail hb h)

theorem evaluateAny_alike : ∀ {ps : List Predicate},
    (∀ p ∈ ps, ¬ p.Calls ctx → Outcome.Alike Eq (p.evaluate ctx) (p.evaluate ctx')) →
    ¬ CallsUntil ctx true ps → Outcome.Alike Eq (evaluateAny ctx ps) (evaluateAny ctx' ps)
  | [], _, _ => by rw [evaluateAny, evaluateAny]; exact .ok rfl
  | p :: ps, h, hcalls => by
    rw [evaluateAny, evaluateAny]
    refine (h p List.mem_cons_self fun h => hcalls (.head h)).bind fun b b' hb _ heq => ?_
    cases heq
    cases b with
    | true => exact .ok rfl
    | false =>
      exact evaluateAny_alike (fun q hq => h q (List.mem_cons_of_mem _ hq)) fun h =>
        hcalls (.tail hb h)

/-- A predicate that is read and does not ask for types has one outcome in contexts that are alike. -/
theorem Shaped.evaluate_alike (hctx : ctx.Alike ctx') {p : Predicate} (hp : p.Shaped)
    (hasks : ∀ left op right, comparison left op right ∈ p.groups.flatMap Predicate.conditions →
      op.comparison ≠ .type) (hcalls : ¬ p.Calls ctx) :
    Outcome.Alike Eq (p.evaluate ctx) (p.evaluate ctx') := by
  have group {g : Predicate} (hg : g.ShapedGroup)
      (hasks : ∀ left op right, comparison left op right ∈ g.conditions → op.comparison ≠ .type)
      (hcalls : ¬ g.Calls ctx) : Outcome.Alike Eq (g.evaluate ctx) (g.evaluate ctx') := by
    cases hg with
    | single h =>
      refine h.evaluate_alike hctx (fun left op right heq => hasks left op right ?_) hcalls
      rw [h.alone.2, heq]
      exact List.mem_singleton_self _
    | all several h =>
      rw [evaluate, evaluate]
      refine evaluateAll_alike (fun q hq hcalls => ?_) fun h => hcalls (.all h)
      exact (h q hq).evaluate_alike hctx (fun left op right heq => hasks left op right (heq ▸ hq))
        hcalls
  cases hp with
  | single h =>
    have hgroups : p.groups = [p] := by
      cases h with
      | single h => exact h.alone.1
      | all several h => rfl
    rw [hgroups, List.flatMap_singleton] at hasks
    exact group h hasks hcalls
  | any several h =>
    rw [evaluate, evaluate]
    refine evaluateAny_alike (fun g hg hcalls => ?_) fun h => hcalls (.any h)
    exact group (h g hg) (fun left op right hq =>
      hasks left op right (List.mem_flatMap.2 ⟨g, hg, hq⟩)) hcalls

/-! ## Integers in texts -/

/-- A number is a word that is read as that number. -/
theorem readWord?_of_readNumber? {cs : List Char} {e : Expr} (h : readNumber? cs = some e) :
    readWord? cs = some e := by
  have hne {s : String} (hs : Numeral.read? s.toList = none) : String.ofList cs ≠ s := by
    rintro rfl
    obtain ⟨-, n, hn⟩ := readNumber?_eq_some h
    rw [String.toList_ofList, hn] at hs
    cases hs
  unfold readWord?
  split
  · rename_i heq
    exact absurd heq (hne rfl)
  · rename_i heq
    exact absurd heq (hne rfl)
  · rename_i heq
    exact absurd heq (hne rfl)
  · exact h

/-- The digits of an integer are read as the integer. -/
theorem readNumber?_writeInt (i : Int64) : readNumber? (writeInt i.toInt) = some (.integer i) := by
  unfold readNumber?
  rw [readInt64?_writeInt]

/-- A text without a marker is read as that text. -/
theorem read_of_no_marker {cs : List Char} (hne : cs ≠ []) (h : hasMarker cs = false) :
    Expr.read cs = .ok (.literal (String.ofList cs)) := by
  have hs : (Lexer.start .template 0 cs).scan =
      .ok ((Lexer.start .template 0 cs).emit .literal cs []) :=
    Lexer.scan_text rfl rfl hne h (List.append_nil cs).symm (.inl rfl)
  unfold Expr.read Expr.readRegion Expr.template
  rw [Lexed.of_eq_lexed, Lexer.lexed_of_emit rfl hs nofun, Expr.templateParts_text rfl,
    Lexer.lexed_of_nil (l := ((Lexer.start .template 0 cs).emit .literal cs []).2) rfl rfl]
  simp [Expr.templateParts, Expr.prependText, Expr.join, Token.raw, Token.Kind.opening,
    Token.Kind.closing, Except.map]

variable {classes : ClassTable} {cs o text : List Char} {left : Expr} {op : Operator}

/-- Behind an operator that takes values, a number is read as the number when it is bare, and as its text
when it is in quotes. -/
theorem read_number_operand {word : List Char} {e : Expr} (h : read classes cs = .ok (alone left))
    (hb : Text.allBlank cs = false) (ho : op.Spells o) (hc : op.comparison ∉ [.type, .regex, .range])
    (hword : readNumber? word = some e) (q : Quote) :
    read classes (cs ++ [' '] ++ o ++ [' '] ++ word) = .ok (comparison left op (.value e)) ∧
      read classes (cs ++ [' '] ++ o ++ [' '] ++ [q.toChar] ++ word ++ [q.toChar]) =
        .ok (comparison left op (.value (.literal (String.ofList word)))) := by
  obtain ⟨-, n, hn⟩ := readNumber?_eq_some hword
  have hmark := Numeral.isMark_of_read? hn
  have hne : word ≠ [] := by
    rintro rfl
    cases hn
  have hq : q.toChar ∉ word := by
    intro hmem
    have hplain := hmark _ hmem
    cases q <;> exact absurd hplain (by decide)
  have htext : Expr.read word = .ok (.literal (String.ofList word)) :=
    read_of_no_marker hne (hasMarker_of_readWord? (readWord?_of_readNumber? hword))
  obtain ⟨t, r, stop, hl, hcondition⟩ := readCondition_quoted h hb ho hc hq
  rw [htext] at hcondition
  exact ⟨read_word_operand h hb ho hc (Lexed.of_numeral hn) (readWord?_of_readNumber? hword),
    read_of_condition hl hcondition rfl⟩

/-- Behind an operator that takes values, an integer and its digits in quotes are both read, and have one
outcome. -/
theorem read_digits_operand (h : read classes cs = .ok (alone left)) (hb : Text.allBlank cs = false)
    (ho : op.Spells o) (hc : op.comparison ∉ [.type, .regex, .range]) (i : Int64) (q : Quote) :
    ∃ p p', read classes (cs ++ [' '] ++ o ++ [' '] ++ writeInt i.toInt) = .ok p ∧
      read classes (cs ++ [' '] ++ o ++ [' '] ++ [q.toChar] ++ writeInt i.toInt ++ [q.toChar]) = .ok p' ∧
      ∀ ctx, p.evaluate ctx = p'.evaluate ctx := by
  obtain ⟨hbare, hquoted⟩ := read_number_operand h hb ho hc (readNumber?_writeInt i) q
  refine ⟨_, _, hbare, hquoted, fun ctx => ?_⟩
  have hinteger : (Expr.integer i).evaluate ctx = .ok (.integer i) := by rw [Expr.evaluate]
  have hdigits : (Expr.literal (String.ofList (writeInt i.toInt))).evaluate ctx =
      .ok (Value.digits i) := by rw [Expr.evaluate]; rfl
  rw [evaluate, evaluate]
  refine bind_congr fun v => ?_
  rw [compareWith, compareWith, hinteger, hdigits, ok_bind, ok_bind,
    op.comparison.holds_congr (.refl v) (.digits i)]

/-- A predicate that is read, does not ask for types and comes to no call has one outcome in two contexts
where the one has the digits of an integer for the integer: it holds in both, or in neither, or has
errors of one kind. And a text that compares with an integer has the outcome of the text that compares
with the digits in quotes. -/
theorem evaluate_interchanged {p : Predicate} (h : read classes text = .ok p)
    (hasks : ∀ left op right, comparison left op right ∈ p.groups.flatMap conditions →
      op.comparison ≠ .type) (hcalls : ¬ p.Calls ctx) (hctx : ctx.Alike ctx') :
    ((∃ b, p.evaluate ctx = .ok b ∧ p.evaluate ctx' = .ok b) ∨
      ∃ err err', p.evaluate ctx = .error err ∧ p.evaluate ctx' = .error err' ∧ err.SameKind err') ∧
      ∀ cs left op o, read classes cs = .ok (alone left) → Text.allBlank cs = false →
        Operator.Spells op o → op.comparison ∉ [.type, .regex, .range] → ∀ (i : Int64) (q : Quote),
        ∃ p p', read classes (cs ++ [' '] ++ o ++ [' '] ++ writeInt i.toInt) = .ok p ∧
          read classes (cs ++ [' '] ++ o ++ [' '] ++ [q.toChar] ++ writeInt i.toInt ++ [q.toChar]) =
            .ok p' ∧
          ∀ ctx, p.evaluate ctx = p'.evaluate ctx := by
  refine ⟨?_, fun cs left op o hl hb ho hc i q => read_digits_operand hl hb ho hc i q⟩
  have halike := (shaped_of_read h).evaluate_alike hctx hasks hcalls
  generalize p.evaluate ctx = x at halike ⊢
  generalize p.evaluate ctx' = y at halike ⊢
  cases halike with
  | ok heq => exact .inl ⟨_, rfl, congrArg _ heq.symm⟩
  | error hkind => exact .inr ⟨_, _, rfl, rfl, hkind⟩

/-- A property that is an integer or its digits, stepped and compared; and the number that it is compared
with, bare and in quotes. -/
theorem evaluate_interchanged_stepped :
    ∃ p, read .empty ['$', '\x7b', 'x', '\x7d', '+', '+', ' ', '=', '=', ' ', '\'', '6', '\''] = .ok p ∧
      ((∃ b, p.evaluate (.constant (.integer 5)) = .ok b ∧
          p.evaluate (.constant (Value.digits 5)) = .ok b) ∨
        ∃ err err', p.evaluate (.constant (.integer 5)) = .error err ∧
          p.evaluate (.constant (Value.digits 5)) = .error err' ∧ err.SameKind err') ∧
      ∃ p p', read .empty ['$', '\x7b', 'x', '\x7d', ' ', '=', '=', ' ', '6'] = .ok p ∧
        read .empty ['$', '\x7b', 'x', '\x7d', ' ', '=', '=', ' ', '\'', '6', '\''] = .ok p' ∧
        ∀ ctx, p.evaluate ctx = p'.evaluate ctx := by
  have h : read .empty
      ['$', '\x7b', 'x', '\x7d', '+', '+', ' ', '=', '=', ' ', '\'', '6', '\''] =
      .ok (comparison (.step .increment (.property (.literal "x"))) ⟨.equal, false⟩
        (.value (.literal "6"))) := by cbv
  have hx : read .empty ['$', '\x7b', 'x', '\x7d'] = .ok (alone (.property (.literal "x"))) := by cbv
  have ho : Operator.Spells ⟨.equal, false⟩ ['=', '='] := .symbol (s := "==") (by simp [Lexer.symbols])
  have hasks : ∀ left op right, comparison left op right ∈ (comparison (.step .increment
      (.property (.literal "x"))) ⟨.equal, false⟩ (.value (.literal "6"))).groups.flatMap conditions →
      op.comparison ≠ .type := by
    intro left op right hmem htype
    cases List.mem_singleton.1 hmem
    cases htype
  have hcalls : ¬ Calls (.constant (.integer 5)) (comparison (.step .increment
      (.property (.literal "x"))) ⟨.equal, false⟩ (.value (.literal "6"))) := by
    intro h
    cases h with
    | left h =>
      cases h with
      | operand h =>
        cases h with
        | name h => cases h
        | host hv hhost =>
          rw [Expr.evaluate] at hv
          cases hv
          have hname : isHostName (Text.trimmed (Value.string "x").text) = false := by cbv
          rw [hname] at hhost
          cases hhost
    | right hleft h =>
      cases h with
      | value h => cases h
  have hctx : Context.Alike (.constant (.integer 5)) (.constant (Value.digits 5)) :=
    fun path => .inl ⟨_, _, rfl, rfl, .digits 5⟩
  have halike := evaluate_interchanged h hasks hcalls hctx
  exact ⟨_, h, halike.1, halike.2 _ _ _ _ hx rfl ho (by decide) 6 .single⟩

end Predicate

end RouteExpr
