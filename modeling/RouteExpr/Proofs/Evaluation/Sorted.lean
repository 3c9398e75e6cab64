/-
Evaluating in messages that differ only in the order in which their objects list their fields.

Each step of the evaluation finds values that are the same but for that order, and the outcomes are the
same, as long as no header is asked for by a name that stands for several. Then which of them is found
first decides the value, and nothing else does.
-/
import RouteExpr.Language
import RouteExpr.Proofs.Message.Host
import RouteExpr.Proofs.Message.Sorted
import Mathlib.Data.List.TFAE
import Mathlib.Tactic.TFAE

namespace RouteExpr

/-! ## Outcomes -/

/-- The same value, but for the order of fields, or the same error. -/
def Outcome.Relisted (x y : Outcome Value) : Prop :=
  x.map Value.sorted = y.map Value.sorted

/-- Steps on what is the same sorted give the same when they do so on each such pair of values. -/
theorem Outcome.relisted_bind {α σ : Type} {s : α → σ} {x y : Outcome α} {f g : α → Outcome Value}
    (h : x.map s = y.map s) (hf : ∀ a b, s a = s b → Outcome.Relisted (f a) (g b)) :
    Outcome.Relisted (x >>= f) (y >>= g) := by
  unfold Outcome.Relisted
  rw [map_bind, map_bind]
  exact bind_congr_of_map h hf

/-- Two contexts that give the same, but for the order of fields, of what is the same but for it. -/
structure Context.Relisted (ctx ctx' : Context) : Prop where
  property (path : String) : (ctx.property path).Relisted (ctx'.property path)
  invoke (name : String) {args args' : List Value} (h : args.map Value.sorted = args'.map Value.sorted) :
    (ctx.invoke name args).Relisted (ctx'.invoke name args')

theorem Value.Relisted.text {v w : Value} (h : v.Relisted w) : v.text = w.text := by
  rw [← v.text_sorted, ← w.text_sorted, h]

/-! ## Expressions -/

variable {ctx ctx' : Context}

namespace Expr

mutual

/-- No expression sees the order of fields. -/
theorem evaluate_relisted (hctx : ctx.Relisted ctx') : ∀ e : Expr,
    (e.evaluate ctx).Relisted (e.evaluate ctx')
  | literal _ | integer _ | float _ | boolean _ | null => by
    rw [evaluate, evaluate]
    rfl
  | property name => by
    rw [evaluate, evaluate]
    refine Outcome.relisted_bind (evaluate_relisted hctx name) fun v w hvw => ?_
    dsimp only
    rw [Value.Relisted.text hvw]
    split
    · exact hctx.invoke _ rfl
    · exact hctx.property _
  | call name args => by
    rw [evaluate, evaluate]
    refine Outcome.relisted_bind (evaluate_relisted hctx name) fun v w hvw => ?_
    dsimp only
    rw [Value.Relisted.text hvw]
    exact Outcome.relisted_bind (evaluateAll_relisted hctx args) fun vs ws hvs =>
      hctx.invoke _ hvs
  | concat parts => by
    rw [evaluate, evaluate]
    refine Outcome.relisted_bind (evaluateAll_relisted hctx parts) fun vs ws hvs => ?_
    have htexts : vs.map Value.text = ws.map Value.text := by
      have h := congrArg (List.map Value.text) hvs
      simpa [Function.comp_def] using h
    rw [htexts]
    rfl
  | step s operand => by
    rw [evaluate, evaluate]
    refine Outcome.relisted_bind (evaluate_relisted hctx operand) fun v w hvw => ?_
    rw [Outcome.Relisted, ← s.apply_sorted, ← s.apply_sorted, hvw]

/-- The values of expressions are the same, but for the order of fields. -/
theorem evaluateAll_relisted (hctx : ctx.Relisted ctx') : ∀ es : List Expr,
    (evaluateAll ctx es).map (List.map Value.sorted) =
      (evaluateAll ctx' es).map (List.map Value.sorted)
  | [] => by rw [evaluateAll, evaluateAll]
  | e :: es => by
    rw [evaluateAll, evaluateAll, map_bind, map_bind]
    refine bind_congr_of_map (evaluate_relisted hctx e) fun v w hvw => ?_
    rw [map_bind, map_bind]
    refine bind_congr_of_map (evaluateAll_relisted hctx es) fun vs ws hvs => ?_
    show Except.ok (v.sorted :: vs.map Value.sorted) = Except.ok (w.sorted :: ws.map Value.sorted)
    rw [hvw, hvs]

end

end Expr

/-! ## Predicates -/

namespace Predicate

theorem compareWith_relisted (hctx : ctx.Relisted ctx') (c : Comparison) {v w : Value}
    (hvw : v.Relisted w) (right : Operand) :
    compareWith ctx c v right = compareWith ctx' c w right := by
  cases right with
  | type t =>
    rw [compareWith, compareWith, ← t.admits_sorted v, ← t.admits_sorted w, hvw]
  | pattern p =>
    rw [compareWith, compareWith, ← v.fits_sorted, ← w.fits_sorted, hvw]
  | range low high =>
    rw [compareWith, compareWith]
    refine bind_congr_of_map (low.evaluate_relisted hctx) fun a b hab => ?_
    refine bind_congr_of_map (high.evaluate_relisted hctx) fun c d hcd => ?_
    rw [← v.inRange_sorted, ← w.inRange_sorted, hvw, hab, hcd]
  | value e =>
    rw [compareWith, compareWith]
    refine bind_congr_of_map (e.evaluate_relisted hctx) fun a b hab => ?_
    rw [← c.holds_sorted v, ← c.holds_sorted w, hvw, hab]

mutual

/-- No predicate sees the order of fields. -/
theorem evaluate_relisted (hctx : ctx.Relisted ctx') : ∀ p : Predicate,
    p.evaluate ctx = p.evaluate ctx'
  | constant b => by rw [evaluate, evaluate]
  | truthy e => by
    rw [evaluate, evaluate]
    refine bind_congr_of_map (e.evaluate_relisted hctx) fun v w hvw => ?_
    rw [← v.isTruthy_sorted, ← w.isTruthy_sorted, hvw]
  | comparison left op right => by
    rw [evaluate, evaluate]
    refine bind_congr_of_map (left.evaluate_relisted hctx) fun v w hvw => ?_
    rw [compareWith_relisted hctx op.comparison hvw right]
  | all ps => by
    rw [evaluate, evaluate]
    exact evaluateAll_relisted hctx ps
  | any ps => by
    rw [evaluate, evaluate]
    exact evaluateAny_relisted hctx ps

theorem evaluateAll_relisted (hctx : ctx.Relisted ctx') : ∀ ps : List Predicate,
    evaluateAll ctx ps = evaluateAll ctx' ps
  | [] => by rw [evaluateAll, evaluateAll]
  | p :: ps => by
    rw [evaluateAll, evaluateAll, evaluate_relisted hctx p, evaluateAll_relisted hctx ps]

theorem evaluateAny_relisted (hctx : ctx.Relisted ctx') : ∀ ps : List Predicate,
    evaluateAny ctx ps = evaluateAny ctx' ps
  | [] => by rw [evaluateAny, evaluateAny]
  | p :: ps => by
    rw [evaluateAny, evaluateAny, evaluate_relisted hctx p, evaluateAny_relisted hctx ps]

end

end Predicate

/-! ## Messages -/

namespace Host

variable {h : Host} {m : Message}

/-- Messages that are the same but for the order of fields are the same to evaluate in. -/
theorem context_relisted (hu : h.message.headers.Unambiguous)
    (hm : ∀ entry ∈ h.methods, entry.2.Settled) (hrelisted : h.message.Relisted m) :
    h.context.Relisted (h.withMessage m).context := by
  have hsorted : h.sorted = (h.withMessage m).sorted := congrArg h.withMessage hrelisted
  have hu' : (h.withMessage m).message.headers.Unambiguous :=
    hu.of_sorted (congrArg Message.headers hrelisted)
  constructor
  · intro path
    rw [Outcome.Relisted, context_property, context_property, ← property_sorted hu hm,
      ← property_sorted hu' hm, hsorted]
  · intro name args args' hargs
    rw [Outcome.Relisted, context_invoke, context_invoke, ← invoke_sorted hu hm,
      ← invoke_sorted hu' hm, hsorted, hargs]

/-- A header that stands first is found by any name that stands for it, unless a header has that name
exactly. -/
theorem header_of_cons {f : String × Value} {fields : Fields} {name : String}
    (hheaders : h.message.headers = f :: fields) (hexact : h.message.headers.get? name = none)
    (hname : equalsIgnoringCase f.1 name = true) : h.header name = f.2 := by
  have hfirst : (f :: fields).find? (fun field => equalsIgnoringCase field.1 name) = some f :=
    List.find?_cons_of_pos hname
  unfold header
  rw [hexact, hheaders, hfirst]

theorem evaluate_path {path : String} (htrimmed : Text.trimmed path = path)
    (hhost : isHostName path = false) :
    (Expr.property (.literal path)).evaluate ctx = ctx.property path := by
  have htext : (Value.string path).text = path := rfl
  rw [Expr.evaluate, Expr.evaluate, ok_bind]
  dsimp only
  rw [htext, htrimmed, hhost, if_neg Bool.false_ne_true]

/-- The property of a name in brackets is the header, whatever the name. -/
theorem evaluate_header (name : String) :
    (Expr.property (.literal ("header[" ++ name ++ "]"))).evaluate h.context = .ok (h.header name) := by
  have hpath : ("header[" ++ name ++ "]").toList =
      'h' :: ("eader[".toList ++ name.toList ++ [']']) := by
    simp
  have htrimmed : Text.trimmed ("header[" ++ name ++ "]") = "header[" ++ name ++ "]" := by
    have htrim : Text.trim ("header[" ++ name ++ "]").toList = ("header[" ++ name ++ "]").toList := by
      rw [hpath]
      simp [Text.trim, Text.trimStart, Text.trimEnd, Text.isBlank]
    unfold Text.trimmed
    rw [htrim, String.ofList_toList]
  have hhost : isHostName ("header[" ++ name ++ "]") = false := by
    unfold isHostName
    rw [hpath]
    rfl
  rw [evaluate_path htrimmed hhost, context_property, property_header_brackets]

/-- The order in which a message lists its fields is not seen: by the values of the headers that a name
stands for, by the outcomes of all expressions and predicates, and by lookups of headers. -/
theorem relisted_tfae (h : Host) (hkeys : (h.message.headers.map Prod.fst).Nodup)
    (hm : ∀ entry ∈ h.methods, entry.2.Settled) :
    List.TFAE [
      h.message.headers.Unambiguous,
      ∀ m, h.message.Relisted m →
        (∀ e : Expr, (e.evaluate h.context).Relisted (e.evaluate (h.withMessage m).context)) ∧
        ∀ p : Predicate, p.evaluate h.context = p.evaluate (h.withMessage m).context,
      ∀ m, h.message.Relisted m → ∀ name, (h.header name).Relisted ((h.withMessage m).header name)] := by
  tfae_have 1 → 2 := by
    intro hu m hrelisted
    have hctx := context_relisted hu hm hrelisted
    exact ⟨fun e => e.evaluate_relisted hctx, fun p => p.evaluate_relisted hctx⟩
  tfae_have 2 → 3 := by
    intro hsame m hrelisted name
    have h := (hsame m hrelisted).1 (.property (.literal ("header[" ++ name ++ "]")))
    rw [evaluate_header, evaluate_header] at h
    exact Except.ok.inj h
  tfae_have 3 → 1 := by
    intro hsame name hexact f hf g hg hfname hgname
    -- either header may be the one that is listed first
    have hfirst {f : String × Value} (hf : f ∈ h.message.headers)
        (hname : equalsIgnoringCase f.1 name = true) : (h.header name).Relisted f.2 := by
      obtain ⟨before, after, hheaders⟩ := List.append_of_mem hf
      have hsorted : h.message.headers.sorted = Fields.sorted (f :: (before ++ after)) := by
        refine Fields.sorted_eq_of_perm hkeys ?_
        rw [hheaders]
        exact List.perm_middle
      have hexact' := Fields.get?_eq_none_of_sorted hsorted.symm hexact
      have hlookup := hsame _ (Message.relisted_of_headers hsorted) name
      have hfound : (h.withMessage { h.message with headers := f :: (before ++ after) }).header name =
          f.2 := header_of_cons rfl hexact' hname
      rwa [hfound] at hlookup
    exact (hfirst hf hfname).symm.trans (hfirst hg hgname)
  tfae_finish

/-- A host with a method, and with one value under two spellings of a header. -/
theorem relisted_tfae_spellings :
    let count : Method := fun args => .ok (.integer (Int64.ofNat args.length))
    let h : Host := ⟨⟨.null, [("Foo", .integer 1), ("FOO", .integer 1)], [], [], []⟩,
      [("list.count", count)], .standard, []⟩
    (h.message.headers.map Prod.fst).Nodup ∧ (∀ entry ∈ h.methods, entry.2.Settled) ∧
      ∀ m, h.message.Relisted m →
        (∀ e : Expr, (e.evaluate h.context).Relisted (e.evaluate (h.withMessage m).context)) ∧
        ∀ p : Predicate, p.evaluate h.context = p.evaluate (h.withMessage m).context := by
  intro count h
  have hkeys : (h.message.headers.map Prod.fst).Nodup := by decide
  have hm : ∀ entry ∈ h.methods, entry.2.Settled := by
    intro entry hentry args args' hargs
    have hlength : args.length = args'.length := by
      have := congrArg List.length hargs
      simpa using this
    rw [List.mem_singleton.1 hentry]
    show (count args).map Value.sorted = (count args').map Value.sorted
    rw [show count args = .ok (.integer (Int64.ofNat args.length)) from rfl, hlength]
  have hu : h.message.headers.Unambiguous := by
    intro name _ f hf g hg _ _
    have hvalue {f : String × Value} (hf : f ∈ h.message.headers) : f.2 = .integer 1 := by
      rcases List.mem_pair.1 hf with rfl | rfl <;> rfl
    unfold Value.Relisted
    rw [hvalue hf, hvalue hg]
  exact ⟨hkeys, hm, ((relisted_tfae h hkeys hm).out 0 1).1 hu⟩

/-- Of two headers whose names differ only in case, the one listed first is found by a third spelling. -/
theorem header_order_observed :
    let m : Message := ⟨.null, [("Foo", .boolean true), ("FOO", .boolean false)], [], [], []⟩
    let m' : Message := ⟨.null, [("FOO", .boolean false), ("Foo", .boolean true)], [], [], []⟩
    m.Relisted m' ∧
      (∃ e, Expression.parse "$\x7bheader.foo\x7d" = .ok e ∧
        e.evaluate (ofMessage m).context = .ok (.boolean true) ∧
        e.evaluate (ofMessage m').context = .ok (.boolean false)) ∧
      ∃ p, Rule.parse .standard "$\x7bheader.foo\x7d" = .ok p ∧
        p.holds (ofMessage m).context = .ok true ∧ p.holds (ofMessage m').context = .ok false := by
  intro m m'
  have hrelisted : m.Relisted m' := by
    refine Message.relisted_of_headers (Fields.sorted_eq_of_perm ?_ (.swap _ _ _))
    decide
  have hexpr : Expression.parse "$\x7bheader.foo\x7d" =
      .ok ⟨"$\x7bheader.foo\x7d", .property (.literal "header.foo")⟩ := by cbv
  have hrule : Rule.parse .standard "$\x7bheader.foo\x7d" =
      .ok ⟨"$\x7bheader.foo\x7d", .truthy (.property (.literal "header.foo"))⟩ := by cbv
  have heval (h : Host) :
      (Expr.property (.literal "header.foo")).evaluate h.context = .ok (h.header "foo") := by
    rw [evaluate_path (by decide) (by decide), context_property]
    exact h.property_of_header_key (by decide) rfl
  have hm : (ofMessage m).header "foo" = .boolean true :=
    header_of_cons (h := ofMessage m) (f := ("Foo", .boolean true)) rfl rfl (by decide)
  have hm' : (ofMessage m').header "foo" = .boolean false :=
    header_of_cons (h := ofMessage m') (f := ("FOO", .boolean false)) rfl rfl (by decide)
  refine ⟨hrelisted, ⟨_, hexpr, ?_, ?_⟩, _, hrule, ?_, ?_⟩
  · exact (heval _).trans (congrArg Except.ok hm)
  · exact (heval _).trans (congrArg Except.ok hm')
  · rw [Rule.holds, Predicate.evaluate, heval, hm]
    rfl
  · rw [Rule.holds, Predicate.evaluate, heval, hm']
    rfl

end Host

end RouteExpr
