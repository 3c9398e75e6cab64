/-
The shape of predicates that are read: groups of conditions, no deeper than that, where each operand is
of the kind that its operator takes.

A text with a marker in it is read as an expression with a placeholder, since the first marker of a
template opens one. So a bound of a range is a finite number or has a placeholder, and a pattern that is
not compiled beforehand is not known before the evaluation. What an operator finds on its right while it
is evaluated is then always of a kind that it can take.
-/
import RouteExpr.Proofs.Expr.Template
import RouteExpr.Proofs.Number.Rational
import RouteExpr.Proofs.Predicate.Join

namespace RouteExpr

open Lexer Predicate

/-! ## Placeholders in expressions -/

namespace Expr

mutual

/-- Whether there is a placeholder in the expression. -/
def hasPlaceholder : Expr → Bool
  | property _ => true
  | call _ _ => true
  | concat parts => haveAnyPlaceholder parts
  | step _ e => hasPlaceholder e
  | _ => false

/-- Whether there is a placeholder in one of the expressions. -/
def haveAnyPlaceholder : List Expr → Bool
  | [] => false
  | e :: es => hasPlaceholder e || haveAnyPlaceholder es

end

theorem haveAnyPlaceholder_iff {es : List Expr} :
    haveAnyPlaceholder es = true ↔ ∃ e ∈ es, e.hasPlaceholder = true := by
  induction es with
  | nil => simp [haveAnyPlaceholder]
  | cons e es ih => simp [haveAnyPlaceholder, ih]

theorem hasPlaceholder_of_isPlaceholder {e : Expr} (h : e.isPlaceholder = true) (s : Option Step) :
    (stepped s e).hasPlaceholder = true := by
  have he : e.hasPlaceholder = true := by
    cases e <;> first | rfl | cases h
  cases s with
  | none => exact he
  | some s => simpa [stepped, hasPlaceholder] using he

theorem hasPlaceholder_join {parts : List Expr} (h : ∃ p ∈ parts, p.hasPlaceholder = true) :
    (join parts).hasPlaceholder = true := by
  match parts, h with
  | [], ⟨_, hp, _⟩ => cases hp
  | [p], ⟨q, hq, h⟩ =>
    rw [List.mem_singleton.1 hq] at h
    exact h
  | p :: q :: ps, h => exact haveAnyPlaceholder_iff.2 h

mutual

/-- An expression with a placeholder is not static. -/
theorem isStatic_of_hasPlaceholder : ∀ {e : Expr}, e.hasPlaceholder = true → e.isStatic = false
  | property _, _ => rfl
  | call _ _, _ => rfl
  | step _ _, _ => rfl
  | concat parts, h => by
    rw [isStatic]
    exact areStatic_of_haveAnyPlaceholder (by simpa only [hasPlaceholder] using h)

theorem areStatic_of_haveAnyPlaceholder :
    ∀ {es : List Expr}, haveAnyPlaceholder es = true → areStatic es = false
  | e :: es, h => by
    rw [haveAnyPlaceholder, Bool.or_eq_true] at h
    rw [areStatic, Bool.and_eq_false_iff]
    rcases h with h | h
    · exact .inl (isStatic_of_hasPlaceholder h)
    · exact .inr (areStatic_of_haveAnyPlaceholder h)

end

/-! ## Texts with a marker -/

/-- Where a marker starts, a block is taken, or it has no end. -/
theorem scan_of_startsMarker {l l' : Lexer} {t : Token} (hs : l.suffix? = none)
    (hm : startsMarker l.rest = true) (h : l.scan = .ok (t, l')) :
    t.kind.isPlaceholder = true := by
  obtain ⟨m, hmark⟩ := Option.isSome_iff_exists.1 hm
  obtain ⟨cs, hcs⟩ := startsMarker_eq_cons hm
  have hne : l.rest ≠ [] := by rw [hcs]; simp
  generalize hr : (t, l') = r at h
  cases cuts_of_scan h with
  | eof hnil => exact absurd hnil hne
  | suffix hsome => rw [hs] at hsome; cases hsome
  | block => cases hr; rfl
  | text _ _ _ hnone => rw [hmark] at hnone; cases hnone
  | blanks _ hl _ hc => rw [hcs] at hl; cases hl; cases hc
  | @quoted q _ _ _ _ hl =>
    rw [hcs] at hl
    exact absurd (List.cons.inj hl).1.symm (toChar_plain q).2.1
  | openParen _ hl | closeParen _ hl | comma _ hl | brace _ _ hl => rw [hcs] at hl; cases hl
  | plain _ hplain => rw [startsMarker_of_endsPlain hplain] at hm; cases hm
  | symbol _ hword | word _ hword =>
    rw [hcs] at hm hword
    simp [endsWord, hm] at hword

/-- Text that has a marker and starts with none is cut off before the first marker. -/
theorem startsMarker_takeUntil {cs : List Char} (h : hasMarker cs = true) :
    startsMarker (takeUntil startsMarker cs).2 = true := by
  obtain ⟨hcut, hstop, hplain⟩ := takeUntil_spec startsMarker cs
  refine hstop fun hnil => ?_
  rw [hnil, List.append_nil] at hcut
  obtain ⟨u, v, huv, hv⟩ := hasMarker_iff.1 h
  have hne : v ≠ [] := by
    rintro rfl
    cases hv
  have := hplain u v (by rw [← hcut, huv]) hne
  rw [hnil, List.append_nil, hv] at this
  cases this

variable {block : ReadBlock}

/-- The first marker of a template opens a placeholder. -/
theorem templateParts_hasPlaceholder (hb : ∀ t e, block t = .ok e → e.isPlaceholder = true)
    {l : Lexer} (hmode : l.mode = .template) (hp : l.peeked = none) (hs : l.suffix? = none)
    (hm : hasMarker l.rest = true) {parts : List Expr}
    (h : templateParts block l.lexed = .ok parts) : ∃ p ∈ parts, p.hasPlaceholder = true := by
  -- where the marker comes first
  have first {l : Lexer} (hp : l.peeked = none) (hs : l.suffix? = none)
      (hm : startsMarker l.rest = true) {parts : List Expr}
      (h : templateParts block l.lexed = .ok parts) : ∃ p ∈ parts, p.hasPlaceholder = true := by
    rcases hscan : l.scan with f | ⟨t, l'⟩
    · rw [lexed_of_error hp hscan] at h
      cases h
    obtain ⟨m, hk⟩ := isPlaceholder_iff.1 (scan_of_startsMarker hs hm hscan)
    rw [lexed_of_scan hp hscan (by rw [hk]; nofun), templateParts_placeholder hk] at h
    obtain ⟨node, hnode, h⟩ := bind_eq_ok h
    obtain ⟨rest, -, h⟩ := bind_eq_ok h
    cases h
    exact ⟨_, List.mem_cons_self, hasPlaceholder_of_isPlaceholder (hb t node hnode) _⟩
  by_cases hstart : startsMarker l.rest = true
  · exact first hp hs hstart h
  -- else text comes first, and the marker behind it
  have hne : l.rest ≠ [] := by
    intro hnil
    rw [hnil] at hm
    cases hm
  have hrest := (takeUntil_spec startsMarker l.rest).1
  have hmark := startsMarker_takeUntil hm
  have hscan := scan_of_cuts (.text hmode hne hs (markerAt?_eq_none (by simpa using hstart)))
  rw [lexed_of_emit hp hscan (by simp), templateParts_text rfl] at h
  obtain ⟨parts', hparts, rfl⟩ := map_eq_ok h
  obtain ⟨p, hmem, hhas⟩ := first (l := (l.emit .literal _ _).2) hp (suffix?_of_not_after rfl)
    hmark hparts
  -- and the text joins no placeholder
  unfold prependText
  split
  · rename_i s ps
    rcases List.mem_cons.1 hmem with rfl | hmem
    · cases hhas
    · exact ⟨p, List.mem_cons_of_mem _ hmem, hhas⟩
  · exact ⟨p, List.mem_cons_of_mem _ hmem, hhas⟩

/-- A text with a marker is read as an expression with a placeholder. -/
theorem readRegion_hasPlaceholder {offset : Nat} {cs : List Char} {e : Expr}
    (hm : hasMarker cs = true) (h : readRegion offset cs = .ok e) : e.hasPlaceholder = true := by
  unfold readRegion template at h
  rw [Lexed.of_eq_lexed] at h
  obtain ⟨parts, hparts, rfl⟩ := map_eq_ok h
  exact hasPlaceholder_join (templateParts_hasPlaceholder
    (fun t e he => readBlockTo_isPlaceholder he) rfl rfl rfl hm hparts)

/-! ## Bounds -/

/-- A bound of a range as it is read: a number, which is finite if it is a float, or an expression with a
placeholder. -/
inductive IsBound : Expr → Prop
  | integer (i : Int64) : IsBound (integer i)
  | float (x : Double) (h : x.isFinite = true) : IsBound (float x)
  | dynamic (e : Expr) (h : e.hasPlaceholder = true) : IsBound e

/-- A bound without a placeholder has a value in every context, and that is a number. -/
theorem IsBound.evaluate {e : Expr} (h : e.IsBound) (hs : e.isStatic = true) (ctx : Context) :
    ∃ v, e.evaluate ctx = .ok v ∧ v.toDouble?.isSome = true := by
  cases h with
  | integer i => exact ⟨.integer i, by rw [Expr.evaluate], rfl⟩
  | float x h => exact ⟨.float x, by rw [Expr.evaluate], rfl⟩
  | dynamic e h =>
    rw [isStatic_of_hasPlaceholder h] at hs
    cases hs

end Expr

/-! ## Shapes -/

/-- An operand of the kind that a comparison takes: a type after `is` and nowhere else, a pattern after
`regex` alone, a range after `range` alone, and after `regex` no value that is known beforehand. -/
def Operand.Fits (c : Comparison) : Operand → Prop
  | .type _ => c = .type
  | .pattern _ => c = .regex
  | .range low high => c = .range ∧ low.IsBound ∧ high.IsBound
  | .value e => c ≠ .type ∧ (c = .regex → e.isStatic = false)

namespace Predicate

/-- A single condition: a constant, a value that is no boolean, or a comparison with an operand that
fits. -/
inductive ShapedCondition : Predicate → Prop
  | constant (b : Bool) : ShapedCondition (constant b)
  | truthy (e : Expr) (h : ∀ b, e ≠ .boolean b) : ShapedCondition (truthy e)
  | comparison (left : Expr) (op : Operator) (right : Operand) (h : right.Fits op.comparison) :
    ShapedCondition (comparison left op right)

/-- A condition, or two or more that all have to hold. -/
inductive ShapedGroup : Predicate → Prop
  | single {p : Predicate} (h : ShapedCondition p) : ShapedGroup p
  | all {ps : List Predicate} (several : 2 ≤ ps.length) (h : ∀ p ∈ ps, ShapedCondition p) :
    ShapedGroup (all ps)

/-- A group, or two or more of which one has to hold. -/
inductive Shaped : Predicate → Prop
  | single {p : Predicate} (h : ShapedGroup p) : Shaped p
  | any {ps : List Predicate} (several : 2 ≤ ps.length) (h : ∀ p ∈ ps, ShapedGroup p) :
    Shaped (any ps)

/-! ## Words and operands -/

theorem readNumber?_eq_some {cs : List Char} {e : Expr} (h : readNumber? cs = some e) :
    ((∃ i, e = .integer i) ∨ ∃ x : Double, x.isFinite = true ∧ e = .float x) ∧
      ∃ n, Numeral.read? cs = some n := by
  unfold readNumber? at h
  split at h
  · rename_i i hi
    cases h
    obtain ⟨n, hn, -⟩ := Option.bind_eq_some_iff.1 hi
    exact ⟨.inl ⟨i, rfl⟩, n, hn⟩
  · obtain ⟨n, hn, h⟩ := Option.bind_eq_some_iff.1 h
    dsimp only at h
    split at h
    · rename_i hf
      cases h
      exact ⟨.inr ⟨_, hf, rfl⟩, n, hn⟩
    · cases h

/-- A numeral that is no integer of 64 bits is read as its double. -/
theorem readNumber?_float {cs : List Char} {n : Numeral} (hi : readInt64? cs = none)
    (hn : Numeral.read? cs = some n) (hfinite : (Double.ofNumeral n).isFinite = true) :
    readNumber? cs = some (.float (Double.ofNumeral n)) := by
  unfold readNumber?
  rw [hi, hn, Option.bind_some]
  exact if_pos hfinite

/-- The texts of numbers are the numerals of finite doubles. -/
theorem exists_readNumber?_iff {cs : List Char} : (∃ e, readNumber? cs = some e) ↔
    ∃ n, Numeral.read? cs = some n ∧ (Double.ofNumeral n).isFinite = true := by
  cases hi : readInt64? cs with
  | some i =>
    refine ⟨fun _ => isFinite_of_readInt64? hi, fun _ => ⟨.integer i, ?_⟩⟩
    unfold readNumber?
    rw [hi]
  | none =>
    refine ⟨fun ⟨e, h⟩ => ?_, fun ⟨n, hn, hfinite⟩ => ⟨_, readNumber?_float hi hn hfinite⟩⟩
    unfold readNumber? at h
    rw [hi] at h
    obtain ⟨n, hn, h⟩ := Option.bind_eq_some_iff.1 h
    dsimp only at h
    split at h
    · rename_i hfinite
      exact ⟨n, hn, hfinite⟩
    · cases h

/-- No word that is a value has a marker in it. -/
theorem hasMarker_of_readWord? {cs : List Char} {e : Expr} (h : readWord? cs = some e) :
    hasMarker cs = false := by
  have hdollar : ∀ c ∈ cs, c ≠ '$' := by
    unfold readWord? at h
    split at h
    · rename_i hw
      rw [← String.toList_ofList (l := cs), hw]
      simp
    · rename_i hw
      rw [← String.toList_ofList (l := cs), hw]
      simp
    · rename_i hw
      rw [← String.toList_ofList (l := cs), hw]
      simp
    · obtain ⟨-, n, hn⟩ := readNumber?_eq_some h
      rintro c hc rfl
      have := Numeral.isMark_of_read? hn '$' hc
      simp [Numeral.IsMark] at this
  rw [hasMarker_eq_false_iff]
  rintro u v rfl
  rcases v with _ | ⟨c, v⟩
  · rfl
  · exact startsMarker_cons_of_ne (hdollar c (by simp))

theorem readBound_isBound {offset : Nat} {cs : List Char} {e : Expr}
    (h : readBound offset cs = .ok e) : e.IsBound := by
  unfold readBound at h
  split at h
  · rename_i hm
    exact .dynamic e (Expr.readRegion_hasPlaceholder hm h)
  · dsimp only at h
    split at h
    · cases h
    · split at h
      · rename_i hn
        cases h
        obtain ⟨⟨i, rfl⟩ | ⟨x, hx, rfl⟩, -⟩ := readNumber?_eq_some hn
        · exact .integer i
        · exact .float x hx
      · cases h

/-- A value that starts with a placeholder, or with a quoted text that has a marker, is not static. -/
theorem readParts_dynamic {t : Token} {rest r : Lexed} {ps : List Expr}
    (ht : (∃ m, t.kind = .placeholder m) ∨ (∃ q, t.kind = .quoted q) ∧ hasMarker t.text = true)
    (h : readParts (.token t rest) = .ok (ps, r)) : (Expr.join ps).isStatic = false := by
  refine Expr.isStatic_of_hasPlaceholder (Expr.hasPlaceholder_join ?_)
  rcases ht with ⟨m, hk⟩ | ⟨⟨q, hk⟩, hm⟩
  · rw [readParts_placeholder hk] at h
    obtain ⟨_, -, h⟩ := bind_eq_ok h
    obtain ⟨node, hnode, h⟩ := bind_eq_ok h
    obtain ⟨⟨ps', r'⟩, -, h⟩ := bind_eq_ok h
    cases h
    exact ⟨_, List.mem_cons_self,
      Expr.hasPlaceholder_of_isPlaceholder (Expr.readBlockTo_isPlaceholder hnode) _⟩
  · rw [readParts_quoted hk] at h
    obtain ⟨_, -, h⟩ := bind_eq_ok h
    obtain ⟨node, hnode, h⟩ := bind_eq_ok h
    obtain ⟨⟨ps', r'⟩, -, h⟩ := bind_eq_ok h
    cases h
    exact ⟨_, List.mem_cons_self, Expr.readRegion_hasPlaceholder hm hnode⟩

variable {classes : ClassTable}

/-- What is read behind an operator fits it. -/
theorem readOperand_fits {op : Operator} {symbol : Token} {l r : Lexed} {operand : Operand}
    (h : readOperand classes op symbol l = .ok (operand, r)) : operand.Fits op.comparison := by
  rcases l with offset | f | ⟨t, rest⟩
  · cases h
  · cases h
  -- an operand that is one token, and one that is a value
  have single {read : Token → Except Fault Operand} {x : Except Fault (Operand × Lexed)}
      (hx : x = (do
        let rest ← rest.ready
        return (← read t, rest))) (h : x = .ok (operand, r)) : read t = .ok operand := by
    rw [hx] at h
    obtain ⟨_, -, h⟩ := bind_eq_ok h
    obtain ⟨o, ho, h⟩ := bind_eq_ok h
    cases h
    exact ho
  have value (h : (readValue (.token t rest)).map (fun p => (Operand.value p.1, p.2)) =
      .ok (operand, r)) : ∃ e, readValue (.token t rest) = .ok (e, r) ∧ operand = .value e := by
    obtain ⟨⟨e, r'⟩, he, h⟩ := map_eq_ok h
    cases h
    exact ⟨e, he, rfl⟩
  unfold readOperand at h
  dsimp only at h
  split at h
  · cases h
  · cases h
  · split at h
    · rename_i hc
      split at h
      · have hread := single rfl h
        unfold readType at hread
        dsimp only at hread
        split at hread
        · cases hread
          exact hc
        · cases hread
      · cases h
    · rename_i hc
      split at h
      · have hread := single rfl h
        unfold readRange at hread
        split at hread
        · cases hread
        · obtain ⟨low, hlow, hread⟩ := bind_eq_ok hread
          obtain ⟨high, hhigh, hread⟩ := bind_eq_ok hread
          cases hread
          exact ⟨hc, readBound_isBound hlow, readBound_isBound hhigh⟩
      · obtain ⟨e, -, rfl⟩ := value h
        rw [hc]
        constructor <;> rintro ⟨⟩
    · rename_i hc
      split at h
      · have hread := single rfl h
        unfold readPattern at hread
        dsimp only at hread
        split at hread
        · cases hread
          exact hc
        · cases hread
      · rename_i htext
        obtain ⟨e, he, rfl⟩ := value h
        rw [hc]
        refine ⟨by rintro ⟨⟩, fun _ => ?_⟩
        -- a word has no marker, so the value starts with a placeholder or with one in a quoted text
        rcases readValue_eq_ok he with ⟨u, heq, hk, -, hw⟩ | ⟨u, rest', ps, heq, hk, hps, rfl⟩
        · cases heq
          rw [hk, hasMarker_of_readWord? hw] at htext
          simp [Token.Kind.isText] at htext
        · cases heq
          refine readParts_dynamic (hk.imp_right ?_) hps
          rintro ⟨q, hq⟩
          refine ⟨⟨q, hq⟩, ?_⟩
          rw [hq] at htext
          simpa [Token.Kind.isText] using htext
    · rename_i hc hr hx
      obtain ⟨e, -, rfl⟩ := value h
      exact ⟨hc, fun h => absurd h hx⟩

/-! ## Conditions and groups -/

theorem readCondition_shaped {l r : Lexed} {p : Predicate}
    (h : readCondition classes l = .ok (p, r)) : p.ShapedCondition := by
  obtain ⟨left, rest, rest', -, -, hafter⟩ := readCondition_eq_ok h
  rcases afterLeft_eq_ok hafter with ⟨op, text, start, after, rest₁, right, -, -, hright, rfl⟩ |
    ⟨-, rfl, -⟩
  · exact .comparison left op right (readOperand_fits hright)
  · cases left with
    | boolean b => exact .constant b
    | _ => exact .truthy _ nofun

theorem readChain_shaped : ∀ (n : Nat) {l : Lexed} {groups : List (List Predicate)},
    readChain classes n l = .ok groups → ∀ group ∈ groups, ∀ p ∈ group, p.ShapedCondition
  | n, l, groups, h => by
    obtain ⟨p, rest, rest', hp, -, ⟨-, rfl⟩ |
      ⟨m, t, after, next, c, groups', rfl, -, -, -, -, hgroups, rfl⟩⟩ := readChain_eq_ok h
    · intro group hgroup q hq
      rw [List.mem_singleton.1 hgroup] at hq
      rw [List.mem_singleton.1 hq]
      exact readCondition_shaped hp
    · have ih := readChain_shaped m hgroups
      have hp := readCondition_shaped hp
      -- the condition is a group of its own, or the first of the next group
      intro group hgroup q hq
      unfold attach at hgroup
      split at hgroup
      · rcases List.mem_cons.1 hgroup with rfl | hgroup
        · rcases List.mem_cons.1 hq with rfl | hq
          · exact hp
          · exact ih _ List.mem_cons_self q hq
        · exact ih group (List.mem_cons_of_mem _ hgroup) q hq
      · rcases List.mem_cons.1 hgroup with rfl | hgroup
        · rw [List.mem_singleton.1 hq]
          exact hp
        · exact ih group hgroup q hq
  termination_by n => n

theorem collapse_all_shaped {ps : List Predicate} (hne : ps ≠ [])
    (h : ∀ p ∈ ps, p.ShapedCondition) : (collapse all ps).ShapedGroup := by
  match ps, hne with
  | [p], _ => exact .single (h p List.mem_cons_self)
  | p :: q :: ps, _ => exact .all (by simp) h

theorem ofGroups_shaped {groups : List (List Predicate)} (hf : Flat groups)
    (h : ∀ group ∈ groups, ∀ p ∈ group, p.ShapedCondition) : (ofGroups groups).Shaped := by
  have hgroups : ∀ p ∈ groups.map (collapse all), p.ShapedGroup := by
    intro p hp
    obtain ⟨group, hgroup, rfl⟩ := List.mem_map.1 hp
    exact collapse_all_shaped (hf.2 group hgroup).1 (h group hgroup)
  unfold ofGroups
  match groups, hf.1, hgroups with
  | [group], _, hgroups => exact .single (hgroups _ List.mem_cons_self)
  | _ :: _ :: _, _, hgroups => exact .any (by simp) hgroups

theorem shaped_of_read {text : List Char} {p : Predicate} (h : read classes text = .ok p) :
    p.Shaped := by
  unfold read at h
  obtain ⟨l, hl, h⟩ := bind_eq_ok h
  split at h
  · cases h
    exact .single (.single (.constant false))
  · obtain ⟨groups, hg, h⟩ := bind_eq_ok h
    cases h
    exact ofGroups_shaped (readChain_flat _ hg) (readChain_shaped _ hg)

/-! ## What evaluation meets -/

theorem ShapedCondition.alone {p : Predicate} (h : p.ShapedCondition) :
    p.groups = [p] ∧ p.conditions = [p] := by
  cases h <;> exact ⟨rfl, rfl⟩

/-- All conditions of a predicate that is read are shaped. -/
theorem Shaped.conditions {p : Predicate} (h : p.Shaped) :
    ∀ q ∈ p.groups.flatMap Predicate.conditions, q.ShapedCondition := by
  have group {g : Predicate} (hg : g.ShapedGroup) : ∀ q ∈ g.conditions, q.ShapedCondition := by
    intro q hq
    cases hg with
    | single h =>
      rw [h.alone.2] at hq
      rw [List.mem_singleton.1 hq]
      exact h
    | all several h => exact h q hq
  intro q hmem
  obtain ⟨g, hg, hq⟩ := List.mem_flatMap.1 hmem
  cases h with
  | any several h => exact group (h g hg) q hq
  | single h =>
    have hsingle : p.groups = [p] := by
      cases h with
      | single h => exact h.alone.1
      | all several h => rfl
    rw [hsingle] at hg
    rw [List.mem_singleton.1 hg] at hq
    exact group h q hq

end Predicate

/-! ## Errors of the context -/

/-- An error that some property or function of a context has. -/
def Context.Gives (ctx : Context) (err : EvaluationError) : Prop :=
  (∃ path, ctx.property path = .error err) ∨ ∃ name args, ctx.invoke name args = .error err

/-- A step fails as its value cannot be stepped, or as the sum is out of range. -/
theorem Step.apply_eq_error {s : Step} {v : Value} {err : EvaluationError}
    (h : s.apply v = .error err) :
    err = .typeMismatch (.step s.verb v.kind v.text) ∨ err = .decimalOverflow := by
  have refused (h : (s.refuse v : Outcome Value) = .error err) :
      err = .typeMismatch (.step s.verb v.kind v.text) ∨ err = .decimalOverflow :=
    .inl (Except.error.inj h).symm
  unfold Step.apply at h
  split at h
  · split at h
    · cases h
    · exact refused h
  · cases h
  · dsimp only at h
    split at h
    · split at h
      · cases h
      · exact refused h
    · split at h
      · exact refused h
      · split at h
        · cases h
        · exact .inr (Except.error.inj h).symm
  · exact refused h

namespace Expr

variable {ctx : Context} {name : String}

mutual

/-- The values of an expression are no class names by themselves: it takes the context to say so. -/
theorem gives_of_evaluate : ∀ {e : Expr},
    e.evaluate ctx = .error (.typeMismatch (.noClassName name)) →
    ctx.Gives (.typeMismatch (.noClassName name))
  | literal _, h => by rw [evaluate] at h; cases h
  | integer _, h => by rw [evaluate] at h; cases h
  | float _, h => by rw [evaluate] at h; cases h
  | boolean _, h => by rw [evaluate] at h; cases h
  | null, h => by rw [evaluate] at h; cases h
  | property e, h => by
    rw [evaluate, bind_eq_error] at h
    rcases h with h | ⟨v, -, h⟩
    · exact gives_of_evaluate h
    · dsimp only at h
      split at h
      · exact .inr ⟨_, _, h⟩
      · exact .inl ⟨_, h⟩
  | call e args, h => by
    rw [evaluate, bind_eq_error] at h
    rcases h with h | ⟨v, -, h⟩
    · exact gives_of_evaluate h
    rw [bind_eq_error] at h
    rcases h with h | ⟨values, -, h⟩
    · exact gives_of_evaluateAll h
    · exact .inr ⟨_, _, h⟩
  | concat parts, h => by
    rw [evaluate] at h
    exact gives_of_evaluateAll (bind_pure_eq_error.1 h)
  | step s e, h => by
    rw [evaluate, bind_eq_error] at h
    rcases h with h | ⟨v, -, h⟩
    · exact gives_of_evaluate h
    · rcases Step.apply_eq_error h with h | h <;> cases h

theorem gives_of_evaluateAll : ∀ {es : List Expr},
    evaluateAll ctx es = .error (.typeMismatch (.noClassName name)) →
    ctx.Gives (.typeMismatch (.noClassName name))
  | [], h => by rw [evaluateAll] at h; cases h
  | e :: es, h => by
    rw [evaluateAll, bind_eq_error] at h
    rcases h with h | ⟨v, -, h⟩
    · exact gives_of_evaluate h
    · exact gives_of_evaluateAll (bind_pure_eq_error.1 h)

end

end Expr

/-! ## Comparisons that are read -/

namespace Predicate

variable {ctx : Context} {name : String}

theorem inRange_ne_noClassName (v low high : Value) :
    v.inRange low high ≠ .error (.typeMismatch (.noClassName name)) := by
  unfold Value.inRange
  intro h
  split at h <;> cases h

/-- Only `is` finds that a value is no class name. -/
theorem holds_ne_noClassName {c : Comparison} (hc : c ≠ .type) (a b : Value) :
    c.holds a b ≠ .error (.typeMismatch (.noClassName name)) := by
  intro h
  cases c with
  | type => exact hc rfl
  | regex =>
    rw [Comparison.holds, Value.fitsText] at h
    split at h
    · cases h
    · split at h <;> cases h
  | range =>
    rw [Comparison.holds, Value.inRangeText] at h
    split at h
    · cases h
    · exact inRange_ne_noClassName _ _ _ h
  | _ => cases h

theorem gives_of_compareWith {c : Comparison} {v : Value} {right : Operand} (hr : right.Fits c)
    (h : compareWith ctx c v right = .error (.typeMismatch (.noClassName name))) :
    ctx.Gives (.typeMismatch (.noClassName name)) := by
  cases right with
  | type t => cases h
  | pattern p => cases h
  | value e =>
    rw [compareWith, bind_eq_error] at h
    rcases h with h | ⟨w, -, h⟩
    · exact Expr.gives_of_evaluate h
    · exact absurd h (holds_ne_noClassName hr.1 v w)
  | range low high =>
    rw [compareWith, bind_eq_error] at h
    rcases h with h | ⟨a, -, h⟩
    · exact Expr.gives_of_evaluate h
    rw [bind_eq_error] at h
    rcases h with h | ⟨b, -, h⟩
    · exact Expr.gives_of_evaluate h
    · exact absurd h (inRange_ne_noClassName v a b)

theorem ShapedCondition.gives {p : Predicate} (hp : p.ShapedCondition)
    (h : p.evaluate ctx = .error (.typeMismatch (.noClassName name))) :
    ctx.Gives (.typeMismatch (.noClassName name)) := by
  cases hp with
  | constant b => rw [evaluate] at h; cases h
  | truthy e he =>
    rw [evaluate] at h
    exact Expr.gives_of_evaluate (bind_pure_eq_error.1 h)
  | comparison left op right hr =>
    rw [evaluate, bind_eq_error] at h
    rcases h with h | ⟨v, -, h⟩
    · exact Expr.gives_of_evaluate h
    · exact gives_of_compareWith hr (bind_pure_eq_error.1 h)

/-- An error of several predicates is the error of one of them. -/
theorem error_of_evaluateAll {err : EvaluationError} : ∀ {ps : List Predicate},
    evaluateAll ctx ps = .error err → ∃ p ∈ ps, p.evaluate ctx = .error err
  | [], h => by rw [evaluateAll] at h; cases h
  | p :: ps, h => by
    rw [evaluateAll, bind_eq_error] at h
    rcases h with h | ⟨_ | _, -, h⟩
    · exact ⟨p, List.mem_cons_self, h⟩
    · cases h
    · obtain ⟨q, hq, h⟩ := error_of_evaluateAll h
      exact ⟨q, List.mem_cons_of_mem _ hq, h⟩

theorem error_of_evaluateAny {err : EvaluationError} : ∀ {ps : List Predicate},
    evaluateAny ctx ps = .error err → ∃ p ∈ ps, p.evaluate ctx = .error err
  | [], h => by rw [evaluateAny] at h; cases h
  | p :: ps, h => by
    rw [evaluateAny, bind_eq_error] at h
    rcases h with h | ⟨_ | _, -, h⟩
    · exact ⟨p, List.mem_cons_self, h⟩
    · obtain ⟨q, hq, h⟩ := error_of_evaluateAny h
      exact ⟨q, List.mem_cons_of_mem _ hq, h⟩
    · cases h

/-- An error of a predicate is the error of one of its conditions. -/
theorem error_of_conditions {err : EvaluationError} {p : Predicate}
    (h : p.evaluate ctx = .error err) :
    ∃ q ∈ p.groups.flatMap conditions, q.evaluate ctx = .error err := by
  rw [← evaluateAny_groups] at h
  obtain ⟨g, hg, h⟩ := error_of_evaluateAny h
  rw [← evaluateAll_conditions] at h
  obtain ⟨q, hq, h⟩ := error_of_evaluateAll h
  exact ⟨q, List.mem_flatMap.2 ⟨g, hg, hq⟩, h⟩

/-- Within bounds that are known beforehand, the left side alone can fail. -/
theorem error_of_range {left low high : Expr} {op : Operator} {err : EvaluationError}
    (hl : low.IsBound) (hh : high.IsBound) (hsl : low.isStatic = true) (hsh : high.isStatic = true)
    (h : (comparison left op (.range low high)).evaluate ctx = .error err) :
    left.evaluate ctx = .error err := by
  rw [evaluate, bind_eq_error] at h
  rcases h with h | ⟨v, -, h⟩
  · exact h
  exfalso
  obtain ⟨a, ha, hna⟩ := hl.evaluate hsl ctx
  obtain ⟨b, hb, hnb⟩ := hh.evaluate hsh ctx
  have h := bind_pure_eq_error.1 h
  rw [compareWith, ha, ok_bind, hb, ok_bind, Value.inRange, if_neg] at h
  · cases h
  · simp only [Bool.or_eq_true, not_or, Option.isNone_iff_eq_none]
    exact ⟨Option.isSome_iff_ne_none.1 hna, Option.isSome_iff_ne_none.1 hnb⟩

/-! ## The shape of what is read -/

/-- Every predicate that is read is two or more groups of which one has to hold, or a single one; a group
is two or more conditions that all have to hold, or a single one; and the operand of each comparison
fits its operator. So no evaluation comes upon a value where a class name is needed, unless the context
itself says so; and within two bounds that are known beforehand, only the left side of `range` fails. -/
theorem read_shaped {classes : ClassTable} {text : List Char} {p : Predicate}
    (h : read classes text = .ok p) :
    p.Shaped ∧
      (∀ ctx name, p.evaluate ctx = .error (.typeMismatch (.noClassName name)) →
        ctx.Gives (.typeMismatch (.noClassName name))) ∧
      ∀ left op low high, comparison left op (.range low high) ∈ p.groups.flatMap conditions →
        low.isStatic = true → high.isStatic = true →
        ∀ ctx err, (comparison left op (.range low high)).evaluate ctx = .error err →
          left.evaluate ctx = .error err := by
  have hshaped := shaped_of_read h
  refine ⟨hshaped, fun ctx name herr => ?_, fun left op low high hmem hsl hsh ctx err herr => ?_⟩
  · obtain ⟨q, hq, herr⟩ := error_of_conditions herr
    exact (hshaped.conditions q hq).gives herr
  · have hcondition := hshaped.conditions _ hmem
    cases hcondition with
    | comparison _ _ _ hfits => exact error_of_range hfits.2.1 hfits.2.2 hsl hsh herr

/-- Two groups, of which the first is two conditions. -/
theorem read_shaped_groups :
    ∃ p, read .empty ['$', '\x7b', 'x', '\x7d', '=', '=', '\'', '$', '\x7b', 'y', '\x7d', '\'', '&', '&',
        '$', '\x7b', 'z', '\x7d', '|', '|', '$', '\x7b', 'z', '\x7d'] = .ok p ∧ p.Shaped ∧
      p.groups.length = 2 := by
  have h : read .empty ['$', '\x7b', 'x', '\x7d', '=', '=', '\'', '$', '\x7b', 'y', '\x7d', '\'', '&',
        '&', '$', '\x7b', 'z', '\x7d', '|', '|', '$', '\x7b', 'z', '\x7d'] =
      .ok (any [all [comparison (.property (.literal "x")) ⟨.equal, false⟩
        (.value (.property (.literal "y"))), truthy (.property (.literal "z"))],
        truthy (.property (.literal "z"))]) := by cbv
  exact ⟨_, h, (read_shaped h).1, rfl⟩

end Predicate

end RouteExpr
