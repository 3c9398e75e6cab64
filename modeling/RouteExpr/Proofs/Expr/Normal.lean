/-
The normal form of expressions that were read.

Text joins the text behind it, a placeholder is a part of its own, and parts are joined only where there
are several. So no joined parts are within joined parts, none of them is empty text, and text and text
are never next to each other. A suffix is read behind the placeholders of templates alone, so what is
stepped is a placeholder, and no name is stepped.
-/
import RouteExpr.Proofs.Expr.Depth
import RouteExpr.Proofs.Expr.Literals

namespace RouteExpr.Expr

/-! ## Normal form -/

mutual

/-- All expressions in an expression, of which it is one itself. -/
def nodes : Expr → List Expr
  | property name => property name :: nodes name
  | call name args => call name args :: (nodes name ++ nodesAmong args)
  | concat parts => concat parts :: nodesAmong parts
  | step s e => step s e :: nodes e
  | e => [e]

/-- All expressions in expressions. -/
def nodesAmong : List Expr → List Expr
  | [] => []
  | e :: es => nodes e ++ nodesAmong es

end

/-- Whether an expression is text. -/
def isLiteral : Expr → Bool
  | literal _ => true
  | _ => false

/-- Whether an expression is joined of parts. -/
def isConcat : Expr → Bool
  | concat _ => true
  | _ => false

/-- Whether an expression is a stepped one. -/
def isStep : Expr → Bool
  | step _ _ => true
  | _ => false

/-- Whether an expression is stepped, or has a part that is. -/
def hasStep : Expr → Bool
  | concat parts => parts.any isStep
  | e => e.isStep

/-- Parts that can be joined no further: none is joined of parts itself or is empty text, and no text is
next to text. -/
structure NormalParts (parts : List Expr) : Prop where
  simple : ∀ p ∈ parts, p.isConcat = false ∧ p ≠ literal ""
  apart : parts.IsChain fun p q => ¬ (p.isLiteral = true ∧ q.isLiteral = true)

/-- The normal form of an expression, those in it aside. -/
def IsNormal : Expr → Prop
  | literal _ => True
  | property name => name.hasStep = false
  | call name _ => name.hasStep = false
  | concat parts => 2 ≤ parts.length ∧ NormalParts parts
  | step _ e => e.isPlaceholder = true
  | integer _ => False
  | float _ => False
  | boolean _ => False
  | null => False

/-- Whether an expression and all in it are in normal form. -/
def AllNormal (e : Expr) : Prop :=
  ∀ node ∈ e.nodes, node.IsNormal

theorem mem_nodesAmong {node : Expr} {es : List Expr} :
    node ∈ nodesAmong es ↔ ∃ e ∈ es, node ∈ e.nodes := by
  induction es with
  | nil => simp [nodesAmong]
  | cons e es ih => simp [nodesAmong, ih]

theorem forall_mem_nodesAmong {es : List Expr} :
    (∀ node ∈ nodesAmong es, node.IsNormal) ↔ ∀ e ∈ es, e.AllNormal := by
  simp only [mem_nodesAmong, AllNormal]
  exact ⟨fun h e he node hn => h node ⟨e, he, hn⟩, fun h node ⟨e, he, hn⟩ => h e he node hn⟩

theorem allNormal_literal (s : String) : (literal s).AllNormal := by
  simp [AllNormal, nodes, IsNormal]

theorem allNormal_property {name : Expr} :
    (property name).AllNormal ↔ name.hasStep = false ∧ name.AllNormal := by
  simp [AllNormal, nodes, IsNormal]

theorem allNormal_call {name : Expr} {args : List Expr} : (call name args).AllNormal ↔
    name.hasStep = false ∧ name.AllNormal ∧ ∀ arg ∈ args, arg.AllNormal := by
  rw [← forall_mem_nodesAmong]
  simp only [AllNormal, nodes, List.forall_mem_cons, List.forall_mem_append]
  rfl

theorem allNormal_concat {parts : List Expr} : (concat parts).AllNormal ↔
    (2 ≤ parts.length ∧ NormalParts parts) ∧ ∀ p ∈ parts, p.AllNormal := by
  rw [← forall_mem_nodesAmong]
  simp only [AllNormal, nodes, List.forall_mem_cons]
  rfl

theorem allNormal_stepped {s : Option Step} {e : Expr} (hp : e.isPlaceholder = true)
    (h : e.AllNormal) : (stepped s e).AllNormal := by
  cases s with
  | none => exact h
  | some s => exact List.forall_mem_cons.2 ⟨hp, h⟩

/-! ## Parts -/

variable {parts : List Expr} {cs : List Char} {e : Expr}

theorem normalParts_nil : NormalParts [] :=
  ⟨nofun, .nil⟩

theorem stepped_of_isPlaceholder (s : Option Step) (h : e.isPlaceholder = true) :
    (stepped s e).isConcat = false ∧ (stepped s e).isLiteral = false := by
  cases s with
  | some s => exact ⟨rfl, rfl⟩
  | none => cases e <;> first | exact ⟨rfl, rfl⟩ | cases h

/-- A placeholder, stepped or not, in front of parts is a part of its own. -/
theorem NormalParts.node (h : NormalParts parts) (s : Option Step) (hp : e.isPlaceholder = true) :
    NormalParts (stepped s e :: parts) := by
  obtain ⟨hconcat, hliteral⟩ := stepped_of_isPlaceholder s hp
  refine ⟨List.forall_mem_cons.2 ⟨⟨hconcat, fun heq => ?_⟩, h.simple⟩,
    h.apart.cons fun q _ hboth => ?_⟩
  · rw [heq] at hliteral
    cases hliteral
  · rw [hliteral] at hboth
    cases hboth.1

/-- The parts behind the text that parts start with do not start with text again. -/
theorem NormalParts.others (h : NormalParts parts) :
    NormalParts (others parts) ∧ ∀ q ∈ (Expr.others parts).head?, q.isLiteral = false := by
  rcases parts with _ | ⟨p, parts⟩
  · exact ⟨h, nofun⟩
  · cases p with
    | literal s =>
      refine ⟨⟨fun q hq => h.simple q (List.mem_cons_of_mem _ hq), h.apart.tail⟩, fun q hq => ?_⟩
      cases parts with
      | nil => cases hq
      | cons r parts =>
        cases hq
        exact Bool.eq_false_iff.2 fun hr => (List.isChain_cons_cons.1 h.apart).1 ⟨rfl, hr⟩
    | _ => exact ⟨h, fun q hq => by cases hq; rfl⟩

/-- Text in front of parts joins the text that they start with. -/
theorem NormalParts.text (h : NormalParts parts) (hcs : cs ≠ []) :
    NormalParts (prependText cs parts) := by
  obtain ⟨hothers, hhead⟩ := h.others
  rw [prependText_eq]
  refine ⟨List.forall_mem_cons.2 ⟨⟨rfl, fun heq => ?_⟩, hothers.simple⟩,
    hothers.apart.cons fun q hq hboth => ?_⟩
  · have := congrArg String.toList (literal.inj heq)
    rw [String.toList_ofList] at this
    exact hcs (List.append_eq_nil_iff.1 this).1
  · rw [hhead q hq] at hboth
    cases hboth.2

theorem forall_mem_prependText {p : Expr → Prop} (hliteral : ∀ s, p (literal s))
    (h : ∀ q ∈ parts, p q) : ∀ q ∈ prependText cs parts, p q := by
  rw [prependText_eq]
  refine List.forall_mem_cons.2 ⟨hliteral _, fun q hq => h q ?_⟩
  rcases parts with _ | ⟨r, parts⟩
  · exact hq
  · cases r with
    | literal s => exact List.mem_cons_of_mem _ hq
    | _ => exact hq

/-- Normal parts whose expressions are in normal form. -/
structure AllNormalParts (parts : List Expr) : Prop where
  normal : NormalParts parts
  all : ∀ p ∈ parts, p.AllNormal

theorem AllNormalParts.join (h : AllNormalParts parts) : (join parts).AllNormal := by
  match parts, h with
  | [], _ => exact allNormal_literal ""
  | [p], h => exact h.all p List.mem_cons_self
  | p :: q :: parts, h => exact allNormal_concat.2 ⟨⟨by simp, h.normal⟩, h.all⟩

theorem AllNormalParts.text (h : AllNormalParts parts) (hcs : cs ≠ []) :
    AllNormalParts (prependText cs parts) :=
  ⟨h.normal.text hcs, forall_mem_prependText allNormal_literal h.all⟩

theorem AllNormalParts.node (h : AllNormalParts parts) (s : Option Step)
    (hp : e.isPlaceholder = true) (he : e.AllNormal) : AllNormalParts (stepped s e :: parts) :=
  ⟨h.normal.node s hp, List.forall_mem_cons.2 ⟨allNormal_stepped hp he, h.all⟩⟩

/-! ## Reading parts -/

/-- A way to read blocks that gives placeholders in normal form. -/
def Normalizes (block : ReadBlock) : Prop :=
  ∀ t e, block t = .ok e → e.isPlaceholder = true ∧ e.AllNormal

variable {block : ReadBlock} {ts : List Token}

theorem templateParts_allNormal (hb : Normalizes block) : ∀ {l : Lexed} {parts : List Expr},
    (∀ t ∈ l.tokens, t.raw ≠ []) → templateParts block l = .ok parts → AllNormalParts parts
  | .eof _, _, _, h => by cases h; exact ⟨normalParts_nil, nofun⟩
  | .fault _, _, _, h => by cases h
  | .token t rest, parts, hraw, h => by
    have hsize := rest.size_takeSuffix
    cases ht : t.kind.isPlaceholder with
    | false =>
      rw [templateParts_text ht] at h
      obtain ⟨parts', hparts, rfl⟩ := map_eq_ok h
      exact (templateParts_allNormal hb (fun u hu => hraw u (List.mem_cons_of_mem _ hu)) hparts).text
        (hraw t List.mem_cons_self)
    | true =>
      obtain ⟨m, hm⟩ := isPlaceholder_iff.1 ht
      rw [templateParts_placeholder hm] at h
      obtain ⟨e, he, h⟩ := bind_eq_ok h
      obtain ⟨parts', hparts, h⟩ := bind_eq_ok h
      cases h
      have hrest : ∀ u ∈ rest.takeSuffix.2.tokens, u.raw ≠ [] :=
        fun u hu => hraw u (List.mem_cons_of_mem _ (rest.tokens_takeSuffix.subset hu))
      exact (templateParts_allNormal hb hrest hparts).node _ (hb t e he).1 (hb t e he).2
  termination_by l => l.size
  decreasing_by all_goals simp only [Lexed.size]; omega

/-- The parts of a name are in normal form, and none is stepped. -/
theorem segmentParts_allNormal (hb : Normalizes block) (hraw : ∀ t ∈ ts, t.raw ≠ [])
    (h : segmentParts block ts = .ok parts) :
    AllNormalParts parts ∧ ∀ p ∈ parts, p.isStep = false := by
  induction ts generalizing parts with
  | nil => cases h; exact ⟨⟨normalParts_nil, nofun⟩, nofun⟩
  | cons t ts ih =>
    have ih {parts' : List Expr} (hparts : segmentParts block ts = .ok parts') :=
      ih (fun u hu => hraw u (List.mem_cons_of_mem _ hu)) hparts
    cases ht : t.kind.isPlaceholder with
    | false =>
      rw [segmentParts_text ht] at h
      obtain ⟨parts', hparts, rfl⟩ := map_eq_ok h
      obtain ⟨hnormal, hstep⟩ := ih hparts
      exact ⟨hnormal.text (hraw t List.mem_cons_self), forall_mem_prependText (fun _ => rfl) hstep⟩
    | true =>
      obtain ⟨m, hm⟩ := isPlaceholder_iff.1 ht
      rw [segmentParts_placeholder hm] at h
      obtain ⟨e, he, h⟩ := bind_eq_ok h
      obtain ⟨parts', hparts, h⟩ := bind_eq_ok h
      cases h
      obtain ⟨hnormal, hstep⟩ := ih hparts
      obtain ⟨hp, hall⟩ := hb t e he
      refine ⟨hnormal.node none hp hall, List.forall_mem_cons.2 ⟨?_, hstep⟩⟩
      cases e <;> first | rfl | cases hp

theorem hasStep_join (h : ∀ p ∈ parts, p.isStep = false) (hp : NormalParts parts) :
    (join parts).hasStep = false := by
  match parts, h, hp with
  | [], _, _ => rfl
  | [p], h, hp =>
    -- a single part is not joined of parts
    have hconcat := (hp.simple p List.mem_cons_self).1
    have := h p List.mem_cons_self
    cases p <;> first | exact this | cases hconcat
  | p :: q :: parts, h, _ => exact List.any_eq_false.2 fun r hr => by rw [h r hr]; simp

theorem segment_allNormal (hb : Normalizes block) (hraw : ∀ t ∈ ts, t.raw ≠ [])
    (h : segment block ts = .ok e) : e.AllNormal ∧ e.hasStep = false := by
  obtain ⟨parts, hparts, rfl⟩ := map_eq_ok h
  obtain ⟨hnormal, hstep⟩ := segmentParts_allNormal hb
    (fun t ht => hraw t ((trimTokens_isInfix ts).subset ht)) hparts
  exact ⟨hnormal.join, hasStep_join hstep hnormal.normal⟩

/-! ## Blocks -/

/-- Tokens of a region are cut from characters. -/
theorem raw_ne_nil_of_mem {mode : Mode} {offset : Nat} {region : List Char} {t : Token}
    (ht : t ∈ (Lexed.of mode offset region).tokens) : t.raw ≠ [] := by
  obtain ⟨l₁, l₂, -, hne, hs, -⟩ := Lexer.scan_of_mem_tokens (Lexer.start mode offset region) rfl ht
  exact (Lexer.scan_takes hs).raw_ne_nil hne

theorem template_allNormal (hb : Normalizes block) {offset : Nat} {region : List Char}
    (h : template block offset region = .ok e) : e.AllNormal := by
  obtain ⟨parts, hparts, rfl⟩ := map_eq_ok h
  exact (templateParts_allNormal hb (fun _ ht => raw_ne_nil_of_mem ht) hparts).join

theorem argument_allNormal (hb : Normalizes block) (hraw : ∀ t ∈ ts, t.raw ≠ [])
    (h : argument block ts = .ok e) : e.AllNormal := by
  unfold argument at h
  split at h
  · exact template_allNormal hb h
  · exact (segment_allNormal hb hraw h).1

theorem arguments_allNormal (hb : Normalizes block) (hraw : ∀ t ∈ ts, t.raw ≠ []) {es : List Expr}
    (h : arguments block ts = .ok es) : ∀ e ∈ es, e.AllNormal := by
  unfold arguments at h
  split at h
  · cases h
    exact nofun
  · have hparts : ∀ part ∈ splitArguments 0 ts, ∀ t ∈ part, t.raw ≠ [] :=
      fun part hp t ht => hraw t ((isInfix_of_mem_splitArguments hp).subset ht)
    generalize splitArguments 0 ts = args at h hparts
    induction args generalizing es with
    | nil =>
      cases h
      exact nofun
    | cons arg args ih =>
      rw [List.mapM_cons] at h
      obtain ⟨e, he, h⟩ := bind_eq_ok h
      obtain ⟨es', hes, h⟩ := bind_eq_ok h
      cases h
      obtain ⟨harg, hargs⟩ := List.forall_mem_cons.1 hparts
      exact List.forall_mem_cons.2 ⟨argument_allNormal hb harg he, ih hes hargs⟩

theorem inside_allNormal (hb : Normalizes block) (hraw : ∀ t ∈ ts, t.raw ≠ [])
    (h : inside block ts = .ok e) : e.AllNormal := by
  unfold inside at h
  split at h
  · rename_i name args hcall
    obtain ⟨hname, hargs⟩ := splitCall?_isInfix hcall
    obtain ⟨n, hn, h⟩ := bind_eq_ok h
    obtain ⟨es, hes, h⟩ := bind_eq_ok h
    cases h
    obtain ⟨hnormal, hstep⟩ := segment_allNormal hb (fun t ht => hraw t (hname.subset ht)) hn
    exact allNormal_call.2
      ⟨hstep, hnormal, arguments_allNormal hb (fun t ht => hraw t (hargs.subset ht)) hes⟩
  · obtain ⟨n, hn, rfl⟩ := map_eq_ok h
    obtain ⟨hnormal, hstep⟩ := segment_allNormal hb hraw hn
    exact allNormal_property.2 ⟨hstep, hnormal⟩

theorem readBlockTo_normalizes (depth : Nat) : Normalizes (readBlockTo depth) := by
  induction depth with
  | zero => intro t e h; cases h
  | succ depth ih =>
    intro t e h
    refine ⟨readBlockTo_isPlaceholder h, ?_⟩
    rw [readBlockTo] at h
    split at h
    · cases h
    · obtain ⟨ts, hts, h⟩ := bind_eq_ok h
      refine inside_allNormal ih (fun u hu => ?_) h
      rw [← Lexed.tokens_of_toTokens hts] at hu
      exact raw_ne_nil_of_mem hu

/-! ## Whole texts -/

/-- Every expression in that of a text is in normal form: joined parts are two at least, none of them
joined of parts itself or empty text, and no two texts next to each other; what is stepped is a
placeholder, and a name is not stepped, and no part of it is; and there are no operands of
predicates. -/
theorem read_isNormal {cs : List Char} (h : read cs = .ok e) : ∀ node ∈ e.nodes, node.IsNormal :=
  template_allNormal (fun t => readBlockTo_normalizes t.text.length t) h

/-- A text around a stepped placeholder is joined of three parts in normal form. -/
theorem read_isNormal_stepped :
    read ['a', '$', '\x7b', 'b', '\x7d', '+', '+', 'c'] = .ok (concat [literal "a",
      step .increment (property (literal "b")), literal "c"]) ∧
    ∀ node ∈ (concat [literal "a", step .increment (property (literal "b")), literal "c"]).nodes,
      node.IsNormal := by
  have h : read ['a', '$', '\x7b', 'b', '\x7d', '+', '+', 'c'] = .ok (concat [literal "a",
      step .increment (property (literal "b")), literal "c"]) := by cbv
  exact ⟨h, read_isNormal h⟩

end RouteExpr.Expr
