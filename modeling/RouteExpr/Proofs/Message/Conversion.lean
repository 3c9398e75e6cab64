/-
Values converted to types, by whichever way a conversion is asked for.

Converting and testing agree: what a conversion gives is an instance, unless it is null, and an instance
is left as it is. The functions `bodyAs` and `headerAs` take texts in quotes as they stand, so they
convert what the body and the header are to the type of that name, as converting the expression does, and
each of them says in the same words that there is no conversion.
-/
import RouteExpr.Language
import RouteExpr.Message.Host
import RouteExpr.Proofs.Evaluation.Alike
import RouteExpr.Proofs.Expr.Call
import RouteExpr.Proofs.Message.Host

namespace RouteExpr

open Predicate (hasMarker)

/-! ## Conversions and instances -/

namespace ValueType

variable {t : ValueType} {v w : Value}

/-- An instance is converted to itself. -/
theorem convert?_of_admits (h : t.admits v = true) : t.convert? v = some v := by
  have hnull : ¬ v.isNull = true := by
    intro hnull
    cases v with
    | null => cases t <;> cases h
    | _ => cases hnull
  unfold convert?
  rw [if_neg hnull, if_pos h]

/-- What a value other than null is converted to is an instance. -/
theorem admits_of_convert? (hv : v ≠ .null) (h : t.convert? v = some w) : t.admits w = true := by
  have hnull : ¬ v.isNull = true := by
    intro hnull
    cases v with
    | null => exact hv rfl
    | _ => cases hnull
  unfold convert? at h
  rw [if_neg hnull] at h
  by_cases hadmits : t.admits v = true
  · rw [if_pos hadmits] at h
    cases h
    exact hadmits
  rw [if_neg hadmits] at h
  cases t with
  | string => cases h; rfl
  | integer =>
    obtain ⟨i, -, rfl⟩ := Option.map_eq_some_iff.1 h
    rfl
  | float =>
    obtain ⟨x, -, rfl⟩ := Option.map_eq_some_iff.1 h
    rfl
  | number =>
    rcases Option.or_eq_some_iff.1 h with h | ⟨-, h⟩
    · obtain ⟨i, -, rfl⟩ := Option.map_eq_some_iff.1 h
      rfl
    · obtain ⟨x, -, rfl⟩ := Option.map_eq_some_iff.1 h
      rfl
  | boolean =>
    cases v with
    | string s =>
      obtain ⟨b, -, rfl⟩ := Option.map_eq_some_iff.1 h
      rfl
    | _ => cases h
  | list => cases h; rfl
  | map => cases h
  | object => cases h

theorem not_admits_null (t : ValueType) : t.admits .null = false := by
  cases t <;> rfl

/-- Null and nothing else is converted to null. -/
theorem convert?_eq_null_iff : t.convert? v = some .null ↔ v = .null := by
  constructor
  · intro h
    by_contra hv
    have hadmits := admits_of_convert? hv h
    rw [t.not_admits_null] at hadmits
    cases hadmits
  · rintro rfl
    rfl

/-! ## Outcomes of conversions -/

/-- What converting a value to a type comes to: the value that it is converted to, or the mismatch. -/
def convert (t : ValueType) (v : Value) : Outcome Value :=
  match t.convert? v with
  | some w => .ok w
  | none => .error (.typeMismatch (.conversion v.kind v.text t))

/-- An outcome is what a value is converted to, or that it has no conversion. -/
structure Converts (t : ValueType) (v : Value) (outcome : Outcome Value) : Prop where
  ok_iff : ∀ w, outcome = .ok w ↔ t.convert? v = some w
  error_iff : ∀ err, outcome = .error err ↔
    t.convert? v = none ∧ err = .typeMismatch (.conversion v.kind v.text t)

theorem converts_convert (t : ValueType) (v : Value) : t.Converts v (t.convert v) := by
  unfold convert
  cases hconvert : t.convert? v with
  | some w => constructor <;> simp [hconvert]
  | none => constructor <;> simp [hconvert, eq_comm]

end ValueType

/-! ## Texts as arguments -/

/-- A text without quotes and braces, and so without markers. -/
def IsPlainText (text : List Char) : Prop :=
  ∀ c ∈ text, c ∉ ['\'', '"', '\x7b', '\x7d']

theorem hasMarker_eq_false_of_not_mem {cs : List Char} (h : '\x7b' ∉ cs) : hasMarker cs = false := by
  rw [hasMarker_eq_false_iff]
  rintro u v rfl
  by_contra hv
  obtain ⟨m, hm⟩ := startsMarker_iff.1 (by simpa using hv)
  have hbrace : '\x7b' ∈ m.chars := by cases m <;> decide
  exact h (List.mem_append_right u (hm.subset hbrace))

namespace IsPlainText

variable {text : List Char}

theorem not_mem (h : IsPlainText text) {c : Char} (hc : c ∈ ['\'', '"', '\x7b', '\x7d']) : c ∉ text :=
  fun hmem => h c hmem hc

theorem read (h : IsPlainText text) : Expr.read text = .ok (.literal (String.ofList text)) := by
  by_cases hnil : text = []
  · subst hnil
    rfl
  · exact Predicate.read_of_no_marker hnil (hasMarker_eq_false_of_not_mem (h.not_mem (by simp)))

/-- The text in single quotes as an argument of a call. -/
def argument (h : IsPlainText text) : Expr.Argument where
  text := text
  tree := .literal (String.ofList text)
  writing := .quoted .single
  before := []
  after := []
  reads := h.read
  closes := by
    rintro u v rfl
    exact absurd (List.mem_append_right u List.mem_cons_self) (h.not_mem (by simp))
  fits := h.not_mem (by simp [Quote.toChar])
  blank_before := rfl
  blank_after := rfl

@[simp] theorem source_argument (h : IsPlainText text) :
    h.argument.source = '\'' :: (text ++ ['\'']) := by
  simp [Expr.Argument.source, argument, Expr.Writing.chars, Quote.toChar]

end IsPlainText

namespace Expr

open Lexer Token

/-- A block that is more than blanks is read from its tokens. -/
theorem readBlock_of_tokens {t : Token} {ts : List Token} (hblank : Text.allBlank t.text = false)
    (hts : (Lexed.of .function t.textStart t.text).toTokens = .ok ts) :
    readBlock t = inside (readBlockTo (t.text.length - 1)) ts := by
  have hlength : t.text.length = t.text.length - 1 + 1 := by
    rcases htext : t.text with _ | ⟨c, cs⟩
    · rw [htext] at hblank
      cases hblank
    · rfl
  rw [readBlock]
  conv_lhs => rw [hlength]
  rw [readBlockTo, hblank, if_neg Bool.false_ne_true, hts]
  rfl

/-- A call is its function with the values of the expressions that its arguments are. -/
theorem evaluate_call {name : List Char} (hname : IsName name) (args : List Argument) :
    ∃ e, read ('$' :: '\x7b' :: (name ++ '(' :: (Argument.sources args ++ [')', '\x7d']))) = .ok e ∧
      ∀ ctx, e.evaluate ctx =
        evaluateAll ctx (args.map Argument.tree) >>=
          ctx.invoke (Text.trimmed (String.ofList name)) := by
  have hneutral : Neutral (name ++ '(' :: (Argument.sources args ++ [')'])) := by
    have hsources := Argument.sources_neutral (by rintro c ⟨⟩; decide)
      (neutral_nil.cons (by decide) (by decide) : Neutral [')']) args
    refine (hsources.cons (by decide) (by decide)).prepend fun c hc => ?_
    have hplain := (hname.2 c hc).2
    constructor <;>
    · rintro rfl
      exact hplain (by decide)
  obtain ⟨ts, n, o, c, htokens, hn, htext, ho, hc, hreads⟩ := tokens_call hname args
    (textStart ⟨.placeholder .short, name ++ '(' :: (Argument.sources args ++ [')']), 0⟩)
  have hblank : Text.allBlank (name ++ '(' :: (Argument.sources args ++ [')'])) = false := by
    simp [Text.allBlank, Text.isBlank]
  -- a block is as long as any argument, so that what is inside it is read in full
  have hinside : inside (readBlockTo ((name ++ '(' :: (Argument.sources args ++ [')'])).length - 1))
      (n :: o :: (ts ++ [c])) = .ok (call (literal (String.ofList n.text)) (args.map Argument.tree)) := by
    refine inside_call hn ho hc hreads fun a ha offset => template_of_read a.reads ?_ offset
    have := Argument.length_text_le ha
    simp only [List.length_append, List.length_cons]
    omega
  have hread := read_block .short hneutral
  rw [readBlock_of_tokens hblank htokens, hinside, htext] at hread
  refine ⟨call (literal (String.ofList name)) (args.map Argument.tree), ?_, fun ctx => ?_⟩
  · simpa [Marker.chars] using hread
  · rw [evaluate, evaluate]
    rfl

end Expr

/-! ## Ways to a typed value -/

/-- A value is converted to the type that a text names. -/
theorem Host.convertTo_string (h : Host) (function name : String) (v : Value) :
    h.convertTo function v (.string name) =
      match h.classes.resolve? name with
      | some t => t.convert v
      | none => .error (.invalidArguments function (.unknownType name)) := by
  unfold convertTo
  rw [show (Value.string name).text = name from rfl]
  cases h.classes.resolve? name <;> rfl

namespace Expression

/-- An expression is converted as its value is, and what stops it stops the conversion. -/
theorem evaluateAs_eq (ctx : Context) (t : ValueType) (e : Expression) :
    e.evaluateAs ctx t = e.evaluate ctx >>= t.convert := rfl

theorem parse_eq_ok {text : String} {root : Expr} (h : Expr.read text.toList = .ok root) :
    parse text = .ok ⟨text, root⟩ := by
  unfold parse
  rw [h]

variable (h : Host) {name header : String} {t : ValueType}

/-- In every host, the body as a type is converted to the type of that name there. -/
theorem parse_bodyAs (hname : IsPlainText name.toList) :
    ∃ e, parse ("$\x7bbodyAs('" ++ name ++ "')\x7d") = .ok e ∧
      ∀ h : Host, e.evaluate h.context = h.convertTo "bodyAs" h.message.body (.string name) := by
  have hbodyAs : Expr.IsName "bodyAs".toList := ⟨by decide, by simp [Text.isBlank]⟩
  obtain ⟨e, hread, heval⟩ := Expr.evaluate_call hbodyAs [hname.argument]
  refine ⟨⟨_, e⟩, parse_eq_ok ?_, fun h => ?_⟩
  · rw [← hread]
    simp [Expr.Argument.sources_singleton]
  · show e.evaluate h.context = _
    rw [heval]
    show h.convertTo "bodyAs" h.message.body (.string (String.ofList name.toList)) = _
    rw [String.ofList_toList]

/-- The body as a type is the body, converted to it. -/
theorem evaluate_bodyAs (hname : IsPlainText name.toList) (ht : h.classes.resolve? name = some t) :
    ∃ e, parse ("$\x7bbodyAs('" ++ name ++ "')\x7d") = .ok e ∧
      e.evaluate h.context = t.convert h.message.body := by
  obtain ⟨e, hparse, heval⟩ := parse_bodyAs hname
  refine ⟨e, hparse, ?_⟩
  rw [heval, h.convertTo_string, ht]

/-- A header as a type is the header, converted to it. -/
theorem evaluate_headerAs (hheader : IsPlainText header.toList) (hname : IsPlainText name.toList)
    (ht : h.classes.resolve? name = some t) :
    ∃ e, parse ("$\x7bheaderAs('" ++ header ++ "','" ++ name ++ "')\x7d") = .ok e ∧
      e.evaluate h.context = t.convert (h.header header) := by
  have hheaderAs : Expr.IsName "headerAs".toList := ⟨by decide, by simp [Text.isBlank]⟩
  obtain ⟨e, hread, heval⟩ := Expr.evaluate_call hheaderAs [hheader.argument, hname.argument]
  refine ⟨⟨_, e⟩, parse_eq_ok ?_, ?_⟩
  · rw [← hread]
    simp [Expr.Argument.sources_singleton, Expr.Argument.sources_cons_cons]
  · show e.evaluate h.context = _
    rw [heval]
    show h.convertTo "headerAs" (h.header (String.ofList header.toList))
      (.string (String.ofList name.toList)) = _
    rw [String.ofList_toList, String.ofList_toList, h.convertTo_string, ht]

/-- The body by its name. -/
theorem evaluate_body : ∃ e, parse "$\x7bbody\x7d" = .ok e ∧
    e.evaluate h.context = .ok h.message.body := by
  have hread : Expr.read "$\x7bbody\x7d".toList = .ok (.property (.literal "body")) := by cbv
  refine ⟨_, parse_eq_ok hread, ?_⟩
  show (Expr.property (.literal "body")).evaluate h.context = _
  rw [Expr.evaluate, Expr.evaluate]
  rfl

end Expression

/-- Every way to a typed value agrees. `bodyAs` comes to what converting the expression `body` comes to, and
that is what the body is converted to; `headerAs` comes to what the header is converted to; and converting any
expression comes to what its value is converted to. A conversion gives null for null alone, and else an
instance, which is left as it is. -/
theorem conversions_agree :
    (∀ (h : Host) (name : String) (t : ValueType),
      IsPlainText name.toList → h.classes.resolve? name = some t →
        (∃ e b, Expression.parse ("$\x7bbodyAs('" ++ name ++ "')\x7d") = .ok e ∧
          Expression.parse "$\x7bbody\x7d" = .ok b ∧
          e.evaluate h.context = b.evaluateAs h.context t ∧
          t.Converts h.message.body (e.evaluate h.context)) ∧
        ∀ header : String, IsPlainText header.toList →
          ∃ e v, Expression.parse ("$\x7bheaderAs('" ++ header ++ "','" ++ name ++ "')\x7d") = .ok e ∧
            h.context.property ("header." ++ header) = .ok v ∧
            t.Converts v (e.evaluate h.context)) ∧
    (∀ (ctx : Context) (e : Expression) (t : ValueType),
      (∀ v, e.evaluate ctx = .ok v → t.Converts v (e.evaluateAs ctx t)) ∧
      ∀ err, e.evaluate ctx = .error err → e.evaluateAs ctx t = .error err) ∧
    ∀ (t : ValueType) (v : Value),
      (t.convert? v = some .null ↔ v = .null) ∧
      (∀ w, t.convert? v = some w → w ≠ .null →
        t.admits w = true ∧ t.convert? w = some w ∧
        ∀ (ctx : Context) (e : Expr), e.evaluate ctx = .ok w →
          (Predicate.comparison e ⟨.type, false⟩ (.type t)).evaluate ctx = .ok true) ∧
      (t.admits v = true → t.convert? v = some v) := by
  refine ⟨fun h name t hname ht => ⟨?_, fun header hheader => ?_⟩,
    fun ctx e t => ⟨fun v hv => ?_, fun err herr => ?_⟩, fun t v => ?_⟩
  · obtain ⟨e, he, heval⟩ := Expression.evaluate_bodyAs h hname ht
    obtain ⟨b, hb, hbody⟩ := Expression.evaluate_body h
    refine ⟨e, b, he, hb, ?_, ?_⟩
    · rw [heval, Expression.evaluateAs_eq, hbody, ok_bind]
    · rw [heval]
      exact t.converts_convert h.message.body
  · obtain ⟨e, he, heval⟩ := Expression.evaluate_headerAs h hheader hname ht
    refine ⟨e, h.header header, he, h.property_header header, ?_⟩
    rw [heval]
    exact t.converts_convert (h.header header)
  · rw [Expression.evaluateAs_eq, hv, ok_bind]
    exact t.converts_convert v
  · rw [Expression.evaluateAs_eq, herr]
    rfl
  · refine ⟨ValueType.convert?_eq_null_iff, fun w hw hnull => ?_, ValueType.convert?_of_admits⟩
    have hv : v ≠ .null := by
      rintro rfl
      exact hnull (Option.some.inj hw).symm
    have hadmits := ValueType.admits_of_convert? hv hw
    refine ⟨hadmits, ValueType.convert?_of_admits hadmits, fun ctx e he => ?_⟩
    rw [Predicate.evaluate, he, ok_bind, Predicate.compareWith, hadmits]
    rfl

/-- The body as an integer by the name of a class, and a header that is none. -/
theorem conversions_agree_int :
    let h := Host.ofMessage ⟨.string "5", [("retries", .string "three")], [], [], []⟩
    IsPlainText "int".toList ∧ h.classes.resolve? "int" = some .integer ∧
      (∃ e b, Expression.parse "$\x7bbodyAs('int')\x7d" = .ok e ∧
        Expression.parse "$\x7bbody\x7d" = .ok b ∧
        e.evaluate h.context = .ok (.integer 5) ∧ b.evaluateAs h.context .integer = .ok (.integer 5)) ∧
      IsPlainText "retries".toList ∧
      (∃ e, Expression.parse "$\x7bheaderAs('retries','int')\x7d" = .ok e ∧
        e.evaluate h.context = .error (.typeMismatch (.conversion "string" "three" .integer))) ∧
      ValueType.integer.convert? (.integer 5) = some (.integer 5) := by
  intro h
  have hint : IsPlainText "int".toList := by simp [IsPlainText]
  have hretries : IsPlainText "retries".toList := by simp [IsPlainText]
  have hclass : h.classes.resolve? "int" = some .integer := by
    show ClassTable.standard.resolve? "int" = some .integer
    cbv
  have hfive : ValueType.integer.convert? (.string "5") = some (.integer 5) := by cbv
  have hthree : ValueType.integer.convert? (.string "three") = none := by cbv
  have hsome : Value.integer 5 ≠ .null := by
    intro hnull
    cases hnull
  obtain ⟨⟨e, b, he, hb, hsame, hbody⟩, hheader⟩ := conversions_agree.1 h "int" .integer hint hclass
  have hevaluate : e.evaluate h.context = .ok (.integer 5) := (hbody.ok_iff _).2 hfive
  obtain ⟨e', v, he', hv, hconverts⟩ := hheader "retries" hretries
  obtain rfl : v = .string "three" := by
    have hretry : h.header "retries" = .string "three" := rfl
    rw [← hretry]
    exact (Except.ok.inj ((h.property_header "retries").symm.trans hv)).symm
  have hinstance := (conversions_agree.2.2 .integer (.string "5")).2.1 _ hfive hsome
  exact ⟨hint, hclass, ⟨e, b, he, hb, hevaluate, hsame ▸ hevaluate⟩, hretries,
    ⟨e', he', (hconverts.error_iff _).2 ⟨hthree, rfl⟩⟩, hinstance.2.1⟩

end RouteExpr
