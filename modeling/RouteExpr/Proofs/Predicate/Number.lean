/-
Bare words as operands.

A word stands for a value wherever a value may stand: alone, before an operator or behind one. Apart from
`true`, `false` and `null` it has to be a number, which is a numeral of the grammar whose double is finite, and
is an integer exactly where the grammar says that it is one of 64 bits. Behind `is`, `regex` and `range` a word
is no value but a text: it names a type, writes a pattern, or is two numbers with two dots between them.
-/
import RouteExpr.Proofs.Evaluation.Alike
import RouteExpr.Proofs.Number.Grammar
import RouteExpr.Proofs.Predicate.Range

namespace RouteExpr

open Lexer

namespace Predicate

open Numeral (Grammar IntegerGrammar)

variable {word : List Char}

/-! ## Words that are numbers -/

/-- The words that are values and no numbers. -/
def names : List (List Char) :=
  ["true".toList, "false".toList, "null".toList]

/-- Any other word is read as a number. -/
theorem readWord?_eq_readNumber? (h : word ∉ names) : readWord? word = readNumber? word := by
  have hne {s : String} (hs : s.toList ∈ names) : String.ofList word ≠ s := by
    rintro rfl
    rw [String.toList_ofList] at hs
    exact h hs
  unfold readWord?
  split
  · rename_i heq
    exact absurd heq (hne (by decide))
  · rename_i heq
    exact absurd heq (hne (by decide))
  · rename_i heq
    exact absurd heq (hne (by decide))
  · rfl

/-- The double of a word that is a numeral is finite. -/
def FiniteDouble (word : List Char) : Prop :=
  ∀ n, Numeral.read? word = some n → (Double.ofNumeral n).isFinite = true

/-- The words that are numbers are the numerals of finite doubles. -/
theorem exists_readNumber?_iff_grammar : (∃ e, readNumber? word = some e) ↔ Grammar word ∧ FiniteDouble word := by
  rw [exists_readNumber?_iff, ← Numeral.isNumeral_iff, isNumeral, Option.isSome_iff_exists]
  constructor
  · rintro ⟨n, hn, hfinite⟩
    refine ⟨⟨n, hn⟩, fun m hm => ?_⟩
    cases hn.symm.trans hm
    exact hfinite
  · rintro ⟨⟨n, hn⟩, hfinite⟩
    exact ⟨n, hn, hfinite n hn⟩

theorem readNumber?_eq_integer {i : Int64} :
    readNumber? word = some (.integer i) ↔ IntegerGrammar word i.toInt := by
  rw [← readInt64?_iff]
  unfold readNumber?
  cases readInt64? word with
  | some j => simp
  | none =>
    simp only [reduceCtorEq, iff_false]
    intro h
    obtain ⟨n, -, h⟩ := Option.bind_eq_some_iff.1 h
    split at h <;> cases h

/-- A number that is no integer of 64 bits is the double of its numeral. -/
theorem readNumber?_eq_float {e : Expr} (h : readNumber? word = some e)
    (hno : ∀ i : Int64, ¬ IntegerGrammar word i.toInt) :
    ∃ n, Numeral.read? word = some n ∧ e = .float (Double.ofNumeral n) := by
  have hinteger : readInt64? word = none :=
    Option.eq_none_iff_forall_ne_some.2 fun i hi => hno i (readInt64?_iff.1 hi)
  unfold readNumber? at h
  rw [hinteger] at h
  obtain ⟨n, hn, h⟩ := Option.bind_eq_some_iff.1 h
  dsimp only at h
  split at h <;> cases h
  exact ⟨n, hn, rfl⟩

/-- What a reader makes of a word is a number: it accepts numerals of finite doubles and no other words, and
makes integers of those that are integers of 64 bits. -/
structure ReadsNumber {α : Type} (word : List Char) (made : Expr → α) (outcome : Except Fault α) : Prop where
  accepts : (∃ a, outcome = .ok a) ↔ Grammar word ∧ FiniteDouble word
  integer : ∀ i : Int64, outcome = .ok (made (.integer i)) ↔ IntegerGrammar word i.toInt
  other : ∀ a, outcome = .ok a → (∀ i : Int64, ¬ IntegerGrammar word i.toInt) →
    ∃ n, Numeral.read? word = some n ∧ a = made (.float (Double.ofNumeral n))

/-- What a word is made, or its refusal. -/
def ofWord {α : Type} (word : List Char) (start : Nat) (made : Expr → α) : Except Fault α :=
  match readWord? word with
  | some e => .ok (made e)
  | none => unexpected ⟨.literal, word, start⟩

theorem ofWord_readsNumber {α : Type} (h : word ∉ names) (start : Nat) {made : Expr → α}
    (hmade : Function.Injective made) : ReadsNumber word made (ofWord word start made) := by
  unfold ofWord
  rw [readWord?_eq_readNumber? h]
  refine ⟨?_, fun i => ?_, fun a ha hno => ?_⟩
  · rw [← exists_readNumber?_iff_grammar]
    cases readNumber? word <;> simp [unexpected]
  · rw [← readNumber?_eq_integer]
    cases readNumber? word <;> simp [unexpected, hmade.eq_iff]
  · cases hread : readNumber? word with
    | none =>
      rw [hread] at ha
      cases ha
    | some e =>
      rw [hread] at ha
      cases ha
      obtain ⟨n, hn, hfloat⟩ := readNumber?_eq_float hread hno
      exact ⟨n, hn, by rw [hfloat]⟩

/-! ## Words where values stand -/

/-- Wherever a value is read, a word is one. -/
theorem readValue_word (word : List Char) (start : Nat) {rest : Lexed} (h : rest.ready = .ok rest) :
    readValue (.token ⟨.literal, word, start⟩ rest) = ofWord word start fun e => (e, rest) := by
  unfold readValue ofWord
  dsimp only
  rw [h, ok_bind]
  cases readWord? word <;> rfl

/-- A text that is one word, and no word of the language. -/
def IsWord (word : List Char) : Prop :=
  Lexed.of .predicate 0 word = .token ⟨.literal, word, 0⟩ (.eof word.length)

/-- Where a word stands makes no difference. -/
theorem IsWord.lexed (h : IsWord word) (offset : Nat) :
    Lexed.of .predicate offset word = .token ⟨.literal, word, offset⟩ (.eof (word.length + offset)) := by
  have hshift := Lexed.of_shift .predicate 0 offset word
  rw [h, Nat.zero_add] at hshift
  rw [hshift, Lexed.shift, Token.shift, Nat.zero_add]
  rfl

variable {classes : ClassTable} {cs o : List Char} {left : Expr} {op : Operator}

/-- A text that is a word is that value alone. -/
theorem read_word (h : IsWord word) : read classes word = ofWord word 0 alone := by
  have hl : (Lexed.of .predicate 0 word).skipBlanks = .ok (.token ⟨.literal, word, 0⟩ (.eof word.length)) := by
    rw [h]
    rfl
  have hcondition : readCondition classes (.token ⟨.literal, word, 0⟩ (.eof word.length)) =
      ofWord word 0 fun e => (alone e, .eof word.length) := by
    rw [readCondition_eq classes (by rintro _ _ ⟨⟩; exact ⟨nofun, nofun⟩), readValue_word word 0 rfl]
    unfold ofWord
    cases readWord? word <;> rfl
  unfold ofWord at hcondition ⊢
  cases hread : readWord? word with
  | some e =>
    rw [hread] at hcondition
    exact read_of_condition hl hcondition rfl
  | none =>
    rw [hread] at hcondition
    exact read_of_condition_error hl hcondition

/-- Behind an operator that takes values, a word is the operand. -/
theorem read_word_right (h : read classes cs = .ok (alone left)) (hb : Text.allBlank cs = false)
    (ho : op.Spells o) (hc : op.comparison ∉ [.type, .regex, .range]) (hword : IsWord word) :
    read classes (spaced cs o word) =
      ofWord word (spaced cs o []).length fun e => .comparison left op (.value e) := by
  obtain ⟨t, r, hl, hcondition⟩ := readCondition_operator h hb ho (startsBlank_cons (c := ' ') rfl word)
  have hlength : (spaced cs o []).length = cs.length + 1 + o.length + 1 := length_spaced cs o []
  rw [Lexed.skipBlanks_of_cons rfl, hword.lexed, Lexed.skipBlanks, if_neg (by simp [Token.isBlank]),
    ok_bind, readOperand_value hc rfl, readValue_word word _ rfl] at hcondition
  rw [hlength]
  unfold ofWord at hcondition ⊢
  cases hread : readWord? word with
  | some e =>
    rw [hread] at hcondition
    exact read_of_condition hl hcondition rfl
  | none =>
    rw [hread] at hcondition
    exact read_of_condition_error hl hcondition

/-! ## Words where texts stand -/

/-- What a text is as the operand of a comparison that takes no value: the type that it names, the pattern that
it writes, or the range between the numbers around its first two dots. -/
inductive TextOperand (classes : ClassTable) (text : List Char) : Comparison → Operand → Prop
  | type {t : ValueType} (h : classes.resolve? (String.ofList text) = some t) :
    TextOperand classes text .type (.type t)
  | pattern {p : Pattern} (h : Pattern.compile? (String.ofList text) = some p) :
    TextOperand classes text .regex (.pattern p)
  | range {low high : List Char} {x y : Expr} (hs : Text.SplitsAt ['.', '.'] text low high)
    (hlow : BoundText low) (hhigh : BoundText high) (hx : readNumber? (Text.trim low) = some x)
    (hy : readNumber? (Text.trim high) = some y) : TextOperand classes text .range (.range x y)

/-- The reader of a comparison reads a text without a marker as what the text is as its operand. -/
theorem textReader_eq_ok_iff {c : Comparison} {reader : Token → Except Fault Operand} {t : Token}
    (hr : (c, reader) ∈ textReaders classes) (hm : hasMarker t.text = false) {right : Operand} :
    reader t = .ok right ↔ TextOperand classes t.text c right := by
  simp only [textReaders, List.mem_cons, Prod.mk.injEq, List.not_mem_nil, or_false] at hr
  rcases hr with ⟨rfl, rfl⟩ | ⟨rfl, rfl⟩ | ⟨rfl, rfl⟩
  · unfold readType
    dsimp only
    constructor
    · intro h
      split at h <;> cases h
      exact .type ‹_›
    · rintro ⟨hname⟩
      rw [hname]
  · constructor
    · intro h
      obtain ⟨low, high, hs, hlow, hhigh⟩ := (exists_readRange_iff hm).1 ⟨right, h⟩
      obtain ⟨x, y, hx, hy, hread⟩ := readRange_of_boundTexts hm hs hlow hhigh
      rw [hread] at h
      cases h
      exact .range hs hlow hhigh hx hy
    · rintro (_ | _ | ⟨hs, hlow, hhigh, hx, hy⟩)
      obtain ⟨x, y, hx', hy', hread⟩ := readRange_of_boundTexts hm hs hlow hhigh
      cases hx.symm.trans hx'
      cases hy.symm.trans hy'
      exact hread
  · unfold readPattern
    dsimp only
    constructor
    · intro h
      split at h <;> cases h
      exact .pattern ‹_›
    · rintro (_ | ⟨hsource⟩)
      rw [hsource]

/-- Behind an operator that takes texts, a word is the operand that it is as a text. -/
theorem read_word_text (h : read classes cs = .ok (alone left)) (hb : Text.allBlank cs = false)
    (ho : op.Spells o) (hc : op.comparison ∈ [.type, .regex, .range]) (hword : IsWord word)
    {p : Predicate} : read classes (spaced cs o word) = .ok p ↔
      ∃ right, TextOperand classes word op.comparison right ∧ p = .comparison left op right := by
  obtain ⟨reader, hr⟩ : ∃ reader, (op.comparison, reader) ∈ textReaders classes := by
    simp only [List.mem_cons, List.not_mem_nil, or_false] at hc
    rcases hc with hc | hc | hc <;> rw [hc]
    · exact ⟨readType classes, by simp [textReaders]⟩
    · exact ⟨readPattern, by simp [textReaders]⟩
    · exact ⟨readRange, by simp [textReaders]⟩
  obtain ⟨t, rfl, -, -, hread⟩ := read_text_operand h hb ho hr (.word hword)
  rw [hread]
  constructor
  · intro hp
    obtain ⟨right, hright, rfl⟩ := map_eq_ok hp
    exact ⟨right, (textReader_eq_ok_iff hr (hasMarker_of_word hword)).1 hright, rfl⟩
  · rintro ⟨right, hright, rfl⟩
    rw [(textReader_eq_ok_iff hr (hasMarker_of_word hword)).2 hright]
    rfl

/-! ## Numerals -/

/-- The numerals are those of the grammar, integers and decimals are read from no other texts, and of the words
that are values only numerals of finite doubles are accepted, as integers exactly where the grammar has one of 64
bits. Behind an operator that takes texts, the words that are types, patterns or ranges are accepted. -/
theorem numerals :
    (∀ cs, (isNumeral cs = true ↔ Grammar cs) ∧ Checked.isNumeral cs = .ok (isNumeral cs)) ∧
    (∀ cs (i : Int64), readInt64? cs = some i ↔ IntegerGrammar cs i.toInt) ∧
    (∀ cs i, IntegerGrammar cs i → Grammar cs) ∧
    (∀ cs d, Decimal.read? cs = some d → Grammar cs) ∧
    ∀ word, IsWord word → word ∉ names →
      (∀ start rest, rest.ready = .ok rest → ReadsNumber word (fun e => (e, rest))
        (readValue (.token ⟨.literal, word, start⟩ rest))) ∧
      ∀ classes, ReadsNumber word alone (read classes word) ∧
        ∀ cs o op left, read classes cs = .ok (alone left) → Text.allBlank cs = false → op.Spells o →
          (op.comparison ∉ [.type, .regex, .range] →
            ReadsNumber word (fun e => .comparison left op (.value e)) (read classes (spaced cs o word))) ∧
          (op.comparison ∈ [.type, .regex, .range] → ∀ p, read classes (spaced cs o word) = .ok p ↔
            ∃ right, TextOperand classes word op.comparison right ∧ p = .comparison left op right) := by
  refine ⟨fun cs => ⟨Numeral.isNumeral_iff, Checked.isNumeral_eq cs⟩, fun cs i => readInt64?_iff,
    fun cs i h => h.grammar, fun cs d h => Decimal.grammar_of_read? h, fun word hword hnames => ?_⟩
  refine ⟨fun start rest hready => ?_, fun classes => ⟨?_, fun cs o op left h hb ho =>
    ⟨fun hc => ?_, fun hc p => read_word_text h hb ho hc hword⟩⟩⟩
  · rw [readValue_word word start hready]
    exact ofWord_readsNumber hnames _ fun e e' heq => (Prod.mk.inj heq).1
  · rw [read_word hword]
    exact ofWord_readsNumber hnames _ fun e e' heq => alone_injective heq
  · rw [read_word_right h hb ho hc hword]
    exact ofWord_readsNumber hnames _ fun e e' heq => by simpa using heq

/-- A negative integer alone; and a word that is no number, which is refused as a value and is a pattern. -/
theorem numerals_signed :
    read .empty "-7".toList = .ok (.truthy (.integer (-7))) ∧
      (¬ ∃ p, read .empty (spaced "$\x7bx\x7d".toList "==".toList "1_000".toList) = .ok p) ∧
      ∃ p, read .empty (spaced "$\x7bx\x7d".toList "regex".toList "1_000".toList) = .ok p := by
  have hequal : Operator.Spells ⟨.equal, false⟩ "==".toList := .symbol (s := "==") (by simp [symbols])
  have hregex : Operator.Spells ⟨.regex, false⟩ "regex".toList := .words (.keyword rfl)
  have hdigits : Numeral.Digits ['7'] := ⟨by decide, by simp⟩
  have hseven : IntegerGrammar "-7".toList (-7) := .text .minus hdigits
  have hno : ¬ Grammar "1_000".toList := fun h => absurd (Numeral.isNumeral_iff.2 h) (by decide)
  have hthousand := ((numerals.2.2.2.2 "1_000".toList rfl (by decide)).2 .empty).2
  refine ⟨?_, fun h => ?_, ?_⟩
  · exact (((numerals.2.2.2.2 "-7".toList rfl (by decide)).2 .empty).1.integer (-7)).2 hseven
  · exact hno (((hthousand _ _ _ _ read_subject rfl hequal).1 (by decide)).accepts.1 h).1
  · have hcompile : (Pattern.compile? (String.ofList "1_000".toList)).isSome = true := by decide +kernel
    obtain ⟨pattern, hpattern⟩ := Option.isSome_iff_exists.1 hcompile
    exact ⟨_, ((hthousand _ _ _ _ read_subject rfl hregex).2 (by decide) _).2 ⟨_, .pattern hpattern, rfl⟩⟩

/-- The name of a type is no numeral, and is an operand behind `is`; a numeral names no type, and is none. -/
theorem numerals_class_name :
    (IsWord "String".toList ∧ "String".toList ∉ names ∧ ¬ Grammar "String".toList ∧
      read .standard "$\x7bx\x7d is String".toList =
        .ok (.comparison (.property (.literal "x")) ⟨.type, false⟩ (.type .string))) ∧
    IsWord "5".toList ∧ "5".toList ∉ names ∧ Grammar "5".toList ∧ FiniteDouble "5".toList ∧
      ¬ ∃ p, read .standard "$\x7bx\x7d is 5".toList = .ok p := by
  have hgrammar : ¬ Grammar "String".toList := fun h => absurd (Numeral.isNumeral_iff.2 h) (by decide)
  have hfive : Grammar "5".toList ∧ FiniteDouble "5".toList :=
    exists_readNumber?_iff_grammar.1 ⟨.integer 5, by cbv⟩
  have hsubject : read .standard "$\x7bx\x7d".toList = .ok (alone (.property (.literal "x"))) := by cbv
  have his : Operator.Spells ⟨.type, false⟩ "is".toList := .words (.keyword rfl)
  have hnamed : ClassTable.standard.resolve? "String" = some .string := by cbv
  have hstring := read_type_text hsubject rfl his rfl (.word (rfl : IsWord "String".toList))
  rw [String.ofList_toList, hnamed] at hstring
  have hunknown : ClassTable.standard.resolve? "5" = none := by cbv
  have hrefused := read_type_text hsubject rfl his rfl (.word (rfl : IsWord "5".toList))
  rw [String.ofList_toList, hunknown] at hrefused
  refine ⟨⟨rfl, by decide, hgrammar, hstring⟩, rfl, by decide, hfive.1, hfive.2, ?_⟩
  rintro ⟨p, hp⟩
  cases hrefused.symm.trans hp

end Predicate

end RouteExpr
