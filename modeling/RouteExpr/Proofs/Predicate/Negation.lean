/-
The negations of operators that are spelled in words.

What stands behind an operator is read by its comparison alone, so behind the negation it is read as behind
the operator itself, only so many characters later. With `not` in front every operator in words is negated;
with `!` only one that is a single word, since `!starts` and `!ends` are no words of the language.
-/
import RouteExpr.Evaluation
import RouteExpr.Proofs.Predicate.Misplaced

namespace RouteExpr

open Lexer Predicate

namespace Predicate

variable {classes : ClassTable} {left : Expr} {op op' : Operator} {c : Comparison}

/-! ## Right sides -/

/-- An operand is read by the comparison alone, whether or not it is negated and however it is spelled. -/
theorem readOperand_congr {symbol symbol' : Token} {l : Lexed} {x : Operand × Lexed}
    (hc : op.comparison = op'.comparison) (h : readOperand classes op symbol l = .ok x) :
    readOperand classes op' symbol' l = .ok x := by
  rcases l with offset | f | ⟨⟨kind, text, start⟩, rest⟩
  · cases h
  · cases h
  · unfold readOperand at h ⊢
    rw [← hc]
    cases kind with
    | connective => cases h
    | operator => cases h
    | _ => cases hcomparison : op.comparison <;> rw [hcomparison] at h <;> first | exact h | cases h

/-- The operator of a comparison at the start of a text. -/
def symbolOf (c : Comparison) : Token :=
  ⟨.operator ⟨c, false⟩, [], 0⟩

/-- What is the right side of a comparison at the start of a text, and the tokens that are left. -/
def RightSide (classes : ClassTable) (c : Comparison) (cs : List Char) (right : Operand) (rest : Lexed) :
    Prop :=
  ∃ l, (Lexed.of .predicate 0 cs).skipBlanks = .ok l ∧
    readOperand classes ⟨c, false⟩ (symbolOf c) l = .ok (right, rest)

/-- An operand that stands later is read as it is at the start, and leaves what is left so much later. -/
theorem readOperand_later {symbol : Token} {k : Nat} {l rest : Lexed} {right : Operand} :
    readOperand classes op symbol (l.shift k) = .ok (right, rest) ↔
      ∃ r, readOperand classes ⟨op.comparison, false⟩ (symbolOf op.comparison) l = .ok (right, r) ∧
        rest = r.shift k := by
  have hshift := readOperand_shift (k := k) classes ⟨op.comparison, false⟩ (symbolOf op.comparison) l
  constructor
  · intro h
    have hplain : readOperand classes ⟨op.comparison, false⟩ ((symbolOf op.comparison).shift k)
        (l.shift k) = .ok (right, rest) := readOperand_congr rfl h
    rw [hplain] at hshift
    obtain ⟨⟨right', r⟩, hread, heq⟩ := shifted_eq_ok hshift.symm
    cases heq
    exact ⟨r, hread, rfl⟩
  · rintro ⟨r, h, rfl⟩
    rw [h] at hshift
    exact readOperand_congr rfl hshift

variable {cs o o' tail : List Char}

/-- Behind a value alone and an operator, the condition has the right side that follows, and leaves what that
leaves. -/
theorem readCondition_operator_iff (h : read classes cs = .ok (alone left))
    (hb : Text.allBlank cs = false) (ho : op.Spells o) (ht : StartsBlank tail) :
    ∃ t r, (Lexed.of .predicate 0 (cs ++ ' ' :: (o ++ tail))).skipBlanks = .ok (.token t r) ∧
      ∀ p rest, readCondition classes (.token t r) = .ok (p, rest) ↔
        ∃ right r', RightSide classes op.comparison tail right r' ∧ p = .comparison left op right ∧
          rest = r'.shift (cs.length + 1 + o.length) := by
  obtain ⟨t, r, hl, hcondition⟩ := readCondition_operator h hb ho ht
  refine ⟨t, r, hl, fun p rest => ?_⟩
  have hlater := Lexed.of_shift .predicate 0 (cs.length + 1 + o.length) tail
  rw [Nat.zero_add] at hlater
  rw [hcondition, hlater, Lexed.skipBlanks_shift]
  constructor
  · intro hp
    obtain ⟨m, hm, hp⟩ := bind_eq_ok hp
    obtain ⟨⟨right, rest'⟩, hright, hp⟩ := bind_eq_ok hp
    cases hp
    obtain ⟨l, hl', rfl⟩ := shifted_eq_ok hm
    obtain ⟨r', hread, rfl⟩ := readOperand_later.1 hright
    exact ⟨right, r', ⟨l, hl', hread⟩, rfl, rfl⟩
  · rintro ⟨right, r', ⟨l, hl', hread⟩, rfl, rfl⟩
    rw [hl', shifted_ok, ok_bind, readOperand_later.2 ⟨r', hread, rfl⟩]
    rfl

/-! ## Chains that differ in the first condition -/

/-- Where two texts are the same behind their first conditions, up to offsets, one is read as the other but
for that condition. -/
theorem readChain_replace {n k k' : Nat} {l l' r : Lexed} {p q : Predicate}
    {groups : List (List Predicate)} (hp : readCondition classes l = .ok (p, r.shift k))
    (hq : readCondition classes l' = .ok (q, r.shift k')) (h : readChain classes n l = .ok groups) :
    ∃ group rest, groups = (p :: group) :: rest ∧
      readChain classes n l' = .ok ((q :: group) :: rest) := by
  obtain ⟨p', rest, rest', hp', hrest, hcases⟩ := readChain_eq_ok h
  cases hp.symm.trans hp'
  rw [Lexed.skipBlanks_shift] at hrest
  obtain ⟨m, hm, rfl⟩ := shifted_eq_ok hrest
  have hrest' : (r.shift k').skipBlanks = .ok (m.shift k') := by rw [Lexed.skipBlanks_shift, hm]; rfl
  rcases hcases with ⟨⟨offset, heof⟩, rfl⟩ |
    ⟨n', t, after, next, c, groups', rfl, htoken, hc, hnext, hcheck, hgroups, rfl⟩
  · refine ⟨[], [], rfl, ?_⟩
    rcases m with offset' | f | ⟨u, m⟩
    · exact readChain_of_eof hq hrest'
    · cases heof
    · cases heof
  · rcases m with offset' | f | ⟨u, m⟩
    · cases htoken
    · cases htoken
    cases htoken
    rw [Lexed.skipBlanks_shift] at hnext
    obtain ⟨next', hnext', rfl⟩ := shifted_eq_ok hnext
    rw [checkAfter_shift] at hcheck
    rw [readChain_shift] at hgroups
    obtain ⟨_, hcheck', -⟩ := shifted_eq_ok hcheck
    obtain ⟨groups', hgroups', rfl⟩ := shifted_eq_ok hgroups
    have hnextLater : (m.shift k').skipBlanks = .ok (next'.shift k') := by
      rw [Lexed.skipBlanks_shift, hnext']
      rfl
    have hcheckLater : checkAfter (u.shift k') (next'.shift k') = .ok () := by
      rw [checkAfter_shift, hcheck']
      rfl
    have hgroupsLater : readChain classes n' (next'.shift k') = .ok groups' := by
      rw [readChain_shift, hgroups']
      rfl
    rw [readChain_of_connective hq hrest' hc hnextLater hcheckLater hgroupsLater]
    match c, groups', readChain_ne_nil hgroups' with
    | .and, group :: rest, _ => exact ⟨group, rest, rfl, rfl⟩
    | .or, groups', _ => exact ⟨[], groups', rfl, rfl⟩

/-- Behind a value alone, one operator is as good as another of the same comparison: where the text with the
one is read, the other is read in its place. -/
theorem read_replace {p : Predicate} (h : read classes cs = .ok (alone left))
    (hb : Text.allBlank cs = false) (ho : op.Spells o) (ho' : op'.Spells o') (ht : StartsBlank tail)
    (hc : op.comparison = op'.comparison) (hp : read classes (cs ++ ' ' :: (o ++ tail)) = .ok p) :
    ∃ right group rest, p = ofGroups ((.comparison left op right :: group) :: rest) ∧
      read classes (cs ++ ' ' :: (o' ++ tail)) =
        .ok (ofGroups ((.comparison left op' right :: group) :: rest)) := by
  have hblank : Text.allBlank (cs ++ ' ' :: (o ++ tail)) = false := by
    unfold Text.allBlank at hb ⊢
    rw [List.all_append, hb]
    rfl
  obtain ⟨t, r, hl, hiff⟩ := readCondition_operator_iff h hb ho ht
  obtain ⟨t', r', hl', hiff'⟩ := readCondition_operator_iff h hb ho' ht
  obtain ⟨l, groups, hskip, -, hgroups, rfl⟩ := read_eq_ok hp hblank
  cases hl.symm.trans hskip
  obtain ⟨q, rest, _, hq, -⟩ := readChain_eq_ok hgroups
  obtain ⟨right, after, hright, rfl, rfl⟩ := (hiff q rest).1 hq
  have hq' := (hiff' (.comparison left op' right) _).2 ⟨right, after, hc ▸ hright, rfl, rfl⟩
  obtain ⟨group, groups', rfl, hchain⟩ := readChain_replace hq hq' hgroups
  exact ⟨right, group, groups', rfl, read_of_chain hl' hchain⟩

/-! ## Single comparisons -/

/-- A predicate of groups is a comparison only if that is its one condition. -/
theorem ofGroups_eq_comparison {q : Predicate} {group : List Predicate} {rest : List (List Predicate)}
    {l : Expr} {right : Operand} (h : ofGroups ((q :: group) :: rest) = .comparison l op right) :
    group = [] ∧ rest = [] ∧ q = .comparison l op right := by
  cases rest with
  | cons => cases h
  | nil =>
    cases group with
    | cons => cases h
    | nil => exact ⟨rfl, rfl, h⟩

/-- A negated comparison has the opposite outcome, or fails as the comparison does. -/
theorem evaluate_negated (ctx : Context) (left : Expr) (c : Comparison) (right : Operand) :
    (Predicate.comparison left ⟨c, true⟩ right).evaluate ctx =
      ((Predicate.comparison left ⟨c, false⟩ right).evaluate ctx).map (!·) := by
  rw [evaluate, evaluate]
  cases left.evaluate ctx with
  | error err => rfl
  | ok v =>
    rw [ok_bind, ok_bind]
    dsimp only
    cases compareWith ctx c v right with
    | error err => rfl
    | ok b => cases b <;> rfl

/-! ## Words behind a value -/

/-- A word that is no operator and no connective is refused behind a value alone. -/
theorem read_word_behind {word : List Char} (h : read classes cs = .ok (alone left))
    (hb : Text.allBlank cs = false) (hw : PlainWord word) (hs : takeSymbol? word = none)
    (hc : classifyWord word tail = (.literal, word, tail)) (ht : StartsBlank tail) :
    read classes (cs ++ ' ' :: (word ++ tail)) =
      .error ⟨cs.length + 2, .unexpectedToken (String.ofList word)⟩ := by
  have hlexed := hw.lexed (.inl rfl) (.inr ⟨by rw [ht.afterWord.takeSymbol?, hs]; rfl,
    by rw [hw.takeWord ht.afterWord, hc]⟩) (cs.length + 1)
  have hnext : ∃ d more, word ++ tail = d :: more ∧ Text.isBlank d = false := by
    obtain ⟨d, more, rfl, hd⟩ := hw.eq_cons
    exact ⟨d, more ++ tail, rfl, hd⟩
  obtain ⟨t, r, rest, hl, hvalue, hrest⟩ := readValue_before h hb hnext
    ⟨_, _, hlexed, .inr (.inr rfl)⟩
  rw [hlexed] at hrest
  have halone : afterLeft classes left (.token ⟨.literal, word, cs.length + 1⟩
      (Lexed.of .predicate (cs.length + 1 + word.length) tail)) = .ok (alone left, _) :=
    afterLeft_of_not_operator fun t r ht op hop => by cases ht; cases hop
  have hcondition := (readCondition_of_value hvalue hrest).trans halone
  have hoffset : (⟨.literal, word, cs.length + 1⟩ : Token).faultOffset = cs.length + 2 := by
    have hlength : 0 < word.length := List.length_pos_iff.2 hw.nonempty
    simp [Token.faultOffset, Token.length, Token.raw, hlength]
  refine (Reaches.refl _).read_error hl fun m _ => ?_
  rw [← hoffset]
  exact readChain_of_leftover hcondition rfl fun c hc => by cases hc

/-- With `!` in front, `starts` and `ends` are no words of an operator. -/
theorem edge_negated {word : List Char} (h : edge? word = some c) :
    PlainWord ('!' :: word) ∧ takeSymbol? ('!' :: word) = none ∧
      ∀ rest, classifyWord ('!' :: word) rest = (.literal, '!' :: word, rest) := by
  refine ⟨(edge_spec h).1.negated, ?_⟩
  unfold edge? at h
  split at h
  · rename_i hs
    subst hs
    exact ⟨rfl, fun _ => rfl⟩
  · split at h
    · rename_i hs
      subst hs
      exact ⟨rfl, fun _ => rfl⟩
    · cases h

/-! ## The spellings of a negation -/

variable {words : List Char}

/-- Behind a value alone, one spelling of the comparison or its negation is read where any other is. -/
theorem exists_read_spaced (h : read classes cs = .ok (alone left)) (hb : Text.allBlank cs = false)
    (ho : op.Spells o) (ho' : op'.Spells o') (hc : op.comparison = op'.comparison) (tail : List Char) :
    (∃ p, read classes (spaced cs o tail) = .ok p) ↔ ∃ p, read classes (spaced cs o' tail) = .ok p := by
  have ht : StartsBlank (' ' :: tail) := startsBlank_cons rfl tail
  constructor
  · rintro ⟨p, hp⟩
    obtain ⟨right, group, rest, -, hread⟩ := read_replace h hb ho ho' ht hc hp
    exact ⟨_, hread⟩
  · rintro ⟨p, hp⟩
    obtain ⟨right, group, rest, -, hread⟩ := read_replace h hb ho' ho ht hc.symm hp
    exact ⟨_, hread⟩

theorem spells_not (hw : c.Words words) : Operator.Spells ⟨c, true⟩ ("not ".toList ++ words) := by
  have hspace : Gap [' '] := ⟨by simp, by simp [Text.isBlank]⟩
  exact .negatedWords hw hspace

/-- With `!` in front, words of which the second is `with` are refused behind a value alone. -/
theorem read_negated_edge {word gap : List Char} (h : read classes cs = .ok (alone left))
    (hb : Text.allBlank cs = false) (hedge : edge? word = some c) (hg : Gap gap) (tail : List Char)
    (p : Predicate) : read classes (spaced cs ('!' :: (word ++ gap ++ "with".toList)) tail) ≠ .ok p := by
  obtain ⟨hplain, hs, hc⟩ := edge_negated hedge
  have herror := read_word_behind h hb hplain hs (hc _) (hg.startsBlank ("with".toList ++ ' ' :: tail))
  have htext : spaced cs ('!' :: (word ++ gap ++ "with".toList)) tail =
      cs ++ ' ' :: ('!' :: word ++ (gap ++ ("with".toList ++ ' ' :: tail))) := by
    simp [spaced]
  rw [htext, herror]
  intro heq
  cases heq

/-- Words apart are no keyword. -/
theorem ofKeyword?_edge {word gap : List Char} (hg : Gap gap) :
    Comparison.ofKeyword? (String.ofList (word ++ gap ++ "with".toList)) = none := by
  refine Option.eq_none_iff_forall_ne_some.2 fun c hc => ?_
  obtain ⟨b, gap, rfl⟩ := List.exists_cons_of_ne_nil hg.nonempty
  have hblank := hg.blank b List.mem_cons_self
  rw [((keyword_spec hc).1.plain b (by simp)).1] at hblank
  cases hblank

/-- Behind a value alone, an operator in words and its negation with `not` are both read or both refused. So is
the negation with `!` exactly when the operator is a single word, or refused. The two negations are one
predicate where both are read. What is read as a comparison is, with a negation, that comparison negated,
and has the opposite outcome or fails alike in every context. -/
theorem read_negated_iff (h : read classes cs = .ok (alone left)) (hb : Text.allBlank cs = false)
    (hw : c.Words words) (tail : List Char) :
    ((∃ p, read classes (spaced cs words tail) = .ok p) ↔
      ∃ q, read classes (spaced cs ("not ".toList ++ words) tail) = .ok q) ∧
    (((∃ p, read classes (spaced cs words tail) = .ok p) ↔
        ∃ q, read classes (spaced cs ('!' :: words) tail) = .ok q) ↔
      Comparison.ofKeyword? (String.ofList words) = some c ∨
        ¬ ∃ p, read classes (spaced cs words tail) = .ok p) ∧
    (∀ q, read classes (spaced cs ('!' :: words) tail) = .ok q →
      read classes (spaced cs ("not ".toList ++ words) tail) = .ok q) ∧
    ∀ l op right, read classes (spaced cs words tail) = .ok (.comparison l op right) →
      l = left ∧ op = ⟨c, false⟩ ∧
        read classes (spaced cs ("not ".toList ++ words) tail) = .ok (.comparison left ⟨c, true⟩ right) ∧
        ∀ ctx, (Predicate.comparison left ⟨c, true⟩ right).evaluate ctx =
          ((Predicate.comparison left ⟨c, false⟩ right).evaluate ctx).map (!·) := by
  have ht : StartsBlank (' ' :: tail) := startsBlank_cons rfl tail
  have hnot := spells_not hw
  refine ⟨exists_read_spaced h hb (.words hw) hnot rfl tail, ?_, ?_, ?_⟩
  · cases hw with
    | keyword hk =>
      have hbang := exists_read_spaced h hb (.words (.keyword hk)) (.negatedKeyword hk) rfl tail
      exact ⟨fun _ => .inl hk, fun _ => hbang⟩
    | edge hedge hg =>
      have hbang : ¬ ∃ q, read classes (spaced cs ('!' :: (_ ++ _ ++ "with".toList)) tail) = .ok q :=
        fun ⟨q, hq⟩ => read_negated_edge h hb hedge hg tail q hq
      rw [ofKeyword?_edge hg, iff_false_right hbang]
      simp
  · intro q hq
    cases hw with
    | keyword hk =>
      obtain ⟨right, group, rest, rfl, hread⟩ :=
        read_replace h hb (.negatedKeyword hk) hnot ht rfl hq
      exact hread
    | edge hedge hg => exact absurd hq (read_negated_edge h hb hedge hg tail q)
  · intro l op right hp
    obtain ⟨right', group, rest, heq, hread⟩ := read_replace h hb (.words hw) hnot ht rfl hp
    obtain ⟨rfl, rfl, hcomparison⟩ := ofGroups_eq_comparison heq.symm
    cases hcomparison
    exact ⟨rfl, rfl, hread, fun ctx => evaluate_negated ctx _ _ _⟩

theorem read_subject : read .empty "$\x7bx\x7d".toList = .ok (alone (.property (.literal "x"))) := by
  cbv

/-- Behind the words of a comparison that takes values, `null` is read. -/
theorem read_subject_null (hw : c.Words words) (hc : c ∉ [.type, .regex, .range]) :
    read .empty (spaced "$\x7bx\x7d".toList words "null".toList) =
      .ok (.comparison (.property (.literal "x")) ⟨c, false⟩ (.value .null)) := by
  have hword (offset : Nat) : Lexed.of .predicate offset "null".toList =
      .token ⟨.literal, "null".toList, offset⟩ (.eof (offset + "null".toList.length)) := rfl
  have hread := read_word_operand read_subject rfl (.words hw) hc hword rfl
  simpa [spaced] using hread

/-- The three spellings of a test for a part. -/
theorem read_negated_iff_contains :
    read .empty (spaced "$\x7bx\x7d".toList "not contains".toList "null".toList) =
        .ok (.comparison (.property (.literal "x")) ⟨.contains, true⟩ (.value .null)) ∧
      ∃ q, read .empty (spaced "$\x7bx\x7d".toList "!contains".toList "null".toList) = .ok q := by
  have hw : Comparison.contains.Words "contains".toList := .keyword rfl
  have hplain := read_subject_null hw (by decide)
  obtain ⟨-, hbang, -, hcomparison⟩ := read_negated_iff read_subject rfl hw "null".toList
  exact ⟨(hcomparison _ _ _ hplain).2.2.1, (hbang.2 (.inl rfl)).1 ⟨_, hplain⟩⟩

/-- The test for a prefix in two words is negated by `not`, and refused with `!`. -/
theorem read_starts_with_negated :
    (∃ p, read .empty (spaced "$\x7bx\x7d".toList "starts with".toList "null".toList) = .ok p) ∧
      (∃ p, read .empty (spaced "$\x7bx\x7d".toList "not starts with".toList "null".toList) = .ok p) ∧
      ∀ p, read .empty (spaced "$\x7bx\x7d".toList "!starts with".toList "null".toList) ≠ .ok p := by
  have hspace : Gap [' '] := ⟨by simp, by simp [Text.isBlank]⟩
  have hedge : edge? "starts".toList = some .startsWith := rfl
  have hw : Comparison.startsWith.Words ("starts".toList ++ [' '] ++ "with".toList) := .edge hedge hspace
  have hplain := read_subject_null hw (by decide)
  have hnot := (exists_read_spaced read_subject rfl (.words hw) (spells_not hw) rfl "null".toList).1
    ⟨_, hplain⟩
  exact ⟨⟨_, hplain⟩, hnot, read_negated_edge read_subject rfl hedge hspace _⟩

end Predicate

end RouteExpr
