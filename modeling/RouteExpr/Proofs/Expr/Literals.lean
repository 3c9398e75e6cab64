/-
Markers that are kept as text.

A marker opens a placeholder wherever blocks are looked for. That is everywhere but in quoted text:
an argument that is quoted as a whole is a template again, but quoted text in a name, or beside other
text in an argument, is taken as it stands. So a literal has a marker exactly where such a quoted
text has one.
-/
import RouteExpr.Proofs.Expr.Shift
import RouteExpr.Proofs.Token.Separate
import Mathlib.Data.List.TakeWhile

namespace RouteExpr

open Predicate Token

namespace Expr

/-! ## Literals -/

mutual

/-- The texts of the literals in an expression. -/
def literals : Expr → List String
  | literal s => [s]
  | property name => literals name
  | call name args => literals name ++ literalsAmong args
  | concat parts => literalsAmong parts
  | step _ e => literals e
  | _ => []

/-- The texts of the literals in expressions. -/
def literalsAmong : List Expr → List String
  | [] => []
  | e :: es => literals e ++ literalsAmong es

end

/-- Whether some literal in an expression has a marker. -/
def Marked (e : Expr) : Prop :=
  ∃ s ∈ e.literals, hasMarker s.toList = true

theorem mem_literalsAmong {s : String} {es : List Expr} :
    s ∈ literalsAmong es ↔ ∃ e ∈ es, s ∈ e.literals := by
  induction es with
  | nil => simp [literalsAmong]
  | cons e es ih => simp [literalsAmong, ih]

theorem marked_literal {s : String} : (literal s).Marked ↔ hasMarker s.toList = true := by
  simp [Marked, literals]

theorem marked_property {name : Expr} : (property name).Marked ↔ name.Marked := by
  simp [Marked, literals]

theorem marked_stepped {s : Option Step} {e : Expr} : (stepped s e).Marked ↔ e.Marked := by
  cases s with
  | none => rfl
  | some s => simp [stepped, Marked, literals]

theorem marked_call {name : Expr} {args : List Expr} :
    (call name args).Marked ↔ name.Marked ∨ ∃ arg ∈ args, arg.Marked := by
  simp only [Marked, literals, List.mem_append, mem_literalsAmong]
  constructor
  · rintro ⟨s, hs | ⟨arg, harg, hs⟩, hm⟩
    · exact .inl ⟨s, hs, hm⟩
    · exact .inr ⟨arg, harg, s, hs, hm⟩
  · rintro (⟨s, hs, hm⟩ | ⟨arg, harg, s, hs, hm⟩)
    · exact ⟨s, .inl hs, hm⟩
    · exact ⟨s, .inr ⟨arg, harg, hs⟩, hm⟩

theorem marked_join {parts : List Expr} : (join parts).Marked ↔ ∃ p ∈ parts, p.Marked := by
  match parts with
  | [] => simp [join, Marked, literals, hasMarker]
  | [p] => simp [join]
  | p :: q :: ps =>
    simp only [join, Marked, literals, mem_literalsAmong]
    constructor
    · rintro ⟨s, ⟨e, he, hs⟩, hm⟩; exact ⟨e, he, s, hs, hm⟩
    · rintro ⟨e, he, s, hs, hm⟩; exact ⟨s, ⟨e, he, hs⟩, hm⟩

/-! ## Where markers are kept -/

/-- The text of an argument that is quoted as a whole. -/
def quotedWhole? (ts : List Token) : Option (List Char) :=
  match trimTokens ts with
  | [⟨.quoted _, text, _⟩] => some text
  | _ => none

/-- The tokens of a block that are read as they stand: its name, and its arguments unless they are
quoted as a whole. -/
def bareRegions (ts : List Token) : List (List Token) :=
  match splitCall? ts with
  | some (name, args) => name :: (splitArguments 0 args).filter fun arg => (quotedWhole? arg).isNone
  | none => [ts]

/-- The texts of the arguments of a block that are quoted as a whole. -/
def quotedArguments (ts : List Token) : List (List Char) :=
  match splitCall? ts with
  | some (_, args) => (splitArguments 0 args).filterMap quotedWhole?
  | none => []

mutual

/-- A block in a template keeps a marker. -/
inductive TemplateKeeps : List Char → Prop
  | block {cs : List Char} {t : Token} (ht : t ∈ (Lexed.of .template 0 cs).tokens)
    (hp : t.kind.isPlaceholder = true) (h : BlockKeeps t.text) : TemplateKeeps cs

/-- A block keeps a marker: in a quoted text that is read as it stands, in a block inside it, or in an
argument that is a template. -/
inductive BlockKeeps : List Char → Prop
  | quoted {cs : List Char} {ts : List Token} {t : Token} {q : Quote}
    (hts : ts ∈ bareRegions (Lexed.of .function 0 cs).tokens) (ht : t ∈ ts)
    (hq : t.kind = .quoted q) (hm : hasMarker t.text = true) : BlockKeeps cs
  | block {cs : List Char} {ts : List Token} {t : Token}
    (hts : ts ∈ bareRegions (Lexed.of .function 0 cs).tokens) (ht : t ∈ ts)
    (hp : t.kind.isPlaceholder = true) (h : BlockKeeps t.text) : BlockKeeps cs
  | argument {cs text : List Char}
    (htext : text ∈ quotedArguments (Lexed.of .function 0 cs).tokens) (h : TemplateKeeps text) :
    BlockKeeps cs

end

/-- A token that brings a kept marker where it is read as it stands. -/
def Brings (t : Token) : Prop :=
  (∃ q, t.kind = .quoted q) ∧ hasMarker t.text = true ∨
    t.kind.isPlaceholder = true ∧ BlockKeeps t.text

theorem templateKeeps_iff {cs : List Char} : TemplateKeeps cs ↔
    ∃ t ∈ (Lexed.of .template 0 cs).tokens, t.kind.isPlaceholder = true ∧ BlockKeeps t.text := by
  constructor
  · rintro ⟨ht, hp, h⟩; exact ⟨_, ht, hp, h⟩
  · rintro ⟨t, ht, hp, h⟩; exact .block ht hp h

theorem blockKeeps_iff {cs : List Char} : BlockKeeps cs ↔
    (∃ ts ∈ bareRegions (Lexed.of .function 0 cs).tokens, ∃ t ∈ ts, Brings t) ∨
      ∃ text ∈ quotedArguments (Lexed.of .function 0 cs).tokens, TemplateKeeps text := by
  constructor
  · intro h
    cases h with
    | quoted hts ht hq hm => exact .inl ⟨_, hts, _, ht, .inl ⟨⟨_, hq⟩, hm⟩⟩
    | block hts ht hp h => exact .inl ⟨_, hts, _, ht, .inr ⟨hp, h⟩⟩
    | argument htext h => exact .inr ⟨_, htext, h⟩
  · rintro (⟨ts, hts, t, ht, ⟨⟨q, hq⟩, hm⟩ | ⟨hp, h⟩⟩ | ⟨text, htext, h⟩)
    · exact .quoted hts ht hq hm
    · exact .block hts ht hp h
    · exact .argument htext h

/-! ## Parts -/

/-- The text that parts start with. -/
def lead : List Expr → List Char
  | literal s :: _ => s.toList
  | _ => []

/-- The parts after the text that they start with. -/
def others : List Expr → List Expr
  | literal _ :: parts => parts
  | parts => parts

theorem prependText_eq (cs : List Char) (parts : List Expr) :
    prependText cs parts = literal (String.ofList (cs ++ lead parts)) :: others parts := by
  unfold prependText
  split
  · simp [lead, others]
  · rename_i h
    unfold lead others
    split
    · rename_i s ps; exact absurd rfl (h s ps)
    · simp

theorem marked_parts (parts : List Expr) : (∃ p ∈ parts, p.Marked) ↔
    hasMarker (lead parts) = true ∨ ∃ p ∈ others parts, p.Marked := by
  cases parts with
  | nil => simp [lead, others, hasMarker]
  | cons e ps =>
    cases e with
    | literal s => simp [lead, others, marked_literal]
    | _ => simp [lead, others, hasMarker]

theorem marked_prependText (cs : List Char) (parts : List Expr) :
    (∃ p ∈ prependText cs parts, p.Marked) ↔
      hasMarker (cs ++ lead parts) = true ∨ ∃ p ∈ others parts, p.Marked := by
  rw [prependText_eq]
  simp [marked_literal]

/-! ## Reading parts -/

/-- A way to read blocks that gives placeholders, marked where the block keeps a marker. -/
def Keeping (block : ReadBlock) : Prop :=
  ∀ t e, t.kind.isPlaceholder = true → block t = .ok e →
    e.isPlaceholder = true ∧ (e.Marked ↔ BlockKeeps t.text)

/-- Parts that were read from tokens: they start with the text of the tokens, if with any, and some
is marked where a token brings a marker. -/
def ReadFrom (ts : List Token) (parts : List Expr) : Prop :=
  lead parts <+: raws ts ∧ ((∃ p ∈ parts, p.Marked) ↔ ∃ t ∈ ts, Brings t)

variable {block : ReadBlock} {t : Token} {ts : List Token} {parts : List Expr} {e : Expr}

theorem readFrom_nil : ReadFrom [] [] :=
  ⟨List.nil_prefix, by simp⟩

theorem not_brings_of_isPlain (h : t.isPlain = true) : ¬ Brings t := by
  obtain ⟨hnp, hnq⟩ := isPlain_iff.1 h
  rintro (⟨⟨q, hq⟩, -⟩ | ⟨hp, -⟩)
  · exact hnq q hq
  · rw [hnp] at hp; cases hp

theorem not_brings_of_isBlank (h : t.isBlank = true) : ¬ Brings t := by
  have hk : t.kind = .blank := of_decide_eq_true h
  exact not_brings_of_isPlain (isPlain_iff.2 (by rw [hk]; exact ⟨rfl, nofun⟩))

/-- A token of text joins the text behind it. -/
theorem ReadFrom.text (hs : Separate (t :: ts)) (ht : t.kind.isPlaceholder = false)
    (h : ReadFrom ts parts) : ReadFrom (t :: ts) (prependText t.raw parts) := by
  obtain ⟨hlead, hiff⟩ := h
  constructor
  · rw [prependText_eq, raws_cons, lead, String.toList_ofList, List.prefix_append_right_inj]
    exact hlead
  rw [marked_prependText, List.exists_mem_cons_iff, ← hiff, marked_parts parts, ← or_assoc]
  -- a plain token adds no marker to the text behind it, a quoted one those of its own text
  refine or_congr_left ?_
  by_cases hplain : t.isPlain = true
  · rw [hs.hasMarker_append hplain hlead]
    simp [not_brings_of_isPlain hplain]
  · obtain ⟨q, hq⟩ : ∃ q, t.kind = .quoted q := by
      by_contra hq
      exact hplain (isPlain_iff.2 ⟨ht, fun q h => hq ⟨q, h⟩⟩)
    rw [hasMarker_quoted_append hq, Bool.or_eq_true]
    refine or_congr_left ⟨fun hm => .inl ⟨⟨q, hq⟩, hm⟩, ?_⟩
    rintro (⟨-, hm⟩ | ⟨hp, -⟩)
    · exact hm
    · rw [ht] at hp; cases hp

/-- A placeholder is a part of its own. -/
theorem ReadFrom.node (hb : Keeping block) (ht : t.kind.isPlaceholder = true)
    (he : block t = .ok e) (s : Option Step)
    (h : (∃ p ∈ parts, p.Marked) ↔ ∃ t ∈ ts, Brings t) :
    ReadFrom (t :: ts) (stepped s e :: parts) := by
  obtain ⟨hp, hkeeps⟩ := hb t e ht he
  constructor
  · have : lead (stepped s e :: parts) = [] := by
      cases s with
      | none => cases e <;> first | rfl | cases hp
      | some s => rfl
    rw [this]
    exact List.nil_prefix
  rw [List.exists_mem_cons_iff, List.exists_mem_cons_iff, h, marked_stepped, hkeeps]
  refine or_congr_left ⟨fun hk => .inr ⟨ht, hk⟩, ?_⟩
  rintro (⟨⟨q, hq⟩, -⟩ | ⟨-, hk⟩)
  · rw [hq] at ht; cases ht
  · exact hk

theorem segmentParts_readFrom (hb : Keeping block) : ∀ {ts : List Token} {parts : List Expr},
    Separate ts → segmentParts block ts = .ok parts → ReadFrom ts parts
  | [], _, _, h => by cases h; exact readFrom_nil
  | t :: ts, parts, hs, h => by
    cases ht : t.kind.isPlaceholder with
    | false =>
      rw [segmentParts_text ht] at h
      obtain ⟨parts', hparts, rfl⟩ := map_eq_ok h
      exact (segmentParts_readFrom hb hs.tail hparts).text hs ht
    | true =>
      obtain ⟨m, hm⟩ := isPlaceholder_iff.1 ht
      rw [segmentParts_placeholder hm] at h
      obtain ⟨e, he, h⟩ := bind_eq_ok h
      obtain ⟨parts', hparts, h⟩ := bind_eq_ok h
      cases h
      exact .node hb ht he none (segmentParts_readFrom hb hs.tail hparts).2

theorem templateParts_readFrom (hb : Keeping block) : ∀ {l : Lexed} {parts : List Expr},
    Separate l.tokens → templateParts block l = .ok parts → ReadFrom l.tokens parts
  | .eof _, _, _, h => by cases h; exact readFrom_nil
  | .fault _, _, _, h => by cases h
  | .token t rest, parts, hs, h => by
    have hsize := rest.size_takeSuffix
    cases ht : t.kind.isPlaceholder with
    | false =>
      rw [templateParts_text ht] at h
      obtain ⟨parts', hparts, rfl⟩ := map_eq_ok h
      exact (templateParts_readFrom hb hs.tail hparts).text hs ht
    | true =>
      obtain ⟨m, hm⟩ := isPlaceholder_iff.1 ht
      rw [templateParts_placeholder hm] at h
      obtain ⟨e, he, h⟩ := bind_eq_ok h
      obtain ⟨parts', hparts, h⟩ := bind_eq_ok h
      cases h
      -- the suffix is plain
      have hmore : ∃ front, rest.tokens = front ++ rest.takeSuffix.2.tokens ∧
          ∀ u ∈ front, ¬ Brings u := by
        rcases rest with offset | f | ⟨⟨kind, text, start⟩, rest⟩
        · exact ⟨[], rfl, nofun⟩
        · exact ⟨[], rfl, nofun⟩
        · cases kind with
          | suffix s =>
            refine ⟨[⟨.suffix s, text, start⟩], rfl, fun u hu => ?_⟩
            rw [List.mem_singleton.1 hu]
            exact not_brings_of_isPlain rfl
          | _ => exact ⟨[], rfl, nofun⟩
      obtain ⟨front, hfront, hplain⟩ := hmore
      have hsep : Separate rest.takeSuffix.2.tokens :=
        hs.tail.of_isInfix ⟨front, [], by rw [hfront, List.append_nil]⟩
      refine .node hb ht he rest.takeSuffix.1 ((templateParts_readFrom hb hsep hparts).2.trans ?_)
      rw [hfront]
      constructor
      · rintro ⟨u, hu, hbrings⟩
        exact ⟨u, List.mem_append_right _ hu, hbrings⟩
      · rintro ⟨u, hu, hbrings⟩
        rcases List.mem_append.1 hu with hu | hu
        · exact absurd hbrings (hplain u hu)
        · exact ⟨u, hu, hbrings⟩
  termination_by l => l.size
  decreasing_by all_goals simp only [Lexed.size]; omega

/-! ## Regions of blocks -/

theorem brings_trimTokens : (∃ u ∈ trimTokens ts, Brings u) ↔ ∃ u ∈ ts, Brings u := by
  obtain ⟨front, back, hts, hblank⟩ := trimTokens_split ts
  have not_brings {u : Token} (hu : u ∈ front ++ back) : ¬ Brings u :=
    not_brings_of_isBlank (hblank u hu)
  constructor
  · rintro ⟨u, hu, hb⟩
    exact ⟨u, (trimTokens_isInfix ts).subset hu, hb⟩
  · rintro ⟨u, hu, hb⟩
    rw [hts] at hu
    rcases List.mem_append.1 hu with hu | hu
    · rcases List.mem_append.1 hu with hu | hu
      · exact absurd hb (not_brings (List.mem_append_left _ hu))
      · exact ⟨u, hu, hb⟩
    · exact absurd hb (not_brings (List.mem_append_right _ hu))

theorem segment_marked (hb : Keeping block) (hs : Separate ts) (h : segment block ts = .ok e) :
    e.Marked ↔ ∃ u ∈ ts, Brings u := by
  unfold segment at h
  obtain ⟨parts, hparts, rfl⟩ := map_eq_ok h
  rw [marked_join, (segmentParts_readFrom hb (hs.of_isInfix (trimTokens_isInfix ts)) hparts).2,
    brings_trimTokens]

/-! ## Arguments and blocks -/

/-- An argument keeps a marker as the template that it is, or else as it stands. -/
def ArgumentKeeps (ts : List Token) : Prop :=
  match quotedWhole? ts with
  | some text => TemplateKeeps text
  | none => ∃ u ∈ ts, Brings u

theorem quotedWhole?_eq_some {text : List Char} : quotedWhole? ts = some text ↔
    ∃ q start, trimTokens ts = [⟨.quoted q, text, start⟩] := by
  unfold quotedWhole?
  split
  · rename_i q text' start htrim
    rw [htrim]
    constructor
    · rintro ⟨⟩; exact ⟨q, start, rfl⟩
    · rintro ⟨q', start', h⟩; cases h; rfl
  · rename_i hne
    exact ⟨nofun, fun ⟨q, start, h⟩ => absurd h (hne q text start)⟩

theorem argument_of_quotedWhole?_eq_none (h : quotedWhole? ts = none) :
    argument block ts = segment block ts := by
  unfold argument
  split
  · rename_i q text start htrim
    rw [quotedWhole?_eq_some.2 ⟨q, start, htrim⟩] at h
    cases h
  · rfl

theorem template_marked (hb : Keeping block) (hmove : ∀ k, Moves k block) {offset : Nat}
    {region : List Char} (h : template block offset region = .ok e) :
    e.Marked ↔ TemplateKeeps region := by
  -- where the template starts changes nothing, so it may start the text
  rw [← Nat.zero_add offset, template_shift (hmove offset)] at h
  obtain ⟨e', he, rfl⟩ := shifted_eq_ok h
  obtain ⟨parts, hparts, rfl⟩ := map_eq_ok he
  have hsep := (Lexer.lexed_separate (Lexer.start .template 0 region) (by simp [Lexer.start]) rfl).2
  show (join parts).Marked ↔ _
  rw [marked_join, (templateParts_readFrom hb hsep hparts).2, templateKeeps_iff]
  refine exists_congr fun u => and_congr_right fun hu => ?_
  constructor
  · rintro (⟨⟨q, hq⟩, -⟩ | h)
    · exact absurd hq (Lexed.not_quoted_of_template hu q)
    · exact h
  · exact .inr

theorem argument_marked (hb : Keeping block) (hmove : ∀ k, Moves k block) (hs : Separate ts)
    (h : argument block ts = .ok e) : e.Marked ↔ ArgumentKeeps ts := by
  unfold ArgumentKeeps
  cases hw : quotedWhole? ts with
  | none =>
    rw [argument_of_quotedWhole?_eq_none hw] at h
    exact segment_marked hb hs h
  | some text =>
    obtain ⟨q, start, htrim⟩ := quotedWhole?_eq_some.1 hw
    unfold argument at h
    rw [htrim] at h
    exact template_marked hb hmove h

theorem mapM_argument_marked (hb : Keeping block) (hmove : ∀ k, Moves k block) :
    ∀ {args : List (List Token)} {es : List Expr}, (∀ arg ∈ args, Separate arg) →
      args.mapM (argument block) = .ok es →
      ((∃ e ∈ es, e.Marked) ↔ ∃ arg ∈ args, ArgumentKeeps arg)
  | [], _, _, h => by cases h; simp
  | arg :: args, es, hs, h => by
    rw [List.mapM_cons] at h
    obtain ⟨e, he, h⟩ := bind_eq_ok h
    obtain ⟨es', hes, h⟩ := bind_eq_ok h
    cases h
    have ih := mapM_argument_marked hb hmove (fun a ha => hs a (List.mem_cons_of_mem _ ha)) hes
    rw [List.exists_mem_cons_iff, List.exists_mem_cons_iff, ih,
      argument_marked hb hmove (hs arg List.mem_cons_self) he]

/-- Blanks alone keep nothing. -/
theorem not_argumentKeeps_of_blank {arg : List Token} (h : ∀ u ∈ arg, u.isBlank = true) :
    ¬ ArgumentKeeps arg := by
  unfold ArgumentKeeps
  cases hw : quotedWhole? arg with
  | none =>
    rintro ⟨u, hu, hbrings⟩
    exact not_brings_of_isBlank (h u hu) hbrings
  | some text =>
    obtain ⟨q, start, htrim⟩ := quotedWhole?_eq_some.1 hw
    have hmem := (trimTokens_isInfix arg).subset (htrim ▸ List.mem_cons_self)
    cases h _ hmem

theorem arguments_marked (hb : Keeping block) (hmove : ∀ k, Moves k block) (hs : Separate ts)
    {es : List Expr} (h : arguments block ts = .ok es) :
    (∃ e ∈ es, e.Marked) ↔ ∃ arg ∈ splitArguments 0 ts, ArgumentKeeps arg := by
  unfold arguments at h
  split at h
  · rename_i hblank
    cases h
    constructor
    · rintro ⟨e, he, -⟩; cases he
    · rintro ⟨arg, harg, hk⟩
      refine absurd hk (not_argumentKeeps_of_blank fun u hu => ?_)
      exact List.all_eq_true.1 hblank u ((isInfix_of_mem_splitArguments harg).subset hu)
  · exact mapM_argument_marked hb hmove
      (fun arg harg => hs.of_isInfix (isInfix_of_mem_splitArguments harg)) h

/-- What a block keeps, by its regions. -/
theorem argumentKeeps_iff {args : List Token} :
    (∃ arg ∈ splitArguments 0 args, ArgumentKeeps arg) ↔
      (∃ arg ∈ (splitArguments 0 args).filter fun arg => (quotedWhole? arg).isNone,
        ∃ u ∈ arg, Brings u) ∨
      ∃ text ∈ (splitArguments 0 args).filterMap quotedWhole?, TemplateKeeps text := by
  constructor
  · rintro ⟨arg, harg, hk⟩
    unfold ArgumentKeeps at hk
    cases hw : quotedWhole? arg with
    | none =>
      rw [hw] at hk
      exact .inl ⟨arg, List.mem_filter.2 ⟨harg, by rw [hw]; rfl⟩, hk⟩
    | some text =>
      rw [hw] at hk
      exact .inr ⟨text, List.mem_filterMap.2 ⟨arg, harg, hw⟩, hk⟩
  · rintro (⟨arg, harg, hk⟩ | ⟨text, htext, hk⟩)
    · obtain ⟨harg, hnone⟩ := List.mem_filter.1 harg
      refine ⟨arg, harg, ?_⟩
      unfold ArgumentKeeps
      rw [Option.isNone_iff_eq_none.1 hnone]
      exact hk
    · obtain ⟨arg, harg, hw⟩ := List.mem_filterMap.1 htext
      refine ⟨arg, harg, ?_⟩
      unfold ArgumentKeeps
      rw [hw]
      exact hk

theorem inside_marked (hb : Keeping block) (hmove : ∀ k, Moves k block) (hs : Separate ts)
    (h : inside block ts = .ok e) : e.Marked ↔
      (∃ region ∈ bareRegions ts, ∃ u ∈ region, Brings u) ∨
        ∃ text ∈ quotedArguments ts, TemplateKeeps text := by
  unfold inside at h
  unfold bareRegions quotedArguments
  cases hcall : splitCall? ts with
  | some call =>
    obtain ⟨name, args⟩ := call
    rw [hcall] at h
    obtain ⟨hname, hargs⟩ := splitCall?_isInfix hcall
    obtain ⟨n, hn, h⟩ := bind_eq_ok h
    obtain ⟨es, hes, h⟩ := bind_eq_ok h
    cases h
    dsimp only
    rw [marked_call, segment_marked hb (hs.of_isInfix hname) hn,
      arguments_marked hb hmove (hs.of_isInfix hargs) hes, argumentKeeps_iff,
      List.exists_mem_cons_iff, or_assoc]
  | none =>
    rw [hcall] at h
    obtain ⟨n, hn, rfl⟩ := map_eq_ok h
    rw [marked_property, segment_marked hb hs hn]
    simp

/-- Blocks within blocks keep what they keep. -/
theorem readBlockTo_keeping (d : Nat) : Keeping (readBlockTo d) := by
  induction d with
  | zero => intro t e _ h; cases h
  | succ d ih =>
    intro t e ht h
    refine ⟨readBlockTo_isPlaceholder h, ?_⟩
    rw [readBlockTo] at h
    split at h
    · cases h
    obtain ⟨ts, hts, h⟩ := bind_eq_ok h
    -- where the block stands changes neither its tokens nor its expression
    rw [← Nat.zero_add t.textStart, Lexed.of_shift, Lexed.toTokens_shift] at hts
    obtain ⟨us, hus, rfl⟩ := shifted_eq_ok hts
    rw [inside_shift (readBlockTo_shift d)] at h
    obtain ⟨e', he, rfl⟩ := shifted_eq_ok h
    have htokens := Lexed.tokens_of_toTokens hus
    have hsep := (Lexer.lexed_separate (Lexer.start .function 0 t.text) (by simp [Lexer.start])
      rfl).2
    rw [blockKeeps_iff, htokens]
    rw [← Lexed.of_eq_lexed, htokens] at hsep
    exact inside_marked ih (fun _ => readBlockTo_shift d) hsep he

theorem readBlock_keeping : Keeping readBlock :=
  fun t => readBlockTo_keeping t.text.length t

/-! ## Whole texts -/

/-- Some literal in the expression of a text has a marker exactly where a block of the text, at some
depth, keeps one: in a quoted text that stands in a name, or in an argument and not alone. -/
theorem read_marked_iff {cs : List Char} {e : Expr} (h : read cs = .ok e) :
    (∃ s ∈ e.literals, hasMarker s.toList = true) ↔ TemplateKeeps cs :=
  template_marked readBlock_keeping (fun _ => readBlock_shift) h

/-- An argument that is quoted as a whole keeps no marker. -/
theorem read_marked_iff_whole :
    ∃ e, read ['$', '\x7b', 'f', '(', '\'', '$', '\x7b', 'b', '\x7d', '\'', ')', '\x7d'] = .ok e ∧
      ¬ TemplateKeeps ['$', '\x7b', 'f', '(', '\'', '$', '\x7b', 'b', '\x7d', '\'', ')', '\x7d'] := by
  have h : read ['$', '\x7b', 'f', '(', '\'', '$', '\x7b', 'b', '\x7d', '\'', ')', '\x7d'] =
      .ok (call (literal "f") [property (literal "b")]) := by cbv
  refine ⟨_, h, fun hk => ?_⟩
  obtain ⟨s, hs, hm⟩ := (read_marked_iff h).2 hk
  simp only [literals, literalsAmong, List.append_nil, List.singleton_append, List.mem_cons,
    List.not_mem_nil, or_false] at hs
  rcases hs with rfl | rfl <;> revert hm <;> decide

/-- Beside other text, a quoted text keeps its marker. -/
theorem read_mixed_argument_marked :
    ∃ e, read ['$', '\x7b', 'f', '(', '\'', '$', '\x7b', 'b', '\x7d', '\'', ' ', 'c', ')', '\x7d'] =
      .ok e ∧ ∃ s ∈ e.literals, hasMarker s.toList = true := by
  have h : read ['$', '\x7b', 'f', '(', '\'', '$', '\x7b', 'b', '\x7d', '\'', ' ', 'c', ')', '\x7d'] =
      .ok (call (literal "f") [literal "'$\x7bb\x7d' c"]) := by cbv
  refine ⟨_, h, "'$\x7bb\x7d' c", ?_, by decide⟩
  simp [literals, literalsAmong]

end Expr

end RouteExpr
