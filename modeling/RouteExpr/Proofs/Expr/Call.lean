/-
The arguments of a call are the expressions of their texts.

An argument is written in quotes that do not occur in it, or bare if nothing in it, outside of its own
blocks, means something to the call. Three scans must agree on where it ends: that for the brace which
closes the call, which knows no quotes; that for tokens, which knows no braces outside of blocks; and
that for the commas and the parenthesis behind it. Each goes over a whole argument as if it were one
token.
-/
import RouteExpr.Proofs.Expr.Bare
import RouteExpr.Proofs.Expr.Depth
import RouteExpr.Proofs.Token.Balance

namespace RouteExpr

open Lexer Token

namespace Expr

/-! ## Arguments as they are written -/

/-- A text that can be an argument without quotes: neither end is a blank, and outside of its own blocks
it has no quotes, its parentheses are closed, its commas are inside them, and no suffix stands. -/
structure Bare (text : List Char) : Prop where
  nonempty : text ≠ []
  first : ∀ c ∈ text.head?, Text.isBlank c = false
  last : ∀ c ∈ text.getLast?, Text.isBlank c = false
  unquoted : ∀ c ∈ outside (Lexed.of .template 0 text).tokens, quote? c = none
  enclosed : Enclosed 0 (outside (Lexed.of .template 0 text).tokens)
  unstepped : ∀ t after, t :: after <:+ (Lexed.of .template 0 text).tokens →
    t.kind.isPlaceholder = true → ¬ ['+', '+'] <+: raws after ∧ ¬ ['-', '-'] <+: raws after

/-- How an argument is written. -/
inductive Writing where
  | quoted (q : Quote)
  | bare

namespace Writing

/-- The characters of a text as an argument. -/
def chars : Writing → List Char → List Char
  | quoted q, text => q.toChar :: (text ++ [q.toChar])
  | bare, text => text

/-- Whether a text can be written so. -/
def Fits : Writing → List Char → Prop
  | quoted q, text => q.toChar ∉ text
  | bare, text => Bare text

end Writing

/-- An argument of a call: a text that is read as an expression and of which every brace closes a
marker, the way it is written, and the blanks around it. -/
structure Argument where
  text : List Char
  tree : Expr
  writing : Writing
  before : List Char
  after : List Char
  reads : read text = .ok tree
  closes : ClosesMarkers text
  fits : writing.Fits text
  blank_before : Text.allBlank before = true
  blank_after : Text.allBlank after = true

/-- The characters of an argument. -/
def Argument.source (a : Argument) : List Char :=
  a.before ++ (a.writing.chars a.text ++ a.after)

/-- The characters of arguments. -/
def Argument.sources (args : List Argument) : List Char :=
  [','].intercalate (args.map Argument.source)

theorem Argument.sources_singleton (a : Argument) : Argument.sources [a] = a.source := by
  rw [sources, List.map_singleton, List.intercalate_singleton]

theorem Argument.sources_cons_cons (a b : Argument) (args : List Argument) :
    Argument.sources (a :: b :: args) = a.source ++ ',' :: Argument.sources (b :: args) := by
  rw [sources, List.map_cons, List.map_cons, List.intercalate_cons_cons, List.append_assoc]
  rfl

/-! ## The scan for the brace -/

theorem plain_of_allBlank {cs : List Char} (h : Text.allBlank cs = true) :
    ∀ c ∈ cs, c ≠ '$' ∧ c ≠ '\x7d' := by
  intro c hc
  have := List.all_eq_true.1 h c hc
  constructor <;> (rintro rfl; cases this)

/-- What is read was cut into tokens. -/
theorem toTokens_of_templateParts {block : ReadBlock} : ∀ {l : Lexed} {parts : List Expr},
    templateParts block l = .ok parts → l.toTokens = .ok l.tokens
  | .eof _, _, _ => rfl
  | .fault _, _, h => by cases h
  | .token t rest, parts, h => by
    have hsize := rest.size_takeSuffix
    suffices hrest : rest.toTokens = .ok rest.tokens by
      rw [Lexed.toTokens, hrest]
      rfl
    cases ht : t.kind.isPlaceholder with
    | false =>
      rw [templateParts_text ht] at h
      obtain ⟨parts', hparts, -⟩ := map_eq_ok h
      exact toTokens_of_templateParts hparts
    | true =>
      obtain ⟨m, hm⟩ := isPlaceholder_iff.1 ht
      rw [templateParts_placeholder hm] at h
      obtain ⟨node, -, h⟩ := bind_eq_ok h
      obtain ⟨parts', hparts, -⟩ := bind_eq_ok h
      have ih := toTokens_of_templateParts hparts
      -- a suffix in front is a token more
      unfold Lexed.takeSuffix at ih
      split at ih
      · rw [Lexed.toTokens, ih]
        rfl
      · exact ih
  termination_by l => l.size
  decreasing_by all_goals simp only [Lexed.size]; omega

theorem neutral_of_read {cs : List Char} {e : Expr} (h : read cs = .ok e) (hc : ClosesMarkers cs) :
    Neutral cs := by
  obtain ⟨parts, hparts, -⟩ := map_eq_ok h
  exact neutral_of_closes hc (markers_le_count (l := Lexer.start .template 0 cs) rfl rfl
    (toTokens_of_templateParts hparts))

/-- Blanks and what follows them do not go on with a marker. -/
theorem head_not_holds {bs cs : List Char} (hbs : Text.allBlank bs = true)
    (hcs : ∀ c ∈ cs.head?, ¬ Marker.holds c) : ∀ c ∈ (bs ++ cs).head?, ¬ Marker.holds c := by
  cases bs with
  | nil => exact hcs
  | cons b bs =>
    intro c hc
    cases hc
    exact not_holds_of_isBlank (List.all_eq_true.1 hbs b List.mem_cons_self)

theorem Argument.neutral (a : Argument) {cs : List Char} (hcs : ∀ c ∈ cs.head?, ¬ Marker.holds c)
    (h : Neutral cs) : Neutral (a.source ++ cs) := by
  have htext := neutral_of_read a.reads a.closes
  have hafter : Neutral (a.after ++ cs) := h.prepend (plain_of_allBlank a.blank_after)
  rw [Argument.source, List.append_assoc, List.append_assoc]
  refine Neutral.prepend ?_ (plain_of_allBlank a.blank_before)
  cases a.writing with
  | bare => exact htext.append (head_not_holds a.blank_after hcs) hafter
  | quoted q =>
    obtain ⟨-, hdollar, hplain⟩ := toChar_plain q
    have hbrace : q.toChar ≠ '\x7d' := by rintro h; rw [h] at hplain; simp at hplain
    rw [Writing.chars, List.cons_append, List.append_assoc, List.singleton_append]
    refine (htext.append ?_ (hafter.cons hdollar hbrace)).cons hdollar hbrace
    rintro c ⟨⟩
    exact not_holds_quote q

theorem Argument.sources_neutral {cs : List Char} (hcs : ∀ c ∈ cs.head?, ¬ Marker.holds c)
    (h : Neutral cs) : ∀ args : List Argument, Neutral (Argument.sources args ++ cs)
  | [] => h
  | [a] => by
    rw [Argument.sources_singleton]
    exact a.neutral hcs h
  | a :: b :: args => by
    have ih := Argument.sources_neutral hcs h (b :: args)
    rw [Argument.sources_cons_cons, List.append_assoc, List.cons_append]
    refine a.neutral ?_ (ih.cons (by decide) (by decide))
    rintro c ⟨⟩
    decide

/-! ## The scan for tokens -/

/-- What stands behind an argument: a comma or the parenthesis that closes the call. -/
def EndsArguments (rest : List Char) : Prop :=
  ∃ c v, rest = c :: v ∧ (c = ',' ∨ c = ')')

theorem endsArgument_after {bs rest : List Char} (hbs : Text.allBlank bs = true)
    (hrest : EndsArguments rest) : EndsArgument (bs ++ rest) := by
  obtain ⟨c, v, hcv, hc⟩ : ∃ c v, bs ++ rest = c :: v ∧
      (Text.isBlank c = true ∨ c = ',' ∨ c = ')') := by
    cases bs with
    | nil =>
      obtain ⟨c, v, rfl, hc⟩ := hrest
      exact ⟨c, v, rfl, .inr hc⟩
    | cons b bs =>
      exact ⟨b, bs ++ rest, rfl, .inl (List.all_eq_true.1 hbs b List.mem_cons_self)⟩
  rw [hcv]
  refine ⟨fun d => ?_, fun cs => startsMarker_append_of_not_holds ?_⟩
  · rcases hc with hc | rfl | rfl
    · simp [endsPlain, hc]
    · simp [endsPlain]
    · simp [endsPlain]
  · rcases hc with hc | rfl | rfl
    · exact not_holds_of_isBlank hc
    · decide
    · decide

theorem outside_shift (k : Nat) (ts : List Token) :
    outside (ts.map (Token.shift k)) = outside ts := by
  induction ts with
  | nil => rfl
  | cons t ts ih =>
    rw [List.map_cons]
    unfold outside at ih ⊢
    rw [List.filter_cons, List.filter_cons, Token.shift_kind]
    split
    · rw [raws_cons, raws_cons, ih, Token.shift_raw]
    · exact ih

theorem Bare.not_suffix {text : List Char} (h : Bare text) :
    ∀ t ∈ (Lexed.of .template 0 text).tokens, ∀ s, t.kind ≠ .suffix s := by
  intro t ht s hk
  obtain ⟨before, after, heq⟩ := List.append_of_mem ht
  obtain ⟨hsigns, hbefore⟩ := Lexer.suffix_follows (l := Lexer.start .template 0 text)
    (by simp [Lexer.start]) rfl heq hk
  rcases hbefore with ⟨-, hafter⟩ | ⟨front, u, rfl, hu⟩
  · cases hafter
  · rw [List.append_assoc, List.singleton_append] at heq
    have := h.unstepped u (t :: after) ⟨front, heq.symm⟩ hu
    rcases hsigns with hraw | hraw <;> rw [raws_cons, hraw] at this
    · exact this.1 (List.prefix_append _ _)
    · exact this.2 (List.prefix_append _ _)

/-- A bare text can stand in a call, wherever the call is. -/
theorem Bare.start {text : List Char} {e : Expr} (h : Bare text) (hread : read text = .ok e)
    (offset : Nat) : ∃ us, Lexer.Bare 0 (Lexer.start .template offset text) us := by
  obtain ⟨parts, hparts, -⟩ := map_eq_ok hread
  refine ⟨(Lexed.of .template 0 text).tokens.map (Token.shift offset), rfl, rfl, ?_, ?_, ?_, ?_, h.last⟩
  · rw [← Lexed.of_eq_lexed, ← Nat.zero_add offset, Lexed.of_shift, Lexed.toTokens_shift,
      toTokens_of_templateParts hparts, Nat.zero_add]
    rfl
  · intro t ht s
    obtain ⟨u, hu, rfl⟩ := List.mem_map.1 ht
    exact h.not_suffix u hu s
  · rw [outside_shift]
    exact h.unquoted
  · rw [outside_shift]
    exact h.enclosed

/-- Tokens that are a text as an argument, blanks around it aside. -/
structure ReadsAs (ts : List Token) (text : List Char) : Prop where
  nests : Nests 0 ts 0
  nonempty : ts ≠ []
  first : ∀ t ∈ ts.head?, t.isBlank = false
  last : ∀ t ∈ ts.getLast?, t.isBlank = false
  argument : ∀ block us, trimTokens us = ts →
    ∃ offset, argument block us = template block offset text

theorem Bare.readsAs {text rest : List Char} {e : Expr} {l : Lexer} (h : Bare text)
    (hread : read text = .ok e) (hrest : EndsArgument rest) (hin : l.Inside 1 (text ++ rest)) :
    ∃ ts, l.TakesTo ts 1 rest ∧ ReadsAs ts text := by
  obtain ⟨us, hbare⟩ := h.start hread l.position
  obtain ⟨ts, ⟨m, hts, hm⟩, hnests, hq, hparts⟩ := hbare.read hrest hin rfl
  have hraws : raws ts = text := by
    have := (hts.rest_eq hin.peeked).1
    rw [hin.rest, hm.rest] at this
    exact (List.append_cancel_right this).symm
  refine ⟨ts, ⟨m, hts, hm⟩, hnests, ?_, hts.head hin.peeked ?_, hts.last hin.peeked ?_, ?_⟩
  · rintro rfl
    exact h.nonempty hraws.symm
  · rw [hraws]
    exact h.first
  · rw [hraws]
    exact h.last
  · intro block us htrim
    refine ⟨l.position, ?_⟩
    unfold Expr.argument
    split
    · rename_i q text start hquoted
      rw [htrim] at hquoted
      exact absurd rfl (hq ⟨.quoted q, text, start⟩ (by rw [hquoted]; simp) q)
    · rw [segment, htrim, hparts]
      rfl

theorem readsAs_quoted {q : Quote} {text rest : List Char} {l : Lexer} (hq : q.toChar ∉ text)
    (hin : l.Inside 1 (q.toChar :: (text ++ q.toChar :: rest))) :
    ∃ ts, l.TakesTo ts 1 rest ∧ ReadsAs ts text := by
  have hcut : l.Cuts (l.emit (.quoted q) text rest) :=
    .quoted (.inr ⟨hin.mode, by rw [hin.depth]; decide⟩) hin.rest (suffix?_of_function hin.mode)
      (takeQuoted_of_not_mem hq)
  have htake := hin.take (e := l.depth) hcut (by simp)
  rw [hin.depth] at htake
  refine ⟨_, htake, .of_flat (by simp), by simp, by simp [Token.isBlank], by simp [Token.isBlank], ?_⟩
  intro block us htrim
  unfold Expr.argument
  rw [htrim]
  exact ⟨_, rfl⟩

namespace Writing

variable {w : Writing} {text : List Char}

theorem chars_eq_cons (h : w.Fits text) : ∃ c v, w.chars text = c :: v ∧ Text.isBlank c = false := by
  cases w with
  | quoted q => exact ⟨q.toChar, _, rfl, (toChar_plain q).1⟩
  | bare =>
    obtain ⟨c, v, rfl⟩ := List.exists_cons_of_ne_nil h.nonempty
    exact ⟨c, v, rfl, h.first c rfl⟩

theorem readsAs {rest : List Char} {e : Expr} {l : Lexer} (h : w.Fits text)
    (hread : read text = .ok e) (hrest : EndsArgument rest)
    (hin : l.Inside 1 (w.chars text ++ rest)) : ∃ ts, l.TakesTo ts 1 rest ∧ ReadsAs ts text := by
  cases w with
  | quoted q =>
    refine readsAs_quoted h ?_
    rwa [chars, List.cons_append, List.append_assoc] at hin
  | bare => exact h.readsAs hread hrest hin

end Writing

theorem nests_of_blank {ts : List Token} (h : ∀ t ∈ ts, t.isBlank = true) : Nests 0 ts 0 :=
  .of_flat fun t ht => by
    have hk : t.kind = .blank := of_decide_eq_true (h t ht)
    rw [hk]
    decide

namespace Argument

/-- The tokens of an argument are read as its expression by whatever reads its text so. -/
theorem tokens (a : Argument) {rest : List Char} {l : Lexer} (hrest : EndsArguments rest)
    (hin : l.Inside 1 (a.source ++ rest)) :
    ∃ ts, l.TakesTo ts 1 rest ∧ Nests 0 ts 0 ∧ (∃ t ∈ ts, t.isBlank = false) ∧
      ∀ block : ReadBlock, (∀ offset, template block offset a.text = .ok a.tree) →
        argument block ts = .ok a.tree := by
  rw [source, List.append_assoc, List.append_assoc] at hin
  obtain ⟨c, v, hcv, hc⟩ := Writing.chars_eq_cons a.fits
  -- blanks, the text as it is written, and blanks again
  obtain ⟨front, ⟨m, hfront, hm⟩, hfblank⟩ := hin.blanks (List.all_eq_true.1 a.blank_before) <| by
    rw [hcv]
    rintro d ⟨⟩
    exact hc
  obtain ⟨ts, ⟨n, hts, hn⟩, hreads⟩ :=
    Writing.readsAs a.fits a.reads (endsArgument_after a.blank_after hrest) hm
  obtain ⟨back, ⟨o, hback, ho⟩, hbblank⟩ := hn.blanks (List.all_eq_true.1 a.blank_after) <| by
    obtain ⟨d, w, rfl, rfl | rfl⟩ := hrest <;>
    · rintro d ⟨⟩
      rfl
  refine ⟨front ++ ts ++ back, ⟨o, (hfront.append hts).append hback, ho⟩,
    ((nests_of_blank hfblank).append hreads.nests).append (nests_of_blank hbblank), ?_, ?_⟩
  · obtain ⟨t, us, htu⟩ := List.exists_cons_of_ne_nil hreads.nonempty
    exact ⟨t, by rw [htu]; simp, hreads.first t (by rw [htu]; rfl)⟩
  · intro block hblock
    obtain ⟨offset, harg⟩ := hreads.argument block (front ++ ts ++ back)
      (trimTokens_between hfblank hbblank hreads.first hreads.last hreads.nonempty)
    rw [harg, hblock]

/-- The parenthesis that closes a call is not among the tokens. -/
def Inner (ts : List Token) : Prop :=
  ∀ us, takeInner 0 (ts ++ us) = (takeInner 0 us).map fun p => (ts ++ p.1, p.2)

/-- Tokens of the arguments of a call: the parenthesis that closes the call is not among them, and what
stands between their commas is read as the expressions of the arguments by whatever reads their texts
so. -/
structure Reads (ts : List Token) (args : List Argument) : Prop where
  inner : Inner ts
  arguments : ∀ block : ReadBlock,
    (∀ a ∈ args, ∀ offset, template block offset a.text = .ok a.tree) →
      Expr.arguments block ts = .ok (args.map tree)

/-- The tokens of one argument or more. -/
theorem tokens_cons {v : List Char} : ∀ (args : List Argument) (a : Argument) {l : Lexer},
    l.Inside 1 (sources (a :: args) ++ ')' :: v) →
    ∃ ts, l.TakesTo ts 1 (')' :: v) ∧ (∃ t ∈ ts, t.isBlank = false) ∧ Inner ts ∧
      ∀ block : ReadBlock,
        (∀ b ∈ a :: args, ∀ offset, template block offset b.text = .ok b.tree) →
          (splitArguments 0 ts).mapM (argument block) = .ok ((a :: args).map tree)
  | [], a, l, hin => by
    rw [sources_singleton] at hin
    obtain ⟨ts, hts, hnests, hblank, hread⟩ := a.tokens ⟨_, _, rfl, .inr rfl⟩ hin
    refine ⟨ts, hts, hblank, hnests.takeInner_append, fun block hblock => ?_⟩
    rw [splitArguments_of_nests hnests, List.mapM_cons, hread block (hblock a List.mem_cons_self)]
    rfl
  | b :: args, a, l, hin => by
    rw [sources_cons_cons, List.append_assoc, List.cons_append] at hin
    obtain ⟨ts, ⟨m, hts, hm⟩, hnests, hblank, hread⟩ := a.tokens ⟨_, _, rfl, .inl rfl⟩ hin
    obtain ⟨n, hcomma, hn⟩ := hm.take (e := m.depth) (.comma hm.mode hm.rest) (by simp)
    rw [hm.depth] at hn
    obtain ⟨us, ⟨o, hus, ho⟩, -, hinner, hrest⟩ := tokens_cons args b hn
    refine ⟨ts ++ ⟨.comma, [','], m.position⟩ :: us, ⟨o, hts.append (hcomma.append hus), ho⟩, ?_, ?_, ?_⟩
    · obtain ⟨t, ht, hb⟩ := hblank
      exact ⟨t, List.mem_append_left _ ht, hb⟩
    · intro vs
      have hstep (ws : List Token) : takeInner 0 (⟨.comma, [','], m.position⟩ :: ws) =
          (takeInner 0 ws).map fun p => (⟨.comma, [','], m.position⟩ :: p.1, p.2) := rfl
      rw [List.append_assoc, hnests.takeInner_append, List.cons_append, hstep, hinner]
      cases takeInner 0 vs <;> simp
    · intro block hblock
      rw [splitArguments_comma hnests rfl, List.mapM_cons, hread block (hblock a List.mem_cons_self),
        hrest block fun c hc => hblock c (List.mem_cons_of_mem _ hc)]
      rfl

/-- The tokens of all arguments. -/
theorem tokens_all (args : List Argument) {v : List Char} {l : Lexer}
    (hin : l.Inside 1 (sources args ++ ')' :: v)) :
    ∃ ts, l.TakesTo ts 1 (')' :: v) ∧ Reads ts args := by
  cases args with
  | nil =>
    refine ⟨[], hin.nil, fun us => ?_, fun block _ => rfl⟩
    cases h : takeInner 0 us <;> simp [h]
  | cons a args =>
    obtain ⟨ts, hts, ⟨t, ht, hb⟩, hinner, hread⟩ := tokens_cons args a hin
    refine ⟨ts, hts, hinner, fun block hblock => ?_⟩
    rw [Expr.arguments, if_neg, hread block hblock]
    intro hall
    rw [List.all_eq_true.1 hall t ht] at hb
    cases hb

end Argument

/-! ## Calls -/

/-- A block of neutral text is a text of its own. -/
theorem read_block (m : Marker) {body : List Char} (h : Neutral body) :
    read (m.chars ++ (body ++ ['\x7d'])) = readBlock ⟨.placeholder m, body, 0⟩ := by
  have hscan := scan_block (l := Lexer.start .template 0 (m.chars ++ (body ++ ['\x7d'])))
    (suffix?_of_not_after rfl) rfl (h.takeBlock [])
  unfold read readRegion template
  rw [Lexed.of_eq_lexed, lexed_of_emit rfl hscan (by simp), templateParts_placeholder rfl,
    lexed_of_nil rfl rfl]
  show (readBlock ⟨.placeholder m, body, 0⟩ >>= fun node => .ok [node]).map join = _
  cases readBlock ⟨.placeholder m, body, 0⟩ <;> rfl

/-- The characters of a name: neither blanks nor any that delimit it. Letters, digits, dots and colons
are among them. -/
def IsName (name : List Char) : Prop :=
  name ≠ [] ∧ ∀ c ∈ name, Text.isBlank c = false ∧ c ∉ ['(', ')', ',', '$', '\x7d']

/-- A name in front of a parenthesis is one token. -/
theorem IsName.take {name rest : List Char} {l : Lexer} (h : IsName name)
    (hin : l.Inside 0 (name ++ '(' :: rest)) :
    l.TakesTo [⟨.literal, name, l.position⟩] 0 ('(' :: rest) := by
  have hstop : ∀ u v, name = u ++ v → v ≠ [] → endsPlain 0 (v ++ '(' :: rest) = false := by
    intro u v huv hv
    obtain ⟨c, v, rfl⟩ := List.exists_cons_of_ne_nil hv
    obtain ⟨hblank, hc⟩ := h.2 c (by rw [huv]; simp)
    simp only [List.mem_cons, List.not_mem_nil, or_false, not_or] at hc
    have hm : startsMarker (c :: (v ++ '(' :: rest)) = false := startsMarker_cons_of_ne hc.2.2.2.1
    simp [endsPlain, hblank, hc, hm]
  have htake : takeUntil (endsPlain 0) (name ++ '(' :: rest) = (name, '(' :: rest) :=
    takeUntil_append (.inr (by simp [endsPlain])) hstop
  have hplain : endsPlain l.depth l.rest = false := by
    rw [hin.depth, hin.rest]
    exact hstop [] name rfl h.1
  have hcut := hin.take (e := l.depth) (.plain hin.mode hplain) (by simp)
  rwa [hin.depth, hin.rest, htake] at hcut

/-- Tokens of a name, of parentheses and of arguments between them are a call. -/
theorem inside_call {block : ReadBlock} {n o c : Token} {ts : List Token} {args : List Argument}
    (hn : n.kind = .literal) (ho : o.kind = .openParen) (hc : c.kind = .closeParen)
    (hts : Argument.Reads ts args)
    (hblock : ∀ a ∈ args, ∀ offset, template block offset a.text = .ok a.tree) :
    inside block (n :: o :: (ts ++ [c])) =
      .ok (call (literal (String.ofList n.text)) (args.map Argument.tree)) := by
  have hsplit : splitCall? (n :: o :: (ts ++ [c])) = some ([n], ts) := by
    have hinner : takeInner 0 (ts ++ [c]) = some (ts, []) := by
      rw [hts.inner, takeInner_cons, if_pos ⟨hc, rfl⟩]
      simp
    simp [splitCall?, hn, ho, hinner]
  have hname : segment block [n] = .ok (literal (String.ofList n.text)) := by
    have hblank : n.isBlank = false := by rw [Token.isBlank, hn]; rfl
    have hraw : n.raw = n.text := raw_of_isPlain (by rw [isPlain, hn])
    have htrim : trimTokens [n] = [n] := by simp [trimTokens, hblank]
    rw [segment, htrim, segmentParts_text (by rw [hn]; rfl), hraw]
    rfl
  rw [inside, hsplit]
  dsimp only
  rw [hname, ok_bind, hts.arguments block hblock]
  rfl

/-- The tokens of a call. -/
theorem tokens_call {name : List Char} (hname : IsName name) (args : List Argument) (offset : Nat) :
    ∃ ts n o c, (Lexed.of .function offset
        (name ++ '(' :: (Argument.sources args ++ [')']))).toTokens = .ok (n :: o :: (ts ++ [c])) ∧
      n.kind = .literal ∧ n.text = name ∧ o.kind = .openParen ∧ c.kind = .closeParen ∧
      Argument.Reads ts args := by
  have hin : (Lexer.start .function offset (name ++ '(' :: (Argument.sources args ++ [')']))).Inside 0
      (name ++ '(' :: (Argument.sources args ++ [')'])) := ⟨rfl, rfl, rfl, rfl⟩
  obtain ⟨l₁, h₁, hin₁⟩ := hname.take hin
  obtain ⟨l₂, h₂, hin₂⟩ := hin₁.take (.openParen hin₁.mode hin₁.rest) (by simp)
  rw [hin₁.depth] at hin₂
  obtain ⟨ts, ⟨l₃, h₃, hin₃⟩, hreads⟩ := Argument.tokens_all args hin₂
  obtain ⟨l₄, h₄, hin₄⟩ := hin₃.take (.closeParen hin₃.mode hin₃.rest) (by simp)
  have htokens := (h₁.append (h₂.append (h₃.append h₄))).toTokens hin.peeked
  rw [lexed_of_nil hin₄.peeked hin₄.rest] at htokens
  exact ⟨ts, _, _, _, htokens.trans (by simp [Lexed.toTokens]; rfl), rfl, rfl, rfl, rfl, hreads⟩

theorem Argument.length_text_le {a : Argument} : ∀ {args : List Argument}, a ∈ args →
    a.text.length ≤ (Argument.sources args).length
  | b :: args, ha => by
    have hsource (b : Argument) : b.text.length ≤ b.source.length := by
      rw [Argument.source, List.length_append, List.length_append]
      cases b.writing <;> simp [Writing.chars] <;> omega
    have hsources : b.source.length ≤ (Argument.sources (b :: args)).length ∧
        (Argument.sources args).length ≤ (Argument.sources (b :: args)).length := by
      cases args with
      | nil => rw [Argument.sources_singleton]; exact ⟨Nat.le_refl _, Nat.zero_le _⟩
      | cons c args =>
        rw [Argument.sources_cons_cons, List.length_append, List.length_cons]
        omega
    rcases List.mem_cons.1 ha with rfl | ha
    · exact (hsource a).trans hsources.1
    · exact (Argument.length_text_le ha).trans hsources.2

/-- A call is read as its name and the expressions of the texts of its arguments. -/
theorem read_call (m : Marker) {name : List Char} (hname : IsName name) (args : List Argument) :
    read (m.chars ++ (name ++ '(' :: (Argument.sources args ++ [')']) ++ ['\x7d'])) =
      .ok (call (literal (String.ofList name)) (args.map Argument.tree)) := by
  have hneutral : Neutral (name ++ '(' :: (Argument.sources args ++ [')'])) := by
    have hclose : Neutral [')'] := neutral_nil.cons (by decide) (by decide)
    have hsources := Argument.sources_neutral (by rintro c ⟨⟩; decide) hclose args
    refine (hsources.cons (by decide) (by decide)).prepend fun c hc => ?_
    have := (hname.2 c hc).2
    simp only [List.mem_cons, List.not_mem_nil, or_false, not_or] at this
    exact this.2.2.2
  obtain ⟨ts, n, o, c, htokens, hn, htext, ho, hc, hreads⟩ :=
    tokens_call hname args
      (textStart ⟨.placeholder m, name ++ '(' :: (Argument.sources args ++ [')']), 0⟩)
  -- the name has a character, so the block is not blank and has more characters than any argument
  obtain ⟨d, name, rfl⟩ := List.exists_cons_of_ne_nil hname.1
  have hblank : ¬ Text.allBlank (d :: name ++ '(' :: (Argument.sources args ++ [')'])) = true := by
    have := (hname.2 d List.mem_cons_self).1
    simp [Text.allBlank, this]
  rw [read_block m hneutral, readBlock, List.cons_append, List.length_cons, readBlockTo,
    ← List.cons_append, if_neg hblank]
  dsimp only
  rw [htokens, ok_bind, ← htext]
  refine inside_call hn ho hc hreads fun a ha offset => ?_
  refine template_of_read a.reads ?_ offset
  have := Argument.length_text_le ha
  simp only [List.length_append, List.length_cons]
  omega

/-- A comma and a block in quotes, and a bare argument with parentheses around a block that is a call
itself. -/
theorem read_call_nested : IsName ['f'] ∧
    read "$\x7bf('a, $\x7bb\x7d', g($\x7bh('x')\x7d, 2))\x7d".toList =
      .ok (call (literal "f") [concat [literal "a, ", property (literal "b")],
        concat [literal "g(", call (literal "h") [literal "x"], literal ", 2)"]]) := by
  have hname : IsName ['f'] := ⟨by decide, by simp [Text.isBlank]⟩
  have hquoted : read "a, $\x7bb\x7d".toList =
      .ok (concat [literal "a, ", property (literal "b")]) := by cbv
  have hbare : read "g($\x7bh('x')\x7d, 2)".toList =
      .ok (concat [literal "g(", call (literal "h") [literal "x"], literal ", 2)"]) := by cbv
  have htokens : (Lexed.of .template 0 "g($\x7bh('x')\x7d, 2)".toList).tokens =
      [⟨.literal, ['g', '('], 0⟩, ⟨.placeholder .short, ['h', '(', '\'', 'x', '\'', ')'], 2⟩,
        ⟨.literal, [',', ' ', '2', ')'], 11⟩] := by decide
  have houtside : outside (Lexed.of .template 0 "g($\x7bh('x')\x7d, 2)".toList).tokens =
      ['g', '(', ',', ' ', '2', ')'] := by rw [htokens]; decide
  have hfits : Bare "g($\x7bh('x')\x7d, 2)".toList := by
    refine ⟨by decide, by simp [Text.isBlank], by simp [Text.isBlank], ?_, ?_, ?_⟩
    · rw [houtside]; simp [quote?]
    · rw [houtside]; decide
    · rw [htokens]
      intro t after ht hblock
      simp only [List.suffix_cons_iff, List.cons.injEq, List.suffix_nil] at ht
      rcases ht with ⟨rfl, -⟩ | ⟨rfl, rfl⟩ | ⟨rfl, -⟩ | ht
      · cases hblock
      · decide
      · cases hblock
      · cases ht
  have hquotes : '\'' ∉ "a, $\x7bb\x7d".toList := by decide
  exact ⟨hname, read_call .short hname [
    ⟨_, _, .quoted .single, [], [], hquoted, by decide, hquotes, by decide, by decide⟩,
    ⟨_, _, .bare, [' '], [], hbare, by decide, hfits, by decide, by decide⟩]⟩

end Expr

end RouteExpr
