/-
An operator and its operand behind a text that is a value alone.

The tokens of the value stay what they are, so the operator is found where the text ended, and the
condition is what the operand makes of it. A quoted operand is read as the text between the quotes is
read by itself, only so many characters later. Where an operator takes a text and not a value, it is given
the text, quoted or bare.
-/
import RouteExpr.Proofs.Expr.Template
import RouteExpr.Proofs.Predicate.Join

namespace RouteExpr

open Lexer Predicate

namespace Predicate

variable {classes : ClassTable}

/-! ## Texts that are a value alone -/

theorem alone_injective {a b : Expr} (h : alone a = alone b) : a = b := by
  cases a <;> cases b <;> cases h <;> rfl

/-- A chain of one group with one condition is that condition. -/
theorem readChain_singleton {n : Nat} {l : Lexed} {p : Predicate}
    (h : readChain classes n l = .ok [[p]]) :
    ∃ rest offset, readCondition classes l = .ok (p, rest) ∧ rest.skipBlanks = .ok (.eof offset) := by
  obtain ⟨q, rest, rest', hq, hr, ⟨⟨offset, rfl⟩, heq⟩ |
    ⟨m, t, after, next, c, groups, -, -, -, -, -, hgroups, heq⟩⟩ := readChain_eq_ok h
  · cases heq
    exact ⟨rest, offset, hq, hr⟩
  · -- behind a connective there is one condition more
    exfalso
    obtain ⟨hne, hall⟩ := readChain_flat m hgroups
    match c, groups, hne with
    | .or, g :: gs, _ => cases heq
    | .and, g :: gs, _ =>
      have hg := (hall g List.mem_cons_self).1
      match g, hg with
      | _ :: _, _ => cases heq

/-- A text that is read as a value alone is that value, with blanks around it. -/
theorem readValue_of_alone {cs : List Char} {left : Expr} (h : read classes cs = .ok (alone left))
    (hb : Text.allBlank cs = false) :
    ∃ l rest offset, (Lexed.of .predicate 0 cs).skipBlanks = .ok l ∧ (∃ t r, l = .token t r) ∧
      readValue l = .ok (left, rest) ∧ rest.skipBlanks = .ok (.eof offset) := by
  obtain ⟨l, groups, hl, ht, hg, hp⟩ := read_eq_ok h hb
  have hflat := readChain_flat _ hg
  have hsingle : groups = [[alone left]] := by
    have hgroups := groups_ofGroups hflat
    have halone : (alone left).groups = [alone left] := by cases left <;> rfl
    rw [← hp, halone] at hgroups
    obtain ⟨g, rfl⟩ : ∃ g, groups = [g] := by
      have := congrArg List.length hgroups
      rw [List.length_map] at this
      exact List.length_eq_one_iff.1 this.symm
    obtain ⟨hne, hall⟩ := hflat.2 g List.mem_cons_self
    have hconditions := conditions_collapse hne hall
    rw [← (List.cons.inj hgroups).1] at hconditions
    rw [← hconditions]
    cases left <;> rfl
  rw [hsingle] at hg
  obtain ⟨rest, offset, hcondition, hrest⟩ := readChain_singleton hg
  obtain ⟨left', rest₁, rest₂, hvalue, hskip, hafter⟩ := readCondition_eq_ok hcondition
  rcases afterLeft_eq_ok hafter with ⟨_, _, _, _, _, _, -, -, -, heq⟩ | ⟨-, heq, rfl⟩
  · cases left <;> cases heq
  · rw [alone_injective heq]
    rw [skipBlanks_idem hskip] at hrest
    exact ⟨l, rest₁, offset, hl, ht, hvalue, hskip.trans hrest⟩

/-! ## Tokens of a value -/

/-- A token that was skipped is blank. -/
theorem mem_tokens_of_skipBlanks {l m : Lexed} {t : Token} (h : l.skipBlanks = .ok m)
    (ht : t ∈ l.tokens) : t ∈ m.tokens ∨ t.kind = .blank := by
  induction l with
  | eof => cases h; exact .inl ht
  | fault => cases h
  | token u rest ih =>
    rw [Lexed.skipBlanks] at h
    split at h
    · rename_i hb
      rcases List.mem_cons.1 ht with rfl | ht
      · exact .inr (of_decide_eq_true hb)
      · exact ih h ht
    · cases h
      exact .inl ht

/-- A token of the parts of a value is a placeholder, a quoted text, or the suffix of a placeholder. -/
theorem mem_tokens_of_readParts {t : Token} : ∀ {l r : Lexed} {ps : List Expr},
    readParts l = .ok (ps, r) → t ∈ l.tokens →
    t ∈ r.tokens ∨ (∃ m, t.kind = .placeholder m) ∨ (∃ q, t.kind = .quoted q) ∨
      ∃ s, t.kind = .suffix s
  | .eof _, _, _, h, ht => by cases h; exact .inl ht
  | .fault _, _, _, h, _ => by cases h
  | .token u rest, r, ps, h, ht => by
    have hsize := rest.size_takeSuffix
    rcases part_cases u.kind with ⟨m, hk⟩ | ⟨q, hk⟩ | ⟨hp, hq⟩
    · rw [readParts_placeholder hk] at h
      obtain ⟨_, -, h⟩ := bind_eq_ok h
      obtain ⟨_, -, h⟩ := bind_eq_ok h
      obtain ⟨⟨ps', r'⟩, hr, h⟩ := bind_eq_ok h
      cases h
      rcases List.mem_cons.1 ht with rfl | ht
      · exact .inr (.inl ⟨m, hk⟩)
      · have hsuffix : t ∈ rest.takeSuffix.2.tokens ∨ ∃ s, t.kind = .suffix s := by
          unfold Lexed.takeSuffix
          split
          · rcases List.mem_cons.1 ht with rfl | ht
            · exact .inr ⟨_, rfl⟩
            · exact .inl ht
          · exact .inl ht
        rcases hsuffix with ht | hs
        · exact mem_tokens_of_readParts hr ht
        · exact .inr (.inr (.inr hs))
    · rw [readParts_quoted hk] at h
      obtain ⟨_, -, h⟩ := bind_eq_ok h
      obtain ⟨_, -, h⟩ := bind_eq_ok h
      obtain ⟨⟨ps', r'⟩, hr, h⟩ := bind_eq_ok h
      cases h
      rcases List.mem_cons.1 ht with rfl | ht
      · exact .inr (.inr (.inl ⟨q, hk⟩))
      · exact mem_tokens_of_readParts hr ht
    · rw [readParts_other hp hq] at h
      cases h
      exact .inl ht
  termination_by l => l.size
  decreasing_by all_goals simp only [Lexed.size]; omega

/-- The words that look at other words are no values. -/
theorem looks_at_no_word {cs : List Char} {e : Expr} (h : readWord? cs = some e) :
    cs ≠ "not".toList ∧ edge? cs = none := by
  have hnot : readWord? "not".toList = none := by rfl
  have hstarts : readWord? "starts".toList = none := by rfl
  have hends : readWord? "ends".toList = none := by rfl
  refine ⟨?_, ?_⟩
  · rintro rfl
    rw [hnot] at h
    cases h
  · unfold edge?
    split
    · rename_i hs
      rw [hs, hstarts] at h
      cases h
    · split
      · rename_i hs
        rw [hs, hends] at h
        cases h
      · rfl

/-- The tokens of a text that is a value alone are the same when the text goes on. -/
theorem stays_of_alone {cs tail : List Char} {left : Expr}
    (h : read classes cs = .ok (alone left)) (hb : Text.allBlank cs = false) :
    ∀ t ∈ (Lexed.of .predicate 0 cs).tokens, Stays tail t := by
  obtain ⟨l, rest, offset, hl, -, hvalue, hrest⟩ := readValue_of_alone h hb
  have other {t : Token} (ht : t.kind = .blank ∨ (∃ m, t.kind = .placeholder m) ∨
      (∃ q, t.kind = .quoted q) ∨ ∃ s, t.kind = .suffix s) : Stays tail t := by
    refine stays_of_literal (fun op hop => ?_) (fun c hc => ?_) (fun hl => ?_) <;>
      rcases ht with hk | ⟨_, hk⟩ | ⟨_, hk⟩ | ⟨_, hk⟩ <;> simp_all
  -- behind the value there are blanks
  have behind {t : Token} (ht : t ∈ rest.tokens) : Stays tail t := by
    rcases mem_tokens_of_skipBlanks hrest ht with ht | ht
    · cases ht
    · exact other (.inl ht)
  intro t ht
  rcases mem_tokens_of_skipBlanks hl ht with ht | ht
  · rcases readValue_eq_ok hvalue with ⟨u, rfl, hk, -, hw⟩ | ⟨u, rest', ps, rfl, -, hps, -⟩
    · rcases List.mem_cons.1 ht with rfl | ht
      · refine stays_of_literal ?_ ?_ fun _ => looks_at_no_word hw
        · intro op hop
          rw [hk] at hop
          cases hop
        · intro c hc
          rw [hk] at hc
          cases hc
      · exact behind ht
    · rcases mem_tokens_of_readParts hps ht with ht | ht
      · exact behind ht
      · exact other (.inr ht)
  · exact other (.inl ht)

/-! ## An operator behind a value -/

/-- An operator behind a text and before another, with a space on either side. -/
def spaced (cs o tail : List Char) : List Char :=
  cs ++ ' ' :: (o ++ ' ' :: tail)

theorem length_spaced (cs o tail : List Char) :
    (spaced cs o tail).length = cs.length + 1 + o.length + 1 + tail.length := by
  simp only [spaced, List.length_append, List.length_cons]
  omega

variable {cs o tail : List Char} {left : Expr} {op : Operator}

/-- Where what ends a value stands behind a text that is a value alone, the value is read up to it. -/
theorem readValue_before {next : List Char} (h : read classes cs = .ok (alone left))
    (hb : Text.allBlank cs = false) (hnext : ∃ d more, next = d :: more ∧ Text.isBlank d = false)
    (hends : (Lexed.of .predicate (cs.length + 1) next).EndsValue) :
    ∃ t r rest, (Lexed.of .predicate 0 (cs ++ ' ' :: next)).skipBlanks = .ok (.token t r) ∧
      readValue (.token t r) = .ok (left, rest) ∧
      rest.skipBlanks = .ok (Lexed.of .predicate (cs.length + 1) next) := by
  obtain ⟨l, rest, offset, hl, ⟨t, r, rfl⟩, hvalue, hrest⟩ := readValue_of_alone h hb
  -- the tokens of the value, and then what ends it
  have hext := lexed_extend (startsBlank_cons (c := ' ') rfl next)
    (Lexer.start .predicate 0 cs) rfl rfl rfl (stays_of_alone h hb)
  have hblanks := blanks_space hnext
  have hoffset : (Lexer.start .predicate 0 cs).position +
      ((Lexer.start .predicate 0 cs).rest ++ [' ']).length = cs.length + 1 := by
    simp [Lexer.start]
  rw [hblanks.1, hblanks.2, hoffset] at hext
  obtain ⟨l', hl', ⟨⟨_, ⟨⟩⟩, -⟩ | ⟨u, r₁, r', heq, rfl, he⟩⟩ := hext.skipBlanks hends hl
  cases heq
  obtain ⟨rest', hvalue', her⟩ := readValue_extends hends (.token t he) hvalue
  obtain ⟨next', hnext', ⟨-, rfl⟩ | ⟨_, _, _, ⟨⟩, -, -⟩⟩ := her.skipBlanks hends hrest
  exact ⟨t, r', rest', hl', hvalue', hnext'⟩

/-- Where an operator stands behind a text that is a value alone, the condition is that value, and what
the operator makes of what follows. -/
theorem readCondition_operator (h : read classes cs = .ok (alone left))
    (hb : Text.allBlank cs = false) (ho : op.Spells o) (ht : StartsBlank tail) :
    ∃ t r, (Lexed.of .predicate 0 (cs ++ ' ' :: (o ++ tail))).skipBlanks = .ok (.token t r) ∧
      readCondition classes (.token t r) = (do
        let (right, rest) ← readOperand classes op ⟨.operator op, o, cs.length + 1⟩
          (← (Lexed.of .predicate (cs.length + 1 + o.length) tail).skipBlanks)
        return (.comparison left op right, rest)) := by
  have hlexed := ho.lexed ht.afterWord (cs.length + 1)
  have hnext : ∃ d more, o ++ tail = d :: more ∧ Text.isBlank d = false := by
    obtain ⟨d, more, rfl, hd⟩ := ho.eq_cons
    exact ⟨d, more ++ tail, rfl, hd⟩
  obtain ⟨t, r, rest, hl, hvalue, hrest⟩ := readValue_before h hb hnext
    ⟨_, _, hlexed, .inr (.inl ⟨op, rfl⟩)⟩
  refine ⟨t, r, hl, ?_⟩
  rw [hlexed] at hrest
  rw [readCondition_of_value hvalue hrest]
  rfl

/-- A text of one condition is read as that condition. -/
theorem read_of_condition {t : Token} {r rest : Lexed} {offset : Nat} {p : Predicate}
    (hl : (Lexed.of .predicate 0 cs).skipBlanks = .ok (.token t r))
    (hp : readCondition classes (.token t r) = .ok (p, rest))
    (hrest : rest.skipBlanks = .ok (.eof offset)) : read classes cs = .ok p := by
  have hread : read classes cs = .ok (ofGroups [[p]]) :=
    read_of_chain hl (readChain_of_eof (n := 0) hp hrest)
  rw [hread]
  rfl

/-- A text of which the first condition is refused is refused for the same fault. -/
theorem read_of_condition_error {t : Token} {r : Lexed} {f : Fault}
    (hl : (Lexed.of .predicate 0 cs).skipBlanks = .ok (.token t r))
    (hp : readCondition classes (.token t r) = .error f) : read classes cs = .error f := by
  unfold read
  rw [hl, ok_bind]
  dsimp only
  unfold readChain
  rw [hp]
  rfl

/-! ## Operands that are values -/

/-- An operator that takes neither types nor patterns nor ranges takes values. -/
theorem readOperand_value {symbol t : Token} {rest : Lexed}
    (hc : op.comparison ∉ [.type, .regex, .range]) (ht : t.kind.isText = true) :
    readOperand classes op symbol (.token t rest) =
      (readValue (.token t rest)).map fun (e, rest) => (.value e, rest) := by
  obtain ⟨kind, text, start⟩ := t
  cases kind <;> cases ht <;>
  · unfold readOperand
    dsimp only
    cases hop : op.comparison with
    | type => simp [hop] at hc
    | regex => simp [hop] at hc
    | range => simp [hop] at hc
    | _ => rfl

/-- Behind an operator that takes values, a word is read as the value that it is. -/
theorem read_word_operand {word : List Char} {e : Expr} (h : read classes cs = .ok (alone left))
    (hb : Text.allBlank cs = false) (ho : op.Spells o) (hc : op.comparison ∉ [.type, .regex, .range])
    (hword : ∀ offset, Lexed.of .predicate offset word =
      .token ⟨.literal, word, offset⟩ (.eof (offset + word.length)))
    (he : readWord? word = some e) :
    read classes (cs ++ [' '] ++ o ++ [' '] ++ word) = .ok (.comparison left op (.value e)) := by
  have htext : cs ++ [' '] ++ o ++ [' '] ++ word = cs ++ ' ' :: (o ++ ' ' :: word) := by simp
  obtain ⟨t, r, hl, hcondition⟩ := readCondition_operator h hb ho
    (startsBlank_cons (c := ' ') rfl word)
  rw [Lexed.skipBlanks_of_cons rfl, hword, Lexed.skipBlanks, if_neg (by simp [Token.isBlank]),
    ok_bind, readOperand_value hc rfl, readValue_of_literal rfl rfl he] at hcondition
  rw [htext]
  exact read_of_condition hl hcondition rfl

/-- A token that leaves nothing of a region is the only one. -/
theorem lexed_of_whole {mode : Mode} {offset : Nat} {region text : List Char} {kind : Token.Kind}
    (hk : kind ≠ .eof) (hs : (Lexer.start mode offset region).scan =
      .ok ((Lexer.start mode offset region).emit kind text [])) :
    ∃ stop, Lexed.of mode offset region = .token ⟨kind, text, offset⟩ (.eof stop) := by
  generalize hl : Lexer.start mode offset region = l at hs
  have hp : l.peeked = none := by rw [← hl]; rfl
  have hpos : l.position = offset := by rw [← hl]; rfl
  rw [Lexed.of_eq_lexed, hl, lexed_of_emit hp hs hk,
    lexed_of_nil (l := (l.emit kind text []).2) hp rfl, hpos]
  exact ⟨_, rfl⟩

/-- A quoted text up to the end of a region is one token. -/
theorem lexed_quoted {q : Quote} {text : List Char} (hq : q.toChar ∉ text) (offset : Nat) :
    ∃ stop, Lexed.of .predicate offset (q.toChar :: (text ++ [q.toChar])) =
      .token ⟨.quoted q, text, offset⟩ (.eof stop) :=
  lexed_of_whole nofun (scan_of_cuts (.quoted (.inl rfl) rfl rfl (takeQuoted_of_not_mem hq)))

/-- A quoted text is read as a value where the operator takes values. -/
theorem readOperand_quoted {symbol : Token} {q : Quote} {text : List Char} {start stop : Nat}
    (hc : op.comparison ∉ [.type, .regex, .range]) :
    readOperand classes op symbol (.token ⟨.quoted q, text, start⟩ (.eof stop)) =
      (Expr.readRegion (start + 1) text).map fun e => (.value e, .eof stop) := by
  have hvalue : readValue (.token ⟨.quoted q, text, start⟩ (.eof stop)) =
      (Expr.readRegion (start + 1) text).map fun e => (e, .eof stop) := by
    show (readParts (.token ⟨.quoted q, text, start⟩ (.eof stop))).map _ = _
    rw [readParts_quoted rfl]
    show ((Expr.readRegion (start + 1) text >>= fun node => _) : Except Fault _).map _ = _
    cases Expr.readRegion (start + 1) text <;> rfl
  rw [readOperand_value hc rfl, hvalue]
  cases Expr.readRegion (start + 1) text <;> rfl

/-- Behind an operator that takes values, the condition with a quoted text is what the text is read as,
moved behind the quote. -/
theorem readCondition_quoted {q : Quote} {text : List Char} (h : read classes cs = .ok (alone left))
    (hb : Text.allBlank cs = false) (ho : op.Spells o) (hc : op.comparison ∉ [.type, .regex, .range])
    (hq : q.toChar ∉ text) :
    ∃ t r stop, (Lexed.of .predicate 0 (cs ++ [' '] ++ o ++ [' '] ++ [q.toChar] ++ text ++
        [q.toChar])).skipBlanks = .ok (.token t r) ∧
      readCondition classes (.token t r) =
        (Fault.shifted ((cs ++ [' '] ++ o ++ [' ']).length + 1) id (Expr.read text)).map fun e =>
          (.comparison left op (.value e), .eof stop) := by
  have htext : cs ++ [' '] ++ o ++ [' '] ++ [q.toChar] ++ text ++ [q.toChar] =
      cs ++ ' ' :: (o ++ ' ' :: q.toChar :: (text ++ [q.toChar])) := by simp
  have hlength : (cs ++ [' '] ++ o ++ [' ']).length = cs.length + 1 + o.length + 1 := by
    simp only [List.length_append, List.length_singleton]
  obtain ⟨t, r, hl, hcondition⟩ := readCondition_operator h hb ho
    (startsBlank_cons (c := ' ') rfl (q.toChar :: (text ++ [q.toChar])))
  obtain ⟨stop, hquoted⟩ := lexed_quoted hq (cs.length + 1 + o.length + 1)
  -- the region between the quotes is the text, moved behind the quote
  have hregion : Expr.readRegion (cs.length + 1 + o.length + 1 + 1) text =
      Fault.shifted (cs.length + 1 + o.length + 1 + 1) id (Expr.read text) := by
    have hshift := Expr.readRegion_shift (k := cs.length + 1 + o.length + 1 + 1) 0 text
    rwa [Nat.zero_add] at hshift
  rw [Lexed.skipBlanks_of_cons rfl, hquoted, Lexed.skipBlanks, if_neg (by simp [Token.isBlank]),
    ok_bind, readOperand_quoted hc, hregion] at hcondition
  refine ⟨t, r, stop, htext ▸ hl, ?_⟩
  rw [hcondition, hlength]
  cases Expr.read text <;> rfl

/-- Behind an operator that takes values, a quoted text is read as the expression that it is by itself,
and refused as it is refused by itself, only so many characters later. -/
theorem read_quoted_operand {q : Quote} {text : List Char} (h : read classes cs = .ok (alone left))
    (hb : Text.allBlank cs = false) (ho : op.Spells o) (hc : op.comparison ∉ [.type, .regex, .range])
    (hq : q.toChar ∉ text) :
    read classes (cs ++ [' '] ++ o ++ [' '] ++ [q.toChar] ++ text ++ [q.toChar]) =
      match Expr.read text with
      | .ok e => .ok (.comparison left op (.value e))
      | .error f => .error ⟨f.offset + (cs ++ [' '] ++ o ++ [' ']).length + 1, f.cause⟩ := by
  obtain ⟨t, r, stop, hl, hcondition⟩ := readCondition_quoted h hb ho hc hq
  cases hread : Expr.read text with
  | ok e =>
    rw [hread] at hcondition
    exact read_of_condition hl hcondition rfl
  | error f =>
    rw [hread] at hcondition
    exact read_of_condition_error hl hcondition

/-- A placeholder in quotes, and a quoted text that is not closed inside. -/
theorem read_quoted_operand_placeholder :
    read .empty ['$', '\x7b', 'x', '\x7d', ' ', '=', '=', ' ', '\'', '$', '\x7b', 'y', '\x7d', '\''] =
        .ok (comparison (.property (.literal "x")) ⟨.equal, false⟩
          (.value (.property (.literal "y")))) ∧
      read .empty ['$', '\x7b', 'x', '\x7d', ' ', '=', '=', ' ', '\'', 'a', '$', '\x7b', '\''] =
        .error ⟨11, .unclosedPlaceholder⟩ := by
  have hx : read .empty ['$', '\x7b', 'x', '\x7d'] = .ok (alone (.property (.literal "x"))) := by cbv
  have ho : Operator.Spells ⟨.equal, false⟩ ['=', '='] := .symbol (s := "==") (by simp [symbols])
  have hy : Expr.read ['$', '\x7b', 'y', '\x7d'] = .ok (.property (.literal "y")) := by cbv
  have ha : Expr.read ['a', '$', '\x7b'] = .error ⟨2, .unclosedPlaceholder⟩ := by cbv
  refine ⟨?_, ?_⟩
  · have h := read_quoted_operand hx rfl ho (by decide)
      (show Quote.single.toChar ∉ ['$', '\x7b', 'y', '\x7d'] by decide)
    rw [hy] at h
    exact h
  · have h := read_quoted_operand hx rfl ho (by decide)
      (show Quote.single.toChar ∉ ['a', '$', '\x7b'] by decide)
    rw [ha] at h
    exact h

/-! ## Operands that are texts -/

/-- No word that is plain text has a marker in it. -/
theorem hasMarker_of_word {offset : Nat} {word cs : List Char} {rest : Lexed}
    (h : Lexed.of .predicate offset cs = .token ⟨.literal, word, offset⟩ rest) :
    hasMarker word = false := by
  rw [Lexed.of_eq_lexed] at h
  obtain ⟨l', hscan, -, -⟩ := scan_of_lexed_token rfl h
  generalize hr : ((⟨.literal, word, offset⟩ : Token), l') = r at hscan
  cases cuts_of_scan hscan with
  | symbol _ _ _ _ hs =>
    cases hr
    rcases (takeSymbol?_eq_some hs).2.2 with ⟨_, hk⟩ | ⟨_, hk⟩ <;> cases hk
  | word _ _ _ _ _ hw =>
    cases hr
    obtain ⟨-, -, ⟨-, rfl⟩ | ⟨_, hk⟩ | ⟨_, hk⟩⟩ := classifyWord_spec hw
    · -- a word ends where a marker starts
      obtain ⟨-, -, hinside⟩ := takeUntil_spec endsWord cs
      refine hasMarker_eq_false_iff.2 fun u v huv => ?_
      rcases v with _ | ⟨c, v⟩
      · rfl
      · have hends := hinside u (c :: v) huv nofun
        rw [List.cons_append, endsWord, Bool.or_eq_false_iff] at hends
        exact startsMarker_of_append (u := c :: v) hends.2
    · cases hk
    · cases hk
  | text hmode => cases hmode
  | plain hmode => cases hmode
  | _ => cases hr

/-- How a text without a marker is written as an operand, and how many characters are in front of it then: it
is in quotes that do not stand in it, or a word that is plain text. -/
inductive Written (text : List Char) : List Char → Nat → Prop
  | quoted {q : Quote} (hq : q.toChar ∉ text) (hm : hasMarker text = false) :
    Written text (q.toChar :: (text ++ [q.toChar])) 1
  | word (h : Lexed.of .predicate 0 text = .token ⟨.literal, text, 0⟩ (.eof text.length)) :
    Written text text 0

variable {text written : List Char} {lead : Nat}

theorem Written.hasMarker (h : Written text written lead) : hasMarker text = false := by
  cases h with
  | quoted _ hm => exact hm
  | word h => exact hasMarker_of_word h

/-- What is written as an operand is one token with that text. -/
theorem Written.lexed (h : Written text written lead) (offset : Nat) :
    ∃ kind stop, kind.isText = true ∧ kind.opening.length = lead ∧
      Lexed.of .predicate offset written = .token ⟨kind, text, offset⟩ (.eof stop) := by
  cases h with
  | quoted hq =>
    obtain ⟨stop, hquoted⟩ := lexed_quoted hq offset
    exact ⟨_, stop, rfl, rfl, hquoted⟩
  | word h =>
    have hshift := Lexed.of_shift .predicate 0 offset text
    rw [h, Nat.zero_add] at hshift
    refine ⟨.literal, text.length + offset, rfl, rfl, ?_⟩
    rw [hshift, Lexed.shift, Token.shift, Nat.zero_add]
    rfl

/-- The readers of operands that are texts. -/
def textReaders (classes : ClassTable) : List (Comparison × (Token → Except Fault Operand)) :=
  [(.type, readType classes), (.range, readRange), (.regex, readPattern)]

variable {reader : Token → Except Fault Operand}

/-- A text without a marker is read by the reader of its comparison. -/
theorem readOperand_text {symbol t : Token} {stop : Nat}
    (hr : (op.comparison, reader) ∈ textReaders classes) (ht : t.kind.isText = true)
    (hm : hasMarker t.text = false) :
    readOperand classes op symbol (.token t (.eof stop)) = (reader t).map fun p => (p, .eof stop) := by
  obtain ⟨kind, text, start⟩ := t
  simp only [textReaders, List.mem_cons, Prod.mk.injEq, List.not_mem_nil, or_false] at hr
  have hkind : kind = .literal ∨ ∃ q, kind = .quoted q := by
    cases kind <;> cases ht
    · exact .inl rfl
    · exact .inr ⟨_, rfl⟩
  have hread : readOperand classes op symbol (.token ⟨kind, text, start⟩ (.eof stop)) =
      (do let right ← reader ⟨kind, text, start⟩; return (right, .eof stop)) := by
    rcases hkind with rfl | ⟨q, rfl⟩ <;> rcases hr with ⟨hc, rfl⟩ | ⟨hc, rfl⟩ | ⟨hc, rfl⟩ <;>
    · unfold readOperand
      simp only [hc, hm, Token.Kind.isText, if_true, Bool.not_false, Bool.and_self, Lexed.ready, ok_bind]
  rw [hread]
  cases reader ⟨kind, text, start⟩ <;> rfl

/-- Behind an operator that takes texts, the condition is what the reader makes of the text. -/
theorem read_text_operand (h : read classes cs = .ok (alone left)) (hb : Text.allBlank cs = false)
    (ho : op.Spells o) (hr : (op.comparison, reader) ∈ textReaders classes)
    (hw : Written text written lead) :
    ∃ t : Token, t.text = text ∧ t.start = (spaced cs o []).length ∧
      t.textStart = (spaced cs o []).length + lead ∧
      read classes (spaced cs o written) = (reader t).map fun right => .comparison left op right := by
  obtain ⟨t, r, hl, hcondition⟩ := readCondition_operator h hb ho
    (startsBlank_cons (c := ' ') rfl written)
  obtain ⟨kind, stop, hkind, rfl, hlexed⟩ := hw.lexed (cs.length + 1 + o.length + 1)
  have hblank : ¬ Token.isBlank ⟨kind, text, cs.length + 1 + o.length + 1⟩ = true := by
    cases kind <;> cases hkind <;> simp [Token.isBlank]
  rw [Lexed.skipBlanks_of_cons rfl, hlexed, Lexed.skipBlanks, if_neg hblank, ok_bind,
    readOperand_text hr hkind hw.hasMarker] at hcondition
  have hstart : cs.length + 1 + o.length + 1 = (spaced cs o []).length := (length_spaced cs o []).symm
  refine ⟨⟨kind, text, _⟩, rfl, hstart, by rw [← hstart]; rfl, ?_⟩
  cases hright : reader ⟨kind, text, cs.length + 1 + o.length + 1⟩ with
  | ok right =>
    rw [hright] at hcondition
    exact read_of_condition hl hcondition rfl
  | error f =>
    rw [hright] at hcondition
    exact read_of_condition_error hl hcondition

/-- The operand of a type check is the type that its text stands for. -/
theorem read_type_text (h : read classes cs = .ok (alone left)) (hb : Text.allBlank cs = false)
    (ho : op.Spells o) (hc : op.comparison = .type) (hw : Written text written lead) :
    read classes (spaced cs o written) =
      match classes.resolve? (String.ofList text) with
      | some type => .ok (.comparison left op (.type type))
      | none => .error ⟨(spaced cs o []).length, .unknownClass (String.ofList text)⟩ := by
  have hr : (op.comparison, readType classes) ∈ textReaders classes := by simp [textReaders, hc]
  obtain ⟨t, htext, hstart, -, hread⟩ := read_text_operand h hb ho hr hw
  rw [hread, readType, htext, hstart]
  cases classes.resolve? (String.ofList text) <;> rfl

/-- The name of a class is the operand of a type check, also where it is a word of an operator. -/
theorem read_type_operand {word : List Char} {type : ValueType}
    (h : read classes cs = .ok (alone left)) (hb : Text.allBlank cs = false) (ho : op.Spells o)
    (hc : op.comparison = .type)
    (hword : Lexed.of .predicate 0 word = .token ⟨.literal, word, 0⟩ (.eof word.length))
    (ht : classes.resolve? (String.ofList word) = some type) :
    read classes (spaced cs o word) = .ok (.comparison left op (.type type)) := by
  rw [read_type_text h hb ho hc (.word hword), ht]

/-! ## Operands that are placeholders -/

/-- A text that is read as a placeholder is one token of a predicate too, and that placeholder as a value. -/
theorem readValue_of_block {block : List Char} {e : Expr} (h : Expr.read block = .ok e)
    (he : e.isPlaceholder = true) (offset : Nat) :
    ∃ m body stop, Lexed.of .predicate offset block =
        .token ⟨.placeholder m, body, offset⟩ (.eof stop) ∧
      readValue (.token ⟨.placeholder m, body, offset⟩ (.eof stop)) = .ok (e, .eof stop) := by
  obtain ⟨m, body, rfl, hblock, hread⟩ := Expr.eq_block_of_read h he
  have hscan : (Lexer.start .predicate offset (m.chars ++ (body ++ ['\x7d']))).scan =
      .ok ((Lexer.start .predicate offset _).emit (.placeholder m) body []) :=
    scan_block rfl rfl hblock
  obtain ⟨stop, hlexed⟩ := lexed_of_whole (by simp) hscan
  -- where the block stands makes no difference
  have hmoved := Expr.readBlock_shift (k := offset) ⟨.placeholder m, body, 0⟩ rfl
  rw [hread, Token.shift, Nat.zero_add] at hmoved
  have hparts : readParts (.token ⟨.placeholder m, body, offset⟩ (.eof stop)) = .ok ([e], .eof stop) := by
    rw [readParts_placeholder rfl, hmoved]
    rfl
  exact ⟨m, body, stop, hlexed, readValue_of_parts (.inl ⟨m, rfl⟩) hparts⟩

/-- Behind an operator that takes no type, a placeholder is read as it is read by itself. -/
theorem read_block_operand {block : List Char} {e : Expr} (h : read classes cs = .ok (alone left))
    (hb : Text.allBlank cs = false) (ho : op.Spells o) (hc : op.comparison ≠ .type)
    (hblock : Expr.read block = .ok e) (he : e.isPlaceholder = true) :
    read classes (spaced cs o block) = .ok (.comparison left op (.value e)) := by
  obtain ⟨t, r, hl, hcondition⟩ := readCondition_operator h hb ho
    (startsBlank_cons (c := ' ') rfl block)
  obtain ⟨m, body, stop, hlexed, hvalue⟩ := readValue_of_block hblock he (cs.length + 1 + o.length + 1)
  have hoperand {symbol : Token} : readOperand classes op symbol
      (.token ⟨.placeholder m, body, cs.length + 1 + o.length + 1⟩ (.eof stop)) =
      .ok (.value e, .eof stop) := by
    unfold readOperand
    simp only [hvalue]
    cases hop : op.comparison <;> first | rfl | exact absurd hop hc
  rw [Lexed.skipBlanks_of_cons rfl, hlexed, Lexed.skipBlanks, if_neg (by simp [Token.isBlank]),
    ok_bind, hoperand] at hcondition
  exact read_of_condition hl hcondition rfl

end Predicate

end RouteExpr
