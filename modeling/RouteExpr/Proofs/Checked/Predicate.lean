/-
Reading predicates with each index checked.

The reader of predicates holds a cursor and the token before it, and stands for the tokens from that
one on. Each of its readings mirrors the plain one on those tokens: none is out of range, and a fault
is found within the text, at a token, at its first character, or in the text between its quotes.
-/
import RouteExpr.Proofs.Checked.Bytes
import RouteExpr.Proofs.Predicate.Condition

namespace RouteExpr.Checked

open RouteExpr.Expr (stepped)
open RouteExpr.Predicate (alone attach hasMarker part_cases)

/-! ## Tokens in front of a cursor -/

/-- A token and the cursor behind it. -/
structure State where
  cursor : Cursor
  current : Cut

namespace State

/-- The first token at a cursor. -/
def start (c : Cursor) : Checked State :=
  c.next.map fun (cut, c) => ⟨c, cut⟩

/-- Goes on to the next token, and gives the one that was current. -/
def advance (st : State) : Checked (Cut × State) :=
  (start st.cursor).map fun next => (st.current, next)

/-- Goes on to a token that is no run of blanks, in fewer than so many steps. -/
def skipBlanks : Nat → State → Checked State
  | 0, _ => .error .unreachable
  | n + 1, st =>
    if st.current.token.isBlank then do
      let (_, st) ← st.advance
      st.skipBlanks n
    else return st

/-- Goes past the suffix of a placeholder. -/
def takeSuffix (st : State) : Checked (Option Step × State) :=
  match st.current.token.kind with
  | .suffix s => st.advance.map fun (_, st) => (some s, st)
  | _ => return (none, st)

end State

/-! ## Values -/

/-- The fault of a token that cannot stand where it does. -/
def unexpected {α : Type} (text : String) (cut : Cut) : Checked α :=
  fail text cut.faultOffset (.unexpectedToken (String.ofList cut.token.text))

/-- Placeholders and quoted texts that stand side by side, fewer than so many. -/
def readParts (text : String) : Nat → State → Checked (List Expr × State)
  | 0, _ => .error .unreachable
  | n + 1, st =>
    match st.current.token.kind with
    | .placeholder _ => do
      let (cut, st) ← st.advance
      let node ← readBlock text cut
      let (suffix, st) ← st.takeSuffix
      let (parts, st) ← readParts text n st
      return (stepped suffix node :: parts, st)
    | .quoted _ => do
      let (cut, st) ← st.advance
      let stop ← minus cut.stop 1
      let node ← readRegion text (cut.token.start + 1) stop
      let (parts, st) ← readParts text n st
      return (node :: parts, st)
    | _ => return ([], st)

/-- Placeholders and quoted texts that stand side by side, as one expression. -/
def readJoined (text : String) (st : State) : Checked (Expr × State) := do
  let (parts, st) ← readParts text (text.length + 1) st
  let e ← joinParts parts
  return (e, st)

/-- A value: a single bare word, or placeholders and quoted texts side by side. -/
def readValue (text : String) (st : State) : Checked (Expr × State) :=
  match st.current.token.kind with
  | .eof => fail text st.current.token.start .missingValue
  | .literal => do
    let (word, st) ← st.advance
    match ← readWord? word.token.text with
    | some e => return (e, st)
    | none => unexpected text word
  | .placeholder _ => readJoined text st
  | .quoted _ => readJoined text st
  | _ => unexpected text st.current

/-! ## Operands -/

/-- A pattern that is written out. -/
def readPattern (text : String) (cut : Cut) : Checked Operand :=
  let source := String.ofList cut.token.text
  match Pattern.compile? source with
  | some p => return .pattern p
  | none => fail text (contentStart cut) (.invalidPattern source)

/-- A class name as a type. -/
def readType (text : String) (classes : ClassTable) (cut : Cut) : Checked Operand :=
  let name := String.ofList cut.token.text
  match classes.resolve? name with
  | some type => return .type type
  | none => fail text cut.token.start (.unknownClass name)

/-- An operand that is one token. -/
def readSingle (read : Cut → Checked Operand) (st : State) : Checked (Operand × State) := do
  let (cut, st) ← st.advance
  let operand ← read cut
  return (operand, st)

/-- The operand of an operator, where a token stands that may be one. -/
def operandAt (text : String) (classes : ClassTable) (op : Operator) (symbol : Cut) (st : State) :
    Checked (Operand × State) :=
  let cut := st.current
  let value : Checked (Operand × State) :=
    (readValue text st).map fun (e, st) => (.value e, st)
  match op.comparison with
  | .type =>
    if cut.token.kind.isText then readSingle (readType text classes) st
    else
      fail text cut.token.start
        (.operatorBefore (String.ofList symbol.token.text) (String.ofList cut.token.text))
  | .range => if cut.token.kind.isText then readSingle (readRange text) st else value
  | .regex =>
    if cut.token.kind.isText && !hasMarker cut.token.text then readSingle (readPattern text) st
    else value
  | _ => value

/-- The operand of an operator, `symbol` being the operator as written. -/
def readOperand (text : String) (classes : ClassTable) (op : Operator) (symbol : Cut) (st : State) :
    Checked (Operand × State) :=
  let cut := st.current
  let name := String.ofList symbol.token.text
  match cut.token.kind with
  | .eof => fail text symbol.faultOffset (.operatorAtEnd name)
  | .connective _ => fail text symbol.faultOffset (.operatorAtEnd name)
  | .operator _ => fail text cut.faultOffset (.operatorBefore name (String.ofList cut.token.text))
  | _ => operandAt text classes op symbol st

/-! ## Conditions -/

/-- What a condition makes of its left side and the tokens behind it. -/
def afterLeft (text : String) (classes : ClassTable) (left : Expr) (st : State) :
    Checked (Predicate × State) :=
  match st.current.token.kind with
  | .operator op => do
    let (symbol, st) ← st.advance
    let st ← st.skipBlanks (text.length + 1)
    let (right, st) ← readOperand text classes op symbol st
    return (.comparison left op right, st)
  | _ => return (alone left, st)

/-- A value alone, or with an operator and its operand. -/
def readCondition (text : String) (classes : ClassTable) (st : State) : Checked (Predicate × State) :=
  let cut := st.current
  match cut.token.kind with
  | .operator _ => fail text cut.faultOffset (.operatorAtStart (String.ofList cut.token.text))
  | .connective _ => fail text cut.faultOffset (.connectiveAtStart (String.ofList cut.token.text))
  | _ => do
    let (left, st) ← readValue text st
    let st ← st.skipBlanks (text.length + 1)
    afterLeft text classes left st

/-- Checks that a condition can start after a connective. -/
def checkAfter (text : String) (connective : Cut) (st : State) : Checked Unit :=
  let cut := st.current
  let name := String.ofList connective.token.text
  let refuse : Checked Unit :=
    fail text cut.faultOffset (.connectiveBefore name (String.ofList cut.token.text))
  match cut.token.kind with
  | .eof => fail text connective.faultOffset (.connectiveAtEnd name)
  | .connective _ => refuse
  | .operator _ => refuse
  | _ => return ()

/-! ## Chains -/

/-- The groups of conditions that a text holds, at most so many conditions and one. -/
def readChain (text : String) (classes : ClassTable) : Nat → State → Checked (List (List Predicate))
  | bound, st => do
    let (p, st) ← readCondition text classes st
    let st ← st.skipBlanks (text.length + 1)
    match st.current.token.kind with
    | .eof => return [[p]]
    | .connective c =>
      match bound with
      | 0 => .error .unreachable
      | n + 1 => do
        let (connective, st) ← st.advance
        let st ← st.skipBlanks (text.length + 1)
        checkAfter text connective st
        let groups ← readChain text classes n st
        return attach p c groups
    | _ => unexpected text st.current

/-- Predicates under a way to join them; a single one is itself. -/
def collapse (join : List Predicate → Predicate) (ps : List Predicate) : Checked Predicate :=
  if ps.length = 1 then item ps 0 else return join ps

/-- Groups of conditions as one predicate. -/
def ofGroups (groups : List (List Predicate)) : Checked Predicate := do
  let ps ← groups.mapM (collapse .all)
  collapse .any ps

/-- A text as a predicate. -/
def readPredicate (classes : ClassTable) (text : String) : Checked Predicate := do
  let st ← State.start (.slice .predicate text 0 text.length)
  let st ← st.skipBlanks (text.length + 1)
  match st.current.token.kind with
  | .eof => return .constant false
  | _ => readChain text classes (text.length + 1) st >>= ofGroups

/-! ## Tokens in front of a cursor, mirrored -/

/-- A token with the cursor behind it stands for tokens of a text. -/
inductive Tracks (text : String) : State → Lexed → Prop where
  | eof {c : Cursor} {offset : Nat} (h : offset ≤ text.length) :
    Tracks text ⟨c, .of ⟨.eof, [], offset⟩⟩ (.eof offset)
  | token {c : Cursor} {t : Token} {rest : Lexed} (hc : c.Reads text rest)
    (ht : t.Fits text.toList text.length) (hrest : rest.Fits text.toList text.length)
    (hsize : rest.size < text.length) : Tracks text ⟨c, .of t⟩ (.token t rest)

variable {text : String} {st : State} {x rest : Lexed} {t : Token} {c : Cursor}

theorem Tracks.size_le (h : Tracks text st x) : x.size ≤ text.length := by
  cases h with
  | eof => exact Nat.zero_le _
  | token hc ht hrest hsize => exact hsize

theorem Tracks.current (h : Tracks text st (.token t rest)) : st.current = .of t := by
  cases h
  rfl

theorem Tracks.fits (h : Tracks text st (.token t rest)) : t.Fits text.toList text.length := by
  cases h
  assumption

theorem start_mirrors (hc : c.Reads text x) (hx : x.Fits text.toList text.length)
    (hsize : x.size ≤ text.length) :
    Mirrors text (fun st y => Tracks text st y ∧ y = x) (State.start c) x.ready := by
  rw [State.start]
  rcases x with offset | f | ⟨t, rest⟩
  · obtain ⟨c', hnext⟩ := hc.next_eof
    rw [hnext]
    refine .ok ⟨.eof ?_, rfl⟩
    rw [← String.length_toList]
    exact hx
  · obtain ⟨hnext, hf⟩ := hc.next_fault
    rw [hnext]
    exact .fault hf
  · obtain ⟨c', hnext, hrest⟩ := hc.next_token
    rw [hnext]
    exact .ok ⟨.token hrest hx.1 hx.2 hsize, rfl⟩

theorem advance_mirrors (h : Tracks text st (.token t rest)) :
    Mirrors text (fun r y => r.1 = .of t ∧ Tracks text r.2 y ∧ y = rest) st.advance rest.ready := by
  cases h with
  | token hc ht hrest hsize =>
    have hmap : rest.ready = rest.ready.map id := by cases rest <;> rfl
    rw [State.advance, hmap]
    exact (start_mirrors hc hrest (Nat.le_of_lt hsize)).map fun _ _ hst => ⟨rfl, hst⟩

theorem skipBlanks_ready (x : Lexed) : x.skipBlanks = x.ready >>= Lexed.skipBlanks := by
  cases x <;> rfl

theorem skipBlanks_mirrors (n : Nat) (h : Tracks text st x) (hn : x.size < n) :
    Mirrors text (Tracks text) (st.skipBlanks n) x.skipBlanks := by
  induction n generalizing st x with
  | zero => exact absurd hn (Nat.not_lt_zero _)
  | succ n ih =>
    rw [State.skipBlanks]
    rcases x with offset | f | ⟨t, rest⟩
    · cases h with
      | eof ho => exact .ok (.eof ho)
    · cases h
    · have hcurrent := h.current
      rw [Lexed.size] at hn
      rw [Lexed.skipBlanks, hcurrent, Cut.of_token]
      by_cases hb : t.isBlank = true
      · rw [if_pos hb, if_pos hb, skipBlanks_ready]
        refine (advance_mirrors h).bind fun r y hry => ?_
        obtain ⟨-, hst, rfl⟩ := hry
        exact ih hst (by omega)
      · rw [if_neg hb, if_neg hb]
        exact .ok h

theorem suffix_mirrors (h : Tracks text st x) :
    Mirrors text (fun r y => r.1 = x.takeSuffix.1 ∧ Tracks text r.2 y ∧ y = x.takeSuffix.2)
      st.takeSuffix x.takeSuffix.2.ready := by
  rcases x with offset | f | ⟨⟨kind, chars, start⟩, rest⟩
  · cases h with
    | eof ho => exact .ok ⟨rfl, .eof ho, rfl⟩
  · cases h
  · have hcurrent := h.current
    rw [State.takeSuffix, hcurrent, Cut.of_token]
    cases kind with
    | suffix s => exact (advance_mirrors h).map_left fun _ _ hr => ⟨rfl, hr.2⟩
    | _ => exact .ok ⟨rfl, h, rfl⟩

/-! ## Values, mirrored -/

/-- What is read, and the tokens that are left. -/
def SameRest {α : Type} (text : String) (r : α × State) (s : α × Lexed) : Prop :=
  r.1 = s.1 ∧ Tracks text r.2 s.2

theorem unexpected_mirrors {α β : Type} {r : α → β → Prop} {most : Nat}
    (ht : t.Fits text.toList most) :
    Mirrors text r (unexpected text (.of t)) (Predicate.unexpected t) := by
  have hle := ht.faultOffset_le
  exact .error hle

theorem readParts_ready (x : Lexed) :
    Predicate.readParts x = x.ready >>= Predicate.readParts := by
  cases x <;> rfl

theorem readParts_mirrors (n : Nat) (h : Tracks text st x) (hn : x.size < n) :
    Mirrors text (SameRest text) (readParts text n st) (Predicate.readParts x) := by
  induction n generalizing st x with
  | zero => exact absurd hn (Nat.not_lt_zero _)
  | succ n ih =>
    rw [readParts]
    rcases x with offset | f | ⟨t, rest⟩
    · cases h with
      | eof ho => exact .ok ⟨rfl, .eof ho⟩
    · cases h
    · have hcurrent := h.current
      have ht := h.fits
      have hsuffix := rest.size_takeSuffix
      rw [Lexed.size] at hn
      rw [hcurrent, Cut.of_token]
      rcases part_cases t.kind with ⟨m, hm⟩ | ⟨q, hq⟩ | ⟨hm, hq⟩
      · rw [Predicate.readParts_placeholder hm, readParts_ready rest.takeSuffix.2, hm]
        refine (advance_mirrors h).bind ?_
        rintro ⟨_, st'⟩ _ ⟨rfl, hst, rfl⟩
        refine (readBlock_mirrors text _ t (by rw [hm]; rfl) ht).bind ?_
        rintro node _ rfl
        rw [bind_assoc]
        refine (suffix_mirrors hst).bind ?_
        rintro ⟨_, st''⟩ _ ⟨rfl, hst', rfl⟩
        refine (ih hst' (by omega)).bind ?_
        rintro ⟨_, st₃⟩ ⟨parts, y⟩ ⟨rfl, hst₃⟩
        exact .ok ⟨rfl, hst₃⟩
      · obtain ⟨hminus, hstart⟩ := minus_stop_quoted hq
        rw [Predicate.readParts_quoted hq, hq]
        refine (advance_mirrors h).bind ?_
        rintro ⟨_, st'⟩ _ ⟨rfl, hst, rfl⟩
        dsimp only
        rw [hminus, ok_bind, Cut.of_token, hstart]
        refine (readRegion_mirrors ht.partAt_text rfl).bind ?_
        rintro node _ rfl
        refine (ih hst (by omega)).bind ?_
        rintro ⟨_, st''⟩ ⟨parts, y⟩ ⟨rfl, hst'⟩
        exact .ok ⟨rfl, hst'⟩
      · rw [Predicate.readParts_other hm hq]
        split
        · rename_i m h'; exact absurd h' (hm m)
        · rename_i q h'; exact absurd h' (hq q)
        · exact .ok ⟨rfl, h⟩

theorem readJoined_mirrors (h : Tracks text st x) :
    Mirrors text (SameRest text) (readJoined text st)
      ((Predicate.readParts x).map fun (parts, l) => (.join parts, l)) := by
  have hparts := readParts_mirrors (text.length + 1) h (by have := h.size_le; omega)
  rw [readJoined]
  rcases hparts.cases with ⟨⟨_, st'⟩, ⟨parts, y⟩, hr, hp, rfl, hst⟩ | ⟨f, hr, hp, hf⟩ <;> rw [hr, hp]
  · dsimp only
    rw [ok_bind, joinParts_eq]
    exact .ok ⟨rfl, hst⟩
  · exact .fault hf

theorem readValue_mirrors (h : Tracks text st x) :
    Mirrors text (SameRest text) (readValue text st) (Predicate.readValue x) := by
  have hsize := h.size_le
  rcases x with offset | f | ⟨t, rest⟩
  · cases h with
    | eof ho => exact .error ho
  · cases h
  · have hcurrent := h.current
    have ht := h.fits
    have hjoined := readJoined_mirrors h
    rw [readValue, Predicate.readValue, hcurrent, Cut.of_token]
    split
    · rename_i hk; exact absurd hk ht.ne_eof
    · rename_i hk
      rw [hk]
      refine (advance_mirrors h).bind ?_
      rintro ⟨_, st'⟩ _ ⟨rfl, hst, rfl⟩
      dsimp only
      rw [Cut.of_token, readWord?_eq, ok_bind]
      rcases Predicate.readWord? t.text with _ | e
      · exact unexpected_mirrors ht
      · exact .ok ⟨rfl, hst⟩
    · rename_i m hk
      rw [hk]
      exact hjoined
    · rename_i q hk
      rw [hk]
      exact hjoined
    · rename_i h1 h2 h3 h4
      split
      · rename_i hk; exact absurd hk h2
      · rename_i m hk; exact absurd hk (h3 m)
      · rename_i q hk; exact absurd hk (h4 q)
      · exact unexpected_mirrors ht

/-! ## Operands, mirrored -/

theorem readPattern_mirrors {most : Nat} (ht : t.Fits text.toList most) (hk : t.kind.isText = true) :
    Mirrors text Eq (readPattern text (.of t)) (Predicate.readPattern t) := by
  have hle := ht.partAt_text.le_length
  unfold readPattern Predicate.readPattern
  rw [contentStart_eq hk, Cut.of_token]
  dsimp only
  rcases Pattern.compile? (String.ofList t.text) with _ | p
  · exact .error (by omega)
  · exact .ok rfl

theorem readType_mirrors {most : Nat} (classes : ClassTable) (ht : t.Fits text.toList most) :
    Mirrors text Eq (readType text classes (.of t)) (Predicate.readType classes t) := by
  have hle := ht.partAt.le_length
  rw [readType, Predicate.readType, Cut.of_token]
  rcases classes.resolve? (String.ofList t.text) with _ | type
  · exact .error (by omega)
  · exact .ok rfl

/-- `operandAt` on tokens. -/
def plainOperandAt (classes : ClassTable) (op : Operator) (symbol t : Token) (rest : Lexed) :
    Except Fault (Operand × Lexed) :=
  let single (read : Token → Except Fault Operand) : Except Fault (Operand × Lexed) := do
    let rest ← rest.ready
    return (← read t, rest)
  let value : Except Fault (Operand × Lexed) :=
    (Predicate.readValue (.token t rest)).map fun (e, rest) => (.value e, rest)
  match op.comparison with
  | .type =>
    if t.kind.isText then single (Predicate.readType classes)
    else .error ⟨t.start, .operatorBefore (String.ofList symbol.text) (String.ofList t.text)⟩
  | .range => if t.kind.isText then single Predicate.readRange else value
  | .regex => if t.kind.isText && !hasMarker t.text then single Predicate.readPattern else value
  | _ => value

theorem readOperand_eq (classes : ClassTable) (op : Operator) (symbol t : Token) (rest : Lexed)
    (hc : ∀ c, t.kind ≠ .connective c) (ho : ∀ o, t.kind ≠ .operator o) :
    Predicate.readOperand classes op symbol (.token t rest) =
      plainOperandAt classes op symbol t rest := by
  obtain ⟨kind, chars, start⟩ := t
  cases kind with
  | connective c => exact absurd rfl (hc c)
  | operator o => exact absurd rfl (ho o)
  | _ => rfl

theorem readSingle_mirrors {read : Cut → Checked Operand} {plain : Token → Except Fault Operand}
    (h : Tracks text st (.token t rest)) (hread : Mirrors text Eq (read (.of t)) (plain t)) :
    Mirrors text (SameRest text) (readSingle read st)
      (do let rest ← rest.ready; return (← plain t, rest)) := by
  refine (advance_mirrors h).bind ?_
  rintro ⟨_, st'⟩ _ ⟨rfl, hst, rfl⟩
  refine hread.bind ?_
  rintro operand _ rfl
  exact .ok ⟨rfl, hst⟩

theorem operandAt_mirrors (classes : ClassTable) (op : Operator) (symbol : Token)
    (h : Tracks text st (.token t rest)) :
    Mirrors text (SameRest text) (operandAt text classes op (.of symbol) st)
      (plainOperandAt classes op symbol t rest) := by
  have hcurrent := h.current
  have ht := h.fits
  have hstart := ht.partAt.le_length
  have hvalue := (readValue_mirrors h).map (s := SameRest text)
    (f := fun p => (Operand.value p.1, p.2)) (g := fun p => (Operand.value p.1, p.2))
    fun r y hry => ⟨congrArg Operand.value hry.1, hry.2⟩
  unfold operandAt plainOperandAt
  dsimp only
  rw [hcurrent, Cut.of_token, Cut.of_token]
  cases op.comparison with
  | type =>
    dsimp only
    split
    · refine readSingle_mirrors h ?_
      exact readType_mirrors classes ht
    · exact .error (by omega)
  | range =>
    dsimp only
    split
    · rename_i hk
      refine readSingle_mirrors h ?_
      exact readRange_mirrors ht hk
    · exact hvalue
  | regex =>
    dsimp only
    split
    · rename_i hk
      rw [Bool.and_eq_true] at hk
      refine readSingle_mirrors h ?_
      exact readPattern_mirrors ht hk.1
    · exact hvalue
  | _ => exact hvalue

theorem readOperand_mirrors (classes : ClassTable) (op : Operator) {symbol : Token} {most : Nat}
    (hs : symbol.Fits text.toList most) (h : Tracks text st x) :
    Mirrors text (SameRest text) (readOperand text classes op (.of symbol) st)
      (Predicate.readOperand classes op symbol x) := by
  have hsymbol := hs.faultOffset_le
  rcases x with offset | f | ⟨t, rest⟩
  · cases h with
    | eof ho => exact .error hsymbol
  · cases h
  · have hcurrent := h.current
    have ht := h.fits
    have hfault := ht.faultOffset_le
    rw [readOperand, hcurrent, Cut.of_token]
    split
    · rename_i hk; exact absurd hk ht.ne_eof
    · rename_i c hk
      rw [Predicate.readOperand, hk]
      exact .error hsymbol
    · rename_i o hk
      rw [Predicate.readOperand, hk]
      exact .error hfault
    · rename_i h1 h2 h3
      rw [readOperand_eq classes op symbol t rest h2 h3]
      exact operandAt_mirrors classes op symbol h

/-! ## Conditions, mirrored -/

theorem afterLeft_mirrors (classes : ClassTable) (left : Expr) (h : Tracks text st x) :
    Mirrors text (SameRest text) (afterLeft text classes left st)
      (Predicate.afterLeft classes left x) := by
  have hsize := h.size_le
  rcases x with offset | f | ⟨⟨kind, chars, start⟩, rest⟩
  · cases h with
    | eof ho => exact .ok ⟨rfl, .eof ho⟩
  · cases h
  · have hcurrent := h.current
    have ht := h.fits
    rw [afterLeft, hcurrent, Cut.of_token]
    cases kind with
    | operator op =>
      rw [Predicate.afterLeft, skipBlanks_ready, bind_assoc]
      refine (advance_mirrors h).bind ?_
      rintro ⟨_, st'⟩ _ ⟨rfl, hst, rfl⟩
      refine (skipBlanks_mirrors _ hst (by have := hst.size_le; omega)).bind fun st'' y hst' => ?_
      refine (readOperand_mirrors classes op ht hst').bind ?_
      rintro ⟨_, st₃⟩ ⟨right, z⟩ ⟨rfl, hst₃⟩
      exact .ok ⟨rfl, hst₃⟩
    | _ => exact .ok ⟨rfl, h⟩

theorem readCondition_mirrors (classes : ClassTable) (h : Tracks text st x) :
    Mirrors text (SameRest text) (readCondition text classes st)
      (Predicate.readCondition classes x) := by
  -- a condition that starts with a value
  have hvalue (hx : ∀ t rest, x = .token t rest →
      (∀ op, t.kind ≠ .operator op) ∧ ∀ c, t.kind ≠ .connective c) :
      Mirrors text (SameRest text)
        (do
          let (left, st) ← readValue text st
          let st ← st.skipBlanks (text.length + 1)
          afterLeft text classes left st)
        (Predicate.readCondition classes x) := by
    rw [Predicate.readCondition_eq classes hx]
    refine (readValue_mirrors h).bind ?_
    rintro ⟨_, st'⟩ ⟨left, y⟩ ⟨rfl, hst⟩
    refine (skipBlanks_mirrors _ hst (by have := hst.size_le; omega)).bind fun st'' z hst' => ?_
    exact afterLeft_mirrors classes _ hst'
  rcases x with offset | f | ⟨t, rest⟩
  · cases h with
    | eof ho => exact hvalue nofun
  · cases h
  · have hcurrent := h.current
    have ht := h.fits
    have hfault := ht.faultOffset_le
    rw [readCondition, hcurrent, Cut.of_token]
    split
    · rename_i op hk
      rw [Predicate.readCondition, hk]
      exact .error hfault
    · rename_i c hk
      rw [Predicate.readCondition, hk]
      exact .error hfault
    · rename_i h1 h2
      refine hvalue ?_
      rintro _ _ ⟨⟩
      exact ⟨h1, h2⟩

theorem checkAfter_mirrors {connective : Token} {most : Nat}
    (hc : connective.Fits text.toList most) (h : Tracks text st x) :
    Mirrors text Eq (checkAfter text (.of connective) st) (Predicate.checkAfter connective x) := by
  have hconnective := hc.faultOffset_le
  rcases x with offset | f | ⟨⟨kind, chars, start⟩, rest⟩
  · cases h with
    | eof ho => exact .error hconnective
  · cases h
  · have hcurrent := h.current
    have ht := h.fits
    have hfault := ht.faultOffset_le
    rw [checkAfter, hcurrent, Cut.of_token]
    cases kind with
    | eof => exact absurd rfl ht.ne_eof
    | connective c => exact .error hfault
    | operator op => exact .error hfault
    | _ => exact .ok rfl

/-! ## Chains, mirrored -/

theorem readChain_mirrors (classes : ClassTable) (n : Nat) {m : Nat} (h : Tracks text st x)
    (hn : x.size ≤ n) (hm : x.size ≤ m) :
    Mirrors text Eq (readChain text classes n st) (Predicate.readChain classes m x) := by
  induction n using Nat.strong_induction_on generalizing m st x with
  | _ n ih =>
    unfold readChain Predicate.readChain
    refine (readCondition_mirrors classes h).bind_of ?_
    rintro ⟨p, st'⟩ ⟨_, y⟩ hp ⟨rfl, hst⟩
    refine (skipBlanks_mirrors _ hst (by have := hst.size_le; omega)).bind_of fun st'' z hz hst' => ?_
    have hsize := Nat.le_trans (Lexed.size_skipBlanks hz) (Predicate.readCondition_size hp)
    rcases z with offset | f | ⟨t, after⟩
    · cases hst' with
      | eof ho => exact .ok rfl
    · cases hst'
    · have hcurrent := hst'.current
      have ht := hst'.fits
      rw [Lexed.size] at hsize
      -- a token is left, so the bounds are not at their ends
      obtain ⟨k, rfl⟩ : ∃ k, n = k + 1 := ⟨n - 1, by omega⟩
      obtain ⟨j, rfl⟩ : ∃ j, m = j + 1 := ⟨m - 1, by omega⟩
      rw [hcurrent, Cut.of_token]
      dsimp only
      split
      · rename_i hk; exact absurd hk ht.ne_eof
      · rename_i c hk
        rw [hk, skipBlanks_ready]
        dsimp only
        rw [bind_assoc]
        refine (advance_mirrors hst').bind ?_
        rintro ⟨_, st₃⟩ _ ⟨rfl, hst₃, rfl⟩
        refine (skipBlanks_mirrors _ hst₃ (by have := hst₃.size_le; omega)).bind_of
          fun st₄ next hnext hst₄ => ?_
        have hnext := Lexed.size_skipBlanks hnext
        refine (checkAfter_mirrors ht hst₄).bind fun _ _ _ => ?_
        refine (ih k (by omega) hst₄ (by omega) (by omega)).bind ?_
        rintro groups _ rfl
        exact .ok rfl
      · rename_i h1 h2
        split
        · rename_i c hk; exact absurd hk (h2 c)
        · exact unexpected_mirrors ht

theorem collapse_eq (join : List Predicate → Predicate) :
    ∀ ps : List Predicate, collapse join ps = .ok (Predicate.collapse join ps)
  | [] => rfl
  | [_] => rfl
  | _ :: _ :: _ => rfl

theorem mapM_collapse (join : List Predicate → Predicate) (groups : List (List Predicate)) :
    groups.mapM (collapse join) = .ok (groups.map (Predicate.collapse join)) := by
  induction groups with
  | nil => rfl
  | cons group groups ih => rw [List.mapM_cons, collapse_eq, ok_bind, ih]; rfl

theorem ofGroups_eq (groups : List (List Predicate)) :
    ofGroups groups = .ok (Predicate.ofGroups groups) := by
  rw [ofGroups, mapM_collapse, ok_bind, collapse_eq, Predicate.ofGroups]

/-- A text is read as the same predicate, or has the same fault. -/
theorem readPredicate_mirrors (classes : ClassTable) (text : String) :
    Mirrors text Eq (readPredicate classes text) (Predicate.read classes text.toList) := by
  have hr := partAt_self text.toList
  have hsize := Lexed.size_of .predicate 0 text.toList
  have hfits : (Lexed.of .predicate 0 text.toList).Fits text.toList text.toList.length :=
    Lexed.fits_of hr
  have hlen : 0 + text.toList.length = text.length := by rw [Nat.zero_add, String.length_toList]
  have hreads := Cursor.reads_slice .predicate hr hlen
  rw [String.length_toList] at hsize hfits
  rw [readPredicate, Predicate.read, skipBlanks_ready, bind_assoc]
  refine (start_mirrors hreads hfits hsize).bind ?_
  rintro st _ ⟨hst, rfl⟩
  refine (skipBlanks_mirrors _ hst (by omega)).bind fun st' x hst' => ?_
  have hx := hst'.size_le
  rcases x with offset | f | ⟨t, rest⟩
  · cases hst' with
    | eof ho => exact .ok rfl
  · cases hst'
  · have hcurrent := hst'.current
    have ht := hst'.fits
    rw [hcurrent, Cut.of_token]
    split
    · rename_i hk; exact absurd hk ht.ne_eof
    · refine (readChain_mirrors classes _ hst' (by omega) (Nat.le_refl _)).bind ?_
      rintro groups _ rfl
      rw [ofGroups_eq]
      exact .ok rfl

end RouteExpr.Checked
