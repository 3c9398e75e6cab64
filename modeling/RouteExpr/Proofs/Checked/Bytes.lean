/-
Texts that are cut at bytes, with each index checked.

A search in a text finds a byte, and the text is sliced there; the byte has to be one at which a
character starts. The byte of the first place with a property is one, and slicing there is cutting
the list of characters at that place. So the bounds of a range and the parts of a numeral are found
as in the plain readings.
-/
import RouteExpr.Proofs.Checked.Expr
import RouteExpr.Proofs.Number.Numeral

namespace RouteExpr.Checked

open Lexer (takeUntil)

/-! ## Bytes of texts -/

/-- How many bytes characters take. -/
def byteSize (cs : List Char) : Nat :=
  (cs.map Char.utf8Size).sum

/-- The characters before a byte and those from it on. -/
def splitAtByte : List Char → Nat → Checked (List Char × List Char)
  | cs, 0 => return ([], cs)
  | [], _ + 1 => .error .outOfRange
  | c :: cs, n + 1 => do
    let left ← minus (n + 1) c.utf8Size
    let (before, after) ← splitAtByte cs left
    return (c :: before, after)

/-- The byte at which the first rest of a text with a property begins. -/
def byteWhere? (p : List Char → Bool) : List Char → Option Nat
  | [] => none
  | c :: cs => if p (c :: cs) then some 0 else (byteWhere? p cs).map (c.utf8Size + ·)

theorem byteSize_cons (c : Char) (cs : List Char) :
    byteSize (c :: cs) = c.utf8Size + byteSize cs := by
  rw [byteSize, List.map_cons, List.sum_cons, byteSize]

theorem byteSize_append (cs ds : List Char) : byteSize (cs ++ ds) = byteSize cs + byteSize ds := by
  rw [byteSize, List.map_append, List.sum_append, byteSize, byteSize]

/-- A text is cut between any two characters. -/
theorem splitAtByte_append (cs ds : List Char) :
    splitAtByte (cs ++ ds) (byteSize cs) = .ok (cs, ds) := by
  induction cs with
  | nil => cases ds <;> rfl
  | cons c cs ih =>
    obtain ⟨n, hn⟩ : ∃ n, c.utf8Size + byteSize cs = n + 1 :=
      ⟨c.utf8Size + byteSize cs - 1, by have := c.utf8Size_pos; omega⟩
    rw [byteSize_cons, hn, List.cons_append, splitAtByte, ← hn, Nat.add_comm, minus_add, ok_bind, ih]
    rfl

/-- The byte that is found is the one where the text is cut. -/
theorem byteWhere?_eq (p : List Char → Bool) (cs : List Char) :
    byteWhere? p cs =
      if (takeUntil p cs).2 = [] then none else some (byteSize (takeUntil p cs).1) := by
  induction cs with
  | nil => rfl
  | cons c cs ih =>
    rw [byteWhere?, takeUntil]
    by_cases h : p (c :: cs) = true
    · rw [if_pos h, if_pos h]
      rfl
    · rw [if_neg h, if_neg h, ih]
      dsimp only
      split
      · rfl
      · rw [Option.map_some, byteSize_cons]

/-- Cutting a text at the first occurrence of another is cutting it where that one begins. -/
theorem cut?_eq {sought : List Char} (h : sought ≠ []) (cs : List Char) :
    Text.cut? sought cs =
      if (takeUntil (sought.isPrefixOf ·) cs).2 = [] then none
      else some ((takeUntil (sought.isPrefixOf ·) cs).1,
        (takeUntil (sought.isPrefixOf ·) cs).2.drop sought.length) := by
  induction cs with
  | nil => simp [Text.cut?, takeUntil, h]
  | cons c cs ih =>
    rw [Text.cut?, Text.afterStart?_eq, takeUntil]
    by_cases hs : sought.isPrefixOf (c :: cs) = true
    · simp [hs]
    · simp only [hs, Bool.false_eq_true, if_false, ih]
      split <;> rfl

/-! ## Numerals -/

/-- Whether the exponent of a numeral begins here. -/
def startsExponent (cs : List Char) : Bool :=
  cs.head?.any fun c => c = 'e' || c = 'E'

/-- Whether these are the digits of a numeral, with at most one point among them. -/
def isMantissa (cs : List Char) : Bool :=
  cs.any Char.isDigit && cs.all (fun c => c.isDigit || c = '.') && decide (cs.count '.' ≤ 1)

/-- Whether these are the digits of an exponent. -/
def isExponent (cs : List Char) : Bool :=
  !cs.isEmpty && cs.all Char.isDigit

/-- Whether a text is a numeral. -/
def isNumeral (text : List Char) : Checked Bool := do
  let digits := (Numeral.takeSign text).2
  match byteWhere? startsExponent digits with
  | none => return isMantissa digits
  | some i => do
    let (mantissa, _) ← splitAtByte digits i
    let (_, exponent) ← splitAtByte digits (i + 1)
    return isMantissa mantissa && isExponent (Numeral.takeSign exponent).2

/-- Whether these are a letter and the digits of an exponent, if anything. -/
def endsNumeral : List Char → Bool
  | [] => true
  | _ :: exponent => isExponent (Numeral.takeSign exponent).2

/-- What follows the digits of a numeral: an exponent, or nothing. -/
def IsTail (cs : List Char) : Prop :=
  cs = [] ∨ startsExponent cs = true

theorem startsExponent_cons {c : Char} {cs : List Char} :
    startsExponent (c :: cs) = true ↔ c = 'e' ∨ c = 'E' := by
  simp [startsExponent]

theorem IsTail.takeWhile {tail : List Char} (h : IsTail tail) (cs : List Char) :
    (cs ++ tail).takeWhile Char.isDigit = cs.takeWhile Char.isDigit ∧
      (cs ++ tail).dropWhile Char.isDigit = cs.dropWhile Char.isDigit ++ tail := by
  induction cs with
  | nil =>
    rcases tail with _ | ⟨c, tail⟩
    · exact ⟨rfl, rfl⟩
    · rcases h with h | h
      · cases h
      · rcases startsExponent_cons.1 h with rfl | rfl <;> exact ⟨rfl, rfl⟩
  | cons c cs ih =>
    by_cases hc : c.isDigit = true
    · simp only [List.cons_append, List.takeWhile_cons, List.dropWhile_cons, hc, if_true, ih.1, ih.2,
        and_self]
    · simp only [List.cons_append, List.takeWhile_cons, List.dropWhile_cons, hc, Bool.false_eq_true,
        if_false, and_self]

theorem IsTail.takeFraction {tail : List Char} (h : IsTail tail) (cs : List Char) :
    Numeral.takeFraction (cs ++ tail) =
      ((Numeral.takeFraction cs).1, (Numeral.takeFraction cs).2 ++ tail) := by
  rcases cs with _ | ⟨c, cs⟩
  · rcases tail with _ | ⟨c, tail⟩
    · rfl
    · rcases h with h | h
      · cases h
      · rcases startsExponent_cons.1 h with rfl | rfl <;> rfl
  · by_cases hc : c = '.'
    · rw [hc, List.cons_append, Numeral.takeFraction, (h.takeWhile cs).1, (h.takeWhile cs).2]
      rfl
    · have none (ds : List Char) : Numeral.takeFraction (c :: ds) = (none, c :: ds) := by
        unfold Numeral.takeFraction
        split
        · rename_i he
          exact absurd (List.cons.inj he).1 hc
        · rfl
      rw [List.cons_append, none, none]
      rfl

theorem isMantissa_iff (cs : List Char) :
    isMantissa cs = true ↔ (∃ c ∈ cs, c.isDigit = true) ∧ (∀ c ∈ cs, c.isDigit = true ∨ c = '.') ∧
      cs.count '.' ≤ 1 := by
  simp only [isMantissa, Bool.and_eq_true, List.any_eq_true, List.all_eq_true, Bool.or_eq_true,
    decide_eq_true_eq, and_assoc]

theorem count_point {cs : List Char} (h : ∀ c ∈ cs, c.isDigit = true) : cs.count '.' = 0 :=
  List.count_eq_zero.2 fun hc => absurd (h _ hc) (by decide)

theorem exists_digit_iff {cs : List Char} (h : ∀ c ∈ cs, c.isDigit = true) :
    (∃ c ∈ cs, c.isDigit = true) ↔ cs ≠ [] := by
  cases cs with
  | nil => simp
  | cons c cs => simp [h c]

/-- What does not begin with a digit or a point is no part of a mantissa. -/
theorem isMantissa_append {whole rest : List Char} (hwhole : ∀ c ∈ whole, c.isDigit = true)
    (hrest : ∀ c cs, rest = c :: cs → c.isDigit = false ∧ c ≠ '.') :
    isMantissa (whole ++ rest) = true ↔ whole ≠ [] ∧ rest = [] := by
  rw [isMantissa_iff]
  constructor
  · rintro ⟨hany, hall, -⟩
    have hnil : rest = [] := by
      rcases rest with _ | ⟨c, cs⟩
      · rfl
      · obtain ⟨hdigit, hpoint⟩ := hrest c cs rfl
        rcases hall c (by simp) with h | h
        · exact absurd h (by rw [hdigit]; exact Bool.false_ne_true)
        · exact absurd h hpoint
    rw [hnil, List.append_nil] at hany
    exact ⟨(exists_digit_iff hwhole).1 hany, hnil⟩
  · rintro ⟨hne, rfl⟩
    rw [List.append_nil, count_point hwhole]
    exact ⟨(exists_digit_iff hwhole).2 hne, fun c hc => .inl (hwhole c hc), Nat.zero_le _⟩

/-- After a point only digits are part of a mantissa. -/
theorem isMantissa_point {whole digits rest : List Char} (hwhole : ∀ c ∈ whole, c.isDigit = true)
    (hdigits : ∀ c ∈ digits, c.isDigit = true)
    (hrest : ∀ c cs, rest = c :: cs → c.isDigit = false) :
    isMantissa (whole ++ '.' :: (digits ++ rest)) = true ↔
      (whole ≠ [] ∨ digits ≠ []) ∧ rest = [] := by
  have hcount : (whole ++ '.' :: (digits ++ rest)).count '.' = 1 + rest.count '.' := by
    rw [List.count_append, List.count_cons_self, List.count_append, count_point hwhole,
      count_point hdigits]
    omega
  rw [isMantissa_iff, hcount]
  constructor
  · rintro ⟨⟨c, hc, hd⟩, hall, hle⟩
    have hnil : rest = [] := by
      rcases rest with _ | ⟨d, cs⟩
      · rfl
      · -- a character that ends the digits would have to be a second point
        rcases hall d (by simp) with h | rfl
        · exact absurd h (by rw [hrest d cs rfl]; exact Bool.false_ne_true)
        · rw [List.count_cons_self] at hle
          omega
    subst hnil
    refine ⟨?_, rfl⟩
    rcases List.mem_append.1 hc with hc | hc
    · exact .inl (List.ne_nil_of_mem hc)
    · rcases List.mem_cons.1 hc with rfl | hc
      · exact absurd hd (by decide)
      · rw [List.append_nil] at hc
        exact .inr (List.ne_nil_of_mem hc)
  · rintro ⟨hne, rfl⟩
    refine ⟨?_, ?_, Nat.le_refl _⟩
    · rcases hne with hne | hne
      · obtain ⟨c, hc, hd⟩ := (exists_digit_iff hwhole).2 hne
        exact ⟨c, by simp [hc], hd⟩
      · obtain ⟨c, hc, hd⟩ := (exists_digit_iff hdigits).2 hne
        exact ⟨c, by simp [hc], hd⟩
    · intro c hc
      simp only [List.append_nil, List.mem_append, List.mem_cons] at hc
      rcases hc with hc | rfl | hc
      · exact .inl (hwhole c hc)
      · exact .inr rfl
      · exact .inl (hdigits c hc)

theorem head_dropWhile {cs rest : List Char} {c : Char} (h : cs.dropWhile Char.isDigit = c :: rest) :
    c.isDigit = false := by
  have hhead := List.head?_dropWhile_not Char.isDigit cs
  rwa [h] at hhead

/-- The digits of a numeral are digits, and perhaps a point and digits again. -/
theorem isMantissa_takeFraction (cs : List Char) :
    isMantissa cs = true ↔
      (cs.takeWhile Char.isDigit ≠ [] ∨
        ((Numeral.takeFraction (cs.dropWhile Char.isDigit)).1.getD []) ≠ []) ∧
      (Numeral.takeFraction (cs.dropWhile Char.isDigit)).2 = [] := by
  have digits (ds : List Char) : ∀ c ∈ ds.takeWhile Char.isDigit, c.isDigit = true :=
    fun c hc => List.mem_takeWhile_imp hc
  conv_lhs => rw [← List.takeWhile_append_dropWhile (p := Char.isDigit) (l := cs)]
  rcases Numeral.takeFraction_cases (cs.dropWhile Char.isDigit) with ⟨more, hmore, hf⟩ | hf
  · rw [hf, hmore, Option.getD_some]
    conv_lhs => rw [← List.takeWhile_append_dropWhile (p := Char.isDigit) (l := more)]
    exact isMantissa_point (digits cs) (digits more) fun c rest h => head_dropWhile h
  · rw [hf, Option.getD_none, isMantissa_append (digits cs) fun c rest h => ⟨head_dropWhile h, ?_⟩]
    · exact and_congr_left fun _ => ⟨.inl, fun h => h.resolve_right fun h => h rfl⟩
    · rintro rfl
      rw [h] at hf
      cases hf

/-- The tail of a numeral is an exponent, or nothing; what comes before it is cut off first. -/
theorem isSome_readTail? {cs tail : List Char} (hcs : ∀ c ∈ cs, c ≠ 'e' ∧ c ≠ 'E')
    (htail : IsTail tail) :
    (Numeral.readTail? (cs ++ tail)).isSome = (cs.isEmpty && endsNumeral tail) := by
  rcases cs with _ | ⟨c, cs⟩
  · rcases tail with _ | ⟨c, tail⟩
    · rfl
    · have hexp (upper : Bool) : (Numeral.readExponent? upper tail).isSome =
          isExponent (Numeral.takeSign tail).2 := by
        unfold Numeral.readExponent? isExponent
        dsimp only
        cases (Numeral.takeSign tail).2.isEmpty <;>
          cases (Numeral.takeSign tail).2.all Char.isDigit <;> rfl
      rcases htail with h | h
      · cases h
      · rcases startsExponent_cons.1 h with rfl | rfl
        · simp [Numeral.readTail?, hexp, endsNumeral]
        · simp [Numeral.readTail?, hexp, endsNumeral]
  · have hc := hcs c List.mem_cons_self
    have hnone : Numeral.readTail? (c :: cs ++ tail) = none := by
      unfold Numeral.readTail?
      split
      · rename_i h; cases h
      · rename_i h; exact absurd (List.cons.inj h).1 hc.1
      · rename_i h; exact absurd (List.cons.inj h).1 hc.2
      · rfl
    rw [hnone]
    rfl

/-- Whether digits with a tail are read as a numeral. -/
theorem isSome_read? {text cs tail : List Char} (h : (Numeral.takeSign text).2 = cs ++ tail)
    (hcs : ∀ c ∈ cs, c ≠ 'e' ∧ c ≠ 'E') (htail : IsTail tail) :
    (Numeral.read? text).isSome = (isMantissa cs && endsNumeral tail) := by
  have hmantissa := isMantissa_takeFraction cs
  have hletters : ∀ c ∈ (Numeral.takeFraction (cs.dropWhile Char.isDigit)).2, c ≠ 'e' ∧ c ≠ 'E' := by
    intro c hc
    refine hcs c ((List.dropWhile_suffix Char.isDigit).subset ?_)
    rw [← Numeral.takeFraction_write (cs.dropWhile Char.isDigit)]
    exact List.mem_append_right _ hc
  have hread := isSome_readTail? hletters htail
  rw [Numeral.read?]
  dsimp only
  rw [h, (htail.takeWhile cs).1, (htail.takeWhile cs).2, htail.takeFraction]
  dsimp only
  generalize cs.takeWhile Char.isDigit = whole at *
  generalize Numeral.takeFraction (cs.dropWhile Char.isDigit) = r at *
  obtain ⟨fraction, rest⟩ := r
  dsimp only at *
  by_cases hm : isMantissa cs = true
  · obtain ⟨hne, hrest⟩ := hmantissa.1 hm
    have hdigits : (whole.isEmpty && (fraction.getD []).isEmpty) = false := by
      rw [Bool.and_eq_false_iff, List.isEmpty_eq_false_iff, List.isEmpty_eq_false_iff]
      exact hne
    rw [hdigits, hm, if_neg Bool.false_ne_true, Option.isSome_map, hread, hrest]
    rfl
  · rw [Bool.not_eq_true] at hm
    rw [hm, Bool.false_and]
    by_cases hdigits : (whole.isEmpty && (fraction.getD []).isEmpty) = true
    · rw [if_pos hdigits]
      rfl
    · have hrest : rest.isEmpty = false := by
        rw [List.isEmpty_eq_false_iff]
        intro hrest
        refine absurd (hmantissa.2 ⟨?_, hrest⟩) (by rw [hm]; exact Bool.false_ne_true)
        rw [Bool.not_eq_true, Bool.and_eq_false_iff, List.isEmpty_eq_false_iff,
          List.isEmpty_eq_false_iff] at hdigits
        exact hdigits
      rw [if_neg hdigits, Option.isSome_map, hread, hrest]
      rfl

/-- Cutting the exponent off at the byte of its letter, and looking at the characters on both sides,
tells whether a text is a numeral. -/
theorem isNumeral_eq (text : List Char) : isNumeral text = .ok (RouteExpr.isNumeral text) := by
  obtain ⟨hcut, hstop, hbefore⟩ := takeUntil_spec startsExponent (Numeral.takeSign text).2
  have hbyte := byteWhere?_eq startsExponent (Numeral.takeSign text).2
  rw [isNumeral, RouteExpr.isNumeral]
  dsimp only
  rw [hbyte]
  generalize (takeUntil startsExponent (Numeral.takeSign text).2) = r at *
  obtain ⟨mantissa, tail⟩ := r
  dsimp only at *
  have hletters : ∀ c ∈ mantissa, c ≠ 'e' ∧ c ≠ 'E' := by
    intro c hc
    obtain ⟨u, v, huv⟩ := List.append_of_mem hc
    have h := hbefore u (c :: v) huv (List.cons_ne_nil c v)
    rw [List.cons_append] at h
    rw [← not_or, ← startsExponent_cons, h]
    exact Bool.false_ne_true
  have htail : IsTail tail := by
    by_cases h : tail = []
    · exact .inl h
    · exact .inr (hstop h)
  rw [isSome_read? hcut hletters htail]
  rcases tail with _ | ⟨letter, exponent⟩
  · rw [if_pos rfl, hcut, List.append_nil, endsNumeral, Bool.and_true]
    rfl
  · have hletter : letter.utf8Size = 1 := by
      rcases startsExponent_cons.1 (hstop (List.cons_ne_nil _ _)) with rfl | rfl <;> decide
    have hfirst := splitAtByte_append mantissa (letter :: exponent)
    have hsecond := splitAtByte_append (mantissa ++ [letter]) exponent
    rw [byteSize_append, byteSize_cons, hletter, List.append_assoc] at hsecond
    rw [if_neg (List.cons_ne_nil _ _), hcut]
    dsimp only
    rw [hfirst, ok_bind]
    exact (congrArg (· >>= _) hsecond).trans rfl

/-! ## Numbers and words -/

/-- A text as a number. -/
def readNumber? (text : List Char) : Checked (Option Expr) :=
  match readInt64? text with
  | some i => return some (.integer i)
  | none => do
    if ← isNumeral text then
      return (Numeral.read? text).bind fun n =>
        let x := Double.ofNumeral n
        if x.isFinite then some (.float x) else none
    else return none

/-- A bare word as a value. -/
def readWord? (word : List Char) : Checked (Option Expr) :=
  match String.ofList word with
  | "true" => return some (.boolean true)
  | "false" => return some (.boolean false)
  | "null" => return some .null
  | _ => readNumber? word

theorem readNumber?_eq (text : List Char) :
    readNumber? text = .ok (Predicate.readNumber? text) := by
  rw [readNumber?, Predicate.readNumber?]
  rcases readInt64? text with _ | i
  · dsimp only
    rw [isNumeral_eq, ok_bind, RouteExpr.isNumeral]
    rcases Numeral.read? text with _ | n <;> rfl
  · rfl

theorem readWord?_eq (word : List Char) : readWord? word = .ok (Predicate.readWord? word) := by
  unfold readWord?
  split
  · rename_i h; rw [Predicate.readWord?, h]; rfl
  · rename_i h; rw [Predicate.readWord?, h]; rfl
  · rename_i h; rw [Predicate.readWord?, h]; rfl
  · rename_i htrue hfalse hnull
    rw [readNumber?_eq, Predicate.readWord?]
    split
    · rename_i h; exact absurd h htrue
    · rename_i h; exact absurd h hfalse
    · rename_i h; exact absurd h hnull
    · rfl

/-! ## Ranges -/

/-- The offset of the first character between the quotes of a token, if it has any. -/
def contentStart (cut : Cut) : Nat :=
  match cut.token.kind with
  | .quoted _ => cut.token.start + 1
  | _ => cut.token.start

/-- A bound of a range. -/
def readBound (text : String) (bound : List Char) (start : Nat) : Checked Expr :=
  if Predicate.hasMarker bound then readRegion text start (start + bound.length)
  else
    let bound := Text.trim bound
    if bound.head? = some '.' || bound.getLast? = some '.' then
      fail text start (.dottedBound (String.ofList bound))
    else do
      match ← readNumber? bound with
      | some e => return e
      | none => fail text start (.boundNotNumber (String.ofList bound))

/-- The two bounds of a range, around the byte of the first two dots. -/
def readRange (text : String) (cut : Cut) : Checked Operand :=
  let start := contentStart cut
  let content := cut.token.text
  match byteWhere? (['.', '.'].isPrefixOf ·) content with
  | none => fail text (start + content.length) (.noRange (String.ofList content))
  | some i => do
    let (low, _) ← splitAtByte content i
    let (_, high) ← splitAtByte content (i + 2)
    let lowBound ← readBound text low start
    let highBound ← readBound text high (start + low.length + 2)
    return .range lowBound highBound

variable {text : String} {most : Nat}

theorem contentStart_eq {t : Token} (h : t.kind.isText = true) :
    contentStart (.of t) = t.textStart := by
  obtain ⟨kind, chars, start⟩ := t
  cases kind <;> first | rfl | cases h

theorem readBound_mirrors {bound : List Char} {start : Nat} (h : PartAt text.toList start bound) :
    Mirrors text Eq (readBound text bound start) (Predicate.readBound start bound) := by
  have hle := h.le_length
  unfold readBound Predicate.readBound
  split
  · exact readRegion_mirrors h rfl
  · dsimp only
    split
    · exact .error (by omega)
    · rw [readNumber?_eq, ok_bind]
      rcases Predicate.readNumber? (Text.trim bound) with _ | e
      · exact .error (by omega)
      · exact .ok rfl

theorem readRange_mirrors {t : Token} (ht : t.Fits text.toList most) (hk : t.kind.isText = true) :
    Mirrors text Eq (readRange text (.of t)) (Predicate.readRange t) := by
  have hpart := ht.partAt_text
  obtain ⟨hcut, hstop, -⟩ := takeUntil_spec (['.', '.'].isPrefixOf ·) t.text
  have hle := hpart.le_length
  rw [readRange, Predicate.readRange, contentStart_eq hk, Cut.of_token]
  dsimp only
  rw [byteWhere?_eq, cut?_eq (List.cons_ne_nil _ _)]
  generalize takeUntil (['.', '.'].isPrefixOf ·) t.text = r at *
  obtain ⟨low, tail⟩ := r
  dsimp only at *
  by_cases htail : tail = []
  · rw [if_pos htail, if_pos htail]
    exact .error hle
  · obtain ⟨high, rfl⟩ := List.isPrefixOf_iff_prefix.1 (hstop htail)
    have hfirst := splitAtByte_append low (['.', '.'] ++ high)
    have hsecond := splitAtByte_append (low ++ ['.', '.']) high
    rw [byteSize_append, List.append_assoc, show byteSize ['.', '.'] = 2 from by decide] at hsecond
    rw [hcut] at hpart
    have hhigh := hpart.right.right
    rw [if_neg htail, if_neg htail]
    dsimp only
    rw [hcut, hfirst, ok_bind]
    dsimp only
    rw [hsecond, ok_bind]
    refine (readBound_mirrors hpart.left).bind fun a _ ha =>
      (readBound_mirrors hhigh).bind_pure fun b _ hb => ?_
    rw [ha, hb]

end RouteExpr.Checked
