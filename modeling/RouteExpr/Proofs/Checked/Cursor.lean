/-
A lexer that works by positions in the whole text, with each index checked.

A cursor keeps the text, the position of the next character and the position where its region stops,
and reads characters by their positions. What it reads at a position is what a lexer reads at the
start of the characters from there to the end of the region, so what cuts a token off those
characters is found again as a walk over positions.
-/
import RouteExpr.Proofs.Checked.Basic
import RouteExpr.Proofs.Token.Scan

namespace RouteExpr.Checked

open Lexer (takeUntil takeQuoted takeBlock)

/-! ## Tokens and cursors -/

/-- A token with the number of characters that it was cut from. -/
structure Cut where
  token : Token
  length : Nat
  deriving DecidableEq, Repr

namespace Cut

/-- A token with the number of its characters. -/
def of (t : Token) : Cut :=
  ⟨t, t.length⟩

/-- The offset after the last character. -/
def stop (cut : Cut) : Nat :=
  cut.token.start + cut.length

/-- Where a fault that the token causes is reported. -/
def faultOffset (cut : Cut) : Nat :=
  if cut.token.kind = .literal ∧ 0 < cut.length then cut.token.start + 1 else cut.stop

@[simp] theorem of_token (t : Token) : (of t).token = t := rfl

@[simp] theorem of_stop (t : Token) : (of t).stop = t.stop := rfl

end Cut

/-- A lexer over the characters of a text between two positions. -/
structure Cursor where
  mode : Mode
  text : String
  /-- The position of the next character. -/
  position : Nat
  /-- The position where the region stops. -/
  stop : Nat
  stop_le : stop ≤ text.length
  /-- How many parentheses are open. -/
  depth : Nat
  /-- Whether the last token was a placeholder. -/
  afterPlaceholder : Bool
  /-- A token that was looked at but not taken. -/
  peeked : Option Cut

namespace Cursor

/-- A cursor over the characters between two positions, which may lie anywhere. -/
def slice (mode : Mode) (text : String) (first stop : Nat) : Cursor :=
  ⟨mode, text, first, min stop text.length, Nat.min_le_right _ _, 0, false, none⟩

/-! ## Characters by position -/

/-- The characters of the whole text. -/
def chars (c : Cursor) : List Char :=
  c.text.toList

/-- The character at a position of the region. -/
def charAt? (c : Cursor) (pos : Nat) : Option Char :=
  if pos < c.stop then c.chars[pos]? else none

/-- Whether characters stand at a position. -/
def matchesAt (c : Cursor) (pos : Nat) : List Char → Bool
  | [] => true
  | ch :: cs => c.charAt? pos = some ch && c.matchesAt (pos + 1) cs

/-- The marker at a position. -/
def markerAt? (c : Cursor) (pos : Nat) : Option Marker :=
  if c.matchesAt pos Marker.short.chars then some .short
  else if c.matchesAt pos Marker.long.chars then some .long
  else none

/-- The characters from one position to another. -/
def collect (c : Cursor) (first stop : Nat) : Checked (List Char) :=
  Checked.slice c.chars first stop

/-- A fault at the last character of the region. -/
def unclosed {α : Type} (c : Cursor) (cause : Cause) : Checked α :=
  fail c.text (c.stop - 1) cause

/-- The first position of the region, from one on, where a condition holds. -/
def seek (c : Cursor) (found : Nat → Bool) (pos : Nat) : Nat :=
  if pos < c.stop then if found pos then pos else c.seek found (pos + 1) else pos
  termination_by c.stop - pos

/-- How many blocks are open and where, from a position in so many of them: none at the brace that
closes the last of them, or some at the end of the region. -/
def blockEnd (c : Cursor) (depth pos : Nat) : Checked (Nat × Nat) :=
  if pos < c.stop then
    match c.markerAt? pos with
    | some m => c.blockEnd (depth + 1) (pos + m.chars.length)
    | none => do
      let ch ← item c.chars pos
      if ch = '\x7d' then
        let depth ← minus depth 1
        if depth = 0 then return (depth, pos) else c.blockEnd depth (pos + 1)
      else c.blockEnd depth (pos + 1)
  else return (depth, pos)
  termination_by c.stop - pos
  decreasing_by
    · cases m <;> simp only [Marker.chars, List.length_cons] <;> omega
    · omega
    · omega

/-! ## The rest of the region -/

/-- The characters from a position to the end of the region. -/
def restAt (c : Cursor) (pos : Nat) : List Char :=
  (c.chars.take c.stop).drop pos

variable {c : Cursor} {pos : Nat}

theorem stop_le_chars (c : Cursor) : c.stop ≤ c.chars.length := by
  rw [chars, String.length_toList]
  exact c.stop_le

theorem restAt_add (c : Cursor) (pos n : Nat) : c.restAt (pos + n) = (c.restAt pos).drop n := by
  rw [restAt, restAt, List.drop_drop]

theorem restAt_of_le (h : c.stop ≤ pos) : c.restAt pos = [] :=
  List.drop_eq_nil_of_le (by rw [List.length_take]; omega)

theorem lt_stop_of_restAt (h : c.restAt pos ≠ []) : pos < c.stop := by
  by_contra hp
  exact h (restAt_of_le (Nat.le_of_not_lt hp))

/-- What is left at a position of the region stands there in the text. -/
theorem partAt_restAt (h : pos ≤ c.stop) : PartAt c.chars pos (c.restAt pos) :=
  partAt_take_drop h c.stop_le_chars

theorem length_restAt (h : pos ≤ c.stop) : pos + (c.restAt pos).length = c.stop := by
  have hstop := c.stop_le_chars
  rw [restAt, List.length_drop, List.length_take]
  omega

theorem charAt?_eq (c : Cursor) (pos : Nat) : c.charAt? pos = (c.restAt pos).head? := by
  rw [charAt?, restAt, List.head?_drop, List.getElem?_take]

theorem restAt_of_charAt? {ch : Char} (h : c.charAt? pos = some ch) :
    c.restAt pos = ch :: c.restAt (pos + 1) := by
  rw [charAt?_eq, List.head?_eq_some_iff] at h
  obtain ⟨cs, hcs⟩ := h
  rw [restAt_add, hcs, List.drop_one, List.tail_cons]

theorem exists_charAt? (h : pos < c.stop) : ∃ ch, c.charAt? pos = some ch := by
  have hlt : pos < c.chars.length := Nat.lt_of_lt_of_le h c.stop_le_chars
  exact ⟨c.chars[pos], by rw [charAt?, if_pos h, List.getElem?_eq_getElem hlt]⟩

theorem item_of_charAt? {ch : Char} (h : c.charAt? pos = some ch) :
    item c.chars pos = .ok ch := by
  have hlt : pos < c.stop := lt_stop_of_restAt (by rw [restAt_of_charAt? h]; simp)
  have hpart := partAt_restAt (Nat.le_of_lt hlt)
  rw [restAt_of_charAt? h] at hpart
  exact hpart.item

theorem matchesAt_eq (c : Cursor) (pos : Nat) (cs : List Char) :
    c.matchesAt pos cs = cs.isPrefixOf (c.restAt pos) := by
  induction cs generalizing pos with
  | nil => simp [matchesAt]
  | cons ch cs ih =>
    rw [matchesAt, ih]
    rcases hc : c.charAt? pos with _ | d
    · have hnil : c.restAt pos = [] := by rwa [charAt?_eq, List.head?_eq_none_iff] at hc
      simp [hnil]
    · rw [restAt_of_charAt? hc, List.isPrefixOf, Bool.eq_iff_iff]
      simp only [Option.some.injEq, Bool.and_eq_true, decide_eq_true_eq, beq_iff_eq, eq_comm (a := d)]

theorem markerAt?_eq (c : Cursor) (pos : Nat) :
    c.markerAt? pos = Lexer.markerAt? (c.restAt pos) := by
  rw [markerAt?, Lexer.markerAt?, matchesAt_eq, matchesAt_eq]

theorem isSome_markerAt? (c : Cursor) (pos : Nat) :
    (c.markerAt? pos).isSome = Lexer.startsMarker (c.restAt pos) := by
  rw [markerAt?_eq, Lexer.startsMarker]

/-- The characters that are left first can be collected. -/
theorem collect_eq {first stop : Nat} {text : List Char} (rest : List Char)
    (h : c.restAt first = text ++ rest) (hfirst : first ≤ c.stop) (hstop : first + text.length = stop) :
    c.collect first stop = .ok text := by
  have hpart := partAt_restAt hfirst
  rw [h] at hpart
  exact hpart.left.slice_eq hstop

/-! ## Walks over positions -/

/-- Seeking a position is cutting the rest of the region. -/
theorem seek_eq {found : Nat → Bool} (stops : List Char → Bool)
    (h : ∀ pos, pos < c.stop → found pos = stops (c.restAt pos)) (pos : Nat) :
    c.seek found pos = pos + (takeUntil stops (c.restAt pos)).1.length := by
  fun_induction seek c found pos with
  | case1 pos hpos hf =>
    obtain ⟨ch, hch⟩ := exists_charAt? hpos
    rw [h pos hpos, restAt_of_charAt? hch] at hf
    rw [restAt_of_charAt? hch, takeUntil, if_pos hf, List.length_nil, Nat.add_zero]
  | case2 pos hpos hf ih =>
    obtain ⟨ch, hch⟩ := exists_charAt? hpos
    rw [h pos hpos, restAt_of_charAt? hch] at hf
    rw [ih, restAt_of_charAt? hch, takeUntil, if_neg hf]
    simp only [List.length_cons]
    omega
  | case3 pos hpos =>
    rw [restAt_of_le (Nat.le_of_not_lt hpos), takeUntil, List.length_nil, Nat.add_zero]

/-- What is left where a walk ends is what is left when the rest of the region is cut. -/
theorem restAt_seek (stops : List Char → Bool) (c : Cursor) (pos : Nat) :
    c.restAt (pos + (takeUntil stops (c.restAt pos)).1.length) =
      (takeUntil stops (c.restAt pos)).2 := by
  have h := (takeUntil_spec stops (c.restAt pos)).1
  rw [restAt_add]
  generalize takeUntil stops (c.restAt pos) = r at h ⊢
  rw [h, List.drop_left]

/-- Blanks are cut off up to a character that is none. -/
theorem takeUntil_not (p : Char → Bool) (cs : List Char) :
    takeUntil (fun rest => !rest.head?.any p) cs = (cs.takeWhile p, cs.dropWhile p) := by
  induction cs with
  | nil => rfl
  | cons ch cs ih =>
    by_cases h : p ch = true
    · simp [takeUntil, h, ih]
    · simp [takeUntil, h]

/-- A quoted text is cut off up to its quote. -/
theorem takeQuoted_eq (quote : Char) (cs : List Char) :
    takeQuoted quote cs =
      match takeUntil (fun rest => rest.head? = some quote) cs with
      | (_, []) => none
      | (text, _ :: rest) => some (text, rest) := by
  induction cs with
  | nil => rfl
  | cons ch cs ih =>
    by_cases h : ch = quote
    · simp [takeUntil, takeQuoted, h]
    · simp only [takeUntil, takeQuoted, List.head?_cons, Option.some.injEq, h, decide_false,
        if_false, Bool.false_eq_true, ih]
      rcases takeUntil _ cs with ⟨text, _ | ⟨d, rest⟩⟩ <;> rfl

/-! ## Blocks -/

/-- Walking to the end of a block is cutting the block off the rest of the region. -/
theorem blockEnd_cases (c : Cursor) (depth pos : Nat) (h : pos ≤ c.stop) :
    (∃ body rest, takeBlock depth (c.restAt pos) = some (body, rest) ∧
      c.blockEnd (depth + 1) pos = .ok (0, pos + body.length)) ∨
    ∃ d stop, takeBlock depth (c.restAt pos) = none ∧
      c.blockEnd (depth + 1) pos = .ok (d + 1, stop) := by
  induction hn : c.stop - pos using Nat.strong_induction_on generalizing depth pos with
  | _ n ih =>
    subst hn
    by_cases hpos : pos < c.stop
    · obtain ⟨ch, hch⟩ := exists_charAt? hpos
      rw [blockEnd, if_pos hpos, markerAt?_eq]
      rcases hm : Lexer.markerAt? (c.restAt pos) with _ | m
      · have hs : Lexer.startsMarker (c.restAt pos) = false := by
          rw [Lexer.startsMarker, hm]; rfl
        -- one character on, in so many blocks
        have step (d : Nat) (hd : takeBlock depth (c.restAt pos) =
            (takeBlock d (c.restAt (pos + 1))).map fun r => (ch :: r.1, r.2)) :
            (∃ body rest, takeBlock depth (c.restAt pos) = some (body, rest) ∧
              c.blockEnd (d + 1) (pos + 1) = .ok (0, pos + body.length)) ∨
            ∃ d' stop, takeBlock depth (c.restAt pos) = none ∧
              c.blockEnd (d + 1) (pos + 1) = .ok (d' + 1, stop) := by
          rw [hd]
          rcases ih _ (by omega) d (pos + 1) hpos rfl with ⟨body, rest, ht, hb⟩ | ⟨d', stop, ht, hb⟩
          · refine .inl ⟨ch :: body, rest, by rw [ht]; rfl, ?_⟩
            rw [hb, List.length_cons, Nat.add_right_comm, Nat.add_assoc]
          · exact .inr ⟨d', stop, by rw [ht]; rfl, hb⟩
        simp only [item_of_charAt? hch, ok_bind]
        rw [restAt_of_charAt? hch] at hs step ⊢
        by_cases hbrace : ch = '\x7d'
        · simp only [hbrace, if_true, minus_add, ok_bind]
          cases depth with
          | zero => exact .inl ⟨[], c.restAt (pos + 1), by simp [takeBlock], rfl⟩
          | succ d =>
            rw [← hbrace]
            exact step d (by simp only [takeBlock, hbrace, if_true])
        · simp only [hbrace, if_false]
          exact step depth (by simp only [takeBlock, hbrace, hs, if_false, Bool.false_eq_true])
      · have hrest : c.restAt pos = m.chars ++ c.restAt (pos + m.chars.length) := by
          rw [restAt_add]
          exact markerAt?_eq_some hm
        have hlen : 0 < m.chars.length := by cases m <;> decide
        have hstop : pos + m.chars.length ≤ c.stop := by
          have := length_restAt h
          rw [hrest, List.length_append] at this
          omega
        rw [hrest, takeBlock_marker]
        rcases ih _ (by omega) (depth + 1) (pos + m.chars.length) hstop rfl with
          ⟨body, rest, ht, hb⟩ | ⟨d, stop, ht, hb⟩
        · refine .inl ⟨m.chars ++ body, rest, by rw [ht]; rfl, ?_⟩
          rw [List.length_append, ← Nat.add_assoc]
          exact hb
        · exact .inr ⟨d, stop, by rw [ht]; rfl, hb⟩
    · refine .inr ⟨depth, pos, by rw [restAt_of_le (Nat.le_of_not_lt hpos)]; rfl, ?_⟩
      rw [blockEnd, if_neg hpos]
      rfl

end Cursor

end RouteExpr.Checked
