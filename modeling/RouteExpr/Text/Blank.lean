/-
White space in the sense of Unicode, and what is left of a text once it is trimmed.

Trimming drops the longest blank run at either end and touches nothing in between, so a trimmed
text neither starts nor ends with a blank.
-/

namespace RouteExpr.Text

/-! ## Blanks -/

/-- The characters with the Unicode property `White_Space`. -/
def isBlank (c : Char) : Bool :=
  let n := c.toNat
  (0x09 ≤ n && n ≤ 0x0D) || n == 0x20 || n == 0x85 || n == 0xA0 || n == 0x1680 ||
    (0x2000 ≤ n && n ≤ 0x200A) || n == 0x2028 || n == 0x2029 || n == 0x202F || n == 0x205F ||
    n == 0x3000

/-- A text without any character but blanks. -/
def allBlank (cs : List Char) : Bool :=
  cs.all isBlank

/-! ## Trimming -/

/-- The text from its first character that is no blank. -/
def trimStart (cs : List Char) : List Char :=
  cs.dropWhile isBlank

/-- The text up to its last character that is no blank. -/
def trimEnd (cs : List Char) : List Char :=
  (cs.reverse.dropWhile isBlank).reverse

/-- The text between its first and its last character that is no blank. -/
def trim (cs : List Char) : List Char :=
  trimEnd (trimStart cs)

/-- `trim` on strings. -/
def trimmed (s : String) : String :=
  String.ofList (trim s.toList)

/-- Blanks are dropped up to the first character that is none. -/
theorem dropWhile_blanks {front rest : List Char} (hfront : allBlank front = true)
    (hrest : ∀ c ∈ rest.head?, isBlank c = false) : (front ++ rest).dropWhile isBlank = rest := by
  rw [List.dropWhile_append_of_pos (List.all_eq_true.1 hfront)]
  cases rest with
  | nil => rfl
  | cons c rest => exact List.dropWhile_cons_of_neg (by simp [hrest c rfl])

/-- What neither starts nor ends with a blank is what trimming leaves of it between blanks. -/
theorem trim_between {front cs back : List Char} (hfront : allBlank front = true)
    (hback : allBlank back = true) (hfirst : ∀ c ∈ cs.head?, isBlank c = false)
    (hlast : ∀ c ∈ cs.getLast?, isBlank c = false) : trim (front ++ cs ++ back) = cs := by
  have hreverse : allBlank back.reverse = true := by rwa [allBlank, List.all_reverse]
  unfold trim trimEnd trimStart
  cases cs with
  | nil =>
    have hblank : allBlank (front ++ back) = true := by
      rw [allBlank, List.all_append, Bool.and_eq_true]
      exact ⟨hfront, hback⟩
    have hdrop : (front ++ back ++ []).dropWhile isBlank = [] := dropWhile_blanks hblank nofun
    rw [List.append_nil] at hdrop
    rw [List.append_nil, hdrop]
    rfl
  | cons c cs =>
    have hstart : (front ++ (c :: cs ++ back)).dropWhile isBlank = c :: cs ++ back :=
      dropWhile_blanks hfront hfirst
    rw [List.append_assoc, hstart, List.reverse_append,
      dropWhile_blanks hreverse (by rwa [List.head?_reverse]), List.reverse_reverse]

end RouteExpr.Text
