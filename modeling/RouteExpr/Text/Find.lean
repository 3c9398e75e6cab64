/-
Searching one text for another: the first occurrence, the parts around it, the parts between all
occurrences, and replacement.

Every search is for the leftmost occurrence. The parts of a cut, with what was searched for put
back between them, are the text.
-/

namespace RouteExpr.Text

/-! ## Prefixes and suffixes -/

/-- What follows `start` in a text that begins with it. -/
def afterStart? : List Char → List Char → Option (List Char)
  | [], cs => some cs
  | _ :: _, [] => none
  | p :: ps, c :: cs => if p = c then afterStart? ps cs else none

/-- What precedes `ending` in a text that ends with it. -/
def beforeEnd? (ending cs : List Char) : Option (List Char) :=
  (afterStart? ending.reverse cs.reverse).map List.reverse

theorem afterStart?_eq_some {start cs rest : List Char} (h : afterStart? start cs = some rest) :
    cs = start ++ rest := by
  fun_induction afterStart? start cs with
  | case1 cs => exact Option.some.inj h
  | case2 => cases h
  | case3 p ps cs ih => rw [List.cons_append, ih h]
  | case4 => cases h

/-! ## First occurrence -/

/-- The texts before and after the first occurrence of `sought`. -/
def cut? (sought : List Char) : List Char → Option (List Char × List Char)
  | [] => if sought.isEmpty then some ([], []) else none
  | c :: cs =>
    match afterStart? sought (c :: cs) with
    | some rest => some ([], rest)
    | none => (cut? sought cs).map fun (before, after) => (c :: before, after)

/-- Whether `sought` occurs in a text. -/
def occurs (sought cs : List Char) : Bool :=
  (cut? sought cs).isSome

/-! ## All occurrences -/

/-- The parts of a text between the occurrences of one character, at least one part. -/
def splitOn (mark : Char) : List Char → List (List Char)
  | [] => [[]]
  | c :: cs =>
    match splitOn mark cs with
    | [] => [[c]]
    | part :: parts => if c = mark then [] :: part :: parts else (c :: part) :: parts

/-- The text with each occurrence of `old` replaced, from the left, none overlapping another.
An empty `old` occurs before each character and at the end. -/
def replaceAll (old new : List Char) : List Char → List Char
  | [] => if old.isEmpty then new else []
  | c :: cs =>
    if h : old = [] then new ++ c :: replaceAll old new cs
    else
      match h' : afterStart? old (c :: cs) with
      | some rest =>
        have : rest.length ≤ cs.length := by
          have := congrArg List.length (afterStart?_eq_some h')
          have := List.length_pos_iff.2 h
          simp only [List.length_append, List.length_cons] at *
          omega
        new ++ replaceAll old new rest
      | none => c :: replaceAll old new cs
termination_by cs => cs.length

end RouteExpr.Text
