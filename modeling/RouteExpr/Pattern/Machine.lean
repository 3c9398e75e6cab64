/-
The size of the machine that matches an expression.

The machine reads bytes. It has a state for each byte of a text, a few states for each choice and
repetition, and as many copies of what is repeated as the repetition counts. A machine is built for
either direction of reading, and both have to fit into a limit. Reading forwards, a set of
characters shares all states that lead on alike; reading backwards, it shares them as far as a memo
of limited size remembers them.
-/
import RouteExpr.Pattern.Form
import RouteExpr.Unicode.Utf8
import Std.Data.HashMap

namespace RouteExpr.Pattern

/-- The direction in which a machine reads. -/
inductive Direction where
  | forwards
  | backwards
  deriving DecidableEq, Repr

/-! ## Plans -/

/-- How a machine is built, part by part. -/
inductive Plan where
  /-- So many states with so many bytes of links. -/
  | states (count links : Nat)
  /-- The states that read one of several sequences of ranges of bytes backwards. -/
  | sequences (all : List (List (Nat × Nat)))
  | both (first second : Plan)
  | copies (count : Nat) (body : Plan)

namespace Plan

/-- A state that leads on to any of so many others without reading. -/
def fork (count : Nat) : Plan :=
  states 1 (4 * count)

/-- Plans one after another, in the order in which a machine for the direction meets them. -/
def inOrder : Direction → Plan → Plan → Plan
  | .forwards, a, b => both a b
  | .backwards, a, b => both b a

/-! ## Sets of characters -/

/-- States by the links that they have: ranges of bytes and the states these lead to. -/
abbrev SharedStates := Std.HashMap (List (Nat × Nat × Nat)) Nat

/-- Sequences by the range that they begin with, for sequences in ascending order. -/
def byFirst : List (List (Nat × Nat)) → List ((Nat × Nat) × List (List (Nat × Nat)))
  | [] => []
  | [] :: rest => byFirst rest
  | (first :: more) :: rest =>
    match byFirst rest with
    | (next, tails) :: groups =>
      if first = next then (first, more :: tails) :: groups
      else (first, [more]) :: (next, tails) :: groups
    | [] => [(first, [more])]

/-- The state that reads any of several sequences, of at most so many ranges. The empty sequence is
read by state 0. -/
def sharedState : Nat → List (List (Nat × Nat)) → SharedStates → Nat × SharedStates
  | 0, _, shared => (0, shared)
  | n + 1, all, shared =>
    if all.any List.isEmpty then (0, shared)
    else
      let (links, shared) := (byFirst all).foldl
        (fun (links, shared) ((low, high), tails) =>
          let (next, shared) := sharedState n tails shared
          ((low, high, next) :: links, shared))
        ([], shared)
      match shared[links]? with
      | some state => (state, shared)
      | none => (shared.size + 1, shared.insert links (shared.size + 1))

/-- The states that read one of the characters. -/
def ofSet (direction : Direction) (r : Unicode.Ranges) : Plan :=
  if r.all fun (_, high) => high < 0x80 then states 2 (8 * r.length)
  else
    let all := Unicode.utf8Sequences r
    match direction with
    | .backwards => sequences all
    | .forwards =>
      let shared := (sharedState 4 all ∅).2
      states (1 + shared.size) (shared.fold (fun n links _ => n + 8 * links.length) 0)

/-! ## Alternatives that are texts -/

/-- The words between the empty ones. Empty words at the start count as one. -/
def segments (words : List (List Nat)) : List (List (List Nat)) :=
  let rec cut : List (List Nat) → List (List (List Nat))
    | [] => [[]]
    | word :: rest =>
      match cut rest with
      | [] => [[word]]
      | segment :: others =>
        if word.isEmpty then [] :: segment :: others else (word :: segment) :: others
  match words with
  | [] :: rest => cut ([] :: rest.dropWhile List.isEmpty)
  | words => cut words

/-- The states and the bytes of links of a tree that reads one of several words, of at most so many
bytes. Earlier words have precedence, so the branches before an empty word and those after it are
kept apart. -/
def tree : Nat → List (List Nat) → Nat × Nat
  | 0, _ => (0, 0)
  | n + 1, words =>
    if words.all List.isEmpty then (0, 0)
    else
      let all := segments words
      let filled := all.filter fun segment => !segment.isEmpty
      let fork : Nat × Nat := (1, 4 * (filled.length + (all.length - 1)))
      filled.foldl
        (fun sum segment =>
          let heads := (segment.filterMap List.head?).eraseDups
          let links := if heads.length = 1 then 0 else 8 * heads.length
          heads.foldl
            (fun (count, links) head =>
              let tails := segment.filterMap fun word =>
                if word.head? = some head then some word.tail else none
              let (c, l) := tree n tails
              (count + c, links + l))
            (sum.1 + 1, sum.2 + links))
        fork

/-- The states that read one of several texts. -/
def ofTexts (direction : Direction) (texts : List (List Char)) : Plan :=
  let words := texts.map fun text => text.flatMap fun c => Unicode.utf8 c.toNat
  let words := if direction = .forwards then words else words.map List.reverse
  let longest := words.foldl (fun n word => max n word.length) 0
  let (count, links) := tree longest words
  states (1 + count) links

end Plan

/-! ## Forms as plans -/

/-- The texts of alternatives that are all texts. -/
def Form.texts? : Form → Option (List (List Char))
  | text chars => some [chars]
  | alt (text chars) rest => rest.texts?.map (chars :: ·)
  | _ => none

/-- The plan of a form; `inner` when the form stands after other alternatives. -/
def Form.plan (direction : Direction) (inner : Bool) : Form → Plan
  | empty => .states 1 0
  | text chars => .states (chars.foldl (fun n c => n + (Unicode.utf8 c.toNat).length) 0) 0
  | set r => .ofSet direction r
  | look _ => .states 1 0
  | group f =>
    match direction with
    | .forwards => .both (.states 1 0) (.both (f.plan direction false) (.states 1 0))
    | .backwards => f.plan direction false
  | seq a b => .inOrder direction (a.plan direction false) (b.plan direction false)
  | alt a b =>
    match if inner then none else (alt a b).texts? with
    | some texts => .ofTexts direction texts
    | none =>
      let rest := b.plan direction true
      .both (a.plan direction false) <|
        if b matches alt .. then .both (.states 0 4) rest else .both rest (.states 2 8)
  | times f least most =>
    let body := f.plan direction false
    match least, most with
    | 0, some 1 => .both (.fork 2) (.both body (.states 1 0))
    | 0, none =>
      if f.minLength.any (0 < ·) then .both (.fork 2) body
      else .both body (.both (.copies 2 (.fork 2)) (.states 1 0))
    | n, none => .both (.copies n body) (.fork 2)
    | n, some m =>
      let start := if n = 0 then .states 1 0 else .copies n body
      if n = m then start
      else .both start (.both (.states 1 0) (.copies (m - n) (.both (.fork 2) body)))

/-- The plan of the whole machine for a form: what comes before it, the form, and its end. The
forward machine remembers where a match begins and ends. -/
def Form.machinePlan (f : Form) : Direction → Plan
  | .forwards => .both (.states 2 0) (.both (f.plan .forwards false) (.states 2 0))
  | .backwards => .both (.states 1 0) (.both (f.plan .backwards false) (.states 1 0))

/-! ## Machines -/

/-- A state that was built to read a range of bytes and go on to another. -/
structure Remembered where
  low : Nat
  high : Nat
  next : Nat
  state : Nat

/-- What counts of a machine while it is built. -/
structure Machine where
  /-- The number of states. -/
  count : Nat
  /-- The bytes that their links take. -/
  links : Nat
  /-- Some of the states, each in the slot of its range and what it leads to. -/
  memo : Array (Option Remembered)

namespace Machine

/-- How many states are remembered. -/
def slots : Nat := 1000

/-- The machine without a state. -/
def empty : Machine := ⟨0, 0, Array.replicate slots none⟩

/-- How many bytes a machine may take. -/
def maxSize : Nat := 10 * 0x400 * 0x400

/-- The bytes that a machine takes: those of its links and 32 for each state. -/
def size (m : Machine) : Nat := 32 * m.count + m.links

/-- The machine with more states and links, if it is not too large. -/
def grow (m : Machine) (count links : Nat) : Option Machine :=
  let m := { m with count := m.count + count, links := m.links + links }
  if m.size ≤ maxSize then some m else none

/-- The slot of a state: its range and what it leads to, hashed by the FNV-1a function. -/
def slot (low high next : Nat) : Nat :=
  let mix (hash : UInt64) (n : Nat) : UInt64 := (hash ^^^ UInt64.ofNat n) * 1099511628211
  (mix (mix (mix 14695981039346656037 next) low) high).toNat % slots

/-- The state that reads a range of bytes and goes on to another, remembered or new. A new one takes
the slot from the one before. -/
def reading (m : Machine) (low high next : Nat) : Option (Nat × Machine) :=
  let i := slot low high next
  let known := m.memo[i]?.join.filter fun r => r.low = low && r.high = high && r.next = next
  match known with
  | some r => some (r.state, m)
  | none =>
    let state := m.count
    { m with memo := m.memo.setIfInBounds i (some ⟨low, high, next, state⟩) }.grow 1 0 |>.map
      fun m => (state, m)

/-- The machine with the states that read a sequence of ranges backwards and go on to a state. -/
def addSequence (m : Machine) (next : Nat) : List (Nat × Nat) → Option Machine
  | [] => m.grow 0 4
  | (low, high) :: rest =>
    match m.reading low high next with
    | some (state, m) => addSequence m state rest
    | none => none

/-- A step taken so many times, as long as it can be taken. -/
def repeatedly (step : Machine → Option Machine) : Nat → Machine → Option Machine
  | 0, m => some m
  | n + 1, m =>
    match step m with
    | some m => repeatedly step n m
    | none => none

/-- The machine with the states of a plan, if it is not too large. -/
def build : Plan → Machine → Option Machine
  | .states count links, m => m.grow count links
  | .sequences all, m =>
    match m.grow 2 0 with
    | some m =>
      let stop := m.count - 1
      all.foldlM (fun m sequence => m.addSequence stop sequence) m
    | none => none
  | .both a b, m =>
    match build a m with
    | some m => build b m
    | none => none
  | .copies count body, m => repeatedly (build body) count m

end Machine

/-- Whether the machines of an expression are not too large. -/
def Regex.fits (r : Regex) : Bool :=
  let form := r.form
  [Direction.forwards, .backwards].all fun direction =>
    (Machine.build (form.machinePlan direction) .empty).isSome

end RouteExpr.Pattern
