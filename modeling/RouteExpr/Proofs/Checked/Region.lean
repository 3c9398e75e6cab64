/-
A region of a text is lexed as if it were a text of its own.

What stands around a region plays no part in any step over it, wherever in the region the step is
made and whatever was asked before: the answers over the part of the text between the two offsets
are the answers over the region, with offsets that count from the start of the region.
-/
import RouteExpr.Proofs.Checked.Parse
import RouteExpr.Proofs.Token.Shift

namespace RouteExpr

/-! ## Moving what is asked -/

namespace Lexer

variable (k : Nat) (l : Lexer)

theorem next_shift : (l.shift k).next = Fault.shifted k (shiftTaken k) l.next := by
  unfold next
  cases hp : l.peeked with
  | none =>
    have hp' : (l.shift k).peeked = none := by rw [shift, hp]; rfl
    rw [hp']
    exact scan_shift k l
  | some t =>
    have hp' : (l.shift k).peeked = some (t.shift k) := by rw [shift, hp]; rfl
    rw [hp']
    rfl

theorem peek_shift : (l.shift k).peek = Fault.shifted k (shiftTaken k) l.peek := by
  unfold peek
  cases hp : l.peeked with
  | none =>
    have hp' : (l.shift k).peeked = none := by rw [shift, hp]; rfl
    rw [hp']
    dsimp only
    rw [scan_shift]
    exact shifted_map fun _ => rfl
  | some t =>
    have hp' : (l.shift k).peeked = some (t.shift k) := by rw [shift, hp]; rfl
    rw [hp']
    rfl

theorem step_shift (call : Call) :
    (l.shift k).step call = Fault.shifted k (shiftTaken k) (l.step call) := by
  cases call with
  | next => exact next_shift k l
  | peek => exact peek_shift k l

/-- The answers of a lexer so many characters later. -/
theorem answers_shift (calls : List Call) :
    (l.shift k).answers calls = (l.answers calls).map (Fault.shifted k (Token.shift k)) := by
  induction calls generalizing l with
  | nil => rfl
  | cons call calls ih =>
    rw [answers, answers, step_shift]
    rcases l.step call with f | ⟨t, l'⟩
    · exact congrArg _ (ih l)
    · exact congrArg _ (ih l')

theorem slice_eq_shift (mode : Mode) (text : List Char) (first stop : Nat) :
    slice mode text first stop =
      (slice mode ((text.take stop).drop first) 0 ((text.take stop).drop first).length).shift first := by
  simp only [slice, start, shift, List.take_length, List.drop_zero, Nat.zero_add, Option.map_none]

end Lexer

/-! ## Parts of a text -/

namespace Checked

/-- The part of a text between two offsets. -/
def part (text : String) (first stop : Nat) : String :=
  String.ofList ((text.toList.take stop).drop first)

/-- The token so many characters later. -/
def Cut.shift (k : Nat) (cut : Cut) : Cut :=
  { cut with token := cut.token.shift k }

/-- An answer over the part of a text that starts at an offset, as an answer over the whole text: a
token or a fault so many characters later, and the fault with the whole text. -/
def ofPart (text : String) (first : Nat) : Checked Cut → Checked Cut
  | .ok cut => .ok (cut.shift first)
  | .error (.fault e) => .error (.fault ⟨e.fault.shift first, text⟩)
  | .error halt => .error halt

theorem ofPart_lifted (text region : String) (first : Nat) (x : Except Fault Token) :
    ofPart text first (lifted region Cut.of x) =
      lifted text Cut.of (Fault.shifted first (Token.shift first) x) := by
  cases x <;> rfl

/-- A lexer over a region gives, call for call, the answers over that part of the text alone: the
same tokens and the same faults, with offsets that count from where the region starts. So does a
cursor, which has the whole text before it. -/
theorem answers_part (mode : Mode) (text : String) (first stop : Nat) (calls : List Lexer.Call) :
    (Lexer.slice mode text.toList first stop).answers calls =
      ((Lexer.slice mode (part text first stop).toList 0 (part text first stop).length).answers
        calls).map (Fault.shifted first (Token.shift first)) ∧
    (Cursor.slice mode text first stop).answers calls =
      ((Cursor.slice mode (part text first stop) 0 (part text first stop).length).answers calls).map
        (ofPart text first) := by
  have hlexer : (Lexer.slice mode text.toList first stop).answers calls =
      ((Lexer.slice mode (part text first stop).toList 0 (part text first stop).length).answers
        calls).map (Fault.shifted first (Token.shift first)) := by
    rw [Lexer.slice_eq_shift, Lexer.answers_shift, part, String.toList_ofList, String.length_ofList]
  refine ⟨hlexer, ?_⟩
  rw [(answers_slice mode text first stop calls).1, (answers_slice mode (part text first stop) 0 _ calls).1,
    hlexer, List.map_map, List.map_map]
  exact List.map_congr_left fun x _ => (ofPart_lifted text _ first x).symm

end Checked

end RouteExpr
