/-
Moving a region moves its tokens and its fault, and changes nothing else.

Offsets are only ever carried along: no step of a lexer looks at one to decide what to do. So the
tokens of a region that starts `k` characters later are the same tokens `k` characters later.
-/
import RouteExpr.Proofs.Token.Scan

namespace RouteExpr

/-! ## Moving offsets -/

/-- The token so many characters later. -/
def Token.shift (k : Nat) (t : Token) : Token :=
  { t with start := t.start + k }

/-- The fault so many characters later. -/
def Fault.shift (k : Nat) (f : Fault) : Fault :=
  { f with offset := f.offset + k }

/-- The tokens so many characters later. -/
def Lexed.shift (k : Nat) : Lexed → Lexed
  | .eof offset => .eof (offset + k)
  | .fault f => .fault (f.shift k)
  | .token t rest => .token (t.shift k) (rest.shift k)

/-- The lexer so many characters later. -/
def Lexer.shift (k : Nat) (l : Lexer) : Lexer :=
  { l with position := l.position + k, peeked := l.peeked.map (Token.shift k) }

namespace Token

variable (k : Nat) (t : Token)

@[simp] theorem shift_kind : (t.shift k).kind = t.kind := rfl

@[simp] theorem shift_text : (t.shift k).text = t.text := rfl

@[simp] theorem shift_start : (t.shift k).start = t.start + k := rfl

@[simp] theorem shift_raw : (t.shift k).raw = t.raw := rfl

@[simp] theorem shift_length : (t.shift k).length = t.length := rfl

@[simp] theorem shift_isBlank : (t.shift k).isBlank = t.isBlank := rfl

@[simp] theorem shift_stop : (t.shift k).stop = t.stop + k := by
  unfold stop; simp only [shift_start, shift_length]; omega

@[simp] theorem shift_textStart : (t.shift k).textStart = t.textStart + k := by
  unfold textStart; simp only [shift_start, shift_kind]; omega

@[simp] theorem shift_faultOffset : (t.shift k).faultOffset = t.faultOffset + k := by
  unfold faultOffset
  simp only [shift_kind, shift_length, shift_start, shift_stop]
  split <;> omega

end Token

/-! ## Results that carry offsets -/

/-- A result with `move` applied to what it gives, and its fault so many characters later. -/
def Fault.shifted {α β : Type} (k : Nat) (move : α → β) : Except Fault α → Except Fault β
  | .ok a => .ok (move a)
  | .error f => .error (f.shift k)

section Shifted

variable {α β γ δ : Type} {k : Nat} {move : α → β} {move' : γ → δ} {x : Except Fault α}

@[simp] theorem shifted_ok (a : α) : Fault.shifted k move (.ok a) = .ok (move a) := rfl

@[simp] theorem shifted_error (f : Fault) :
    Fault.shifted k move (.error f) = .error (f.shift k) := rfl

/-- One step after another moves when both move. -/
theorem shifted_bind {f : α → Except Fault γ} {g : β → Except Fault δ}
    (h : ∀ a, g (move a) = Fault.shifted k move' (f a)) :
    Fault.shifted k move x >>= g = Fault.shifted k move' (x >>= f) := by
  cases x with
  | ok a => exact h a
  | error f => rfl

theorem shifted_map {f : α → γ} {g : β → δ} (h : ∀ a, g (move a) = move' (f a)) :
    (Fault.shifted k move x).map g = Fault.shifted k move' (x.map f) := by
  cases x with
  | ok a => exact congrArg Except.ok (h a)
  | error f => rfl

theorem shifted_eq_ok {b : β} (h : Fault.shifted k move x = .ok b) : ∃ a, x = .ok a ∧ move a = b := by
  cases x with
  | ok a => exact ⟨a, rfl, Except.ok.inj h⟩
  | error f => cases h

end Shifted

/-! ## One token -/

namespace Lexer

/-- A token and the lexer behind it, so many characters later. -/
def shiftTaken (k : Nat) (p : Token × Lexer) : Token × Lexer :=
  (p.1.shift k, p.2.shift k)

variable (k : Nat) (l : Lexer)

theorem emit_shift (kind : Token.Kind) (text rest : List Char) :
    (l.shift k).emit kind text rest = shiftTaken k (l.emit kind text rest) := by
  simp only [emit, shiftTaken, shift, Token.shift, Token.stop, Token.length, Token.raw,
    Nat.add_right_comm]

theorem emit_depth_shift (kind : Token.Kind) (text rest : List Char) (d : Nat) :
    { l.shift k with depth := d }.emit kind text rest =
      shiftTaken k ({ l with depth := d }.emit kind text rest) :=
  emit_shift k { l with depth := d } kind text rest

theorem unclosed_shift {cause : Cause} (h : l.rest ≠ []) :
    (l.shift k).unclosed cause = Fault.shifted k (shiftTaken k) (l.unclosed cause) := by
  have hpos : 0 < l.rest.length := List.length_pos_iff.2 h
  have : l.position + k + l.rest.length - 1 = l.position + l.rest.length - 1 + k := by omega
  simp only [unclosed, shift, shifted_error, Fault.shift, this]

theorem takeQuotedToken_shift {q : Quote} {cs : List Char} (h : l.rest ≠ []) :
    (l.shift k).takeQuotedToken q cs =
      Fault.shifted k (shiftTaken k) (l.takeQuotedToken q cs) := by
  unfold takeQuotedToken
  split
  · rw [emit_shift]; rfl
  · exact unclosed_shift k l h

theorem scanFunction_shift {c : Char} {cs : List Char} (h : l.rest ≠ []) :
    (l.shift k).scanFunction c cs = Fault.shifted k (shiftTaken k) (l.scanFunction c cs) := by
  have hd : (l.shift k).depth = l.depth := rfl
  have hr : (l.shift k).rest = l.rest := rfl
  unfold scanFunction takeBlanks
  simp only [emit_shift, emit_depth_shift, takeQuotedToken_shift k l h, hd]
  rw [hr]
  repeat' (first | rfl | split)

theorem scanPredicate_shift {c : Char} {cs : List Char} (h : l.rest ≠ []) :
    (l.shift k).scanPredicate c cs = Fault.shifted k (shiftTaken k) (l.scanPredicate c cs) := by
  have hr : (l.shift k).rest = l.rest := rfl
  unfold scanPredicate takeBlanks
  rw [hr]
  simp only [emit_shift, takeQuotedToken_shift k l h]
  repeat' (first | rfl | split)

theorem scan_shift : (l.shift k).scan = Fault.shifted k (shiftTaken k) l.scan := by
  have hr : (l.shift k).rest = l.rest := rfl
  have hm : (l.shift k).mode = l.mode := rfl
  have hs : (l.shift k).suffix? = l.suffix? := rfl
  unfold scan
  rw [hr, hm, hs]
  rcases hl : l.rest with _ | ⟨c, cs⟩
  · rw [emit_shift]; rfl
  · have hne : l.rest ≠ [] := by rw [hl]; simp
    simp only [emit_shift, unclosed_shift k l hne, scanFunction_shift k l hne,
      scanPredicate_shift k l hne]
    repeat' (first | rfl | split)

/-! ## All tokens -/

theorem run_shift : ∀ (n : Nat) (l : Lexer), l.peeked = none →
    Lexer.run n (l.shift k) = (Lexer.run n l).shift k
  | n, l, hp => by
    have hs : (l.shift k).next = Fault.shifted k (shiftTaken k) l.next := by
      rw [next_eq_scan hp, next_eq_scan (by rw [shift, hp]; rfl), scan_shift]
    cases n with
    | zero =>
      unfold Lexer.run
      rw [hs]
      rcases l.next with f | ⟨t, l'⟩ <;> rfl
    | succ n =>
      unfold Lexer.run
      rw [hs]
      rcases hn : l.next with f | ⟨t, l'⟩
      · rfl
      · rw [next_eq_scan hp] at hn
        have ih := run_shift n l' ((scan_takes hn).peeked.trans hp)
        simp only [shifted_ok, shiftTaken, Token.shift_kind, ih]
        split <;> rfl

theorem lexed_shift (hp : l.peeked = none) : (l.shift k).lexed = l.lexed.shift k :=
  run_shift k _ l hp

end Lexer

/-- The tokens of a region that starts later are those of the region, so much later. -/
theorem Lexed.of_shift (mode : Mode) (offset k : Nat) (region : List Char) :
    Lexed.of mode (offset + k) region = (Lexed.of mode offset region).shift k :=
  Lexer.lexed_shift k (Lexer.start mode offset region) rfl

namespace Lexed

variable (k : Nat)

theorem ready_shift (l : Lexed) : (l.shift k).ready = Fault.shifted k (shift k) l.ready := by
  cases l <;> rfl

theorem skipBlanks_shift (l : Lexed) :
    (l.shift k).skipBlanks = Fault.shifted k (shift k) l.skipBlanks := by
  induction l with
  | eof | fault => rfl
  | token t rest ih =>
    simp only [shift, skipBlanks, Token.shift_isBlank, ih]
    split <;> rfl

theorem toTokens_shift (l : Lexed) :
    (l.shift k).toTokens = Fault.shifted k (List.map (Token.shift k)) l.toTokens := by
  induction l with
  | eof | fault => rfl
  | token t rest ih =>
    simp only [shift, toTokens, ih]
    exact shifted_map fun _ => rfl

end Lexed

end RouteExpr
