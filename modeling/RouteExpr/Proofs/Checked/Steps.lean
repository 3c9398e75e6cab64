/-
Steps of a cursor, one after another.

A cursor and a lexer that stand at the same place give the same answers to every sequence of calls,
past faults too, so no call is ever out of range, whatever region they were made for. A lexer in the
middle of a region stands for the tokens that it has left, the one that was looked at included.
-/
import RouteExpr.Proofs.Checked.Scan

namespace RouteExpr

/-! ## Sequences of calls -/

namespace Lexer

/-- What can be asked of a lexer. -/
inductive Call where
  | next
  | peek
  deriving DecidableEq, Repr

/-- The step that a call makes. -/
def step (l : Lexer) : Call → Except Fault (Token × Lexer)
  | .next => l.next
  | .peek => l.peek

/-- The answers to a sequence of calls. A step that fails leaves the lexer as it was. -/
def answers (l : Lexer) : List Call → List (Except Fault Token)
  | [] => []
  | call :: calls =>
    match l.step call with
    | .ok (t, l) => .ok t :: l.answers calls
    | .error f => .error f :: l.answers calls

variable {l : Lexer} {f : Fault}

/-- A lexer that fails does so whether or not a placeholder came before. -/
theorem scan_of_error (h : l.scan = .error f) :
    { l with afterPlaceholder := false }.scan = .error f := by
  obtain ⟨mode, position, rest, depth, after, peeked⟩ := l
  unfold scan at h ⊢
  dsimp only at h ⊢
  split at h
  · cases h
  · split at h
    · cases h
    · exact h

theorem step_eq_error {call : Call} (h : l.step call = .error f) :
    l.peeked = none ∧ l.scan = .error f := by
  cases call with
  | next =>
    rw [step, next] at h
    split at h
    · cases h
    · exact ⟨by assumption, h⟩
  | peek =>
    rw [step, peek] at h
    split at h
    · cases h
    · refine ⟨by assumption, ?_⟩
      cases hs : l.scan with
      | ok r => rw [hs] at h; cases h
      | error g => rw [hs] at h; cases h; rfl

theorem step_of_error {call : Call} (hp : l.peeked = none) (h : l.scan = .error f) :
    l.step call = .error f := by
  cases call with
  | next => rw [step, next, hp]; exact h
  | peek => rw [step, peek, hp, h]; rfl

end Lexer

namespace Checked.Cursor

/-- The step that a call makes. -/
def step (c : Cursor) : Lexer.Call → Checked (Cut × Cursor)
  | .next => c.next
  | .peek => c.peek

/-- A cursor after a step that failed: still in place, and no longer right behind a placeholder. -/
def failed (c : Cursor) : Cursor :=
  { c with afterPlaceholder := false, peeked := none }

/-- The answers to a sequence of calls, which goes on past faults. -/
def answers (c : Cursor) : List Lexer.Call → List (Checked Cut)
  | [] => []
  | call :: calls =>
    match c.step call with
    | .ok (cut, c) => .ok cut :: c.answers calls
    | .error halt => .error halt :: c.failed.answers calls

/-! ## Steps side by side -/

/-- A cursor stands where a lexer does, and the same token was looked at. -/
structure At (c : Cursor) (l : Lexer) : Prop where
  view : c.view = { l with peeked := none }
  peeked : c.peeked = l.peeked.map Cut.of

/-- What is the same after a step of a cursor and a step of a lexer. -/
def Stepped (c : Cursor) (r : Cut × Cursor) (s : Token × Lexer) : Prop :=
  r.1 = .of s.1 ∧ r.2.At s.2 ∧ r.2.text = c.text

variable {c : Cursor} {l : Lexer}

theorem At.scan (h : c.At l) (hp : l.peeked = none) : Mirrors c.text c.Stepped c.scan l.scan := by
  have hview : c.view = l := by rw [h.view, ← hp]
  rcases scan_cases c with ⟨t, l', hs, hc⟩ | ⟨f, hs, hc, hf⟩ <;> rw [hview] at hs <;> rw [hs, hc]
  · have ht := Lexer.scan_takes hs
    have hp' : l'.peeked = none := ht.peeked.trans hp
    refine .ok ⟨rfl, ⟨?_, ?_⟩, rfl⟩
    · rw [view_moved (hview ▸ ht), ← hp']
    · rw [hp', moved, h.peeked, hp]
  · exact .fault hf

theorem At.next (h : c.At l) : Mirrors c.text c.Stepped c.next l.next := by
  rw [Cursor.next, Lexer.next, h.peeked]
  rcases hp : l.peeked with _ | t
  · exact h.scan hp
  · exact .ok ⟨rfl, ⟨h.view, rfl⟩, rfl⟩

theorem At.peek (h : c.At l) : Mirrors c.text c.Stepped c.peek l.peek := by
  rw [Cursor.peek, Lexer.peek, h.peeked]
  rcases hp : l.peeked with _ | t
  · refine (h.scan hp).map fun ⟨cut, c'⟩ ⟨t, l'⟩ ⟨ht, hat, htext⟩ => ⟨ht, ⟨hat.view, ?_⟩, htext⟩
    exact congrArg some ht
  · exact .ok ⟨rfl, h, rfl⟩

theorem At.step (h : c.At l) (call : Lexer.Call) : Mirrors c.text c.Stepped (c.step call) (l.step call) := by
  cases call with
  | next => exact h.next
  | peek => exact h.peek

theorem at_slice (mode : Mode) (text : String) (first stop : Nat) :
    (slice mode text first stop).At (Lexer.slice mode text.toList first stop) := by
  refine ⟨?_, rfl⟩
  have htake : text.toList.take (min stop text.length) = text.toList.take stop := by
    rw [← String.length_toList]
    rcases Nat.le_total stop text.toList.length with h | h
    · rw [Nat.min_eq_left h]
    · rw [Nat.min_eq_right h, List.take_length, List.take_of_length_le h]
  simp only [slice, view, restAt, chars, htake, Lexer.slice, Lexer.start]

theorem At.failed (h : c.At l) (hp : l.peeked = none) :
    c.failed.At { l with afterPlaceholder := false } := by
  refine ⟨?_, by rw [hp]; rfl⟩
  have hview := congrArg (fun m : Lexer => { m with afterPlaceholder := false }) h.view
  exact hview

/-- A cursor gives the answers of a lexer that stands where it does. After a fault they only differ
in whether a placeholder came before, which is of no matter to a step that fails. -/
theorem answers_eq (calls : List Lexer.Call) {c : Cursor} {l : Lexer}
    (h : c.At l ∨ (∃ f, l.peeked = none ∧ l.scan = .error f) ∧ c.At { l with afterPlaceholder := false }) :
    c.answers calls = (l.answers calls).map (lifted c.text Cut.of) ∧
      ∀ f, .error f ∈ l.answers calls → f.offset ≤ c.text.length := by
  induction calls generalizing c l with
  | nil => exact ⟨rfl, nofun⟩
  | cons call calls ih =>
    -- a fault is given, and the calls go on
    have fault {f : Fault} (hp : l.peeked = none) (hs : l.scan = .error f)
        (hc : c.step call = .error (.fault ⟨f, c.text⟩)) (hf : f.offset ≤ c.text.length)
        (hat : c.failed.At { l with afterPlaceholder := false }) :
        c.answers (call :: calls) = (l.answers (call :: calls)).map (lifted c.text Cut.of) ∧
          ∀ g, .error g ∈ l.answers (call :: calls) → g.offset ≤ c.text.length := by
      obtain ⟨heq, hwithin⟩ := ih (.inr ⟨⟨f, hp, hs⟩, hat⟩)
      rw [answers, Lexer.answers, hc, Lexer.step_of_error hp hs]
      refine ⟨congrArg _ heq, fun g hg => ?_⟩
      rcases List.mem_cons.1 hg with hg | hg
      · cases hg; exact hf
      · exact hwithin g hg
    rcases h with h | ⟨⟨f, hp, hs⟩, h⟩
    · rcases (h.step call).cases with ⟨⟨cut, c'⟩, ⟨t, l'⟩, hc, hl, ht, hat, htext⟩ | ⟨f, hc, hl, hf⟩
      · obtain ⟨heq, hwithin⟩ := ih (.inl hat)
        dsimp only at ht htext
        rw [htext] at heq hwithin
        rw [answers, Lexer.answers, hc, hl, ht]
        refine ⟨congrArg _ heq, fun g hg => ?_⟩
        rcases List.mem_cons.1 hg with hg | hg
        · cases hg
        · exact hwithin g hg
      · obtain ⟨hp, hs⟩ := Lexer.step_eq_error hl
        exact fault hp hs hc hf (h.failed hp)
    · have hl : { l with afterPlaceholder := false }.step call = .error f :=
        Lexer.step_of_error hp (Lexer.scan_of_error hs)
      have hstep := h.step call
      rw [hl] at hstep
      obtain ⟨hc, hf⟩ := hstep.of_error
      exact fault hp hs hc hf (h.failed hp)

end Checked.Cursor

/-! ## The tokens that are left -/

/-- The first token and what follows it; at the end there is only the end. -/
def Lexed.next : Lexed → Except Fault (Token × Lexed)
  | .eof offset => .ok (⟨.eof, [], offset⟩, .eof offset)
  | .fault f => .error f
  | .token t rest => .ok (t, rest)

namespace Lexer

variable {l l' : Lexer} {t : Token} {x : Lexed}

/-- The tokens that a lexer has left, of which the first may have been looked at. -/
inductive Left : Lexer → Lexed → Prop where
  | fresh {l : Lexer} (hp : l.peeked = none) : Left l l.lexed
  | token {l : Lexer} {t : Token} (hp : l.peeked = some t) (ht : t.kind ≠ .eof) :
    Left l (.token t { l with peeked := none }.lexed)
  | eof {l : Lexer} {offset : Nat} (hp : l.peeked = some ⟨.eof, [], offset⟩)
    (hl : { l with peeked := none }.lexed = .eof offset) : Left l (.eof offset)

/-- The tokens of a lexer that looked at none yet, by its next step. -/
theorem scan_left (hp : l.peeked = none) :
    (∃ f, l.scan = .error f ∧ l.lexed = .fault f) ∨
      ∃ t l' x, l.scan = .ok (t, l') ∧ l'.peeked = none ∧ l.lexed.next = .ok (t, x) ∧
        l'.lexed = x ∧ { l' with peeked := some t }.Left l.lexed := by
  rcases hs : l.scan with f | ⟨t, l'⟩
  · exact .inl ⟨f, rfl, lexed_of_error hp hs⟩
  · have hp' : l'.peeked = none := (scan_takes hs).peeked.trans hp
    have hl' : { l' with peeked := none } = l' := by rw [← hp']
    refine .inr ?_
    by_cases ht : t.kind = .eof
    · obtain ⟨rfl, hrest, hpos⟩ := scan_eof hs ht
      have hl := lexed_of_nil hp ((scan_takes hs).eof.1 ht)
      have hnil := lexed_of_nil hp' hrest
      rw [hpos] at hnil
      rw [hl]
      refine ⟨_, l', _, rfl, hp', rfl, hnil, .eof rfl ?_⟩
      rw [← hnil]
      exact congrArg lexed hl'
    · have hl := lexed_of_scan hp hs ht
      rw [hl]
      refine ⟨t, l', _, rfl, hp', rfl, rfl, ?_⟩
      have := Left.token (l := { l' with peeked := some t }) rfl ht
      dsimp only at this
      rwa [hl'] at this

theorem Left.next (h : l.Left x) :
    (∃ f, l.next = .error f ∧ x.next = .error f) ∨
      ∃ t l' y, l.next = .ok (t, l') ∧ x.next = .ok (t, y) ∧ l'.Left y := by
  unfold Lexer.next
  cases h with
  | fresh hp =>
    rw [hp]
    rcases scan_left hp with ⟨f, hs, hl⟩ | ⟨t, l', x, hs, hp', hx, rfl, -⟩
    · exact .inl ⟨f, hs, by rw [hl]; rfl⟩
    · exact .inr ⟨t, l', _, hs, hx, .fresh hp'⟩
  | token hp ht =>
    rw [hp]
    exact .inr ⟨_, _, _, rfl, rfl, .fresh rfl⟩
  | eof hp hl =>
    rw [hp]
    refine .inr ⟨_, _, _, rfl, rfl, ?_⟩
    rw [← hl]
    exact .fresh rfl

theorem Left.peek (h : l.Left x) :
    (∃ f, l.peek = .error f ∧ x.next = .error f) ∨
      ∃ t l' y, l.peek = .ok (t, l') ∧ x.next = .ok (t, y) ∧ l'.Left x := by
  unfold Lexer.peek
  cases h with
  | fresh hp =>
    rw [hp]
    rcases scan_left hp with ⟨f, hs, hl⟩ | ⟨t, l', x, hs, -, hx, -, hleft⟩
    · exact .inl ⟨f, by rw [hs]; rfl, by rw [hl]; rfl⟩
    · exact .inr ⟨t, _, x, by rw [hs]; rfl, hx, hleft⟩
  | token hp ht =>
    rw [hp]
    exact .inr ⟨_, _, _, rfl, rfl, .token hp ht⟩
  | eof hp hl =>
    rw [hp]
    exact .inr ⟨_, _, _, rfl, rfl, .eof hp hl⟩

theorem size_lexed {l : Lexer} (hp : l.peeked = none) : l.lexed.size ≤ l.rest.length := by
  induction hn : l.rest.length using Nat.strong_induction_on generalizing l with
  | _ n ih =>
    subst hn
    rw [lexed_eq hp]
    rcases hs : l.scan with f | ⟨t, l'⟩
    · exact Nat.zero_le _
    · dsimp only
      split
      · exact Nat.zero_le _
      · rename_i ht
        have hlt := (scan_takes hs).length_lt ht
        have := ih _ hlt ((scan_takes hs).peeked.trans hp) rfl
        rw [Lexed.size]
        omega

end Lexer

/-- The offset where tokens end. -/
def Lexed.stop : Lexed → Nat
  | .eof offset => offset
  | .fault f => f.offset
  | .token _ rest => rest.stop

theorem Lexed.toTokensEof_eq (x : Lexed) :
    x.toTokensEof = x.toTokens.map (· ++ [⟨.eof, [], x.stop⟩]) := by
  induction x with
  | eof => rfl
  | fault => rfl
  | token t rest ih =>
    rw [toTokensEof, toTokens, ih, stop]
    cases rest.toTokens <;> rfl

/-! ## Where tokens stand -/

open Checked (PartAt)

/-- A token of a region stands in a text where it says, and has at most so many characters. -/
structure Token.Fits (text : List Char) (most : Nat) (t : Token) : Prop where
  ne_eof : t.kind ≠ .eof
  partAt : PartAt text t.start t.raw
  length_le : t.length ≤ most

/-- Tokens and the end of a region stand in a text where they say. -/
def Lexed.Fits (text : List Char) (most : Nat) : Lexed → Prop
  | .eof offset => offset ≤ text.length
  | .fault _ => True
  | .token t rest => t.Fits text most ∧ rest.Fits text most

namespace Token

variable {text : List Char} {t : Token} {most : Nat}

theorem Fits.stop_le {text : String} (h : t.Fits text.toList most) : t.stop ≤ text.length :=
  h.partAt.le_length

theorem Fits.partAt_text (h : t.Fits text most) : PartAt text t.textStart t.text :=
  h.partAt.left.right

theorem faultOffset_le_stop (t : Token) : t.faultOffset ≤ t.stop := by
  unfold faultOffset stop
  split <;> omega

theorem Fits.faultOffset_le {text : String} (h : t.Fits text.toList most) :
    t.faultOffset ≤ text.length :=
  Nat.le_trans t.faultOffset_le_stop h.stop_le

theorem Fits.mono {more : Nat} (h : t.Fits text most) (hm : most ≤ more) : t.Fits text more :=
  ⟨h.ne_eof, h.partAt, Nat.le_trans h.length_le hm⟩

theorem textStart_add (t : Token) : t.textStart + t.text.length + t.kind.closing.length = t.stop := by
  simp only [textStart, stop, length, raw, List.length_append]
  omega

theorem text_add_le (t : Token) : t.text.length + t.kind.closing.length ≤ t.length := by
  simp only [length, raw, List.length_append]
  omega

end Token

theorem Lexer.fits_lexed {text : List Char} {most : Nat} {l : Lexer} (hp : l.peeked = none)
    (h : PartAt text l.position l.rest) (hm : l.rest.length ≤ most) : l.lexed.Fits text most := by
  induction hn : l.rest.length using Nat.strong_induction_on generalizing l with
  | _ n ih =>
    subst hn
    rw [lexed_eq hp]
    rcases hs : l.scan with f | ⟨t, l'⟩
    · exact trivial
    · have ht := scan_takes hs
      have hlen := ht.length
      rw [ht.rest, ← ht.start] at h
      dsimp only
      split
      · exact Nat.le_trans (Nat.le_add_right _ _) h.le
      · rename_i hk
        refine ⟨⟨hk, h.left, by omega⟩, ?_⟩
        refine ih _ (ht.length_lt hk) (ht.peeked.trans hp) ?_ (by omega) rfl
        rw [ht.position]
        exact h.right

theorem Lexed.fits_of {mode : Mode} {text region : List Char} {offset : Nat}
    (h : PartAt text offset region) : (Lexed.of mode offset region).Fits text region.length :=
  Lexer.fits_lexed (l := .start mode offset region) rfl h (Nat.le_refl _)

theorem Lexed.Fits.mono {text : List Char} {most more : Nat} (hm : most ≤ more) :
    ∀ {x : Lexed}, x.Fits text most → x.Fits text more
  | .eof _, h => h
  | .fault _, _ => trivial
  | .token _ _, h => ⟨h.1.mono hm, mono hm h.2⟩

theorem Lexed.size_of (mode : Mode) (offset : Nat) (region : List Char) :
    (Lexed.of mode offset region).size ≤ region.length :=
  Lexer.size_lexed (l := .start mode offset region) rfl

/-! ## Cursors over the tokens that are left -/

namespace Checked.Cursor

/-- A cursor over a text has tokens left. -/
def Reads (text : String) (c : Cursor) (x : Lexed) : Prop :=
  c.text = text ∧ ∃ l, c.At l ∧ l.Left x

variable {text : String} {c : Cursor} {x : Lexed}

theorem Reads.next (h : c.Reads text x) :
    Mirrors text (fun r s => r.1 = .of s.1 ∧ r.2.Reads text s.2) c.next x.next := by
  obtain ⟨rfl, l, hat, hleft⟩ := h
  have hnext := hat.next
  rcases hleft.next with ⟨f, hl, hx⟩ | ⟨t, l', y, hl, hx, hy⟩ <;> rw [hl] at hnext <;> rw [hx]
  · obtain ⟨hc, hf⟩ := hnext.of_error
    rw [hc]
    exact .fault hf
  · obtain ⟨r, hc, hcut, hat', htext⟩ := hnext.of_ok
    rw [hc]
    exact .ok ⟨hcut, htext, l', hat', hy⟩

theorem Reads.next_eof {offset : Nat} (h : c.Reads text (.eof offset)) :
    ∃ c', c.next = .ok (.of ⟨.eof, [], offset⟩, c') := by
  obtain ⟨⟨_, c'⟩, hc, rfl, -⟩ := h.next.of_ok
  exact ⟨c', hc⟩

theorem Reads.next_fault {f : Fault} (h : c.Reads text (.fault f)) :
    c.next = .error (.fault ⟨f, text⟩) ∧ f.offset ≤ text.length :=
  h.next.of_error

theorem Reads.next_token {t : Token} {rest : Lexed} (h : c.Reads text (.token t rest)) :
    ∃ c', c.next = .ok (.of t, c') ∧ c'.Reads text rest := by
  obtain ⟨⟨_, c'⟩, hc, rfl, hrest⟩ := h.next.of_ok
  exact ⟨c', hc, hrest⟩

theorem Reads.peek (h : c.Reads text x) :
    Mirrors text (fun r s => r.1 = .of s.1 ∧ r.2.Reads text x) c.peek x.next := by
  obtain ⟨rfl, l, hat, hleft⟩ := h
  have hpeek := hat.peek
  rcases hleft.peek with ⟨f, hl, hx⟩ | ⟨t, l', y, hl, hx, hy⟩ <;> rw [hl] at hpeek <;> rw [hx]
  · obtain ⟨hc, hf⟩ := hpeek.of_error
    rw [hc]
    exact .fault hf
  · obtain ⟨r, hc, hcut, hat', htext⟩ := hpeek.of_ok
    rw [hc]
    exact .ok ⟨hcut, htext, l', hat', hy⟩

/-- A cursor over a part of a text reads the tokens of that part. -/
theorem reads_slice (mode : Mode) {first stop : Nat} {region : List Char}
    (h : PartAt text.toList first region) (hstop : first + region.length = stop) :
    (slice mode text first stop).Reads text (Lexed.of mode first region) := by
  refine ⟨rfl, _, at_slice mode text first stop, ?_⟩
  rw [Lexer.slice, ← hstop, h.take_drop, Lexed.of_eq_lexed]
  exact .fresh rfl

end Checked.Cursor

end RouteExpr
