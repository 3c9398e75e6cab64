/-
Calls that look at a token without taking it.

What a call answers depends on how many tokens were taken before it, and on nothing else. So looking
changes no later answer, and what is looked at is what is taken next. The end and a fault are never
behind a lexer, so whatever is asked past one of them is answered with it.
-/
import RouteExpr.Proofs.Checked.Parse
import RouteExpr.Proofs.Token.Separate

namespace RouteExpr

/-! ## Answers of tokens -/

namespace Lexed

/-- The first token, the end being one. -/
def first : Lexed → Except Fault Token
  | eof offset => .ok ⟨.eof, [], offset⟩
  | fault f => .error f
  | token t _ => .ok t

/-- What is left behind the first token. The end and a fault are left as they are. -/
def behind : Lexed → Lexed
  | token _ rest => rest
  | x => x

/-- What is left behind so many tokens. -/
def drop : Nat → Lexed → Lexed
  | 0, x => x
  | n + 1, x => drop n x.behind

/-- What tokens answer to a sequence of calls. -/
def answers (x : Lexed) : List Lexer.Call → List (Except Fault Token)
  | [] => []
  | .next :: calls => x.first :: x.behind.answers calls
  | .peek :: calls => x.first :: x.answers calls

variable {x : Lexed} {t : Token} {f : Fault} {calls : List Lexer.Call}

theorem next_eq (x : Lexed) : x.next = x.first.map fun t => (t, x.behind) := by
  cases x <;> rfl

theorem first_of_next_ok {y : Lexed} (h : x.next = .ok (t, y)) : x.first = .ok t ∧ x.behind = y := by
  rw [next_eq] at h
  obtain ⟨u, hu, heq⟩ := map_eq_ok h
  cases heq
  exact ⟨hu, rfl⟩

theorem first_of_next_error (h : x.next = .error f) : x.first = .error f ∧ x.behind = x := by
  cases x with
  | fault g => cases h; exact ⟨rfl, rfl⟩
  | eof offset => cases h
  | token u rest => cases h

theorem drop_add (n k : Nat) (x : Lexed) : x.drop (n + k) = (x.drop n).drop k := by
  induction n generalizing x with
  | zero => rw [Nat.zero_add]; rfl
  | succ n ih =>
    rw [Nat.succ_add]
    exact ih x.behind

theorem drop_of_behind (h : x.behind = x) (n : Nat) : x.drop n = x := by
  induction n with
  | zero => rfl
  | succ n ih => rw [drop, h, ih]

theorem tokens_drop (n : Nat) (x : Lexed) : (x.drop n).tokens ⊆ x.tokens := by
  induction n generalizing x with
  | zero => exact List.Subset.refl _
  | succ n ih =>
    have hbehind : x.behind.tokens ⊆ x.tokens := by
      cases x with
      | token t rest => exact List.subset_cons_self t rest.tokens
      | eof offset => exact List.Subset.refl _
      | fault f => exact List.Subset.refl _
    exact List.Subset.trans (ih x.behind) hbehind

theorem length_answers (calls : List Lexer.Call) (x : Lexed) : (x.answers calls).length = calls.length := by
  induction calls generalizing x with
  | nil => rfl
  | cons call calls ih => cases call <;> simp only [answers, List.length_cons, ih]

/-- A call is answered with the first of what the calls before it left. -/
theorem getElem?_answers (calls : List Lexer.Call) (x : Lexed) (i : Nat) :
    (x.answers calls)[i]? = calls[i]?.map fun _ => (x.drop ((calls.take i).count .next)).first := by
  induction calls generalizing x i with
  | nil => rfl
  | cons call calls ih =>
    cases i with
    | zero => cases call <;> rfl
    | succ i =>
      cases call with
      | next =>
        rw [answers, List.getElem?_cons_succ, ih, List.take_succ_cons, List.count_cons_self]
        rfl
      | peek =>
        rw [answers, List.getElem?_cons_succ, ih, List.take_succ_cons,
          List.count_cons_of_ne (by decide)]
        rfl

end Lexed

/-- A lexer answers as the tokens that it has left. -/
theorem Lexer.Left.answers_eq (calls : List Call) {l : Lexer} {x : Lexed} (h : l.Left x) :
    l.answers calls = x.answers calls := by
  induction calls generalizing l x with
  | nil => rfl
  | cons call calls ih =>
    cases call with
    | next =>
      rw [Lexer.answers, step, Lexed.answers]
      rcases h.next with ⟨f, hl, hx⟩ | ⟨t, l', y, hl, hx, hy⟩
      · obtain ⟨hfirst, hbehind⟩ := Lexed.first_of_next_error hx
        rw [hl, hfirst, hbehind]
        exact congrArg _ (ih h)
      · obtain ⟨hfirst, hbehind⟩ := Lexed.first_of_next_ok hx
        rw [hl, hfirst, hbehind]
        exact congrArg _ (ih hy)
    | peek =>
      rw [Lexer.answers, step, Lexed.answers]
      rcases h.peek with ⟨f, hl, hx⟩ | ⟨t, l', y, hl, hx, hleft⟩
      · rw [hl, (Lexed.first_of_next_error hx).1]
        exact congrArg _ (ih h)
      · rw [hl, (Lexed.first_of_next_ok hx).1]
        exact congrArg _ (ih hleft)

/-! ## Peeks and ends -/

namespace Lexer

/-- The answers to the calls that take a token, of the answers to all calls. -/
def taken {α : Type} (calls : List Call) (answers : List α) : List α :=
  ((calls.zip answers).filter fun p => p.1 = .next).map Prod.snd

/-- A way to answer calls in which looking is not noticed and an end is not left. -/
structure Steady {α : Type} (Final : α → Prop) (ask : List Call → List α) : Prop where
  /-- Each call has an answer. -/
  length_eq (calls : List Call) : (ask calls).length = calls.length
  /-- Without the calls that look, those that take tokens are answered the same. -/
  taken_eq (calls : List Call) : taken calls (ask calls) = ask (calls.filter (· = .next))
  /-- A call that looks is answered as the next one that takes a token. -/
  peek_eq_next (calls : List Call) (i j : Nat) (hij : i < j)
    (hpeek : ∀ k, i ≤ k → k < j → calls[k]? = some .peek) (hnext : calls[j]? = some .next) :
    (ask calls)[i]? = (ask calls)[j]?
  /-- Past an answer that is an end, each call has that answer. -/
  end_stays (calls : List Call) (i j : Nat) (answer : α) (hij : i ≤ j) (hj : j < calls.length)
    (hi : (ask calls)[i]? = some answer) (hend : Final answer) : (ask calls)[j]? = some answer

/-- An answer is an error, or a token at the end. -/
def IsEnd {ε α : Type} (kind : α → Token.Kind) : Except ε α → Prop
  | .ok a => kind a = .eof
  | .error _ => True

theorem taken_cons {α : Type} (call : Call) (calls : List Call) (a : α) (answers : List α) :
    taken (call :: calls) (a :: answers) =
      if call = .next then a :: taken calls answers else taken calls answers := by
  unfold taken
  rw [List.zip_cons_cons, List.filter_cons]
  cases call <;> rfl

theorem taken_map {α β : Type} (g : α → β) (calls : List Call) (answers : List α) :
    taken calls (answers.map g) = (taken calls answers).map g := by
  induction calls generalizing answers with
  | nil => rfl
  | cons call calls ih =>
    cases answers with
    | nil => rfl
    | cons a answers =>
      rw [List.map_cons, taken_cons, taken_cons, ih]
      split <;> rfl

/-- Answers that are made of others are as steady as those. -/
theorem Steady.map {α β : Type} {Final : α → Prop} {Final' : β → Prop} {ask : List Call → List α}
    (h : Steady Final ask) (g : α → β) (hg : ∀ a, Final' (g a) → Final a) :
    Steady Final' fun calls => (ask calls).map g where
  length_eq calls := by rw [List.length_map, h.length_eq]
  taken_eq calls := by rw [taken_map, h.taken_eq]
  peek_eq_next calls i j hij hpeek hnext := by
    rw [List.getElem?_map, List.getElem?_map, h.peek_eq_next calls i j hij hpeek hnext]
  end_stays calls i j answer hij hj hi hend := by
    rw [List.getElem?_map] at hi ⊢
    obtain ⟨a, ha, rfl⟩ := Option.map_eq_some_iff.1 hi
    rw [h.end_stays calls i j a hij hj ha (hg a hend), Option.map_some]

end Lexer

namespace Lexed

open Lexer (taken taken_cons Steady IsEnd)

variable {x : Lexed}

theorem taken_answers (calls : List Lexer.Call) (x : Lexed) :
    taken calls (x.answers calls) = x.answers (calls.filter (· = .next)) := by
  induction calls generalizing x with
  | nil => rfl
  | cons call calls ih =>
    cases call with
    | next => rw [answers, taken_cons, if_pos rfl, List.filter_cons_of_pos (by decide), answers, ih]
    | peek => rw [answers, taken_cons, if_neg (by decide), List.filter_cons_of_neg (by decide), ih]

/-- Nothing is left behind an end. -/
theorem behind_of_isEnd (hx : ∀ t ∈ x.tokens, t.kind ≠ .eof) (h : IsEnd Token.kind x.first) :
    x.behind = x := by
  cases x with
  | eof offset => rfl
  | fault f => rfl
  | token t rest => exact absurd h (hx t List.mem_cons_self)

theorem answers_steady (hx : ∀ t ∈ x.tokens, t.kind ≠ .eof) : Steady (IsEnd Token.kind) x.answers where
  length_eq calls := x.length_answers calls
  taken_eq calls := x.taken_answers calls
  peek_eq_next calls i j hij hpeek hnext := by
    -- between the two calls no token is taken
    have hcount : (calls.take i).count .next = (calls.take j).count .next := by
      have hsplit : calls.take j = calls.take i ++ (calls.take j).drop i := by
        conv_lhs => rw [← List.take_append_drop i (calls.take j)]
        rw [List.take_take, Nat.min_eq_left (Nat.le_of_lt hij)]
      have hnone : ((calls.take j).drop i).count .next = 0 := by
        rw [List.count_eq_zero]
        intro hmem
        obtain ⟨k, hk⟩ := List.mem_iff_getElem?.1 hmem
        rw [List.getElem?_drop, List.getElem?_take] at hk
        split at hk
        · rename_i hlt
          rw [hpeek (i + k) (Nat.le_add_right i k) hlt] at hk
          cases hk
        · cases hk
      rw [hsplit, List.count_append, hnone, Nat.add_zero]
    rw [getElem?_answers, getElem?_answers, hpeek i (Nat.le_refl i) hij, hnext, hcount]
    rfl
  end_stays calls i j answer hij hj hi hend := by
    rw [getElem?_answers] at hi ⊢
    obtain ⟨_, -, rfl⟩ := Option.map_eq_some_iff.1 hi
    obtain ⟨k, hk⟩ : ∃ k, (calls.take j).count .next = (calls.take i).count .next + k := by
      refine ⟨_, (Nat.add_sub_of_le ?_).symm⟩
      exact (List.take_sublist_take_left hij).count_le _
    have hbehind := behind_of_isEnd (fun t ht => hx t (tokens_drop _ x ht)) hend
    rw [hk, drop_add, drop_of_behind hbehind, List.getElem?_eq_getElem hj]
    rfl

end Lexed

theorem Lexer.ne_eof_of_mem_lexed {l : Lexer} {t : Token} (hp : l.peeked = none)
    (ht : t ∈ l.lexed.tokens) : t.kind ≠ .eof := by
  obtain ⟨l₁, l₂, -, hne, hs, -⟩ := scan_of_mem_tokens l hp ht
  intro hk
  exact hne ((scan_takes hs).eof.1 hk)

namespace Checked

/-- Whatever is asked of a lexer over a region, looking at a token changes no answer to the calls that
take tokens, gives the token that is taken next, and once the end or a fault is found it is found again
and again. The same goes for a cursor, which forgets at a fault that it stood behind a placeholder. -/
theorem slice_steady (mode : Mode) (text : String) (first stop : Nat) :
    Lexer.Steady (Lexer.IsEnd Token.kind) (Lexer.slice mode text.toList first stop).answers ∧
    Lexer.Steady (Lexer.IsEnd fun cut => cut.token.kind) (Cursor.slice mode text first stop).answers := by
  have hlexer : Lexer.Steady (Lexer.IsEnd Token.kind)
      (Lexer.slice mode text.toList first stop).answers := by
    have hleft := Lexer.Left.fresh (l := Lexer.slice mode text.toList first stop) rfl
    rw [funext fun calls => hleft.answers_eq calls]
    exact Lexed.answers_steady fun t ht => Lexer.ne_eof_of_mem_lexed rfl ht
  refine ⟨hlexer, ?_⟩
  rw [funext fun calls => (answers_slice mode text first stop calls).1]
  refine hlexer.map _ fun answer hend => ?_
  cases answer with
  | ok t => exact hend
  | error f => trivial

end Checked

end RouteExpr
