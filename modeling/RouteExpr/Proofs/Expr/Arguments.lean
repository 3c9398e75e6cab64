/-
What stands between the parentheses of a call, token by token.

In an argument no parenthesis closes that was not opened there, and commas stand inside parentheses
only. So a walk over its tokens ends at the depth where it began, and neither the parenthesis that
closes the call nor the comma that ends the argument is found before the argument is over.
-/
import RouteExpr.Proofs.Expr.Parts
import RouteExpr.Proofs.Token.Balance

namespace RouteExpr

open Lexer Token

/-! ## Parentheses of texts -/

/-- A text in front of which `k` parentheses are open: none closes that is not open, no comma stands
outside of all, and in the end all are closed. -/
structure Enclosed (k : Nat) (cs : List Char) : Prop where
  closes : ∀ u v, cs = u ++ ')' :: v → u.count ')' < k + u.count '('
  commas : ∀ u v, cs = u ++ ',' :: v → u.count ')' < k + u.count '('
  even : cs.count ')' = k + cs.count '('

theorem enclosed_iff {k : Nat} {cs : List Char} : Enclosed k cs ↔
    (∀ i < cs.length, cs[i]? = some ')' → (cs.take i).count ')' < k + (cs.take i).count '(') ∧
    (∀ i < cs.length, cs[i]? = some ',' → (cs.take i).count ')' < k + (cs.take i).count '(') ∧
    cs.count ')' = k + cs.count '(' := by
  rw [← forall_before_iff (p := fun u => u.count ')' < k + u.count '('),
    ← forall_before_iff (p := fun u => u.count ')' < k + u.count '(')]
  exact ⟨fun h => ⟨h.closes, h.commas, h.even⟩, fun ⟨h1, h2, h3⟩ => ⟨h1, h2, h3⟩⟩

instance (k : Nat) (cs : List Char) : Decidable (Enclosed k cs) :=
  decidable_of_iff _ enclosed_iff.symm

namespace Enclosed

variable {k : Nat} {cs u : List Char}

theorem openParen (h : Enclosed k ('(' :: cs)) : Enclosed (k + 1) cs := by
  have step (v : List Char) : k + ('(' :: v).count '(' = k + 1 + v.count '(' ∧
      ('(' :: v).count ')' = v.count ')' := by
    rw [List.count_cons_self, List.count_cons_of_ne (by decide)]
    omega
  refine ⟨fun u v huv => ?_, fun u v huv => ?_, ?_⟩
  · have := h.closes ('(' :: u) v (by rw [huv, List.cons_append])
    rwa [(step u).1, (step u).2] at this
  · have := h.commas ('(' :: u) v (by rw [huv, List.cons_append])
    rwa [(step u).1, (step u).2] at this
  · have := h.even
    rwa [(step cs).1, (step cs).2] at this

theorem closeParen (h : Enclosed k (')' :: cs)) : ∃ j, k = j + 1 ∧ Enclosed j cs := by
  have hopen := h.closes [] cs rfl
  obtain ⟨j, rfl⟩ : ∃ j, k = j + 1 := ⟨k - 1, by simp at hopen; omega⟩
  have step (v : List Char) : (')' :: v).count ')' = v.count ')' + 1 ∧
      (')' :: v).count '(' = v.count '(' :=
    ⟨List.count_cons_self, List.count_cons_of_ne (by decide)⟩
  refine ⟨j, rfl, fun u v huv => ?_, fun u v huv => ?_, ?_⟩
  · have := h.closes (')' :: u) v (by rw [huv, List.cons_append])
    rw [(step u).1, (step u).2] at this
    omega
  · have := h.commas (')' :: u) v (by rw [huv, List.cons_append])
    rw [(step u).1, (step u).2] at this
    omega
  · have := h.even
    rw [(step cs).1, (step cs).2] at this
    omega

theorem comma (h : Enclosed k (',' :: cs)) : 0 < k :=
  h.commas [] cs rfl

/-- Text without parentheses changes nothing. -/
theorem of_append (h : Enclosed k (u ++ cs)) (hu : ∀ c ∈ u, c ≠ '(' ∧ c ≠ ')') :
    Enclosed k cs := by
  have hopen : u.count '(' = 0 := List.count_eq_zero.2 fun hc => (hu _ hc).1 rfl
  have hclose : u.count ')' = 0 := List.count_eq_zero.2 fun hc => (hu _ hc).2 rfl
  refine ⟨fun a b hab => ?_, fun a b hab => ?_, ?_⟩
  · have := h.closes (u ++ a) b (by rw [hab, List.append_assoc])
    rw [List.count_append, List.count_append] at this
    omega
  · have := h.commas (u ++ a) b (by rw [hab, List.append_assoc])
    rw [List.count_append, List.count_append] at this
    omega
  · have := h.even
    rw [List.count_append, List.count_append] at this
    omega

end Enclosed

/-! ## Parentheses of tokens -/

namespace Expr

/-- Tokens from one depth of parentheses to another, of which none closes a parenthesis that was open
before the walk at depth 0, and none is a comma there. -/
inductive Nests : Nat → List Token → Nat → Prop
  | nil (d : Nat) : Nests d [] d
  | cons {d e : Nat} {t : Token} {ts : List Token}
    (ht : t.kind = .closeParen ∨ t.kind = .comma → 0 < d)
    (hts : Nests (depthPast d t.kind) ts e) : Nests d (t :: ts) e

namespace Nests

variable {d e f : Nat} {ts us : List Token}

theorem append (hts : Nests d ts e) (hus : Nests e us f) : Nests d (ts ++ us) f := by
  induction hts with
  | nil d => exact hus
  | cons ht _ ih => exact .cons ht (ih hus)

/-- Tokens that are neither parentheses nor commas stay at their depth. -/
theorem of_flat (h : ∀ t ∈ ts, t.kind ≠ .openParen ∧ t.kind ≠ .closeParen ∧ t.kind ≠ .comma) :
    Nests d ts d := by
  induction ts with
  | nil => exact .nil d
  | cons t ts ih =>
    obtain ⟨ho, hc, hcomma⟩ := h t List.mem_cons_self
    refine .cons (fun ht => ?_) ?_
    · rcases ht with ht | ht
      · exact absurd ht hc
      · exact absurd ht hcomma
    · have hd : depthPast d t.kind = d := by
        unfold depthPast
        split
        · rename_i hk; exact absurd hk ho
        · rename_i hk; exact absurd hk hc
        · rfl
      rw [hd]
      exact ih fun u hu => h u (List.mem_cons_of_mem _ hu)

/-- The parenthesis that closes the call is not among the tokens. -/
theorem takeInner_append (h : Nests d ts e) (us : List Token) :
    takeInner d (ts ++ us) = (takeInner e us).map fun p => (ts ++ p.1, p.2) := by
  induction h with
  | nil d => cases h : takeInner d us <;> simp [h]
  | @cons d e t ts ht hts ih =>
    rw [List.cons_append, takeInner_cons, if_neg, ih, Option.map_map]
    · rfl
    · rintro ⟨hk, rfl⟩
      exact absurd (ht (.inl hk)) (Nat.lt_irrefl 0)

/-- No comma that ends an argument is among the tokens. -/
theorem splitArguments_append (h : Nests d ts e) (us : List Token) :
    splitArguments d (ts ++ us) = ts.foldr consFirst (splitArguments e us) := by
  induction h with
  | nil d => rfl
  | @cons d e t ts ht hts ih =>
    rw [List.cons_append, splitArguments_cons, if_neg, ih, List.foldr_cons]
    rintro ⟨hk, rfl⟩
    exact absurd (ht (.inr hk)) (Nat.lt_irrefl 0)

end Nests

theorem foldr_consFirst (ts first : List Token) (others : List (List Token)) :
    ts.foldr consFirst (first :: others) = (ts ++ first) :: others := by
  induction ts with
  | nil => rfl
  | cons t ts ih => rw [List.foldr_cons, ih]; rfl

theorem splitArguments_of_nests {ts : List Token} (h : Nests 0 ts 0) : splitArguments 0 ts = [ts] := by
  have := h.splitArguments_append []
  rwa [List.append_nil, splitArguments, foldr_consFirst, List.append_nil] at this

theorem splitArguments_comma {ts us : List Token} {t : Token} (h : Nests 0 ts 0)
    (ht : t.kind = .comma) : splitArguments 0 (ts ++ t :: us) = ts :: splitArguments 0 us := by
  rw [h.splitArguments_append, splitArguments_cons, if_pos ⟨ht, rfl⟩, foldr_consFirst,
    List.append_nil]

/-! ## Blanks around tokens -/

/-- Blanks around tokens are trimmed. -/
theorem trimTokens_between {front ts back : List Token} (hfront : ∀ t ∈ front, t.isBlank = true)
    (hback : ∀ t ∈ back, t.isBlank = true) (hhead : ∀ t ∈ ts.head?, t.isBlank = false)
    (hlast : ∀ t ∈ ts.getLast?, t.isBlank = false) (hne : ts ≠ []) :
    trimTokens (front ++ ts ++ back) = ts := by
  obtain ⟨t, ts', rfl⟩ := List.exists_cons_of_ne_nil hne
  have hstart : (front ++ (t :: ts') ++ back).dropWhile Token.isBlank = (t :: ts') ++ back := by
    rw [List.append_assoc, List.dropWhile_append_of_pos hfront, List.cons_append,
      List.dropWhile_cons_of_neg (by rw [hhead t rfl]; decide)]
  have hrev : (t :: ts').reverse.dropWhile Token.isBlank = (t :: ts').reverse := by
    cases hr : (t :: ts').reverse with
    | nil => rfl
    | cons u us =>
      have hu : u ∈ (t :: ts').getLast? := by
        rw [← List.head?_reverse, hr]
        exact rfl
      rw [List.dropWhile_cons_of_neg (by rw [hlast u hu]; decide)]
  unfold trimTokens
  rw [hstart, List.reverse_append,
    List.dropWhile_append_of_pos fun t ht => hback t (List.mem_reverse.1 ht), hrev,
    List.reverse_reverse]

end Expr

end RouteExpr
