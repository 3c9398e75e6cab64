/-
How the tokens inside a block are grouped.

Which tokens are the name of a call, and which are an argument, is decided by parentheses, commas and
blanks alone. So tokens that are changed, but for their kinds, are grouped as they were, and each group
is a run of the tokens.
-/
import RouteExpr.Proofs.Expr.Parts
import Mathlib.Data.List.TakeWhile

namespace RouteExpr

open RouteExpr.Expr

/-! ## Groups of changed tokens -/

namespace KeepsKinds

variable {f : Token → Token}

theorem isBlank_comp (hf : KeepsKinds f) : Token.isBlank ∘ f = Token.isBlank := by
  funext t
  exact decide_eq_decide.2 (hf t .blank rfl)

theorem depthPast_kind (hf : KeepsKinds f) (d : Nat) (t : Token) :
    depthPast d (f t).kind = depthPast d t.kind := by
  have hopen := hf t .openParen rfl
  have hclose := hf t .closeParen rfl
  generalize (f t).kind = k at hopen hclose ⊢
  generalize t.kind = k' at hopen hclose ⊢
  by_cases ho : k' = .openParen
  · rw [ho, hopen.2 ho]
  by_cases hc : k' = .closeParen
  · rw [hc, hclose.2 hc]
  have same {k : Token.Kind} (ho : k ≠ .openParen) (hc : k ≠ .closeParen) : depthPast d k = d := by
    cases k <;> first | rfl | contradiction
  rw [same ho hc, same (mt hopen.1 ho) (mt hclose.1 hc)]

theorem trimTokens_map (hf : KeepsKinds f) (ts : List Token) :
    trimTokens (ts.map f) = (trimTokens ts).map f := by
  unfold trimTokens
  rw [List.dropWhile_map, hf.isBlank_comp, ← List.map_reverse, List.dropWhile_map, hf.isBlank_comp,
    List.map_reverse]

theorem takeInner_map (hf : KeepsKinds f) (d : Nat) (ts : List Token) :
    takeInner d (ts.map f) = (takeInner d ts).map fun p => (p.1.map f, p.2.map f) := by
  induction ts generalizing d with
  | nil => rfl
  | cons t ts ih =>
    simp only [List.map_cons, takeInner_cons, hf t .closeParen rfl, hf.depthPast_kind, ih]
    split
    · rfl
    · cases takeInner (depthPast d t.kind) ts <;> rfl

theorem splitCall?_map (hf : KeepsKinds f) (ts : List Token) :
    splitCall? (ts.map f) = (splitCall? ts).map fun p => (p.1.map f, p.2.map f) := by
  unfold splitCall?
  have hopen : (fun t : Token => !decide (t.kind = .openParen)) ∘ f =
      fun t => !decide (t.kind = .openParen) := by
    funext t
    exact congrArg (!·) (decide_eq_decide.2 (hf t .openParen rfl))
  dsimp only
  rw [List.dropWhile_map, List.takeWhile_map, hopen]
  generalize List.dropWhile _ ts = opened
  rcases opened with _ | ⟨t, after⟩
  · rfl
  · simp only [List.map_cons, hf.takeInner_map]
    rcases takeInner 0 after with _ | ⟨inner, rest⟩
    · rfl
    · simp only [Option.map_some, Option.bind_some, List.all_map, hf.isBlank_comp]
      split <;> rfl

theorem consFirst_map (f : Token → Token) (t : Token) (parts : List (List Token)) :
    consFirst (f t) (parts.map (List.map f)) = (consFirst t parts).map (List.map f) := by
  cases parts <;> rfl

theorem splitArguments_map (hf : KeepsKinds f) (d : Nat) (ts : List Token) :
    splitArguments d (ts.map f) = (splitArguments d ts).map (List.map f) := by
  induction ts generalizing d with
  | nil => rfl
  | cons t ts ih =>
    simp only [List.map_cons, splitArguments_cons, hf t .comma rfl, hf.depthPast_kind, ih, consFirst_map]
    split <;> rfl

end KeepsKinds

/-! ## Groups as runs of the tokens -/

namespace Expr

variable {ts : List Token}

/-- Trimming takes blanks away at both ends. -/
theorem trimTokens_split (ts : List Token) : ∃ front back, ts = front ++ trimTokens ts ++ back ∧
    ∀ t ∈ front ++ back, t.isBlank = true := by
  refine ⟨ts.takeWhile Token.isBlank,
    ((ts.dropWhile Token.isBlank).reverse.takeWhile Token.isBlank).reverse, ?_, ?_⟩
  · unfold trimTokens
    rw [List.append_assoc, ← List.reverse_append, List.takeWhile_append_dropWhile,
      List.reverse_reverse, List.takeWhile_append_dropWhile]
  · intro t ht
    rcases List.mem_append.1 ht with ht | ht
    · exact List.mem_takeWhile_imp ht
    · exact List.mem_takeWhile_imp (List.mem_reverse.1 ht)

theorem trimTokens_isInfix (ts : List Token) : trimTokens ts <:+: ts := by
  obtain ⟨front, back, hts, -⟩ := trimTokens_split ts
  exact ⟨front, back, hts.symm⟩

theorem splitCall?_isInfix {name args : List Token} (h : splitCall? ts = some (name, args)) :
    name <:+: ts ∧ args <:+: ts := by
  obtain ⟨o, c, rest, rfl, -⟩ := splitCall?_eq_some h
  exact ⟨⟨[], _, rfl⟩, ⟨name ++ [o], c :: rest, by simp⟩⟩

/-- The first argument starts the tokens, and the others are among them. -/
theorem splitArguments_isInfix (d : Nat) (ts : List Token) : ∃ first rest,
    splitArguments d ts = first :: rest ∧ first <+: ts ∧ ∀ part ∈ rest, part <:+: ts := by
  induction ts generalizing d with
  | nil => exact ⟨[], [], rfl, List.nil_prefix, by simp⟩
  | cons t ts ih =>
    have longer {part : List Token} (h : part <:+: ts) : part <:+: t :: ts :=
      h.trans (List.suffix_cons t ts).isInfix
    rw [splitArguments_cons]
    split
    · obtain ⟨first, rest, heq, hfirst, hrest⟩ := ih 0
      refine ⟨[], first :: rest, by rw [heq], List.nil_prefix, fun part hp => ?_⟩
      rcases List.mem_cons.1 hp with rfl | hp
      · exact longer hfirst.isInfix
      · exact longer (hrest part hp)
    · obtain ⟨first, rest, heq, hfirst, hrest⟩ := ih (depthPast d t.kind)
      rw [heq]
      exact ⟨t :: first, rest, rfl, (List.prefix_cons_inj t).2 hfirst,
        fun part hp => longer (hrest part hp)⟩

theorem isInfix_of_mem_splitArguments {part : List Token} (h : part ∈ splitArguments 0 ts) :
    part <:+: ts := by
  obtain ⟨first, rest, heq, hfirst, hrest⟩ := splitArguments_isInfix 0 ts
  rw [heq] at h
  rcases List.mem_cons.1 h with rfl | h
  · exact hfirst.isInfix
  · exact hrest part h

end Expr

end RouteExpr
