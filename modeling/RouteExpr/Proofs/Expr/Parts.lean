/-
What the readers of expressions make of one token.

A placeholder token is a node, together with the suffix behind it in a template; any other token is
text, and joins the text behind it.
-/
import RouteExpr.Expr.Reader
import RouteExpr.Proofs.Result
import RouteExpr.Proofs.Token.Scan

namespace RouteExpr

/-! ## Placeholders with their suffixes -/

/-- The suffix that tokens start with, and the tokens after it. -/
def Lexed.takeSuffix : Lexed → Option Step × Lexed
  | .token ⟨.suffix s, _, _⟩ rest => (some s, rest)
  | l => (none, l)

theorem Lexed.takeSuffix_token {t : Token} {rest : Lexed} (h : ∀ s, t.kind ≠ .suffix s) :
    (Lexed.token t rest).takeSuffix = (none, .token t rest) := by
  obtain ⟨kind, text, start⟩ := t
  cases kind <;> first | rfl | exact absurd rfl (h _)

/-- In front of any tokens, tokens of one kind are both the same suffix or neither is one. -/
theorem Lexed.takeSuffix_sameKind {t t' : Token} (h : t.SameKind t') (rest rest' : Lexed) :
    (∃ s, (Lexed.token t rest).takeSuffix = (some s, rest) ∧
      (Lexed.token t' rest').takeSuffix = (some s, rest')) ∨
    (Lexed.token t rest).takeSuffix = (none, .token t rest) ∧
      (Lexed.token t' rest').takeSuffix = (none, .token t' rest') := by
  have taken {t : Token} {s : Step} (hs : t.kind = .suffix s) (rest : Lexed) :
      (Lexed.token t rest).takeSuffix = (some s, rest) := by
    obtain ⟨kind, text, start⟩ := t
    cases hs
    rfl
  by_cases hs : ∃ s, t.kind = .suffix s
  · obtain ⟨s, hs⟩ := hs
    exact .inl ⟨s, taken hs rest, taken ((h _ rfl).1 hs) rest'⟩
  · rw [not_exists] at hs
    exact .inr ⟨takeSuffix_token hs, takeSuffix_token fun s => mt (h _ rfl).2 (hs s)⟩

theorem Lexed.tokens_takeSuffix (l : Lexed) : l.takeSuffix.2.tokens <:+ l.tokens := by
  unfold takeSuffix
  split
  · exact List.suffix_cons _ _
  · exact List.suffix_refl _

theorem Lexed.size_takeSuffix (l : Lexed) : l.takeSuffix.2.size ≤ l.size := by
  unfold takeSuffix; split
  · exact Nat.le_succ _
  · exact Nat.le_refl _

namespace Expr

/-- An expression with the suffix behind it, if there is one. -/
def stepped : Option Step → Expr → Expr
  | none, e => e
  | some s, e => step s e

variable {block : ReadBlock}

theorem templateParts_placeholder {t : Token} {rest : Lexed} {m : Marker}
    (ht : t.kind = .placeholder m) :
    templateParts block (.token t rest) = (do
      let node ← block t
      return stepped rest.takeSuffix.1 node :: (← templateParts block rest.takeSuffix.2)) := by
  rw [templateParts, ht]
  rcases rest with offset | f | ⟨⟨kind, text, start⟩, rest⟩
  · rfl
  · rfl
  · cases kind <;> rfl

theorem templateParts_text {t : Token} {rest : Lexed} (ht : t.kind.isPlaceholder = false) :
    templateParts block (.token t rest) = (templateParts block rest).map (prependText t.raw) := by
  rw [templateParts]
  split
  · rename_i m hm; rw [hm] at ht; cases ht
  · cases templateParts block rest <;> rfl

theorem segmentParts_placeholder {t : Token} {ts : List Token} {m : Marker}
    (ht : t.kind = .placeholder m) :
    segmentParts block (t :: ts) = (do
      let node ← block t
      return node :: (← segmentParts block ts)) := by
  rw [segmentParts, ht]

theorem segmentParts_text {t : Token} {ts : List Token} (ht : t.kind.isPlaceholder = false) :
    segmentParts block (t :: ts) = (segmentParts block ts).map (prependText t.raw) := by
  rw [segmentParts]
  split
  · rename_i m hm; rw [hm] at ht; cases ht
  · cases segmentParts block ts <;> rfl

theorem isPlaceholder_iff {k : Token.Kind} : k.isPlaceholder = true ↔ ∃ m, k = .placeholder m := by
  cases k <;> simp [Token.Kind.isPlaceholder]

theorem prependText_append (cs ds : List Char) (parts : List Expr) :
    prependText (cs ++ ds) parts = prependText cs (prependText ds parts) := by
  rcases parts with _ | ⟨e, parts⟩
  · simp [prependText]
  · cases e <;> simp [prependText, String.append_assoc]

/-! ## Arguments -/

/-- Parts with one token more at the start of the first. -/
def consFirst (t : Token) : List (List Token) → List (List Token)
  | [] => [[t]]
  | first :: others => (t :: first) :: others

/-- How many parentheses are open behind a token. -/
def depthPast (d : Nat) : Token.Kind → Nat
  | .openParen => d + 1
  | .closeParen => d - 1
  | _ => d

/-- A comma outside of parentheses ends an argument; any other token goes to the first one. -/
theorem splitArguments_cons (d : Nat) (t : Token) (ts : List Token) :
    splitArguments d (t :: ts) =
      if t.kind = .comma ∧ d = 0 then [] :: splitArguments 0 ts
      else consFirst t (splitArguments (depthPast d t.kind) ts) := by
  obtain ⟨kind, text, start⟩ := t
  cases kind with
  | comma => cases d <;> rfl
  | _ => rfl

/-- A parenthesis that closes none of those in between ends the tokens; any other token is one of
them. -/
theorem takeInner_cons (d : Nat) (t : Token) (ts : List Token) :
    takeInner d (t :: ts) =
      if t.kind = .closeParen ∧ d = 0 then some ([], ts)
      else (takeInner (depthPast d t.kind) ts).map fun p => (t :: p.1, p.2) := by
  obtain ⟨kind, text, start⟩ := t
  cases kind with
  | closeParen => cases d <;> rfl
  | _ => cases d <;> rfl

theorem takeInner_eq_some : ∀ {ts : List Token} {d : Nat} {inner rest : List Token},
    takeInner d ts = some (inner, rest) → ∃ t, t.kind = .closeParen ∧ ts = inner ++ t :: rest
  | [], _, _, _, h => by cases h
  | t :: ts, d, inner, rest, h => by
    rw [takeInner_cons] at h
    split at h
    · rename_i hclose
      cases h
      exact ⟨t, hclose.1, rfl⟩
    · obtain ⟨⟨inner', rest'⟩, hi, he⟩ := Option.map_eq_some_iff.1 h
      cases he
      obtain ⟨u, hu, rfl⟩ := takeInner_eq_some hi
      exact ⟨u, hu, rfl⟩

/-- A call is a name, the arguments between parentheses, and blanks. -/
theorem splitCall?_eq_some {ts name args : List Token} (h : splitCall? ts = some (name, args)) :
    ∃ o c rest, ts = name ++ o :: (args ++ c :: rest) ∧ o.kind = .openParen ∧ c.kind = .closeParen ∧
      ∀ t ∈ rest, t.isBlank = true := by
  unfold splitCall? at h
  dsimp only at h
  split at h
  · cases h
  · rename_i o after hafter
    obtain ⟨⟨inner, rest⟩, hi, h⟩ := Option.bind_eq_some_iff.1 h
    dsimp only at h
    split at h
    · rename_i hrest
      cases h
      obtain ⟨c, hc, rfl⟩ := takeInner_eq_some hi
      have hts := List.takeWhile_append_dropWhile (p := fun t : Token => !decide (t.kind = .openParen))
        (l := ts)
      have ho := List.head?_dropWhile_not (fun t : Token => !decide (t.kind = .openParen)) ts
      rw [hafter] at hts ho
      exact ⟨o, c, rest, hts.symm, by simpa using ho, hc, List.all_eq_true.1 hrest⟩
    · cases h

/-! ## Blocks -/

/-- Whether an expression is a placeholder. -/
def isPlaceholder : Expr → Bool
  | property _ => true
  | call _ _ => true
  | _ => false

theorem inside_isPlaceholder {ts : List Token} {e : Expr}
    (h : inside block ts = .ok e) : e.isPlaceholder = true := by
  unfold inside at h
  split at h
  · obtain ⟨n, -, h⟩ := bind_eq_ok h
    obtain ⟨as, -, h⟩ := bind_eq_ok h
    cases h; rfl
  · obtain ⟨n, -, rfl⟩ := map_eq_ok h
    rfl

/-- A block is read as a placeholder. -/
theorem readBlockTo_isPlaceholder {d : Nat} {t : Token} {e : Expr} (h : readBlockTo d t = .ok e) :
    e.isPlaceholder = true := by
  cases d with
  | zero => cases h
  | succ d =>
    rw [readBlockTo] at h
    split at h
    · cases h
    · obtain ⟨ts, -, h⟩ := bind_eq_ok h
      exact inside_isPlaceholder h

end Expr

end RouteExpr
