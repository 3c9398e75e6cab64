/-
Both markers open the same blocks: expressions that differ in how markers are written are the same tree.

Blocks are read from their tokens, and these are the same but for their markers. Where no block has a
quote in it, the texts of the tokens of a block that are no blocks again are plain, so no marker is kept
as text. In a template outside of blocks nothing is quoted anyway.
-/
import RouteExpr.Proofs.Expr.Accepted
import RouteExpr.Proofs.Expr.Carry
import RouteExpr.Proofs.Expr.Depth
import RouteExpr.Proofs.Token.Respelled

namespace RouteExpr

open Lexer

namespace Expr

variable {t t' : Token} {cs ds : List Char} {e : Expr}

/-! ## Blocks -/

/-- What is read of a token that is no quoted text is read of it with its markers written another way,
where that is so of blocks. -/
theorem carries_of_short_eq {block more : ReadBlock} (h : t.short = t'.short)
    (hquoted : ∀ q, t.kind ≠ .quoted q)
    (hblock : t.kind.isPlaceholder = true → ∀ e, block t = .ok e → more t' = .ok e) :
    CarriesArgument block more t t' := by
  refine ⟨⟨hblock, fun hp => ?_⟩, fun q hq => absurd hq (hquoted q)⟩
  have hplain := Token.isPlain_iff.2 ⟨hp, hquoted⟩
  rw [Token.raw_of_isPlain hplain, Token.raw_of_isPlain (Token.isPlain_of_short_eq h hplain),
    Token.text_of_short_eq h hplain]

/-- With some depth left, a block without quotes is read the same with its markers written another way. -/
theorem readBlockTo_of_short_eq {depth : Nat} (h : t.short = t'.short)
    (hquote : ∀ c ∈ t.text, quote? c = none) (he : readBlockTo depth t = .ok e) :
    readBlockTo depth t' = .ok e := by
  induction depth generalizing t t' e with
  | zero => cases he
  | succ depth ih =>
    have htext := Token.shorten_text_eq h
    have hblank : Text.allBlank t'.text = Text.allBlank t.text := by
      rw [← allBlank_shorten, ← htext, allBlank_shorten]
    rw [readBlockTo] at he ⊢
    rw [hblank]
    split
    · rename_i hb
      rw [if_pos hb] at he
      cases he
    · rename_i hb
      rw [if_neg hb] at he
      obtain ⟨ts, hts, he⟩ := bind_eq_ok he
      obtain ⟨ts', hts', heq⟩ := (Lexed.of_same .function t.textStart t'.textStart htext).toTokens hts
      rw [hts', ok_bind]
      refine inside_carried keepsKinds_short heq (fun u hu u' hsame => ?_) he
      obtain ⟨hquoted, hunquoted⟩ := Lexed.unquoted (by decide) hquote (Lexed.tokens_of_toTokens hts ▸ hu)
      exact carries_of_short_eq hsame hquoted fun _ e => ih hsame hunquoted

/-- A block without quotes is read the same with its markers written another way, although it may be
longer or shorter then. -/
theorem readBlock_of_short_eq (h : t.short = t'.short) (hclosed : Closed t.text)
    (hquote : ∀ c ∈ t.text, quote? c = none) (he : readBlock t = .ok e) : readBlock t' = .ok e := by
  have htext := Token.shorten_text_eq h
  have hclosed' := hclosed.of_shorten_eq htext
  have hquote' := unquoted_of_shorten_eq hquote htext
  -- both are read with the depth that is enough for the longer one
  have hdeep := readBlockTo_of_short_eq h hquote
    (readBlockTo_of_le (Nat.le_max_left t.text.length t'.text.length) he)
  obtain ⟨e', he'⟩ := (exists_readBlockTo_iff le_rfl hclosed' hquote').2
    ((exists_readBlockTo_iff (Nat.le_max_right _ _) hclosed' hquote').1 ⟨e, hdeep⟩)
  rw [readBlockTo_of_le (Nat.le_max_right t.text.length t'.text.length) he'] at hdeep
  cases hdeep
  exact he'

/-! ## Templates -/

/-- A region is read the same with its markers written another way, and wherever it stands. -/
theorem readRegion_of_shorten_eq (heq : shorten cs = shorten ds) (hquote : BlocksUnquoted cs)
    {offset : Nat} (offset' : Nat) (he : readRegion offset cs = .ok e) :
    readRegion offset' ds = .ok e := by
  unfold readRegion template at he ⊢
  obtain ⟨parts, hparts, rfl⟩ := map_eq_ok he
  have hsame := Lexed.of_same .template offset offset' heq
  rw [templateParts_carried keepsKinds_short hsame (fun t ht t' hshort => ?_) hparts]
  · rfl
  · refine (carries_of_short_eq hshort (Lexed.not_quoted_of_template ht) fun hp e => ?_).toCarries
    obtain ⟨m, hm⟩ := isPlaceholder_iff.1 hp
    have hblock := Lexed.hasBlock_text ht hm
    exact readBlock_of_short_eq hshort hblock.closed (hquote _ hblock)

theorem readRegion_eq_ok_iff (heq : shorten cs = shorten ds) (hquote : BlocksUnquoted cs)
    (offset offset' : Nat) : readRegion offset cs = .ok e ↔ readRegion offset' ds = .ok e :=
  ⟨readRegion_of_shorten_eq heq hquote offset',
    readRegion_of_shorten_eq heq.symm (hquote.of_shorten_eq heq) offset⟩

end Expr

end RouteExpr
