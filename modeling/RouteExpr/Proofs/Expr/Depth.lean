/-
How deep blocks are read.

What is read of a block with some depth left is read with any more depth as well, since each reader
gives for blocks that are read the same expressions the same expression. So a region is read the same
inside a block as alone.
-/
import RouteExpr.Proofs.Expr.Carry
import RouteExpr.Proofs.Expr.Shift
import RouteExpr.Proofs.Token.Separate

namespace RouteExpr

namespace Expr

variable {block more : ReadBlock} {parts : List Expr} {e : Expr}

/-- A way to read blocks that gives the same expressions as another, and maybe some for more
blocks. -/
def Covers (more block : ReadBlock) : Prop :=
  ∀ t e, block t = .ok e → more t = .ok e

/-- A template needs only its own blocks to be read the same. -/
theorem templateParts_of_same {l : Lexed}
    (hb : ∀ t ∈ l.tokens, ∀ e, block t = .ok e → more t = .ok e)
    (h : templateParts block l = .ok parts) : templateParts more l = .ok parts := by
  refine templateParts_carried keepsKinds_id (.refl id l) (fun t ht t' heq => ?_) h
  cases heq
  exact ⟨fun _ => hb t ht, fun _ => rfl⟩

theorem Covers.template (h : Covers more block) {offset : Nat} {region : List Char}
    (he : template block offset region = .ok e) : template more offset region = .ok e := by
  unfold Expr.template at he ⊢
  obtain ⟨parts, hparts, rfl⟩ := map_eq_ok he
  rw [templateParts_of_same (fun t _ => h t) hparts]
  rfl

theorem Covers.inside (h : Covers more block) {ts : List Token} (he : inside block ts = .ok e) :
    inside more ts = .ok e := by
  refine inside_carried keepsKinds_id rfl (fun t _ t' heq => ?_) he
  cases heq
  exact ⟨⟨fun _ => h t, fun _ => rfl⟩, fun _ _ _ => h.template⟩

/-! ## Blocks -/

theorem readBlockTo_covers (d : Nat) : Covers (readBlockTo (d + 1)) (readBlockTo d) := by
  induction d with
  | zero => intro t e h; cases h
  | succ d ih =>
    intro t e h
    rw [readBlockTo] at h ⊢
    split
    · rename_i hblank
      rw [if_pos hblank] at h
      exact h
    · rename_i hblank
      rw [if_neg hblank] at h
      obtain ⟨ts, hts, h⟩ := bind_eq_ok h
      rw [hts]
      exact ih.inside h

/-- A block is read the same with any more depth. -/
theorem readBlockTo_of_le {d n : Nat} {t : Token} (hle : d ≤ n) (h : readBlockTo d t = .ok e) :
    readBlockTo n t = .ok e := by
  induction n, hle using Nat.le_induction with
  | base => exact h
  | succ n _ ih => exact readBlockTo_covers n t e ih

/-- A text is read as the same expression wherever it stands and with any depth that is enough for
its length. -/
theorem template_of_read {cs : List Char} (h : read cs = .ok e) {n : Nat} (hn : cs.length ≤ n)
    (offset : Nat) : template (readBlockTo n) offset cs = .ok e := by
  have hregion : template readBlock offset cs = .ok e := by
    have := readRegion_shift (k := offset) 0 cs
    rw [show readRegion 0 cs = .ok e from h, Nat.zero_add] at this
    exact this
  unfold template at hregion ⊢
  obtain ⟨parts, hparts, rfl⟩ := map_eq_ok hregion
  rw [templateParts_of_same (fun t ht e he => ?_) hparts]
  · rfl
  · refine readBlockTo_of_le (le_trans ?_ hn) he
    exact Lexed.length_text_le (by decide) ht

end Expr

end RouteExpr
