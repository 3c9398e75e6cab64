/-
Reading a block or a template that starts later gives the same expression, or the same fault so
much later.

What the readers look at in a token is its kind and its text, so moving the tokens moves nothing but
faults.
-/
import RouteExpr.Proofs.Expr.Groups
import RouteExpr.Proofs.Token.Shift

namespace RouteExpr

theorem Lexed.takeSuffix_shift (k : Nat) (l : Lexed) :
    (l.shift k).takeSuffix = (l.takeSuffix.1, l.takeSuffix.2.shift k) := by
  rcases l with offset | f | ⟨⟨kind, text, start⟩, rest⟩
  · rfl
  · rfl
  · cases kind <;> rfl

namespace Expr

variable {block : ReadBlock} {k : Nat}

/-! ## Templates and names -/

/-- A way to read blocks that moves with them. -/
def Moves (k : Nat) (block : ReadBlock) : Prop :=
  ∀ t : Token, t.kind.isPlaceholder = true → block (t.shift k) = Fault.shifted k id (block t)

theorem templateParts_shift (hb : Moves k block) : ∀ l : Lexed,
    templateParts block (l.shift k) = Fault.shifted k id (templateParts block l)
  | .eof _ => rfl
  | .fault _ => rfl
  | .token t rest => by
    have hsize := rest.size_takeSuffix
    rw [Lexed.shift]
    rcases ht : t.kind.isPlaceholder with _ | _
    · rw [templateParts_text ht, templateParts_text (by exact ht), templateParts_shift hb rest]
      exact shifted_map fun _ => rfl
    · obtain ⟨m, hm⟩ := isPlaceholder_iff.1 ht
      rw [templateParts_placeholder hm, templateParts_placeholder (by exact hm), hb t ht,
        Lexed.takeSuffix_shift, templateParts_shift hb rest.takeSuffix.2]
      exact shifted_bind fun node => shifted_bind fun parts => rfl
  termination_by l => l.size
  decreasing_by all_goals simp only [Lexed.size]; omega

theorem template_shift (hb : Moves k block) (offset : Nat) (region : List Char) :
    template block (offset + k) region = Fault.shifted k id (template block offset region) := by
  unfold template
  rw [Lexed.of_shift, templateParts_shift hb]
  exact shifted_map fun _ => rfl

theorem segmentParts_shift (hb : Moves k block) (ts : List Token) :
    segmentParts block (ts.map (Token.shift k)) = Fault.shifted k id (segmentParts block ts) := by
  induction ts with
  | nil => rfl
  | cons t ts ih =>
    rw [List.map_cons]
    rcases ht : t.kind.isPlaceholder with _ | _
    · rw [segmentParts_text ht, segmentParts_text (by exact ht), ih]
      exact shifted_map fun _ => rfl
    · obtain ⟨m, hm⟩ := isPlaceholder_iff.1 ht
      rw [segmentParts_placeholder hm, segmentParts_placeholder (by exact hm), hb t ht, ih]
      exact shifted_bind fun node => shifted_bind fun parts => rfl

theorem keepsKinds_shift (k : Nat) : KeepsKinds (Token.shift k) :=
  fun _ _ _ => Iff.rfl

theorem segment_shift (hb : Moves k block) (ts : List Token) :
    segment block (ts.map (Token.shift k)) = Fault.shifted k id (segment block ts) := by
  unfold segment
  rw [(keepsKinds_shift k).trimTokens_map, segmentParts_shift hb]
  exact shifted_map fun _ => rfl

theorem argument_shift (hb : Moves k block) (ts : List Token) :
    argument block (ts.map (Token.shift k)) = Fault.shifted k id (argument block ts) := by
  unfold argument
  rw [(keepsKinds_shift k).trimTokens_map]
  rcases trimTokens ts with _ | ⟨⟨kind, text, start⟩, _ | ⟨u, us⟩⟩
  · exact segment_shift hb ts
  · cases kind <;> first | exact segment_shift hb ts | skip
    rename_i quote
    have := template_shift hb (Token.textStart ⟨.quoted quote, text, start⟩) text
    rwa [← Token.shift_textStart] at this
  · cases kind <;> exact segment_shift hb ts

theorem arguments_shift (hb : Moves k block) (ts : List Token) :
    arguments block (ts.map (Token.shift k)) = Fault.shifted k id (arguments block ts) := by
  have each (parts : List (List Token)) :
      (parts.map (List.map (Token.shift k))).mapM (argument block) =
        Fault.shifted k id (parts.mapM (argument block)) := by
    induction parts with
    | nil => rfl
    | cons p ps ih =>
      simp only [List.map_cons, List.mapM_cons, argument_shift hb, ih]
      exact shifted_bind fun e => shifted_bind fun es => rfl
  unfold arguments
  rw [List.all_map, (keepsKinds_shift k).isBlank_comp, (keepsKinds_shift k).splitArguments_map, each]
  split <;> rfl

theorem inside_shift (hb : Moves k block) (ts : List Token) :
    inside block (ts.map (Token.shift k)) = Fault.shifted k id (inside block ts) := by
  unfold inside
  rw [(keepsKinds_shift k).splitCall?_map]
  rcases splitCall? ts with _ | ⟨name, args⟩
  · simp only [Option.map_none, segment_shift hb]
    exact shifted_map fun _ => rfl
  · simp only [Option.map_some, segment_shift hb, arguments_shift hb]
    exact shifted_bind fun e => shifted_bind fun es => rfl

theorem stop_pos_of_isPlaceholder {t : Token} (ht : t.kind.isPlaceholder = true) : 0 < t.stop := by
  obtain ⟨m, hm⟩ := isPlaceholder_iff.1 ht
  simp only [Token.stop, Token.length, Token.raw, hm, Token.Kind.closing, List.length_append,
    List.length_singleton]
  omega

theorem readBlockTo_shift (d : Nat) : Moves k (readBlockTo d) := by
  induction d with
  | zero =>
    intro t ht
    have := stop_pos_of_isPlaceholder ht
    have hs : t.stop + k - 1 = t.stop - 1 + k := by omega
    simp only [readBlockTo, Token.shift_stop, hs, shifted_error, Fault.shift]
  | succ d ih =>
    intro t ht
    have := stop_pos_of_isPlaceholder ht
    have hs : t.stop + k - 1 = t.stop - 1 + k := by omega
    simp only [readBlockTo, Token.shift_text, Token.shift_stop, Token.shift_textStart, hs,
      Lexed.of_shift, Lexed.toTokens_shift]
    split
    · rfl
    · exact shifted_bind fun tokens => inside_shift ih tokens

/-- A block that stands later is read as the same expression. -/
theorem readBlock_shift : Moves k readBlock :=
  fun t ht => readBlockTo_shift t.text.length t ht

/-- A region that starts later is read as the same expression. -/
theorem readRegion_shift (offset : Nat) (region : List Char) :
    readRegion (offset + k) region = Fault.shifted k id (readRegion offset region) :=
  template_shift readBlock_shift offset region

end Expr

end RouteExpr
