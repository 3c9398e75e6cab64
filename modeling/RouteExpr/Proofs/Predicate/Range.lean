/-
Ranges that are written out: two numbers around the first two dots of a text.

Which texts are ranges is decided by the two texts around the dots, each by itself, blanks around them aside.
A text that is no range is refused, and where the fault is reported tells what is wrong with it: past the
text if there are no dots in it, else at the first of the two texts that is no bound.
-/
import RouteExpr.Proofs.Predicate.Negation
import RouteExpr.Proofs.Predicate.Shape
import RouteExpr.Proofs.Text.Find

namespace RouteExpr

open Text (SplitsAt)

namespace Predicate

/-! ## Bounds -/

/-- A text that neither starts nor ends with a dot. -/
structure Undotted (cs : List Char) : Prop where
  head : cs.head? ≠ some '.'
  last : cs.getLast? ≠ some '.'

instance (cs : List Char) : Decidable (Undotted cs) :=
  decidable_of_iff (cs.head? ≠ some '.' ∧ cs.getLast? ≠ some '.')
    ⟨fun ⟨hhead, hlast⟩ => ⟨hhead, hlast⟩, fun h => ⟨h.head, h.last⟩⟩

/-- A text that is a bound of a range: without the blanks around it, it is a numeral of a finite double that
neither starts nor ends with a dot. -/
structure BoundText (cs : List Char) : Prop where
  number : ∃ n, Numeral.read? (Text.trim cs) = some n ∧ (Double.ofNumeral n).isFinite = true
  undotted : Undotted (Text.trim cs)

/-- The cause for which a text that is no bound is refused as one. -/
def boundCause (cs : List Char) : Cause :=
  if Undotted (Text.trim cs) then .boundNotNumber (String.ofList (Text.trim cs))
  else .dottedBound (String.ofList (Text.trim cs))

variable {cs : List Char}

/-- A bound without a marker is read as the number that it is without the blanks around it. -/
theorem BoundText.readBound (h : BoundText cs) (hm : hasMarker cs = false) (offset : Nat) :
    ∃ e, readNumber? (Text.trim cs) = some e ∧ readBound offset cs = .ok e := by
  obtain ⟨e, he⟩ := exists_readNumber?_iff.2 h.number
  refine ⟨e, he, ?_⟩
  unfold Predicate.readBound
  rw [hm]
  simp [h.undotted.head, h.undotted.last, he]

/-- What is no bound and has no marker is refused at its offset. -/
theorem readBound_of_not_boundText (h : ¬ BoundText cs) (hm : hasMarker cs = false) (offset : Nat) :
    readBound offset cs = .error ⟨offset, boundCause cs⟩ := by
  unfold readBound boundCause
  rw [hm]
  by_cases hdots : Undotted (Text.trim cs)
  · have hnumber : readNumber? (Text.trim cs) = none := by
      refine Option.eq_none_iff_forall_ne_some.2 fun e he => h ?_
      exact ⟨exists_readNumber?_iff.1 ⟨e, he⟩, hdots⟩
    simp [hdots, hdots.head, hdots.last, hnumber]
  · have hdot : (Text.trim cs).head? = some '.' ∨ (Text.trim cs).getLast? = some '.' := by
      by_contra hdot
      obtain ⟨hhead, hlast⟩ := not_or.1 hdot
      exact hdots ⟨hhead, hlast⟩
    simp [hdots, hdot]

/-! ## Ranges -/

/-- A part of a text without a marker has none either. -/
theorem hasMarker_of_isInfix {u : List Char} (hm : hasMarker cs = false) (h : u <:+: cs) :
    hasMarker u = false := by
  rw [← Bool.not_eq_true, hasMarker_iff_infix] at hm ⊢
  rintro ⟨m, hmem⟩
  exact hm ⟨m, hmem.trans h⟩

variable {t : Token} {low high : List Char}

theorem readRange_of_splitsAt (hs : SplitsAt ['.', '.'] t.text low high) : readRange t = (do
    let low' ← readBound t.textStart low
    return .range low' (← readBound (t.textStart + low.length + 2) high)) := by
  unfold readRange
  rw [Text.cut?_eq_some_iff.2 hs]

/-- Around its first two dots, a text without a marker has two parts without one. -/
theorem hasMarker_of_splitsAt (hm : hasMarker cs = false) (hs : SplitsAt ['.', '.'] cs low high) :
    hasMarker low = false ∧ hasMarker high = false := by
  have hprefix : low <+: cs := ⟨_, hs.eq.symm⟩
  have hsuffix : high <:+ cs := ⟨low ++ ['.', '.'], by rw [hs.eq, List.append_assoc]⟩
  exact ⟨hasMarker_of_isInfix hm hprefix.isInfix, hasMarker_of_isInfix hm hsuffix.isInfix⟩

/-- Two bounds around the first two dots are a range of the two numbers. -/
theorem readRange_of_boundTexts (hm : hasMarker t.text = false)
    (hs : SplitsAt ['.', '.'] t.text low high) (hlow : BoundText low) (hhigh : BoundText high) :
    ∃ x y, readNumber? (Text.trim low) = some x ∧ readNumber? (Text.trim high) = some y ∧
      readRange t = .ok (.range x y) := by
  obtain ⟨hmlow, hmhigh⟩ := hasMarker_of_splitsAt hm hs
  obtain ⟨x, hx, hxread⟩ := hlow.readBound hmlow t.textStart
  obtain ⟨y, hy, hyread⟩ := hhigh.readBound hmhigh (t.textStart + low.length + 2)
  refine ⟨x, y, hx, hy, ?_⟩
  rw [readRange_of_splitsAt hs, hxread, hyread]
  rfl

/-- A text without two dots is refused past its end. -/
theorem readRange_of_no_dots (h : ¬ ['.', '.'] <:+: t.text) :
    readRange t = .error ⟨t.textStart + t.text.length, .noRange (String.ofList t.text)⟩ := by
  unfold readRange
  rw [Text.cut?_eq_none_iff.2 h]

/-- What is no bound before the dots is refused where it starts. -/
theorem readRange_of_not_low (hm : hasMarker t.text = false)
    (hs : SplitsAt ['.', '.'] t.text low high) (hlow : ¬ BoundText low) :
    readRange t = .error ⟨t.textStart, boundCause low⟩ := by
  obtain ⟨hmlow, -⟩ := hasMarker_of_splitsAt hm hs
  rw [readRange_of_splitsAt hs, readBound_of_not_boundText hlow hmlow]
  rfl

/-- What is no bound behind the dots is refused where it starts, if what is before them is one. -/
theorem readRange_of_not_high (hm : hasMarker t.text = false)
    (hs : SplitsAt ['.', '.'] t.text low high) (hlow : BoundText low) (hhigh : ¬ BoundText high) :
    readRange t = .error ⟨t.textStart + low.length + 2, boundCause high⟩ := by
  obtain ⟨hmlow, hmhigh⟩ := hasMarker_of_splitsAt hm hs
  obtain ⟨x, -, hxread⟩ := hlow.readBound hmlow t.textStart
  rw [readRange_of_splitsAt hs, hxread, readBound_of_not_boundText hhigh hmhigh]
  rfl

/-- The texts without a marker that are ranges are two bounds around two dots, the first two of them. -/
theorem exists_readRange_iff (hm : hasMarker t.text = false) : (∃ right, readRange t = .ok right) ↔
    ∃ low high, SplitsAt ['.', '.'] t.text low high ∧ BoundText low ∧ BoundText high := by
  constructor
  · rintro ⟨right, hright⟩
    have refused {f : Fault} (h : readRange t = .error f) : False := by
      rw [hright] at h
      cases h
    cases hcut : Text.cut? ['.', '.'] t.text with
    | none => exact (refused (readRange_of_no_dots (Text.cut?_eq_none_iff.1 hcut))).elim
    | some parts =>
      have hs := Text.splitsAt_of_cut? hcut
      have hlow : BoundText parts.1 := by
        by_contra hlow
        exact refused (readRange_of_not_low hm hs hlow)
      have hhigh : BoundText parts.2 := by
        by_contra hhigh
        exact refused (readRange_of_not_high hm hs hlow hhigh)
      exact ⟨_, _, hs, hlow, hhigh⟩
  · rintro ⟨low, high, hs, hlow, hhigh⟩
    obtain ⟨x, y, -, -, hread⟩ := readRange_of_boundTexts hm hs hlow hhigh
    exact ⟨_, hread⟩

/-! ## Operands that are ranges -/

variable {classes : ClassTable} {o text written : List Char} {left : Expr} {op : Operator} {lead : Nat}

/-- Two numbers that neither start nor end with a dot are read behind `range` with two dots between them, and
blanks around them. -/
theorem read_numbers_range (h : read classes cs = .ok (alone left)) (hb : Text.allBlank cs = false)
    (ho : op.Spells o) (hc : op.comparison = .range) (hw : Written text written lead)
    {low high : List Char} (hs : SplitsAt ['.', '.'] text low high) (hlow : BoundText low)
    (hhigh : BoundText high) :
    ∃ x y, readNumber? (Text.trim low) = some x ∧ readNumber? (Text.trim high) = some y ∧
      read classes (spaced cs o written) = .ok (.comparison left op (.range x y)) := by
  have hr : (op.comparison, readRange) ∈ textReaders classes := by simp [textReaders, hc]
  obtain ⟨t, rfl, -, -, hread⟩ := read_text_operand h hb ho hr hw
  obtain ⟨x, y, hx, hy, hrange⟩ := readRange_of_boundTexts hw.hasMarker hs hlow hhigh
  refine ⟨x, y, hx, hy, ?_⟩
  rw [hread, hrange]
  rfl

/-- Behind `range`, a text without a marker, quoted or bare, is read exactly when two bounds stand around its
first two dots. A text without two dots is refused past its last character. Else the fault is where the text
starts if it is the one before the dots that is no bound, and behind the dots if it is only the other. -/
theorem read_range_operand (h : read classes cs = .ok (alone left)) (hb : Text.allBlank cs = false)
    (ho : op.Spells o) (hc : op.comparison = .range) (hw : Written text written lead) :
    ((∃ p, read classes (spaced cs o written) = .ok p) ↔
      ∃ low high, SplitsAt ['.', '.'] text low high ∧ BoundText low ∧ BoundText high) ∧
    (¬ ['.', '.'] <:+: text → read classes (spaced cs o written) =
      .error ⟨(spaced cs o []).length + lead + text.length, .noRange (String.ofList text)⟩) ∧
    ∀ low high, SplitsAt ['.', '.'] text low high →
      (¬ BoundText low → read classes (spaced cs o written) =
        .error ⟨(spaced cs o []).length + lead, boundCause low⟩) ∧
      (BoundText low → ¬ BoundText high → read classes (spaced cs o written) =
        .error ⟨(spaced cs o []).length + lead + low.length + 2, boundCause high⟩) := by
  have hr : (op.comparison, readRange) ∈ textReaders classes := by simp [textReaders, hc]
  obtain ⟨t, rfl, -, hstart, hread⟩ := read_text_operand h hb ho hr hw
  have hm := hw.hasMarker
  have refused {f : Fault} (hf : readRange t = .error f) :
      read classes (spaced cs o written) = .error f := by
    rw [hread, hf]
    rfl
  rw [← hstart]
  refine ⟨?_, fun hdots => refused (readRange_of_no_dots hdots), fun low high hs => ⟨?_, ?_⟩⟩
  · rw [hread, exists_map_eq_ok, exists_readRange_iff hm]
  · exact fun hlow => refused (readRange_of_not_low hm hs hlow)
  · exact fun hlow hhigh => refused (readRange_of_not_high hm hs hlow hhigh)

/-- A range in quotes; a word without two dots; and a word with three of them, of which the last belongs to the
second bound. -/
theorem read_range_operand_dots :
    (∃ p, read .empty (spaced "$\x7bx\x7d".toList "range".toList "'1 .. 2'".toList) = .ok p) ∧
      read .empty (spaced "$\x7bx\x7d".toList "range".toList "1.2".toList) = .error ⟨14, .noRange "1.2"⟩ ∧
      read .empty (spaced "$\x7bx\x7d".toList "not range".toList "1...2".toList) =
        .error ⟨18, .dottedBound ".2"⟩ := by
  have hrange : Comparison.range.Words "range".toList := .keyword rfl
  have hquoted : Written "1 .. 2".toList "'1 .. 2'".toList 1 :=
    .quoted (q := .single) (by decide) (by decide)
  have hone : BoundText "1".toList := ⟨exists_readNumber?_iff.1 ⟨.integer 1, by cbv⟩, by decide⟩
  refine ⟨?_, ?_, ?_⟩
  · have hlow : BoundText "1 ".toList := ⟨exists_readNumber?_iff.1 ⟨.integer 1, by cbv⟩, by decide⟩
    have hhigh : BoundText " 2".toList := ⟨exists_readNumber?_iff.1 ⟨.integer 2, by cbv⟩, by decide⟩
    exact (read_range_operand read_subject rfl (.words hrange) rfl hquoted).1.2
      ⟨_, _, Text.splitsAt_of_cut? rfl, hlow, hhigh⟩
  · exact (read_range_operand read_subject rfl (.words hrange) rfl (.word rfl)).2.1
      (Text.cut?_eq_none_iff.1 rfl)
  · have hs : SplitsAt ['.', '.'] "1...2".toList "1".toList ".2".toList := Text.splitsAt_of_cut? rfl
    have hhigh : ¬ BoundText ".2".toList := fun h => h.undotted.head rfl
    exact ((read_range_operand read_subject rfl (spells_not hrange) rfl (.word rfl)).2.2 _ _ hs).2
      hone hhigh

end Predicate

end RouteExpr
