/-
What lower case does to the parts of a text.

Every character is mapped for itself but the capital sigma, for which the nearest characters on both
sides count that take part in case. Where these stand in the text, its lower case is the same wherever
the text stands. Where one of them would have to be looked for outside, a letter next to the text is
enough to change it.
-/
import RouteExpr.Proofs.Unicode.Latin
import RouteExpr.Text.Case

namespace RouteExpr.Text

open Unicode

variable {before after before' after' cs u v : List Char}

/-! ## Texts within texts -/

/-- The lower case of a text that stands between two others, of which the one before it is read
backwards. -/
def lowerWithin (before : List Char) : List Char → List Char → List Char
  | [], _ => []
  | c :: cs, after =>
    (if c = 'Σ' then [lowerSigma before (cs ++ after)] else lowercase c) ++
      lowerWithin (c :: before) cs after

theorem lowerAfter_append (before cs after : List Char) : lowerAfter before (cs ++ after) =
    lowerWithin before cs after ++ lowerAfter (cs.reverse ++ before) after := by
  induction cs generalizing before with
  | nil => rfl
  | cons c cs ih => simp [lowerAfter, lowerWithin, ih]

theorem lowerWithin_append (before u v after : List Char) : lowerWithin before (u ++ v) after =
    lowerWithin before u (v ++ after) ++ lowerWithin (u.reverse ++ before) v after := by
  induction u generalizing before with
  | nil => rfl
  | cons c u ih => simp [lowerWithin, ih]

theorem lower_eq (s : String) : (lower s).toList = lowerWithin [] s.toList [] := by
  have h := lowerAfter_append [] s.toList []
  rw [List.append_nil] at h
  rw [lower, String.toList_ofList, h]
  exact List.append_nil _

/-- A text in lower case has the same number of characters wherever it stands. -/
theorem length_lowerWithin (before before' after after' cs : List Char) :
    (lowerWithin before cs after).length = (lowerWithin before' cs after').length := by
  induction cs generalizing before before' with
  | nil => rfl
  | cons c cs ih =>
    rw [lowerWithin, lowerWithin, List.length_append, List.length_append,
      ih (c :: before) (c :: before')]
    split <;> rfl

/-! ## Loose sigmas -/

theorem startsCased_cons_of_pos {c : Char} (h : isCaseIgnored c = true) :
    startsCased (c :: cs) = startsCased cs := by
  rw [startsCased, List.dropWhile_cons_of_pos h, startsCased]

theorem startsCased_cons_of_neg {c : Char} (h : ¬ isCaseIgnored c = true) :
    startsCased (c :: cs) = isCased c := by
  rw [startsCased, List.dropWhile_cons_of_neg h]

theorem startsCased_append : startsCased (u ++ v) =
    if u.all isCaseIgnored then startsCased v else startsCased u := by
  induction u with
  | nil => rw [List.all_nil, if_pos rfl, List.nil_append]
  | cons c u ih =>
    rw [List.cons_append, List.all_cons]
    by_cases hc : isCaseIgnored c = true
    · rw [startsCased_cons_of_pos hc, startsCased_cons_of_pos hc, ih, hc, Bool.true_and]
    · rw [startsCased_cons_of_neg hc, startsCased_cons_of_neg hc, eq_false_of_ne_true hc,
        Bool.false_and, if_neg Bool.false_ne_true]

theorem startsCased_of_all (h : u.all isCaseIgnored = true) : startsCased u = false := by
  have happend := @startsCased_append u []
  rwa [if_pos h, List.append_nil] at happend

/-- Whether the lower case of a capital sigma in a text depends on what is around the text: nothing
on one side of it takes part in case, and it would be a final one, or be none, by the other side. -/
def HasLooseSigma (cs : List Char) : Prop :=
  ∃ u v, cs = u ++ 'Σ' :: v ∧
    (u.all isCaseIgnored = true ∧ startsCased v = false ∨
      v.all isCaseIgnored = true ∧ startsCased u.reverse = true)

theorem lowerSigma_within (h : ¬ HasLooseSigma (u ++ 'Σ' :: v)) (before after : List Char) :
    lowerSigma (u.reverse ++ before) (v ++ after) = lowerSigma u.reverse v := by
  have htight : ¬ (u.all isCaseIgnored = true ∧ startsCased v = false) ∧
      ¬ (v.all isCaseIgnored = true ∧ startsCased u.reverse = true) := by
    rw [← not_or]
    exact fun hloose => h ⟨u, v, rfl, hloose⟩
  obtain ⟨hfirst, hlast⟩ := htight
  unfold lowerSigma
  rw [startsCased_append, startsCased_append, List.all_reverse]
  by_cases hu : u.all isCaseIgnored = true
  · -- what follows has case, so the sigma is no final one
    have hv : startsCased v = true := by simpa [hu] using hfirst
    have hv' : ¬ v.all isCaseIgnored = true := fun hall => by
      rw [startsCased_of_all hall] at hv
      cases hv
    simp [hv, hv']
  · rw [if_neg hu]
    cases hcased : startsCased u.reverse with
    | false => simp
    | true =>
      have hv : ¬ v.all isCaseIgnored = true := by simpa [hcased] using hlast
      rw [if_neg hv]

/-- Without a loose sigma, a text in lower case is the same wherever it stands. -/
theorem lowerWithin_eq (h : ¬ HasLooseSigma cs) (before after : List Char) :
    lowerWithin before cs after = lowerWithin [] cs [] := by
  suffices rest : ∀ u v, cs = u ++ v →
      lowerWithin (u.reverse ++ before) v after = lowerWithin u.reverse v [] by
    simpa using rest [] cs rfl
  intro u v hcs
  induction v generalizing u with
  | nil => rfl
  | cons c v ih =>
    have hrest := ih (u ++ [c]) (by rw [hcs]; simp)
    rw [List.reverse_append, List.reverse_singleton, List.singleton_append] at hrest
    rw [lowerWithin, lowerWithin, List.append_nil, ← hrest, List.cons_append]
    by_cases hc : c = 'Σ'
    · subst hc
      rw [lowerSigma_within (hcs ▸ h)]
    · rw [if_neg hc, if_neg hc]

/-- What occurs in a text occurs in it in lower case as well, unless it has a loose sigma. -/
theorem lower_isInfix {s t : String} (h : ¬ HasLooseSigma s.toList) (hst : s.toList <:+: t.toList) :
    (lower s).toList <:+: (lower t).toList := by
  obtain ⟨front, back, ht⟩ := hst
  rw [lower_eq, lower_eq, ← ht, lowerWithin_append, lowerWithin_append,
    lowerWithin_eq h (front.reverse ++ [])]
  exact List.infix_append _ _ _

/-! ## Letters beside a loose sigma -/

/-- A sigma of another form makes the whole text another. -/
theorem lowerWithin_ne (h : lowerSigma (u.reverse ++ before) (v ++ after) ≠ lowerSigma u.reverse v) :
    lowerWithin before (u ++ 'Σ' :: v) after ≠ lowerWithin [] (u ++ 'Σ' :: v) [] := by
  intro heq
  rw [lowerWithin_append, lowerWithin_append] at heq
  obtain ⟨-, hrest⟩ := List.append_inj heq (length_lowerWithin _ _ _ _ _)
  rw [lowerWithin, lowerWithin, if_pos rfl, if_pos rfl, List.append_nil, List.append_nil] at hrest
  exact h (List.cons.inj hrest).1

/-- A letter in front of a text, or behind it, that makes one of its sigmas another. -/
theorem HasLooseSigma.exists_letter (h : HasLooseSigma cs) :
    (∀ c, IsLatinCapital c → lowerWithin [c] cs [] ≠ lowerWithin [] cs []) ∨
      ∀ c, IsLatinCapital c → lowerWithin [] cs [c] ≠ lowerWithin [] cs [] := by
  obtain ⟨u, v, rfl, ⟨hu, hv⟩ | ⟨hv, hu⟩⟩ := h
  · -- nothing is in front of the sigma, so a letter there makes it a final one
    refine .inl fun c hc => lowerWithin_ne ?_
    have hfront : startsCased u.reverse = false := startsCased_of_all (by rwa [List.all_reverse])
    have hletter : startsCased (u.reverse ++ [c]) = true := by
      rw [startsCased_append, List.all_reverse, if_pos hu,
        startsCased_cons_of_neg (by rw [isCaseIgnored_of_isLatinCapital hc]; exact Bool.false_ne_true),
        isCased_of_isLatinCapital hc]
    rw [lowerSigma, lowerSigma, List.append_nil, hfront, hletter, hv]
    decide
  · -- nothing is behind the sigma, so with a letter there it is no final one
    refine .inr fun c hc => lowerWithin_ne ?_
    have hletter : startsCased (v ++ [c]) = true := by
      rw [startsCased_append, if_pos hv,
        startsCased_cons_of_neg (by rw [isCaseIgnored_of_isLatinCapital hc]; exact Bool.false_ne_true),
        isCased_of_isLatinCapital hc]
    rw [lowerSigma, lowerSigma, List.append_nil, hu, hletter, startsCased_of_all hv]
    decide

/-- A text is not found in another of its length with a character in front that it does not start
with. -/
theorem not_isInfix_cons {d : Char} (hlength : u.length = v.length) (hne : v ≠ u) (hnil : u ≠ [])
    (hd : u.head? ≠ some d) : ¬ u <:+: d :: v := by
  rw [List.infix_cons_iff]
  rintro (hstart | hbehind)
  · obtain ⟨c, u, rfl⟩ := List.exists_cons_of_ne_nil hnil
    exact hd (congrArg some (List.cons_prefix_cons.1 hstart).1)
  · exact hne (hbehind.eq_of_length hlength).symm

/-- Of two letters one is another in lower case than a character. -/
theorem exists_letter_ne (c? : Option Char) :
    ∃ c d, IsLatinCapital c ∧ c ≠ 'Σ' ∧ lowercase c = [d] ∧ c? ≠ some d := by
  by_cases h : c? = some 'a'
  · have hletter : IsLatinCapital 'B' := ⟨by decide, by decide⟩
    exact ⟨'B', 'b', hletter, by decide, lowercase_of_isLatinCapital hletter, by rw [h]; decide⟩
  · have hletter : IsLatinCapital 'A' := ⟨by decide, by decide⟩
    exact ⟨'A', 'a', hletter, by decide, lowercase_of_isLatinCapital hletter, h⟩

/-- A text with a loose sigma occurs in some text in which it does not occur in lower case. -/
theorem HasLooseSigma.exists_not_isInfix {s : String} (h : HasLooseSigma s.toList) :
    ∃ t : String, s.toList <:+: t.toList ∧ ¬ (lower s).toList <:+: (lower t).toList := by
  have hnil : lowerWithin [] s.toList [] ≠ [] := by
    obtain ⟨u, v, hs, -⟩ := h
    rw [hs, lowerWithin_append, lowerWithin, if_pos rfl]
    simp
  simp only [lower_eq]
  rcases h.exists_letter with hfront | hback
  · obtain ⟨c, d, hc, hsigma, hd, hne⟩ := exists_letter_ne (lowerWithin [] s.toList []).head?
    refine ⟨String.ofList (c :: s.toList), ?_, ?_⟩ <;> rw [String.toList_ofList]
    · exact (List.suffix_cons c _).isInfix
    · rw [lowerWithin, if_neg hsigma, hd]
      exact not_isInfix_cons (length_lowerWithin _ _ _ _ _) (hfront c hc) hnil hne
  · obtain ⟨c, d, hc, hsigma, hd, hne⟩ := exists_letter_ne (lowerWithin [] s.toList []).getLast?
    refine ⟨String.ofList (s.toList ++ [c]), ?_, ?_⟩ <;> rw [String.toList_ofList]
    · exact (List.prefix_append _ _).isInfix
    · -- read backwards, the letter is in front
      rw [lowerWithin_append, lowerWithin, if_neg hsigma, hd, lowerWithin, List.append_nil,
        List.append_nil, ← List.reverse_infix, List.reverse_append, List.reverse_singleton,
        List.singleton_append]
      refine not_isInfix_cons ?_ ?_ (by simpa using hnil) (by rwa [List.head?_reverse])
      · rw [List.length_reverse, List.length_reverse]
        exact length_lowerWithin _ _ _ _ _
      · exact fun heq => hback c hc (List.reverse_injective heq)

end RouteExpr.Text
