/-
Counts of repetitions, names of groups and flags are read alike whatever follows them.

Each of them ends with a character of its own, a brace, an angle, a colon or a parenthesis, so what stands
behind that is not looked at.
-/
import RouteExpr.Proofs.Pattern.Gap

namespace RouteExpr.Pattern

variable {flags : Flags} {cs rest ds r : List Char} {c : Char} {n : Nat}

/-! ## Counts -/

/-- What is left behind the blanks around a number, as `Flags.skip_eq_cons` says it of a gap. -/
theorem skip_dropWhile_eq_cons (h : flags.skip (cs.dropWhile Text.isBlank) = c :: r) :
    ∃ gap, cs = gap ++ c :: r ∧
      ∀ r', flags.skip ((gap ++ c :: r').dropWhile Text.isBlank) = c :: r' := by
  obtain ⟨gap, hcs, hgap⟩ := Flags.skip_eq_cons h
  obtain ⟨blanks, rfl, hblanks⟩ := dropWhile_eq_append_cons hcs
  refine ⟨blanks ++ gap, by simp, fun r' => ?_⟩
  rw [List.append_assoc, hblanks, hgap]

theorem digits_of_head (h : ∀ d ∈ cs.head?, d.isDigit = false) (n : Nat) :
    readCount.digits flags n cs = ([], cs) := by
  cases n with
  | zero => cases cs <;> rfl
  | succ n =>
    cases cs with
    | nil => rfl
    | cons d ds =>
      have hd : ¬ d.isDigit = true := by simp [h d rfl]
      rw [readCount.digits, if_neg hd]

/-- The digits of a token are read before a character, whatever follows that. -/
def DigitsBefore (flags : Flags) (token ds : List Char) (c : Char) : Prop :=
  ∀ m, token.length ≤ m → ∀ r', ∃ rest, readCount.digits flags m (token ++ c :: r') = (ds, rest) ∧
    flags.skip (rest.dropWhile Text.isBlank) = c :: r'

theorem digitsBefore_of_head (hhead : ∀ d ∈ cs.head?, d.isDigit = false)
    (h : readCount.digits flags n cs = (ds, rest))
    (hrest : flags.skip (rest.dropWhile Text.isBlank) = c :: r) (hc : c.isDigit = false) :
    ∃ token, cs = token ++ c :: r ∧ DigitsBefore flags token ds c := by
  rw [digits_of_head hhead] at h
  cases h
  obtain ⟨gap, rfl, hgap⟩ := skip_dropWhile_eq_cons hrest
  refine ⟨gap, rfl, fun m _ r' => ⟨_, digits_of_head ?_ m, hgap r'⟩⟩
  cases gap with
  | nil => simpa using hc
  | cons d gap => simpa using hhead

theorem digitsBefore_of_eq (hn : cs.length ≤ n) (h : readCount.digits flags n cs = (ds, rest))
    (hrest : flags.skip (rest.dropWhile Text.isBlank) = c :: r) (hc : c.isDigit = false) :
    ∃ token, cs = token ++ c :: r ∧ DigitsBefore flags token ds c := by
  induction n generalizing cs ds with
  | zero =>
    obtain rfl : cs = [] := List.eq_nil_of_length_eq_zero (Nat.le_zero.1 hn)
    exact digitsBefore_of_head nofun h hrest hc
  | succ n ih =>
    cases cs with
    | nil => exact digitsBefore_of_head nofun h hrest hc
    | cons d cs =>
      by_cases hd : d.isDigit = true
      · rw [readCount.digits, if_pos hd] at h
        cases h
        have hlength := (Flags.length_skip_le flags cs).trans (Nat.le_of_succ_le_succ hn)
        obtain ⟨token, hcs, htoken⟩ := ih hlength rfl
        obtain ⟨gap, rfl, hgap⟩ := Flags.skip_eq_append_cons hcs
        refine ⟨d :: (gap ++ token), by simp, fun m hm r' => ?_⟩
        rw [List.length_cons, List.length_append] at hm
        cases m with
        | zero => omega
        | succ m =>
          obtain ⟨rest', hread, hrest'⟩ := htoken m (by omega) r'
          refine ⟨rest', ?_, hrest'⟩
          rw [List.cons_append, List.append_assoc, readCount.digits, if_pos hd, hgap, hread]
      · exact digitsBefore_of_head (by simpa using hd) h hrest hc

theorem readCount_eq_some {k : Nat} (h : readCount flags cs = some (k, c :: r)) (hc : c.isDigit = false) :
    ∃ token, cs = token ++ c :: r ∧ ∀ r', readCount flags (token ++ c :: r') = some (k, c :: r') := by
  rcases hdigits : readCount.digits flags cs.length (cs.dropWhile Text.isBlank) with ⟨ds, rest⟩
  simp only [readCount, hdigits] at h
  split at h
  next => cases h
  next hds =>
    obtain ⟨rfl, hrest⟩ := Prod.mk.inj (Option.some.inj h)
    have hlength : (cs.dropWhile Text.isBlank).length ≤ cs.length :=
      (List.dropWhile_sublist Text.isBlank).length_le
    obtain ⟨token, hcs, htoken⟩ := digitsBefore_of_eq hlength hdigits hrest hc
    obtain ⟨gap, rfl, hgap⟩ := dropWhile_eq_append_cons hcs
    refine ⟨gap ++ token, by simp, fun r' => ?_⟩
    obtain ⟨rest', hread, hrest'⟩ := htoken (gap ++ token ++ c :: r').length (by simp; omega) r'
    rw [List.append_assoc] at hread ⊢
    simp only [readCount, hgap, hread, hrest', if_neg hds]

/-- A count behind a gap, which is not all there is before the character that ends it. -/
theorem readCount_skip_eq_some {k : Nat} (h : readCount flags (flags.skip cs) = some (k, c :: r))
    (hc : c.isDigit = false) :
    ∃ token, cs = token ++ c :: r ∧ flags.skip (token ++ [c]) ≠ [] ∧
      ∀ r', readCount flags (flags.skip (token ++ c :: r')) = some (k, c :: r') := by
  obtain ⟨token, hcs, htoken⟩ := readCount_eq_some h hc
  obtain ⟨gap, rfl, hgap⟩ := Flags.skip_eq_append_cons hcs
  refine ⟨gap ++ token, by simp, ?_, fun r' => ?_⟩
  · rw [List.append_assoc, hgap]
    simp
  · rw [List.append_assoc, hgap, htoken]

theorem readCount_brace (flags : Flags) (cs : List Char) : readCount flags ('\x7d' :: cs) = none :=
  rfl

/-- The counts of a repetition are read alike before any text. -/
theorem readCounts_eq_some {counts : Nat × Option Nat} (h : readCounts flags cs = some (counts, rest)) :
    ∃ token, cs = token ++ rest ∧ flags.skip token ≠ [] ∧
      ∀ next, readCounts flags (token ++ next) = some (counts, next) := by
  simp only [readCounts, Option.bind_eq_bind, Option.bind_eq_some_iff, Prod.exists] at h
  obtain ⟨least, rest₁, hleast, h⟩ := h
  split at h
  next r =>
    cases h
    obtain ⟨token, rfl, htoken, hread⟩ := readCount_skip_eq_some hleast rfl
    refine ⟨token ++ ['\x7d'], by simp, htoken, fun next => ?_⟩
    rw [← List.append_cons]
    simp [readCounts, hread]
  next r =>
    obtain ⟨token, rfl, htoken, hread⟩ := readCount_skip_eq_some hleast rfl
    split at h
    next r' hclose =>
      cases h
      obtain ⟨gap, rfl, hgap⟩ := Flags.skip_eq_cons hclose
      refine ⟨token ++ ',' :: (gap ++ ['\x7d']), by simp, ?_, fun next => ?_⟩
      · rw [List.append_cons, Flags.skip_append htoken]
        simp [htoken]
      · simp only [List.append_assoc, List.cons_append, List.nil_append, readCounts, hread,
          Option.bind_eq_bind, Option.bind_some, hgap]
        rfl
    next r' hopen =>
      simp only [Option.bind_eq_some_iff, Prod.exists] at h
      obtain ⟨most, rest₂, hmost, h⟩ := h
      split at h
      next r₂ =>
        split at h
        next hle =>
          cases h
          obtain ⟨token', rfl, htoken', hread'⟩ := readCount_skip_eq_some hmost rfl
          refine ⟨token ++ ',' :: (token' ++ ['\x7d']), by simp, ?_, fun next => ?_⟩
          · rw [List.append_cons, Flags.skip_append htoken]
            simp [htoken]
          · simp only [List.append_assoc, List.cons_append, List.nil_append, readCounts, hread,
              Option.bind_eq_bind, Option.bind_some]
            split
            next hclose =>
              have hnone := hread' next
              rw [hclose, readCount_brace] at hnone
              cases hnone
            next => simp only [hread', Option.bind_some, if_pos hle]; rfl
        next => cases h
      next => cases h
  next => cases h

/-! ## Names -/

theorem readName_eq_some {name : List Char} (h : readName cs = some (name, rest)) :
    ∃ token, cs = token ++ rest ∧ ∀ next, readName (token ++ next) = some (name, next) := by
  unfold readName at h
  simp only at h
  split at h
  next d more e rest₁ hname hrest =>
    split at h
    next hchars =>
      cases h
      obtain ⟨hcs, hspan⟩ := takeWhile_dropWhile_eq_cons hrest
      refine ⟨cs.takeWhile (· != '>') ++ [e], ?_, fun next => ?_⟩
      · rw [← List.append_cons, ← hcs]
      · obtain ⟨htake, hdrop⟩ := hspan next
        rw [hname] at htake hdrop ⊢
        rw [← List.append_cons]
        simp only [readName, htake, hdrop, if_pos hchars]
    next => cases h
  next => cases h

/-! ## Flags -/

theorem readFlags_eq_some {on : Bool} {seen : List Char} {x : Flags × Bool × Bool}
    (h : readFlags flags on seen cs = some (x, rest)) :
    ∃ token, cs = token ++ rest ∧ ∀ next, readFlags flags on seen (token ++ next) = some (x, next) := by
  induction cs generalizing flags on seen with
  | nil => cases h
  | cons c cs ih =>
    have hjoin (token : List Char) (hcs : cs = token ++ rest)
        (hread : ∀ next, readFlags flags on seen (c :: (token ++ next)) = some (x, next)) :
        ∃ token, c :: cs = token ++ rest ∧
          ∀ next, readFlags flags on seen (token ++ next) = some (x, next) :=
      ⟨c :: token, by rw [hcs]; rfl, hread⟩
    rw [readFlags] at h
    split at h
    next hend =>
      split at h
      next => cases h
      next hhyphen =>
        cases h
        exact hjoin [] rfl fun next => by rw [readFlags, if_pos hend, if_neg hhyphen]; rfl
    next hend =>
      split at h
      next => cases h
      next hseen =>
        split at h
        next hhyphen =>
          obtain ⟨token, hcs, hread⟩ := ih h
          exact hjoin token hcs fun next => by
            rw [readFlags, if_neg hend, if_neg hseen, if_pos hhyphen, hread]
        next hhyphen =>
          obtain ⟨flags', hset, hread⟩ := Option.bind_eq_some_iff.1 h
          obtain ⟨token, hcs, hread⟩ := ih hread
          exact hjoin token hcs fun next => by
            rw [readFlags, if_neg hend, if_neg hseen, if_neg hhyphen, hset, Option.bind_some, hread]

end RouteExpr.Pattern
