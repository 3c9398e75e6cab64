/-
A class in brackets is read alike whatever follows it.

The readers of its items look ahead: for the end of a name between colons, and past blanks and a comment
for what follows a hyphen. They never look past the bracket that closes the class, so what is read of a class
depends on nothing behind that bracket.
-/
import RouteExpr.Proofs.Pattern.Token

namespace RouteExpr.Pattern

variable {flags : Flags} {cs rest r : List Char} {c d : Char} {n : Nat}

/-! ## The end of a class -/

/-- A text that ends with a closing bracket and is more than a gap. -/
structure Closing (flags : Flags) (part : List Char) : Prop where
  ends : part.getLast? = some ']'
  visible : flags.skip part ≠ []

theorem Closing.mem {part : List Char} (h : Closing flags part) : ']' ∈ part :=
  List.mem_of_getLast? h.ends

theorem Closing.append {gap part : List Char} (h : Closing flags part)
    (hgap : flags.skip (gap ++ part) ≠ []) : Closing flags (gap ++ part) :=
  ⟨by rw [List.getLast?_append, h.ends]; rfl, hgap⟩

/-- What is left of it behind the first character still ends with the bracket, unless the character is one. -/
theorem Closing.mem_tail {part : List Char} (h : Closing flags part) (hskip : flags.skip part = c :: r)
    (hc : c ≠ ']') : ']' ∈ r := by
  obtain ⟨gap, rfl, -⟩ := Flags.skip_eq_cons hskip
  have hends := h.ends
  rw [List.getLast?_append, List.getLast?_cons] at hends
  cases hr : r.getLast? with
  | none => simp [hr, hc] at hends
  | some e =>
    simp only [hr, Option.getD_some, Option.some_or, Option.some.injEq] at hends
    subst hends
    exact List.mem_of_getLast? hr

/-! ## Looking behind a hyphen -/

theorem head?_dropWhile_append {part : List Char} (h : ']' ∈ part) (next : List Char) :
    ∃ e r, part.dropWhile Text.isBlank = e :: r ∧
      (part ++ next).dropWhile Text.isBlank = e :: (r ++ next) ∧ (e ≠ ']' → ']' ∈ r) := by
  induction part with
  | nil => cases h
  | cons e part ih =>
    cases hblank : Text.isBlank e with
    | true =>
      have hmem : ']' ∈ part := by
        cases h with
        | head => cases hblank
        | tail _ h => exact h
      simpa [hblank] using ih hmem
    | false =>
      refine ⟨e, part, by simp [hblank], by simp [hblank], fun he => ?_⟩
      cases h with
      | head => exact absurd rfl he
      | tail _ h => exact h

theorem peekAfterHyphen_append {part : List Char} (h : ']' ∈ part) (next : List Char) :
    peekAfterHyphen flags (part ++ next) = peekAfterHyphen flags part := by
  have hhead : (part ++ next).head? = part.head? := by
    cases part with
    | nil => cases h
    | cons => rfl
  unfold peekAfterHyphen
  split
  next => exact hhead
  next =>
    obtain ⟨e, r, hpart, hnext, hmem⟩ := head?_dropWhile_append h next
    rw [hpart, hnext]
    by_cases he : e = '#'
    · subst he
      obtain ⟨e', r', hr, hnext', -⟩ := head?_dropWhile_append (hmem (by decide)) next
      simp [hr, hnext']
    · simp

/-! ## Names of classes -/

theorem not_mem_of_asciiClass? {name : List Char} {set : CharSet} (h : asciiClass? name = some set) :
    ']' ∉ name := by
  rw [← String.toList_ofList (l := name)]
  simp only [asciiClass?] at h
  generalize String.ofList name = word at h ⊢
  split at h
  all_goals first | decide | cases h

/-- Whether a text begins with the mark of a negation, and what is behind that. -/
def takeMark : List Char → Bool × List Char
  | '^' :: r => (true, r)
  | r => (false, r)

theorem takeMark_of_ne (h : c ≠ '^') (r : List Char) : takeMark (c :: r) = (false, c :: r) := by
  simp [takeMark, h]

/-- The mark is taken alike as far as a character behind it. -/
theorem takeMark_eq_append_cons {negated : Bool} {part : List Char}
    (h : takeMark cs = (negated, part ++ c :: r)) :
    ∃ mark, cs = mark ++ (part ++ c :: r) ∧ (mark = [] ∨ mark = ['^']) ∧
      ∀ r', takeMark (mark ++ (part ++ c :: r')) = (negated, part ++ c :: r') := by
  unfold takeMark at h
  split at h
  next s =>
    cases h
    exact ⟨['^'], rfl, .inr rfl, fun r' => rfl⟩
  next s hmark =>
    cases h
    refine ⟨[], rfl, .inl rfl, fun r' => ?_⟩
    cases part with
    | nil =>
      refine takeMark_of_ne ?_ r'
      rintro rfl
      exact hmark _ rfl
    | cons d part =>
      refine takeMark_of_ne ?_ _
      rintro rfl
      exact hmark _ rfl

theorem readAsciiClass_colon (r : List Char) :
    readAsciiClass (':' :: r) =
      match (takeMark r).2.dropWhile (· != ':') with
      | ':' :: ']' :: rest =>
        (asciiClass? ((takeMark r).2.takeWhile (· != ':'))).map fun set => (((takeMark r).1, set), rest)
      | _ => none :=
  rfl

theorem readAsciiClass_eq_some {x : Bool × CharSet} (h : readAsciiClass cs = some (x, rest)) :
    ∃ init, cs = init ++ ']' :: rest ∧ ']' ∉ init ∧
      ∀ next, readAsciiClass (init ++ ']' :: next) = some (x, next) := by
  obtain ⟨r, rfl⟩ : ∃ r, cs = ':' :: r := by
    unfold readAsciiClass at h
    split at h
    next r => exact ⟨r, rfl⟩
    next => cases h
  rw [readAsciiClass_colon] at h
  rcases hmark : takeMark r with ⟨negated, body⟩
  simp only [hmark] at h
  split at h
  next rest₁ hname =>
    obtain ⟨set, hset, heq⟩ := Option.map_eq_some_iff.1 h
    cases heq
    obtain ⟨hbody, hspan⟩ := takeWhile_dropWhile_eq_cons hname
    rw [hbody] at hmark
    obtain ⟨mark, rfl, hcases, htake⟩ := takeMark_eq_append_cons hmark
    refine ⟨':' :: (mark ++ (body.takeWhile (· != ':') ++ [':'])), by simp, ?_, fun next => ?_⟩
    · have hmem := not_mem_of_asciiClass? hset
      obtain rfl | rfl := hcases <;> simp [hmem]
    · obtain ⟨htakeWhile, hdropWhile⟩ := hspan (']' :: next)
      simp only [List.cons_append, List.append_assoc, List.nil_append, readAsciiClass_colon, htake,
        htakeWhile, hdropWhile, hset]
      rfl
  next => cases h

/-- No text is the name of a class between colons, if it is none with another end behind a closing bracket. -/
theorem readAsciiClass_eq_none {part : List Char} (hpart : ']' ∈ part)
    (h : readAsciiClass (part ++ r) = none) (next : List Char) : readAsciiClass (part ++ next) = none := by
  refine Option.eq_none_iff_forall_ne_some.2 fun x hx => ?_
  obtain ⟨init, hcs, hinit, hread⟩ := readAsciiClass_eq_some hx
  rw [List.append_cons, List.append_eq_append_iff] at hcs
  obtain ⟨l, hl, -⟩ | ⟨l, rfl, -⟩ := hcs
  · obtain rfl | ⟨l', e, rfl⟩ := List.eq_nil_or_concat l
    · rw [List.append_nil] at hl
      rw [← hl, List.append_assoc, List.singleton_append, hread] at h
      cases h
    · rw [List.concat_eq_append, ← List.append_assoc] at hl
      obtain ⟨rfl, -⟩ := List.append_inj' hl rfl
      exact hinit (List.mem_append_left l' hpart)
  · rw [List.append_assoc, List.append_assoc, List.singleton_append, hread] at h
    cases h

/-! ## Items -/

theorem readClassAtom_eq_some {a : Atom} (h : readClassAtom flags cs = some (a, rest))
    (ha : ∀ l, a ≠ .look l) :
    ∃ token after, token ≠ [] ∧ cs = token ++ after ∧ flags.skip rest = flags.skip after ∧
      Takes flags (readClassAtom flags) a token := by
  unfold readClassAtom at h
  split at h
  next => cases h
  next cs =>
    obtain ⟨token, after, rfl, hafter, htakes⟩ := readEscape_eq_some h
    exact ⟨'\\' :: token, after, List.cons_ne_nil _ _, rfl, hafter,
      fun next => htakes next fun l hl => absurd hl (ha l)⟩
  next c cs hslash =>
    cases h
    refine ⟨[c], rest, List.cons_ne_nil _ _, rfl, rfl, fun next => ⟨next, ?_, rfl⟩⟩
    rw [List.singleton_append, readClassAtom]
    exact hslash

/-- An item that is no range. -/
def Atom.setPart? (flags : Flags) : Atom → Option SetPart
  | .char c _ => (charInClass? flags c).map fun c => ⟨.single c, 0⟩
  | .set s => some ⟨s, 0⟩
  | .look _ => none

/-- The range between two items. -/
def Atom.between? (flags : Flags) : Atom → Atom → Option SetPart
  | .char a _, .char b _ =>
    if a ≤ b then
      (charInClass? flags a).bind fun a => (charInClass? flags b).map fun b => ⟨.between a b, 0⟩
    else none
  | _, _ => none

/-- Whether a hyphen before a text makes a range with what the text begins with. -/
def hyphenJoins (flags : Flags) (cs : List Char) : Bool :=
  !(peekAfterHyphen flags cs = some ']' || peekAfterHyphen flags cs = some '-')

theorem readClassItem_eq (flags : Flags) (cs : List Char) :
    readClassItem flags cs = (readClassAtom flags cs).bind fun p =>
      match flags.skip p.2 with
      | [] => none
      | '-' :: r =>
        if hyphenJoins flags r then
          match flags.skip r with
          | [] => none
          | c :: r => (readClassAtom flags (c :: r)).bind fun q => (p.1.between? flags q.1).map (·, q.2)
        else (p.1.setPart? flags).map (·, '-' :: r)
      | c :: r => (p.1.setPart? flags).map (·, c :: r) := by
  unfold readClassItem
  rw [Option.bind_eq_bind]
  congr 1
  funext p
  rcases p with ⟨first, rest⟩
  cases hskip : flags.skip rest with
  | nil => simp [hskip]
  | cons c r =>
    by_cases hc : c = '-'
    · subst hc
      simp only [hskip]
      by_cases hpeek : (peekAfterHyphen flags r = some ']' || peekAfterHyphen flags r = some '-') = true
      · have hjoins : ¬ hyphenJoins flags r = true := by rw [hyphenJoins, hpeek]; decide
        rw [if_pos hpeek, if_neg hjoins]
        cases first <;> simp [Atom.setPart?, Function.comp_def]
      · have hjoins : hyphenJoins flags r = true := by
          rw [hyphenJoins, Bool.not_eq_true', ← Bool.not_eq_true]
          exact hpeek
        rw [if_neg hpeek, if_pos hjoins]
        cases flags.skip r with
        | nil => rfl
        | cons d ds =>
          simp only
          congr 1
          funext q
          rcases q with ⟨second, rest⟩
          cases first with
          | char a _ =>
            cases second with
            | char b _ =>
              by_cases hle : a ≤ b
              · simp only [Atom.between?, if_pos hle]
                cases charInClass? flags a <;> cases charInClass? flags b <;> rfl
              · simp [Atom.between?, if_neg hle]
            | set => rfl
            | look => rfl
          | set => rfl
          | look => rfl
    · cases first <;> simp [hskip, hc, Atom.setPart?, Function.comp_def]

theorem readClassItem_alone {first : Atom} (hfirst : readClassAtom flags cs = some (first, rest))
    (hskip : flags.skip rest = c :: r) (halone : c = '-' → hyphenJoins flags r = false) :
    readClassItem flags cs = (first.setPart? flags).map (·, c :: r) := by
  simp only [readClassItem_eq, hfirst, Option.bind_some, hskip]
  by_cases hc : c = '-'
  · subst hc
    simp [halone rfl]
  · simp

theorem readClassItem_range {first : Atom} {ds : List Char}
    (hfirst : readClassAtom flags cs = some (first, rest)) (hskip : flags.skip rest = '-' :: r)
    (hjoins : hyphenJoins flags r = true) (hsecond : flags.skip r = d :: ds) :
    readClassItem flags cs =
      (readClassAtom flags (d :: ds)).bind fun q => (first.between? flags q.1).map (·, q.2) := by
  simp only [readClassItem_eq, hfirst, Option.bind_some, hskip, hjoins, if_true, hsecond]

theorem hyphenJoins_append {part : List Char} (h : ']' ∈ part) (next : List Char) :
    hyphenJoins flags (part ++ next) = hyphenJoins flags part := by
  simp only [hyphenJoins, peekAfterHyphen_append h]

/-- An item is read alike where the same text up to a closing bracket follows it. -/
def ItemBefore (flags : Flags) (token : List Char) (part : SetPart) (closing : List Char) : Prop :=
  ∀ next, ∃ rest, readClassItem flags (token ++ (closing ++ next)) = some (part, rest) ∧
    flags.skip rest = flags.skip (closing ++ next)

/-- An item is taken off the front of a text, and is read alike up to a closing bracket behind it. -/
def ItemFrom (flags : Flags) (part : SetPart) (cs rest : List Char) : Prop :=
  ∃ token after, token ≠ [] ∧ cs = token ++ after ∧ flags.skip rest = flags.skip after ∧
    ∀ closing r, after = closing ++ r → Closing flags closing → ItemBefore flags token part closing

theorem setPart?_ne_look {a : Atom} {part : SetPart} (h : a.setPart? flags = some part) (l : Look) :
    a ≠ .look l := by
  rintro rfl
  cases h

theorem between?_ne_look {a b : Atom} {part : SetPart} (h : a.between? flags b = some part) (l : Look) :
    a ≠ .look l ∧ b ≠ .look l := by
  constructor
  · rintro rfl
    cases b <;> cases h
  · rintro rfl
    cases a <;> cases h

theorem itemFrom_of_alone {first : Atom} {part : SetPart} {rest₁ : List Char}
    (hfirst : readClassAtom flags cs = some (first, rest₁)) (hskip : flags.skip rest₁ = c :: r)
    (halone : c = '-' → hyphenJoins flags r = false) (hpart : first.setPart? flags = some part) :
    ItemFrom flags part cs (c :: r) := by
  obtain ⟨token, after, htoken, rfl, hafter, htakes⟩ :=
    readClassAtom_eq_some hfirst fun l => setPart?_ne_look hpart l
  refine ⟨token, after, htoken, rfl, by rw [← hskip, Flags.skip_skip, hafter],
    fun closing r' hr' hclosing next => ?_⟩
  subst hr'
  rw [hafter, Flags.skip_append hclosing.visible] at hskip
  obtain ⟨e, es, hes⟩ := List.exists_cons_of_ne_nil hclosing.visible
  rw [hes, List.cons_append, List.cons.injEq] at hskip
  obtain ⟨rfl, rfl⟩ := hskip
  obtain ⟨rest', hread, hrest'⟩ := htakes (closing ++ next)
  have hskip' : flags.skip rest' = e :: (es ++ next) := by
    rw [hrest', Flags.skip_append hclosing.visible, hes, List.cons_append]
  refine ⟨e :: (es ++ next), ?_, ?_⟩
  · rw [readClassItem_alone hread hskip', hpart]
    · rfl
    · rintro rfl
      have hmem := hclosing.mem_tail hes (by decide)
      rw [hyphenJoins_append hmem, ← hyphenJoins_append hmem r', halone rfl]
  · rw [← hskip', Flags.skip_skip, hrest']

theorem itemFrom_of_range {first second : Atom} {part : SetPart} {rest₁ ds : List Char}
    (hfirst : readClassAtom flags cs = some (first, rest₁)) (hskip : flags.skip rest₁ = '-' :: r)
    (hjoins : hyphenJoins flags r = true) (hds : flags.skip r = d :: ds)
    (hsecond : readClassAtom flags (d :: ds) = some (second, rest))
    (hpart : first.between? flags second = some part) : ItemFrom flags part cs rest := by
  obtain ⟨token, after, htoken, rfl, hafter, htakes⟩ :=
    readClassAtom_eq_some hfirst fun l => (between?_ne_look hpart l).1
  obtain ⟨token₂, after₂, htoken₂, hcs₂, hafter₂, htakes₂⟩ :=
    readClassAtom_eq_some hsecond fun l => (between?_ne_look hpart l).2
  rw [hafter] at hskip
  obtain ⟨gap, rfl, hgap⟩ := Flags.skip_eq_cons hskip
  rw [hcs₂] at hds
  obtain ⟨gap₂, rfl, hgap₂⟩ := Flags.skip_eq_append hds htoken₂
  refine ⟨token ++ (gap ++ '-' :: (gap₂ ++ token₂)), after₂, by simp, by simp, hafter₂,
    fun closing r' hr' hclosing next => ?_⟩
  subst hr'
  obtain ⟨rest', hread, hrest'⟩ := htakes (gap ++ '-' :: (gap₂ ++ (token₂ ++ (closing ++ next))))
  obtain ⟨rest₂, hread₂, hrest₂⟩ := htakes₂ (closing ++ next)
  refine ⟨rest₂, ?_, hrest₂⟩
  have hmem : ']' ∈ gap₂ ++ (token₂ ++ closing) := by simp [hclosing.mem]
  have hjoins' : hyphenJoins flags (gap₂ ++ (token₂ ++ (closing ++ next))) = true := by
    have hpart (next : List Char) : hyphenJoins flags (gap₂ ++ (token₂ ++ (closing ++ next))) =
        hyphenJoins flags (gap₂ ++ (token₂ ++ closing)) := by
      simpa only [List.append_assoc] using hyphenJoins_append hmem next
    rw [hpart, ← hpart r', hjoins]
  have htext : token ++ (gap ++ '-' :: (gap₂ ++ token₂)) ++ (closing ++ next) =
      token ++ (gap ++ '-' :: (gap₂ ++ (token₂ ++ (closing ++ next)))) := by simp
  have hds' := hgap₂ (closing ++ next)
  obtain ⟨e, es, rfl⟩ := List.exists_cons_of_ne_nil htoken₂
  rw [List.cons_append] at hread₂ hds'
  rw [htext, readClassItem_range hread (hrest'.trans (hgap _)) hjoins' hds', hread₂, Option.bind_some,
    hpart]
  rfl

theorem readClassItem_eq_some {part : SetPart} (h : readClassItem flags cs = some (part, rest)) :
    ItemFrom flags part cs rest := by
  rw [readClassItem_eq] at h
  obtain ⟨⟨first, rest₁⟩, hfirst, h⟩ := Option.bind_eq_some_iff.1 h
  -- an item that is no range ends before a character, which stays where it is
  have halone {c : Char} {r : List Char} (hskip : flags.skip rest₁ = c :: r)
      (hc : c = '-' → hyphenJoins flags r = false)
      (h : (first.setPart? flags).map (·, c :: r) = some (part, rest)) :
      ItemFrom flags part cs rest := by
    obtain ⟨_, hpart, heq⟩ := Option.map_eq_some_iff.1 h
    cases heq
    exact itemFrom_of_alone hfirst hskip hc hpart
  simp only at h
  split at h
  next => cases h
  next r hskip =>
    split at h
    next hjoins =>
      split at h
      next => cases h
      next d ds hds =>
        obtain ⟨⟨second, rest₂⟩, hsecond, h⟩ := Option.bind_eq_some_iff.1 h
        obtain ⟨_, hpart, heq⟩ := Option.map_eq_some_iff.1 h
        cases heq
        exact itemFrom_of_range hfirst hskip hjoins hds hsecond hpart
    next hjoins => exact halone hskip (fun _ => Bool.not_eq_true _ ▸ hjoins) h
  next c r hc hskip => exact halone hskip (fun heq => absurd heq hc) h

/-! ## Opening brackets -/

theorem takeHyphens_of_ne (h : c ≠ '-') (n : Nat) (g : Gathered) (r : List Char) :
    takeHyphens flags n g (c :: r) = (g, c :: r) := by
  cases n with
  | zero => rfl
  | succ n => simp [takeHyphens, h]

/-- Hyphens are taken alike up to a character that is none. -/
theorem takeHyphens_eq_cons {g parts : Gathered} (hn : cs.length ≤ n)
    (h : takeHyphens flags n g cs = (parts, c :: r)) :
    ∃ token, cs = token ++ c :: r ∧ ∀ m, token.length ≤ m → ∀ r',
      takeHyphens flags m g (token ++ c :: r') = (parts, c :: r') := by
  induction n generalizing cs g with
  | zero =>
    obtain rfl : cs = [] := List.eq_nil_of_length_eq_zero (Nat.le_zero.1 hn)
    cases h
  | succ n ih =>
    cases cs with
    | nil => cases h
    | cons d ds =>
      by_cases hd : d = '-'
      · subst hd
        rw [takeHyphens] at h
        have hlength := (Flags.length_skip_le flags ds).trans (Nat.le_of_succ_le_succ hn)
        obtain ⟨token, hds, htoken⟩ := ih hlength h
        obtain ⟨gap, rfl, hgap⟩ := Flags.skip_eq_append_cons hds
        refine ⟨'-' :: (gap ++ token), by simp, fun m hm r' => ?_⟩
        rw [List.length_cons, List.length_append] at hm
        cases m with
        | zero => omega
        | succ m => rw [List.cons_append, List.append_assoc, takeHyphens, hgap, htoken m (by omega)]
      · rw [takeHyphens_of_ne hd] at h
        cases h
        exact ⟨[], rfl, fun m _ r' => takeHyphens_of_ne hd m _ r'⟩

/-- The mark of a negation with the gaps around it. -/
def Flags.takeMark (flags : Flags) (cs : List Char) : Bool × List Char :=
  match Pattern.takeMark (flags.skip cs) with
  | (true, r) => (true, flags.skip r)
  | (false, r) => (false, r)

theorem Flags.takeMark_eq_append_cons {negated : Bool} {part : List Char}
    (h : flags.takeMark cs = (negated, part ++ c :: r)) :
    ∃ token, cs = token ++ (part ++ c :: r) ∧
      ∀ r', flags.takeMark (token ++ (part ++ c :: r')) = (negated, part ++ c :: r') := by
  unfold Flags.takeMark at h
  rcases hmark : Pattern.takeMark (flags.skip cs) with ⟨marked, s⟩
  rw [hmark] at h
  obtain ⟨gap, rfl, hgap⟩ : ∃ gap, s = gap ++ part ++ c :: r ∧ ∀ r',
      (match (marked, gap ++ part ++ c :: r') with
        | (true, r) => (true, flags.skip r)
        | (false, r) => (false, r)) = (negated, part ++ c :: r') := by
    cases marked with
    | true =>
      obtain ⟨rfl, hs⟩ := Prod.mk.inj h
      obtain ⟨gap, rfl, hgap⟩ := Flags.skip_eq_append_cons hs
      exact ⟨gap, by simp, fun r' => by simp only [List.append_assoc, hgap]⟩
    | false =>
      obtain ⟨rfl, rfl⟩ := Prod.mk.inj h
      exact ⟨[], rfl, fun r' => rfl⟩
  obtain ⟨mark, hcs, -, htake⟩ := Pattern.takeMark_eq_append_cons hmark
  rw [← List.append_assoc mark] at hcs
  obtain ⟨gap₀, rfl, hgap₀⟩ := Flags.skip_eq_append_cons hcs
  refine ⟨gap₀ ++ (mark ++ gap), by simp, fun r' => ?_⟩
  have hskip := hgap₀ r'
  have hnext := htake r'
  simp only [List.append_assoc] at hskip hnext hgap ⊢
  rw [Flags.takeMark, hskip, hnext, hgap]

/-- The bracket from what its hyphens are and leave. A closing bracket that comes first stands for itself. -/
def openFrom (flags : Flags) (negated : Bool) (parts : Gathered) : List Char → Option (Bracket × List Char)
  | [] => none
  | c :: r =>
    if c = ']' ∧ parts.count = 0 then
      match flags.skip r with
      | [] => none
      | d :: r => some (⟨negated, none, parts.add ⟨.single ']', 0⟩⟩, d :: r)
    else some (⟨negated, none, parts⟩, c :: r)

theorem openFrom_eq (flags : Flags) (negated : Bool) (parts : Gathered) (left : List Char) :
    openFrom flags negated parts left =
      match left with
      | [] => none
      | ']' :: r =>
        if parts.count = 0 then
          match flags.skip r with
          | [] => none
          | r => some (⟨negated, none, parts.add ⟨.single ']', 0⟩⟩, r)
        else some (⟨negated, none, parts⟩, left)
      | _ => some (⟨negated, none, parts⟩, left) := by
  cases left with
  | nil => rfl
  | cons c r =>
    by_cases hc : c = ']'
    · subst hc
      cases hr : flags.skip r <;> simp [openFrom, hr]
    · simp [openFrom, hc]

theorem openBracket_eq {negated : Bool} {body left : List Char} {parts : Gathered}
    (hmark : flags.takeMark cs = (negated, body))
    (hhyphens : takeHyphens flags body.length .empty body = (parts, left)) :
    openBracket flags cs = openFrom flags negated parts left := by
  cases hskip : flags.skip cs with
  | nil =>
    have heq : (false, []) = (negated, body) := by
      rw [← hmark, Flags.takeMark, hskip]
      rfl
    cases heq
    simp only [openBracket, hskip, hhyphens]
    exact (openFrom_eq flags false parts left).symm
  | cons c r =>
    by_cases hc : c = '^'
    · subst hc
      have heq : (true, flags.skip r) = (negated, body) := by
        rw [← hmark, Flags.takeMark, hskip]
        rfl
      cases heq
      simp only [openBracket, hskip, hhyphens]
      exact (openFrom_eq flags true parts left).symm
    · have heq : (false, c :: r) = (negated, body) := by
        rw [← hmark, Flags.takeMark, hskip, takeMark_of_ne hc]
      cases heq
      -- the first pattern does not apply, and this is how `simp` knows
      have hne : ∀ s, c :: r = '^' :: s → False := fun s hs => hc (List.cons.inj hs).1
      simp only [openBracket, hskip, hhyphens]
      exact (openFrom_eq flags false parts left).symm

/-- A bracket is opened alike up to the character that follows. -/
theorem openBracket_eq_some {b : Bracket} (h : openBracket flags cs = some (b, rest)) :
    ∃ token c r, cs = token ++ c :: r ∧ rest = c :: r ∧
      ∀ r', openBracket flags (token ++ c :: r') = some (b, c :: r') := by
  rcases hmark : flags.takeMark cs with ⟨negated, body⟩
  rcases hhyphens : takeHyphens flags body.length .empty body with ⟨parts, left⟩
  rw [openBracket_eq hmark hhyphens] at h
  cases left with
  | nil => cases h
  | cons c r =>
    obtain ⟨token, hbody, htoken⟩ := takeHyphens_eq_cons le_rfl hhyphens
    rw [hbody] at hmark
    obtain ⟨token₀, rfl, htoken₀⟩ := Flags.takeMark_eq_append_cons hmark
    have hopen (r' : List Char) : openBracket flags (token₀ ++ (token ++ c :: r')) =
        openFrom flags negated parts (c :: r') :=
      openBracket_eq (htoken₀ r') (htoken _ (by simp) r')
    rw [openFrom] at h
    split at h
    next hfirst =>
      split at h
      next => cases h
      next d ds hds =>
        cases h
        obtain ⟨gap, rfl, hgap⟩ := Flags.skip_eq_cons hds
        refine ⟨token₀ ++ (token ++ c :: gap), d, ds, by simp, rfl, fun r' => ?_⟩
        have hnext := hopen (gap ++ d :: r')
        rw [openFrom, if_pos hfirst, hgap] at hnext
        simpa only [List.append_assoc, List.cons_append] using hnext
    next hfirst =>
      cases h
      refine ⟨token₀ ++ token, c, r, by simp, rfl, fun r' => ?_⟩
      rw [List.append_assoc, hopen, openFrom, if_neg hfirst]

/-! ## Whole classes -/

/-- How the text of a class may begin where it goes on with an item. -/
def ItemStart (c d : Char) : Prop :=
  c ≠ '[' ∧ c ≠ ']' ∧ ¬ (c = d ∧ c ∈ ['&', '-', '~'])

theorem readClassRest_item {bracket : Bracket} {outer : List Bracket} (hskip : flags.skip cs = c :: d :: r)
    (h : ItemStart c d) :
    readClassRest flags (n + 1) bracket outer cs = (readClassItem flags (c :: d :: r)).bind fun p =>
      readClassRest flags n { bracket with parts := bracket.parts.add p.1 } outer p.2 := by
  obtain ⟨hopen, hclose, hop⟩ := h
  rw [readClassRest]
  simp only [hskip]
  split
  next heq => cases heq
  next heq =>
    cases heq
    exact absurd rfl hopen
  next heq =>
    cases heq
    exact absurd rfl hclose
  next heq =>
    cases heq
    exact absurd ⟨rfl, by simp⟩ hop
  next heq =>
    cases heq
    exact absurd ⟨rfl, by simp⟩ hop
  next heq =>
    cases heq
    exact absurd ⟨rfl, by simp⟩ hop
  next => rfl

/-- The rest of a class depends on what is left of a text behind a gap. -/
theorem readClassRest_congr {bracket : Bracket} {outer : List Bracket} {cs' : List Char}
    (h : flags.skip cs = flags.skip cs') (n : Nat) :
    readClassRest flags n bracket outer cs = readClassRest flags n bracket outer cs' := by
  cases n with
  | zero => rfl
  | succ n => rw [readClassRest, readClassRest, h]

/-- A token is read as the rest of a class before any text. -/
def RestBefore (flags : Flags) (bracket : Bracket) (outer : List Bracket) (part : SetPart)
    (token : List Char) : Prop :=
  ∀ m, token.length ≤ m → ∀ next,
    readClassRest flags m bracket outer (token ++ next) = some (part, next)

/-- What is read of the rest of a class is a token at the front of a text, up to a closing bracket. -/
def RestFrom (flags : Flags) (bracket : Bracket) (outer : List Bracket) (part : SetPart)
    (cs rest : List Char) : Prop :=
  ∃ token, cs = token ++ rest ∧ Closing flags token ∧ RestBefore flags bracket outer part token

section Step

variable {bracket bracket' : Bracket} {outer outer' : List Bracket} {part : SetPart} {token : List Char}

/-- A step over the first part of a text leads from what is read of the rest to what is read of the whole. -/
theorem restFrom_of_step (pre : List Char) (hskip : flags.skip cs = pre ++ (token ++ rest))
    (hpre : pre ≠ []) (hclosing : Closing flags token) (hrest : RestBefore flags bracket' outer' part token)
    (hstep : ∀ cs' m next, flags.skip cs' = pre ++ (token ++ next) →
      readClassRest flags (m + 1) bracket outer cs' =
        readClassRest flags m bracket' outer' (token ++ next)) :
    RestFrom flags bracket outer part cs rest := by
  obtain ⟨gap, rfl, hgap⟩ := Flags.skip_eq_append hskip hpre
  have hvisible : flags.skip (gap ++ (pre ++ token)) ≠ [] := by
    rw [hgap]
    simp [hpre]
  refine ⟨gap ++ (pre ++ token), by simp, ?_, fun m hm next => ?_⟩
  · rw [← List.append_assoc] at hvisible ⊢
    exact hclosing.append hvisible
  · have hlength := List.length_pos_iff.2 hpre
    rw [List.length_append, List.length_append] at hm
    cases m with
    | zero => omega
    | succ m => rw [List.append_assoc, List.append_assoc, hstep _ _ _ (hgap _), hrest m (by omega)]

theorem restFrom_of_end (hskip : flags.skip cs = ']' :: rest)
    (hread : ∀ cs' m next, flags.skip cs' = ']' :: next →
      readClassRest flags (m + 1) bracket outer cs' = some (part, next)) :
    RestFrom flags bracket outer part cs rest := by
  obtain ⟨gap, rfl, hgap⟩ := Flags.skip_eq_cons hskip
  refine ⟨gap ++ [']'], by simp, ⟨by simp, by simp [hgap]⟩, fun m hm next => ?_⟩
  rw [List.length_append, List.length_singleton] at hm
  cases m with
  | zero => omega
  | succ m => rw [List.append_assoc, List.singleton_append, hread _ _ _ (hgap _)]

theorem restFrom_of_nested {r : List Char} (hskip : flags.skip cs = '[' :: r)
    (hname : readAsciiClass r = none) {left : List Char} (hopen : openBracket flags r = some (bracket', left))
    (hleft : left = token ++ rest) (hclosing : Closing flags token)
    (hrest : RestBefore flags bracket' (bracket :: outer) part token) :
    RestFrom flags bracket outer part cs rest := by
  obtain ⟨token₀, e, es, rfl, hleft', hbracket⟩ := openBracket_eq_some hopen
  cases token with
  | nil => exact absurd (Flags.skip_nil flags) hclosing.visible
  | cons e' token =>
    rw [hleft', List.cons_append, List.cons.injEq] at hleft
    obtain ⟨rfl, rfl⟩ := hleft
    refine restFrom_of_step ('[' :: token₀) (by simpa using hskip) (List.cons_ne_nil _ _) hclosing hrest
      fun cs' m next hnext => ?_
    have hmem : ']' ∈ token₀ ++ e :: token := List.mem_append_right token₀ hclosing.mem
    have hname' : readAsciiClass (token₀ ++ e :: (token ++ next)) = none := by
      have hnone := readAsciiClass_eq_none hmem (r := rest) (by simpa using hname) next
      simpa using hnone
    rw [readClassRest]
    simp only [hnext, List.cons_append, hname', hbracket, Option.bind_eq_bind, Option.bind_some]

theorem restFrom_of_item {pre : List Char} {item : SetPart}
    (hskip : flags.skip cs = pre ++ (token ++ rest)) (hpre : pre ≠ [])
    (hstart : ∀ c d r, flags.skip cs = c :: d :: r → ItemStart c d)
    (hitem : ItemBefore flags pre item token) (hclosing : Closing flags token)
    (hrest : RestBefore flags { bracket with parts := bracket.parts.add item } outer part token) :
    RestFrom flags bracket outer part cs rest := by
  refine restFrom_of_step pre hskip hpre hclosing hrest fun cs' m next hnext => ?_
  -- the first two characters stand in the item or before the end of the class
  obtain ⟨c, pre, rfl⟩ := List.exists_cons_of_ne_nil hpre
  have hne : pre ++ token ≠ [] := List.append_ne_nil_of_right_ne_nil pre (List.ne_nil_of_mem hclosing.mem)
  obtain ⟨d, ds, hds⟩ := List.exists_cons_of_ne_nil hne
  have htext (next : List Char) : c :: pre ++ (token ++ next) = c :: d :: (ds ++ next) := by
    rw [List.cons_append, ← List.append_assoc, hds, List.cons_append]
  obtain ⟨rest', hread, hrest'⟩ := hitem next
  rw [htext] at hskip hnext hread
  rw [readClassRest_item hnext (hstart c d _ hskip), hread, Option.bind_some]
  exact readClassRest_congr hrest' m

/-- The two characters of an operation, which what is before them in the brackets is one side of. -/
theorem restFrom_of_operation {op : SetOp} (hop : (c, op) ∈ [('&', .inter), ('-', .diff), ('~', .symmDiff)])
    (hskip : flags.skip cs = c :: c :: (token ++ rest)) (hclosing : Closing flags token)
    (hrest : RestBefore flags ⟨bracket.negated, some (op, bracket.settle flags), .empty⟩ outer part token) :
    RestFrom flags bracket outer part cs rest := by
  refine restFrom_of_step [c, c] hskip (List.cons_ne_nil _ _) hclosing hrest fun cs' m next hnext => ?_
  simp only [List.mem_cons, List.not_mem_nil, or_false, Prod.mk.injEq] at hop
  rw [readClassRest]
  obtain ⟨rfl, rfl⟩ | ⟨rfl, rfl⟩ | ⟨rfl, rfl⟩ := hop <;>
    simp only [hnext, List.cons_append, List.nil_append]

end Step

/-- What is read of the rest of a class ends with a bracket, and is read alike before any text. -/
theorem readClassRest_eq_some {bracket : Bracket} {outer : List Bracket} {part : SetPart}
    (h : readClassRest flags n bracket outer cs = some (part, rest)) :
    RestFrom flags bracket outer part cs rest := by
  induction n generalizing bracket outer cs with
  | zero => cases h
  | succ n ih =>
    rw [readClassRest] at h
    simp only at h
    split at h
    next => cases h
    next r hskip =>
      split at h
      next negated set left hname =>
        obtain ⟨set', hset, h⟩ := Option.bind_eq_some_iff.1 h
        obtain ⟨token, rfl, hclosing, hrest⟩ := ih h
        obtain ⟨init, rfl, -, hread⟩ := readAsciiClass_eq_some hname
        refine restFrom_of_step ('[' :: (init ++ [']'])) (by simpa using hskip) (List.cons_ne_nil _ _)
          hclosing hrest fun cs' m next hnext => ?_
        have hnext' : flags.skip cs' = '[' :: (init ++ ']' :: (token ++ next)) := by simpa using hnext
        rw [readClassRest]
        simp only [hnext', hread, hset, Option.bind_eq_bind, Option.bind_some]
      next hname =>
        obtain ⟨⟨inner, left⟩, hopen, h⟩ := Option.bind_eq_some_iff.1 h
        obtain ⟨token, hleft, hclosing, hrest⟩ := ih h
        exact restFrom_of_nested hskip hname hopen hleft hclosing hrest
    next r hskip =>
      obtain ⟨set, hset, h⟩ := Option.bind_eq_some_iff.1 h
      split at h
      next =>
        cases h
        refine restFrom_of_end hskip fun cs' m next hnext => ?_
        rw [readClassRest]
        simp only [hnext, hset, Option.bind_eq_bind, Option.bind_some]
        rfl
      next b bs =>
        obtain ⟨token, rfl, hclosing, hrest⟩ := ih h
        refine restFrom_of_step [']'] hskip (List.cons_ne_nil _ _) hclosing hrest
          fun cs' m next hnext => ?_
        rw [readClassRest]
        simp only [hnext, List.cons_append, List.nil_append, hset, Option.bind_eq_bind, Option.bind_some]
    next r hskip =>
      obtain ⟨token, rfl, hclosing, hrest⟩ := ih h
      exact restFrom_of_operation (by simp) hskip hclosing hrest
    next r hskip =>
      obtain ⟨token, rfl, hclosing, hrest⟩ := ih h
      exact restFrom_of_operation (by simp) hskip hclosing hrest
    next r hskip =>
      obtain ⟨token, rfl, hclosing, hrest⟩ := ih h
      exact restFrom_of_operation (by simp) hskip hclosing hrest
    next hempty hopen hclose hinter hdiff hsymm =>
      obtain ⟨⟨item, left⟩, hitem, h⟩ := Option.bind_eq_some_iff.1 h
      obtain ⟨pre, after, hpre, hskip, hafter, hbefore⟩ := readClassItem_eq_some hitem
      simp only at h
      rw [readClassRest_congr hafter] at h
      obtain ⟨token, rfl, hclosing, hrest⟩ := ih h
      refine restFrom_of_item hskip hpre (fun c d r hcs => ⟨?_, ?_, ?_⟩)
        (hbefore token rest rfl hclosing) hclosing hrest
      · rintro rfl
        exact hopen _ hcs
      · rintro rfl
        exact hclose _ hcs
      · rintro ⟨rfl, hc⟩
        simp only [List.mem_cons, List.not_mem_nil, or_false] at hc
        obtain rfl | rfl | rfl := hc
        · exact hinter _ hcs
        · exact hdiff _ hcs
        · exact hsymm _ hcs

/-- A class is read alike before any text. -/
theorem readClass_eq_some {part : SetPart} (h : readClass flags cs = some (part, rest)) :
    ∃ token, cs = token ++ rest ∧ ∀ next, readClass flags (token ++ next) = some (part, next) := by
  obtain ⟨⟨bracket, left⟩, hopen, h⟩ := Option.bind_eq_some_iff.1 h
  obtain ⟨token, c, r, rfl, rfl, hbracket⟩ := openBracket_eq_some hopen
  obtain ⟨token', hr, hclosing, hrest⟩ := readClassRest_eq_some h
  obtain ⟨d, ds, rfl⟩ := List.exists_cons_of_ne_nil (List.ne_nil_of_mem hclosing.mem)
  rw [List.cons_append, List.cons.injEq] at hr
  obtain ⟨rfl, rfl⟩ := hr
  refine ⟨token ++ c :: ds, by simp, fun next => ?_⟩
  rw [List.append_assoc, List.cons_append, readClass, hbracket]
  exact hrest _ (by simp; omega) next

end RouteExpr.Pattern
