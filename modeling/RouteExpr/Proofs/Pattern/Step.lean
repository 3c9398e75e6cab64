/-
One step of reading a pattern is the same whatever follows the token that it takes.

The text behind the token may be replaced by one that begins alike, or by one that the token could not
take up. The groups around the one that is read matter only where that one is left.
-/
import RouteExpr.Proofs.Pattern.Class
import RouteExpr.Proofs.Pattern.Header

namespace RouteExpr.Pattern

/-! ## Texts to be read -/

/-- The pattern that is being read, with another text to come. -/
def Progress.withRest (p : Progress) (cs : List Char) : Progress :=
  { p with rest := cs }

@[simp] theorem Progress.withRest_rest (p : Progress) (cs : List Char) : (p.withRest cs).rest = cs := rfl

@[simp] theorem Progress.withRest_flags (p : Progress) (cs : List Char) :
    (p.withRest cs).flags = p.flags := rfl

@[simp] theorem Progress.withRest_withRest (p : Progress) (cs cs' : List Char) :
    (p.withRest cs).withRest cs' = p.withRest cs' := rfl

@[simp] theorem Progress.withRest_self (p : Progress) : p.withRest p.rest = p := rfl

variable {flags : Flags} {p q : Progress} {cs rest r : List Char} {c : Char}

/-- A way of going on with a pattern takes the same token alike, whatever may follow it. -/
def Goes (next? : List Char → Option Progress) (q : Progress) (cs token after : List Char) : Prop :=
  cs = token ++ after ∧ q.flags.skip q.rest = q.flags.skip after ∧
    ∀ next, Follows q.flags after next →
      ∃ rest, next? (token ++ next) = some (q.withRest rest) ∧ q.flags.skip rest = q.flags.skip next

/-! ## Groups -/

/-- What stands before a group is a token of its own, and the group is entered alike before any text. -/
def Enters (enter? : List Char → Option Progress) (q : Progress) (cs : List Char) : Prop :=
  ∃ token, token ≠ [] ∧ cs = token ++ q.rest ∧ ∀ next, enter? (token ++ next) = some (q.withRest next)

theorem enterNamed_enters (h : p.enterNamed cs = some q) : Enters p.enterNamed q cs := by
  obtain ⟨⟨name, rest⟩, hname, hq⟩ := Option.bind_eq_some_iff.1 h
  obtain ⟨token, rfl, hread⟩ := readName_eq_some hname
  have htoken : token ≠ [] := by
    rintro rfl
    cases hread []
  simp only at hq
  split at hq
  next => cases hq
  next hnew =>
    cases hq
    refine ⟨token, htoken, rfl, fun next => ?_⟩
    rw [Progress.enterNamed, hread]
    simp only [Option.bind_eq_bind, Option.bind_some, if_neg hnew]
    rfl

/-- The flags of a group, or of what is left of one. -/
def Progress.setFlags? (p : Progress) (cs : List Char) : Option Progress :=
  (readFlags p.flags true [] cs).bind fun x =>
    if !x.1.2.2 then some (p.enter false x.1.1 x.2)
    else if !x.1.2.1 then none
    else some { p.push ⟨.empty, false, 0⟩ x.2 with flags := x.1.1 }

theorem setFlags?_enters (h : p.setFlags? cs = some q) : Enters p.setFlags? q cs := by
  obtain ⟨⟨⟨flags, any, closed⟩, rest⟩, hflags, hq⟩ := Option.bind_eq_some_iff.1 h
  obtain ⟨token, rfl, hread⟩ := readFlags_eq_some hflags
  have htoken : token ≠ [] := by
    rintro rfl
    cases hread []
  refine ⟨token, htoken, ?_⟩
  simp only [Progress.setFlags?, hread, Option.bind_some]
  simp only at hq
  split at hq
  next hclosed =>
    cases hq
    exact ⟨rfl, fun next => by rw [if_pos hclosed]; rfl⟩
  next hclosed =>
    split at hq
    next => cases hq
    next hany =>
      cases hq
      exact ⟨rfl, fun next => by rw [if_neg hclosed, if_neg hany]; rfl⟩

/-- What stands behind the question mark and the angle of a group: a name, or what looks behind. -/
def Progress.openAngle? (p : Progress) (r : List Char) : Option Progress :=
  if r.head? = some '=' ∨ r.head? = some '!' then none else p.enterNamed r

/-- What stands behind the question mark of a group: an angle and a name, flags, or what looks ahead. -/
def Progress.openMarked? (p : Progress) : List Char → Option Progress
  | [] => none
  | c :: r =>
    if c = '=' ∨ c = '!' then none
    else if c = '<' then p.openAngle? r
    else if c = 'P' ∧ r.head? = some '<' then p.enterNamed r.tail
    else p.setFlags? (c :: r)

theorem openAngle?_of_name (hequal : ∀ s, r ≠ '=' :: s) (hmark : ∀ s, r ≠ '!' :: s) :
    p.openAngle? r = p.enterNamed r := by
  rw [Progress.openAngle?, if_neg]
  rintro (hhead | hhead)
  · obtain ⟨s, hs⟩ := List.head?_eq_some_iff.1 hhead
    exact hequal s hs
  · obtain ⟨s, hs⟩ := List.head?_eq_some_iff.1 hhead
    exact hmark s hs

theorem openMarked?_of_flags (hequal : ∀ s, r ≠ '=' :: s) (hmark : ∀ s, r ≠ '!' :: s)
    (hangle : ∀ s, r ≠ '<' :: s) (hname : ∀ s, r ≠ 'P' :: '<' :: s) :
    p.openMarked? r = p.setFlags? r := by
  cases r with
  | nil => rfl
  | cons c r =>
    have hlook : ¬ (c = '=' ∨ c = '!') := by
      rintro (rfl | rfl)
      · exact hequal r rfl
      · exact hmark r rfl
    have hc : c ≠ '<' := by
      rintro rfl
      exact hangle r rfl
    have hp : ¬ (c = 'P' ∧ r.head? = some '<') := by
      rintro ⟨rfl, hhead⟩
      obtain ⟨s, rfl⟩ := List.head?_eq_some_iff.1 hhead
      exact hname s rfl
    rw [Progress.openMarked?, if_neg hlook, if_neg hc, if_neg hp]

/-- A group says its kind behind a question mark, or remembers what it matches. -/
theorem open?_eq (p : Progress) (cs : List Char) :
    p.open? cs = if (p.flags.skip cs).head? = some '?' then p.openMarked? (p.flags.skip cs).tail
      else some (p.enter true p.flags (p.flags.skip cs)) := by
  unfold Progress.open?
  split
  next hskip => simp [hskip, Progress.openMarked?]
  next hskip => simp [hskip, Progress.openMarked?]
  next hskip => simp [hskip, Progress.openMarked?, Progress.openAngle?]
  next hskip => simp [hskip, Progress.openMarked?, Progress.openAngle?]
  next hskip => simp [hskip, Progress.openMarked?]
  next r hequal hmark hskip =>
    rw [hskip, List.head?_cons, if_pos rfl, List.tail_cons]
    exact (openAngle?_of_name hequal hmark).symm
  next r hequal hmark _ _ hname hangle hskip =>
    rw [hskip, List.head?_cons, if_pos rfl, List.tail_cons, openMarked?_of_flags hequal hmark hangle hname]
    rfl
  next hplain =>
    rw [if_neg]
    intro hhead
    obtain ⟨s, hs⟩ := List.head?_eq_some_iff.1 hhead
    exact hplain s hs

theorem openAngle?_enters (h : p.openAngle? cs = some q) : Enters p.openAngle? q cs := by
  unfold Progress.openAngle? at h
  split at h
  next => cases h
  next hlook =>
    obtain ⟨token, htoken, rfl, henter⟩ := enterNamed_enters h
    refine ⟨token, htoken, rfl, fun next => ?_⟩
    have hhead : (token ++ next).head? = (token ++ q.rest).head? := by
      obtain ⟨c, token, rfl⟩ := List.exists_cons_of_ne_nil htoken
      rfl
    rw [Progress.openAngle?, hhead, if_neg hlook, henter]

/-- A group that says its kind is entered alike before any text. -/
theorem openMarked?_enters (h : p.openMarked? cs = some q) : Enters p.openMarked? q cs := by
  cases cs with
  | nil => cases h
  | cons c r =>
    rw [Progress.openMarked?] at h
    split at h
    next => cases h
    next hlook =>
      split at h
      next hc =>
        obtain ⟨token, -, rfl, henter⟩ := openAngle?_enters h
        refine ⟨c :: token, List.cons_ne_nil _ _, rfl, fun next => ?_⟩
        rw [List.cons_append, Progress.openMarked?, if_neg hlook, if_pos hc, henter]
      next hc =>
        split at h
        next hname =>
          obtain ⟨s, rfl⟩ := List.head?_eq_some_iff.1 hname.2
          obtain ⟨token, -, hs, henter⟩ := enterNamed_enters h
          rw [List.tail_cons] at hs
          refine ⟨c :: '<' :: token, List.cons_ne_nil _ _, by rw [hs]; rfl, fun next => ?_⟩
          rw [List.cons_append, Progress.openMarked?, if_neg hlook, if_neg hc, if_pos ⟨hname.1, rfl⟩]
          exact henter next
        next hname =>
          -- the letter of a name is no flag, so what follows cannot make a name of the flags
          have hp : c ≠ 'P' := by
            rintro rfl
            cases h
          obtain ⟨token, htoken, hr, henter⟩ := setFlags?_enters h
          obtain ⟨d, token, rfl⟩ := List.exists_cons_of_ne_nil htoken
          obtain ⟨rfl, rfl⟩ := List.cons.inj hr
          refine ⟨c :: token, List.cons_ne_nil _ _, rfl, fun next => ?_⟩
          rw [List.cons_append, Progress.openMarked?, if_neg hlook, if_neg hc, if_neg fun h => hp h.1]
          exact henter next

theorem open?_goes (h : p.open? cs = some q) : ∃ token after, Goes p.open? q cs token after := by
  by_cases hmark : (p.flags.skip cs).head? = some '?'
  · rw [open?_eq, if_pos hmark] at h
    obtain ⟨r, hskip⟩ := List.head?_eq_some_iff.1 hmark
    rw [hskip, List.tail_cons] at h
    obtain ⟨token, -, rfl, henter⟩ := openMarked?_enters h
    obtain ⟨gap, rfl, hgap⟩ := Flags.skip_eq_cons hskip
    refine ⟨gap ++ '?' :: token, q.rest, by simp, rfl, fun next _ => ⟨next, ?_, rfl⟩⟩
    rw [List.append_assoc, List.cons_append, open?_eq, hgap, List.head?_cons, if_pos rfl, List.tail_cons,
      henter]
  · rw [open?_eq, if_neg hmark] at h
    cases h
    refine ⟨[], cs, rfl, Flags.skip_skip _ _,
      fun next hfollows => ⟨p.flags.skip next, ?_, Flags.skip_skip _ _⟩⟩
    rw [List.nil_append, open?_eq, if_neg]
    · rfl
    · intro hhead
      obtain ⟨r, hr⟩ := List.head?_eq_some_iff.1 hhead
      obtain ⟨r', hr'⟩ := hfollows.skip_head hr (.inl rfl)
      exact hmark (congrArg List.head? hr')

theorem leave?_goes (h : p.leave? cs = some q) :
    cs = q.rest ∧ ∀ next, p.leave? next = some (q.withRest next) := by
  unfold Progress.leave? at h ⊢
  split at h
  next => cases h
  next =>
    cases h
    exact ⟨rfl, fun next => rfl⟩

/-! ## Repetitions -/

variable {least : Nat} {most : Option Nat}

/-- The text behind the operator of a repetition, with the question mark that belongs to it. -/
def afterLazy : List Char → List Char
  | '?' :: r => r
  | r => r

theorem afterLazy_of_ne (h : ∀ s, cs ≠ '?' :: s) : afterLazy cs = cs := by
  unfold afterLazy
  split
  next s => exact absurd rfl (h s)
  next => rfl

/-- The last item repeated, before what is left of a text. -/
def Progress.repeated? (p : Progress) (least : Nat) (most : Option Nat) (rest : List Char) :
    Option Progress :=
  match p.level.items with
  | [] => none
  | item :: items =>
    if !item.repeatable then none
    else some ({ p with level := { p.level with items := items } }.push
      ⟨.times item.regex least most, true, item.height + 1⟩ rest)

theorem repeat?_eq (p : Progress) (least : Nat) (most : Option Nat) (cs : List Char) :
    p.repeat? least most cs = p.repeated? least most (afterLazy cs) :=
  rfl

theorem repeated?_eq_some (h : p.repeated? least most cs = some q) :
    q.flags = p.flags ∧ cs = q.rest ∧
      ∀ next, p.repeated? least most next = some (q.withRest next) := by
  unfold Progress.repeated? at h ⊢
  split at h
  next => cases h
  next item items hitems =>
    split at h
    next => cases h
    next hrepeatable =>
      cases h
      exact ⟨rfl, rfl, fun next => by simp only [if_neg hrepeatable]; rfl⟩

/-- A repetition is read alike where it stands directly before what follows, or behind a gap. -/
theorem repeat?_goes (h : p.repeat? least most cs = some q) :
    ∃ token after, Goes (p.repeat? least most) q cs token after := by
  by_cases hlazy : ∃ s, cs = '?' :: s
  · obtain ⟨s, rfl⟩ := hlazy
    obtain ⟨-, rfl, hnext⟩ := repeated?_eq_some h
    exact ⟨['?'], q.rest, rfl, rfl, fun next _ => ⟨next, hnext next, rfl⟩⟩
  · have hcs : ∀ s, cs ≠ '?' :: s := fun s hs => hlazy ⟨s, hs⟩
    rw [repeat?_eq, afterLazy_of_ne hcs] at h
    obtain ⟨-, rfl, hnext⟩ := repeated?_eq_some h
    refine ⟨[], q.rest, rfl, rfl, fun next hfollows => ⟨next, ?_, rfl⟩⟩
    rw [List.nil_append, repeat?_eq, afterLazy_of_ne, hnext]
    intro s hs
    obtain ⟨s', hs'⟩ := hfollows.head hs (.inl rfl)
    exact hcs s' hs'

theorem repeat?_skip_goes (h : p.repeat? least most (p.flags.skip cs) = some q) :
    ∃ token after, Goes (fun cs => p.repeat? least most (p.flags.skip cs)) q cs token after := by
  by_cases hlazy : ∃ s, p.flags.skip cs = '?' :: s
  · obtain ⟨s, hskip⟩ := hlazy
    rw [hskip] at h
    obtain ⟨-, rfl, hnext⟩ := repeated?_eq_some h
    obtain ⟨gap, rfl, hgap⟩ := Flags.skip_eq_cons hskip
    refine ⟨gap ++ ['?'], q.rest, by simp, rfl, fun next _ => ⟨next, ?_, rfl⟩⟩
    simp only [List.append_assoc, List.singleton_append, hgap]
    exact hnext next
  · have hcs : ∀ s, p.flags.skip cs ≠ '?' :: s := fun s hs => hlazy ⟨s, hs⟩
    rw [repeat?_eq, afterLazy_of_ne hcs] at h
    obtain ⟨hflags, hrest, hnext⟩ := repeated?_eq_some h
    refine ⟨[], cs, rfl, by rw [← hrest, hflags, Flags.skip_skip],
      fun next hfollows => ⟨p.flags.skip next, ?_, by rw [hflags, Flags.skip_skip]⟩⟩
    rw [hflags] at hfollows
    simp only [List.nil_append]
    rw [repeat?_eq, afterLazy_of_ne, hnext]
    intro s hs
    obtain ⟨s', hs'⟩ := hfollows.skip_head hs (.inl rfl)
    exact hcs s' hs'

/-- The counts of a repetition and what comes of them. -/
def Progress.repeatCounts? (p : Progress) (cs : List Char) : Option Progress :=
  (readCounts p.flags cs).bind fun x => p.repeat? x.1.1 x.1.2 (p.flags.skip x.2)

theorem repeatCounts?_goes (h : p.repeatCounts? cs = some q) :
    ∃ token after, p.flags.skip token ≠ [] ∧ Goes p.repeatCounts? q cs token after := by
  obtain ⟨⟨counts, rest⟩, hcounts, hrepeat⟩ := Option.bind_eq_some_iff.1 h
  obtain ⟨token, rfl, htoken, hread⟩ := readCounts_eq_some hcounts
  obtain ⟨token', after, rfl, hafter, hnext⟩ := repeat?_skip_goes hrepeat
  refine ⟨token ++ token', after, ?_, by simp, hafter, fun next hfollows => ?_⟩
  · rw [Flags.skip_append htoken]
    simp [htoken]
  · obtain ⟨rest', hrepeat, hrest'⟩ := hnext next hfollows
    refine ⟨rest', ?_, hrest'⟩
    simp only [Progress.repeatCounts?, List.append_assoc, hread, Option.bind_some]
    exact hrepeat

/-! ## Atoms -/

/-- An atom as an item. -/
def Progress.pushAtom? (p : Progress) (a : Atom) (rest : List Char) : Option Progress :=
  (a.regex? p.flags).map fun r => p.push ⟨r, true, 0⟩ rest

theorem pushAtom?_eq_some {a : Atom} (h : p.pushAtom? a rest = some q) :
    q.flags = p.flags ∧ q.rest = rest ∧ ∀ next, p.pushAtom? a next = some (q.withRest next) := by
  obtain ⟨regex, hregex, rfl⟩ := Option.map_eq_some_iff.1 h
  exact ⟨rfl, rfl, fun next => by rw [Progress.pushAtom?, hregex]; rfl⟩

/-- An escape as an item. -/
def Progress.pushEscape? (p : Progress) (cs : List Char) : Option Progress :=
  (readEscape p.flags cs).bind fun x => p.pushAtom? x.1 x.2

theorem pushEscape?_goes (h : p.pushEscape? cs = some q) :
    ∃ token after, Goes p.pushEscape? q cs token after := by
  obtain ⟨⟨a, rest⟩, hescape, hatom⟩ := Option.bind_eq_some_iff.1 h
  obtain ⟨token, after, rfl, hafter, hread⟩ := readEscape_eq_some hescape
  obtain ⟨hflags, rfl, hpush⟩ := pushAtom?_eq_some hatom
  refine ⟨token, after, rfl, by rw [hflags, hafter], fun next hfollows => ?_⟩
  rw [hflags] at hfollows ⊢
  obtain ⟨rest', hread', hrest'⟩ := hread next fun _ _ => hfollows
  refine ⟨rest', ?_, hrest'⟩
  simp only [Progress.pushEscape?, hread', Option.bind_some, hpush]

/-! ## Steps -/

/-- What the first character of a part says the part is. -/
inductive Lead where
  | group
  | leave
  | branch
  | brackets
  | operator (least : Nat) (most : Option Nat)
  | counts
  | escape
  | atom (a : Flags → Option Atom)

/-- The part that a character begins. -/
def Lead.of (c : Char) : Lead :=
  match c with
  | '(' => .group
  | ')' => .leave
  | '|' => .branch
  | '[' => .brackets
  | '?' => .operator 0 (some 1)
  | '*' => .operator 0 none
  | '+' => .operator 1 none
  | '\x7b' => .counts
  | '\\' => .escape
  | '.' => .atom fun flags => (dot? flags).map .set
  | '^' => .atom fun flags => some (.look (anchor flags true))
  | '$' => .atom fun flags => some (.look (anchor flags false))
  | c => .atom fun _ => some (.char c false)

theorem Lead.eq_of_leave (h : Lead.of c = .leave) : c = ')' := by
  unfold Lead.of at h
  split at h
  all_goals first | rfl | cases h

/-- Reads a part from the text behind its first character. -/
def Progress.stepBy? (p : Progress) (r : List Char) : Lead → Option Progress
  | .group => p.open? r
  | .leave => p.leave? r
  | .branch => some { p with
      rest := r, level := ⟨joinItems .seqs p.level.items.reverse :: p.level.alternatives, []⟩ }
  | .brackets => (readClass p.flags r).map fun x => p.push ⟨.one x.1.set, true, x.1.height⟩ x.2
  | .operator least most => p.repeat? least most r
  | .counts => p.repeatCounts? r
  | .escape => p.pushEscape? r
  | .atom a => (a p.flags).bind fun a => p.pushAtom? a r

theorem step?_cons (p : Progress) (c : Char) (r : List Char) :
    (p.withRest (c :: r)).step? = p.stepBy? r (Lead.of c) := by
  unfold Lead.of
  split
  next => rfl
  next => rfl
  next => rfl
  next => rfl
  next => rfl
  next => rfl
  next => rfl
  next => rfl
  next => rfl
  next =>
    rw [Progress.stepBy?, Option.bind_map]
    rfl
  next => rfl
  next => rfl
  next =>
    simp only [Progress.step?, Progress.withRest_rest]
    rfl

theorem stepBy?_goes {lead : Lead} (h : p.stepBy? cs lead = some q) :
    ∃ token after, (lead = .counts → p.flags.skip token ≠ []) ∧
      Goes (p.stepBy? · lead) q cs token after := by
  -- every part but the counts in braces may be nothing more than its first character
  have hother (hlead : lead ≠ .counts) (hgoes : ∃ token after, Goes (p.stepBy? · lead) q cs token after) :
      ∃ token after, (lead = .counts → p.flags.skip token ≠ []) ∧
        Goes (p.stepBy? · lead) q cs token after := by
    obtain ⟨token, after, hgoes⟩ := hgoes
    exact ⟨token, after, fun heq => absurd heq hlead, hgoes⟩
  have hexact (token : List Char) (hcs : cs = token ++ q.rest)
      (hnext : ∀ next, p.stepBy? (token ++ next) lead = some (q.withRest next)) :
      ∃ token after, Goes (p.stepBy? · lead) q cs token after :=
    ⟨token, q.rest, hcs, rfl, fun next _ => ⟨next, hnext next, rfl⟩⟩
  cases lead with
  | group => exact hother nofun (open?_goes h)
  | leave =>
    obtain ⟨rfl, hnext⟩ := leave?_goes h
    exact hother nofun (hexact [] rfl hnext)
  | branch =>
    cases h
    exact hother nofun (hexact [] rfl fun next => rfl)
  | brackets =>
    obtain ⟨⟨part, rest⟩, hclass, heq⟩ := Option.map_eq_some_iff.1 h
    cases heq
    obtain ⟨token, rfl, hread⟩ := readClass_eq_some hclass
    exact hother nofun (hexact token rfl fun next => by rw [Progress.stepBy?, hread]; rfl)
  | operator least most => exact hother nofun (repeat?_goes h)
  | counts =>
    obtain ⟨token, after, htoken, hgoes⟩ := repeatCounts?_goes h
    exact ⟨token, after, fun _ => htoken, hgoes⟩
  | escape => exact hother nofun (pushEscape?_goes h)
  | atom a =>
    obtain ⟨atom, ha, hpush⟩ := Option.bind_eq_some_iff.1 h
    obtain ⟨-, hrest, hnext⟩ := pushAtom?_eq_some hpush
    exact hother nofun (hexact [] hrest.symm fun next => by
      rw [Progress.stepBy?, ha]
      exact hnext next)

/-- A step takes a token off what is left, and takes it alike before any text that may follow. -/
theorem step?_goes (hskip : p.flags.skip p.rest = p.rest) (hne : p.rest ≠ []) (h : p.step? = some q) :
    ∃ token after, Decided p.flags token ∧
      Goes (fun cs => (p.withRest cs).step?) q p.rest token after := by
  obtain ⟨c, cs, hrest⟩ := List.exists_cons_of_ne_nil hne
  rw [← p.withRest_self, hrest, step?_cons] at h
  obtain ⟨token, after, htoken, hcs, hafter, hnext⟩ := stepBy?_goes h
  rw [hrest] at hskip
  refine ⟨c :: token, after, ⟨c, token, Flags.skip_cons_of_eq hskip token, fun hc => ?_⟩, ?_, hafter,
    fun next hfollows => ?_⟩
  · subst hc
    exact htoken rfl
  · rw [hrest, hcs, List.cons_append]
  · simp only [List.cons_append, step?_cons]
    exact hnext next hfollows

/-! ## Groups around -/

/-- The pattern that is being read, with more groups around it. -/
def Progress.under (p : Progress) (outer : List Outer) : Progress :=
  { p with outer := p.outer ++ outer }

@[simp] theorem Progress.under_flags (p : Progress) (outer : List Outer) :
    (p.under outer).flags = p.flags := rfl

@[simp] theorem Progress.under_rest (p : Progress) (outer : List Outer) :
    (p.under outer).rest = p.rest := rfl

@[simp] theorem Progress.under_level (p : Progress) (outer : List Outer) :
    (p.under outer).level = p.level := rfl

variable {outer : List Outer}

theorem enterNamed_under (cs : List Char) :
    (p.under outer).enterNamed cs = (p.enterNamed cs).map (·.under outer) := by
  unfold Progress.enterNamed
  cases readName cs with
  | none => rfl
  | some x =>
    simp only [Option.bind_eq_bind, Option.bind_some]
    by_cases hnew : p.names.contains x.1 = true
    · rw [if_pos hnew]
      exact if_pos hnew
    · rw [if_neg hnew]
      exact if_neg hnew

theorem setFlags?_under (cs : List Char) :
    (p.under outer).setFlags? cs = (p.setFlags? cs).map (·.under outer) := by
  unfold Progress.setFlags?
  rw [Progress.under_flags]
  cases readFlags p.flags true [] cs with
  | none => rfl
  | some x =>
    simp only [Option.bind_some]
    split
    next => rfl
    next =>
      split
      next => rfl
      next => rfl

theorem openMarked?_under (cs : List Char) :
    (p.under outer).openMarked? cs = (p.openMarked? cs).map (·.under outer) := by
  cases cs with
  | nil => rfl
  | cons c r =>
    simp only [Progress.openMarked?, Progress.openAngle?, enterNamed_under, setFlags?_under]
    split
    next => rfl
    next =>
      split
      next =>
        split
        next => rfl
        next => rfl
      next =>
        split
        next => rfl
        next => rfl

theorem open?_under (cs : List Char) : (p.under outer).open? cs = (p.open? cs).map (·.under outer) := by
  rw [open?_eq, open?_eq, Progress.under_flags, openMarked?_under]
  split
  next => rfl
  next => rfl

theorem leave?_under (h : p.outer ≠ []) (cs : List Char) :
    (p.under outer).leave? cs = (p.leave? cs).map (·.under outer) := by
  obtain ⟨o, os, hos⟩ := List.exists_cons_of_ne_nil h
  simp [Progress.leave?, Progress.under, hos, Progress.push]

theorem repeat?_under (least : Nat) (most : Option Nat) (cs : List Char) :
    (p.under outer).repeat? least most cs = (p.repeat? least most cs).map (·.under outer) := by
  rw [repeat?_eq, repeat?_eq]
  unfold Progress.repeated?
  rw [Progress.under_level]
  cases p.level.items with
  | nil => rfl
  | cons item items =>
    simp only
    split
    next => rfl
    next => rfl

theorem pushAtom?_under (a : Atom) (cs : List Char) :
    (p.under outer).pushAtom? a cs = (p.pushAtom? a cs).map (·.under outer) := by
  simp only [Progress.pushAtom?, Option.map_map]
  rfl

theorem repeatCounts?_under (cs : List Char) :
    (p.under outer).repeatCounts? cs = (p.repeatCounts? cs).map (·.under outer) := by
  unfold Progress.repeatCounts?
  rw [Progress.under_flags]
  cases readCounts p.flags cs with
  | none => rfl
  | some x => exact repeat?_under _ _ _

theorem pushEscape?_under (cs : List Char) :
    (p.under outer).pushEscape? cs = (p.pushEscape? cs).map (·.under outer) := by
  unfold Progress.pushEscape?
  rw [Progress.under_flags]
  cases readEscape p.flags cs with
  | none => rfl
  | some x => exact pushAtom?_under _ _

theorem stepBy?_under {lead : Lead} (h : lead = .leave → p.outer ≠ []) (cs : List Char) :
    (p.under outer).stepBy? cs lead = (p.stepBy? cs lead).map (·.under outer) := by
  cases lead with
  | group => exact open?_under _
  | leave => exact leave?_under (h rfl) _
  | branch => rfl
  | brackets =>
    simp only [Progress.stepBy?, Option.map_map]
    rfl
  | operator least most => exact repeat?_under _ _ _
  | counts => exact repeatCounts?_under _
  | escape => exact pushEscape?_under _
  | atom a =>
    rw [Progress.stepBy?, Progress.stepBy?, Progress.under_flags]
    cases a p.flags with
    | none => rfl
    | some a => exact pushAtom?_under _ _

/-- Groups around change nothing, unless the innermost group is left that there was before. -/
theorem step?_under (h : p.outer = [] → ∀ r, p.rest ≠ ')' :: r) :
    (p.under outer).step? = p.step?.map (·.under outer) := by
  cases hrest : p.rest with
  | nil => simp [Progress.step?, hrest]
  | cons c r =>
    have hstep := step?_cons p c r
    have hunder := step?_cons (p.under outer) c r
    rw [← hrest] at hstep hunder
    rw [Progress.withRest_self] at hstep
    refine hunder.trans ?_
    rw [hstep]
    refine stepBy?_under (fun hlead houter => ?_) r
    rw [Lead.eq_of_leave hlead] at hrest
    exact h houter r hrest

end RouteExpr.Pattern
