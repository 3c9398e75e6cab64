/-
When a pattern is the expression that its source writes.

A source is read between the anchors of the text as it is read alone, in a group of its own, unless it
leaves that group or ends in a comment, which takes up the end of the group. A source that leaves the
group is no expression alone. Between the anchors every expression gets two levels deeper and a little
larger, so the limits are another matter. Where a source is an expression both ways, the pattern matches
the texts that the expression matches as a whole.
-/
import RouteExpr.Pattern
import RouteExpr.Proofs.Pattern.Match
import RouteExpr.Proofs.Pattern.Run

namespace RouteExpr.Pattern

open Progress

variable {cs : List Char} {item : Item}

/-! ## Texts as items -/

/-- A text of which nothing is read. -/
def Progress.start (cs : List Char) : Progress :=
  ⟨cs, .initial, .empty, [], []⟩

/-- The notation of a text, however deep and large. -/
def item? (cs : List Char) : Option Item :=
  finish? cs.length (start cs)

/-- Whether an item is neither too deep nor too large. -/
def Item.Allowed (item : Item) : Prop :=
  item.height ≤ maxHeight ∧ item.regex.fits = true

instance (item : Item) : Decidable item.Allowed :=
  inferInstanceAs (Decidable (_ ∧ _))

theorem read?_eq (cs : List Char) :
    Regex.read? cs = (item? cs).bind fun item => if item.Allowed then some item.regex else none :=
  rfl

theorem read?_eq_some_iff {r : Regex} :
    Regex.read? cs = some r ↔ ∃ item, item? cs = some item ∧ item.Allowed ∧ item.regex = r := by
  rw [read?_eq, Option.bind_eq_some_iff]
  simp only [Option.ite_none_right_eq_some, Option.some.injEq]

theorem length_skip_start_le (cs : List Char) :
    ((start cs).flags.skip (start cs).rest).length ≤ cs.length :=
  Flags.length_skip_le _ cs

/-! ## The end of a text -/

/-- Where a text is an item, the run over it goes on with any text behind a gap at its end, or a comment is
open there. -/
theorem exists_end (h : item? cs = some item) :
    ∃ (r : Progress) (pre gap : List Char), cs = pre ++ gap ∧ r.outer = [] ∧ item = r.level.close ∧
      (∀ next, Follows r.flags gap next →
        ∃ rest, Reads (start (pre ++ next)) (r.withRest rest) ∧ r.flags.skip rest = r.flags.skip next) ∧
      ((∀ next, r.flags.skip (gap ++ next) = r.flags.skip next) ∨
        ∀ next, r.flags.skip (gap ++ next) = skipComments true next) := by
  obtain ⟨r, hreads, hend, houter, hitem⟩ := exists_reads_of_finish? h
  obtain ⟨pre, gap, hcs, hgap, -, hnext⟩ := hreads.swap cs rfl
  exact ⟨r, pre, gap, hcs, houter, hitem, hnext, Flags.skip_append_of_eq_nil (hgap.symm.trans hend)⟩

theorem follows_of_nil {flags : Flags} {after next : List Char} (h : flags.skip next = []) :
    Follows flags after next :=
  .quiet (by simp [h])

theorem follows_of_close {flags : Flags} {after next s : List Char} (h : flags.skip next = ')' :: s) :
    Follows flags after next :=
  .quiet (by simp [h])

theorem skip_close (flags : Flags) (s : List Char) : flags.skip (')' :: s) = ')' :: s :=
  Flags.skip_cons rfl (by decide) s

theorem item?_of_reads {r : Progress} (h : Reads (start cs) r) (hend : r.flags.skip r.rest = [])
    (houter : r.outer = []) : item? cs = some r.level.close :=
  (finish?_eq_some_iff (length_skip_start_le cs)).2 ⟨r, h, hend, houter, rfl⟩

/-- A parenthesis that closes no group is refused. -/
theorem item?_of_reads_close {r : Progress} {s : List Char} (h : Reads (start cs) r)
    (hclose : r.flags.skip r.rest = ')' :: s) (houter : r.outer = []) : item? cs = none :=
  finish?_of_reads_stuck h (next?_of_leave hclose houter) (by simp [hclose]) (length_skip_start_le cs)

/-! ## Between the anchors -/

/-- An item in a group between the anchors of the text. -/
def Item.anchored (item : Item) : Item :=
  ⟨.seq (.look .textStart) (.seq (.group false item.regex) (.look .textEnd)), true, item.height + 2⟩

/-- The group between the anchors, before the source is read. -/
def anchorGroup : Outer :=
  ⟨⟨[], [⟨.look .textStart, true, 0⟩]⟩, .initial, false⟩

/-- The text that is read for a source. -/
def anchoredText (cs : List Char) : List Char :=
  '^' :: '(' :: '?' :: ':' :: (cs ++ [')', '$'])

theorem anchored_eq (source : String) : anchored source = anchoredText source.toList := by
  simp [anchored, anchoredText]

theorem reads_anchored (cs : List Char) :
    Reads (start (anchoredText cs)) ((start (cs ++ [')', '$'])).under [anchorGroup]) :=
  .step rfl (.step rfl (.refl _))

/-- What is read when the group between the anchors is left at its own end. -/
def itemsBetween (item : Item) : List Item :=
  [⟨.group false item.regex, true, item.height + 1⟩, ⟨.look .textStart, true, 0⟩]

/-- Where the group between the anchors is left at its own end, the item in it is read. -/
theorem anchored_of_close {r : Progress} (h : Reads (start (cs ++ [')', '$'])) r)
    (hclose : r.flags.skip r.rest = [')', '$']) (houter : r.outer = []) :
    item? (anchoredText cs) = some r.level.close.anchored := by
  have hleave : (r.under [anchorGroup]).next? =
      some ⟨['$'], .initial, ⟨[], itemsBetween r.level.close⟩, [], r.names⟩ := by
    rw [next?, under_flags, under_rest, hclose, if_neg (List.cons_ne_nil _ _), step?_cons]
    simp [Lead.of, stepBy?, leave?, Progress.under, houter, anchorGroup, Progress.push, itemsBetween]
  have hend : Progress.next? ⟨['$'], .initial, ⟨[], itemsBetween r.level.close⟩, [], r.names⟩ =
      some ⟨[], .initial, ⟨[], ⟨.look .textEnd, true, 0⟩ :: itemsBetween r.level.close⟩, [], r.names⟩ :=
    rfl
  have hreads := (reads_anchored cs).trans (h.under [anchorGroup])
  rw [item?_of_reads (hreads.trans (.step hleave (.step hend (.refl _)))) rfl rfl]
  simp [Level.close, joinItems, itemsBetween, Item.anchored, Regex.seqs]

/-- Where the end of the group is taken up, nothing is read. -/
theorem anchored_of_comment {r : Progress} (h : Reads (start (cs ++ [')', '$'])) r)
    (hend : r.flags.skip r.rest = []) : item? (anchoredText cs) = none := by
  obtain ⟨m, hm⟩ := finish?_of_reads ((reads_anchored cs).trans (h.under [anchorGroup]))
    (length_skip_start_le (anchoredText cs))
  rw [item?, hm, finish?_of_end (p := r.under [anchorGroup]) hend]
  simp [Progress.under]

/-- A source that is an item is read between the anchors, unless it ends in a comment. -/
theorem anchored_of_item (h : item? cs = some item) :
    item? (anchoredText cs) = if item? (cs ++ [')']) = none then some item.anchored else none := by
  obtain ⟨r, pre, gap, rfl, houter, rfl, hnext, hgap | hgap⟩ := exists_end h
  · obtain ⟨rest, hreads, hrest⟩ :=
      hnext (gap ++ [')']) (follows_of_close ((hgap _).trans (skip_close _ _)))
    obtain ⟨rest', hreads', hrest'⟩ :=
      hnext (gap ++ [')', '$']) (follows_of_close ((hgap _).trans (skip_close _ _)))
    rw [hgap, skip_close] at hrest hrest'
    rw [← List.append_assoc] at hreads hreads'
    rw [if_pos (item?_of_reads_close hreads hrest houter)]
    exact anchored_of_close (r := r.withRest rest') hreads' hrest' houter
  · obtain ⟨rest, hreads, hrest⟩ := hnext (gap ++ [')']) (follows_of_nil (hgap _))
    obtain ⟨rest', hreads', hrest'⟩ := hnext (gap ++ [')', '$']) (follows_of_nil (hgap _))
    rw [hgap] at hrest hrest'
    rw [← List.append_assoc] at hreads hreads'
    rw [item?_of_reads hreads hrest houter, if_neg (Option.some_ne_none _)]
    exact anchored_of_comment hreads' hrest'

/-! ## Leaving the group -/

/-- A text that goes on behind an item with a parenthesis that closes no group. -/
def Escapes (cs : List Char) : Prop :=
  ∃ u v, cs = u ++ ')' :: v ∧ (item? u).isSome = true ∧ item? (u ++ [')']) = none

theorem Escapes.item?_eq_none (h : Escapes cs) : item? cs = none := by
  obtain ⟨u, v, rfl, hu, hclose⟩ := h
  obtain ⟨item, hitem⟩ := Option.isSome_iff_exists.1 hu
  obtain ⟨r, pre, gap, rfl, houter, rfl, hnext, hgap | hgap⟩ := exists_end hitem
  · obtain ⟨rest, hreads, hrest⟩ :=
      hnext (gap ++ ')' :: v) (follows_of_close ((hgap _).trans (skip_close _ _)))
    rw [hgap, skip_close] at hrest
    rw [← List.append_assoc] at hreads
    exact item?_of_reads_close hreads hrest houter
  · obtain ⟨rest, hreads, hrest⟩ := hnext (gap ++ [')']) (follows_of_nil (hgap _))
    rw [hgap] at hrest
    rw [← List.append_assoc] at hreads
    rw [item?_of_reads hreads hrest houter] at hclose
    cases hclose

/-- A run that comes to a parenthesis that closes no group has read an item before it. -/
theorem exists_item_of_close {r : Progress} {s : List Char} (h : Reads (start cs) r) (houter : r.outer = [])
    (hclose : r.flags.skip r.rest = ')' :: s) :
    ∃ u, cs = u ++ ')' :: s ∧ (item? u).isSome = true ∧ item? (u ++ [')']) = none := by
  obtain ⟨pre, after, rfl, hafter, -, hnext⟩ := h.swap cs rfl
  obtain ⟨gap, rfl, hgap⟩ := Flags.skip_eq_cons (hafter.symm.trans hclose)
  have hnil : r.flags.skip gap = [] := by
    by_contra hne
    have htext := Flags.skip_append hne [')']
    rw [hgap] at htext
    have hlength := congrArg List.length htext
    have hpos := List.length_pos_iff.2 hne
    simp only [List.length_append, List.length_singleton] at hlength
    omega
  refine ⟨pre ++ gap, by simp, ?_, ?_⟩
  · obtain ⟨rest, hreads, hrest⟩ := hnext gap (follows_of_nil hnil)
    rw [item?_of_reads hreads (hrest.trans hnil) houter]
    rfl
  · obtain ⟨rest, hreads, hrest⟩ := hnext (gap ++ [')']) (follows_of_close (hgap []))
    rw [List.append_assoc]
    exact item?_of_reads_close hreads (hrest.trans (hgap [])) houter

/-- A source that is no item, and is read between the anchors, leaves the group there. -/
theorem escapes_of_anchored (h : item? cs = none) (hanchored : item? (anchoredText cs) = some item) :
    Escapes cs := by
  obtain ⟨m, hm⟩ := finish?_of_reads (reads_anchored cs) (length_skip_start_le (anchoredText cs))
  obtain ⟨r, hreads, hend, houter, -⟩ := exists_reads_of_finish? (hm.symm.trans hanchored)
  obtain ⟨r', hreads', rfl⟩ | ⟨r', s, hreads', houter', hclose⟩ := hreads.of_under
  · simp [Progress.under] at houter
  · obtain ⟨u, hcs, hu, hstuck⟩ := exists_item_of_close hreads' houter' hclose
    -- the two characters behind the source are those of the group, so the parenthesis stands in the source
    obtain ⟨s, rfl, hinit⟩ : ∃ s', s = s' ++ ['$'] ∧ cs ++ [')'] = u ++ ')' :: s' := by
      obtain rfl | ⟨s', e, rfl⟩ := List.eq_nil_or_concat s
      · have hlast : (cs ++ [')']) ++ ['$'] = u ++ [')'] := by simpa using hcs
        cases (List.append_inj' hlast rfl).2
      · have hlast : (cs ++ [')']) ++ ['$'] = (u ++ ')' :: s') ++ [e] := by simpa using hcs
        obtain ⟨hinit, heq⟩ := List.append_inj' hlast rfl
        cases heq
        exact ⟨s', List.concat_eq_append, hinit⟩
    obtain rfl | ⟨s, e, rfl⟩ := List.eq_nil_or_concat s
    · obtain ⟨rfl, -⟩ := List.append_inj' hinit rfl
      rw [h] at hu
      cases hu
    · have hlast : cs ++ [')'] = (u ++ ')' :: s) ++ [e] := by
        rw [hinit, List.concat_eq_append, List.append_assoc, List.cons_append]
      exact ⟨u, s, (List.append_inj' hlast rfl).1, hu, hstuck⟩

/-! ## Whole texts -/

theorem read?_isSome (cs : List Char) :
    (Regex.read? cs).isSome = true ↔ ∃ item, item? cs = some item ∧ item.Allowed := by
  rw [Option.isSome_iff_exists]
  simp only [read?_eq_some_iff]
  constructor
  · rintro ⟨r, item, hitem, hallowed, -⟩
    exact ⟨item, hitem, hallowed⟩
  · rintro ⟨item, hitem, hallowed⟩
    exact ⟨item.regex, item, hitem, hallowed, rfl⟩

theorem compile?_isSome (s : String) :
    (compile? s).isSome = true ↔ ∃ item, item? (anchoredText s.toList) = some item ∧ item.Allowed := by
  rw [← read?_isSome, ← anchored_eq]
  unfold compile?
  split
  next h => simp [h]
  next h => simp [h]

section Item

variable {s : String}

theorem read?_isSome_of_item (h : item? cs = some item) :
    (Regex.read? cs).isSome = true ↔ item.Allowed := by
  simp [read?_isSome, h]

/-- An item makes a pattern unless a comment at its end or a limit forbids it. -/
theorem compile?_isSome_of_item (h : item? s.toList = some item) :
    (compile? s).isSome = true ↔ item? (s.toList ++ [')']) = none ∧ item.anchored.Allowed := by
  rw [compile?_isSome, anchored_of_item h]
  split
  next hclose => simp [hclose]
  next hclose => simp [hclose]

end Item

/-- Where a source is an expression alone and between the anchors, its pattern matches whole texts. -/
theorem matches?_iff {p : Pattern} {r : Regex} (hread : Regex.read? p.source.toList = some r)
    (text : String) : p.matches? text = true ↔ r.MatchesWhole text.toList := by
  obtain ⟨item, hitem, -, rfl⟩ := read?_eq_some_iff.1 hread
  obtain ⟨item', hanchored, -, hregex⟩ := read?_eq_some_iff.1 p.reads
  rw [anchored_eq, anchored_of_item hitem] at hanchored
  split at hanchored
  next =>
    cases hanchored
    rw [matches?, ← hregex]
    exact Regex.occursIn_anchored_iff
  next => cases hanchored

theorem source_of_compile? {s : String} {p : Pattern} (h : compile? s = some p) : p.source = s := by
  unfold compile? at h
  split at h
  next => cases h; rfl
  next => cases h

/-- A source makes a pattern exactly where it is an expression alone, but for three kinds of sources: one
that leaves the group between the anchors and is read there all the same, one that ends in a comment, and
one that a limit lets through only alone or only between the anchors. No source that leaves the group is
an expression alone. A pattern whose source is one matches a text where that expression matches all of
it. -/
theorem compile?_whole (s : String) :
    (((compile? s).isSome = true ↔ (Regex.read? s.toList).isSome = true) ↔
      (Escapes s.toList → compile? s = none) ∧
        ∀ item, item? s.toList = some item →
          (item.Allowed ↔ item? (s.toList ++ [')']) = none ∧ item.anchored.Allowed)) ∧
    (Escapes s.toList → Regex.read? s.toList = none) ∧
    ∀ p r, compile? s = some p → Regex.read? s.toList = some r →
      ∀ text, p.matches? text = true ↔ r.MatchesWhole text.toList := by
  have hescapes (h : Escapes s.toList) : Regex.read? s.toList = none := by
    rw [read?_eq, h.item?_eq_none]
    rfl
  refine ⟨⟨fun hiff => ⟨fun h => ?_, fun item hitem => ?_⟩, fun ⟨hescaping, hitems⟩ => ?_⟩,
    hescapes, ?_⟩
  · rw [hescapes h] at hiff
    exact Option.not_isSome_iff_eq_none.1 fun hsome => Bool.false_ne_true (hiff.1 hsome)
  · rw [← read?_isSome_of_item hitem, ← compile?_isSome_of_item hitem, hiff]
  · cases hitem : item? s.toList with
    | none =>
      have hread : Regex.read? s.toList = none := by
        rw [read?_eq, hitem]
        rfl
      rw [hread]
      refine ⟨fun hcompile => ?_, fun h => absurd h Bool.false_ne_true⟩
      obtain ⟨item, hanchored, -⟩ := (compile?_isSome s).1 hcompile
      rw [hescaping (escapes_of_anchored hitem hanchored)] at hcompile
      exact hcompile
    | some item =>
      rw [read?_isSome_of_item hitem, compile?_isSome_of_item hitem]
      exact (hitems item hitem).symm
  · rintro p r hcompile hread text
    rw [← source_of_compile? hcompile] at hread
    exact matches?_iff hread text

/-- A source that leaves the group is no expression alone, and matches a part of a text. -/
theorem compile?_escaping :
    (compile? "a)|(?:b").any (·.matches? "ax") = true ∧ Regex.read? "a)|(?:b".toList = none := by
  decide +kernel

end RouteExpr.Pattern
