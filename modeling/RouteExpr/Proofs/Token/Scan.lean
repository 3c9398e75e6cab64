/-
One token of a region, and all of them.

A step of a lexer cuts a token off the text that is left and goes on behind it: the characters of
the token and what is left then are what was left before, and only at the end of the region is a
token without characters. So the tokens of a region are its first and those of what follows it,
however many steps the lexer is given.
-/
import RouteExpr.Proofs.Token.Marker

namespace RouteExpr

/-! ## Words and symbols of predicates -/

namespace Lexer

theorem ne_nil_of_endsWord {cs : List Char} (h : endsWord cs = false) : cs ≠ [] := by
  rintro rfl
  cases h

theorem takeNextWord?_eq_some {cs blanks word rest : List Char}
    (h : takeNextWord? cs = some (blanks, word, rest)) : cs = blanks ++ word ++ rest := by
  unfold takeNextWord? at h
  dsimp only at h
  split at h
  · cases h
  · cases h
    rw [List.append_assoc, takeWord, ← (takeUntil_spec endsWord _).1,
      List.takeWhile_append_dropWhile]

theorem takeWith?_eq_some {cs taken rest : List Char} (h : takeWith? cs = some (taken, rest)) :
    cs = taken ++ rest := by
  obtain ⟨⟨blanks, word, r⟩, hw, h⟩ := Option.bind_eq_some_iff.1 h
  dsimp only at h
  split at h
  · cases h; exact takeNextWord?_eq_some hw
  · cases h

theorem takeNegated?_eq_some {cs taken rest : List Char} {c : Comparison}
    (h : takeNegated? cs = some (c, taken, rest)) : cs = taken ++ rest := by
  obtain ⟨⟨blanks, word, r⟩, hw, h⟩ := Option.bind_eq_some_iff.1 h
  dsimp only at h
  split at h
  · obtain ⟨⟨tail, r'⟩, ht, he⟩ := Option.map_eq_some_iff.1 h
    cases he
    rw [takeNextWord?_eq_some hw, takeWith?_eq_some ht]
    simp only [List.append_assoc]
  · obtain ⟨c', -, he⟩ := Option.map_eq_some_iff.1 h
    cases he
    exact takeNextWord?_eq_some hw

/-- A bare word with the words that it takes up: plain text takes up none, and what is taken up
makes an operator. -/
theorem classifyWord_spec {word rest text rest' : List Char} {k : Token.Kind}
    (h : classifyWord word rest = (k, text, rest')) :
    word ++ rest = text ++ rest' ∧ word <+: text ∧
      (k = .literal ∧ text = word ∨ (∃ c, k = .connective c) ∨ ∃ op, k = .operator op) := by
  have whole {k : Token.Kind} (hk : k = .literal ∨ (∃ c, k = .connective c) ∨ ∃ op, k = .operator op) :
      word ++ rest = word ++ rest ∧ word <+: word ∧
        (k = .literal ∧ word = word ∨ (∃ c, k = .connective c) ∨ ∃ op, k = .operator op) :=
    ⟨rfl, List.prefix_refl _, hk.imp_left fun h => ⟨h, rfl⟩⟩
  have more {tail r : List Char} (op : Operator) (ht : rest = tail ++ r) :
      word ++ rest = word ++ tail ++ r ∧ word <+: word ++ tail ∧
        ((.operator op : Token.Kind) = .literal ∧ word ++ tail = word ∨
          (∃ c, (.operator op : Token.Kind) = .connective c) ∨
          ∃ op', (.operator op : Token.Kind) = .operator op') :=
    ⟨by rw [ht, List.append_assoc], List.prefix_append _ _, .inr (.inr ⟨_, rfl⟩)⟩
  unfold classifyWord at h
  split at h
  · cases h; exact whole (.inr (.inl ⟨_, rfl⟩))
  · split at h
    · cases h; exact whole (.inr (.inl ⟨_, rfl⟩))
    · split at h
      · split at h
        · rename_i hn; cases h; exact more _ (takeNegated?_eq_some hn)
        · cases h; exact whole (.inl rfl)
      · split at h
        · split at h
          · rename_i hw; cases h; exact more _ (takeWith?_eq_some hw)
          · cases h; exact whole (.inl rfl)
        · dsimp only at h
          split at h
          · cases h; exact whole (.inr (.inr ⟨_, rfl⟩))
          · cases h; exact whole (.inl rfl)

/-- A symbol is an operator or a connective and stands at the start of the text. -/
theorem takeSymbol?_eq_some {cs text rest : List Char} {k : Token.Kind}
    (h : takeSymbol? cs = some (k, text, rest)) :
    cs = text ++ rest ∧ text ≠ [] ∧ ((∃ c, k = .connective c) ∨ ∃ op, k = .operator op) := by
  obtain ⟨⟨symbol, kind⟩, hm, h⟩ := List.exists_of_findSome?_eq_some h
  obtain ⟨r, hr, he⟩ := Option.map_eq_some_iff.1 h
  cases he
  refine ⟨Text.afterStart?_eq_some hr, ?_⟩
  have all : ∀ entry ∈ symbols, entry.1.toList ≠ [] ∧
      ((∃ c, entry.2 = .connective c) ∨ ∃ op, entry.2 = .operator op) := by
    simp [symbols]
  exact all _ hm

/-! ## One token -/

section Emit

variable (l : Lexer) (k : Token.Kind) (text rest : List Char)

@[simp] theorem emit_fst : (l.emit k text rest).1 = ⟨k, text, l.position⟩ := rfl

@[simp] theorem emit_rest : (l.emit k text rest).2.rest = rest := rfl

@[simp] theorem emit_mode : (l.emit k text rest).2.mode = l.mode := rfl

@[simp] theorem emit_peeked : (l.emit k text rest).2.peeked = l.peeked := rfl

@[simp] theorem emit_after : (l.emit k text rest).2.afterPlaceholder = k.isPlaceholder := rfl

end Emit

variable {l l' : Lexer} {t : Token}

theorem quote?_eq_some {c : Char} {q : Quote} (h : quote? c = some q) : c = q.toChar := by
  unfold quote? at h
  split at h
  · cases h; assumption
  · split at h
    · cases h; assumption
    · cases h

theorem ofSymbol?_eq_some {cs : List Char} {s : Step}
    (h : Step.ofSymbol? (String.ofList cs) = some s) : cs = ['+', '+'] ∨ cs = ['-', '-'] := by
  unfold Step.ofSymbol? at h
  split at h
  · rename_i hs; exact .inl (by rw [← String.toList_ofList (l := cs), hs]; rfl)
  · rename_i hs; exact .inr (by rw [← String.toList_ofList (l := cs), hs]; rfl)
  · cases h

/-- The characters of a suffix are the two that are left first. -/
theorem suffix?_eq_some {s : Step} (h : l.suffix? = some s) :
    l.afterPlaceholder = true ∧ l.mode ≠ .function ∧
      (l.rest.take 2 = ['+', '+'] ∨ l.rest.take 2 = ['-', '-']) := by
  unfold suffix? at h
  split at h
  · rename_i hc
    simp only [ne_eq, Bool.and_eq_true, decide_eq_true_eq] at hc
    exact ⟨hc.1, hc.2, ofSymbol?_eq_some h⟩
  · cases h

/-- A suffix is one sign twice. -/
theorem suffix?_eq_cons {s : Step} (h : l.suffix? = some s) :
    ∃ c us, l.rest = c :: c :: us ∧ (c = '+' ∨ c = '-') := by
  rw [← List.take_append_drop 2 l.rest]
  rcases (suffix?_eq_some h).2.2 with hsigns | hsigns <;> rw [hsigns]
  · exact ⟨'+', _, rfl, .inl rfl⟩
  · exact ⟨'-', _, rfl, .inr rfl⟩

/-! ## What a step can do -/

/-- What one step of a lexer can do: one constructor for each way to cut a token off the text that
is left, with what has to stand there. -/
inductive Cuts (l : Lexer) : Token × Lexer → Prop
  | eof (hr : l.rest = []) : Cuts l (l.emit .eof [] [])
  | suffix {s : Step} (hs : l.suffix? = some s) :
    Cuts l (l.emit (.suffix s) (l.rest.take 2) (l.rest.drop 2))
  | block {m : Marker} {body rest : List Char} (hs : l.suffix? = none)
    (hm : markerAt? l.rest = some m)
    (hb : takeBlock 0 (l.rest.drop m.chars.length) = some (body, rest)) :
    Cuts l (l.emit (.placeholder m) body rest)
  | text (hmode : l.mode = .template) (hr : l.rest ≠ []) (hs : l.suffix? = none)
    (hm : markerAt? l.rest = none) :
    Cuts l (l.emit .literal (takeUntil startsMarker l.rest).1 (takeUntil startsMarker l.rest).2)
  | blanks {c : Char} {cs : List Char} (hmode : l.mode ≠ .template) (hr : l.rest = c :: cs)
    (hs : l.suffix? = none) (hc : Text.isBlank c = true) : Cuts l l.takeBlanks
  | quoted {q : Quote} {cs text rest : List Char}
    (hmode : l.mode = .predicate ∨ l.mode = .function ∧ 0 < l.depth) (hr : l.rest = q.toChar :: cs)
    (hs : l.suffix? = none) (ht : takeQuoted q.toChar cs = some (text, rest)) :
    Cuts l (l.emit (.quoted q) text rest)
  | openParen {cs : List Char} (hmode : l.mode = .function) (hr : l.rest = '(' :: cs) :
    Cuts l ({ l with depth := l.depth + 1 }.emit .openParen ['('] cs)
  | closeParen {cs : List Char} (hmode : l.mode = .function) (hr : l.rest = ')' :: cs) :
    Cuts l ({ l with depth := l.depth - 1 }.emit .closeParen [')'] cs)
  | comma {cs : List Char} (hmode : l.mode = .function) (hr : l.rest = ',' :: cs) :
    Cuts l (l.emit .comma [','] cs)
  | plain (hmode : l.mode = .function) (hr : endsPlain l.depth l.rest = false) :
    Cuts l (l.emit .literal (takeUntil (endsPlain l.depth) l.rest).1
      (takeUntil (endsPlain l.depth) l.rest).2)
  | brace {cs : List Char} (hmode : l.mode = .predicate) (hs : l.suffix? = none)
    (hr : l.rest = '\x7d' :: cs) : Cuts l (l.emit .closingBrace ['\x7d'] cs)
  | symbol {k : Token.Kind} {text rest : List Char} (hmode : l.mode = .predicate)
    (hr : endsWord l.rest = false) (hb : l.rest.head? ≠ some '\x7d') (hs : l.suffix? = none)
    (ht : takeSymbol? l.rest = some (k, text, rest)) : Cuts l (l.emit k text rest)
  | word {k : Token.Kind} {text rest : List Char} (hmode : l.mode = .predicate)
    (hr : endsWord l.rest = false) (hb : l.rest.head? ≠ some '\x7d') (hs : l.suffix? = none)
    (ht : takeSymbol? l.rest = none)
    (hw : classifyWord (takeWord l.rest).1 (takeWord l.rest).2 = (k, text, rest)) :
    Cuts l (l.emit k text rest)

theorem cuts_of_quoted {c : Char} {cs : List Char} {q : Quote} {r : Token × Lexer}
    (hmode : l.mode = .predicate ∨ l.mode = .function ∧ 0 < l.depth) (hr : l.rest = c :: cs)
    (hs : l.suffix? = none) (hq : quote? c = some q) (h : l.takeQuotedToken q cs = .ok r) :
    l.Cuts r := by
  unfold takeQuotedToken at h
  split at h
  · rename_i text rest ht
    cases h
    exact .quoted hmode (quote?_eq_some hq ▸ hr) hs ht
  · cases h

theorem cuts_of_scanFunction {c : Char} {cs : List Char} {r : Token × Lexer}
    (hmode : l.mode = .function) (hr : l.rest = c :: cs) (hs : l.suffix? = none)
    (hm : startsMarker (c :: cs) = false) (h : l.scanFunction c cs = .ok r) : l.Cuts r := by
  unfold scanFunction at h
  dsimp only at h
  rw [← hr] at h
  split at h
  · rename_i hb
    cases h
    exact .blanks (by rw [hmode]; decide) hr hs hb
  · rename_i hb
    split at h
    · rename_i hc; cases h; subst hc; exact .openParen hmode hr
    · rename_i ho
      split at h
      · rename_i hc; cases h; subst hc; exact .closeParen hmode hr
      · rename_i hc
        split at h
        · rename_i hc; cases h; subst hc; exact .comma hmode hr
        · rename_i hcomma
          split at h
          · rename_i q hq
            split at h
            · rename_i hd
              exact cuts_of_quoted (.inr ⟨hmode, hd⟩) hr hs hq h
            · rename_i hd
              cases h
              exact .plain hmode (by rw [hr]; simp [endsPlain, hb, ho, hc, hcomma, hd, hm])
          · rename_i hq
            cases h
            exact .plain hmode (by rw [hr]; simp [endsPlain, hb, ho, hc, hcomma, hq, hm])

theorem cuts_of_scanPredicate {c : Char} {cs : List Char} {r : Token × Lexer}
    (hmode : l.mode = .predicate) (hr : l.rest = c :: cs) (hs : l.suffix? = none)
    (hm : startsMarker (c :: cs) = false) (h : l.scanPredicate c cs = .ok r) : l.Cuts r := by
  unfold scanPredicate at h
  split at h
  · rename_i hb
    cases h
    exact .blanks (by rw [hmode]; decide) hr hs hb
  · rename_i hb
    split at h
    · rename_i q hq
      exact cuts_of_quoted (.inl hmode) hr hs hq h
    · rename_i hq
      have hword : endsWord l.rest = false := by rw [hr]; simp [endsWord, hb, hq, hm]
      split at h
      · rename_i hc; cases h; subst hc; exact .brace hmode hs hr
      · rename_i hc
        have hbrace : l.rest.head? ≠ some '\x7d' := by rw [hr]; simpa using hc
        rw [← hr] at h
        split at h
        · rename_i ht
          cases h
          exact .symbol hmode hword hbrace hs ht
        · rename_i ht
          dsimp only at h
          generalize hw : classifyWord _ _ = w at h
          obtain ⟨k, text, rest⟩ := w
          cases h
          exact .word hmode hword hbrace hs ht hw

/-- A step that does not fail is one of the ways to cut a token off. -/
theorem cuts_of_scan {r : Token × Lexer} (h : l.scan = .ok r) : l.Cuts r := by
  unfold scan at h
  split at h
  · rename_i hr; cases h; exact .eof hr
  · rename_i c cs hr
    have hne : l.rest ≠ [] := by rw [hr]; simp
    split at h
    · rename_i s hs; cases h; exact .suffix hs
    · rename_i hs
      rw [← hr] at h
      split at h
      · rename_i m hm
        split at h
        · rename_i body rest hb; cases h; exact .block hs hm hb
        · cases h
      · rename_i hm
        have hmark : startsMarker (c :: cs) = false := by rw [← hr, startsMarker, hm]; rfl
        split at h
        · rename_i hmode; cases h; exact .text hmode hne hs hm
        · rename_i hmode; exact cuts_of_scanFunction hmode hr hs hmark h
        · rename_i hmode; exact cuts_of_scanPredicate hmode hr hs hmark h

theorem suffix?_of_not_after (h : l.afterPlaceholder = false) : l.suffix? = none := by
  unfold suffix?; rw [h]; rfl

theorem suffix?_of_function (hmode : l.mode = .function) : l.suffix? = none := by
  unfold suffix?
  rw [hmode]
  simp

theorem markerAt?_eq_none {cs : List Char} (h : startsMarker cs = false) : markerAt? cs = none := by
  unfold startsMarker at h
  simpa using h

/-- Where neither a suffix nor a marker stands, the mode decides. -/
theorem scan_of_no_marker {c : Char} {cs : List Char} (hr : l.rest = c :: cs) (hs : l.suffix? = none)
    (hm : startsMarker (c :: cs) = false) :
    l.scan = match l.mode with
      | .template => .ok (l.emit .literal (takeUntil startsMarker (c :: cs)).1
        (takeUntil startsMarker (c :: cs)).2)
      | .function => l.scanFunction c cs
      | .predicate => l.scanPredicate c cs := by
  cases hmode : l.mode <;> simp only [scan, hr, hs, markerAt?_eq_none hm, hmode]

theorem scan_of_function {c : Char} {cs : List Char} (hmode : l.mode = .function)
    (hr : l.rest = c :: cs) (hm : startsMarker (c :: cs) = false) :
    l.scan = l.scanFunction c cs := by
  rw [scan_of_no_marker hr (suffix?_of_function hmode) hm, hmode]

theorem quote?_toChar (q : Quote) : quote? q.toChar = some q := by
  cases q <;> rfl

theorem toChar_plain (q : Quote) : Text.isBlank q.toChar = false ∧ q.toChar ≠ '$' ∧
    q.toChar ∉ ['(', ')', ',', '\x7d'] := by
  cases q <;> exact ⟨rfl, by decide, by decide⟩

theorem not_holds_quote (q : Quote) : ¬ Marker.holds q.toChar := by
  cases q <;> decide

theorem startsMarker_of_endsPlain {d : Nat} {cs : List Char} (h : endsPlain d cs = false) :
    startsMarker cs = false := by
  cases cs with
  | nil => cases h
  | cons c cs => exact (Bool.or_eq_false_iff.1 h).2

theorem scan_of_cuts {r : Token × Lexer} (h : l.Cuts r) : l.scan = .ok r := by
  cases h with
  | eof hr => unfold scan; rw [hr]
  | suffix hs =>
    unfold scan
    split
    · rename_i hr
      rcases (suffix?_eq_some hs).2.2 with h | h <;> rw [hr] at h <;> cases h
    · rw [hs]
  | block hs hm hb =>
    unfold scan
    split
    · rename_i hr; rw [hr] at hm; cases hm
    · rename_i c cs hr
      rw [hs]
      rw [hr] at hm hb
      dsimp only
      rw [hm]
      dsimp only
      rw [hb]
  | text hmode hr hs hm =>
    obtain ⟨c, cs, hr⟩ := List.exists_cons_of_ne_nil hr
    rw [hr] at hm ⊢
    rw [scan_of_no_marker hr hs (by rw [startsMarker, hm]; rfl), hmode]
  | @blanks c cs hmode hr hs hc =>
    have hdollar : c ≠ '$' := by rintro rfl; cases hc
    rw [scan_of_no_marker hr hs (startsMarker_cons_of_ne hdollar)]
    cases hm : l.mode with
    | template => exact absurd hm hmode
    | function => dsimp only; unfold scanFunction; rw [if_pos hc]
    | predicate => dsimp only; unfold scanPredicate; rw [if_pos hc]
  | @quoted q cs text rest hmode hr hs ht =>
    obtain ⟨hb, hdollar, hplain⟩ := toChar_plain q
    simp only [List.mem_cons, List.not_mem_nil, or_false, not_or] at hplain
    rw [scan_of_no_marker hr hs (startsMarker_cons_of_ne hdollar)]
    rcases hmode with hmode | ⟨hmode, hd⟩ <;> rw [hmode] <;> dsimp only
    · unfold scanPredicate takeQuotedToken
      rw [if_neg (by rw [hb]; decide), quote?_toChar]
      dsimp only
      rw [ht]
    · unfold scanFunction takeQuotedToken
      dsimp only
      rw [if_neg (by rw [hb]; decide), if_neg hplain.1, if_neg hplain.2.1, if_neg hplain.2.2.1,
        quote?_toChar]
      dsimp only
      rw [if_pos hd, ht]
  | openParen hmode hr =>
    rw [scan_of_function hmode hr (startsMarker_cons_of_ne (by decide))]
    rfl
  | closeParen hmode hr =>
    rw [scan_of_function hmode hr (startsMarker_cons_of_ne (by decide))]
    rfl
  | comma hmode hr =>
    rw [scan_of_function hmode hr (startsMarker_cons_of_ne (by decide))]
    rfl
  | plain hmode hr =>
    have hm := startsMarker_of_endsPlain hr
    cases hrest : l.rest with
    | nil => rw [hrest] at hr; cases hr
    | cons c cs =>
      rw [hrest] at hr hm
      rw [scan_of_function hmode hrest hm]
      simp only [endsPlain, Bool.or_eq_false_iff, Bool.and_eq_false_iff, decide_eq_false_iff_not] at hr
      obtain ⟨⟨⟨⟨⟨hb, ho⟩, hc⟩, hcomma⟩, hq⟩, -⟩ := hr
      unfold scanFunction
      dsimp only
      rw [if_neg (by rw [hb]; decide), if_neg ho, if_neg hc, if_neg hcomma]
      split
      · rename_i q hsome
        rcases hq with hq | hd
        · rw [hsome] at hq; cases hq
        · rw [if_neg hd]
      · rfl
  | brace hmode hs hr =>
    rw [scan_of_no_marker hr hs (startsMarker_cons_of_ne (by decide)), hmode]
    rfl
  | symbol hmode hr hb hs ht =>
    cases hrest : l.rest with
    | nil => rw [hrest] at hr; cases hr
    | cons c cs =>
      rw [hrest] at hr hb ht
      simp only [endsWord, Bool.or_eq_false_iff] at hr
      obtain ⟨⟨hblank, hq⟩, hm⟩ := hr
      rw [scan_of_no_marker hrest hs hm, hmode]
      dsimp only
      unfold scanPredicate
      rw [if_neg (by rw [hblank]; decide), Option.isSome_eq_false_iff.1 hq |> Option.isNone_iff_eq_none.1]
      dsimp only
      rw [if_neg (by simpa using hb), ht]
  | word hmode hr hb hs ht hw =>
    cases hrest : l.rest with
    | nil => rw [hrest] at hr; cases hr
    | cons c cs =>
      rw [hrest] at hr hb ht hw
      simp only [endsWord, Bool.or_eq_false_iff] at hr
      obtain ⟨⟨hblank, hq⟩, hm⟩ := hr
      rw [scan_of_no_marker hrest hs hm, hmode]
      dsimp only
      unfold scanPredicate
      rw [if_neg (by rw [hblank]; decide), Option.isSome_eq_false_iff.1 hq |> Option.isNone_iff_eq_none.1]
      dsimp only
      rw [if_neg (by simpa using hb), ht]
      dsimp only
      rw [hw]

/-! ## Where a step goes -/

/-- From one lexer to the next by a token. -/
structure Takes (l : Lexer) (t : Token) (l' : Lexer) : Prop where
  rest : l.rest = t.raw ++ l'.rest
  start : t.start = l.position
  position : l'.position = t.stop
  mode : l'.mode = l.mode
  peeked : l'.peeked = l.peeked
  after : l'.afterPlaceholder = t.kind.isPlaceholder
  eof : t.kind = .eof ↔ l.rest = []
  raw_ne_nil : l.rest ≠ [] → t.raw ≠ []

theorem takes_emit {k : Token.Kind} {text rest : List Char} (d : Nat)
    (hr : l.rest = k.opening ++ text ++ k.closing ++ rest) (hk : k ≠ .eof)
    (hne : k.opening ++ text ≠ []) :
    l.Takes ({ l with depth := d }.emit k text rest).1 ({ l with depth := d }.emit k text rest).2 := by
  have hraw : k.opening ++ text ++ k.closing ≠ [] := fun h => hne (List.append_eq_nil_iff.1 h).1
  refine ⟨hr, rfl, rfl, rfl, rfl, rfl, ⟨fun h => absurd h hk, fun h => ?_⟩, fun _ => hraw⟩
  rw [h] at hr
  exact absurd (List.append_eq_nil_iff.1 hr.symm).1 hraw

/-- `takes_emit` for a token that nothing delimits. -/
theorem takes_emit_plain {k : Token.Kind} {text rest : List Char} (d : Nat)
    (hr : l.rest = text ++ rest) (hne : text ≠ [])
    (hk : k.opening = [] ∧ k.closing = [] ∧ k ≠ .eof) :
    l.Takes ({ l with depth := d }.emit k text rest).1 ({ l with depth := d }.emit k text rest).2 := by
  obtain ⟨ho, hc, hk⟩ := hk
  apply takes_emit d _ hk
  · rw [ho, List.nil_append]
    exact hne
  · rw [ho, hc, List.nil_append, List.append_nil]
    exact hr

/-- A text that is not stopped at once is cut in two, of which the first has a character. -/
theorem takeUntil_cut {stop : List Char → Bool} {cs : List Char} (hne : cs ≠ [])
    (h : stop cs = false) :
    cs = (takeUntil stop cs).1 ++ (takeUntil stop cs).2 ∧ (takeUntil stop cs).1 ≠ [] := by
  refine ⟨(takeUntil_spec stop cs).1, ?_⟩
  obtain ⟨c, cs, rfl⟩ := List.exists_cons_of_ne_nil hne
  simp [takeUntil, h]

theorem Cuts.takes {r : Token × Lexer} (h : l.Cuts r) : l.Takes r.1 r.2 := by
  cases h with
  | eof hr => exact ⟨hr, rfl, rfl, rfl, rfl, rfl, by simp [hr], fun hne => absurd hr hne⟩
  | suffix hs =>
    refine takes_emit_plain l.depth (List.take_append_drop 2 l.rest).symm ?_ ⟨rfl, rfl, by simp⟩
    rcases (suffix?_eq_some hs).2.2 with h | h <;> rw [h] <;> simp
  | @block m body rest hs hm hb =>
    refine takes_emit l.depth ?_ (by simp) ?_
    · have hrest := markerAt?_eq_some hm
      rw [takeBlock_eq_some hb] at hrest
      rw [hrest]
      simp [Token.Kind.opening, Token.Kind.closing]
    · cases m <;> simp [Token.Kind.opening, Marker.chars]
  | text hmode hr hs hm =>
    have hstop : startsMarker l.rest = false := by rw [startsMarker, hm]; rfl
    obtain ⟨hcut, hne⟩ := takeUntil_cut hr hstop
    exact takes_emit_plain l.depth hcut hne ⟨rfl, rfl, by simp⟩
  | blanks hmode hr hs hc =>
    apply takes_emit_plain l.depth List.takeWhile_append_dropWhile.symm _ ⟨rfl, rfl, by simp⟩
    rw [hr]
    simp [hc]
  | quoted hmode hr hs ht =>
    refine takes_emit l.depth ?_ (by simp) (by simp [Token.Kind.opening])
    rw [hr, (takeQuoted_eq_some ht).1]
    simp [Token.Kind.opening, Token.Kind.closing]
  | openParen hmode hr => exact takes_emit_plain _ hr (by simp) ⟨rfl, rfl, by simp⟩
  | closeParen hmode hr => exact takes_emit_plain _ hr (by simp) ⟨rfl, rfl, by simp⟩
  | comma hmode hr => exact takes_emit_plain l.depth hr (by simp) ⟨rfl, rfl, by simp⟩
  | plain hmode hr =>
    have hne : l.rest ≠ [] := by rintro h; rw [h] at hr; cases hr
    obtain ⟨hcut, hne⟩ := takeUntil_cut hne hr
    exact takes_emit_plain l.depth hcut hne ⟨rfl, rfl, by simp⟩
  | brace hmode hs hr => exact takes_emit_plain l.depth hr (by simp) ⟨rfl, rfl, by simp⟩
  | symbol hmode hr hb hs ht =>
    obtain ⟨hcut, hne, hk⟩ := takeSymbol?_eq_some ht
    apply takes_emit_plain l.depth hcut hne
    rcases hk with ⟨_, rfl⟩ | ⟨_, rfl⟩ <;> exact ⟨rfl, rfl, by simp⟩
  | word hmode hr hb hs ht hw =>
    obtain ⟨hcut, hword⟩ := takeUntil_cut (ne_nil_of_endsWord hr) hr
    obtain ⟨htext, hprefix, hk⟩ := classifyWord_spec hw
    apply takes_emit_plain l.depth
    · rw [← htext]
      exact hcut
    · -- no word is given up for those after it
      rintro rfl
      exact hword (List.prefix_nil.1 hprefix)
    · rcases hk with ⟨rfl, -⟩ | ⟨_, rfl⟩ | ⟨_, rfl⟩ <;> exact ⟨rfl, rfl, by simp⟩

theorem scan_takes (h : l.scan = .ok (t, l')) : l.Takes t l' :=
  (cuts_of_scan h).takes

theorem scan_eof (h : l.scan = .ok (t, l')) (ht : t.kind = .eof) :
    t = ⟨.eof, [], l.position⟩ ∧ l'.rest = [] ∧ l'.position = l.position := by
  have hrest := (scan_takes h).eof.1 ht
  unfold scan at h
  rw [hrest] at h
  cases h
  exact ⟨rfl, rfl, rfl⟩

/-- A run of blanks goes up to where the blanks end. -/
theorem scan_blank (h : l.scan = .ok (t, l')) (hk : t.kind = .blank) :
    t.text = l.rest.takeWhile Text.isBlank ∧ l'.rest = l.rest.dropWhile Text.isBlank := by
  generalize hr : (t, l') = r at h
  cases cuts_of_scan h with
  | blanks => cases hr; exact ⟨rfl, rfl⟩
  | symbol _ _ _ _ ht =>
    cases hr
    rcases (takeSymbol?_eq_some ht).2.2 with ⟨_, rfl⟩ | ⟨_, rfl⟩ <;> cases hk
  | word _ _ _ _ _ hw =>
    cases hr
    rcases (classifyWord_spec hw).2.2 with ⟨rfl, -⟩ | ⟨_, rfl⟩ | ⟨_, rfl⟩ <;> cases hk
  | _ => cases hr; cases hk

/-- A block goes up to the brace that ends it. -/
theorem takeBlock_of_scan {m : Marker} (h : l.scan = .ok (t, l')) (hk : t.kind = .placeholder m) :
    takeBlock 0 (t.text ++ '\x7d' :: l'.rest) = some (t.text, l'.rest) := by
  generalize hr : (t, l') = r at h
  cases cuts_of_scan h with
  | block hs hm hb =>
    cases hr
    rw [takeBlock_eq_some hb] at hb
    exact hb
  | symbol _ _ _ _ ht =>
    cases hr
    rcases (takeSymbol?_eq_some ht).2.2 with ⟨_, rfl⟩ | ⟨_, rfl⟩ <;> cases hk
  | word _ _ _ _ _ hw =>
    cases hr
    rcases (classifyWord_spec hw).2.2 with ⟨rfl, -⟩ | ⟨_, rfl⟩ | ⟨_, rfl⟩ <;> cases hk
  | _ => cases hr; cases hk

/-- The next token is a suffix if and only if one stands there. -/
theorem scan_suffix_iff {s : Step} (h : l.scan = .ok (t, l')) : t.kind = .suffix s ↔ l.suffix? = some s := by
  constructor
  · intro ht
    generalize hr : (t, l') = r at h
    cases cuts_of_scan h with
    | suffix hs =>
      cases hr
      cases ht
      exact hs
    | symbol _ _ _ _ hsymbol =>
      cases hr
      rcases (takeSymbol?_eq_some hsymbol).2.2 with ⟨_, rfl⟩ | ⟨_, rfl⟩ <;> cases ht
    | word _ _ _ _ _ hw =>
      cases hr
      rcases (classifyWord_spec hw).2.2 with ⟨rfl, -⟩ | ⟨_, rfl⟩ | ⟨_, rfl⟩ <;> cases ht
    | _ => cases hr; cases ht
  · intro hs
    cases h.symm.trans (scan_of_cuts (.suffix hs))
    rfl

/-- A token of a template is a suffix, a block or text. -/
theorem scan_template {l' : Lexer} {t : Token} (hm : l.mode = .template) (hne : l.rest ≠ [])
    (h : l.scan = .ok (t, l')) :
    (∃ s, t.kind = .suffix s) ∨ t.kind = .literal ∨
      ∃ m, t.kind = .placeholder m ∧
        takeBlock 0 (t.text ++ '\x7d' :: l'.rest) = some (t.text, l'.rest) := by
  have hblock {m : Marker} (hk : t.kind = .placeholder m) := takeBlock_of_scan h hk
  generalize hr : (t, l') = r at h
  cases cuts_of_scan h with
  | eof hnil => exact absurd hnil hne
  | suffix hs => cases hr; exact .inl ⟨_, rfl⟩
  | @block m => cases hr; exact .inr (.inr ⟨m, rfl, hblock rfl⟩)
  | text => cases hr; exact .inr (.inl rfl)
  | blanks hmode => exact absurd hm hmode
  | quoted hmode =>
    rcases hmode with hmode | ⟨hmode, -⟩ <;> rw [hm] at hmode <;> cases hmode
  | _ => simp_all

theorem Takes.length (h : l.Takes t l') : l.rest.length = t.length + l'.rest.length := by
  rw [h.rest, List.length_append]; rfl

/-- What is left ends at the same offset after a token as before it. -/
theorem Takes.position_add (h : l.Takes t l') :
    l'.position + l'.rest.length = l.position + l.rest.length := by
  rw [h.position, Token.stop, h.start, h.length]
  omega

/-- A step that is not the last leaves less. -/
theorem Takes.length_lt (h : l.Takes t l') (ht : t.kind ≠ .eof) :
    l'.rest.length < l.rest.length := by
  have hne := h.raw_ne_nil fun hl => ht (h.eof.2 hl)
  have : 0 < t.raw.length := List.length_pos_iff.2 hne
  rw [h.rest, List.length_append]; omega

/-! ## All tokens -/

/-- The tokens that a lexer has left. -/
def lexed (l : Lexer) : Lexed :=
  Lexer.run l.rest.length l

theorem next_eq_scan (h : l.peeked = none) : l.next = l.scan := by
  unfold next; rw [h]

/-- Tokens that a lexer takes one after another, and the lexer behind them. -/
inductive TakesAll : Lexer → List Token → Lexer → Prop where
  | nil (l : Lexer) : TakesAll l [] l
  | cons {l m n : Lexer} {t : Token} {ts : List Token} (h : l.next = .ok (t, m))
    (ht : t.kind ≠ .eof) (hts : TakesAll m ts n) : TakesAll l (t :: ts) n

/-- More steps than there are characters change nothing. -/
theorem run_eq_lexed : ∀ (n : Nat) {l : Lexer}, l.peeked = none → l.rest.length ≤ n →
    Lexer.run n l = l.lexed
  | 0, l, hp, hn => by unfold lexed; rw [Nat.le_zero.1 hn]
  | n + 1, l, hp, hn => by
    unfold lexed
    rcases hs : l.scan with f | ⟨t, l'⟩
    · cases l.rest.length <;> simp only [Lexer.run, next_eq_scan hp, hs]
    · have ht := scan_takes hs
      by_cases he : t.kind = .eof
      · rw [ht.eof.1 he]
        simp only [Lexer.run, next_eq_scan hp, hs, he, if_true, List.length_nil]
      · -- the token has a character, so one step more is left than the rest needs
        have hlt := ht.length_lt he
        obtain ⟨m, hm⟩ : ∃ m, l.rest.length = m + 1 := ⟨l.rest.length - 1, by omega⟩
        have hp' : l'.peeked = none := ht.peeked.trans hp
        rw [hm]
        simp only [Lexer.run, next_eq_scan hp, hs, he, if_false]
        rw [run_eq_lexed n hp' (by omega), run_eq_lexed m hp' (by omega)]
  termination_by n => n

/-- The tokens of a lexer, step by step. -/
theorem lexed_eq (hp : l.peeked = none) :
    l.lexed = match l.scan with
      | .error f => .fault f
      | .ok (t, l') => if t.kind = .eof then .eof t.start else .token t l'.lexed := by
  rw [← run_eq_lexed (l.rest.length + 1) hp (Nat.le_succ _)]
  simp only [Lexer.run, next_eq_scan hp]
  rcases hs : l.scan with f | ⟨t, l'⟩
  · rfl
  · have ht := scan_takes hs
    dsimp only
    split
    · rfl
    · rename_i he
      rw [run_eq_lexed _ (ht.peeked.trans hp) (Nat.le_of_lt (ht.length_lt he))]

theorem lexed_of_scan (hp : l.peeked = none) (h : l.scan = .ok (t, l')) (ht : t.kind ≠ .eof) :
    l.lexed = .token t l'.lexed := by
  rw [lexed_eq hp, h]; simp only [ht, if_false]

/-- `lexed_of_scan` for a token that is cut off as it stands. -/
theorem lexed_of_emit {k : Token.Kind} {text rest : List Char} (hp : l.peeked = none)
    (h : l.scan = .ok (l.emit k text rest)) (hk : k ≠ .eof) :
    l.lexed = .token ⟨k, text, l.position⟩ (l.emit k text rest).2.lexed :=
  lexed_of_scan hp h hk

theorem lexed_of_nil (hp : l.peeked = none) (h : l.rest = []) : l.lexed = .eof l.position := by
  rw [lexed_eq hp]; unfold scan; rw [h]; rfl

theorem lexed_of_error {f : Fault} (hp : l.peeked = none) (h : l.scan = .error f) :
    l.lexed = .fault f := by
  rw [lexed_eq hp, h]

theorem scan_of_lexed_token {rest : Lexed} (hp : l.peeked = none) (h : l.lexed = .token t rest) :
    ∃ l', l.scan = .ok (t, l') ∧ l'.lexed = rest ∧ t.kind ≠ .eof := by
  rw [lexed_eq hp] at h
  rcases hs : l.scan with f | ⟨u, l'⟩ <;> rw [hs] at h
  · cases h
  · by_cases hu : u.kind = .eof
    · simp only [hu, if_true] at h
      cases h
    · simp only [hu, if_false] at h
      cases h
      exact ⟨l', rfl, rfl, hu⟩

/-- Only where nothing is left does a lexer have no tokens. -/
theorem rest_of_lexed_eof {offset : Nat} (hp : l.peeked = none) (h : l.lexed = .eof offset) :
    l.rest = [] := by
  rw [lexed_eq hp] at h
  rcases hs : l.scan with f | ⟨t, l'⟩ <;> rw [hs] at h
  · cases h
  · by_cases ht : t.kind = .eof
    · exact (scan_takes hs).eof.1 ht
    · simp only [ht, if_false] at h
      cases h

end Lexer

/-- The tokens before the end or the fault. -/
def Lexed.tokens : Lexed → List Token
  | .token t rest => t :: rest.tokens
  | _ => []

/-- The tokens of a region are those of a lexer at its start. -/
theorem Lexed.of_eq_lexed (mode : Mode) (offset : Nat) (region : List Char) :
    Lexed.of mode offset region = (Lexer.start mode offset region).lexed :=
  rfl

/-! ## Tokens that are changed -/

/-- Two tokens of one kind, all placeholders being of one kind. -/
def Token.SameKind (t u : Token) : Prop :=
  ∀ k : Token.Kind, k.isPlaceholder = false → (t.kind = k ↔ u.kind = k)

namespace Token.SameKind

variable {t u : Token}

theorem isPlaceholder_eq (h : t.SameKind u) : t.kind.isPlaceholder = u.kind.isPlaceholder := by
  cases ht : t.kind.isPlaceholder with
  | false => rw [(h _ ht).1 rfl, ht]
  | true =>
    cases hu : u.kind.isPlaceholder with
    | false => rw [(h _ hu).2 rfl, hu] at ht; cases ht
    | true => rfl

theorem isText_eq (h : t.SameKind u) : t.kind.isText = u.kind.isText := by
  cases ht : t.kind.isPlaceholder with
  | false => rw [(h _ ht).1 rfl]
  | true =>
    have no_text {k : Token.Kind} (hk : k.isPlaceholder = true) : k.isText = false := by
      cases k <;> first | rfl | cases hk
    rw [no_text ht, no_text (h.isPlaceholder_eq ▸ ht)]

end Token.SameKind

/-- A change of tokens after which each is of the kind that it was. -/
def KeepsKinds (f : Token → Token) : Prop :=
  ∀ t, (f t).SameKind t

/-- Tokens that are the same when changed are of one kind. -/
theorem KeepsKinds.sameKind {f : Token → Token} (hf : KeepsKinds f) {t u : Token} (h : f t = f u) :
    t.SameKind u := by
  intro k hk
  rw [← hf t k hk, h, hf u k hk]

theorem keepsKinds_id : KeepsKinds id :=
  fun _ _ _ => Iff.rfl

/-- Two runs of tokens that `f` does not tell apart, up to the end of both or a fault in both. -/
inductive Lexed.Same (f : Token → Token) : Lexed → Lexed → Prop
  | eof (offset offset' : Nat) : Same f (.eof offset) (.eof offset')
  | fault (e e' : Fault) : Same f (.fault e) (.fault e')
  | token {t t' : Token} {rest rest' : Lexed} (ht : f t = f t') (h : Same f rest rest') :
    Same f (.token t rest) (.token t' rest')

theorem Lexed.Same.refl (f : Token → Token) (l : Lexed) : l.Same f l := by
  induction l with
  | eof offset => exact .eof offset offset
  | fault e => exact .fault e e
  | token t rest ih => exact .token rfl ih

theorem Lexed.Same.toTokens {f : Token → Token} {l l' : Lexed} (h : l.Same f l') {ts : List Token}
    (hts : l.toTokens = .ok ts) : ∃ ts', l'.toTokens = .ok ts' ∧ ts.map f = ts'.map f := by
  induction h generalizing ts with
  | eof => cases hts; exact ⟨[], rfl, rfl⟩
  | fault => cases hts
  | @token t t' rest rest' ht h ih =>
    rw [Lexed.toTokens] at hts ⊢
    rcases hrest : rest.toTokens with e | us <;> rw [hrest] at hts
    · cases hts
    · cases hts
      obtain ⟨us', hus', heq⟩ := ih hrest
      rw [hus']
      exact ⟨t' :: us', rfl, by rw [List.map_cons, List.map_cons, ht, heq]⟩

end RouteExpr
