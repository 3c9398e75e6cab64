/-
Texts that differ in nothing but their blanks, and their tokens.

Blanks count outside of quoted texts and of blocks only, and there it matters where they stand, not how
many they are or which. So two such texts are cut at the same places: their tokens are the same but for
their offsets, for the characters of blanks and of operators in words, and for blanks at the very end.
-/
import RouteExpr.Proofs.Token.Extend

namespace RouteExpr

open Lexer

/-! ## Texts -/

/-- Two texts that differ only in their runs of blanks outside of quoted texts and blocks, and in the
blanks at their end. An opening without a closing is not followed further: neither text is read then. -/
inductive Relaid : List Char → List Char → Prop
  | ends {cs ds : List Char} (hc : Text.allBlank cs = true) (hd : Text.allBlank ds = true) :
    Relaid cs ds
  | blanks {bs bs' cs ds : List Char} (hne : bs ≠ []) (hne' : bs' ≠ [])
    (hb : Text.allBlank bs = true) (hb' : Text.allBlank bs' = true) (h : Relaid cs ds) :
    Relaid (bs ++ cs) (bs' ++ ds)
  /-- A character that is no blank and opens nothing. -/
  | char {c : Char} {cs ds : List Char} (hc : endsWord (c :: cs) = false)
    (hd : endsWord (c :: ds) = false) (h : Relaid cs ds) : Relaid (c :: cs) (c :: ds)
  | quoted {text cs ds : List Char} (q : Quote) (ht : q.toChar ∉ text) (h : Relaid cs ds) :
    Relaid (q.toChar :: (text ++ q.toChar :: cs)) (q.toChar :: (text ++ q.toChar :: ds))
  | block {body cs cs' ds ds' : List Char} (m : Marker) (hc : takeBlock 0 cs = some (body, cs'))
    (hd : takeBlock 0 ds = some (body, ds')) (h : Relaid cs' ds') :
    Relaid (m.chars ++ cs) (m.chars ++ ds)
  | unclosedQuote {cs ds : List Char} (q : Quote) (hc : q.toChar ∉ cs) (hd : q.toChar ∉ ds) :
    Relaid (q.toChar :: cs) (q.toChar :: ds)
  | unclosedBlock {cs ds : List Char} (m : Marker) (hc : takeBlock 0 cs = none)
    (hd : takeBlock 0 ds = none) : Relaid (m.chars ++ cs) (m.chars ++ ds)

theorem endsWord_of_allBlank {cs : List Char} (h : Text.allBlank cs = true) : endsWord cs = true := by
  cases cs with
  | nil => rfl
  | cons c cs =>
    have hc : Text.isBlank c = true := List.all_eq_true.1 h c List.mem_cons_self
    simp [endsWord, hc]

theorem endsWord_chars (m : Marker) (cs : List Char) : endsWord (m.chars ++ cs) = true := by
  cases m <;> rfl

theorem endsWord_quote (q : Quote) (cs : List Char) : endsWord (q.toChar :: cs) = true := by
  simp [endsWord, quote?_toChar]

theorem endsWord_blanks {bs : List Char} (hne : bs ≠ []) (hb : Text.allBlank bs = true)
    (cs : List Char) : endsWord (bs ++ cs) = true := by
  obtain ⟨b, bs, rfl⟩ := List.exists_cons_of_ne_nil hne
  have hblank : Text.isBlank b = true := List.all_eq_true.1 hb b List.mem_cons_self
  simp [endsWord, hblank]

namespace Relaid

variable {c : Char} {cs ds : List Char}

theorem symm (h : Relaid cs ds) : Relaid ds cs := by
  induction h with
  | ends hc hd => exact .ends hd hc
  | blanks hne hne' hb hb' _ ih => exact .blanks hne' hne hb' hb ih
  | char hc hd _ ih => exact .char hd hc ih
  | quoted q ht _ ih => exact .quoted q ht ih
  | block m hc hd _ ih => exact .block m hd hc ih
  | unclosedQuote q hc hd => exact .unclosedQuote q hd hc
  | unclosedBlock m hc hd => exact .unclosedBlock m hd hc

/-- Every text is laid out as itself. -/
theorem refl : ∀ cs : List Char, Relaid cs cs
  | [] => .ends rfl rfl
  | c :: cs => by
    by_cases hword : endsWord (c :: cs) = false
    · exact .char hword hword (refl cs)
    simp only [endsWord, Bool.not_eq_false, Bool.or_eq_true, Option.isSome_iff_exists] at hword
    rcases hword with (hblank | ⟨q, hq⟩) | hmarker
    · have hb : Text.allBlank [c] = true := by simp [Text.allBlank, hblank]
      exact .blanks (List.cons_ne_nil c []) (List.cons_ne_nil c []) hb hb (refl cs)
    · obtain rfl := quote?_eq_some hq
      by_cases hmem : q.toChar ∈ cs
      · obtain ⟨text, rest, hcs, ht⟩ := List.eq_append_cons_of_mem hmem
        have hlength := congrArg List.length hcs
        rw [hcs]
        exact .quoted q ht (refl rest)
      · exact .unclosedQuote q hmem hmem
    · obtain ⟨m, rest, hrest⟩ := startsMarker_iff.1 hmarker
      rw [← hrest]
      cases hbody : takeBlock 0 rest with
      | none => exact .unclosedBlock m hbody hbody
      | some p =>
        have hlength := congrArg List.length hrest
        have hsplit := congrArg List.length (takeBlock_eq_some hbody)
        exact .block m hbody hbody (refl p.2)
  termination_by cs => cs.length
  decreasing_by
    all_goals simp only [List.length_cons, List.length_append] at *
    all_goals omega

theorem allBlank (h : Relaid cs ds) (hc : Text.allBlank cs = true) : Text.allBlank ds = true := by
  induction h with
  | ends _ hd => exact hd
  | blanks _ _ hb hb' _ ih =>
    rw [Text.allBlank, List.all_append, Bool.and_eq_true] at hc ⊢
    exact ⟨hb', ih hc.2⟩
  | char hword =>
    rw [endsWord_of_allBlank hc] at hword
    cases hword
  | quoted q | unclosedQuote q =>
    rw [Text.allBlank, List.all_cons, (toChar_plain q).1] at hc
    cases hc
  | block m | unclosedBlock m => cases m <;> cases hc

/-- A character that is no blank, no quote and no start of a marker stands in both texts. -/
theorem cons_plain (hblank : Text.isBlank c = false) (hquote : quote? c = none) (hdollar : c ≠ '$')
    (h : Relaid (c :: cs) ds) : ∃ ds', ds = c :: ds' ∧ Relaid cs ds' := by
  generalize htext : c :: cs = text at h
  cases h with
  | ends hc =>
    rw [← htext, Text.allBlank, List.all_cons, hblank] at hc
    cases hc
  | blanks hne _ hb =>
    obtain ⟨b, bs, rfl⟩ := List.exists_cons_of_ne_nil hne
    obtain ⟨rfl, -⟩ := List.cons.inj htext
    rw [Text.allBlank, List.all_cons, hblank] at hb
    cases hb
  | char _ _ h =>
    cases htext
    exact ⟨_, rfl, h⟩
  | quoted q | unclosedQuote q =>
    obtain ⟨rfl, -⟩ := List.cons.inj htext
    rw [quote?_toChar] at hquote
    cases hquote
  | block m | unclosedBlock m =>
    cases m <;> exact absurd (List.cons.inj htext).1 hdollar

/-- A character in front of one text that is no blank and opens nothing is in front of the other. -/
theorem of_word (hword : endsWord cs = false) (h : Relaid cs ds) :
    endsWord ds = false ∧ ds.head? = cs.head? := by
  cases h with
  | ends hc => rw [endsWord_of_allBlank hc] at hword; cases hword
  | blanks hne _ hb => rw [endsWord_blanks hne hb] at hword; cases hword
  | char _ hd => exact ⟨hd, rfl⟩
  | quoted q | unclosedQuote q => rw [endsWord_quote] at hword; cases hword
  | block m | unclosedBlock m => rw [endsWord_chars] at hword; cases hword

/-- A block in front of one text is in front of the other. -/
theorem of_block {m : Marker} {body us : List Char} (hbody : takeBlock 0 cs = some (body, us))
    (h : Relaid (m.chars ++ cs) ds) :
    ∃ ds' vs, ds = m.chars ++ ds' ∧ takeBlock 0 ds' = some (body, vs) ∧ Relaid us vs := by
  have same {m' : Marker} {cs' : List Char} (heq : m.chars ++ cs = m'.chars ++ cs') :
      m' = m ∧ cs' = cs := by
    have hm := congrArg markerAt? heq
    rw [markerAt?_chars, markerAt?_chars] at hm
    cases hm
    exact ⟨rfl, (List.append_cancel_left heq).symm⟩
  generalize htext : m.chars ++ cs = text at h
  have hends : endsWord text = true := htext ▸ endsWord_chars m cs
  have hhead : text.head? = some '$' := by rw [← htext]; cases m <;> rfl
  cases h with
  | ends hc =>
    rw [← htext] at hc
    cases m <;> cases hc
  | blanks hne _ hb =>
    obtain ⟨b, bs, rfl⟩ := List.exists_cons_of_ne_nil hne
    cases hhead
    cases hb
  | char hc =>
    rw [hends] at hc
    cases hc
  | quoted q | unclosedQuote q => cases q <;> cases hhead
  | block m' hc hd h =>
    obtain ⟨rfl, rfl⟩ := same htext
    rw [hbody] at hc
    cases hc
    exact ⟨_, _, rfl, hd, h⟩
  | unclosedBlock m' hc =>
    obtain ⟨rfl, rfl⟩ := same htext
    rw [hbody] at hc
    cases hc

/-- A quoted text in front of one text is in front of the other. -/
theorem of_quoted {q : Quote} {text us : List Char} (htext : takeQuoted q.toChar cs = some (text, us))
    (h : Relaid (q.toChar :: cs) ds) :
    ∃ ds' vs, ds = q.toChar :: ds' ∧ takeQuoted q.toChar ds' = some (text, vs) ∧ Relaid us vs := by
  have same {q' : Quote} (heq : q.toChar = q'.toChar) : q' = q := by
    cases q <;> cases q' <;> first | rfl | cases heq
  obtain ⟨hcs, hq⟩ := takeQuoted_eq_some htext
  generalize hwhole : q.toChar :: cs = whole at h
  cases h with
  | ends hc =>
    rw [← hwhole, Text.allBlank, List.all_cons, (toChar_plain q).1] at hc
    cases hc
  | blanks hne _ hb =>
    obtain ⟨b, bs, rfl⟩ := List.exists_cons_of_ne_nil hne
    obtain ⟨rfl, -⟩ := List.cons.inj hwhole
    rw [Text.allBlank, List.all_cons, (toChar_plain q).1] at hb
    cases hb
  | char hc =>
    rw [← hwhole, endsWord_quote] at hc
    cases hc
  | quoted q' ht h =>
    obtain ⟨heq, hrest⟩ := List.cons.inj hwhole
    cases same heq
    rw [hrest, takeQuoted_of_not_mem ht] at htext
    cases htext
    exact ⟨_, _, rfl, takeQuoted_of_not_mem ht, h⟩
  | block m | unclosedBlock m =>
    obtain ⟨more, hm⟩ := m.chars_eq_cons
    rw [hm] at hwhole
    exact absurd (List.cons.inj hwhole).1 (toChar_plain q).2.1
  | unclosedQuote q' hc =>
    obtain ⟨heq, rfl⟩ := List.cons.inj hwhole
    cases same heq
    rw [hcs] at hc
    exact absurd (List.mem_append_right text List.mem_cons_self) hc

/-- Blanks start both texts or neither. Behind them the texts go on alike, unless they are blank to the
end. -/
theorem blanks_cases (h : Relaid cs ds) :
    Text.allBlank cs = true ∧ Text.allBlank ds = true ∨
    cs.takeWhile Text.isBlank ≠ [] ∧ ds.takeWhile Text.isBlank ≠ [] ∧
      Relaid (cs.dropWhile Text.isBlank) (ds.dropWhile Text.isBlank) ∨
    cs.takeWhile Text.isBlank = [] ∧ ds.takeWhile Text.isBlank = [] := by
  induction h with
  | ends hc hd => exact .inl ⟨hc, hd⟩
  | @blanks bs bs' cs ds hne hne' hb hb' h ih =>
    have hall := List.all_eq_true.1 hb
    have hall' := List.all_eq_true.1 hb'
    rw [List.takeWhile_append_of_pos hall, List.takeWhile_append_of_pos hall',
      List.dropWhile_append_of_pos hall, List.dropWhile_append_of_pos hall']
    rcases ih with ⟨hc, hd⟩ | ⟨-, -, hdrop⟩ | ⟨hc, hd⟩
    · simp only [Text.allBlank, List.all_append, Bool.and_eq_true] at *
      exact .inl ⟨⟨hb, hc⟩, hb', hd⟩
    · exact .inr (.inl ⟨by simp [hne], by simp [hne'], hdrop⟩)
    · -- the blanks that were cut off are all there are
      have whole {us : List Char} (hu : us.takeWhile Text.isBlank = []) :
          us.dropWhile Text.isBlank = us := by
        simpa [hu] using List.takeWhile_append_dropWhile (p := Text.isBlank) (l := us)
      rw [whole hc, whole hd]
      exact .inr (.inl ⟨by simp [hne], by simp [hne'], h⟩)
  | char hc =>
    simp only [endsWord, Bool.or_eq_false_iff] at hc
    exact .inr (.inr (by simp [hc.1.1]))
  | quoted q | unclosedQuote q => exact .inr (.inr (by simp [(toChar_plain q).1]))
  | block m | unclosedBlock m => exact .inr (.inr (by cases m <;> exact ⟨rfl, rfl⟩))

/-! ## Words -/

/-- The bare word in front is the same. -/
theorem takeWord (h : Relaid cs ds) : ∃ word us vs, Lexer.takeWord cs = (word, us) ∧
    Lexer.takeWord ds = (word, vs) ∧ Relaid us vs := by
  have stop {us vs : List Char} (hu : endsWord us = true) (hv : endsWord vs = true)
      (h : Relaid us vs) : ∃ word us' vs', Lexer.takeWord us = (word, us') ∧
        Lexer.takeWord vs = (word, vs') ∧ Relaid us' vs' := by
    have hnil {ws : List Char} (hw : endsWord ws = true) : Lexer.takeWord ws = ([], ws) := by
      unfold Lexer.takeWord
      exact takeUntil_append (.inr hw) fun u v huv hv => absurd (List.append_eq_nil_iff.1 huv.symm).2 hv
    exact ⟨[], us, vs, hnil hu, hnil hv, h⟩
  induction h with
  | ends hc hd => exact stop (endsWord_of_allBlank hc) (endsWord_of_allBlank hd) (.ends hc hd)
  | blanks hne hne' hb hb' h =>
    exact stop (endsWord_blanks hne hb _) (endsWord_blanks hne' hb' _) (.blanks hne hne' hb hb' h)
  | @char c cs ds hc hd h ih =>
    obtain ⟨word, us, vs, hu, hv, hrest⟩ := ih
    unfold Lexer.takeWord at hu hv ⊢
    refine ⟨c :: word, us, vs, ?_, ?_, hrest⟩
    · rw [takeUntil, hc, hu]
      rfl
    · rw [takeUntil, hd, hv]
      rfl
  | quoted q ht h => exact stop (endsWord_quote q _) (endsWord_quote q _) (.quoted q ht h)
  | block m hc hd h => exact stop (endsWord_chars m _) (endsWord_chars m _) (.block m hc hd h)
  | unclosedQuote q hc hd =>
    exact stop (endsWord_quote q _) (endsWord_quote q _) (.unclosedQuote q hc hd)
  | unclosedBlock m hc hd =>
    exact stop (endsWord_chars m _) (endsWord_chars m _) (.unclosedBlock m hc hd)

/-- The word behind blanks is the same, so what is made of it is alike where nothing is made of an empty
word. -/
theorem bind_takeNextWord? {α : Type} {r : α → α → Prop} (h : Relaid cs ds)
    {f : List Char × List Char × List Char → Option α} (hnil : ∀ bs rest, f (bs, [], rest) = none)
    (hf : ∀ bs bs' word {us vs}, Relaid us vs → Option.Rel r (f (bs, word, us)) (f (bs', word, vs))) :
    Option.Rel r ((takeNextWord? cs).bind f) ((takeNextWord? ds).bind f) := by
  rcases h.blanks_cases with ⟨hc, hd⟩ | ⟨hc, hd, hdrop⟩ | ⟨hc, hd⟩
  · -- up to the end there are only blanks
    have none {us : List Char} (hu : Text.allBlank us = true) : (takeNextWord? us).bind f = none := by
      have hdrop := List.dropWhile_eq_nil_iff.2 (List.all_eq_true.1 hu)
      rcases takeNextWord?_of_blank hdrop with hn | ⟨bs, hn⟩ <;> rw [hn]
      · rfl
      · exact hnil bs []
    rw [none hc, none hd]
    exact .none
  · obtain ⟨word, us, vs, hu, hv, hrest⟩ := hdrop.takeWord
    have next {us : List Char} (hu : us.takeWhile Text.isBlank ≠ []) {rest : List Char}
        (hw : Lexer.takeWord (us.dropWhile Text.isBlank) = (word, rest)) :
        takeNextWord? us = some (us.takeWhile Text.isBlank, word, rest) := by
      simp [takeNextWord?, hw, hu]
    rw [next hc hu, next hd hv]
    exact hf _ _ word hrest
  · -- nothing stands between a word and what is not blank
    have none {us : List Char} (hu : us.takeWhile Text.isBlank = []) : takeNextWord? us = none := by
      simp [takeNextWord?, hu]
    rw [none hc, none hd]
    exact .none

theorem takeWith? (h : Relaid cs ds) :
    Option.Rel (fun p p' => Relaid p.2 p'.2) (Lexer.takeWith? cs) (Lexer.takeWith? ds) := by
  refine h.bind_takeNextWord? (fun bs rest => rfl) fun bs bs' word us vs hrest => ?_
  dsimp only
  split
  · exact .some hrest
  · exact .none

theorem takeNegated? (h : Relaid cs ds) :
    Option.Rel (fun p p' => p.1 = p'.1 ∧ Relaid p.2.2 p'.2.2) (Lexer.takeNegated? cs)
      (Lexer.takeNegated? ds) := by
  refine h.bind_takeNextWord? (fun bs rest => rfl) fun bs bs' word us vs hrest => ?_
  dsimp only
  cases edge? word with
  | some c =>
    have hwith := hrest.takeWith?
    generalize Lexer.takeWith? us = x at hwith ⊢
    generalize Lexer.takeWith? vs = y at hwith ⊢
    cases hwith with
    | some h => exact .some ⟨rfl, h⟩
    | none => exact .none
  | none =>
    cases Comparison.ofKeyword? (String.ofList word) with
    | some c => exact .some ⟨rfl, hrest⟩
    | none => exact .none

/-- A word is the same token, and takes up the same words, if there are blanks between them. -/
theorem classifyWord (word : List Char) (h : Relaid cs ds) :
    ∃ k text text' us vs,
      Lexer.classifyWord word cs = (k, text, us) ∧ Lexer.classifyWord word ds = (k, text', vs) ∧
        (k = .literal → text = text') ∧ Relaid us vs := by
  have hnegated := h.takeNegated?
  have hwith := h.takeWith?
  unfold Lexer.classifyWord
  generalize Lexer.takeNegated? cs = x at hnegated ⊢
  generalize Lexer.takeNegated? ds = y at hnegated ⊢
  generalize Lexer.takeWith? cs = z at hwith ⊢
  generalize Lexer.takeWith? ds = w at hwith ⊢
  by_cases hand : word = "and".toList
  · simp only [if_pos hand]
    exact ⟨_, _, _, _, _, rfl, rfl, fun _ => rfl, h⟩
  by_cases hor : word = "or".toList
  · simp only [if_neg hand, if_pos hor]
    exact ⟨_, _, _, _, _, rfl, rfl, fun _ => rfl, h⟩
  by_cases hnot : word = "not".toList
  · simp only [if_neg hand, if_neg hor, if_pos hnot]
    cases hnegated with
    | @some p p' hrest =>
      obtain ⟨c, tail, us⟩ := p
      obtain ⟨c', tail', vs⟩ := p'
      obtain ⟨rfl, hrest⟩ := hrest
      exact ⟨_, _, _, _, _, rfl, rfl, nofun, hrest⟩
    | none => exact ⟨_, _, _, _, _, rfl, rfl, fun _ => rfl, h⟩
  simp only [if_neg hand, if_neg hor, if_neg hnot]
  cases edge? word with
  | some c =>
    cases hwith with
    | some hrest => exact ⟨_, _, _, _, _, rfl, rfl, nofun, hrest⟩
    | none => exact ⟨_, _, _, _, _, rfl, rfl, fun _ => rfl, h⟩
  | none =>
    dsimp only
    split <;> exact ⟨_, _, _, _, _, rfl, rfl, fun _ => rfl, h⟩

/-! ## Symbols -/

theorem afterStart? : ∀ {symbol cs ds : List Char},
    (∀ c ∈ symbol, Text.isBlank c = false ∧ quote? c = none ∧ c ≠ '$') → Relaid cs ds →
    Option.Rel Relaid (Text.afterStart? symbol cs) (Text.afterStart? symbol ds)
  | [], _, _, _, h => .some h
  | c :: symbol, cs, ds, hsymbol, h => by
    obtain ⟨hblank, hquote, hdollar⟩ := hsymbol c List.mem_cons_self
    have none {us : List Char} (hu : ∀ vs, us ≠ c :: vs) :
        Text.afterStart? (c :: symbol) us = none := by
      cases us with
      | nil => rfl
      | cons d us =>
        rw [Text.afterStart?, if_neg]
        rintro rfl
        exact hu us rfl
    by_cases hc : ∃ us, cs = c :: us
    · obtain ⟨us, rfl⟩ := hc
      obtain ⟨vs, rfl, hrest⟩ := h.cons_plain hblank hquote hdollar
      rw [Text.afterStart?, Text.afterStart?, if_pos rfl, if_pos rfl]
      exact afterStart? (fun d hd => hsymbol d (List.mem_cons_of_mem c hd)) hrest
    · have hd : ¬ ∃ vs, ds = c :: vs := by
        rintro ⟨vs, rfl⟩
        obtain ⟨us, rfl, -⟩ := h.symm.cons_plain hblank hquote hdollar
        exact hc ⟨us, rfl⟩
      rw [none (not_exists.1 hc), none (not_exists.1 hd)]
      exact .none

theorem takeSymbol? (h : Relaid cs ds) :
    Option.Rel (fun p p' => p.1 = p'.1 ∧ p.2.1 = p'.2.1 ∧ Relaid p.2.2 p'.2.2)
      (Lexer.takeSymbol? cs) (Lexer.takeSymbol? ds) := by
  have hplain : ∀ entry ∈ symbols, ∀ c ∈ entry.1.toList,
      Text.isBlank c = false ∧ quote? c = none ∧ c ≠ '$' := by
    simp [symbols, Text.isBlank, quote?]
  unfold Lexer.takeSymbol?
  generalize symbols = entries at hplain ⊢
  induction entries with
  | nil => exact .none
  | cons entry entries ih =>
    have hstart := h.afterStart? (hplain entry List.mem_cons_self)
    rw [List.findSome?_cons, List.findSome?_cons]
    dsimp only
    generalize Text.afterStart? entry.1.toList cs = x at hstart ⊢
    generalize Text.afterStart? entry.1.toList ds = y at hstart ⊢
    cases hstart with
    | some hrest => exact .some ⟨rfl, rfl, hrest⟩
    | none => exact ih fun e he => hplain e (List.mem_cons_of_mem entry he)

end Relaid

/-! ## Tokens -/

/-- Two tokens of one kind, with one text where it is not blank or an operator. -/
structure Token.Relaid (t t' : Token) : Prop where
  kind : t'.kind = t.kind
  text : t.kind.isPlaceholder = true ∨ t.kind.isText = true → t'.text = t.text

/-- Two lexers of predicates that have texts left which differ in blanks only. -/
structure Lexer.Relaid (l l' : Lexer) : Prop where
  mode : l.mode = .predicate
  mode' : l'.mode = .predicate
  peeked : l.peeked = none
  peeked' : l'.peeked = none
  after : l'.afterPlaceholder = l.afterPlaceholder
  rest : RouteExpr.Relaid l.rest l'.rest

namespace Lexer.Relaid

variable {l l' m : Lexer} {t : Token}

theorem symm (h : l.Relaid l') : l'.Relaid l :=
  ⟨h.mode', h.mode, h.peeked', h.peeked, h.after.symm, h.rest.symm⟩

/-- A suffix stands behind both or neither. -/
theorem suffix (h : l.Relaid l') {s : Step} (hs : l.suffix? = some s) :
    l'.suffix? = some s ∧ l'.rest.take 2 = l.rest.take 2 ∧
      RouteExpr.Relaid (l.rest.drop 2) (l'.rest.drop 2) := by
  obtain ⟨c, us, hrest, hsign⟩ := suffix?_eq_cons hs
  obtain ⟨hblank, hquote, hdollar⟩ : Text.isBlank c = false ∧ quote? c = none ∧ c ≠ '$' := by
    rcases hsign with rfl | rfl <;> exact ⟨rfl, rfl, by decide⟩
  have hrelaid := h.rest
  rw [hrest] at hrelaid
  obtain ⟨vs, hvs, hrelaid₁⟩ := hrelaid.cons_plain hblank hquote hdollar
  obtain ⟨ws, rfl, hrelaid₂⟩ := hrelaid₁.cons_plain hblank hquote hdollar
  have htake : l'.rest.take 2 = l.rest.take 2 := by rw [hvs, hrest]; rfl
  refine ⟨?_, htake, ?_⟩
  · unfold suffix? at hs ⊢
    rw [h.mode', h.after, htake, ← h.mode, hs]
  · rw [hvs, hrest]
    exact hrelaid₂

theorem no_suffix (h : l.Relaid l') (hs : l.suffix? = none) : l'.suffix? = none := by
  cases hs' : l'.suffix? with
  | none => rfl
  | some s =>
    rw [(h.symm.suffix hs').1] at hs
    cases hs

theorem emit (h : l.Relaid l') (k : Token.Kind) {text text' us vs : List Char}
    (hrest : RouteExpr.Relaid us vs) :
    (l.emit k text us).2.Relaid (l'.emit k text' vs).2 :=
  ⟨h.mode, h.mode', h.peeked, h.peeked', rfl, hrest⟩

/-- A run of blanks that does not go on to the end is cut off both texts. -/
theorem scan_blanks (h : l.Relaid l') (hne : Text.allBlank l.rest = false) (hsuffix : l.suffix? = none)
    {c : Char} {cs : List Char} (hrest : l.rest = c :: cs) (hblank : Text.isBlank c = true) :
    ∃ t' m', l'.scan = .ok (t', m') ∧ l.takeBlanks.1.Relaid t' ∧ l.takeBlanks.2.Relaid m' := by
  rcases h.rest.blanks_cases with ⟨hall, -⟩ | ⟨-, hblanks, hdrop⟩ | ⟨hnone, -⟩
  · rw [hne] at hall
    cases hall
  · obtain ⟨d, ds, hrest', hblank'⟩ : ∃ d ds, l'.rest = d :: ds ∧ Text.isBlank d = true := by
      cases hl : l'.rest with
      | nil =>
        rw [hl] at hblanks
        exact absurd rfl hblanks
      | cons d ds =>
        refine ⟨d, ds, rfl, ?_⟩
        by_contra hd
        rw [hl, List.takeWhile_cons_of_neg hd] at hblanks
        exact hblanks rfl
    have hscan := scan_of_blank h.mode' (h.no_suffix hsuffix) hrest' hblank'
    refine ⟨_, _, hscan, ⟨rfl, ?_⟩, h.emit _ hdrop⟩
    rintro (hk | hk) <;> cases hk
  · rw [hrest, List.takeWhile_cons_of_pos hblank] at hnone
    cases hnone

/-- A word, with the words after it that it is one operator with, is cut off both texts. -/
theorem scan_word (h : l.Relaid l') {k : Token.Kind} {text rest : List Char}
    (hword : endsWord l.rest = false) (hbrace : l.rest.head? ≠ some '\x7d')
    (hsuffix : l.suffix? = none) (ht : Lexer.takeSymbol? l.rest = none)
    (hw : Lexer.classifyWord (Lexer.takeWord l.rest).1 (Lexer.takeWord l.rest).2 = (k, text, rest)) :
    ∃ t' m', l'.scan = .ok (t', m') ∧ (l.emit k text rest).1.Relaid t' ∧
      (l.emit k text rest).2.Relaid m' := by
  obtain ⟨hword', hhead⟩ := h.rest.of_word hword
  have hsymbol := h.rest.takeSymbol?
  rw [ht] at hsymbol
  generalize hy : Lexer.takeSymbol? l'.rest = y at hsymbol
  cases hsymbol
  obtain ⟨word, us, vs, hu, hv, hrest⟩ := h.rest.takeWord
  obtain ⟨k', text₁, text₂, us', vs', hu', hv', htext, hrest'⟩ := hrest.classifyWord word
  rw [hu, hu'] at hw
  cases hw
  have hscan := scan_of_cuts (l := l') (.word h.mode' hword' (hhead ▸ hbrace) (h.no_suffix hsuffix) hy
    (by rw [hv, hv']))
  refine ⟨_, _, hscan, ⟨rfl, ?_⟩, h.emit _ hrest'⟩
  -- a word is a literal, a connective or an operator
  have hkind := (classifyWord_spec hu').2.2
  rintro hk
  rcases hkind with ⟨rfl, -⟩ | ⟨_, rfl⟩ | ⟨_, rfl⟩
  · exact (htext rfl).symm
  · rcases hk with hk | hk <;> cases hk
  · rcases hk with hk | hk <;> cases hk

/-- A step cuts the same token off both texts, unless they are blank to the end. -/
theorem scan (h : l.Relaid l') (hne : Text.allBlank l.rest = false) (hs : l.scan = .ok (t, m)) :
    ∃ t' m', l'.scan = .ok (t', m') ∧ t.Relaid t' ∧ m.Relaid m' := by
  have hrelaid := h.rest
  generalize hr : (t, m) = r at hs
  cases cuts_of_scan hs with
  | eof hnil =>
    rw [hnil] at hne
    cases hne
  | suffix hsuffix =>
    cases hr
    obtain ⟨hsuffix', htake, hrest⟩ := h.suffix hsuffix
    exact ⟨_, _, scan_of_cuts (.suffix hsuffix'), ⟨rfl, fun _ => htake⟩, h.emit _ hrest⟩
  | @block mark body rest hsuffix hmark hbody =>
    cases hr
    rw [markerAt?_eq_some hmark] at hrelaid
    obtain ⟨vs, rest', hvs, hbody', hrest⟩ := hrelaid.of_block hbody
    refine ⟨_, _, scan_of_cuts (.block (h.no_suffix hsuffix) ?_ ?_), ⟨rfl, fun _ => rfl⟩,
      h.emit _ hrest⟩
    · rw [hvs, markerAt?_chars]
    · rw [hvs, List.drop_left, hbody']
  | @blanks c cs _ hrest hsuffix hblank =>
    cases hr
    exact h.scan_blanks hne hsuffix hrest hblank
  | @quoted q cs text rest _ hrest hsuffix ht =>
    cases hr
    rw [hrest] at hrelaid
    obtain ⟨ds, vs, hds, ht', hrest⟩ := hrelaid.of_quoted ht
    exact ⟨_, _, scan_of_cuts (.quoted (.inl h.mode') hds (h.no_suffix hsuffix) ht'),
      ⟨rfl, fun _ => rfl⟩, h.emit _ hrest⟩
  | brace _ hsuffix hrest =>
    cases hr
    rw [hrest] at hrelaid
    obtain ⟨ds, hds, hrest⟩ := hrelaid.cons_plain rfl rfl (by decide)
    exact ⟨_, _, scan_of_cuts (.brace h.mode' (h.no_suffix hsuffix) hds), ⟨rfl, fun _ => rfl⟩,
      h.emit _ hrest⟩
  | @symbol k text rest _ hword hbrace hsuffix ht =>
    cases hr
    obtain ⟨hword', hhead⟩ := hrelaid.of_word hword
    have hsymbol := hrelaid.takeSymbol?
    rw [ht] at hsymbol
    generalize hy : Lexer.takeSymbol? l'.rest = y at hsymbol
    cases hsymbol with
    | @some _ p hp =>
      obtain ⟨k', text', vs⟩ := p
      obtain ⟨rfl, rfl, hrest⟩ := hp
      exact ⟨_, _, scan_of_cuts (.symbol h.mode' hword' (hhead ▸ hbrace) (h.no_suffix hsuffix) hy),
        ⟨rfl, fun _ => rfl⟩, h.emit _ hrest⟩
  | @word k text rest _ hword hbrace hsuffix ht hw =>
    cases hr
    exact h.scan_word hword hbrace hsuffix ht hw
  | text hmode | openParen hmode | closeParen hmode | comma hmode | plain hmode =>
    rw [h.mode] at hmode
    cases hmode

end Lexer.Relaid

/-! ## All tokens -/

/-- Two runs of tokens of texts that differ in blanks only. -/
inductive Lexed.Relaid : Lexed → Lexed → Prop
  | ends {l l' : Lexed} {offset offset' : Nat} (h : l.skipBlanks = .ok (.eof offset))
    (h' : l'.skipBlanks = .ok (.eof offset')) : Relaid l l'
  | fault (f f' : Fault) : Relaid (.fault f) (.fault f')
  | token {t t' : Token} {rest rest' : Lexed} (ht : t.Relaid t') (h : Relaid rest rest') :
    Relaid (.token t rest) (.token t' rest')

namespace Lexer

variable {l l' : Lexer}

/-- Of blanks up to the end there is nothing left past blanks. -/
theorem skipBlanks_lexed (hm : l.mode = .predicate) (hp : l.peeked = none)
    (hb : Text.allBlank l.rest = true) : ∃ offset, l.lexed.skipBlanks = .ok (.eof offset) := by
  cases hr : l.rest with
  | nil => exact ⟨l.position, by rw [lexed_of_nil hp hr]; rfl⟩
  | cons c cs =>
    rw [hr] at hb
    have hc : Text.isBlank c = true := List.all_eq_true.1 hb c List.mem_cons_self
    have hsuffix : l.suffix? = none := by
      cases hs : l.suffix? with
      | none => rfl
      | some s =>
        have hsigns := (suffix?_eq_some hs).2.2
        rw [hr] at hsigns
        rcases hsigns with h | h <;> (cases (List.cons.inj h).1; cases hc)
    have hnil : l.takeBlanks.2.rest = [] := by
      show l.rest.dropWhile Text.isBlank = []
      rw [hr]
      exact List.dropWhile_eq_nil_iff.2 (List.all_eq_true.1 hb)
    have hrest : l.takeBlanks.2.lexed = .eof l.takeBlanks.2.position := lexed_of_nil hp hnil
    have hlexed : l.lexed = .token l.takeBlanks.1 l.takeBlanks.2.lexed :=
      lexed_of_scan hp (scan_of_blank hm hsuffix hr hc) nofun
    refine ⟨l.takeBlanks.2.position, ?_⟩
    rw [hlexed, hrest]
    rfl

/-- Texts that differ in blanks only have the same tokens. -/
theorem Relaid.lexed {l l' : Lexer} (h : l.Relaid l') : l.lexed.Relaid l'.lexed := by
  by_cases hb : Text.allBlank l.rest = true
  · obtain ⟨offset, hl⟩ := skipBlanks_lexed h.mode h.peeked hb
    obtain ⟨offset', hl'⟩ := skipBlanks_lexed h.mode' h.peeked' (h.rest.allBlank hb)
    exact .ends hl hl'
  rw [Bool.not_eq_true] at hb
  have hb' : Text.allBlank l'.rest = false := by
    by_contra hb'
    rw [h.rest.symm.allBlank (by simpa using hb')] at hb
    cases hb
  rcases hs : l.scan with f | ⟨t, m⟩
  · rcases hs' : l'.scan with f' | ⟨t', m'⟩
    · rw [lexed_of_error h.peeked hs, lexed_of_error h.peeked' hs']
      exact .fault f f'
    · obtain ⟨_, _, hs₂, -⟩ := h.symm.scan hb' hs'
      rw [hs] at hs₂
      cases hs₂
  · obtain ⟨t', m', hs', ht, hm⟩ := h.scan hb hs
    have hk : t.kind ≠ .eof := by
      intro hk
      rw [(scan_takes hs).eof.1 hk] at hb
      cases hb
    have hlength := (scan_takes hs).length_lt hk
    rw [lexed_of_scan h.peeked hs hk, lexed_of_scan h.peeked' hs' (ht.kind ▸ hk)]
    exact .token ht hm.lexed
  termination_by l.rest.length

end Lexer

end RouteExpr
