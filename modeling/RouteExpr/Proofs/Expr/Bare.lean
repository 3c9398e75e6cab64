/-
The tokens of a text inside a call are read as the parts of the text as a template.

Inside a call, text falls into more tokens than in a template: blanks, parentheses and commas are
tokens of their own. But blocks are the same tokens, and what stands between two blocks is the same
text however it was cut, as long as it has no quotes. Suffixes are no tokens inside a call, so the
text has none.
-/
import RouteExpr.Proofs.Expr.Arguments
import RouteExpr.Proofs.Expr.Template

namespace RouteExpr

open Lexer Token

namespace Lexer

variable {l l' m n : Lexer} {t : Token} {ts us : List Token}

/-! ## Runs of a lexer -/

theorem TakesAll.append (h : l.TakesAll ts m) (h' : m.TakesAll us n) : l.TakesAll (ts ++ us) n := by
  induction h with
  | nil l => exact h'
  | cons h ht _ ih => exact .cons h ht (ih h')

theorem takesAll_singleton (hp : l.peeked = none) (h : l.scan = .ok (t, m)) (ht : t.kind ≠ .eof) :
    l.TakesAll [t] m :=
  .cons (by rwa [next_eq_scan hp]) ht (.nil m)

/-- What is left before a run is what its tokens were cut from and what is left behind it, and ends at
the same offset. -/
theorem TakesAll.rest_eq (h : l.TakesAll ts m) (hp : l.peeked = none) :
    l.rest = raws ts ++ m.rest ∧
      m.position + m.rest.length = l.position + l.rest.length := by
  induction h with
  | nil l => exact ⟨rfl, rfl⟩
  | cons h _ _ ih =>
    rw [next_eq_scan hp] at h
    have htakes := scan_takes h
    obtain ⟨hrest, hend⟩ := ih (htakes.peeked.trans hp)
    refine ⟨?_, hend.trans htakes.position_add⟩
    rw [htakes.rest, hrest, raws_cons, List.append_assoc]

theorem TakesAll.toTokens (h : l.TakesAll ts m) (hp : l.peeked = none) :
    l.lexed.toTokens = m.lexed.toTokens.map (ts ++ ·) := by
  induction h with
  | nil l => cases l.lexed.toTokens <;> rfl
  | cons h ht _ ih =>
    rw [next_eq_scan hp] at h
    rw [lexed_of_scan hp h ht, Lexed.toTokens, ih ((scan_takes h).peeked.trans hp)]
    cases Lexed.toTokens _ <;> rfl

/-- A token of blanks was cut from blanks. -/
theorem raw_of_scan_blank (h : l.scan = .ok (t, m)) (ht : t.isBlank = true) :
    ∀ c ∈ t.raw, Text.isBlank c = true := by
  have hk : t.kind = .blank := of_decide_eq_true ht
  rw [raw_of_isPlain (by rw [isPlain, hk]), (scan_blank h hk).1]
  exact fun c hc => List.mem_takeWhile_imp hc

/-- No token of a run is without characters, and those of blanks were cut from blanks. -/
theorem TakesAll.raw (h : l.TakesAll ts m) (hp : l.peeked = none) :
    ∀ t ∈ ts, t.raw ≠ [] ∧ (t.isBlank = true → ∀ c ∈ t.raw, Text.isBlank c = true) := by
  induction h with
  | nil l => nofun
  | cons h ht _ ih =>
    rw [next_eq_scan hp] at h
    have htakes := scan_takes h
    refine List.forall_mem_cons.2 ⟨⟨?_, raw_of_scan_blank h⟩, ih (htakes.peeked.trans hp)⟩
    exact htakes.raw_ne_nil fun hnil => ht (htakes.eof.2 hnil)

/-- Where what is taken starts with no blank, so does the first token. -/
theorem TakesAll.head (h : l.TakesAll ts m) (hp : l.peeked = none)
    (hhead : ∀ c ∈ (raws ts).head?, Text.isBlank c = false) :
    ∀ t ∈ ts.head?, t.isBlank = false := by
  intro t ht
  obtain ⟨ts, rfl⟩ := List.head?_eq_some_iff.1 ht
  obtain ⟨hne, hblank⟩ := h.raw hp t List.mem_cons_self
  obtain ⟨c, cs, hraw⟩ := List.exists_cons_of_ne_nil hne
  by_contra hb
  have hc := hblank (by simpa using hb) c (by rw [hraw]; exact List.mem_cons_self)
  rw [hhead c (by rw [raws_cons, hraw]; rfl)] at hc
  cases hc

/-- Where what is taken ends with no blank, so does the last token. -/
theorem TakesAll.last (h : l.TakesAll ts m) (hp : l.peeked = none)
    (hlast : ∀ c ∈ (raws ts).getLast?, Text.isBlank c = false) :
    ∀ t ∈ ts.getLast?, t.isBlank = false := by
  intro t ht
  obtain ⟨ts, rfl⟩ := List.getLast?_eq_some_iff.1 ht
  obtain ⟨hne, hblank⟩ := h.raw hp t (by simp)
  obtain ⟨cs, c, hraw⟩ := (List.eq_nil_or_concat' t.raw).resolve_left hne
  by_contra hb
  have hc := hblank (by simpa using hb) c (by rw [hraw]; simp)
  rw [hlast c (by rw [raws_append, raws_cons, hraw]; simp)] at hc
  cases hc

variable {cs rest : List Char} {d : Nat}

/-! ## Inside a call -/

/-- A lexer inside a placeholder, where `d` parentheses are open and `rest` is left. -/
structure Inside (l : Lexer) (d : Nat) (rest : List Char) : Prop where
  mode : l.mode = .function
  peeked : l.peeked = none
  depth : l.depth = d
  rest : l.rest = rest

/-- A lexer takes tokens inside a placeholder, and then `d` parentheses are open and `rest` is
left. -/
def TakesTo (l : Lexer) (ts : List Token) (d : Nat) (rest : List Char) : Prop :=
  ∃ m, l.TakesAll ts m ∧ m.Inside d rest

theorem Inside.nil (h : l.Inside d rest) : l.TakesTo [] d rest :=
  ⟨l, .nil l, h⟩

/-- One token is taken and the depth is that behind it. -/
theorem Inside.take {k : Token.Kind} {text rest' : List Char} {e : Nat} (h : l.Inside d rest)
    (hc : l.Cuts ({ l with depth := e }.emit k text rest')) (hk : k ≠ .eof) :
    l.TakesTo [⟨k, text, l.position⟩] e rest' :=
  ⟨_, takesAll_singleton h.peeked (scan_of_cuts hc) hk, h.mode, h.peeked, rfl, rfl⟩

/-! ## Text -/

/-- What ends a text inside the parentheses of a call: plain text ends there, and blanks at its end do
not go on. -/
structure Ends (cs rest : List Char) : Prop where
  ends : ∀ d, endsPlain (d + 1) rest = true
  blank : ∀ u c v e, cs = u ++ [c] → rest = e :: v → Text.isBlank c = true → Text.isBlank e = false

theorem Ends.of_append {u v : List Char} (h : Ends (u ++ v) rest) : Ends v rest :=
  ⟨h.ends, fun a c b e hv => h.blank (u ++ a) c b e (by rw [hv, List.append_assoc])⟩

/-- Where a text is cut that ends before `rest`, it is cut before `rest`. -/
theorem takeUntil_within {stop : List Char → Bool} (hrest : stop rest = true) : ∀ cs : List Char,
    ∃ u v, cs = u ++ v ∧ takeUntil stop (cs ++ rest) = (u, v ++ rest)
  | [] => by
    refine ⟨[], [], rfl, ?_⟩
    cases rest with
    | nil => rfl
    | cons c rest => rw [List.nil_append, takeUntil, if_pos hrest]
  | c :: cs => by
    obtain ⟨u, v, hcs, htake⟩ := takeUntil_within hrest cs
    rw [List.cons_append, takeUntil]
    split
    · exact ⟨[], c :: cs, rfl, rfl⟩
    · exact ⟨c :: u, v, by rw [hcs, List.cons_append], by rw [htake]⟩

theorem blanks_within (hne : cs ≠ []) (hrest : Ends cs rest) :
    (cs ++ rest).takeWhile Text.isBlank = cs.takeWhile Text.isBlank ∧
      (cs ++ rest).dropWhile Text.isBlank = cs.dropWhile Text.isBlank ++ rest := by
  by_cases hblank : cs.dropWhile Text.isBlank = []
  · -- the last character is blank, so the first behind it is not
    have hall := List.dropWhile_eq_nil_iff.1 hblank
    have hstop := no_blanks fun e he => by
      obtain ⟨v, hv⟩ := List.head?_eq_some_iff.1 he
      have hlast := List.dropLast_append_getLast hne
      exact hrest.blank _ _ v e hlast.symm hv (hall _ (List.getLast_mem hne))
    obtain ⟨htake, hdrop⟩ := blanks_append_of_blank rest hblank
    rw [htake, hdrop, hstop.1, hstop.2, hblank, List.append_nil, List.takeWhile_eq_self_iff.2 hall]
    simp
  · exact blanks_append rest hblank

/-- Blanks in front of what is no blank are taken as blanks. -/
theorem Inside.blanks (h : l.Inside d (cs ++ rest)) (hcs : ∀ c ∈ cs, Text.isBlank c = true)
    (hrest : ∀ c ∈ rest.head?, Text.isBlank c = false) :
    ∃ ts, l.TakesTo ts d rest ∧ ∀ t ∈ ts, t.isBlank = true := by
  cases cs with
  | nil => exact ⟨[], h.nil, nofun⟩
  | cons c cs =>
    have hcut : l.Cuts l.takeBlanks := .blanks (by rw [h.mode]; decide) h.rest
      (suffix?_of_function h.mode) (hcs c List.mem_cons_self)
    have hstop := no_blanks hrest
    rw [takeBlanks, h.rest, List.takeWhile_append_of_pos hcs, List.dropWhile_append_of_pos hcs,
      hstop.1, hstop.2, List.append_nil] at hcut
    have := h.take (e := l.depth) hcut (by simp)
    rw [h.depth] at this
    exact ⟨_, this, by simp [Token.isBlank]⟩

open RouteExpr.Expr (Nests depthPast)

/-- The first token of a text without quotes and markers ends within the text, and the depth behind it
is that of the text. -/
theorem Inside.text_step {k : Nat} {w : List Char} (h : l.Inside (k + 1) (cs ++ rest)) (hne : cs ≠ [])
    (hrest : Ends cs rest) (hq : ∀ c ∈ cs, quote? c = none)
    (hmark : ∀ u v, cs = u ++ v → v ≠ [] → startsMarker (v ++ rest) = false)
    (hw : Enclosed k (cs ++ w)) :
    ∃ t u v, cs = u ++ v ∧ u ≠ [] ∧ l.TakesTo [t] (depthPast k t.kind + 1) (v ++ rest) ∧
      t.isPlain = true ∧ (t.kind = .closeParen ∨ t.kind = .comma → 0 < k) ∧
      Enclosed (depthPast k t.kind) (v ++ w) := by
  obtain ⟨c, cs, rfl⟩ := List.exists_cons_of_ne_nil hne
  have hr : l.rest = c :: (cs ++ rest) := h.rest
  by_cases hblank : Text.isBlank c = true
  · -- a run of blanks
    obtain ⟨htake, hdrop⟩ := blanks_within hne hrest
    have hsplit := List.takeWhile_append_dropWhile (p := Text.isBlank) (l := c :: cs)
    refine ⟨⟨.blank, (c :: cs).takeWhile Text.isBlank, l.position⟩, _, _, hsplit.symm, ?_, ?_, rfl,
      by simp, ?_⟩
    · rw [List.takeWhile_cons_of_pos hblank]
      simp
    · have hcut : l.Cuts l.takeBlanks := .blanks (by rw [h.mode]; decide) hr
        (suffix?_of_function h.mode) hblank
      rw [takeBlanks, h.rest, htake, hdrop] at hcut
      have := h.take (e := l.depth) hcut (by simp)
      rwa [h.depth] at this
    · refine Enclosed.of_append (u := (c :: cs).takeWhile Text.isBlank) ?_ fun d hd => ?_
      · rwa [← List.append_assoc, hsplit]
      · have hd := List.mem_takeWhile_imp hd
        constructor <;> (rintro rfl; cases hd)
  by_cases hopen : c = '('
  · subst hopen
    refine ⟨⟨.openParen, ['('], l.position⟩, ['('], cs, rfl, by simp, ?_, rfl, by simp, hw.openParen⟩
    have := h.take (.openParen h.mode hr) (by simp)
    rwa [h.depth] at this
  by_cases hclose : c = ')'
  · subst hclose
    obtain ⟨j, rfl, hj⟩ := hw.closeParen
    refine ⟨⟨.closeParen, [')'], l.position⟩, [')'], cs, rfl, by simp, ?_, rfl, by simp, hj⟩
    have := h.take (.closeParen h.mode hr) (by simp)
    rwa [h.depth] at this
  by_cases hcomma : c = ','
  · subst hcomma
    refine ⟨⟨.comma, [','], l.position⟩, [','], cs, rfl, by simp, ?_, rfl, fun _ => hw.comma, ?_⟩
    · have := h.take (e := l.depth) (.comma h.mode hr) (by simp)
      rwa [h.depth] at this
    · exact Enclosed.of_append (u := [',']) hw (by simp)
  · -- plain text up to what ends it
    have hplain : endsPlain l.depth l.rest = false := by
      have hm := hmark [] (c :: cs) rfl (by simp)
      have hq := hq c List.mem_cons_self
      rw [hr]
      rw [List.cons_append] at hm
      simp [endsPlain, hblank, hopen, hclose, hcomma, hq, hm]
    have hcut := h.take (e := l.depth) (.plain h.mode hplain) (by simp)
    have hcutoff := takeUntil_cut (by rw [hr]; simp) hplain
    have hspec := (takeUntil_spec (endsPlain l.depth) l.rest).2.2
    obtain ⟨u, v, huv, htake⟩ := takeUntil_within (hrest.ends k) (c :: cs)
    rw [← h.depth, ← h.rest] at htake
    rw [htake] at hcut hcutoff hspec
    rw [h.depth] at hcut
    refine ⟨⟨.literal, u, l.position⟩, u, v, huv, hcutoff.2, hcut, rfl, by simp, ?_⟩
    refine Enclosed.of_append (u := u) ?_ fun d hd => ?_
    · rwa [← List.append_assoc, ← huv]
    · obtain ⟨a, b, hab⟩ := List.append_of_mem hd
      have := hspec a (d :: b) hab (by simp)
      constructor <;> (rintro rfl; simp [endsPlain] at this)

/-- Text without quotes and markers is taken whole, in whatever tokens. -/
theorem Inside.text {k : Nat} {w : List Char} (h : l.Inside (k + 1) (cs ++ rest))
    (hrest : Ends cs rest) (hq : ∀ c ∈ cs, quote? c = none)
    (hmark : ∀ u v, cs = u ++ v → v ≠ [] → startsMarker (v ++ rest) = false)
    (hw : Enclosed k (cs ++ w)) :
    ∃ ts j, l.TakesTo ts (j + 1) rest ∧ Nests k ts j ∧ Enclosed j w ∧
      ∀ t ∈ ts, t.isPlain = true := by
  induction hn : cs.length using Nat.strong_induction_on generalizing cs l k with
  | _ n ih =>
    subst hn
    by_cases hne : cs = []
    · subst hne
      exact ⟨[], k, h.nil, .nil k, hw, nofun⟩
    obtain ⟨t, u, v, rfl, hu, ⟨m, hm, hin⟩, hplain, hclose, hv⟩ := h.text_step hne hrest hq hmark hw
    have hlt : v.length < (u ++ v).length := by
      have := List.length_pos_iff.2 hu
      rw [List.length_append]
      omega
    obtain ⟨ts, j, ⟨m', hts, hin'⟩, hnests, hj, hall⟩ := ih _ hlt hin hrest.of_append
      (fun c hc => hq c (List.mem_append_right _ hc))
      (fun a b hab => hmark (u ++ a) b (by rw [hab, List.append_assoc])) hv rfl
    exact ⟨t :: ts, j, ⟨m', hm.append hts, hin'⟩, .cons hclose hnests, hj,
      List.forall_mem_cons.2 ⟨hplain, hall⟩⟩

end Lexer

/-! ## Suffixes -/

/-- A suffix is two signs, and stands right behind a block. -/
theorem Lexer.suffix_follows {s : Step} {t : Token} {after : List Token} : ∀ {l : Lexer}
    {before : List Token}, l.mode ≠ .predicate → l.peeked = none →
    l.lexed.tokens = before ++ t :: after → t.kind = .suffix s → (t.raw = ['+', '+'] ∨ t.raw = ['-', '-']) ∧
      (before = [] ∧ l.afterPlaceholder = true ∨
        ∃ front u, before = front ++ [u] ∧ u.kind.isPlaceholder = true)
  | l, before, hm, hp, heq, ht => by
    rcases hl : l.lexed with offset | f | ⟨u, rest⟩
    · rw [hl] at heq; simp [Lexed.tokens] at heq
    · rw [hl] at heq; simp [Lexed.tokens] at heq
    · obtain ⟨l', hs, rfl, heof⟩ := scan_of_lexed_token hp hl
      have htakes := scan_takes hs
      have hlt := htakes.length_lt heof
      rw [hl, Lexed.tokens] at heq
      cases before with
      | nil =>
        obtain ⟨rfl, -⟩ := List.cons.inj heq
        obtain ⟨s', hsuffix, hraw⟩ : ∃ s', l.suffix? = some s' ∧ u.raw = l.rest.take 2 := by
          generalize hr : (u, l') = r at hs
          cases cuts_of_scan hs with
          | suffix hsuffix => cases hr; exact ⟨_, hsuffix, raw_of_isPlain rfl⟩
          | symbol hmode | word hmode => exact absurd hmode hm
          | _ => cases hr; cases ht
        obtain ⟨hafter, -, hsigns⟩ := suffix?_eq_some hsuffix
        rw [hraw]
        exact ⟨hsigns, .inl ⟨rfl, hafter⟩⟩
      | cons v before =>
        obtain ⟨rfl, hrest⟩ := List.cons.inj heq
        obtain ⟨hsigns, hbefore⟩ := suffix_follows (by rw [htakes.mode]; exact hm)
          (htakes.peeked.trans hp) hrest ht
        refine ⟨hsigns, .inr ?_⟩
        rcases hbefore with ⟨rfl, hafter⟩ | ⟨front, w, rfl, hw⟩
        · exact ⟨[], u, rfl, by rw [← htakes.after, hafter]⟩
        · exact ⟨u :: front, w, rfl, hw⟩
  termination_by l => l.rest.length

/-! ## Texts with blocks -/

/-- The characters of tokens outside of blocks. -/
def Token.outside (ts : List Token) : List Char :=
  raws (ts.filter fun t => !t.kind.isPlaceholder)

namespace Expr

variable {block : ReadBlock}

theorem segmentParts_append_text {ts us : List Token} (hne : ts ≠ [])
    (hts : ∀ t ∈ ts, t.isPlain = true) :
    segmentParts block (ts ++ us) = (segmentParts block us).map (prependText (raws ts)) := by
  induction ts with
  | nil => exact absurd rfl hne
  | cons t ts ih =>
    have ht := (isPlain_iff.1 (hts t List.mem_cons_self)).1
    rw [List.cons_append, segmentParts_text ht]
    cases ts with
    | nil => simp
    | cons u ts =>
      rw [ih (by simp) fun v hv => hts v (List.mem_cons_of_mem _ hv), raws_cons t]
      cases segmentParts block us with
      | error f => rfl
      | ok parts => exact congrArg Except.ok (prependText_append _ _ _).symm

end Expr

/-- Where no token is a suffix, none is taken. -/
theorem Lexed.takeSuffix_of_none {l : Lexed} {us : List Token} (h : l.toTokens = .ok us)
    (hsuffix : ∀ t ∈ us, ∀ s, t.kind ≠ .suffix s) : l.takeSuffix = (none, l) := by
  rcases l with offset | f | ⟨t, rest⟩
  · rfl
  · rfl
  · obtain ⟨us, -, rfl⟩ := map_eq_ok h
    exact Lexed.takeSuffix_token (hsuffix t List.mem_cons_self)

namespace Lexer

open RouteExpr.Expr

/-- Text of a template goes on up to a marker or the end. -/
theorem scan_literal {l l' : Lexer} {t : Token} (hm : l.mode = .template)
    (h : l.scan = .ok (t, l')) (ht : t.kind = .literal) :
    l'.rest = [] ∨ startsMarker l'.rest = true := by
  generalize hr : (t, l') = r at h
  cases cuts_of_scan h with
  | text =>
    cases hr
    by_cases hnil : (takeUntil startsMarker l.rest).2 = []
    · exact .inl hnil
    · exact .inr ((takeUntil_spec startsMarker l.rest).2.1 hnil)
  | eof | suffix | block => cases hr; cases ht
  | _ => simp_all

/-- What a template has left that can stand bare in a call where `k` parentheses are open besides
that of the call: it has no suffix, does not end with a blank, and outside of its blocks no quotes, and
its parentheses are closed. -/
structure Bare (k : Nat) (l : Lexer) (us : List Token) : Prop where
  mode : l.mode = .template
  peeked : l.peeked = none
  tokens : l.lexed.toTokens = .ok us
  unstepped : ∀ t ∈ us, ∀ s, t.kind ≠ .suffix s
  unquoted : ∀ c ∈ outside us, quote? c = none
  enclosed : Enclosed k (outside us)
  last : ∀ c ∈ l.rest.getLast?, Text.isBlank c = false

/-- What follows an argument: it ends plain text, and no marker goes on in it. -/
structure EndsArgument (rest : List Char) : Prop where
  ends : ∀ d, endsPlain (d + 1) rest = true
  apart : ∀ cs, startsMarker (cs ++ rest) = startsMarker cs

variable {l₀ l l' : Lexer} {t : Token} {us : List Token} {rest : List Char} {j k : Nat}

theorem outside_literal (ht : t.kind = .literal) : outside (t :: us) = t.raw ++ outside us := by
  rw [outside, List.filter_cons_of_pos (by rw [ht]; rfl), raws_cons]
  rfl

theorem outside_placeholder {m : Marker} (ht : t.kind = .placeholder m) :
    outside (t :: us) = outside us := by
  rw [outside, List.filter_cons_of_neg (by rw [ht]; simp [Kind.isPlaceholder])]
  rfl

/-- Behind a token a template has left what can stand bare there. -/
theorem Bare.next (h : l.Bare k (t :: us)) (hs : l.scan = .ok (t, l'))
    (hout : ∀ c ∈ outside us, c ∈ outside (t :: us)) (hj : Enclosed j (outside us)) :
    l'.Bare j us := by
  have htakes := scan_takes hs
  obtain ⟨m, hm, -, hus, -⟩ := scan_of_toTokens_cons h.peeked h.tokens
  rw [hs] at hm
  cases hm
  refine ⟨htakes.mode.trans h.mode, htakes.peeked.trans h.peeked, hus,
    fun u hu => h.unstepped u (List.mem_cons_of_mem _ hu), fun c hc => h.unquoted c (hout c hc), hj,
    fun c hc => h.last c ?_⟩
  rw [htakes.rest, List.getLast?_append, Option.mem_def.1 hc]
  rfl

/-- Text of a template is taken in whatever tokens. -/
theorem Bare.text_step (h : l₀.Bare k (t :: us)) (hrest : EndsArgument rest)
    (hs : l₀.scan = .ok (t, l')) (ht : t.kind = .literal) (hin : l.Inside (k + 1) (l₀.rest ++ rest)) :
    ∃ ts j, l.TakesTo ts (j + 1) (l'.rest ++ rest) ∧ Nests k ts j ∧ Enclosed j (outside us) ∧
      (∀ u ∈ ts, u.isPlain = true) ∧ raws ts = t.raw := by
  have htakes := scan_takes hs
  have hplain : t.isPlain = true := by rw [Token.isPlain, ht]
  rw [htakes.rest, List.append_assoc] at hin
  have hout : outside (t :: us) = t.raw ++ outside us := outside_literal ht
  have hends : Ends t.raw (l'.rest ++ rest) := by
    rcases scan_literal h.mode hs ht with hnil | hmark
    · rw [hnil]
      refine ⟨hrest.ends, fun u c v e hc _ hblank => ?_⟩
      have := h.last c (by rw [htakes.rest, hnil, hc]; simp)
      rw [this] at hblank
      cases hblank
    · obtain ⟨r, hr⟩ := startsMarker_eq_cons hmark
      refine ⟨fun d => ?_, fun u c v e _ he _ => ?_⟩
      · have := startsMarker_append rest hmark
        rw [hr, List.cons_append] at this ⊢
        simp [endsPlain, this]
      · rw [hr] at he
        cases he
        rfl
  obtain ⟨ts, j, hts, hnests, hj, hall⟩ := hin.text hends
    (fun c hc => h.unquoted c (by rw [hout]; exact List.mem_append_left _ hc))
    (fun a b hab hb => by
      rw [← List.append_assoc, hrest.apart]
      exact scan_separate (by rw [h.mode]; decide) hs hplain a b hab hb) (hout ▸ h.enclosed)
  refine ⟨ts, j, hts, hnests, hj, hall, ?_⟩
  obtain ⟨m, hm, hin'⟩ := hts
  have := (hm.rest_eq hin.peeked).1
  rw [hin.rest, hin'.rest] at this
  exact (List.append_cancel_right this).symm

/-- A block is the same token inside a call as in a template. -/
theorem Inside.block {m : Marker} (hin : l.Inside (k + 1) (l₀.rest ++ rest))
    (hs : l₀.scan = .ok (t, l')) (ht : t.kind = .placeholder m) (hpos : l.position = l₀.position) :
    l.TakesTo [t] (k + 1) (l'.rest ++ rest) := by
  have htakes := scan_takes hs
  have hr : l.rest = m.chars ++ (t.text ++ '\x7d' :: (l'.rest ++ rest)) := by
    rw [hin.rest, htakes.rest, Token.raw, ht]
    simp [Token.Kind.opening, Token.Kind.closing]
  have hb := takeBlock_append rest (takeBlock_of_scan hs ht)
  rw [List.append_assoc, List.cons_append] at hb
  have hscan := scan_block (suffix?_of_function hin.mode) hr hb
  have hcut := hin.take (e := l.depth) (cuts_of_scan hscan) (by simp)
  have htok : t = ⟨.placeholder m, t.text, l.position⟩ := by
    rw [hpos, ← htakes.start, ← ht]
  rwa [hin.depth, ← htok] at hcut

/-- Inside a call the tokens of what can stand bare have the parentheses outside of its blocks, and are
read as the parts of the template. -/
theorem Bare.read (h : l₀.Bare k us) (hrest : EndsArgument rest)
    (hin : l.Inside (k + 1) (l₀.rest ++ rest)) (hpos : l.position = l₀.position) :
    ∃ ts, l.TakesTo ts 1 rest ∧ Nests k ts 0 ∧ (∀ t ∈ ts, ∀ q, t.kind ≠ .quoted q) ∧
      ∀ block, segmentParts block ts = templateParts block l₀.lexed := by
  induction us generalizing l₀ l k with
  | nil =>
    have hnil := rest_of_toTokens_nil h.peeked h.tokens
    have hzero : k = 0 := h.enclosed.even.symm
    subst hzero
    rw [hnil] at hin
    exact ⟨[], hin.nil, .nil 0, nofun, fun block => by rw [lexed_of_nil h.peeked hnil]; rfl⟩
  | cons t us ih =>
    obtain ⟨l', hs, hlex, -, hne⟩ := scan_of_toTokens_cons h.peeked h.tokens
    have htakes := scan_takes hs
    have position {ts : List Token} {m : Lexer} {d : Nat} (hm : l.TakesAll ts m)
        (hin' : m.Inside d (l'.rest ++ rest)) : m.position = l'.position := by
      have hend := htakes.position_add
      have := (hm.rest_eq hin.peeked).2
      rw [hin'.rest, hin.rest, List.length_append, List.length_append] at this
      omega
    rcases scan_template h.mode hne hs with ⟨s, hk⟩ | ht | ⟨m, ht, -⟩
    · exact absurd hk (h.unstepped t List.mem_cons_self s)
    · obtain ⟨ts, j, ⟨m, hm, hin'⟩, hnests, hj, hplain, hraws⟩ := h.text_step hrest hs ht hin
      have hnext : l'.Bare j us := h.next hs
        (fun c hc => by rw [outside_literal ht]; exact List.mem_append_right _ hc) hj
      obtain ⟨ts', ⟨n, hn, hin''⟩, hnests', hq, hread⟩ := ih hnext hin' (position hm hin')
      have hts : ts ≠ [] := by
        rintro rfl
        exact htakes.raw_ne_nil hne hraws.symm
      refine ⟨ts ++ ts', ⟨n, hm.append hn, hin''⟩, hnests.append hnests', ?_, fun block => ?_⟩
      · intro u hu
        rcases List.mem_append.1 hu with hu | hu
        · exact (isPlain_iff.1 (hplain u hu)).2
        · exact hq u hu
      · rw [segmentParts_append_text hts hplain, hraws, hread, hlex,
          templateParts_text (by rw [ht]; rfl)]
    · obtain ⟨m', hm, hin'⟩ := hin.block hs ht hpos
      have hnext : l'.Bare k us := h.next hs (fun c hc => by rwa [outside_placeholder ht])
        (outside_placeholder ht ▸ h.enclosed)
      obtain ⟨ts, ⟨n, hn, hin''⟩, hnests, hq, hread⟩ := ih hnext hin' (position hm hin')
      refine ⟨t :: ts, ⟨n, hm.append hn, hin''⟩, .cons (by rw [ht]; simp) ?_, ?_, fun block => ?_⟩
      · rw [ht]
        exact hnests
      · exact List.forall_mem_cons.2 ⟨fun q hk => (by rw [ht] at hk; cases hk), hq⟩
      · rw [segmentParts_placeholder ht, hread, hlex, templateParts_placeholder ht,
          Lexed.takeSuffix_of_none hnext.tokens hnext.unstepped]
        rfl

end Lexer

end RouteExpr
