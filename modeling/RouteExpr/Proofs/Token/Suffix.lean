/-
Where suffixes stand among the tokens of a region.

A lexer remembers whether its last token was a placeholder and nothing else of what it took. So a suffix
stands right behind a placeholder, where two signs of one kind follow it, and nowhere else; inside
placeholders there is none. Of a run of signs behind a placeholder two are the suffix, if there are two,
and the others are plain text.
-/
import RouteExpr.Proofs.Result
import RouteExpr.Proofs.Token.Word

namespace RouteExpr

/-! ## Signs -/

namespace Step

/-- The character that is written twice for a step. -/
def sign : Step → Char
  | .increment => '+'
  | .decrement => '-'

theorem ofSymbol?_eq_some_iff {cs : List Char} {s : Step} :
    Step.ofSymbol? (String.ofList cs) = some s ↔ cs = [s.sign, s.sign] := by
  constructor
  · intro h
    rcases Lexer.ofSymbol?_eq_some h with rfl | rfl <;> cases h <;> rfl
  · rintro rfl
    cases s <;> rfl

/-- Signs are among the characters of numerals, so they end no word and begin no symbol. -/
theorem isMark_sign (s : Step) : Numeral.IsMark s.sign := by
  cases s <;> decide

end Step

namespace Lexer

variable {l l' m : Lexer} {t u : Token} {front ts : List Token} {s : Step}

/-- A suffix is two signs of one kind behind a placeholder, outside of placeholders. -/
theorem suffix?_eq_some_iff : l.suffix? = some s ↔
    l.mode ≠ .function ∧ l.afterPlaceholder = true ∧ l.rest.take 2 = [s.sign, s.sign] := by
  unfold suffix?
  split
  · rename_i h
    simp only [ne_eq, Bool.and_eq_true, decide_eq_true_eq] at h
    rw [Step.ofSymbol?_eq_some_iff]
    exact ⟨fun hs => ⟨h.2, h.1, hs⟩, fun hs => hs.2.2⟩
  · rename_i h
    simp only [ne_eq, Bool.and_eq_true, decide_eq_true_eq] at h
    exact ⟨nofun, fun hs => absurd ⟨hs.2.1, hs.1⟩ h⟩

/-! ## Lexers in a region -/

/-- A lexer somewhere in a region, with what is left of it from there on. -/
structure Within (mode : Mode) (offset : Nat) (region : List Char) (l : Lexer) : Prop where
  mode_eq : l.mode = mode
  peeked : l.peeked = none
  le : offset ≤ l.position
  rest : l.rest = region.drop (l.position - offset)

variable {mode : Mode} {offset : Nat} {region : List Char}

theorem within_start (mode : Mode) (offset : Nat) (region : List Char) :
    Within mode offset region (Lexer.start mode offset region) :=
  ⟨rfl, rfl, Nat.le_refl _, by simp [Lexer.start]⟩

theorem Takes.within (h : l.Takes t l') (hl : Within mode offset region l) :
    Within mode offset region l' := by
  have hle := hl.le
  have hposition : l'.position = l.position + t.raw.length := by
    rw [h.position, Token.stop, h.start, Token.length]
  refine ⟨h.mode.trans hl.mode_eq, h.peeked.trans hl.peeked, by omega, ?_⟩
  have hdrop : l'.position - offset = l.position - offset + t.raw.length := by omega
  rw [hdrop, ← List.drop_drop, ← hl.rest, h.rest, List.drop_left]

theorem TakesAll.within (h : l.TakesAll ts m) (hl : Within mode offset region l) :
    Within mode offset region m := by
  induction h with
  | nil => exact hl
  | cons hnext _ _ ih =>
    rw [next_eq_scan hl.peeked] at hnext
    exact ih ((scan_takes hnext).within hl)

/-- Behind tokens a lexer knows where the last one ended and whether that was a placeholder. -/
theorem TakesAll.last_token (h : l.TakesAll ts m) (hp : l.peeked = none) : (ts = [] ∧ m = l) ∨
    ∃ t, ts.getLast? = some t ∧ m.afterPlaceholder = t.kind.isPlaceholder ∧ m.position = t.stop := by
  induction h with
  | nil l => exact .inl ⟨rfl, rfl⟩
  | @cons l l' m t ts hnext _ _ ih =>
    rw [next_eq_scan hp] at hnext
    have htakes := scan_takes hnext
    refine .inr ?_
    rcases ih (htakes.peeked.trans hp) with ⟨rfl, rfl⟩ | ⟨v, hv, hafter⟩
    · exact ⟨t, rfl, htakes.after, htakes.position⟩
    · refine ⟨v, ?_, hafter⟩
      rw [List.getLast?_cons, hv]
      rfl

/-- The first of the tokens is the next one, and unless that is the end, the others are those behind it. -/
theorem exists_scan_of_toTokensEof (hp : l.peeked = none) (h : l.lexed.toTokensEof = .ok (t :: ts)) :
    ∃ l', l.scan = .ok (t, l') ∧ (t.kind = .eof → ts = []) ∧
      (t.kind ≠ .eof → l'.lexed.toTokensEof = .ok ts) := by
  rw [lexed_eq hp] at h
  rcases hs : l.scan with f | ⟨u, l'⟩ <;> rw [hs] at h
  · cases h
  · dsimp only at h
    split at h
    · rename_i hu
      obtain ⟨rfl, -, -⟩ := scan_eof hs hu
      cases h
      exact ⟨l', rfl, fun _ => rfl, fun hne => absurd rfl hne⟩
    · rename_i hu
      obtain ⟨us, hus, heq⟩ := map_eq_ok h
      cases heq
      exact ⟨l', rfl, fun heof => absurd heof hu, fun _ => hus⟩

/-- A token that a region is cut into is taken by a lexer behind the tokens before it. -/
theorem exists_takesAll_of_toTokensEof (hl : Within mode offset region l)
    (h : l.lexed.toTokensEof = .ok (front ++ t :: ts)) :
    ∃ m m', l.TakesAll front m ∧ Within mode offset region m ∧ m.scan = .ok (t, m') ∧
      Within mode offset region m' ∧ (t.kind ≠ .eof → m'.lexed.toTokensEof = .ok ts) := by
  induction front generalizing l with
  | nil =>
    obtain ⟨l', hs, -, hts⟩ := exists_scan_of_toTokensEof hl.peeked h
    exact ⟨l, l', .nil l, hl, hs, (scan_takes hs).within hl, hts⟩
  | cons v front ih =>
    obtain ⟨l', hs, hlast, hts⟩ := exists_scan_of_toTokensEof hl.peeked h
    have hv : v.kind ≠ .eof := fun hv => by simpa using hlast hv
    obtain ⟨m, m', hall, hrest⟩ := ih ((scan_takes hs).within hl) (hts hv)
    exact ⟨m, m', .cons (by rwa [next_eq_scan hl.peeked]) hv hall, hrest⟩

/-- Among the tokens of a region a suffix is the one behind a placeholder that two signs of one kind
follow, and inside placeholders none is. -/
theorem isSuffix_iff (h : (Lexed.of mode offset region).toTokensEof = .ok (front ++ u :: ts)) :
    u.kind = .suffix s ↔ mode ≠ .function ∧ ∃ t, front.getLast? = some t ∧
      t.kind.isPlaceholder = true ∧ (region.drop (t.stop - offset)).take 2 = [s.sign, s.sign] := by
  obtain ⟨m, m', hall, hm, hs, -, -⟩ := exists_takesAll_of_toTokensEof (within_start mode offset region) h
  rw [scan_suffix_iff hs, suffix?_eq_some_iff, hm.mode_eq]
  rcases hall.last_token rfl with ⟨rfl, rfl⟩ | ⟨t, ht, hafter, hposition⟩
  · constructor
    · rintro ⟨-, hafter, -⟩
      cases hafter
    · rintro ⟨-, t, ht, -⟩
      cases ht
  · rw [hafter, hm.rest, hposition]
    constructor
    · rintro ⟨hmode, hblock, hsigns⟩
      exact ⟨hmode, t, ht, hblock, hsigns⟩
    · rintro ⟨hmode, t', ht', hblock, hsigns⟩
      cases ht.symm.trans ht'
      exact ⟨hmode, hblock, hsigns⟩

/-! ## Runs of signs -/

/-- The suffix that a run of `k` signs behind a placeholder starts with. -/
def stepOf (s : Step) (k : Nat) : Option Step :=
  if 2 ≤ k then some s else none

/-- How many signs of a run behind a placeholder are left behind the suffix. -/
def signsLeft (k : Nat) : Nat :=
  if 2 ≤ k then k - 2 else k

theorem takeUntil_replicate {stop : List Char → Bool} {c : Char} (hc : ∀ cs, stop (c :: cs) = false)
    (n : Nat) (cs : List Char) :
    takeUntil stop (List.replicate n c ++ cs) =
      (List.replicate n c ++ (takeUntil stop cs).1, (takeUntil stop cs).2) := by
  induction n with
  | zero => rfl
  | succ n ih =>
    rw [List.replicate_succ, List.cons_append, takeUntil, if_neg (by simp [hc]), ih]
    rfl

/-- No word of the language starts with a sign. -/
theorem classifyWord_sign (s : Step) (word rest : List Char) :
    classifyWord (s.sign :: word) rest = (.literal, s.sign :: word, rest) := by
  have hwords : ∀ w ∈ languageWords, s.sign ∉ w := by
    cases s <;> decide
  refine classifyWord_of_not_mem (fun hw => hwords _ hw List.mem_cons_self) (fun hnot => ?_) rest
  cases s <;> cases hnot

/-- Where no suffix stands, signs start plain text. -/
theorem scan_signs {n : Nat} {cs : List Char} (hmode : l.mode ≠ .function) (hs : l.suffix? = none)
    (hr : l.rest = List.replicate (n + 1) s.sign ++ cs) :
    ∃ text rest, l.scan = .ok (l.emit .literal (List.replicate (n + 1) s.sign ++ text) rest) := by
  obtain ⟨⟨hblank, hquote, hdollar, hbrace⟩, hsymbol⟩ := isMark_plain s.isMark_sign
  have hmarker (cs : List Char) : startsMarker (s.sign :: cs) = false := startsMarker_cons_of_ne hdollar
  have hword (cs : List Char) : endsWord (s.sign :: cs) = false := by
    simp [endsWord, hblank, hquote, hmarker]
  have hcons : l.rest = s.sign :: (List.replicate n s.sign ++ cs) := hr
  cases hm : l.mode with
  | function => exact absurd hm hmode
  | template =>
    have hscan := scan_of_cuts (.text hm (by rw [hcons]; simp) hs (markerAt?_eq_none (hcons ▸ hmarker _)))
    rw [hr, takeUntil_replicate hmarker] at hscan
    exact ⟨_, _, hscan⟩
  | predicate =>
    have htake : takeWord l.rest =
        (List.replicate (n + 1) s.sign ++ (takeUntil endsWord cs).1, (takeUntil endsWord cs).2) := by
      rw [takeWord, hr, takeUntil_replicate hword]
    have hclass : classifyWord (takeWord l.rest).1 (takeWord l.rest).2 =
        (.literal, List.replicate (n + 1) s.sign ++ (takeUntil endsWord cs).1, (takeUntil endsWord cs).2) := by
      rw [htake]
      exact classifyWord_sign s _ _
    exact ⟨_, _, scan_of_cuts (.word hm (hcons ▸ hword _) (by simpa [hcons] using hbrace) hs
      (hcons ▸ takeSymbol?_eq_none hsymbol) hclass)⟩

/-- A block that is a token of a region, with a run of `k` signs behind it and `post` behind the run. -/
structure SignsBehind (offset : Nat) (region : List Char) (t : Token) (s : Step) (k : Nat)
    (post : List Char) : Prop where
  block : t.kind.isPlaceholder = true
  run : region.drop (t.stop - offset) = List.replicate k s.sign ++ post
  ends : post.head? ≠ some s.sign
  /-- Where the run is empty, none of the other kind stands there instead. -/
  empty : k = 0 → ∀ s' : Step, post.take 2 ≠ [s'.sign, s'.sign]

/-- Behind a placeholder, signs are a suffix if there are two. -/
theorem SignsBehind.suffix? {k : Nat} {post : List Char} (h : SignsBehind offset region t s k post)
    (hscan : l.scan = .ok (t, l')) (hl : Within mode offset region l') (hmode : mode ≠ .function) :
    l'.rest = List.replicate k s.sign ++ post ∧ l'.suffix? = stepOf s k := by
  have htakes := scan_takes hscan
  have hr : l'.rest = List.replicate k s.sign ++ post := by rw [hl.rest, htakes.position, h.run]
  refine ⟨hr, ?_⟩
  unfold stepOf
  split
  · rename_i hk
    obtain ⟨n, rfl⟩ := Nat.exists_eq_add_of_le hk
    refine suffix?_eq_some_iff.2 ⟨hl.mode_eq ▸ hmode, htakes.after.trans h.block, ?_⟩
    rw [hr, Nat.add_comm, List.replicate_succ, List.replicate_succ]
    rfl
  · rename_i hk
    refine Option.eq_none_iff_forall_ne_some.2 fun s' hs' => ?_
    obtain ⟨-, -, hsigns⟩ := suffix?_eq_some_iff.1 hs'
    rw [hr] at hsigns
    match k, hk with
    | 0, _ => exact h.empty rfl s' hsigns
    | 1, _ =>
      -- the sign behind the only one would be of the same kind
      obtain ⟨hsign, htail⟩ := List.cons.inj hsigns
      obtain ⟨c, cs, rfl⟩ := List.exists_cons_of_ne_nil (l := post) (by rintro rfl; cases htail)
      refine h.ends ?_
      rw [List.head?_cons, hsign]
      exact congrArg some (List.cons.inj htail).1
    | k + 2, hk => omega

/-- Tokens that start with no suffix and, where `j` signs are in front, with plain text that starts with
these. -/
structure StartsPlain (s : Step) (j : Nat) (ts : List Token) : Prop where
  not_suffix : ∀ u ∈ ts.head?, ∀ s', u.kind ≠ .suffix s'
  signs : 0 < j → ∃ u ∈ ts.head?, u.kind = .literal ∧ List.replicate j s.sign <+: u.text

theorem startsPlain_of_signs {j : Nat} {post : List Char} (hl : Within mode offset region l)
    (hmode : mode ≠ .function) (hs : l.suffix? = none) (hr : l.rest = List.replicate j s.sign ++ post)
    (h : l.lexed.toTokensEof = .ok ts) : StartsPlain s j ts := by
  constructor
  · intro u hu s' hk
    obtain ⟨us, rfl⟩ := List.head?_eq_some_iff.1 hu
    obtain ⟨l', hscan, -, -⟩ := exists_scan_of_toTokensEof hl.peeked h
    rw [(scan_suffix_iff hscan).1 hk] at hs
    cases hs
  · intro hj
    obtain ⟨n, rfl⟩ := Nat.exists_eq_add_of_lt hj
    rw [Nat.zero_add] at hr ⊢
    obtain ⟨text, rest, hscan⟩ := scan_signs (hl.mode_eq ▸ hmode) hs hr
    rw [lexed_of_emit hl.peeked hscan (by simp)] at h
    obtain ⟨us, -, rfl⟩ := map_eq_ok h
    exact ⟨_, rfl, rfl, List.prefix_append _ _⟩

/-- The token of the suffix that a run of `k` signs starts with, at an offset. -/
def suffixOf (s : Step) (k start : Nat) : List Token :=
  if 2 ≤ k then [⟨.suffix s, [s.sign, s.sign], start⟩] else []

/-- Behind a block a run of signs is a suffix, if there are two, and plain text. -/
theorem SignsBehind.tokens {k : Nat} {post : List Char} (h : SignsBehind offset region t s k post)
    (hmode : mode ≠ .function)
    (htokens : (Lexed.of mode offset region).toTokensEof = .ok (front ++ t :: ts)) :
    ∃ more, ts = suffixOf s k t.stop ++ more ∧ StartsPlain s (signsLeft k) more := by
  obtain ⟨_, l, -, -, hscan, hl, hts⟩ :=
    exists_takesAll_of_toTokensEof (within_start mode offset region) htokens
  obtain ⟨hr, hs⟩ := h.suffix? hscan hl hmode
  have hts := hts fun heof => by
    have hblock := h.block
    rw [heof] at hblock
    cases hblock
  unfold suffixOf signsLeft
  unfold stepOf at hs
  split at hs
  · rename_i hk
    have hscan' := scan_of_cuts (.suffix hs)
    rw [lexed_of_emit hl.peeked hscan' (by simp)] at hts
    obtain ⟨more, hmore, rfl⟩ := map_eq_ok hts
    have hrest : l.rest.drop 2 = List.replicate (k - 2) s.sign ++ post := by
      rw [hr, List.drop_append_of_le_length (by simpa), List.drop_replicate]
    refine ⟨more, ?_, ?_⟩
    · rw [if_pos hk, (suffix?_eq_some_iff.1 hs).2.2, (scan_takes hscan).position]
      rfl
    · rw [if_pos hk]
      exact startsPlain_of_signs ((scan_takes hscan').within hl) hmode (suffix?_of_not_after rfl) hrest
        hmore
  · rename_i hk
    rw [if_neg hk, if_neg hk]
    exact ⟨ts, rfl, startsPlain_of_signs hl hmode hs hr hts⟩

end Lexer

end RouteExpr
