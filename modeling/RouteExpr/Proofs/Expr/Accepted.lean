/-
Which texts without quotes are expressions.

Where no text is quoted, nothing but a block makes reading fail: one that does not end, or one that holds
blanks alone, at whatever depth. Parentheses and commas decide what is a call and what its arguments
are, but every placeholder among the tokens of a block is read, in its name or in an argument, and every
other token is text.
-/
import RouteExpr.Proofs.Expr.Literals
import RouteExpr.Proofs.Token.Block

namespace RouteExpr

open Lexer

/-! ## Suffixes -/

theorem Lexed.exists_toTokens_takeSuffix (l : Lexed) :
    (∃ ts, l.takeSuffix.2.toTokens = .ok ts) ↔ ∃ ts, l.toTokens = .ok ts := by
  unfold takeSuffix
  split
  · exact exists_toTokens_token.symm
  · rfl

namespace Expr

variable {block : ReadBlock} {t : Token} {ts : List Token}

/-! ## Placeholders that are read -/

/-- Whether all placeholders among tokens are read. -/
def Readable (block : ReadBlock) (ts : List Token) : Prop :=
  ∀ t ∈ ts, t.kind.isPlaceholder = true → ∃ e, block t = .ok e

theorem readable_nil : Readable block [] :=
  nofun

theorem readable_cons : Readable block (t :: ts) ↔
    (t.kind.isPlaceholder = true → ∃ e, block t = .ok e) ∧ Readable block ts :=
  List.forall_mem_cons

theorem readable_cons_of_text (ht : t.kind.isPlaceholder = false) :
    Readable block (t :: ts) ↔ Readable block ts := by
  rw [readable_cons, ht]
  simp

theorem readable_append {us : List Token} :
    Readable block (ts ++ us) ↔ Readable block ts ∧ Readable block us :=
  List.forall_mem_append

theorem readable_of_blank (h : ∀ t ∈ ts, t.isBlank = true) : Readable block ts := by
  intro t ht hp
  rw [of_decide_eq_true (h t ht)] at hp
  cases hp

theorem readable_takeSuffix (l : Lexed) :
    Readable block l.takeSuffix.2.tokens ↔ Readable block l.tokens := by
  unfold Lexed.takeSuffix
  split
  · exact (readable_cons_of_text rfl).symm
  · rfl

/-! ## Templates and names -/

/-- A template is read where it is cut into tokens and its placeholders are read. -/
theorem exists_templateParts_iff : ∀ l : Lexed,
    (∃ parts, templateParts block l = .ok parts) ↔
      (∃ ts, l.toTokens = .ok ts) ∧ Readable block l.tokens
  | .eof _ => ⟨fun _ => ⟨⟨[], rfl⟩, readable_nil⟩, fun _ => ⟨[], rfl⟩⟩
  | .fault _ => by simp [templateParts, Lexed.toTokens]
  | .token t rest => by
    have hsize := rest.size_takeSuffix
    rw [Lexed.exists_toTokens_token, Lexed.tokens]
    cases ht : t.kind.isPlaceholder with
    | false =>
      rw [templateParts_text ht, exists_map_eq_ok, exists_templateParts_iff rest,
        readable_cons_of_text ht]
    | true =>
      obtain ⟨m, hm⟩ := isPlaceholder_iff.1 ht
      rw [templateParts_placeholder hm, exists_bind_eq_ok fun node _ => exists_map_eq_ok,
        exists_templateParts_iff, rest.exists_toTokens_takeSuffix, readable_takeSuffix, readable_cons, ht]
      tauto
  termination_by l => l.size
  decreasing_by all_goals simp only [Lexed.size]; omega

theorem exists_segmentParts_iff :
    (∃ parts, segmentParts block ts = .ok parts) ↔ Readable block ts := by
  induction ts with
  | nil => exact ⟨fun _ => readable_nil, fun _ => ⟨[], rfl⟩⟩
  | cons t ts ih =>
    cases ht : t.kind.isPlaceholder with
    | false => rw [segmentParts_text ht, exists_map_eq_ok, ih, readable_cons_of_text ht]
    | true =>
      obtain ⟨m, hm⟩ := isPlaceholder_iff.1 ht
      rw [segmentParts_placeholder hm, exists_bind_eq_ok fun node _ => exists_map_eq_ok, ih,
        readable_cons, ht]
      tauto

theorem exists_segment_iff : (∃ e, segment block ts = .ok e) ↔ Readable block ts := by
  obtain ⟨front, back, hts, hblank⟩ := trimTokens_split ts
  obtain ⟨hfront, hback⟩ := List.forall_mem_append.1 hblank
  unfold segment
  rw [exists_map_eq_ok, exists_segmentParts_iff]
  conv_rhs => rw [hts, readable_append, readable_append]
  exact ⟨fun h => ⟨⟨readable_of_blank hfront, h⟩, readable_of_blank hback⟩, fun h => h.1.2⟩

/-! ## Calls -/

/-- Every token but a comma is in an argument. -/
theorem mem_splitArguments (d : Nat) (ht : t ∈ ts) (hcomma : t.kind ≠ .comma) :
    ∃ arg ∈ splitArguments d ts, t ∈ arg := by
  induction ts generalizing d with
  | nil => cases ht
  | cons u ts ih =>
    rw [splitArguments_cons]
    split
    · rename_i hu
      rcases List.mem_cons.1 ht with rfl | ht
      · exact absurd hu.1 hcomma
      · obtain ⟨arg, harg, hmem⟩ := ih 0 ht
        exact ⟨arg, List.mem_cons_of_mem _ harg, hmem⟩
    · obtain ⟨first, rest, heq, -⟩ := splitArguments_isInfix (depthPast d u.kind) ts
      rw [heq]
      rcases List.mem_cons.1 ht with rfl | ht
      · exact ⟨t :: first, List.mem_cons_self, List.mem_cons_self⟩
      · obtain ⟨arg, harg, hmem⟩ := ih (depthPast d u.kind) ht
        rw [heq] at harg
        rcases List.mem_cons.1 harg with rfl | harg
        · exact ⟨u :: arg, List.mem_cons_self, List.mem_cons_of_mem _ hmem⟩
        · exact ⟨arg, List.mem_cons_of_mem _ harg, hmem⟩

theorem readable_splitArguments :
    (∀ arg ∈ splitArguments 0 ts, Readable block arg) ↔ Readable block ts := by
  constructor
  · intro h t ht hp
    obtain ⟨arg, harg, hmem⟩ := mem_splitArguments 0 ht (by rintro hk; rw [hk] at hp; cases hp)
    exact h arg harg t hmem hp
  · intro h arg harg t ht
    exact h t ((isInfix_of_mem_splitArguments harg).subset ht)

/-- An argument without a quoted text is read as a name is. -/
theorem argument_of_unquoted (hquote : ∀ t ∈ ts, ∀ q, t.kind ≠ .quoted q) :
    argument block ts = segment block ts := by
  refine argument_of_quotedWhole?_eq_none (Option.eq_none_iff_forall_not_mem.2 fun text h => ?_)
  obtain ⟨q, start, htrim⟩ := quotedWhole?_eq_some.1 h
  exact hquote _ ((trimTokens_isInfix ts).subset (by rw [htrim]; exact List.mem_singleton_self _)) q rfl

theorem exists_arguments_iff (hquote : ∀ t ∈ ts, ∀ q, t.kind ≠ .quoted q) :
    (∃ es, arguments block ts = .ok es) ↔ Readable block ts := by
  unfold arguments
  split
  · rename_i hblank
    exact ⟨fun _ => readable_of_blank (List.all_eq_true.1 hblank), fun _ => ⟨[], rfl⟩⟩
  · rw [exists_mapM_eq_ok, ← readable_splitArguments]
    refine forall₂_congr fun arg harg => ?_
    rw [argument_of_unquoted fun t ht =>
      hquote t ((isInfix_of_mem_splitArguments harg).subset ht), exists_segment_iff]

/-- Whether it is a call or a name, a block is read where its placeholders are read. -/
theorem exists_inside_iff (hquote : ∀ t ∈ ts, ∀ q, t.kind ≠ .quoted q) :
    (∃ e, inside block ts = .ok e) ↔ Readable block ts := by
  unfold inside
  split
  · rename_i name args hcall
    obtain ⟨o, c, rest, rfl, ho, hc, hrest⟩ := splitCall?_eq_some hcall
    rw [exists_bind_eq_ok fun n _ => exists_map_eq_ok, exists_segment_iff,
      exists_arguments_iff fun t ht => hquote t (by simp [ht]), readable_append,
      readable_cons_of_text (by rw [ho]; rfl), readable_append, readable_cons_of_text (by rw [hc]; rfl)]
    have hblank : Readable block rest := readable_of_blank hrest
    tauto
  · rw [exists_map_eq_ok, exists_segment_iff]

/-! ## Blocks -/

/-- Whether every block of a text, at whatever depth, holds more than blanks. -/
def BlocksHold (cs : List Char) : Prop :=
  ∀ body, HasBlock cs body → Text.allBlank body = false

/-- Where a placeholder of a region is read exactly if it and every block in it hold more than blanks, all
are exactly if every block of the region does. -/
theorem readable_iff_blocksHold {l : Lexer} (hm : l.mode ≠ .predicate) (hp : l.peeked = none)
    (hts : l.lexed.toTokens = .ok ts) (hquote : ∀ t ∈ ts, ∀ q, t.kind ≠ .quoted q)
    (hblock : ∀ t ∈ ts, HasBlock l.rest t.text →
      ((∃ e, block t = .ok e) ↔ Text.allBlank t.text = false ∧ BlocksHold t.text)) :
    Readable block ts ↔ BlocksHold l.rest := by
  have hhas {body : List Char} : HasBlock l.rest body ↔
      ∃ t ∈ ts, t.kind.isPlaceholder = true ∧ (t.text = body ∨ HasBlock t.text body) :=
    hasBlock_iff_tokens hm hp hts hquote
  constructor
  · intro h body hbody
    obtain ⟨t, ht, hplaceholder, hin⟩ := hhas.1 hbody
    obtain ⟨hholds, hblocks⟩ := (hblock t ht (hhas.2 ⟨t, ht, hplaceholder, .inl rfl⟩)).1
      (h t ht hplaceholder)
    rcases hin with rfl | hin
    · exact hholds
    · exact hblocks body hin
  · intro h t ht hplaceholder
    refine (hblock t ht (hhas.2 ⟨t, ht, hplaceholder, .inl rfl⟩)).2 ⟨?_, fun body hbody => ?_⟩
    · exact h _ (hhas.2 ⟨t, ht, hplaceholder, .inl rfl⟩)
    · exact h _ (hhas.2 ⟨t, ht, hplaceholder, .inr hbody⟩)

/-- Without quotes, a block is read if it holds more than blanks, and so does every block in it. -/
theorem exists_readBlockTo_iff {depth : Nat} (hdepth : t.text.length ≤ depth) (hclosed : Closed t.text)
    (hquote : ∀ c ∈ t.text, quote? c = none) :
    (∃ e, readBlockTo depth t = .ok e) ↔ Text.allBlank t.text = false ∧ BlocksHold t.text := by
  induction depth generalizing t with
  | zero =>
    rw [List.length_eq_zero_iff.1 (Nat.le_zero.1 hdepth)]
    exact iff_of_false (by rintro ⟨_, ⟨⟩⟩) (by rintro ⟨⟨⟩, -⟩)
  | succ depth ih =>
    rw [readBlockTo]
    split
    · rename_i hblank
      rw [hblank]
      exact iff_of_false (by rintro ⟨_, ⟨⟩⟩) (by rintro ⟨⟨⟩, -⟩)
    · rename_i hblank
      have hopen : ∃ ts, (Lexed.of .function t.textStart t.text).toTokens = .ok ts :=
        (exists_toTokens_iff (Lexer.start .function t.textStart t.text) (by simp [Lexer.start]) rfl
          hquote).2 hclosed.openAfter_eq
      have hread : ∀ ts, (Lexed.of .function t.textStart t.text).toTokens = .ok ts →
          ((∃ e, inside (readBlockTo depth) ts = .ok e) ↔ BlocksHold t.text) := by
        intro ts hts
        have hunquoted : ∀ u ∈ ts, (∀ q, u.kind ≠ .quoted q) ∧ ∀ c ∈ u.text, quote? c = none :=
          fun u hu => Lexed.unquoted (by decide) hquote (Lexed.tokens_of_toTokens hts ▸ hu)
        rw [exists_inside_iff fun u hu => (hunquoted u hu).1]
        refine readable_iff_blocksHold (l := Lexer.start .function t.textStart t.text)
          (by simp [Lexer.start]) rfl hts (fun u hu => (hunquoted u hu).1) fun u hu hblock => ?_
        have hlt : u.text.length < t.text.length := hblock.length_lt
        exact ih (by omega) hblock.closed (hunquoted u hu).2
      rw [exists_bind_eq_ok hread]
      exact ⟨fun h => ⟨by simpa using hblank, h.2⟩, fun h => ⟨hopen, h.2⟩⟩

/-- Without quotes, a text is read exactly if no block is left open and every block holds more than
blanks. -/
theorem exists_read_iff {cs : List Char} (hquote : ∀ c ∈ cs, quote? c = none) :
    (∃ e, read cs = .ok e) ↔ openAfter 0 cs = 0 ∧ BlocksHold cs := by
  have htokens := exists_toTokens_iff (Lexer.start .template 0 cs) (by simp [Lexer.start]) rfl hquote
  show (∃ e, template readBlock 0 cs = .ok e) ↔ _
  rw [template, exists_map_eq_ok, exists_templateParts_iff, Lexed.of_eq_lexed, htokens]
  refine and_congr_right fun hopen => ?_
  obtain ⟨ts, hts⟩ := htokens.2 hopen
  rw [Lexed.tokens_of_toTokens hts]
  have hunquoted : ∀ u ∈ ts, (∀ q, u.kind ≠ .quoted q) ∧ ∀ c ∈ u.text, quote? c = none :=
    fun u hu => Lexed.unquoted (by decide) hquote (Lexed.tokens_of_toTokens hts ▸ hu)
  exact readable_iff_blocksHold (by simp [Lexer.start]) rfl hts (fun u hu => (hunquoted u hu).1)
    fun u hu hblock => exists_readBlockTo_iff le_rfl hblock.closed (hunquoted u hu).2

/-! ## Parentheses and commas -/

/-- A letter for a parenthesis or a comma; any other character is itself. -/
def letterFor (c : Char) : Char :=
  if c ∈ ['(', ')', ','] then 'x' else c

theorem letterFor_eq_iff {c d : Char} (hd : d ∉ ['(', ')', ',', 'x']) : letterFor c = d ↔ c = d := by
  simp only [List.mem_cons, List.not_mem_nil, or_false, not_or] at hd
  unfold letterFor
  split
  · rename_i hc
    simp only [List.mem_cons, List.not_mem_nil, or_false] at hc
    constructor
    · rintro rfl
      exact absurd rfl hd.2.2.2
    · rintro rfl
      rcases hc with rfl | rfl | rfl
      · exact absurd rfl hd.1
      · exact absurd rfl hd.2.1
      · exact absurd rfl hd.2.2.1
  · rfl

theorem isBlank_letterFor (c : Char) : Text.isBlank (letterFor c) = Text.isBlank c := by
  unfold letterFor
  split
  · rename_i hc
    simp only [List.mem_cons, List.not_mem_nil, or_false] at hc
    rcases hc with rfl | rfl | rfl <;> rfl
  · rfl

theorem quote?_letterFor {c : Char} (h : quote? c = none) : quote? (letterFor c) = none := by
  unfold letterFor
  split
  · rfl
  · exact h

section Letters

variable {cs body : List Char}

theorem isPrefix_letters {p : List Char} (hp : ∀ c ∈ p, c ∉ ['(', ')', ',', 'x']) :
    p <+: cs.map letterFor ↔ p <+: cs := by
  induction p generalizing cs with
  | nil => simp
  | cons c p ih =>
    obtain ⟨hc, hp⟩ := List.forall_mem_cons.1 hp
    cases cs with
    | nil => simp
    | cons d cs =>
      rw [List.map_cons, List.cons_prefix_cons, List.cons_prefix_cons, ih hp, eq_comm,
        letterFor_eq_iff hc, eq_comm]

theorem startsMarker_letters : startsMarker (cs.map letterFor) = startsMarker cs := by
  rw [Bool.eq_iff_iff, startsMarker_iff, startsMarker_iff]
  refine exists_congr fun m => isPrefix_letters ?_
  cases m <;> simp [Marker.chars]

theorem brace_eq_letterFor_iff {c : Char} : letterFor c = '\x7d' ↔ c = '\x7d' :=
  letterFor_eq_iff (by decide)

theorem openAfter_letters (d : Nat) : openAfter d (cs.map letterFor) = openAfter d cs := by
  induction cs generalizing d with
  | nil => rfl
  | cons c cs ih =>
    have hs : startsMarker ((c :: cs).map letterFor) = startsMarker (c :: cs) := startsMarker_letters
    rw [List.map_cons] at hs ⊢
    rw [openAfter, openAfter, ih, hs]
    simp only [brace_eq_letterFor_iff]

theorem markers_letters : markers (cs.map letterFor) = markers cs := by
  induction cs with
  | nil => rfl
  | cons c cs ih =>
    have hs : startsMarker ((c :: cs).map letterFor) = startsMarker (c :: cs) := startsMarker_letters
    rw [List.map_cons] at hs ⊢
    rw [markers, markers, ih, hs]

theorem count_brace_letters : (cs.map letterFor).count '\x7d' = cs.count '\x7d' := by
  rw [List.count_eq_countP, List.count_eq_countP, List.countP_map]
  refine List.countP_congr fun c _ => ?_
  simp [brace_eq_letterFor_iff]

theorem closed_letters : Closed (cs.map letterFor) ↔ Closed cs := by
  have hcloses : ClosesMarkers (cs.map letterFor) ↔ ClosesMarkers cs := by
    constructor
    · rintro h u v rfl
      have := h (u.map letterFor) (v.map letterFor) (by simp [letterFor])
      rwa [count_brace_letters, markers_letters] at this
    · intro h u v huv
      obtain ⟨u, v, rfl, rfl, hv⟩ := List.map_eq_append_iff.1 huv
      obtain ⟨c, v, rfl, hc, rfl⟩ := List.map_eq_cons_iff.1 hv
      rw [brace_eq_letterFor_iff.1 hc] at h
      rw [count_brace_letters, markers_letters]
      exact h u v rfl
  constructor
  · intro h
    have := h.markers_eq
    rw [markers_letters, count_brace_letters] at this
    exact ⟨hcloses.1 h.closes, this⟩
  · intro h
    refine ⟨hcloses.2 h.closes, ?_⟩
    rw [markers_letters, count_brace_letters]
    exact h.markers_eq

/-- The blocks of a text are the same but for the letters. -/
theorem hasBlock_letters :
    HasBlock (cs.map letterFor) body ↔ ∃ b, b.map letterFor = body ∧ HasBlock cs b := by
  have hchars (m : Marker) : m.chars.map letterFor = m.chars := by cases m <;> rfl
  constructor
  · rintro ⟨before, m, after, h, hclosed⟩
    obtain ⟨u, v, rfl, rfl, hv⟩ := List.map_eq_append_iff.1 h
    obtain ⟨p, w, rfl, hp, hw⟩ := List.map_eq_append_iff.1 hv
    obtain ⟨b, x, rfl, rfl, hx⟩ := List.map_eq_append_iff.1 hw
    obtain ⟨c, y, rfl, hc, -⟩ := List.map_eq_cons_iff.1 hx
    have hm : p = m.chars := by
      have hstart : m.chars <+: p := (isPrefix_letters (by cases m <;> simp [Marker.chars])).1 (by rw [hp])
      exact (hstart.eq_of_length (by rw [← hp, List.length_map])).symm
    exact ⟨b, rfl, u, m, y, by rw [hm, brace_eq_letterFor_iff.1 hc], closed_letters.1 hclosed⟩
  · rintro ⟨b, rfl, before, m, after, rfl, hclosed⟩
    exact ⟨before.map letterFor, m, after.map letterFor, by simp [hchars, letterFor],
      closed_letters.2 hclosed⟩

theorem blocksHold_letters : BlocksHold (cs.map letterFor) ↔ BlocksHold cs := by
  have hblank (b : List Char) : Text.allBlank (b.map letterFor) = Text.allBlank b := by
    simp only [Text.allBlank, List.all_map]
    exact congrArg b.all (funext isBlank_letterFor)
  constructor
  · intro h b hb
    rw [← hblank]
    exact h _ (hasBlock_letters.2 ⟨b, rfl, hb⟩)
  · intro h body hbody
    obtain ⟨b, rfl, hb⟩ := hasBlock_letters.1 hbody
    rw [hblank]
    exact h b hb

end Letters

/-! ## Whole texts -/

/-- A text without quotes is read exactly if, with each marker opening a block and each brace closing one
that is open, none is left open, and every block at every depth has a character that is no blank. So
parentheses and commas make no difference: with letters in their places it is read or not just as
well. -/
theorem read_accepts_iff {cs : List Char} (hquote : ∀ c ∈ cs, c ≠ '\'' ∧ c ≠ '"') :
    ((∃ e, read cs = .ok e) ↔ openAfter 0 cs = 0 ∧ ∀ body, HasBlock cs body → ∃ c ∈ body,
      Text.isBlank c = false) ∧
    ((∃ e, read (cs.map letterFor) = .ok e) ↔ ∃ e, read cs = .ok e) := by
  have hunquoted : ∀ c ∈ cs, quote? c = none := fun c hc => quote?_eq_none (hquote c hc)
  have hletters : ∀ c ∈ cs.map letterFor, quote? c = none := fun c hc => by
    obtain ⟨d, hd, rfl⟩ := List.mem_map.1 hc
    exact quote?_letterFor (hunquoted d hd)
  constructor
  · rw [exists_read_iff hunquoted]
    simp only [BlocksHold, Text.allBlank, List.all_eq_false, Bool.not_eq_true]
  · rw [exists_read_iff hunquoted, exists_read_iff hletters, openAfter_letters, blocksHold_letters]

/-- Parentheses that do not match are read, and a block of blanks inside another is not. -/
theorem read_accepts_iff_nested :
    (∀ c ∈ ['$', '\x7b', ')', '$', '\x7b', ' ', '\x7d', ',', '\x7d'], c ≠ '\'' ∧ c ≠ '"') ∧
      ¬ ∃ e, read ['$', '\x7b', ')', '$', '\x7b', ' ', '\x7d', ',', '\x7d'] = .ok e := by
  have hquote : ∀ c ∈ ['$', '\x7b', ')', '$', '\x7b', ' ', '\x7d', ',', '\x7d'],
      c ≠ '\'' ∧ c ≠ '"' := by simp
  refine ⟨hquote, fun h => ?_⟩
  have hblocks := ((read_accepts_iff hquote).1.1 h).2
  obtain ⟨c, hc, hblank⟩ := hblocks [' '] ⟨['$', '\x7b', ')'], .short, [',', '\x7d'], rfl, by decide⟩
  rw [List.mem_singleton.1 hc] at hblank
  cases hblank

end Expr

end RouteExpr
