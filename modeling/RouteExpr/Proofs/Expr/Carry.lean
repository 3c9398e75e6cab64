/-
What is read from tokens is read from tokens like them.

The readers of expressions look at the kinds of tokens, at their texts, and at what is read of the
blocks among them. So where another way to read blocks gives the same of the tokens in the same places,
the same expression is read: with more depth from the same tokens, or from tokens whose markers are
written another way.
-/
import RouteExpr.Proofs.Expr.Groups

namespace RouteExpr

open RouteExpr.Expr

/-! ## Suffixes -/

/-- Tokens that are not told apart have the same suffix before tokens that are not. -/
theorem Lexed.Same.takeSuffix {f : Token → Token} (hf : KeepsKinds f) {l l' : Lexed} (h : l.Same f l') :
    l'.takeSuffix.1 = l.takeSuffix.1 ∧ l.takeSuffix.2.Same f l'.takeSuffix.2 := by
  cases h with
  | eof offset offset' => exact ⟨rfl, .eof offset offset'⟩
  | fault e e' => exact ⟨rfl, .fault e e'⟩
  | @token t t' rest rest' ht h =>
    rcases takeSuffix_sameKind (hf.sameKind ht) rest rest' with ⟨s, hl, hl'⟩ | ⟨hl, hl'⟩ <;> rw [hl, hl']
    · exact ⟨rfl, h⟩
    · exact ⟨rfl, .token ht h⟩

namespace Expr

/-! ## Tokens -/

/-- What is read of a token beside others in one way is read of another token in another way. -/
structure Carries (block more : ReadBlock) (t t' : Token) : Prop where
  placeholder : t.kind.isPlaceholder = true → ∀ e, block t = .ok e → more t' = .ok e
  raw : t.kind.isPlaceholder = false → t'.raw = t.raw

/-- `Carries` for a token that may be a whole argument. -/
structure CarriesArgument (block more : ReadBlock) (t t' : Token) : Prop extends
    Carries block more t t' where
  quoted : ∀ q, t.kind = .quoted q → ∀ e, template block t.textStart t.text = .ok e →
    template more t'.textStart t'.text = .ok e

/-- Whether a relation holds from each of the tokens to all tokens that `f` does not tell from it. -/
def ToSame (f : Token → Token) (r : Token → Token → Prop) (ts : List Token) : Prop :=
  ∀ t ∈ ts, ∀ t', f t = f t' → r t t'

variable {f : Token → Token} {r : Token → Token → Prop} {block more : ReadBlock}
  {ts ts' us : List Token} {parts : List Expr} {e : Expr}

theorem ToSame.mono (h : ToSame f r ts) (hu : us ⊆ ts) : ToSame f r us :=
  fun t ht => h t (hu ht)

theorem ToSame.carries (h : ToSame f (CarriesArgument block more) ts) :
    ToSame f (Carries block more) ts :=
  fun t ht t' heq => (h t ht t' heq).toCarries

/-! ## Templates and names -/

theorem templateParts_carried (hf : KeepsKinds f) : ∀ {l l' : Lexed} {parts : List Expr},
    l.Same f l' → ToSame f (Carries block more) l.tokens → templateParts block l = .ok parts →
    templateParts more l' = .ok parts
  | .eof _, _, _, hl, _, h => by cases hl; exact h
  | .fault _, _, _, _, _, h => by cases h
  | .token t rest, l', parts, hl, hc, h => by
    have hsize := rest.size_takeSuffix
    cases hl with
    | @token _ t' _ rest' ht hrest =>
      have htoken := hc t List.mem_cons_self t' ht
      cases hk : t.kind.isPlaceholder with
      | false =>
        rw [templateParts_text hk] at h
        rw [templateParts_text ((hf.sameKind ht).isPlaceholder_eq ▸ hk), htoken.raw hk]
        obtain ⟨parts', hparts, rfl⟩ := map_eq_ok h
        rw [templateParts_carried hf hrest (hc.mono (List.subset_cons_self _ _)) hparts]
        rfl
      | true =>
        obtain ⟨m, hm⟩ := isPlaceholder_iff.1 hk
        obtain ⟨m', hm'⟩ := isPlaceholder_iff.1 ((hf.sameKind ht).isPlaceholder_eq ▸ hk)
        rw [templateParts_placeholder hm] at h
        obtain ⟨node, hnode, h⟩ := bind_eq_ok h
        obtain ⟨parts', hparts, h⟩ := bind_eq_ok h
        obtain ⟨hstep, hsuffix⟩ := hrest.takeSuffix hf
        have hmore : ToSame f (Carries block more) rest.takeSuffix.2.tokens :=
          hc.mono (List.subset_cons_of_subset _ rest.tokens_takeSuffix.subset)
        rw [templateParts_placeholder hm', htoken.placeholder hk node hnode, ok_bind,
          templateParts_carried hf hsuffix hmore hparts, hstep]
        exact h
  termination_by l => l.size
  decreasing_by all_goals simp only [Lexed.size]; omega

theorem segmentParts_carried (hf : KeepsKinds f) (hts : ts.map f = ts'.map f)
    (hc : ToSame f (Carries block more) ts) (h : segmentParts block ts = .ok parts) :
    segmentParts more ts' = .ok parts := by
  induction ts generalizing ts' parts with
  | nil =>
    rw [List.map_eq_nil_iff.1 hts.symm]
    exact h
  | cons t ts ih =>
    obtain ⟨t', ts', rfl, ht, hrest⟩ := List.map_eq_cons_iff.1 hts.symm
    have htoken := hc t List.mem_cons_self t' ht.symm
    have hcs := hc.mono (List.subset_cons_self t ts)
    cases hk : t.kind.isPlaceholder with
    | false =>
      rw [segmentParts_text hk] at h
      rw [segmentParts_text ((hf.sameKind ht).isPlaceholder_eq ▸ hk), htoken.raw hk]
      obtain ⟨parts', hparts, rfl⟩ := map_eq_ok h
      rw [ih hrest.symm hcs hparts]
      rfl
    | true =>
      obtain ⟨m, hm⟩ := isPlaceholder_iff.1 hk
      obtain ⟨m', hm'⟩ := isPlaceholder_iff.1 ((hf.sameKind ht).isPlaceholder_eq.trans hk)
      rw [segmentParts_placeholder hm] at h
      obtain ⟨node, hnode, h⟩ := bind_eq_ok h
      obtain ⟨parts', hparts, h⟩ := bind_eq_ok h
      rw [segmentParts_placeholder hm', htoken.placeholder hk node hnode, ok_bind, ih hrest.symm hcs hparts]
      exact h

theorem trimTokens_carried (hf : KeepsKinds f) (hts : ts.map f = ts'.map f) :
    (trimTokens ts).map f = (trimTokens ts').map f := by
  rw [← hf.trimTokens_map, hts, hf.trimTokens_map]

theorem segment_carried (hf : KeepsKinds f) (hts : ts.map f = ts'.map f)
    (hc : ToSame f (Carries block more) ts) (h : segment block ts = .ok e) : segment more ts' = .ok e := by
  unfold segment at h ⊢
  obtain ⟨parts, hparts, rfl⟩ := map_eq_ok h
  rw [segmentParts_carried hf (trimTokens_carried hf hts) (hc.mono (trimTokens_isInfix ts).subset) hparts]
  rfl

/-! ## Calls -/

/-- Of tokens that are not told apart, both are a quoted text or neither is. -/
theorem eq_quoted_of_map_eq (hf : KeepsKinds f) {q : Quote} {text : List Char} {start : Nat}
    (h : [⟨.quoted q, text, start⟩].map f = ts.map f) :
    ∃ text' start', ts = [⟨.quoted q, text', start'⟩] ∧
      f ⟨.quoted q, text, start⟩ = f ⟨.quoted q, text', start'⟩ := by
  obtain ⟨⟨kind, text', start'⟩, rest, rfl, ht, hnil⟩ := List.map_eq_cons_iff.1 h.symm
  obtain rfl := List.map_eq_nil_iff.1 hnil
  obtain rfl : kind = .quoted q := (hf.sameKind ht _ rfl).2 rfl
  exact ⟨text', start', rfl, ht.symm⟩

theorem argument_carried (hf : KeepsKinds f) (hts : ts.map f = ts'.map f)
    (hc : ToSame f (CarriesArgument block more) ts) (h : argument block ts = .ok e) : argument more ts' = .ok e := by
  have htrim := trimTokens_carried hf hts
  unfold argument at h
  split at h
  · rename_i q text start hquoted
    rw [hquoted] at htrim
    obtain ⟨text', start', hquoted', ht⟩ := eq_quoted_of_map_eq hf htrim
    have hmem := (trimTokens_isInfix ts).subset (hquoted ▸ List.mem_singleton_self _)
    rw [argument, hquoted']
    exact (hc _ hmem _ ht).quoted q rfl e h
  · rename_i hnone
    rw [argument]
    split
    · rename_i q text start hquoted
      rw [hquoted] at htrim
      obtain ⟨text', start', hquoted', -⟩ := eq_quoted_of_map_eq hf htrim.symm
      exact absurd hquoted' (hnone q text' start')
    · exact segment_carried hf hts hc.carries h

theorem arguments_carried (hf : KeepsKinds f) (hts : ts.map f = ts'.map f)
    (hc : ToSame f (CarriesArgument block more) ts) {es : List Expr} (h : arguments block ts = .ok es) :
    arguments more ts' = .ok es := by
  have hblank : ts'.all Token.isBlank = ts.all Token.isBlank := by
    rw [← hf.isBlank_comp, ← List.all_map, ← hts, List.all_map]
  have hsplit : (splitArguments 0 ts).map (List.map f) = (splitArguments 0 ts').map (List.map f) := by
    rw [← hf.splitArguments_map, hts, hf.splitArguments_map]
  have hparts : ∀ part ∈ splitArguments 0 ts, ToSame f (CarriesArgument block more) part :=
    fun part hp => hc.mono (isInfix_of_mem_splitArguments hp).subset
  unfold arguments at h ⊢
  rw [hblank]
  split
  · rename_i hb
    rwa [if_pos hb] at h
  · rename_i hb
    rw [if_neg hb] at h
    clear hb hblank
    generalize splitArguments 0 ts = args at h hsplit hparts
    generalize splitArguments 0 ts' = args' at hsplit ⊢
    induction args generalizing args' es with
    | nil =>
      rw [List.map_eq_nil_iff.1 hsplit.symm]
      exact h
    | cons arg args ih =>
      obtain ⟨arg', args', rfl, harg, hrest⟩ := List.map_eq_cons_iff.1 hsplit.symm
      rw [List.mapM_cons] at h ⊢
      obtain ⟨e, he, h⟩ := bind_eq_ok h
      obtain ⟨es', hes, h⟩ := bind_eq_ok h
      rw [argument_carried hf harg.symm (hparts arg List.mem_cons_self) he, ok_bind,
        ih hes (fun part hp => hparts part (List.mem_cons_of_mem _ hp)) args' hrest.symm]
      exact h

theorem inside_carried (hf : KeepsKinds f) (hts : ts.map f = ts'.map f)
    (hc : ToSame f (CarriesArgument block more) ts) (h : inside block ts = .ok e) : inside more ts' = .ok e := by
  have hcall := hf.splitCall?_map ts'
  rw [← hts, hf.splitCall?_map] at hcall
  unfold inside at h ⊢
  split at h
  · rename_i name args hsplit
    obtain ⟨hname, hargs⟩ := splitCall?_isInfix hsplit
    rw [hsplit] at hcall
    obtain ⟨⟨name', args'⟩, hsplit', heq⟩ := Option.map_eq_some_iff.1 hcall.symm
    obtain ⟨hname', hargs'⟩ := Prod.mk.inj heq
    obtain ⟨n, hn, h⟩ := bind_eq_ok h
    obtain ⟨es, hes, h⟩ := bind_eq_ok h
    rw [hsplit']
    dsimp only
    rw [segment_carried hf hname'.symm (hc.mono hname.subset).carries hn, ok_bind,
      arguments_carried hf hargs'.symm (hc.mono hargs.subset) hes]
    exact h
  · rename_i hsplit
    rw [hsplit] at hcall
    obtain ⟨n, hn, rfl⟩ := map_eq_ok h
    rw [Option.map_eq_none_iff.1 hcall.symm]
    dsimp only
    rw [segment_carried hf hts hc.carries hn]
    rfl

end Expr

end RouteExpr
