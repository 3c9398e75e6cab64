/-
Both markers are read alike: texts that differ in how markers are written are the same expression and
the same predicate.

A predicate looks for markers in its operands too, in a pattern and in the bounds of a range, and finds
the same ones there. Only a class name between quotes behind `is` is taken as it is written, markers and all.
So a predicate may differ where the class names do, and where these have no markers it does not.
-/
import RouteExpr.Language
import RouteExpr.Proofs.Expr.Respelled
import RouteExpr.Proofs.Predicate.ReadsLike

namespace RouteExpr

open Lexer Predicate

/-! ## Class names -/

/-- The class names between quotes: the texts in quotes that are next behind `is`, in their order. -/
def Lexed.classNames (named : Bool) : Lexed → List (List Char)
  | .token t rest =>
    match named, t.kind with
    | true, .quoted _ => t.text :: rest.classNames false
    | _, _ => rest.classNames (t.leadsToClass named)
  | _ => []

/-- The class names between quotes are the same types in one text as in another, each as the one in its
place. -/
def ClassTable.Equates (classes : ClassTable) (cs ds : List Char) : Prop :=
  List.Forall₂ (fun x y => classes.resolve? (String.ofList x) = classes.resolve? (String.ofList y))
    ((Lexed.of .predicate 0 cs).classNames false) ((Lexed.of .predicate 0 ds).classNames false)

section

variable {t t' : Token} {l l' : Lexed}

theorem Token.SameKind.leadsToClass_eq (h : t.SameKind t') (named : Bool) :
    t.leadsToClass named = t'.leadsToClass named := by
  unfold Token.leadsToClass
  split
  · rename_i hk
    rw [(h _ rfl).1 hk]
  · rename_i op hk
    rw [(h _ rfl).1 hk]
  · rename_i hblank hop
    split
    · rename_i hk
      exact absurd ((h _ rfl).2 hk) hblank
    · rename_i op hk
      exact absurd ((h _ rfl).2 hk) (hop op)
    · rfl

/-- Two tokens of one kind are both class names, or neither is. -/
theorem Token.SameKind.classNames_cases (h : t.SameKind t') (rest rest' : Lexed) (named : Bool) :
    (∃ q, t.kind = .quoted q ∧
      (Lexed.token t rest).classNames named = t.text :: rest.classNames (t.leadsToClass named) ∧
      (Lexed.token t' rest').classNames named = t'.text :: rest'.classNames (t.leadsToClass named)) ∨
    (named = true → ∀ q, t.kind ≠ .quoted q) ∧
      (Lexed.token t rest).classNames named = rest.classNames (t.leadsToClass named) ∧
      (Lexed.token t' rest').classNames named = rest'.classNames (t.leadsToClass named) := by
  by_cases hname : named = true ∧ ∃ q, t.kind = .quoted q
  · obtain ⟨rfl, q, hk⟩ := hname
    have hleads : t.leadsToClass true = false := by rw [Token.leadsToClass, hk]
    refine .inl ⟨q, hk, ?_, ?_⟩
    · simp only [Lexed.classNames, hk, hleads]
    · simp only [Lexed.classNames, (h _ rfl).1 hk, hleads]
  · have hother : named = true → ∀ q, t.kind ≠ .quoted q := fun hnamed q hk => hname ⟨hnamed, q, hk⟩
    refine .inr ⟨hother, ?_, ?_⟩
    · rw [Lexed.classNames]
      exact fun q hnamed => hother hnamed q
    · rw [Lexed.classNames, h.leadsToClass_eq]
      exact fun q hnamed => mt (h _ rfl).2 (hother hnamed q)

/-- Texts that differ in how markers are written have as many class names, which differ in that alone. -/
theorem Lexed.Same.classNames (h : l.Same Token.short l') (named : Bool) :
    List.Forall₂ (fun x y => shorten x = shorten y) (l.classNames named) (l'.classNames named) := by
  induction h generalizing named with
  | eof => exact .nil
  | fault => exact .nil
  | @token t t' rest rest' ht _ ih =>
    obtain ⟨q, -, hnames, hnames'⟩ | ⟨-, hnames, hnames'⟩ :=
      (keepsKinds_short.sameKind ht).classNames_cases rest rest' named <;> rw [hnames, hnames']
    · exact .cons (Token.shorten_text_eq ht) (ih _)
    · exact ih _

end

namespace ClassTable

variable {classes : ClassTable} {cs ds : List Char}

theorem Equates.symm (h : classes.Equates cs ds) : classes.Equates ds cs :=
  h.flip.imp fun _ _ => Eq.symm

theorem mem_trim {c : Char} (hc : Text.isBlank c = false) (h : c ∈ cs) : c ∈ Text.trim cs := by
  have mem_dropWhile {us : List Char} (hu : c ∈ us) : c ∈ us.dropWhile Text.isBlank := by
    rw [← List.takeWhile_append_dropWhile (p := Text.isBlank) (l := us)] at hu
    rcases List.mem_append.1 hu with hu | hu
    · rw [List.mem_takeWhile_imp hu] at hc
      cases hc
    · exact hu
  exact List.mem_reverse.2 (mem_dropWhile (List.mem_reverse.2 (mem_dropWhile h)))

/-- No name with a marker is known from the start. -/
theorem standard_resolve?_of_hasMarker {name : List Char} (h : hasMarker name = true) :
    standard.resolve? (String.ofList name) = none := by
  have hplain : ∀ entry ∈ standard.entries, '$' ∉ entry.1.toList := by simp [standard]
  obtain ⟨u, v, rfl, hv⟩ := hasMarker_iff.1 h
  obtain ⟨rest, rfl⟩ := startsMarker_eq_cons hv
  have hdollar : '$' ∈ (Text.trimmed (String.ofList (u ++ '$' :: rest))).toList := by
    rw [Text.trimmed, String.toList_ofList, String.toList_ofList]
    exact mem_trim rfl (by simp)
  rw [resolve?, Option.map_eq_none_iff, List.find?_eq_none]
  intro entry hentry heq
  rw [← beq_iff_eq.1 heq] at hdollar
  exact hplain entry hentry hdollar

theorem standard_equates (h : Respelled cs ds) : standard.Equates cs ds := by
  have hnames := (Lexed.of_same .predicate 0 0 (respelled_iff.1 h)).classNames false
  refine hnames.imp fun x y heq => ?_
  cases hx : hasMarker x with
  | false => rw [eq_of_shorten_eq heq hx]
  | true =>
    have hy : hasMarker y = true := by rw [← hasMarker_shorten, ← heq, hasMarker_shorten, hx]
    rw [standard_resolve?_of_hasMarker hx, standard_resolve?_of_hasMarker hy]

end ClassTable

/-! ## Operands -/

namespace Predicate

variable {classes : ClassTable} {cs ds : List Char} {t t' : Token}

theorem readBound_of_shorten_eq (heq : shorten cs = shorten ds) (hquote : BlocksUnquoted cs) {offset : Nat}
    (offset' : Nat) {e : Expr} (h : readBound offset cs = .ok e) : readBound offset' ds = .ok e := by
  cases hm : hasMarker cs with
  | true =>
    have hm' : hasMarker ds = true := by rw [← hasMarker_shorten, ← heq, hasMarker_shorten, hm]
    rw [readBound, if_pos hm] at h
    rw [readBound, if_pos hm']
    exact Expr.readRegion_of_shorten_eq heq hquote offset' h
  | false =>
    rw [readBound, hm] at h
    rw [readBound, eq_of_shorten_eq heq hm, hm]
    simp only [Bool.false_eq_true, if_false] at h ⊢
    split at h
    · cases h
    · rename_i hdot
      rw [if_neg hdot]
      split at h
      · exact h
      · cases h

theorem readRange_of_shorten_eq (heq : shorten t.text = shorten t'.text) (hquote : BlocksUnquoted t.text)
    {o : Operand} (h : readRange t = .ok o) : readRange t' = .ok o := by
  have hcut := cut?_shorten (c := '.') (p := ['.']) (by decide) (by decide) t.text
  rw [heq, cut?_shorten (by decide) (by decide)] at hcut
  unfold readRange at h ⊢
  split at h
  · cases h
  · rename_i low high hlow
    obtain ⟨⟨low', high'⟩, hlow', hparts⟩ := exists_of_map_eq hcut.symm hlow
    obtain ⟨heqlow, heqhigh⟩ := Prod.mk.inj hparts
    have htext := Text.cut?_eq_some hlow
    obtain ⟨l, hl, h⟩ := bind_eq_ok h
    obtain ⟨r, hr, h⟩ := bind_eq_ok h
    rw [hlow']
    dsimp only
    rw [readBound_of_shorten_eq heqlow (hquote.of_isInfix ⟨[], _, htext.symm⟩) _ hl, ok_bind,
      readBound_of_shorten_eq heqhigh (hquote.of_isInfix ⟨low ++ ['.', '.'], [], by simp [htext]⟩) _ hr]
    exact h

theorem readType_of_resolve?_eq
    (heq : classes.resolve? (String.ofList t.text) = classes.resolve? (String.ofList t'.text)) {o : Operand}
    (h : readType classes t = .ok o) : readType classes t' = .ok o := by
  unfold readType at h ⊢
  dsimp only at h ⊢
  rw [← heq]
  split at h
  · exact h
  · cases h

theorem readPattern_of_text_eq (heq : t'.text = t.text) {o : Operand} (h : readPattern t = .ok o) :
    readPattern t' = .ok o := by
  unfold readPattern at h ⊢
  dsimp only at h ⊢
  rw [heq]
  split at h
  · exact h
  · cases h

end Predicate

/-! ## Tokens -/

namespace Token

theorem text_isInfix (t : Token) : t.text <:+: t.raw :=
  ⟨t.kind.opening, t.kind.closing, rfl⟩

/-- Whatever is read of a token of a predicate is read of it with its markers written another way. -/
theorem readsLike_of_short_eq {offset : Nat} {cs : List Char} {t t' : Token}
    (h : t.short = t'.short) (ht : t ∈ (Lexed.of .predicate offset cs).tokens)
    (hquote : BlocksUnquoted cs) : t.ReadsLike t' := by
  have htext := shorten_text_eq h
  have hin : BlocksUnquoted t.text := hquote.of_isInfix (t.text_isInfix.trans (Lexed.raw_isInfix ht))
  have hword : t.kind = .literal → t'.text = t.text := fun hk =>
    text_of_short_eq h (by rw [isPlain, hk])
  refine ⟨keepsKinds_short.sameKind h, fun hp e => ?_, fun _ e => ?_, hword, fun _ => ?_,
    fun _ o => readRange_of_shorten_eq htext hin,
    fun _ hm o => readPattern_of_text_eq (eq_of_shorten_eq htext hm)⟩
  · obtain ⟨m, hm⟩ := Expr.isPlaceholder_iff.1 hp
    have hblock := Lexed.hasBlock_text ht hm
    exact Expr.readBlock_of_short_eq h hblock.closed (hquote _ hblock)
  · exact Expr.readRegion_of_shorten_eq htext hin _
  · rw [← hasMarker_shorten, ← htext, hasMarker_shorten]

end Token

/-- Tokens that are read alike, with class names that are the same types, are so as a run. -/
theorem Lexed.Same.readsLike {classes : ClassTable} {l l' : Lexed} (h : l.Same Token.short l')
    (hread : ∀ t ∈ l.tokens, ∀ t' ∈ l'.tokens, t.short = t'.short → t.ReadsLike t') {named : Bool}
    (hclass : List.Forall₂
      (fun x y => classes.resolve? (String.ofList x) = classes.resolve? (String.ofList y))
      (l.classNames named) (l'.classNames named)) : l.ReadsLike classes named l' := by
  induction h generalizing named with
  | eof => exact .ends rfl rfl
  | fault f f' => exact .fault f f'
  | @token t t' rest rest' ht _ ih =>
    have hmore : ∀ u ∈ rest.tokens, ∀ u' ∈ rest'.tokens, u.short = u'.short → u.ReadsLike u' :=
      fun u hu u' hu' => hread u (List.mem_cons_of_mem _ hu) u' (List.mem_cons_of_mem _ hu')
    have htoken := hread t List.mem_cons_self t' List.mem_cons_self ht
    obtain ⟨q, -, hnames, hnames'⟩ | ⟨hother, hnames, hnames'⟩ :=
      htoken.kind.classNames_cases rest rest' named <;> rw [hnames, hnames'] at hclass
    · obtain ⟨heq, hclass⟩ := List.forall₂_cons.1 hclass
      exact .token htoken (fun _ _ _ => readType_of_resolve?_eq heq) (ih hmore hclass)
    · refine .token htoken (fun hnamed hk o => readType_of_resolve?_eq ?_) (ih hmore hclass)
      -- a word is the same in both
      have hliteral : t.kind = .literal := by
        cases hkind : t.kind with
        | literal => rfl
        | quoted q => exact absurd hkind (hother hnamed q)
        | _ => rw [hkind] at hk; cases hk
      rw [htoken.word hliteral]

/-! ## Whole texts -/

theorem Predicate.read_of_respelled {classes : ClassTable} {cs ds : List Char} {p : Predicate}
    (h : Respelled cs ds) (hquote : BlocksUnquoted cs) (hclass : classes.Equates cs ds)
    (hp : read classes cs = .ok p) : read classes ds = .ok p := by
  have hsame := Lexed.of_same .predicate 0 0 (respelled_iff.1 h)
  have hlike := hsame.readsLike (fun t ht t' _ hshort => Token.readsLike_of_short_eq hshort ht hquote) hclass
  exact read_of_readsLike rfl rfl hlike hp

theorem Expression.root_parse {text : String} {e : Expr} :
    (parse text).map root = .ok e ↔ Expr.read text.toList = .ok e := by
  unfold parse
  cases Expr.read text.toList <;> simp [Except.map]

theorem Rule.root_parse {classes : ClassTable} {text : String} {p : Predicate} :
    (parse classes text).map root = .ok p ↔ Predicate.read classes text.toList = .ok p := by
  unfold parse
  cases Predicate.read classes text.toList <;> simp [Except.map]

/-- Texts without quotes in their blocks that differ in how markers are written are both refused or are
the same tree: as expressions; as predicates, if the class names between quotes behind `is` are the same types
in the one as in the other; and so as predicates with the class names known from the start. -/
theorem Rule.parse_respelled {a b : String} (h : Respelled a.toList b.toList)
    (hquote : ∀ body, HasBlock a.toList body → ∀ c ∈ body, c ≠ '\'' ∧ c ≠ '"') :
    SameValue ((Expression.parse a).map Expression.root) ((Expression.parse b).map Expression.root) ∧
    (∀ classes : ClassTable, classes.Equates a.toList b.toList →
      SameValue ((parse classes a).map root) ((parse classes b).map root)) ∧
    SameValue ((parse .standard a).map root) ((parse .standard b).map root) := by
  have heq := respelled_iff.1 h
  have hunquoted : BlocksUnquoted a.toList :=
    fun body hbody c hc => quote?_eq_none (hquote body hbody c hc)
  have hclasses (classes : ClassTable) (hclass : classes.Equates a.toList b.toList) :
      SameValue ((parse classes a).map root) ((parse classes b).map root) := by
    refine sameValue_of_iff fun p => ?_
    rw [root_parse, root_parse]
    exact ⟨read_of_respelled h hunquoted hclass,
      read_of_respelled (respelled_iff.2 heq.symm) (hunquoted.of_shorten_eq heq) hclass.symm⟩
  refine ⟨sameValue_of_iff fun e => ?_, hclasses, hclasses _ (ClassTable.standard_equates h)⟩
  rw [Expression.root_parse, Expression.root_parse]
  exact Expr.readRegion_eq_ok_iff heq hunquoted 0 0

/-- A marker inside a block, and a class name between quotes. -/
theorem Rule.parse_respelled_nested :
    Respelled "$\x7bf($\x7ba\x7d)\x7d is 'String'".toList "$simple\x7bf($\x7ba\x7d)\x7d is 'String'".toList ∧
      (∀ body, HasBlock "$\x7bf($\x7ba\x7d)\x7d is 'String'".toList body → ∀ c ∈ body, c ≠ '\'' ∧ c ≠ '"') ∧
      SameValue ((parse .standard "$\x7bf($\x7ba\x7d)\x7d is 'String'").map root)
        ((parse .standard "$simple\x7bf($\x7ba\x7d)\x7d is 'String'").map root) ∧
      ((parse .standard "$simple\x7bf($\x7ba\x7d)\x7d is 'String'").map root).isOk = true := by
  have h : Respelled "$\x7bf($\x7ba\x7d)\x7d is 'String'".toList
      "$simple\x7bf($\x7ba\x7d)\x7d is 'String'".toList :=
    .marker .short .long (.refl _)
  have hquote : ∀ body, HasBlock "$\x7bf($\x7ba\x7d)\x7d is 'String'".toList body →
      ∀ c ∈ body, c ≠ '\'' ∧ c ≠ '"' := by
    have hblocks : blocks "$\x7bf($\x7ba\x7d)\x7d is 'String'".toList =
        ["f($\x7ba\x7d)".toList, "a".toList] := by decide
    rw [forall_hasBlock, hblocks]
    simp
  exact ⟨h, hquote, (parse_respelled h hquote).2.1 .standard (ClassTable.standard_equates h),
    by decide +kernel⟩

/-- A class name with a marker that is known is not known with the marker written another way. -/
theorem Rule.parse_respelled_class_name :
    Respelled "$\x7bbody\x7d is 'a$\x7bb\x7d'".toList "$\x7bbody\x7d is 'a$simple\x7bb\x7d'".toList ∧
      (∀ body, HasBlock "$\x7bbody\x7d is 'a$\x7bb\x7d'".toList body → ∀ c ∈ body, c ≠ '\'' ∧ c ≠ '"') ∧
      ¬ SameValue
        ((parse (ClassTable.standard.register "a$\x7bb\x7d" .string) "$\x7bbody\x7d is 'a$\x7bb\x7d'").map root)
        ((parse (ClassTable.standard.register "a$\x7bb\x7d" .string)
          "$\x7bbody\x7d is 'a$simple\x7bb\x7d'").map root) := by
  have h : Respelled "$\x7bbody\x7d is 'a$\x7bb\x7d'".toList
      "$\x7bbody\x7d is 'a$simple\x7bb\x7d'".toList :=
    (Respelled.marker .short .long (.refl "b\x7d'".toList)).append_left "$\x7bbody\x7d is 'a".toList
  have hblocks : blocks "$\x7bbody\x7d is 'a$\x7bb\x7d'".toList = ["body".toList, "b".toList] := by decide
  refine ⟨h, ?_, fun hsame => absurd hsame.isOk_eq (by decide +kernel)⟩
  rw [forall_hasBlock, hblocks]
  simp

end RouteExpr
