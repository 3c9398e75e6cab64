/-
Layout does not change meaning: predicates that differ in nothing but their blanks are the same tree.

The readers skip blanks wherever they may stand, and what they read of a token does not depend on its
offset. So whatever is read from the tokens of the one text is read from those of the other.
-/
import RouteExpr.Language
import RouteExpr.Proofs.Predicate.ReadsLike
import RouteExpr.Proofs.Token.Layout

namespace RouteExpr

open Predicate

/-! ## Tokens -/

/-- What is read from a token, wherever it stands, is read from a token with its text. -/
theorem Token.Relaid.read {α : Type} {t t' : Token} (ht : t.Relaid t')
    (hk : t.kind.isPlaceholder = true ∨ t.kind.isText = true) (read : Token → Except Fault α)
    (hread : ∀ (k : Nat) (u : Token), u.kind = t.kind →
      read (u.shift k) = Fault.shifted k id (read u)) {a : α} (h : read t = .ok a) :
    read t' = .ok a := by
  -- both are the same token moved
  have hmoved : t = Token.shift t.start ⟨t.kind, t.text, 0⟩ := by
    simp [Token.shift]
  have hmoved' : t' = Token.shift t'.start ⟨t.kind, t.text, 0⟩ := by
    obtain ⟨kind, text, start⟩ := t'
    cases ht.kind
    cases ht.text hk
    simp [Token.shift]
  rw [hmoved, hread _ ⟨t.kind, t.text, 0⟩ rfl] at h
  obtain ⟨b, hb, rfl⟩ := shifted_eq_ok h
  rw [hmoved', hread _ ⟨t.kind, t.text, 0⟩ rfl, hb]
  rfl

/-- Tokens that differ in blanks only are read alike. -/
theorem Token.Relaid.readsLike {t t' : Token} (ht : t.Relaid t') : t.ReadsLike t' where
  kind k _ := by rw [ht.kind]
  block hk e := by
    refine ht.read (.inl hk) Expr.readBlock fun k u hu => ?_
    exact Expr.readBlock_shift u (hu ▸ hk)
  region hk e := by
    refine ht.read (.inr hk) (fun u => Expr.readRegion u.textStart u.text) fun k u _ => ?_
    rw [Token.shift_textStart, Token.shift_text, Expr.readRegion_shift]
  word hk := ht.text (.inr (by rw [hk]; rfl))
  marked hk := by rw [ht.text (.inr hk)]
  range hk o := ht.read (.inr hk) readRange fun _ u _ => readRange_shift u
  pattern hk _ o := ht.read (.inr hk) readPattern fun _ u _ => readPattern_shift u

theorem Token.Relaid.namesLike {t t' : Token} (ht : t.Relaid t') (hk : t.kind.isText = true)
    (classes : ClassTable) : t.NamesLike classes t' := fun _ =>
  ht.read (.inr hk) (readType classes) fun _ u _ => readType_shift classes u

theorem Lexed.Relaid.readsLike {l l' : Lexed} (h : l.Relaid l') (classes : ClassTable) (named : Bool) :
    l.ReadsLike classes named l' := by
  induction h generalizing named with
  | ends h h' => exact .ends h h'
  | fault f f' => exact .fault f f'
  | token ht _ ih => exact .token ht.readsLike (fun _ hk => ht.namesLike hk classes) (ih _)

/-! ## Whole texts -/

namespace Predicate

variable {classes : ClassTable}

theorem read_of_relaid {cs ds : List Char} {p : Predicate}
    (h : Relaid (Text.trimStart cs) (Text.trimStart ds)) (hp : read classes cs = .ok p) :
    read classes ds = .ok p := by
  have hstart : (Lexer.start .predicate (0 + (cs.takeWhile Text.isBlank).length)
      (cs.dropWhile Text.isBlank)).Relaid
      (Lexer.start .predicate (0 + (ds.takeWhile Text.isBlank).length)
        (ds.dropWhile Text.isBlank)) := ⟨rfl, rfl, rfl, rfl, rfl, h⟩
  exact read_of_readsLike (Lexed.skipBlanks_of 0 cs) (Lexed.skipBlanks_of 0 ds)
    (hstart.lexed.readsLike classes false) hp

end Predicate

/-- Two texts that differ only in runs of blanks outside of quoted texts and blocks, and in blanks at
their start and their end, are both refused or are the same predicate. -/
theorem Rule.parse_relaid (classes : ClassTable) {a b : String}
    (h : Relaid (Text.trimStart a.toList) (Text.trimStart b.toList)) :
    (∃ p, parse classes a = .ok ⟨a, p⟩ ∧ parse classes b = .ok ⟨b, p⟩) ∨
      ∃ e e', parse classes a = .error e ∧ parse classes b = .error e' := by
  have parse_ok {text : String} {p : Predicate} (hp : Predicate.read classes text.toList = .ok p) :
      parse classes text = .ok ⟨text, p⟩ := by
    unfold parse
    rw [hp]
  have parse_error {text : String} {f : Fault}
      (hf : Predicate.read classes text.toList = .error f) :
      parse classes text = .error ⟨f, text⟩ := by
    unfold parse
    rw [hf]
  rcases ha : Predicate.read classes a.toList with f | p
  · rcases hb : Predicate.read classes b.toList with f' | p
    · exact .inr ⟨_, _, parse_error ha, parse_error hb⟩
    · -- what reads the one reads the other
      rw [Predicate.read_of_relaid h.symm hb] at ha
      cases ha
  · exact .inl ⟨p, parse_ok ha, parse_ok (Predicate.read_of_relaid h ha)⟩

/-- An operator in words with other blanks in it, and blanks around the text. -/
theorem Rule.parse_relaid_not_in :
    Relaid (Text.trimStart "$\x7ba\x7d++  not in '1,  2'".toList)
      (Text.trimStart "\n$\x7ba\x7d++ not\tin '1,  2' ".toList) ∧
    ((∃ p, parse .empty "$\x7ba\x7d++  not in '1,  2'" = .ok ⟨"$\x7ba\x7d++  not in '1,  2'", p⟩ ∧
        parse .empty "\n$\x7ba\x7d++ not\tin '1,  2' " =
          .ok ⟨"\n$\x7ba\x7d++ not\tin '1,  2' ", p⟩) ∨
      ∃ e e', parse .empty "$\x7ba\x7d++  not in '1,  2'" = .error e ∧
        parse .empty "\n$\x7ba\x7d++ not\tin '1,  2' " = .error e') := by
  have hquoted : Relaid "'1,  2'".toList "'1,  2' ".toList := by
    show Relaid ('\'' :: ("1,  2".toList ++ '\'' :: [])) ('\'' :: ("1,  2".toList ++ '\'' :: [' ']))
    exact .quoted .single (by decide) (.ends rfl rfl)
  have hin : Relaid " in '1,  2'".toList "\tin '1,  2' ".toList := by
    show Relaid ([' '] ++ ('i' :: 'n' :: ([' '] ++ "'1,  2'".toList)))
      (['\t'] ++ ('i' :: 'n' :: ([' '] ++ "'1,  2' ".toList)))
    refine .blanks (by simp) (by simp) rfl rfl (.char rfl rfl (.char rfl rfl ?_))
    exact .blanks (by simp) (by simp) rfl rfl hquoted
  have hnot : Relaid "++  not in '1,  2'".toList "++ not\tin '1,  2' ".toList := by
    show Relaid ('+' :: '+' :: ([' ', ' '] ++ ('n' :: 'o' :: 't' :: " in '1,  2'".toList)))
      ('+' :: '+' :: ([' '] ++ ('n' :: 'o' :: 't' :: "\tin '1,  2' ".toList)))
    refine .char rfl rfl (.char rfl rfl (.blanks (by simp) (by simp) rfl rfl ?_))
    exact .char rfl rfl (.char rfl rfl (.char rfl rfl hin))
  have h : Relaid (Text.trimStart "$\x7ba\x7d++  not in '1,  2'".toList)
      (Text.trimStart "\n$\x7ba\x7d++ not\tin '1,  2' ".toList) := by
    show Relaid (Marker.short.chars ++ 'a' :: '\x7d' :: "++  not in '1,  2'".toList)
      (Marker.short.chars ++ 'a' :: '\x7d' :: "++ not\tin '1,  2' ".toList)
    exact .block .short rfl rfl hnot
  exact ⟨h, parse_relaid .empty h⟩

end RouteExpr
