/-
The tokens of a region tile it.

Each token is cut off what is left of the region and the next one starts where it stops, so put one
behind the other the tokens are the region, from its first character to its last. None but the end
is empty, and therefore a region has at most as many tokens as characters.
-/
import RouteExpr.Proofs.Checked.Basic
import RouteExpr.Proofs.Token.Scan

namespace RouteExpr

open Checked (PartAt)

/-! ## Tokens in a text -/

namespace Token

/-- The characters of a text that a token covers. -/
def span (text : List Char) (t : Token) : List Char :=
  (text.take t.stop).drop t.start

/-- A token covers its own text, and around it the quotes of a quoted text, which does not hold that
quote, or the marker and the brace of a block. -/
def Shows (text : List Char) (t : Token) : Prop :=
  match t.kind with
  | .quoted q => t.span text = q.toChar :: (t.text ++ [q.toChar]) ∧ q.toChar ∉ t.text
  | .placeholder m =>
    t.span text = m.chars ++ t.text ++ ['\x7d'] ∧ t.textStart = t.start + m.chars.length
  | _ => t.span text = t.text

end Token

/-- Tokens and the end of a region tile it: they follow one another without a gap from its first
character on, and the end stands where the region stops. -/
structure Tiling (text : List Char) (first stop : Nat) (ts : List Token) (e : Token) : Prop where
  head : (ts ++ [e]).head?.map Token.start = some first
  chain : (ts ++ [e]).IsChain fun t u => u.start = t.stop
  length_pos : ∀ t ∈ ts, 0 < t.length
  length_end : e.length = 0
  start_end : e.start = stop
  spans : (ts ++ [e]).flatMap (Token.span text) = (text.take stop).drop first
  shows : ∀ t ∈ ts ++ [e], t.Shows text

/-! ## Taking one token after another -/

namespace Lexer

variable {l l' : Lexer} {t : Token} {text : List Char}

/-- A quoted text holds no quote of its kind. -/
theorem scan_quoted {q : Quote} (h : l.scan = .ok (t, l')) (hk : t.kind = .quoted q) :
    q.toChar ∉ t.text := by
  generalize hr : (t, l') = r at h
  cases cuts_of_scan h with
  | quoted hmode hrest hs ht =>
    cases hr
    cases hk
    exact (takeQuoted_eq_some ht).2
  | symbol hmode hrest hb hs ht =>
    cases hr
    rcases (takeSymbol?_eq_some ht).2.2 with ⟨_, rfl⟩ | ⟨_, rfl⟩ <;> cases hk
  | word hmode hrest hb hs ht hw =>
    cases hr
    rcases (classifyWord_spec hw).2.2 with ⟨rfl, -⟩ | ⟨_, rfl⟩ | ⟨_, rfl⟩ <;> cases hk
  | _ => cases hr; cases hk

/-- A token that is cut off where the lexer stands in a text covers what it was cut from. -/
theorem scan_shows (h : l.scan = .ok (t, l')) (hpart : PartAt text l.position l.rest) :
    t.span text = t.raw ∧ t.Shows text := by
  have ht := scan_takes h
  rw [ht.rest, ← ht.start] at hpart
  have hspan : t.span text = t.raw := hpart.left.take_drop
  refine ⟨hspan, ?_⟩
  unfold Token.Shows
  split
  · rename_i q hk
    refine ⟨?_, scan_quoted h hk⟩
    rw [hspan, Token.raw, hk]
    simp [Token.Kind.opening, Token.Kind.closing]
  · rename_i m hk
    refine ⟨?_, ?_⟩
    · rw [hspan, Token.raw, hk]
      rfl
    · rw [Token.textStart, hk]
      rfl
  · -- nothing delimits a token of any other kind
    rename_i hq hm
    rw [hspan, Token.raw]
    cases hk : t.kind with
    | quoted q => exact absurd hk (hq q)
    | placeholder m => exact absurd hk (hm m)
    | _ => simp [Token.Kind.opening, Token.Kind.closing]

/-- Behind a token a lexer still stands in the text. -/
theorem Takes.partAt (h : l.Takes t l') (hpart : PartAt text l.position l.rest) :
    PartAt text l'.position l'.rest := by
  rw [h.rest, ← h.start] at hpart
  rw [h.position]
  exact hpart.right

end Lexer

/-! ## Whole regions -/

open Lexer (TakesAll)

/-- The end alone tiles an empty region. -/
theorem tiling_nil {text : List Char} {offset : Nat} :
    Tiling text offset offset [] ⟨.eof, [], offset⟩ := by
  refine ⟨rfl, .singleton _, nofun, rfl, rfl, ?_, ?_⟩
  · simp [Token.span, Token.stop, Token.length, Token.raw, Token.Kind.opening, Token.Kind.closing]
  · intro t ht
    rw [List.nil_append, List.mem_singleton] at ht
    subst ht
    simp [Token.Shows, Token.span, Token.stop, Token.length, Token.raw, Token.Kind.opening,
      Token.Kind.closing]

/-- A token before a tiling that starts where it stops. -/
theorem Tiling.cons {text : List Char} {stop : Nat} {t e : Token} {ts : List Token}
    (h : Tiling text t.stop stop ts e) (hlen : 0 < t.length) (hshows : t.Shows text)
    (hspan : t.span text ++ (text.take stop).drop t.stop = (text.take stop).drop t.start) :
    Tiling text t.start stop (t :: ts) e := by
  refine ⟨rfl, ?_, ?_, h.length_end, h.start_end, ?_, ?_⟩
  · refine List.isChain_cons.2 ⟨fun u hu => ?_, h.chain⟩
    have hhead := h.head
    change u ∈ (ts ++ [e]).head? at hu
    rw [Option.mem_def.1 hu] at hhead
    exact Option.some.inj hhead
  · exact List.forall_mem_cons.2 ⟨hlen, h.length_pos⟩
  · rw [List.cons_append, List.flatMap_cons, h.spans, hspan]
  · exact List.forall_mem_cons.2 ⟨hshows, h.shows⟩

/-- The tokens that a lexer takes up to the end tile what it had left. -/
theorem Lexer.TakesAll.tiling {text : List Char} {l m n : Lexer} {ts : List Token} {e : Token}
    (h : l.TakesAll ts m) (he : m.next = .ok (e, n)) (hend : e.kind = .eof)
    (hp : l.peeked = none) (hpart : PartAt text l.position l.rest) :
    Tiling text l.position (l.position + l.rest.length) ts e := by
  induction h with
  | nil l =>
    rw [next_eq_scan hp] at he
    obtain ⟨rfl, -, -⟩ := scan_eof he hend
    rw [(scan_takes he).eof.1 hend]
    exact tiling_nil
  | @cons l m _ t ts hnext ht _ ih =>
    rw [next_eq_scan hp] at hnext
    have htakes := scan_takes hnext
    have hpart' := htakes.partAt hpart
    have htiling := ih he (htakes.peeked.trans hp) hpart'
    obtain ⟨hspan, hshows⟩ := scan_shows hnext hpart
    have hrest := hpart'.take_drop
    rw [htakes.position_add, htakes.position] at htiling hrest
    rw [← htakes.start] at htiling hrest hpart ⊢
    refine htiling.cons ?_ hshows ?_
    · have := htakes.length_lt ht
      have := htakes.length
      omega
    · -- what the token covers and what is left behind it are what was left before it
      rw [hrest, hspan, ← htakes.rest, hpart.take_drop]

/-- A lexer comes to the end or to a fault before it has taken more tokens than it has characters
left. -/
theorem Lexer.exists_takesAll {l : Lexer} (hp : l.peeked = none) :
    ∃ ts m, l.TakesAll ts m ∧ ts.length ≤ l.rest.length ∧
      ((∃ f, m.next = .error f) ∨ ∃ e n, m.next = .ok (e, n) ∧ e.kind = .eof) := by
  induction hn : l.rest.length using Nat.strong_induction_on generalizing l with
  | _ n ih =>
    subst hn
    rcases hs : l.next with f | ⟨t, l'⟩
    · exact ⟨[], l, .nil l, Nat.zero_le _, .inl ⟨f, hs⟩⟩
    · by_cases ht : t.kind = .eof
      · exact ⟨[], l, .nil l, Nat.zero_le _, .inr ⟨t, l', hs, ht⟩⟩
      · have htakes := scan_takes (next_eq_scan hp ▸ hs)
        have hlt := htakes.length_lt ht
        obtain ⟨ts, m, hts, hlen, hlast⟩ := ih _ hlt (htakes.peeked.trans hp) rfl
        refine ⟨t :: ts, m, .cons hs ht hts, ?_, hlast⟩
        rw [List.length_cons]
        omega

/-- The tokens of a region tile it if they come to the end, and they come to the end or to a fault
after at most as many tokens as the region has characters. -/
theorem slice_tiling {text : List Char} {first stop : Nat} (hfirst : first ≤ stop)
    (hstop : stop ≤ text.length) (mode : Mode) :
    (∀ ts l e l', (Lexer.slice mode text first stop).TakesAll ts l → l.next = .ok (e, l') →
      e.kind = .eof → Tiling text first stop ts e) ∧
    ∃ ts l, (Lexer.slice mode text first stop).TakesAll ts l ∧ ts.length ≤ stop - first ∧
      ((∃ f, l.next = .error f) ∨ ∃ e l', l.next = .ok (e, l') ∧ e.kind = .eof) := by
  have hlength : ((text.take stop).drop first).length = stop - first := by
    rw [List.length_drop, List.length_take, Nat.min_eq_left hstop]
  constructor
  · intro ts l e l' hts he hend
    have htiling := hts.tiling he hend rfl (Checked.partAt_take_drop hfirst hstop)
    have hend : first + ((text.take stop).drop first).length = stop := by omega
    dsimp only [Lexer.slice, Lexer.start] at htiling
    rwa [hend] at htiling
  · obtain ⟨ts, l, hts, hlen, hlast⟩ := Lexer.exists_takesAll (l := .slice mode text first stop) rfl
    exact ⟨ts, l, hts, hlen.trans_eq hlength, hlast⟩

/-- The tokens between the brackets. -/
theorem slice_tiling_brackets :
    1 ≤ 16 ∧ 16 ≤ "[${a}++ == 'c d']".toList.length ∧
      Tiling "[${a}++ == 'c d']".toList 1 16
        [⟨.placeholder .short, ['a'], 1⟩, ⟨.suffix .increment, ['+', '+'], 5⟩, ⟨.blank, [' '], 7⟩,
          ⟨.operator ⟨.equal, false⟩, ['=', '='], 8⟩, ⟨.blank, [' '], 10⟩,
          ⟨.quoted .single, ['c', ' ', 'd'], 11⟩]
        ⟨.eof, [], 16⟩ := by
  have hfirst : 1 ≤ 16 := by decide
  have hstop : 16 ≤ "[${a}++ == 'c d']".toList.length := by decide
  refine ⟨hfirst, hstop, (slice_tiling hfirst hstop .predicate).1 _
    ⟨.predicate, 16, [], 0, false, none⟩ _ _ ?_ rfl rfl⟩
  refine .cons rfl nofun (.cons rfl nofun (.cons rfl nofun ?_))
  exact .cons rfl nofun (.cons rfl nofun (.cons rfl nofun (.nil _)))

end RouteExpr
