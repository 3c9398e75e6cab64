/-
Blocks at a cursor, and steps that work in place.

Where a marker starts, a step of a cursor takes the block up to the brace that matches the marker. If
there is none, the step stops with a fault at the last character of the region, and it has not moved
the cursor. A block is whole: each marker in it is matched in it, and whoever takes its text apart comes
upon the same blocks again.
-/
import RouteExpr.Proofs.Checked.Steps
import RouteExpr.Proofs.Expr.Parts
import RouteExpr.Proofs.Token.Matching

namespace RouteExpr

namespace Checked.Cursor

open Lexer (takeBlock startsMarker)

/-! ## Steps in place -/

/-- A step that works on a cursor in place. It leaves a cursor behind also where it stops. -/
abbrev InPlace (α : Type) : Type :=
  EStateM Halt Cursor α

namespace InPlace

/-- What a computation gives, with the cursor as it is. -/
def lift {α : Type} : Checked α → InPlace α
  | .ok a => return a
  | .error halt => throw halt

/-- A step of a cursor, made in place. -/
def move (r : Checked (Cut × Cursor)) : InPlace Cut := do
  let (cut, c) ← lift r
  set c
  return cut

/-- The block of a marker that is next. The cursor is moved when the end of the block is found. -/
def takePlaceholder (m : Marker) : InPlace Cut := do
  let start := (← get).position
  let first := start + m.chars.length
  let (depth, stop) ← lift ((← get).blockEnd 1 first)
  if 0 < depth then lift ((← get).unclosed .unclosedPlaceholder)
  else
    modify fun c => { c with position := stop + 1 }
    let text ← lift ((← get).collect first stop)
    let length ← lift (minus (← get).position start)
    return ⟨⟨.placeholder m, text, start⟩, length⟩

/-- The next token of the region. That a placeholder came before is forgotten first. -/
def scan : InPlace Cut := do
  let c ← get
  modify fun c => { c with afterPlaceholder := false }
  match c.charAt? c.position with
  | none => move c.scan
  | some _ =>
    match ← lift c.suffix?, c.markerAt? c.position with
    | none, some m =>
      let cut ← takePlaceholder m
      modify fun c => { c with afterPlaceholder := true }
      return cut
    | _, _ => move c.scan

variable {c : Cursor} {m : Marker}

@[simp] theorem lift_ok {α : Type} (a : α) : lift (.ok a) = pure a := rfl

@[simp] theorem run_lift_error {α : Type} (halt : Halt) (c : Cursor) :
    (lift (.error halt) : InPlace α).run c = .error halt c := rfl

@[simp] theorem run_move (r : Checked (Cut × Cursor)) (c : Cursor) :
    (move r).run c = match r with
      | .ok (cut, c') => .ok cut c'
      | .error halt => .error halt c := by
  cases r <;> rfl

/-- A block is taken whole, or it has no end and the cursor stays where it is. -/
theorem takePlaceholder_eq {cs : List Char} (hrest : c.restAt c.position = m.chars ++ cs) :
    (takePlaceholder m).run c = match takeBlock 0 cs with
      | some (body, _) =>
        let t : Token := ⟨.placeholder m, body, c.position⟩
        .ok (.of t) { c with position := t.stop }
      | none => .error (.fault ⟨⟨c.stop - 1, .unclosedPlaceholder⟩, c.text⟩) c := by
  have hne : c.restAt c.position ≠ [] := by rw [hrest]; cases m <;> simp [Marker.chars]
  have hlen := length_restAt (Nat.le_of_lt (lt_stop_of_restAt hne))
  rw [hrest, List.length_append] at hlen
  have hfirst : c.restAt (c.position + m.chars.length) = cs := by
    rw [restAt_add, hrest, List.drop_left]
  have hle : c.position + m.chars.length ≤ c.stop := by omega
  rcases blockEnd_cases c 0 (c.position + m.chars.length) hle with
    ⟨body, rest, htake, hend⟩ | ⟨d, stop, htake, hend⟩ <;> rw [hfirst] at htake <;> rw [htake]
  · have hstop : c.position + m.chars.length + body.length + 1 =
        (⟨.placeholder m, body, c.position⟩ : Token).stop := by
      simp [Token.stop, Token.length, Token.raw, Token.Kind.opening, Token.Kind.closing]
      omega
    have htext (p : Nat) : { c with position := p }.collect (c.position + m.chars.length)
        (c.position + m.chars.length + body.length) = .ok body :=
      collect_eq ('\x7d' :: rest) (hfirst.trans (takeBlock_eq_some htake)) hle rfl
    have hlength : minus (⟨.placeholder m, body, c.position⟩ : Token).stop c.position =
        .ok (⟨.placeholder m, body, c.position⟩ : Token).length := by
      rw [Token.stop, Nat.add_comm, minus_add]
    simp [takePlaceholder, hend, htext, hstop, hlength, Cut.of]
  · simp [takePlaceholder, hend, unclosed, fail]

/-- A step in place gives the token of the step and the cursor behind it, or stops where it is. -/
theorem scan_eq (c : Cursor) :
    InPlace.scan.run c = match c.scan with
      | .ok (cut, c') => .ok cut c'
      | .error halt => .error halt { c with afterPlaceholder := false } := by
  rcases hch : c.charAt? c.position with _ | ch
  · simp [scan, hch]
  have hrest := restAt_of_charAt? hch
  have hpos : c.position ≤ c.stop := Nat.le_of_lt (lt_stop_of_restAt (by rw [hrest]; simp))
  have hsuffix := suffix?_eq hpos
  rcases hs : c.view.suffix? with _ | step <;> rw [hs] at hsuffix
  · rcases hm : c.markerAt? c.position with _ | m
    · simp [scan, hch, hsuffix, hm]
    · have hscan : c.scan = c.takePlaceholder m := by
        simp only [Cursor.scan, hch, hsuffix, ok_bind, hm]
      have hblock : c.restAt c.position = m.chars ++ (c.restAt c.position).drop m.chars.length :=
        markerAt?_eq_some (markerAt?_eq c c.position ▸ hm)
      have hplace := takePlaceholder_eq (c := { c with afterPlaceholder := false }) hblock
      have hrun : InPlace.scan.run c = (do
          let cut ← takePlaceholder m
          modify fun c => { c with afterPlaceholder := true }
          return cut : InPlace Cut).run { c with afterPlaceholder := false } := by
        simp [scan, hch, hsuffix, hm]
      rw [hrun, EStateM.run_bind, hplace, hscan, Cursor.takePlaceholder_eq hblock]
      rcases takeBlock 0 ((c.restAt c.position).drop m.chars.length) with _ | ⟨body, rest⟩
      · dsimp only
        rw [← unclosed_eq _ hpos]
        rfl
      · rfl
  · simp [scan, hch, hsuffix]

end InPlace

end Checked.Cursor

/-! ## Whole blocks -/

theorem Lexed.Fits.mem {text : List Char} {most : Nat} {t : Token} :
    ∀ {x : Lexed}, x.Fits text most → t ∈ x.tokens → t.Fits text most
  | .token u rest, h, ht => by
    rcases List.mem_cons.1 ht with rfl | ht
    · exact h.1
    · exact mem h.2 ht

/-- A token is the block that begins at a place of a text, whole. -/
structure Token.IsBlock (cs : List Char) (first : Nat) (t : Token) : Prop where
  isPlaceholder : t.kind.isPlaceholder = true
  start_eq : t.start = first
  /-- It stops behind the brace that matches its marker. -/
  matched : ∃ j, t.stop = j + 1 ∧ Matched cs first j
  /-- Each marker in it is matched in it. -/
  inner : ∀ k, first ≤ k → k < t.stop → Lexer.startsMarker (cs.drop k) = true →
    ∃ j < t.stop, Matched cs k j

/-- The text of a token, taken apart between its delimiters, fails at quotes alone, and each block that
is taken in it stops behind the brace that matches its marker in the whole text. -/
structure Token.TakesApart (cs : List Char) (t : Token) (mode : Mode) : Prop where
  slice_eq : Lexer.slice mode cs t.textStart (t.stop - 1) = Lexer.start mode t.textStart t.text
  cause : ∀ f, (Lexed.of mode t.textStart t.text).toTokens = .error f →
    ∃ q, f.cause = .unclosedQuote q
  blocks : ∀ u ∈ (Lexed.of mode t.textStart t.text).tokens, u.kind.isPlaceholder = true →
    u.IsBlock cs u.start

namespace Token

open Checked (PartAt)

variable {cs : List Char} {t : Token} {m : Marker}

/-- A marker with a closed text and a brace behind it is a block. -/
theorem isBlock_of_closed (hk : t.kind = .placeholder m) (hpart : PartAt cs t.start t.raw)
    (hclosed : Closed t.text) : t.IsBlock cs t.start := by
  obtain ⟨before, after, hcs, hlength⟩ := hpart
  have hdrop : cs.drop t.start = m.chars ++ (t.text ++ '\x7d' :: after) := by
    rw [hcs, List.append_assoc, ← hlength, List.drop_left, raw_append_of_placeholder hk]
  have hmatched : Matched cs t.start (t.start + (m.chars.length + t.text.length)) :=
    (matched_iff hdrop).2 ⟨t.text, after, takeBlock_eq_some_iff.2 ⟨rfl, hclosed⟩, rfl⟩
  have hstop : t.stop = t.start + (m.chars.length + t.text.length) + 1 := by
    simp only [stop, length, raw, hk, Kind.opening, Kind.closing, List.length_append,
      List.length_singleton]
    omega
  refine ⟨by rw [hk]; rfl, rfl, ⟨_, hstop, hmatched⟩, fun k hfirst hlt hmarker => ?_⟩
  rcases Nat.eq_or_lt_of_le hfirst with rfl | hfirst
  · exact ⟨_, by omega, hmatched⟩
  · obtain ⟨j, hj, hinner⟩ := hmatched.inner hfirst (by omega) hmarker
    exact ⟨j, by omega, hinner⟩

/-- Blocks of a block are blocks of the whole text, and all its markers are closed. -/
theorem takesApart_of_closed (hk : t.kind = .placeholder m) (hpart : PartAt cs t.start t.raw)
    (hclosed : Closed t.text) (mode : Mode) : t.TakesApart cs mode := by
  have htext : PartAt cs t.textStart t.text := hpart.left.right
  refine ⟨?_, fun f hf => ?_, fun u hu hplaceholder => ?_⟩
  · have hstop : t.stop - 1 = t.textStart + t.text.length := by
      rw [← t.textStart_add, hk]
      rfl
    rw [Lexer.slice, hstop, htext.take_drop]
  · refine Lexer.unclosedQuote_of_toTokens (l := .start mode t.textStart t.text) rfl ?_ hf
    rintro before m after hmarker
    exact Closed.exists_takeBlock (u := before) (m := m) (hmarker ▸ hclosed)
  · obtain ⟨m', hu'⟩ := Expr.isPlaceholder_iff.1 hplaceholder
    obtain ⟨l₁, l₂, -, -, hs, -⟩ := Lexer.scan_of_mem_tokens (.start mode t.textStart t.text) rfl hu
    exact isBlock_of_closed hu' ((Lexed.fits_of htext).mem hu).partAt
      (takeBlock_eq_some_iff.1 (Lexer.takeBlock_of_scan hs hu')).2

end Token

namespace Checked.Cursor

open Lexer (takeBlock startsMarker)

/-- The characters of the text up to where the region stops. -/
def region (c : Cursor) : List Char :=
  c.chars.take c.stop

theorem partAt_region (c : Cursor) {pos : Nat} (h : pos ≤ c.stop) :
    PartAt c.region pos (c.restAt pos) := by
  have hlength : c.region.length = c.stop := by
    rw [region, List.length_take, Nat.min_eq_left c.stop_le_chars]
  have hwhole : PartAt c.region pos ((c.region.take c.region.length).drop pos) :=
    partAt_take_drop (h.trans_eq hlength.symm) le_rfl
  rwa [List.take_length] at hwhole

variable {c : Cursor} {m : Marker} {w : List Char} {t : Token} {l : Lexer}

/-- A step that finds a marker takes a block if some brace of the region brings the depth back to zero,
and only then. -/
theorem exists_scan_iff (hrest : c.restAt c.position = m.chars ++ w) :
    (∃ t l, c.view.scan = .ok (t, l)) ↔ ∃ j, Balances c.region c.position j := by
  have hends : (∃ j, Balances c.region c.position j) ↔
      ∃ body rest, takeBlock 0 w = some (body, rest) := exists_balances_iff hrest
  rw [hends, Lexer.scan_marker hrest]
  constructor
  · rintro ⟨t, l, hs⟩
    split at hs
    · rename_i body rest htake
      exact ⟨body, rest, htake⟩
    · cases hs
  · rintro ⟨body, rest, htake⟩
    rw [htake]
    exact ⟨_, _, rfl⟩

/-- Without such a brace the block is not closed where the region ends. -/
theorem scan_of_not_balances (hrest : c.restAt c.position = m.chars ++ w) (hpos : c.position ≤ c.stop)
    (hnone : ∀ j, ¬ Balances c.region c.position j) :
    c.view.scan = .error ⟨c.stop - 1, .unclosedPlaceholder⟩ := by
  have htake : takeBlock 0 w = none := by
    rcases htake : takeBlock 0 w with _ | ⟨body, rest⟩
    · rfl
    · obtain ⟨j, hj⟩ := (exists_balances_iff hrest).2 ⟨body, rest, htake⟩
      exact absurd hj (hnone j)
  rw [Lexer.scan_marker hrest, htake, ← length_restAt hpos]
  rfl

/-- What a step takes at a marker is a whole block, in the region and in the text around it. -/
theorem isBlock_of_scan (hrest : c.restAt c.position = m.chars ++ w) (hpos : c.position ≤ c.stop)
    (hs : c.view.scan = .ok (t, l)) :
    t.IsBlock c.region c.position ∧ ∀ mode, t.TakesApart c.chars mode := by
  have hkind : t.kind = .placeholder m := by
    rw [Lexer.scan_marker hrest] at hs
    split at hs <;> cases hs
    rfl
  have hclosed := (takeBlock_eq_some_iff.1 (Lexer.takeBlock_of_scan hs hkind)).2
  have htakes := Lexer.scan_takes hs
  have hstart : t.start = c.position := htakes.start
  have hsplit : c.restAt c.position = t.raw ++ l.rest := htakes.rest
  have hregion : PartAt c.region t.start t.raw := by
    rw [hstart]
    exact (hsplit ▸ c.partAt_region hpos).left
  have htext : PartAt c.chars t.start t.raw := by
    rw [hstart]
    exact (hsplit ▸ partAt_restAt hpos).left
  exact ⟨hstart ▸ Token.isBlock_of_closed hkind hregion hclosed,
    Token.takesApart_of_closed hkind htext hclosed⟩

/-- Where a marker starts, a step takes a block if and only if some brace of the region brings the depth
back to zero. The block stops behind the first such brace, each marker in it has a brace of its own in
it, and lexers of its text fail at quotes alone. Where there is no such brace the step fails at the last
position of the region and leaves the cursor there. -/
theorem scan_matched (c : Cursor) (h : startsMarker (c.restAt c.position) = true) :
    ((∃ t l, c.view.scan = .ok (t, l)) ↔ ∃ j, Balances c.region c.position j) ∧
    (∀ t l, c.view.scan = .ok (t, l) →
      InPlace.scan.run c = .ok (.of t) (c.moved l) ∧ l.position = t.stop ∧
      t.IsBlock c.region c.position ∧ ∀ mode, t.TakesApart c.chars mode) ∧
    (∀ i k j, Matched c.region i j → Matched c.region k j → i = k) ∧
    ((∀ j, ¬ Balances c.region c.position j) →
      c.view.scan = .error ⟨c.stop - 1, .unclosedPlaceholder⟩ ∧
      InPlace.scan.run c = .error (.fault ⟨⟨c.stop - 1, .unclosedPlaceholder⟩, c.text⟩)
        { c with afterPlaceholder := false }) := by
  obtain ⟨m, w, hw⟩ := startsMarker_iff.1 h
  have hrest : c.restAt c.position = m.chars ++ w := hw.symm
  have hpos : c.position ≤ c.stop :=
    Nat.le_of_lt (lt_stop_of_restAt (by rw [hrest]; cases m <;> simp [Marker.chars]))
  have hplace := InPlace.scan_eq c
  rw [Cursor.scan_eq] at hplace
  refine ⟨exists_scan_iff hrest, fun t l hs => ?_, fun i k j h h' => h.unique h', fun hnone => ?_⟩
  · obtain ⟨hblock, hapart⟩ := isBlock_of_scan hrest hpos hs
    refine ⟨?_, (Lexer.scan_takes hs).position, hblock, hapart⟩
    rw [hplace, hs]
    rfl
  · have hfault := scan_of_not_balances hrest hpos hnone
    refine ⟨hfault, ?_⟩
    rw [hplace, hfault]
    rfl

/-- Quotes hide no brace: the block ends within the quoted text, so a quote in its own text stays open. -/
theorem scan_matched_quote :
    let c := slice .template "$\x7bf('$simple\x7ba\x7d\x7d')\x7d" 0 19
    let t : Token := ⟨.placeholder .short, "f('$simple\x7ba\x7d".toList, 0⟩
    startsMarker (c.restAt c.position) = true ∧ Balances c.region 0 15 ∧
      InPlace.scan.run c = .ok (.of t) { c with position := 16, afterPlaceholder := true } ∧
      t.IsBlock c.region 0 ∧ t.TakesApart c.chars .function := by
  intro c t
  have hmarker : startsMarker (c.restAt c.position) = true := by decide
  have hscan : c.view.scan = .ok (t, ⟨.template, 16, "')\x7d".toList, 0, true, none⟩) := by
    subst c t
    rfl
  obtain ⟨-, htakes, -, -⟩ := scan_matched c hmarker
  obtain ⟨hrun, -, hblock, hapart⟩ := htakes _ _ hscan
  obtain ⟨j, hj, hmatched⟩ := hblock.matched
  cases (show 16 = j + 1 from hj)
  exact ⟨hmarker, hmatched.least.1, hrun, hblock, hapart .function⟩

end Checked.Cursor

end RouteExpr
