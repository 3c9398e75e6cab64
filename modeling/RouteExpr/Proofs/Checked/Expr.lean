/-
Reading expressions with each index checked.

Tokens are read again by the positions where they stand in the whole text, lists of tokens are cut
by the indices of their parentheses and commas, and every such reading mirrors the plain one: the
parts that are sliced out are there, and what is wrong is found within the text.
-/
import RouteExpr.Proofs.Checked.Steps
import RouteExpr.Proofs.Expr.Literals

namespace RouteExpr.Checked

open RouteExpr.Expr (join prependText stepped)

/-- How a placeholder token becomes an expression. -/
abbrev ReadBlock : Type :=
  Cut → Checked Expr

/-! ## Lists by index -/

section Lists

variable {α : Type}

/-- The index of the last item with a property. -/
def lastIdx? (p : α → Bool) : List α → Option Nat
  | [] => none
  | x :: xs =>
    match lastIdx? p xs with
    | some i => some (i + 1)
    | none => if p x then some 0 else none

/-- The items between the first and the last one without a property. -/
def trim (p : α → Bool) (xs : List α) : Checked (List α) :=
  let first := xs.findIdx fun x => !p x
  let stop :=
    match lastIdx? (fun x => !p x) xs with
    | some i => i + 1
    | none => first
  slice xs first stop

/-- The index of the parenthesis that closes the first one, where the tokens are at an index and so
many parentheses are open. -/
def matchingParen (depth i : Nat) : List Cut → Checked (Option Nat)
  | [] => return none
  | cut :: cuts =>
    match cut.token.kind with
    | .openParen => matchingParen (depth + 1) (i + 1) cuts
    | .closeParen => do
      let depth ← minus depth 1
      if depth = 0 then return some i else matchingParen depth (i + 1) cuts
    | _ => matchingParen depth (i + 1) cuts

/-- The tokens of the name and of the arguments, when the tokens are a call. -/
def splitCall? (cuts : List Cut) : Checked (Option (List Cut × List Cut)) :=
  match cuts.findIdx? fun cut => cut.token.kind = .openParen with
  | none => return none
  | some first => do
    match ← matchingParen 0 first (cuts.drop first) with
    | none => return none
    | some last => do
      let rest ← slice cuts (last + 1) cuts.length
      if rest.all fun cut => cut.token.isBlank then
        let name ← slice cuts 0 first
        let args ← slice cuts (first + 1) last
        return some (name, args)
      else return none

/-- What the tokens between commas are read as. The tokens that are left are at an index `i`, and
those of the part that they belong to begin at an index `first`. -/
def splitArguments (read : List Cut → Checked Expr) (all : List Cut) (depth first i : Nat) :
    List Cut → Checked (List Expr)
  | [] => do
    let arg ← read (← slice all first all.length)
    return [arg]
  | cut :: cuts =>
    match cut.token.kind, depth with
    | .comma, 0 => do
      let arg ← read (← slice all first i)
      return arg :: (← splitArguments read all 0 (i + 1) (i + 1) cuts)
    | .openParen, _ => splitArguments read all (depth + 1) first (i + 1) cuts
    | .closeParen, _ => splitArguments read all (depth - 1) first (i + 1) cuts
    | _, _ => splitArguments read all depth first (i + 1) cuts

end Lists

/-! ## Regions -/

/-- The tokens of a region and its end, in at most so many steps. -/
def takeAll : Nat → Cursor → Checked (List Cut × Cut)
  | 0, _ => .error .unreachable
  | n + 1, c => do
    let (cut, c) ← c.next
    if cut.token.kind = .eof then return ([], cut)
    else
      let (cuts, last) ← takeAll n c
      return (cut :: cuts, last)

/-- The suffix that stands at a cursor. -/
def Cursor.takeSuffix (c : Cursor) : Checked (Option Step × Cursor) := do
  let (cut, c) ← c.peek
  match cut.token.kind with
  | .suffix s => do
    let (_, c) ← c.next
    return (some s, c)
  | _ => return (none, c)

/-- The characters that a token was cut from. -/
def raw (text : String) (cut : Cut) : Checked (List Char) :=
  slice text.toList cut.token.start cut.stop

/-- Parts as one expression. -/
def joinParts (parts : List Expr) : Checked Expr :=
  match parts.length with
  | 0 => return .literal ""
  | 1 => item parts 0
  | _ => return .concat parts

/-- The parts of a template, in at most so many steps. -/
def templateParts (text : String) (block : ReadBlock) : Nat → Cursor → Checked (List Expr)
  | 0, _ => .error .unreachable
  | n + 1, c => do
    let (cut, c) ← c.next
    match cut.token.kind with
    | .eof => return []
    | .placeholder _ => do
      let node ← block cut
      let (suffix, c) ← c.takeSuffix
      let parts ← templateParts text block n c
      return stepped suffix node :: parts
    | _ => do
      let chars ← raw text cut
      let parts ← templateParts text block n c
      return prependText chars parts

/-- The characters from one position to another as an expression. -/
def template (text : String) (block : ReadBlock) (first stop : Nat) : Checked Expr :=
  templateParts text block (text.length + 1) (.slice .template text first stop) >>= joinParts

/-! ## Inside placeholders -/

/-- The parts of a name or of an argument without quotes. -/
def segmentParts (text : String) (block : ReadBlock) : List Cut → Checked (List Expr)
  | [] => return []
  | cut :: cuts =>
    match cut.token.kind with
    | .placeholder _ => do
      let node ← block cut
      let parts ← segmentParts text block cuts
      return node :: parts
    | _ => do
      let chars ← raw text cut
      let parts ← segmentParts text block cuts
      return prependText chars parts

/-- The tokens without runs of blanks at either end. -/
def trimBlanks (cuts : List Cut) : Checked (List Cut) :=
  trim (fun cut => cut.token.isBlank) cuts

/-- A name, or an argument without quotes. -/
def segment (text : String) (block : ReadBlock) (cuts : List Cut) : Checked Expr := do
  let cuts ← trimBlanks cuts
  let parts ← segmentParts text block cuts
  joinParts parts

/-- An argument: a quoted text is an expression of its own, without its quotes. -/
def argument (text : String) (block : ReadBlock) (cuts : List Cut) : Checked Expr := do
  match ← trimBlanks cuts with
  | [cut] =>
    match cut.token.kind with
    | .quoted _ => do
      let stop ← minus cut.stop 1
      template text block (cut.token.start + 1) stop
    | _ => segment text block cuts
  | _ => segment text block cuts

/-- The arguments of a call; blanks alone are none. -/
def arguments (text : String) (block : ReadBlock) (cuts : List Cut) : Checked (List Expr) := do
  let trimmed ← trimBlanks cuts
  if trimmed.isEmpty then return []
  else splitArguments (argument text block) cuts 0 0 0 cuts

/-- The tokens inside a placeholder as a call or a name. -/
def inside (text : String) (block : ReadBlock) (cuts : List Cut) : Checked Expr := do
  match ← splitCall? cuts with
  | some (name, args) => do
    let name ← segment text block name
    let args ← arguments text block args
    return .call name args
  | none => (segment text block cuts).map .property

/-! ## Blocks and whole texts -/

/-- A placeholder token as an expression, of which fewer than so many are inside one another. -/
def readBlockTo (text : String) : Nat → ReadBlock
  | 0, _ => .error .unreachable
  | n + 1, cut => do
    let close ← minus cut.stop 1
    if Text.allBlank cut.token.text then fail text close .namelessPlaceholder
    else
      let (cuts, _) ← takeAll (text.length + 1) (.slice .function text cut.token.textStart close)
      inside text (readBlockTo text n) cuts

/-- A placeholder token as an expression. -/
def readBlock (text : String) : ReadBlock :=
  readBlockTo text (text.length + 1)

/-- The characters from one position to another as an expression. -/
def readRegion (text : String) (first stop : Nat) : Checked Expr :=
  template text (readBlock text) first stop

/-- All tokens of a text, the end included. -/
def tokenize (mode : Mode) (text : String) : Checked (List Cut) :=
  (takeAll (text.length + 1) (.slice mode text 0 text.length)).map fun (cuts, last) => cuts ++ [last]

/-- A text as an expression. -/
def readExpression (text : String) : Checked Expr :=
  readRegion text 0 text.length

/-! ## Lists by index, mirrored -/

section Lists

variable {α : Type} {p : α → Bool}

theorem lastIdx?_eq_none {xs : List α} (h : ∀ x ∈ xs, p x = false) : lastIdx? p xs = none := by
  induction xs with
  | nil => rfl
  | cons x xs ih =>
    rw [lastIdx?, ih fun y hy => h y (List.mem_cons_of_mem x hy), h x List.mem_cons_self]
    rfl

theorem lastIdx?_append (p : α → Bool) {x : α} {zs : List α} (hx : p x = true)
    (h : ∀ z ∈ zs, p z = false) : ∀ ys : List α, lastIdx? p (ys ++ x :: zs) = some ys.length
  | [] => by rw [List.nil_append, lastIdx?, lastIdx?_eq_none h, hx]; rfl
  | y :: ys => by rw [List.cons_append, lastIdx?, lastIdx?_append p hx h ys]; rfl

theorem findIdx_not (p : α → Bool) (xs : List α) :
    (xs.findIdx fun x => !p x) = (xs.takeWhile p).length := by
  rw [List.takeWhile_eq_take_findIdx_not, List.length_take, Nat.min_eq_left List.findIdx_le_length]

/-- Trimming by indices is dropping items at both ends. -/
theorem trim_eq (p : α → Bool) (xs : List α) :
    trim p xs = .ok ((xs.dropWhile p).reverse.dropWhile p).reverse := by
  have hfront := List.takeWhile_append_dropWhile (p := p) (l := xs)
  have hback := List.takeWhile_append_dropWhile (p := p) (l := (xs.dropWhile p).reverse)
  have hpre : ∀ x ∈ xs.takeWhile p, (!p x) = false := fun x hx => by
    rw [List.mem_takeWhile_imp hx]; rfl
  have hpost : ∀ x ∈ ((xs.dropWhile p).reverse.takeWhile p).reverse, (!p x) = false := fun x hx => by
    rw [List.mem_takeWhile_imp (List.mem_reverse.1 hx)]; rfl
  have hhead := List.head?_dropWhile_not p (xs.dropWhile p).reverse
  rw [trim, findIdx_not]
  generalize xs.takeWhile p = pre at *
  generalize xs.dropWhile p = ys at *
  generalize ys.reverse.takeWhile p = post at *
  generalize ys.reverse.dropWhile p = zs at *
  obtain rfl : ys = zs.reverse ++ post.reverse := by
    rw [← List.reverse_append, hback, List.reverse_reverse]
  subst hfront
  cases zs with
  | nil =>
    have hnone : lastIdx? (fun x => !p x) (pre ++ ([].reverse ++ post.reverse)) = none := by
      refine lastIdx?_eq_none fun x hx => ?_
      rcases List.mem_append.1 hx with hx | hx
      · exact hpre x hx
      · exact hpost x hx
    rw [hnone]
    have hpart : PartAt (pre ++ ([].reverse ++ post.reverse)) pre.length [] :=
      ⟨pre, post.reverse, by simp, rfl⟩
    exact hpart.slice
  | cons z zs =>
    have hz : (!p z) = true := by rw [List.head?_cons] at hhead; rw [hhead]; rfl
    have hlist : pre ++ ((z :: zs).reverse ++ post.reverse) =
        (pre ++ zs.reverse) ++ z :: post.reverse := by simp
    have hlast := lastIdx?_append (fun x => !p x) hz hpost (pre ++ zs.reverse)
    rw [← hlist] at hlast
    rw [hlast]
    refine PartAt.slice_eq ⟨pre, post.reverse, by simp, rfl⟩ ?_
    simp [Nat.add_assoc]

end Lists

section Tokens

variable {ts : List Token}

theorem trimBlanks_eq (ts : List Token) :
    trimBlanks (ts.map Cut.of) = .ok ((RouteExpr.Expr.trimTokens ts).map Cut.of) := by
  rw [trimBlanks, trim_eq, RouteExpr.Expr.trimTokens, List.dropWhile_map, ← List.map_reverse,
    List.dropWhile_map, List.map_reverse]
  rfl

theorem matchingParen_eq (d i : Nat) (ts : List Token) :
    matchingParen (d + 1) i (ts.map Cut.of) =
      .ok ((RouteExpr.Expr.takeInner d ts).map fun r => i + r.1.length) := by
  induction ts generalizing d i with
  | nil => rfl
  | cons t ts ih =>
    have more (d : Nat) : matchingParen (d + 1) (i + 1) (ts.map Cut.of) =
        .ok (((RouteExpr.Expr.takeInner d ts).map fun r => (t :: r.1, r.2)).map fun r =>
          i + r.1.length) := by
      rw [ih, Option.map_map]
      simp only [Function.comp_def, List.length_cons, Nat.add_assoc, Nat.add_comm 1]
    obtain ⟨kind, text, start⟩ := t
    rw [List.map_cons, matchingParen]
    conv_rhs => unfold RouteExpr.Expr.takeInner
    cases kind with
    | openParen => exact more (d + 1)
    | closeParen =>
      cases d with
      | zero => rfl
      | succ d => exact more d
    | _ => exact more d

theorem isBlank_comp_of : (fun cut : Cut => cut.token.isBlank) ∘ Cut.of = Token.isBlank := rfl

/-- Cutting at the indices of the parentheses is cutting at the parentheses. -/
theorem splitCall?_eq (ts : List Token) :
    splitCall? (ts.map Cut.of) =
      .ok ((RouteExpr.Expr.splitCall? ts).map fun p => (p.1.map Cut.of, p.2.map Cut.of)) := by
  have hsplit := List.takeWhile_append_dropWhile
    (p := fun t : Token => !decide (t.kind = .openParen)) (l := ts)
  have hname : ∀ t ∈ ts.takeWhile fun t : Token => !decide (t.kind = .openParen),
      t.kind ≠ .openParen := fun t ht => by simpa using List.mem_takeWhile_imp ht
  have hhead := List.head?_dropWhile_not (fun t : Token => !decide (t.kind = .openParen)) ts
  unfold splitCall? RouteExpr.Expr.splitCall?
  dsimp only
  generalize ts.takeWhile (fun t : Token => !decide (t.kind = .openParen)) = name at *
  generalize ts.dropWhile (fun t : Token => !decide (t.kind = .openParen)) = more at *
  have hnone : (name.map Cut.of).findIdx? (fun cut => cut.token.kind = .openParen) = none := by
    rw [List.findIdx?_eq_none_iff]
    intro cut hcut
    obtain ⟨t, ht, rfl⟩ := List.mem_map.1 hcut
    exact decide_eq_false (hname t ht)
  subst hsplit
  cases more with
  | nil =>
    rw [List.append_nil, hnone]
    rfl
  | cons opening after =>
    have hopening : opening.kind = .openParen := by simpa using hhead
    have hfirst : ((name ++ opening :: after).map Cut.of).findIdx?
        (fun cut => cut.token.kind = .openParen) = some name.length := by
      rw [List.map_append, List.findIdx?_append, hnone]
      simp [List.findIdx?_cons, hopening]
    have hdrop : ((name ++ opening :: after).map Cut.of).drop name.length =
        Cut.of opening :: after.map Cut.of := by
      rw [← List.map_drop, List.drop_left, List.map_cons]
    rw [hfirst]
    dsimp only
    rw [hdrop, matchingParen, Cut.of_token, hopening]
    dsimp only
    rw [matchingParen_eq, ok_bind]
    rcases hi : RouteExpr.Expr.takeInner 0 after with _ | ⟨inner, rest⟩
    · rfl
    · obtain ⟨closing, -, rfl⟩ := RouteExpr.Expr.takeInner_eq_some hi
      have hall : PartAt ((name ++ opening :: (inner ++ closing :: rest)).map Cut.of) 0
          (name.map Cut.of ++ ([Cut.of opening] ++ inner.map Cut.of)) :=
        ⟨[], (closing :: rest).map Cut.of, by simp, rfl⟩
      have hrest : slice ((name ++ opening :: (inner ++ closing :: rest)).map Cut.of)
          (name.length + 1 + inner.length + 1) _ = .ok (rest.map Cut.of) :=
        slice_last ((name ++ opening :: (inner ++ [closing])).map Cut.of) (by simp) (by simp; omega)
      have hname' := hall.left.slice_eq (j := name.length) (by simp)
      have hinner := hall.right.right.slice
      simp only [List.length_map, List.length_singleton, Nat.zero_add] at hinner
      simp only [Option.map_some, Option.bind_some, hrest, ok_bind, List.all_map, isBlank_comp_of]
      split
      · rw [hname', ok_bind, hinner]
        rfl
      · rfl

/-! ## Readings of parts -/

variable {text : String} {most : Nat} {block : ReadBlock} {plain : RouteExpr.Expr.ReadBlock}

/-- Placeholder tokens of at most so many characters are read the same way. -/
def MirrorsBlocks (text : String) (most : Nat) (block : ReadBlock)
    (plain : RouteExpr.Expr.ReadBlock) : Prop :=
  ∀ t : Token, t.kind.isPlaceholder = true → t.Fits text.toList most →
    Mirrors text Eq (block (.of t)) (plain t)

theorem raw_eq {t : Token} (h : t.Fits text.toList most) : raw text (.of t) = .ok t.raw :=
  h.partAt.slice

theorem length_closing {t : Token} (hk : t.kind.isPlaceholder = true) : t.kind.closing.length = 1 := by
  obtain ⟨m, hm⟩ := RouteExpr.Expr.isPlaceholder_iff.1 hk
  rw [hm]
  rfl

/-- A token that one character closes stops one past its text. -/
theorem minus_stop {t : Token} (h : t.kind.closing.length = 1) :
    minus (Cut.of t).stop 1 = .ok (t.textStart + t.text.length) := by
  rw [Cut.of_stop, ← t.textStart_add, h, minus_add]

/-- The text of a quoted token stands between its first and its last character. -/
theorem minus_stop_quoted {t : Token} {q : Quote} (hq : t.kind = .quoted q) :
    minus (Cut.of t).stop 1 = .ok (t.textStart + t.text.length) ∧ t.start + 1 = t.textStart := by
  refine ⟨minus_stop ?_, ?_⟩
  · rw [hq]; rfl
  · rw [Token.textStart, hq]; rfl

theorem segmentParts_mirrors (hb : MirrorsBlocks text most block plain)
    (hts : ∀ t ∈ ts, t.Fits text.toList most) :
    Mirrors text Eq (segmentParts text block (ts.map Cut.of))
      (RouteExpr.Expr.segmentParts plain ts) := by
  induction ts with
  | nil => exact .ok rfl
  | cons t ts ih =>
    have ht := hts t List.mem_cons_self
    have ih := ih fun u hu => hts u (List.mem_cons_of_mem t hu)
    rw [List.map_cons, segmentParts]
    by_cases hk : t.kind.isPlaceholder = true
    · obtain ⟨m, hm⟩ := RouteExpr.Expr.isPlaceholder_iff.1 hk
      rw [RouteExpr.Expr.segmentParts_placeholder hm, Cut.of_token, hm]
      refine (hb t hk ht).bind fun node _ hnode => ih.bind_pure fun parts _ hparts => ?_
      rw [hnode, hparts]
    · rw [RouteExpr.Expr.segmentParts_text (by simpa using hk)]
      split
      · rename_i m hm
        exact absurd (RouteExpr.Expr.isPlaceholder_iff.2 ⟨m, hm⟩) hk
      · rw [raw_eq ht, ok_bind]
        exact ih.map fun parts _ hparts => by rw [hparts]

theorem joinParts_eq : ∀ parts : List Expr, joinParts parts = .ok (join parts)
  | [] => rfl
  | [_] => rfl
  | _ :: _ :: _ => rfl

theorem joinParts_mirrors {x : Checked (List Expr)} {y : Except Fault (List Expr)}
    (h : Mirrors text Eq x y) : Mirrors text Eq (x >>= joinParts) (y.map join) := by
  have hmap : y.map join = y >>= fun parts => .ok (join parts) := by cases y <;> rfl
  rw [hmap]
  refine h.bind fun parts _ hparts => ?_
  rw [joinParts_eq, hparts]
  exact .ok rfl

theorem segment_mirrors (hb : MirrorsBlocks text most block plain)
    (hts : ∀ t ∈ ts, t.Fits text.toList most) :
    Mirrors text Eq (segment text block (ts.map Cut.of)) (RouteExpr.Expr.segment plain ts) := by
  rw [segment, trimBlanks_eq, ok_bind, RouteExpr.Expr.segment]
  refine joinParts_mirrors (segmentParts_mirrors hb fun t ht => hts t ?_)
  exact (RouteExpr.Expr.trimTokens_isInfix ts).subset ht

/-! ## Regions -/

variable {c : Cursor} {x : Lexed}

theorem takeAll_mirrors (n : Nat) (hc : c.Reads text x) (hx : x.Fits text.toList most)
    (hn : x.size < n) :
    Mirrors text (fun r ts => r = (ts.map Cut.of, Cut.of ⟨.eof, [], x.stop⟩) ∧
      ∀ t ∈ ts, t.Fits text.toList most) (takeAll n c) x.toTokens := by
  induction n generalizing c x with
  | zero => exact absurd hn (Nat.not_lt_zero _)
  | succ n ih =>
    rw [takeAll]
    rcases x with offset | f | ⟨t, rest⟩
    · obtain ⟨c', hnext⟩ := hc.next_eof
      rw [hnext, ok_bind]
      exact .ok ⟨rfl, nofun⟩
    · obtain ⟨hnext, hf⟩ := hc.next_fault
      rw [hnext]
      exact .fault hf
    · obtain ⟨c', hnext, hrest⟩ := hc.next_token
      obtain ⟨ht, hfits⟩ := hx
      rw [Lexed.size] at hn
      rw [hnext, ok_bind, Lexed.toTokens]
      simp only [Cut.of_token, ht.ne_eof, if_false]
      rcases (ih hrest hfits (by omega)).cases with ⟨r, ts, hr, hts, rfl, hall⟩ | ⟨f, hr, hts, hf⟩ <;>
        rw [hr, hts]
      · refine .ok ⟨rfl, fun u hu => ?_⟩
        rcases List.mem_cons.1 hu with rfl | hu
        · exact ht
        · exact hall u hu
      · exact .fault hf

theorem takeSuffix_mirrors (hc : c.Reads text x) :
    Mirrors text (fun r s => s = x.takeSuffix ∧ r.1 = s.1 ∧ r.2.Reads text s.2) c.takeSuffix
      (x.ready.map Lexed.takeSuffix) := by
  rw [Cursor.takeSuffix]
  rcases x with offset | f | ⟨t, rest⟩
  · obtain ⟨⟨_, c'⟩, hpeek, rfl, hc'⟩ := hc.peek.of_ok
    rw [hpeek]
    exact .ok ⟨rfl, rfl, hc'⟩
  · obtain ⟨hpeek, hf⟩ := hc.peek.of_error
    rw [hpeek]
    exact .fault hf
  · obtain ⟨⟨_, c'⟩, hpeek, rfl, hc'⟩ := hc.peek.of_ok
    rw [hpeek, ok_bind]
    obtain ⟨kind, chars, start⟩ := t
    cases kind with
    | suffix s =>
      obtain ⟨c'', hnext, hrest⟩ := hc'.next_token
      dsimp only [Cut.of_token]
      rw [hnext]
      exact .ok ⟨rfl, rfl, hrest⟩
    | _ => exact .ok ⟨rfl, rfl, hc'⟩

/-- A placeholder in a template, with a fault right behind it told apart. -/
theorem templateParts_placeholder_ready {t : Token} {rest : Lexed} {m : Marker}
    (ht : t.kind = .placeholder m) :
    RouteExpr.Expr.templateParts plain (.token t rest) = (do
      let node ← plain t
      let (suffix, rest) ← rest.ready.map Lexed.takeSuffix
      let parts ← RouteExpr.Expr.templateParts plain rest
      return stepped suffix node :: parts) := by
  rw [RouteExpr.Expr.templateParts_placeholder ht]
  cases rest <;> rfl

theorem Lexed.fits_takeSuffix (hx : x.Fits text.toList most) :
    x.takeSuffix.2.Fits text.toList most := by
  rcases x with offset | f | ⟨⟨kind, chars, start⟩, rest⟩
  · exact hx
  · exact hx
  · cases kind with
    | suffix s => exact hx.2
    | _ => exact hx

theorem templateParts_mirrors (hb : MirrorsBlocks text most block plain) (n : Nat)
    (hc : c.Reads text x) (hx : x.Fits text.toList most) (hn : x.size < n) :
    Mirrors text Eq (templateParts text block n c) (RouteExpr.Expr.templateParts plain x) := by
  induction n generalizing c x with
  | zero => exact absurd hn (Nat.not_lt_zero _)
  | succ n ih =>
    rw [templateParts]
    rcases x with offset | f | ⟨t, rest⟩
    · obtain ⟨c', hnext⟩ := hc.next_eof
      rw [hnext, ok_bind]
      exact .ok rfl
    · obtain ⟨hnext, hf⟩ := hc.next_fault
      rw [hnext]
      exact .fault hf
    · obtain ⟨c', hnext, hrest⟩ := hc.next_token
      obtain ⟨ht, hfits⟩ := hx
      rw [Lexed.size] at hn
      rw [hnext, ok_bind]
      by_cases hk : t.kind.isPlaceholder = true
      · obtain ⟨m, hm⟩ := RouteExpr.Expr.isPlaceholder_iff.1 hk
        rw [templateParts_placeholder_ready hm]
        simp only [Cut.of_token, hm]
        refine (hb t hk ht).bind fun node _ hnode =>
          (takeSuffix_mirrors hrest).bind fun r s hrs => ?_
        obtain ⟨rfl, hsuffix, hmore⟩ := hrs
        have hsize := rest.size_takeSuffix
        refine (ih hmore (Lexed.fits_takeSuffix hfits) (by omega)).bind_pure fun parts _ hparts => ?_
        rw [hnode, hsuffix, hparts]
      · rw [RouteExpr.Expr.templateParts_text (by simpa using hk)]
        simp only [Cut.of_token]
        split
        · rename_i he
          exact absurd he ht.ne_eof
        · rename_i m hm
          exact absurd (RouteExpr.Expr.isPlaceholder_iff.2 ⟨m, hm⟩) hk
        · rw [raw_eq ht, ok_bind]
          exact (ih hrest hfits (by omega)).map fun parts _ hparts => by rw [hparts]

theorem template_mirrors {first stop : Nat} {region : List Char}
    (hb : MirrorsBlocks text most block plain) (hr : PartAt text.toList first region)
    (hstop : first + region.length = stop) (hm : region.length ≤ most) :
    Mirrors text Eq (template text block first stop)
      (RouteExpr.Expr.template plain first region) := by
  have hsize := Lexed.size_of .template first region
  have hle := hr.le_length
  refine joinParts_mirrors
    (templateParts_mirrors hb _ (Cursor.reads_slice .template hr hstop) ?_ (by omega))
  exact (Lexed.fits_of hr).mono hm

/-! ## Inside placeholders, mirrored -/

theorem argument_mirrors (hb : MirrorsBlocks text most block plain)
    (hts : ∀ t ∈ ts, t.Fits text.toList most) :
    Mirrors text Eq (argument text block (ts.map Cut.of)) (RouteExpr.Expr.argument plain ts) := by
  have hseg := segment_mirrors hb hts
  have hsub := (RouteExpr.Expr.trimTokens_isInfix ts).subset
  rw [argument, trimBlanks_eq, ok_bind, RouteExpr.Expr.argument]
  generalize RouteExpr.Expr.trimTokens ts = trimmed at hsub ⊢
  rcases trimmed with _ | ⟨t, _ | ⟨u, us⟩⟩
  · exact hseg
  · have ht := hts t (hsub List.mem_cons_self)
    obtain ⟨kind, chars, start⟩ := t
    cases kind with
    | quoted q =>
      obtain ⟨hminus, -⟩ := minus_stop_quoted (t := ⟨.quoted q, chars, start⟩) rfl
      have hlen := Nat.le_trans (Nat.le_of_add_right_le (Token.text_add_le _)) ht.length_le
      simp only [List.map_cons, List.map_nil, Cut.of_token, hminus, ok_bind]
      exact template_mirrors hb ht.partAt_text rfl hlen
    | _ => exact hseg
  · obtain ⟨kind, chars, start⟩ := t
    cases kind <;> exact hseg

/-- The parts between commas with tokens more at the start of the first. -/
def appendFirst (ts : List Token) : List (List Token) → List (List Token)
  | [] => [ts]
  | first :: others => (ts ++ first) :: others

theorem appendFirst_consFirst (ts : List Token) (t : Token) (parts : List (List Token)) :
    appendFirst ts (RouteExpr.Expr.consFirst t parts) = appendFirst (ts ++ [t]) parts := by
  cases parts <;> simp [appendFirst, RouteExpr.Expr.consFirst]

theorem splitArguments_cons (read : List Cut → Checked Expr) (all cuts : List Cut)
    (d first i : Nat) (t : Token) :
    splitArguments read all d first i (Cut.of t :: cuts) =
      if t.kind = .comma ∧ d = 0 then do
        let arg ← read (← slice all first i)
        return arg :: (← splitArguments read all 0 (i + 1) (i + 1) cuts)
      else splitArguments read all (RouteExpr.Expr.depthPast d t.kind) first (i + 1) cuts := by
  obtain ⟨kind, chars, start⟩ := t
  cases kind with
  | comma => cases d <;> rfl
  | _ => rfl

/-- Slicing the tokens between the indices of commas is splitting them at the commas. -/
theorem splitArguments_mirrors {read : List Cut → Checked Expr}
    {plainRead : List Token → Except Fault Expr} {p : Token → Prop}
    (hread : ∀ part : List Token, (∀ t ∈ part, p t) →
      Mirrors text Eq (read (part.map Cut.of)) (plainRead part))
    (before part rest : List Token) (d : Nat) (hpart : ∀ t ∈ part, p t) (hrest : ∀ t ∈ rest, p t) :
    Mirrors text Eq
      (splitArguments read ((before ++ part ++ rest).map Cut.of) d before.length
        (before.length + part.length) (rest.map Cut.of))
      ((appendFirst part (RouteExpr.Expr.splitArguments d rest)).mapM plainRead) := by
  induction rest generalizing before part d with
  | nil =>
    have hslice : slice ((before ++ part ++ []).map Cut.of) before.length _ = .ok (part.map Cut.of) :=
      slice_last (before.map Cut.of) (by simp) (by simp)
    rw [List.map_nil, splitArguments, hslice, ok_bind, RouteExpr.Expr.splitArguments, appendFirst,
      List.append_nil, List.mapM_cons]
    refine (hread part hpart).bind fun arg _ harg => ?_
    exact .ok (by rw [harg]; rfl)
  | cons t rest ih =>
    have ht := hrest t List.mem_cons_self
    have hrest' := fun u hu => hrest u (List.mem_cons_of_mem t hu)
    rw [List.map_cons, splitArguments_cons, RouteExpr.Expr.splitArguments_cons]
    by_cases hcomma : t.kind = .comma ∧ d = 0
    · have hslice : slice ((before ++ part ++ t :: rest).map Cut.of) before.length
          (before.length + part.length) = .ok (part.map Cut.of) :=
        PartAt.slice_eq ⟨before.map Cut.of, (t :: rest).map Cut.of, by simp, by simp⟩ (by simp)
      have hmore := ih (before ++ part ++ [t]) [] 0 (fun _ hu => absurd hu List.not_mem_nil) hrest'
      obtain ⟨first, others, hsplit, -⟩ := RouteExpr.Expr.splitArguments_isInfix 0 rest
      rw [hsplit] at hmore ⊢
      simp only [List.append_nil, List.append_assoc, List.singleton_append, List.length_append,
        List.length_nil, List.length_singleton, Nat.add_zero, appendFirst, List.nil_append,
        ← Nat.add_assoc] at hmore hslice
      rw [if_pos hcomma, if_pos hcomma, appendFirst, List.append_nil, List.mapM_cons,
        List.append_assoc, hslice, ok_bind]
      refine (hread part hpart).bind fun arg _ harg => hmore.bind_pure fun args _ hargs => ?_
      rw [harg, hargs]
    · rw [if_neg hcomma, if_neg hcomma, appendFirst_consFirst]
      have hmore := ih before (part ++ [t]) (RouteExpr.Expr.depthPast d t.kind) (fun u hu => by
        rcases List.mem_append.1 hu with hu | hu
        · exact hpart u hu
        · rw [List.mem_singleton.1 hu]; exact ht) hrest'
      simpa only [List.append_assoc, List.singleton_append, List.length_append,
        List.length_singleton, ← Nat.add_assoc] using hmore

theorem isEmpty_trimTokens (ts : List Token) :
    (RouteExpr.Expr.trimTokens ts).isEmpty = ts.all Token.isBlank := by
  rw [Bool.eq_iff_iff, List.isEmpty_iff, List.all_eq_true]
  constructor
  · intro h t ht
    obtain ⟨front, back, hts, hblank⟩ := RouteExpr.Expr.trimTokens_split ts
    rw [hts, h, List.append_nil] at ht
    exact hblank t ht
  · intro h
    rw [RouteExpr.Expr.trimTokens, List.dropWhile_eq_nil_iff.2 h]
    rfl

theorem arguments_mirrors (hb : MirrorsBlocks text most block plain)
    (hts : ∀ t ∈ ts, t.Fits text.toList most) :
    Mirrors text Eq (arguments text block (ts.map Cut.of)) (RouteExpr.Expr.arguments plain ts) := by
  rw [arguments, trimBlanks_eq, ok_bind, RouteExpr.Expr.arguments, ← isEmpty_trimTokens]
  simp only [List.isEmpty_map]
  split
  · exact .ok rfl
  · obtain ⟨first, others, hsplit, -⟩ := RouteExpr.Expr.splitArguments_isInfix 0 ts
    have hmore := splitArguments_mirrors (fun part => argument_mirrors hb) [] [] ts 0
      (fun _ hu => absurd hu List.not_mem_nil) hts
    rw [hsplit] at hmore ⊢
    exact hmore

theorem inside_mirrors (hb : MirrorsBlocks text most block plain)
    (hts : ∀ t ∈ ts, t.Fits text.toList most) :
    Mirrors text Eq (inside text block (ts.map Cut.of)) (RouteExpr.Expr.inside plain ts) := by
  rw [inside, splitCall?_eq, ok_bind, RouteExpr.Expr.inside]
  rcases hs : RouteExpr.Expr.splitCall? ts with _ | ⟨name, args⟩
  · exact (segment_mirrors hb hts).map fun name _ hname => by rw [hname]
  · obtain ⟨hname, hargs⟩ := RouteExpr.Expr.splitCall?_isInfix hs
    refine (segment_mirrors hb fun t ht => hts t (hname.subset ht)).bind fun name _ hname' =>
      (arguments_mirrors hb fun t ht => hts t (hargs.subset ht)).bind_pure fun args _ hargs' => ?_
    rw [hname', hargs']

/-! ## Blocks and whole texts, mirrored -/

/-- Blocks are read within their bounds. -/
theorem readBlockTo_mirrors (n : Nat) : ∀ {m : Nat} {t : Token}, t.kind.isPlaceholder = true →
    t.Fits text.toList most → t.text.length ≤ m → t.text.length < n →
    Mirrors text Eq (readBlockTo text n (.of t)) (RouteExpr.Expr.readBlockTo m t) := by
  induction n generalizing most with
  | zero => exact fun _ _ _ hn => absurd hn (Nat.not_lt_zero _)
  | succ n ih =>
    intro m t hk ht hm hn
    have hadd := t.textStart_add
    rw [length_closing hk] at hadd
    have hclose : t.stop - 1 = t.textStart + t.text.length := by omega
    have hstop := ht.stop_le
    rw [readBlockTo, minus_stop (length_closing hk), ok_bind]
    by_cases hblank : Text.allBlank t.text = true
    · have hplain : RouteExpr.Expr.readBlockTo m t = .error ⟨t.stop - 1, .namelessPlaceholder⟩ := by
        cases m with
        | zero => rfl
        | succ m => rw [RouteExpr.Expr.readBlockTo, if_pos hblank]
      rw [hplain, hclose, Cut.of_token, if_pos hblank]
      exact .error (by omega)
    · obtain ⟨m, rfl⟩ : ∃ k, m = k + 1 := by
        cases m with
        | zero => exact absurd (by rw [List.length_eq_zero_iff.1 (Nat.le_zero.1 hm)]; rfl) hblank
        | succ m => exact ⟨m, rfl⟩
      rw [RouteExpr.Expr.readBlockTo, Cut.of_token, if_neg hblank, if_neg hblank]
      have hsize := Lexed.size_of .function t.textStart t.text
      refine (takeAll_mirrors _ (Cursor.reads_slice .function ht.partAt_text rfl)
        (Lexed.fits_of ht.partAt_text) (by omega)).bind fun r ts hts => ?_
      obtain ⟨rfl, hts⟩ := hts
      refine inside_mirrors (fun u hu hfits => ?_) hts
      -- a block inside has fewer characters than the text around it
      have hless := u.text_add_le
      rw [length_closing hu] at hless
      have hle := hfits.length_le
      exact ih hu hfits (by omega) (by omega)

theorem readBlock_mirrors (text : String) (most : Nat) :
    MirrorsBlocks text most (readBlock text) RouteExpr.Expr.readBlock := fun t hk ht => by
  have hadd := t.textStart_add
  have hstop := ht.stop_le
  exact readBlockTo_mirrors _ hk ht (Nat.le_refl _) (by omega)

/-- A region of a text is read as the same expression, or has the same fault. -/
theorem readRegion_mirrors {first stop : Nat} {region : List Char}
    (hr : PartAt text.toList first region) (hstop : first + region.length = stop) :
    Mirrors text Eq (readRegion text first stop) (RouteExpr.Expr.readRegion first region) :=
  template_mirrors (readBlock_mirrors text region.length) hr hstop (Nat.le_refl _)

theorem readExpression_mirrors (text : String) :
    Mirrors text Eq (readExpression text) (RouteExpr.Expr.read text.toList) :=
  readRegion_mirrors (partAt_self _) (by rw [Nat.zero_add, String.length_toList])

theorem tokenize_mirrors (mode : Mode) (text : String) :
    Mirrors text (fun cuts ts => cuts = ts.map Cut.of) (tokenize mode text)
      (RouteExpr.tokenize mode text.toList) := by
  have hr := partAt_self text.toList
  have hsize := Lexed.size_of mode 0 text.toList
  rw [String.length_toList] at hsize
  rw [RouteExpr.tokenize, Lexed.toTokensEof_eq]
  refine (takeAll_mirrors _ (Cursor.reads_slice mode hr ?_) (Lexed.fits_of hr) (by omega)).map ?_
  · rw [Nat.zero_add, String.length_toList]
  · rintro r ts ⟨rfl, -⟩
    rw [List.map_append]
    rfl

end Tokens

end RouteExpr.Checked
