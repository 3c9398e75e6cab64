/-
Predicates joined by a connective: two texts with `||` or `&&` between them are read as the two
predicates joined, and hold as the two predicates say, the second being asked only where the first
does not decide.
-/
import RouteExpr.Evaluation
import RouteExpr.Proofs.Predicate.Extend
import RouteExpr.Proofs.Token.Word

namespace RouteExpr

open Lexer Predicate

/-! ## Joined trees -/

namespace Predicate

/-- The groups of a predicate, of which one has to hold. -/
def groups : Predicate → List Predicate
  | any ps => ps
  | p => [p]

/-- The conditions of a group, all of which have to hold. -/
def conditions : Predicate → List Predicate
  | all ps => ps
  | p => [p]

/-- Groups of which the last and the first of the others are one. -/
def meet : List Predicate → List Predicate → List Predicate
  | [], qs => qs
  | [p], [] => [p]
  | [p], q :: qs => all (p.conditions ++ q.conditions) :: qs
  | p :: ps, qs => p :: meet ps qs

/-- Two predicates with a connective between them. -/
def joined : Connective → Predicate → Predicate → Predicate
  | .or, p, q => any (p.groups ++ q.groups)
  | .and, p, q => collapse any (meet p.groups q.groups)

/-! ## Trees that are read -/

/-- Whether a predicate is a single condition. -/
def isCondition : Predicate → Bool
  | all _ => false
  | any _ => false
  | _ => true

/-- Groups as they are read: none is empty, and they hold nothing but conditions. -/
def Flat (groups : List (List Predicate)) : Prop :=
  groups ≠ [] ∧ ∀ group ∈ groups, group ≠ [] ∧ ∀ p ∈ group, p.isCondition = true

variable {classes : ClassTable}

theorem readCondition_isCondition {l r : Lexed} {p : Predicate}
    (h : readCondition classes l = .ok (p, r)) : p.isCondition = true := by
  obtain ⟨left, rest, rest', -, -, hafter⟩ := readCondition_eq_ok h
  rcases afterLeft_eq_ok hafter with ⟨_, _, _, _, _, _, -, -, -, rfl⟩ | ⟨-, rfl, -⟩
  · rfl
  · cases left <;> rfl

theorem Flat.attach {p : Predicate} {groups : List (List Predicate)} (hp : p.isCondition = true)
    (h : Flat groups) (c : Connective) : Flat (attach p c groups) := by
  have single : [p] ≠ [] ∧ ∀ q ∈ [p], q.isCondition = true :=
    ⟨by simp, fun q hq => by rw [List.mem_singleton.1 hq]; exact hp⟩
  obtain ⟨hne, hall⟩ := h
  -- `or` starts a group of its own, `and` makes the first group longer
  match c, groups, hne with
  | .or, group :: groups, _ =>
    refine ⟨by simp [Predicate.attach], fun g hg => ?_⟩
    rcases List.mem_cons.1 hg with rfl | hg
    · exact single
    · exact hall g hg
  | .and, group :: groups, _ =>
    refine ⟨by simp [Predicate.attach], fun g hg => ?_⟩
    rcases List.mem_cons.1 hg with rfl | hg
    · refine ⟨by simp, fun q hq => ?_⟩
      rcases List.mem_cons.1 hq with rfl | hq
      · exact hp
      · exact (hall group List.mem_cons_self).2 q hq
    · exact hall g (List.mem_cons_of_mem _ hg)

theorem readChain_flat : ∀ (n : Nat) {l : Lexed} {groups : List (List Predicate)},
    readChain classes n l = .ok groups → Flat groups
  | n, l, groups, h => by
    obtain ⟨p, rest, rest', hp, -, ⟨-, rfl⟩ |
      ⟨m, t, after, next, c, groups', rfl, -, -, -, -, hgroups, rfl⟩⟩ := readChain_eq_ok h
    · refine ⟨by simp, fun g hg => ?_⟩
      rw [List.mem_singleton.1 hg]
      exact ⟨by simp, fun q hq => by
        rw [List.mem_singleton.1 hq]; exact readCondition_isCondition hp⟩
    · exact (readChain_flat m hgroups).attach (readCondition_isCondition hp) c
  termination_by n => n

theorem conditions_collapse : ∀ {group : List Predicate}, group ≠ [] →
    (∀ p ∈ group, p.isCondition = true) → (collapse all group).conditions = group
  | [p], _, h => by
    have hp := h p List.mem_cons_self
    cases p <;> first | rfl | cases hp
  | _ :: _ :: _, _, _ => rfl

/-- The groups of what is read are the groups that were read. -/
theorem groups_ofGroups {groups : List (List Predicate)} (h : Flat groups) :
    (ofGroups groups).groups = groups.map (collapse all) := by
  obtain ⟨hne, hall⟩ := h
  match groups, hne with
  | [[]], _ => exact absurd rfl (hall [] List.mem_cons_self).1
  | [[p]], _ =>
    have hp := (hall [p] List.mem_cons_self).2 p List.mem_cons_self
    cases p <;> first | rfl | cases hp
  | [_ :: _ :: _], _ => rfl
  | _ :: _ :: _, _ => rfl

theorem collapse_all_append {g h : List Predicate} (hg : g ≠ [] ∧ ∀ p ∈ g, p.isCondition = true)
    (hh : h ≠ [] ∧ ∀ p ∈ h, p.isCondition = true) :
    collapse all (g ++ h) = all ((collapse all g).conditions ++ (collapse all h).conditions) := by
  rw [conditions_collapse hg.1 hg.2, conditions_collapse hh.1 hh.2]
  match g, h, hg.1, hh.1 with
  | [_], _ :: _, _, _ => rfl
  | _ :: _ :: _, _ :: _, _, _ => rfl

theorem map_joinGroups_and {groups' : List (List Predicate)} (h' : Flat groups') :
    ∀ {groups : List (List Predicate)}, Flat groups →
      (joinGroups .and groups groups').map (collapse all) =
        meet (groups.map (collapse all)) (groups'.map (collapse all))
  | [], h => absurd rfl h.1
  | [g], h => by
    obtain ⟨hne', hall'⟩ := h'
    match groups', hne' with
    | g' :: gs', _ =>
      have := collapse_all_append (h.2 g List.mem_cons_self) (hall' g' List.mem_cons_self)
      rw [joinGroups, List.map_cons, this]
      rfl
  | g :: g₂ :: gs, h => by
    have hrest : Flat (g₂ :: gs) := ⟨by simp, fun g hg => h.2 g (List.mem_cons_of_mem _ hg)⟩
    have ih := map_joinGroups_and h' hrest
    rw [joinGroups, List.map_cons, ih]
    · rfl
    · simp

theorem joinGroups_or {groups : List (List Predicate)} (hne : groups ≠ [])
    (groups' : List (List Predicate)) : joinGroups .or groups groups' = groups ++ groups' := by
  match groups, hne with
  | [g], _ => rfl
  | g :: g₂ :: gs, _ =>
    have ih := joinGroups_or (List.cons_ne_nil g₂ gs) groups'
    rw [joinGroups, ih]
    · rfl
    · simp

/-- The predicate of joined groups is the predicates of the groups, joined. -/
theorem ofGroups_joinGroups (c : Connective) {groups groups' : List (List Predicate)}
    (h : Flat groups) (h' : Flat groups') :
    ofGroups (joinGroups c groups groups') = joined c (ofGroups groups) (ofGroups groups') := by
  cases c with
  | and =>
    rw [joined, groups_ofGroups h, groups_ofGroups h', ← map_joinGroups_and h' h, ofGroups]
  | or =>
    rw [joined, groups_ofGroups h, groups_ofGroups h', joinGroups_or h.1, ofGroups, List.map_append]
    match groups, groups', h.1, h'.1 with
    | [_], _ :: _, _, _ => rfl
    | _ :: _ :: _, _ :: _, _, _ => rfl

/-! ## Joined outcomes -/

variable (ctx : Context)

theorem evaluateAny_append (ps qs : List Predicate) :
    evaluateAny ctx (ps ++ qs) = (do
      if ← evaluateAny ctx ps then return true else evaluateAny ctx qs) := by
  induction ps with
  | nil => rfl
  | cons p ps ih =>
    rw [List.cons_append, evaluateAny, evaluateAny, ih]
    rcases evaluate ctx p with err | _ | _ <;> rfl

theorem evaluateAll_append (ps qs : List Predicate) :
    evaluateAll ctx (ps ++ qs) = (do
      if ← evaluateAll ctx ps then evaluateAll ctx qs else return false) := by
  induction ps with
  | nil => rfl
  | cons p ps ih =>
    rw [List.cons_append, evaluateAll, evaluateAll, ih]
    rcases evaluate ctx p with err | _ | _ <;> rfl

/-- A predicate holds as one of its groups does. -/
theorem evaluateAny_groups (p : Predicate) : evaluateAny ctx p.groups = evaluate ctx p := by
  have single (p : Predicate) : evaluateAny ctx [p] = evaluate ctx p := by
    rw [evaluateAny, evaluateAny]
    rcases evaluate ctx p with err | _ | _ <;> rfl
  cases p with
  | any ps => rw [evaluate]; rfl
  | _ => exact single _

/-- A group holds as all of its conditions do. -/
theorem evaluateAll_conditions (p : Predicate) :
    evaluateAll ctx p.conditions = evaluate ctx p := by
  have single (p : Predicate) : evaluateAll ctx [p] = evaluate ctx p := by
    rw [evaluateAll, evaluateAll]
    rcases evaluate ctx p with err | _ | _ <;> rfl
  cases p with
  | all ps => rw [evaluate]; rfl
  | _ => exact single _

theorem evaluate_joined_or (p q : Predicate) :
    evaluate ctx (joined .or p q) = (do
      if ← evaluate ctx p then return true else evaluate ctx q) := by
  rw [joined, evaluate, evaluateAny_append, evaluateAny_groups, evaluateAny_groups]

theorem evaluate_joined_and {p q : Predicate} (hp : p.groups = [p]) (hq : q.groups = [q]) :
    evaluate ctx (joined .and p q) = (do
      if ← evaluate ctx p then evaluate ctx q else return false) := by
  rw [joined, hp, hq]
  show evaluate ctx (all (p.conditions ++ q.conditions)) = _
  rw [evaluate, evaluateAll_append, evaluateAll_conditions, evaluateAll_conditions]

end Predicate

/-! ## Joined texts -/

namespace Connective

/-- The ways to write a connective between two predicates. -/
def between : Connective → List (List Char)
  | .or => [[' ', '|', '|', ' '], [' ', 'o', 'r', ' ']]
  | .and => [[' ', '&', '&', ' '], [' ', 'a', 'n', 'd', ' ']]

/-- The ways to write a connective. -/
def spellings : Connective → List (List Char)
  | .or => [['|', '|'], ['o', 'r']]
  | .and => [['&', '&'], ['a', 'n', 'd']]

/-- A word that is a connective between blanks, and that no word before it takes up. -/
structure IsWord (c : Connective) (word : List Char) : Prop extends PlainWord word where
  not_with : word ≠ "with".toList
  not_edge : edge? word = none
  not_keyword : Comparison.ofKeyword? (String.ofList word) = none
  token : takeSymbol? word = some (.connective c, word, []) ∨
    takeSymbol? word = none ∧ ∀ rest, classifyWord word rest = (.connective c, word, rest)

variable {c : Connective} {s word : List Char}

theorem isWord_of_spelling (hw : word ∈ c.spellings) : c.IsWord word := by
  cases c <;> simp only [spellings, List.mem_cons, List.not_mem_nil, or_false] at hw <;>
    rcases hw with rfl | rfl
  · exact ⟨⟨by decide, by simp [Text.isBlank, quote?]⟩, by decide, by decide, by decide, .inl rfl⟩
  · exact ⟨⟨by decide, by simp [Text.isBlank, quote?]⟩, by decide, by decide, by decide,
      .inr ⟨rfl, fun _ => rfl⟩⟩
  · exact ⟨⟨by decide, by simp [Text.isBlank, quote?]⟩, by decide, by decide, by decide, .inl rfl⟩
  · exact ⟨⟨by decide, by simp [Text.isBlank, quote?]⟩, by decide, by decide, by decide,
      .inr ⟨rfl, fun _ => rfl⟩⟩

theorem isWord_of_between (hs : s ∈ c.between) :
    ∃ word, s = ' ' :: (word ++ [' ']) ∧ c.IsWord word := by
  have hspelling : ∃ word ∈ c.spellings, s = ' ' :: (word ++ [' ']) := by
    cases c <;> simpa [between, spellings] using hs
  obtain ⟨word, hw, rfl⟩ := hspelling
  exact ⟨word, rfl, isWord_of_spelling hw⟩

theorem IsWord.blanks (h : c.IsWord word) (rest : List Char) :
    (' ' :: (word ++ rest)).takeWhile Text.isBlank = [' '] ∧
      (' ' :: (word ++ rest)).dropWhile Text.isBlank = word ++ rest := by
  obtain ⟨d, more, rfl, hd⟩ := h.eq_cons
  exact blanks_space ⟨d, more ++ rest, rfl, hd⟩

theorem IsWord.apart (h : c.IsWord word) {rest : List Char} (hrest : AfterWord rest) :
    Lexer.Apart (' ' :: (word ++ rest)) :=
  h.toPlainWord.apart h.not_with h.not_edge h.not_keyword hrest

/-- The word of a connective that ends where words end is its token. -/
theorem IsWord.lexed (h : c.IsWord word) {rest : List Char} (hrest : AfterWord rest) (offset : Nat) :
    Lexed.of .predicate offset (word ++ rest) =
      .token ⟨.connective c, word, offset⟩ (Lexed.of .predicate (offset + word.length) rest) := by
  refine h.toPlainWord.lexed (.inr (.inl ⟨c, rfl⟩)) ?_ offset
  rw [hrest.takeSymbol?, h.takeWord hrest]
  rcases h.token with hsome | ⟨hnone, hclass⟩
  · exact .inl (by rw [hsome]; rfl)
  · exact .inr ⟨by rw [hnone]; rfl, hclass _⟩

end Connective

/-! ## Joining -/

namespace Predicate

variable {classes : ClassTable}

/-- A text that is not blank and is read, is read as a chain. -/
theorem read_eq_ok {cs : List Char} {p : Predicate} (h : read classes cs = .ok p)
    (hb : Text.allBlank cs = false) :
    ∃ l groups, (Lexed.of .predicate 0 cs).skipBlanks = .ok l ∧ (∃ t rest, l = .token t rest) ∧
      readChain classes l.size l = .ok groups ∧ p = ofGroups groups := by
  unfold read at h
  obtain ⟨l, hl, h⟩ := bind_eq_ok h
  obtain ⟨t, rest, rfl⟩ := Lexed.skipBlanks_eq_token hb hl
  obtain ⟨groups, hg, h⟩ := bind_eq_ok h
  cases h
  exact ⟨_, groups, hl, ⟨t, rest, rfl⟩, hg, rfl⟩

theorem read_of_chain {cs : List Char} {n : Nat} {t : Token} {rest : Lexed}
    {groups : List (List Predicate)}
    (hl : (Lexed.of .predicate 0 cs).skipBlanks = .ok (.token t rest))
    (hg : readChain classes n (.token t rest) = .ok groups) :
    read classes cs = .ok (ofGroups groups) := by
  have hsize := readChain_of_size hg (Nat.le_refl _)
  unfold read
  rw [hl, ok_bind]
  dsimp only
  rw [hsize]
  rfl

/-- A chain starts with no operator and no connective. -/
theorem checkAfter_of_readChain {connective : Token} {n : Nat} {l : Lexed}
    {groups : List (List Predicate)} (h : readChain classes n l = .ok groups) :
    checkAfter connective l = .ok () := by
  obtain ⟨p, rest, rest', hp, -⟩ := readChain_eq_ok h
  obtain ⟨left, rest, rest', hleft, -, -⟩ := readCondition_eq_ok hp
  rcases readValue_eq_ok hleft with ⟨t, rfl, hk, -⟩ | ⟨t, rest, ps, rfl, ⟨m, hk⟩ | ⟨q, hk⟩, -⟩ <;>
    (dsimp only [checkAfter]; rw [hk])

/-- Two texts with a connective between them are read as the two predicates joined. -/
theorem read_between_eq {a b s : List Char} {p q : Predicate} {c : Connective}
    (ha : read classes a = .ok p) (hb : read classes b = .ok q) (hna : Text.allBlank a = false)
    (hnb : Text.allBlank b = false) (hs : s ∈ c.between) :
    read classes (a ++ s ++ b) = .ok (joined c p q) := by
  obtain ⟨word, rfl, hw⟩ := Connective.isWord_of_between hs
  obtain ⟨la, groups, hla, ⟨t, rest, rfl⟩, hga, rfl⟩ := read_eq_ok ha hna
  obtain ⟨lb, groups', hlb, -, hgb, rfl⟩ := read_eq_ok hb hnb
  have htext : a ++ ' ' :: (word ++ [' ']) ++ b = a ++ ' ' :: (word ++ ' ' :: b) := by simp
  -- the tokens of the first text go on with the connective and the second text
  have hafter : AfterWord (' ' :: b) := .inr (startsBlank_cons rfl b)
  have hext := lexed_extend (hw.apart hafter).toStartsBlank (Lexer.start .predicate 0 a) rfl rfl rfl
    fun t _ => (hw.apart hafter).stays t
  rw [(hw.blanks _).2, hw.lexed hafter] at hext
  generalize hk : _ + word.length = k at hext
  -- behind the blank after the connective, moved there
  have hskip : (Lexed.of .predicate k (' ' :: b)).skipBlanks = .ok (lb.shift (k + 1)) := by
    have hshift := Lexed.of_shift .predicate 0 (k + 1) b
    rw [Nat.zero_add] at hshift
    rw [Lexed.skipBlanks_of_cons rfl, hshift, Lexed.skipBlanks_shift, hlb]
    rfl
  have hgb' : readChain classes lb.size (lb.shift (k + 1)) = .ok groups' := by
    rw [readChain_shift, hgb]; rfl
  -- and the first text is read as it is alone, up to the connective
  obtain ⟨l', hl', ⟨⟨_, ⟨⟩⟩, -⟩ | ⟨u, rest₁, rest', heq, rfl, he⟩⟩ :=
    hext.skipBlanks ⟨_, _, rfl, .inl ⟨c, rfl⟩⟩ hla
  cases heq
  obtain ⟨m, hm⟩ := readChain_extends rfl hskip (checkAfter_of_readChain hgb') hgb' _
    (.token t he) hga
  rw [htext, ← ofGroups_joinGroups c (readChain_flat _ hga) (readChain_flat _ hgb)]
  exact read_of_chain hl' hm

/-- Two texts with a connective between them are read as the two predicates joined. Joined by `or`,
they hold where the first does, and elsewhere as the second does; joined by `and`, and unless one of
them has an `or` of its own, they fail to hold where the first does, and elsewhere hold as the
second does. An error of the first is the outcome. -/
theorem read_between {a b s : List Char} {p q : Predicate} {c : Connective}
    (ha : read classes a = .ok p) (hb : read classes b = .ok q) (hna : Text.allBlank a = false)
    (hnb : Text.allBlank b = false) (hs : s ∈ c.between) :
    read classes (a ++ s ++ b) = .ok (joined c p q) ∧
      (c = .or → ∀ ctx, evaluate ctx (joined c p q) =
        (do if ← evaluate ctx p then return true else evaluate ctx q)) ∧
      (c = .and → (∀ ps, p ≠ any ps) → (∀ ps, q ≠ any ps) → ∀ ctx, evaluate ctx (joined c p q) =
        (do if ← evaluate ctx p then evaluate ctx q else return false)) := by
  have alone {p : Predicate} (h : ∀ ps, p ≠ any ps) : p.groups = [p] := by
    cases p with
    | any ps => exact absurd rfl (h ps)
    | _ => rfl
  refine ⟨read_between_eq ha hb hna hnb hs, ?_, ?_⟩
  · rintro rfl ctx
    exact evaluate_joined_or ctx p q
  · rintro rfl hp hq ctx
    exact evaluate_joined_and ctx (alone hp) (alone hq)

/-- Two placeholders, with either connective, where the first is false. -/
theorem read_between_placeholders :
    ∃ p q, read .empty ['$', '\x7b', 'x', '\x7d'] = .ok p ∧
      read .empty ['$', '\x7b', 'y', '\x7d'] = .ok q ∧
      read .empty ['$', '\x7b', 'x', '\x7d', ' ', 'o', 'r', ' ', '$', '\x7b', 'y', '\x7d'] =
        .ok (any [p, q]) ∧
      read .empty ['$', '\x7b', 'x', '\x7d', ' ', '&', '&', ' ', '$', '\x7b', 'y', '\x7d'] =
        .ok (all [p, q]) ∧
      ∀ ctx : Context, evaluate ctx p = .ok false →
        evaluate ctx (any [p, q]) = evaluate ctx q ∧ evaluate ctx (all [p, q]) = .ok false := by
  have ha : read .empty ['$', '\x7b', 'x', '\x7d'] = .ok (truthy (.property (.literal "x"))) := by cbv
  have hb : read .empty ['$', '\x7b', 'y', '\x7d'] = .ok (truthy (.property (.literal "y"))) := by cbv
  have hor := read_between (s := [' ', 'o', 'r', ' ']) (c := .or) ha hb rfl rfl (by decide)
  have hand := read_between (s := [' ', '&', '&', ' ']) (c := .and) ha hb rfl rfl (by decide)
  refine ⟨_, _, ha, hb, hor.1, hand.1, fun ctx hx => ⟨?_, ?_⟩⟩
  · refine (hor.2.1 rfl ctx).trans ?_
    rw [hx]; rfl
  · refine (hand.2.2 rfl (by simp) (by simp) ctx).trans ?_
    rw [hx]; rfl

end Predicate

end RouteExpr
