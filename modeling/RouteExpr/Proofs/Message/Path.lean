/-
Where paths into the body of a message lead.

A path is a chain of keys. One key leads from an object to a field and from a list to an element, or to null
where there is none, and no key leads into a scalar. So a path that is put together from two leads where the
second leads from where the first does, and the property of a path of the body is that value.
-/
import RouteExpr.Message.Host
import RouteExpr.Proofs.Number.Grammar
import RouteExpr.Proofs.Unicode.Latin

namespace RouteExpr

/-! ## Paths and their keys -/

namespace Text

theorem splitOn_of_not_mem {mark : Char} {cs : List Char} (h : mark ∉ cs) : splitOn mark cs = [cs] := by
  induction cs with
  | nil => rfl
  | cons c cs ih =>
    rw [List.mem_cons, not_or] at h
    rw [splitOn, ih h.2]
    dsimp only
    rw [if_neg (Ne.symm h.1)]

/-- The parts of two texts with a mark between them are those of the one and then those of the other. -/
theorem splitOn_marked (mark : Char) (cs ds : List Char) :
    splitOn mark (cs ++ mark :: ds) = splitOn mark cs ++ splitOn mark ds := by
  induction cs with
  | nil => exact splitOn_append List.not_mem_nil ds
  | cons c cs ih =>
    obtain ⟨part, parts, hparts⟩ := List.exists_cons_of_ne_nil (splitOn_ne_nil mark cs)
    rw [List.cons_append, splitOn, splitOn, ih, hparts]
    dsimp only [List.cons_append]
    split <;> rfl

/-- Parts without a mark are found again when marks are put between them. -/
theorem splitOn_intercalate {mark : Char} {parts : List (List Char)} (hne : parts ≠ [])
    (h : ∀ part ∈ parts, mark ∉ part) : splitOn mark ([mark].intercalate parts) = parts := by
  induction parts with
  | nil => exact absurd rfl hne
  | cons part parts ih =>
    obtain ⟨hpart, hparts⟩ := List.forall_mem_cons.1 h
    rcases parts with _ | ⟨next, parts⟩
    · rw [List.intercalate_singleton]
      exact splitOn_of_not_mem hpart
    · rw [List.intercalate_cons_cons, List.append_assoc, List.singleton_append, splitOn_append hpart,
        ih (List.cons_ne_nil _ _) hparts]

end Text

namespace Host

open Numeral (Digits IndexGrammar digitsToNat)

/-! ## One key -/

/-- Where a key leads from a value. -/
inductive Below : Value → List Char → Value → Prop
  | null (key : List Char) : Below .null key .null
  | field {fields : Fields} {key : List Char} {v : Value} (h : fields.get? (String.ofList key) = some v) :
    Below (.object fields) key v
  | noField {fields : Fields} {key : List Char} (h : fields.get? (String.ofList key) = none) :
    Below (.object fields) key .null
  | element {items : List Value} {key : List Char} {i : Nat} {v : Value} (hkey : IndexGrammar key i)
    (h : items[i]? = some v) : Below (.array items) key v
  | noElement {items : List Value} {key : List Char} {i : Nat} (hkey : IndexGrammar key i)
    (h : items.length ≤ i) : Below (.array items) key .null

/-- Where keys lead from a value, one after the other. -/
inductive Reaches : Value → List (List Char) → Value → Prop
  | here (v : Value) : Reaches v [] v
  | further {u v w : Value} {key : List Char} {keys : List (List Char)} (hkey : Below u key v)
    (hkeys : Reaches v keys w) : Reaches u (key :: keys) w

theorem navigateKeys_null (keys : List (List Char)) : navigateKeys .null keys = some .null := by
  cases keys <;> rfl

/-- A key leads on as its keys do from where it leads. -/
theorem navigateKeys_cons {u w : Value} {key : List Char} {keys : List (List Char)} :
    navigateKeys u (key :: keys) = some w ↔ ∃ v, Below u key v ∧ navigateKeys v keys = some w := by
  constructor
  · intro h
    cases u with
    | null => exact ⟨.null, .null key, by rw [navigateKeys_null]; exact h⟩
    | object fields =>
      rw [navigateKeys] at h
      cases hget : Fields.get? fields (String.ofList key) with
      | some v => exact ⟨v, .field hget, by rwa [hget] at h⟩
      | none => exact ⟨.null, .noField hget, by rwa [hget] at h⟩
    | array items =>
      rw [navigateKeys] at h
      cases hindex : readIndex? key with
      | none =>
        rw [hindex] at h
        cases h
      | some i =>
        rw [hindex] at h
        dsimp only at h
        have hkey := readIndex?_iff.1 hindex
        cases hitem : items[i]? with
        | some v => exact ⟨v, .element hkey hitem, by rwa [hitem] at h⟩
        | none => exact ⟨.null, .noElement hkey (List.getElem?_eq_none_iff.1 hitem), by rwa [hitem] at h⟩
    | _ => cases h
  · rintro ⟨v, hbelow, h⟩
    cases hbelow with
    | null =>
      rw [navigateKeys_null] at h
      exact h
    | field hget | noField hget =>
      rw [navigateKeys, hget]
      exact h
    | element hkey hitem =>
      rw [navigateKeys, readIndex?_iff.2 hkey]
      dsimp only
      rw [hitem]
      exact h
    | noElement hkey hlength =>
      rw [navigateKeys, readIndex?_iff.2 hkey]
      dsimp only
      rw [List.getElem?_eq_none hlength]
      exact h

/-! ## Chains of keys -/

theorem reaches_append {u w : Value} {keys more : List (List Char)} :
    Reaches u (keys ++ more) w ↔ ∃ v, Reaches u keys v ∧ Reaches v more w := by
  induction keys generalizing u with
  | nil =>
    constructor
    · exact fun h => ⟨u, .here u, h⟩
    · rintro ⟨_, ⟨⟩, h⟩
      exact h
  | cons key keys ih =>
    constructor
    · rintro (_ | ⟨hkey, h⟩)
      obtain ⟨v, hkeys, hmore⟩ := ih.1 h
      exact ⟨v, .further hkey hkeys, hmore⟩
    · rintro ⟨v, _ | ⟨hkey, hkeys⟩, hmore⟩
      exact .further hkey (ih.2 ⟨v, hkeys, hmore⟩)

theorem navigateKeys_iff {u w : Value} {keys : List (List Char)} :
    navigateKeys u keys = some w ↔ Reaches u keys w := by
  induction keys generalizing u with
  | nil =>
    have hnil : navigateKeys u [] = some u := by cases u <;> rfl
    rw [hnil, Option.some_inj]
    constructor
    · intro heq
      rw [← heq]
      exact .here u
    · rintro ⟨⟩
      rfl
  | cons key keys ih =>
    rw [navigateKeys_cons]
    constructor
    · rintro ⟨v, hkey, h⟩
      exact .further hkey (ih.1 h)
    · rintro (_ | ⟨hkey, h⟩)
      exact ⟨_, hkey, ih.2 h⟩

/-- A path leads where its keys do. -/
theorem navigate_iff {u w : Value} {path : List Char} :
    navigate u path = some w ↔ Reaches u (Text.splitOn '.' path) w :=
  navigateKeys_iff

/-- A path of two with a dot between them leads where the second leads from where the first does. -/
theorem navigate_append (u : Value) (path more : List Char) :
    navigate u (path ++ '.' :: more) = (navigate u path).bind fun v => navigate v more := by
  refine Option.ext fun w => ?_
  rw [navigate_iff, Text.splitOn_marked, reaches_append, Option.bind_eq_some_iff]
  simp only [navigate_iff]

/-! ## Properties of the body -/

variable (h : Host)

/-- The property of a path in the body is the value that the path leads to. -/
theorem property_body (path : String) :
    h.property ("body." ++ path) =
      (navigate h.message.body path.toList).elim (.error (.propertyNotFound ("body." ++ path))) .ok := by
  have hpath : ("body." ++ path).toList = "body.".toList ++ path.toList := String.toList_append
  have hin : Text.afterStart? "in.".toList ("body." ++ path).toList = none := by
    rw [hpath]
    rfl
  have hbody : Text.afterStart? "body.".toList ("body." ++ path).toList = some path.toList := by
    rw [hpath]
    rfl
  have hname : "body." ++ path ≠ "body" := by
    intro heq
    have := congrArg (fun s => s.toList.length) heq
    simp at this
  unfold property
  dsimp only
  rw [hin, Option.getD_none, String.ofList_toList, if_neg hname, hbody]
  dsimp only
  cases navigate h.message.body path.toList <;> rfl

/-- A path of two leads on from the property of the first. It has no property if and only if one of the two
steps fails. -/
theorem property_body_append (path more : String) :
    h.property ("body." ++ path ++ "." ++ more) =
      match h.property ("body." ++ path) with
      | .ok v => (navigate v more.toList).elim
          (.error (.propertyNotFound ("body." ++ path ++ "." ++ more))) .ok
      | .error _ => .error (.propertyNotFound ("body." ++ path ++ "." ++ more)) := by
  have hpath : "body." ++ path ++ "." ++ more = "body." ++ (path ++ "." ++ more) := by
    simp [String.append_assoc]
  have hlist : (path ++ "." ++ more).toList = path.toList ++ '.' :: more.toList := by simp
  rw [hpath, property_body, property_body, hlist, navigate_append]
  cases navigate h.message.body path.toList <;> rfl

/-- Navigation composes: a path of two leads where the second leads from where the first does, and so does
its property. Below null everything is null, and keys lead from object to field and from list to element, or
to null where there is none. -/
theorem navigation :
    (∀ (u : Value) (path more : List Char),
      navigate u (path ++ '.' :: more) = (navigate u path).bind fun v => navigate v more) ∧
    (∀ path : List Char, navigate .null path = some .null) ∧
    (∀ (u w : Value) (keys : List (List Char)), keys ≠ [] → (∀ key ∈ keys, '.' ∉ key) →
      (navigate u (['.'].intercalate keys) = some w ↔ Reaches u keys w)) ∧
    ∀ (h : Host) (path more : String),
      h.property ("body." ++ path) =
        (navigate h.message.body path.toList).elim (.error (.propertyNotFound ("body." ++ path))) .ok ∧
      h.property ("body." ++ path ++ "." ++ more) =
        match h.property ("body." ++ path) with
        | .ok v => (navigate v more.toList).elim
            (.error (.propertyNotFound ("body." ++ path ++ "." ++ more))) .ok
        | .error _ => .error (.propertyNotFound ("body." ++ path ++ "." ++ more)) := by
  refine ⟨navigate_append, fun path => navigateKeys_null _, fun u w keys hne hkeys => ?_,
    fun h path more => ⟨h.property_body path, h.property_body_append path more⟩⟩
  rw [navigate_iff, Text.splitOn_intercalate hne hkeys]

theorem navigation_nested :
    navigate (.object [("items", .array [.null, .object [("x", .integer 1)]])]) "items.+1.x".toList =
      some (.integer 1) ∧
    navigate (.object [("items", .array [.null])]) "items.1.x".toList = some .null := by
  have hone : Digits ['1'] := ⟨by decide, by simp⟩
  constructor
  · refine (navigation.2.2.1 _ _ ["items".toList, "+1".toList, "x".toList] nofun (by decide)).2 ?_
    exact .further (.field rfl) (.further (.element (.plus hone (by decide)) rfl)
      (.further (.field rfl) (.here _)))
  · refine (navigation.2.2.1 _ _ ["items".toList, "1".toList, "x".toList] nofun (by decide)).2 ?_
    exact .further (.field rfl) (.further (.noElement (.bare hone (by decide)) (by decide))
      (.further (.null _) (.here _)))

/-- A number of 2⁶⁴ or more is no index, so it leads nowhere from a list, however short that is. -/
theorem navigate_beyond_limit :
    ¬ ∀ (items : List Value) (digits : List Char), Digits digits → items.length ≤ digitsToNat digits →
      navigate (.array items) digits = some .null := by
  intro h
  have hlist := h [] "18446744073709551616".toList ⟨by decide, by simp⟩ (Nat.zero_le _)
  have hnone : navigate (.array []) "18446744073709551616".toList = none := by decide
  rw [hnone] at hlist
  cases hlist

end Host

end RouteExpr
