/-
Texts as bytes, and one text found in another by them.

The first byte of a character is told from the others, and the bytes of a character tell where they
end. So the bytes of a text stand in those of another only where its characters stand, and the first
place where they do is the byte at which its first occurrence begins.
-/
import RouteExpr.Proofs.Text.Find
import Mathlib.Data.List.Infix

namespace RouteExpr.Text

/-! ## Bytes -/

/-- The bytes of a text in UTF-8. -/
def utf8 (cs : List Char) : List UInt8 :=
  cs.flatMap String.utf8EncodeChar

/-- The first index at which bytes stand in others. -/
def findBytes? (sought bytes : List UInt8) : Option Nat :=
  bytes.tails.findIdx? (sought.isPrefixOf ·)

variable {c d : Char} {cs sought u v : List Char} {p q : List UInt8}

theorem utf8_cons (c : Char) (cs : List Char) : utf8 (c :: cs) = String.utf8EncodeChar c ++ utf8 cs :=
  List.flatMap_cons

theorem utf8_append (cs ds : List Char) : utf8 (cs ++ ds) = utf8 cs ++ utf8 ds :=
  List.flatMap_append

/-- Bytes begin with those of one character at most. -/
theorem utf8EncodeChar_append_inj (h : String.utf8EncodeChar c ++ p = String.utf8EncodeChar d ++ q) :
    c = d ∧ p = q := by
  have hdecode (e : Char) (r : List UInt8) :
      ((String.utf8EncodeChar e ++ r).toByteArray).utf8DecodeChar? 0 = some e := by
    rw [List.toByteArray_append]
    exact ByteArray.utf8DecodeChar?_utf8EncodeChar_append
  have hc := hdecode c p
  rw [h, hdecode] at hc
  cases hc
  exact ⟨rfl, List.append_cancel_left h⟩

/-- What begins with the bytes of a text begins with its characters. -/
theorem prefix_of_utf8 (h : utf8 cs = utf8 sought ++ q) : sought <+: cs := by
  induction sought generalizing cs with
  | nil => exact List.nil_prefix
  | cons c sought ih =>
    cases cs with
    | nil =>
      rw [utf8_cons] at h
      simp [utf8] at h
    | cons d cs =>
      rw [utf8_cons, utf8_cons, List.append_assoc] at h
      obtain ⟨rfl, hrest⟩ := utf8EncodeChar_append_inj h
      exact List.cons_prefix_cons.2 ⟨rfl, ih hrest⟩

/-- In the bytes of a character, a first byte of one stands first. -/
theorem eq_nil_of_utf8EncodeChar (h : String.utf8EncodeChar d = p ++ q) (hq : q ≠ [])
    (hfirst : ∀ b ∈ q.head?, b.IsUTF8FirstByte) : p = [] := by
  obtain ⟨b, q, rfl⟩ := List.exists_cons_of_ne_nil hq
  have hlt : p.length < (String.utf8EncodeChar d).length := by
    rw [h, List.length_append, List.length_cons]
    omega
  have hget : (String.utf8EncodeChar d)[p.length] = b := by simp [h]
  have hiff : (String.utf8EncodeChar d)[p.length].IsUTF8FirstByte ↔ p.length = 0 :=
    UInt8.isUTF8FirstByte_getElem_utf8EncodeChar
  exact List.length_eq_zero_iff.1 (hiff.1 (hget ▸ hfirst b rfl))

theorem utf8_ne_nil (hne : cs ≠ []) : utf8 cs ≠ [] := by
  obtain ⟨c, cs, rfl⟩ := List.exists_cons_of_ne_nil hne
  rw [utf8_cons]
  exact List.append_ne_nil_of_left_ne_nil String.utf8EncodeChar_ne_nil _

/-- The bytes of a text begin with a first byte of a character. -/
theorem isUTF8FirstByte_head (hne : cs ≠ []) : ∀ b ∈ (utf8 cs).head?, b.IsUTF8FirstByte := by
  obtain ⟨c, cs, rfl⟩ := List.exists_cons_of_ne_nil hne
  intro b hb
  have hlength : 0 < (String.utf8EncodeChar c).length :=
    List.length_pos_iff.2 String.utf8EncodeChar_ne_nil
  rw [utf8_cons, List.head?_append_of_ne_nil _ String.utf8EncodeChar_ne_nil,
    List.head?_eq_getElem?, List.getElem?_eq_getElem hlength] at hb
  cases hb
  exact UInt8.isUTF8FirstByte_getElem_zero_utf8EncodeChar

/-- The bytes of a text stand in those of another where its characters do. -/
theorem of_utf8_eq (hne : sought ≠ []) (h : utf8 cs = p ++ (utf8 sought ++ q)) :
    ∃ u v, cs = u ++ (sought ++ v) ∧ p = utf8 u := by
  induction cs generalizing p with
  | nil =>
    obtain ⟨c, sought, rfl⟩ := List.exists_cons_of_ne_nil hne
    simp [utf8] at h
  | cons d cs ih =>
    by_cases hp : p = []
    · subst hp
      obtain ⟨v, hv⟩ := prefix_of_utf8 h
      exact ⟨[], v, hv.symm, rfl⟩
    rw [utf8_cons] at h
    -- what begins behind the first byte of a character begins behind the last
    obtain ⟨p', rfl, hrest⟩ : ∃ p', p = String.utf8EncodeChar d ++ p' ∧
        utf8 cs = p' ++ (utf8 sought ++ q) := by
      rcases List.append_eq_append_iff.1 h with hsplit | ⟨w, hd, hw⟩
      · exact hsplit
      by_cases hnil : w = []
      · rw [hnil, List.append_nil] at hd
        exact ⟨[], by rw [hd, List.append_nil], by rw [hw, hnil]; rfl⟩
      · refine absurd (eq_nil_of_utf8EncodeChar hd hnil fun b hb => ?_) hp
        refine isUTF8FirstByte_head hne b ?_
        rw [← List.head?_append_of_ne_nil _ hnil, ← hw,
          List.head?_append_of_ne_nil _ (utf8_ne_nil hne)] at hb
        exact hb
    obtain ⟨u, v, rfl, rfl⟩ := ih hrest
    exact ⟨d :: u, v, rfl, (utf8_cons d u).symm⟩

/-! ## Search -/

/-- Where the bytes of a text stand in those of another, it occurs there, or sooner if it is empty. -/
theorem exists_occurrence (h : utf8 cs = p ++ (utf8 sought ++ q)) :
    ∃ u v, cs = u ++ (sought ++ v) ∧ (utf8 u).length ≤ p.length := by
  by_cases hne : sought = []
  · exact ⟨[], cs, by rw [hne]; rfl, Nat.zero_le _⟩
  · obtain ⟨u, v, hcs, rfl⟩ := of_utf8_eq hne h
    exact ⟨u, v, hcs, le_rfl⟩

/-- The first occurrence of a text begins at the byte at which its bytes stand first. -/
theorem findBytes?_eq (sought cs : List Char) :
    findBytes? (utf8 sought) (utf8 cs) = (cut? sought cs).map fun p => (utf8 p.1).length := by
  rcases hcut : cut? sought cs with _ | ⟨u, v⟩
  · refine List.findIdx?_eq_none_iff.2 fun bytes hbytes => ?_
    obtain ⟨p, hp⟩ := (List.mem_tails _ _).1 hbytes
    by_contra hstarts
    rw [Bool.not_eq_false, List.isPrefixOf_iff_prefix] at hstarts
    obtain ⟨q, rfl⟩ := hstarts
    obtain ⟨u, v, hcs, -⟩ := exists_occurrence hp.symm
    exact cut?_eq_none_iff.1 hcut ⟨u, v, by rw [hcs, List.append_assoc]⟩
  · have hs := splitsAt_of_cut? hcut
    have hbytes : utf8 cs = utf8 u ++ (utf8 sought ++ utf8 v) := by
      rw [hs.eq, utf8_append, utf8_append]
    refine List.findIdx?_eq_some_iff_getElem.2 ⟨?_, ?_, fun j (hj : j < (utf8 u).length) hstarts => ?_⟩
    · show (utf8 u).length < _
      rw [List.length_tails, hbytes, List.length_append]
      omega
    · rw [List.getElem_tails, hbytes, List.drop_left, List.isPrefixOf_iff_prefix]
      exact List.prefix_append _ _
    · rw [List.getElem_tails, List.isPrefixOf_iff_prefix] at hstarts
      obtain ⟨q, hq⟩ := hstarts
      obtain ⟨u', v', hcs, hle⟩ :=
        exists_occurrence (p := (utf8 cs).take j) (q := q) (by rw [hq, List.take_append_drop])
      -- the occurrence found there would be sooner
      obtain ⟨w, rfl⟩ : u <+: u' :=
        List.prefix_of_prefix_length_le ⟨_, hs.eq.symm⟩ ⟨_, hcs.symm⟩ (hs.first _ _ hcs)
      rw [utf8_append, List.length_append] at hle
      have := List.length_take_le j (utf8 cs)
      omega

end RouteExpr.Text
