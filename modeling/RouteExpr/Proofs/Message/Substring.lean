/-
The parts of a text before and after a separator.

The text is cut around the first occurrence of the separator, so the two parts are the text again with
the separator between them, or there is no occurrence and no part. The occurrence is found by bytes and
cut off by bytes, between two characters on either side.
-/
import RouteExpr.Message.Host
import RouteExpr.Proofs.Checked.Bytes
import RouteExpr.Proofs.Text.Utf8

namespace RouteExpr

open Text (utf8 findBytes? cut? SplitsAt)

/-! ## Cutting at bytes -/

namespace Checked

theorem length_utf8 (cs : List Char) : (utf8 cs).length = byteSize cs := by
  induction cs with
  | nil => rfl
  | cons c cs ih =>
    rw [Text.utf8_cons, List.length_append, String.length_utf8EncodeChar, ih, byteSize_cons]

/-- The part of a text before a separator or after it, cut off at the byte at which the bytes of the
separator are found, or behind them. -/
def substring (before : Bool) (subject separator : Value) : Checked Value :=
  if subject.isNull then return .null
  else
    let text := subject.text.toList
    let sought := separator.text.toList
    match findBytes? (utf8 sought) (utf8 text) with
    | none => return .null
    | some i =>
      if before then do
        let (left, _) ← splitAtByte text i
        return .string (String.ofList left)
      else do
        let (_, right) ← splitAtByte text (i + (utf8 sought).length)
        return .string (String.ofList right)

/-- The bytes at which a text is cut are those between characters. -/
theorem substring_eq (before : Bool) (subject separator : Value) :
    substring before subject separator = .ok (Host.substring before subject separator) := by
  unfold substring Host.substring
  split
  · rfl
  dsimp only
  rw [Text.findBytes?_eq]
  rcases hcut : cut? separator.text.toList subject.text.toList with _ | ⟨left, right⟩
  · rfl
  · have hfirst := splitAtByte_append left (separator.text.toList ++ right)
    have hsecond := splitAtByte_append (left ++ separator.text.toList) right
    rw [List.append_assoc, byteSize_append] at hsecond
    rw [← Text.cut?_eq_some hcut] at hfirst hsecond
    dsimp only [Option.map_some]
    rw [length_utf8, length_utf8, hfirst, hsecond]
    cases before <;> rfl

end Checked

/-! ## Around the first occurrence -/

namespace Host

variable {subject separator : Value}

/-- The parts around an occurrence, if it is the first. -/
theorem substring_of_splitsAt (hs : subject.isNull = false) {u v : List Char}
    (h : SplitsAt separator.text.toList subject.text.toList u v) (before : Bool) :
    substring before subject separator = .string (String.ofList (if before then u else v)) := by
  rw [substring, hs, Text.cut?_eq_some_iff.2 h]
  rfl

theorem substring_of_not_isInfix (h : ¬ separator.text.toList <:+: subject.text.toList) (before : Bool) :
    substring before subject separator = .null := by
  rw [substring, Text.cut?_eq_none_iff.2 h, ite_self]

/-- A text that is not null is cut around the first occurrence of a separator, or has no parts. Without a
subject it is the body that is cut, and wherever it is cut, it is between two characters. -/
theorem invoke_substrings (h : Host) (subject separator : Value) (hs : subject.isNull = false) :
    (¬ separator.text.toList <:+: subject.text.toList →
      h.invoke "substringBefore" [subject, separator] = .ok .null ∧
      h.invoke "substringAfter" [subject, separator] = .ok .null) ∧
    (separator.text.toList <:+: subject.text.toList → ∃ before after : String,
      h.invoke "substringBefore" [subject, separator] = .ok (.string before) ∧
      h.invoke "substringAfter" [subject, separator] = .ok (.string after) ∧
      before ++ separator.text ++ after = subject.text ∧
      ∀ u v : String, u ++ separator.text ++ v = subject.text → before.length ≤ u.length) ∧
    (∀ name ∈ ["substringBefore", "substringAfter"],
      h.invoke name [separator] = h.invoke name [h.message.body, separator]) ∧
    ∀ before, Checked.substring before subject separator = .ok (substring before subject separator) := by
  have hbefore : h.invoke "substringBefore" [subject, separator] =
      .ok (substring true subject separator) := rfl
  have hafter : h.invoke "substringAfter" [subject, separator] =
      .ok (substring false subject separator) := rfl
  refine ⟨fun hnone => ?_, fun hoccurs => ?_, fun name hname => ?_, fun before => ?_⟩
  · rw [hbefore, hafter, substring_of_not_isInfix hnone, substring_of_not_isInfix hnone]
    exact ⟨rfl, rfl⟩
  · obtain ⟨⟨u, v⟩, hcut⟩ := Option.ne_none_iff_exists'.1 fun hnone =>
      Text.cut?_eq_none_iff.1 hnone hoccurs
    have hsplits := Text.splitsAt_of_cut? hcut
    refine ⟨String.ofList u, String.ofList v, ?_, ?_, ?_, fun u' v' heq => ?_⟩
    · rw [hbefore, substring_of_splitsAt hs hsplits]
      rfl
    · rw [hafter, substring_of_splitsAt hs hsplits]
      rfl
    · rw [← String.toList_inj]
      simp [hsplits.eq]
    · rw [String.length_ofList, ← String.length_toList]
      exact hsplits.first u'.toList v'.toList (by rw [← heq]; simp)
  · simp only [List.mem_cons, List.not_mem_nil, or_false] at hname
    rcases hname with rfl | rfl <;> rfl
  · exact Checked.substring_eq before subject separator

/-- The first arrow of two, each of three bytes, behind a letter of two. -/
theorem invoke_substrings_arrow : (Value.string "é→→a").isNull = false ∧
    (Value.string "→").text.toList <:+: (Value.string "é→→a").text.toList ∧ ∃ before after : String,
      (ofMessage .empty).invoke "substringBefore" [.string "é→→a", .string "→"] = .ok (.string before) ∧
      (ofMessage .empty).invoke "substringAfter" [.string "é→→a", .string "→"] = .ok (.string after) ∧
      before ++ "→" ++ after = "é→→a" ∧
      ∀ u v : String, u ++ "→" ++ v = "é→→a" → before.length ≤ u.length := by
  have hoccurs : (Value.string "→").text.toList <:+: (Value.string "é→→a").text.toList :=
    ⟨['é'], ['→', 'a'], rfl⟩
  exact ⟨rfl, hoccurs,
    (invoke_substrings (ofMessage .empty) (.string "é→→a") (.string "→") rfl).2.1 hoccurs⟩

end Host

end RouteExpr
