/-
What the paths of headers read.

A header is looked up by its name, and by its name but for the case of letters if there is none of exactly that
name. Where no two headers have names that are equal but for case, this leaves one answer: it depends on the
headers that the name stands for and neither on the others, nor on the order in which headers are listed, nor on
how the path is spelled.
-/
import RouteExpr.Proofs.Message.Host
import Mathlib.Data.List.Pairwise

namespace RouteExpr

/-! ## Names but for case -/

namespace Host

variable {a b c : String}

theorem equalsIgnoringCase_iff :
    equalsIgnoringCase a b = true ↔ a.toList.map Char.toLower = b.toList.map Char.toLower := by
  rw [equalsIgnoringCase, beq_iff_eq]

theorem equalsIgnoringCase_self (a : String) : equalsIgnoringCase a a = true :=
  equalsIgnoringCase_iff.2 rfl

theorem equalsIgnoringCase_comm (a b : String) : equalsIgnoringCase a b = equalsIgnoringCase b a :=
  Bool.eq_iff_iff.2 (by rw [equalsIgnoringCase_iff, equalsIgnoringCase_iff, eq_comm])

/-- Two names that are a third but for case are each other but for case. -/
theorem equalsIgnoringCase_join (h : equalsIgnoringCase a c = true) (h' : equalsIgnoringCase b c = true) :
    equalsIgnoringCase a b = true :=
  equalsIgnoringCase_iff.2 ((equalsIgnoringCase_iff.1 h).trans (equalsIgnoringCase_iff.1 h').symm)

end Host

open Host (equalsIgnoringCase headerPaths)

/-! ## Headers -/

namespace Fields

/-- The value that a name reads among headers. -/
inductive Reads (headers : Fields) (name : String) : Value → Prop
  | exactly {v : Value} (h : (name, v) ∈ headers) : Reads headers name v
  | ignoringCase {key : String} {v : Value} (hno : ∀ f ∈ headers, f.1 ≠ name) (h : (key, v) ∈ headers)
    (hkey : equalsIgnoringCase key name = true) : Reads headers name v
  | missing (hno : ∀ f ∈ headers, equalsIgnoringCase f.1 name = false) : Reads headers name .null

/-- Headers of which no two have names that are equal but for case. -/
def Distinct (headers : Fields) : Prop :=
  headers.Pairwise fun f g => equalsIgnoringCase f.1 g.1 = false

variable {headers headers' : Fields} {name other : String} {v w value : Value} {f g : String × Value}

theorem Distinct.eq_of_mem (h : headers.Distinct) (hf : f ∈ headers) (hg : g ∈ headers)
    (hname : equalsIgnoringCase f.1 g.1 = true) : f = g := by
  by_contra hne
  have hsymm : Std.Symm fun f g : String × Value => equalsIgnoringCase f.1 g.1 = false :=
    ⟨fun f g hfg => by rwa [Host.equalsIgnoringCase_comm]⟩
  have hdiffer := List.Pairwise.forall h hf hg hne
  rw [hname] at hdiffer
  cases hdiffer

/-- A name reads one value among distinct headers. -/
theorem Reads.unique (h : headers.Distinct) (hv : headers.Reads name v) (hw : headers.Reads name w) :
    v = w := by
  have hself := Host.equalsIgnoringCase_self name
  cases hv with
  | exactly hv =>
    cases hw with
    | exactly hw => exact congrArg Prod.snd (h.eq_of_mem hv hw hself)
    | ignoringCase hno => exact absurd rfl (hno _ hv)
    | missing hno => rw [hno _ hv] at hself; cases hself
  | ignoringCase hno hv hkey =>
    cases hw with
    | exactly hw => exact absurd rfl (hno _ hw)
    | ignoringCase _ hw hkey' =>
      exact congrArg Prod.snd (h.eq_of_mem hv hw (Host.equalsIgnoringCase_join hkey hkey'))
    | missing hno' => rw [hno' _ hv] at hkey; cases hkey
  | missing hno =>
    cases hw with
    | exactly hw => rw [hno _ hw] at hself; cases hself
    | ignoringCase _ hw hkey => rw [hno _ hw] at hkey; cases hkey
    | missing => rfl

/-- What a name reads depends on the headers that it stands for alone. -/
theorem Reads.congr
    (hsame : ∀ f, equalsIgnoringCase f.1 name = true → (f ∈ headers ↔ f ∈ headers'))
    (h : headers.Reads name v) : headers'.Reads name v := by
  have hname {f : String × Value} (hf : f.1 = name) : equalsIgnoringCase f.1 name = true :=
    hf ▸ Host.equalsIgnoringCase_self _
  cases h with
  | exactly h => exact .exactly ((hsame _ (hname rfl)).1 h)
  | ignoringCase hno h hkey =>
    refine .ignoringCase (fun f hf heq => ?_) ((hsame _ hkey).1 h) hkey
    exact hno f ((hsame f (hname heq)).2 hf) heq
  | missing hno =>
    refine .missing fun f hf => ?_
    by_contra hkey
    rw [Bool.not_eq_false] at hkey
    rw [hno f ((hsame f hkey).2 hf)] at hkey
    cases hkey

theorem mem_put_of_ne (hf : f.1 ≠ name) : f ∈ headers.put name value ↔ f ∈ headers := by
  induction headers with
  | nil =>
    rw [put, List.mem_singleton]
    constructor
    · rintro rfl
      exact absurd rfl hf
    · nofun
  | cons entry rest ih =>
    obtain ⟨key, v⟩ := entry
    have hentry {v : Value} : f ≠ (name, v) := by
      rintro rfl
      exact hf rfl
    rw [put]
    split
    · rename_i hkey
      rw [hkey, List.mem_cons, List.mem_cons, or_iff_right hentry, or_iff_right hentry]
    · rw [List.mem_cons, List.mem_cons, ih]

/-- The headers that a name stands for are the same when a header of another name is put among them. -/
theorem mem_put_of_differ (hdiffer : equalsIgnoringCase name other = false)
    (hf : equalsIgnoringCase f.1 other = true) : f ∈ headers.put name value ↔ f ∈ headers := by
  refine mem_put_of_ne ?_
  rintro rfl
  rw [hdiffer] at hf
  cases hf

end Fields

/-! ## Paths -/

namespace Host

variable (h : Host)

theorem header_reads (name : String) : h.message.headers.Reads name (h.header name) := by
  unfold header Fields.get?
  cases hexact : h.message.headers.find? fun field => field.1 == name with
  | some f =>
    have hf := List.mem_of_find?_eq_some hexact
    have hname : f.1 = name := by simpa using List.find?_some hexact
    exact .exactly (hname ▸ hf)
  | none =>
    rw [List.find?_eq_none] at hexact
    have hno : ∀ f ∈ h.message.headers, f.1 ≠ name := by simpa using hexact
    rw [Option.map_none]
    dsimp only
    cases hfold : h.message.headers.find? fun field => equalsIgnoringCase field.1 name with
    | some f =>
      have hkey : equalsIgnoringCase f.1 name = true := by simpa using List.find?_some hfold
      exact .ignoringCase hno (List.mem_of_find?_eq_some hfold) hkey
    | none =>
      rw [List.find?_eq_none] at hfold
      exact .missing fun f hf => by simpa using hfold f hf

/-- Every spelling of the path of a header reads the same: the header of exactly that name, else the one of that
name but for case, else null. A header that is put among the others changes nothing for names that are not its
own but for case, however the headers are listed then. -/
theorem header_spellings :
    (∀ h : Host, h.message.headers.Distinct → ∀ name : String,
      ∃ v, (∀ w, h.message.headers.Reads name w ↔ w = v) ∧
        ∀ path ∈ headerPaths name, h.context.property path = .ok v) ∧
    ∀ (h h' : Host) (name : String) (value : Value), h.message.headers.Distinct →
      h'.message.headers.Perm (h.message.headers.put name value) →
      ∀ other : String, equalsIgnoringCase name other = false →
        ∀ path ∈ headerPaths other, h'.context.property path = h.context.property path := by
  constructor
  · intro h hdistinct name
    refine ⟨h.header name, fun w => ⟨fun hw => ?_, ?_⟩, fun path hpath => h.property_headerPath hpath⟩
    · exact hw.unique hdistinct (h.header_reads name)
    · rintro rfl
      exact h.header_reads name
  · intro h h' name value hdistinct hperm other hdiffer path hpath
    have hreads : h.message.headers.Reads other (h'.header other) :=
      (h'.header_reads other).congr fun f hf => hperm.mem_iff.trans (Fields.mem_put_of_differ hdiffer hf)
    rw [context_property, context_property, h'.property_headerPath hpath, h.property_headerPath hpath,
      hreads.unique hdistinct (h.header_reads other)]

/-- A header by its name in other letters, and beside another header in front of it. -/
theorem header_spellings_foo :
    let headers : Fields := [("Foo", .integer 1), ("bar", .integer 2)]
    let listed : Fields := (headers.put "baz" .null).reverse
    let h := ofMessage { Message.empty with headers := headers }
    let h' := ofMessage { Message.empty with headers := listed }
    headers.Distinct ∧ (∀ path ∈ headerPaths "FOO", h.context.property path = .ok (.integer 1)) ∧
      listed.Perm (headers.put "baz" .null) ∧ equalsIgnoringCase "baz" "FOO" = false ∧
      ∀ path ∈ headerPaths "FOO", h'.context.property path = h.context.property path := by
  intro headers listed h h'
  have hdistinct : headers.Distinct := by
    simp [headers, Fields.Distinct, equalsIgnoringCase]
  have hreads : headers.Reads "FOO" (.integer 1) :=
    .ignoringCase (by simp [headers]) List.mem_cons_self (by decide)
  have hperm : listed.Perm (headers.put "baz" .null) := List.reverse_perm _
  have hdiffer : equalsIgnoringCase "baz" "FOO" = false := by decide
  obtain ⟨v, hv, hpaths⟩ := header_spellings.1 h hdistinct "FOO"
  rw [← (hv _).1 hreads] at hpaths
  exact ⟨hdistinct, hpaths, hperm, hdiffer,
    header_spellings.2 h h' "baz" .null hdistinct hperm "FOO" hdiffer⟩

end Host

end RouteExpr
