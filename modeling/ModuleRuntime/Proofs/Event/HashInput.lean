import Mathlib.Data.List.Basic
import ModuleRuntime.Archive.Octets
import ModuleRuntime.Event.Id

/-!
# What the hashes of events tell apart

The hash of an event is taken from one text, in which a zero stands between the category and the
name. Two events have the same text exactly if they are the same or their texts are divided at
different zeros, so the hash sees two events apart wherever the categories are free of zeros, and
wherever the names are. Beyond that, two events share a hash only if the digests of different texts
start with the same eight octets.
-/

set_option autoImplicit false

namespace ModuleRuntime

/-! ## Octets -/

/-- Texts with the same octets are the same. -/
theorem Text.Utf8.encode_inj {s t : String} : encode s = encode t ↔ s = t := by
  rw [← String.toByteArray_inj, ByteArray.ext_iff, ← Array.toList_inj]
  rfl

/-- The octets of a text and of another one behind it. -/
theorem Text.Utf8.encode_append (s t : String) : encode (s ++ t) = encode s ++ encode t := by
  simp [encode]

/-- Sequences of octets of one length are determined by the numbers that they give. -/
theorem Archive.eq_of_number {x y : List UInt8} (hlength : x.length = y.length)
    (h : number x = number y) : x = y := by
  induction x generalizing y with
  | nil => exact (List.length_eq_zero_iff.mp hlength.symm).symm
  | cons octet rest ih =>
    cases y with
    | nil => cases hlength
    | cons octet' rest' =>
      have hnumbers : 256 * number rest + octet.toNat = 256 * number rest' + octet'.toNat := h
      have hsmall := octet.toNat_lt
      have hsmall' := octet'.toNat_lt
      have hfirst : octet = octet' := UInt8.toNat_inj.mp (by omega)
      have hrest : rest = rest' := ih (Nat.succ.inj hlength) (by omega)
      rw [hfirst, hrest]

/-- A digest has thirty-two octets. -/
theorem Blake3.length_digest (input : List UInt8) : (digest input).length = 32 := by
  have hwords (words : List UInt32) : (words.flatMap octets).length = 4 * words.length := by
    induction words with
    | nil => rfl
    | cons w rest ih =>
      rw [List.flatMap_cons, List.length_append, ih, List.length_cons]
      simp only [octets, List.length_cons, List.length_nil]
      omega
  unfold digest
  rw [hwords, Vector.length_toList]

namespace Event.Id

variable {a b : Id}

/-! ## Where a text is divided -/

/-- The category, a zero and the name. -/
def hashText (id : Id) : String :=
  id.category ++ "\x00" ++ id.name

/-- The texts of two events are the same, and that of the first is divided at an earlier zero: the
category of the second goes on behind it, and the name of the first up to the zero of the second. -/
def DividesBefore (a b : Id) : Prop :=
  ∃ between, b.category = a.category ++ "\x00" ++ between ∧ a.name = between ++ "\x00" ++ b.name

/-- The octets that are hashed encode one text. -/
theorem hashInput_eq (id : Id) : id.hashInput = Text.Utf8.encode id.hashText := by
  rw [hashText, Text.Utf8.encode_append, Text.Utf8.encode_append]
  rfl

/-- Where a separator stands in a part, two ids have one text. -/
theorem DividesBefore.hashText_eq (h : a.DividesBefore b) : a.hashText = b.hashText := by
  obtain ⟨between, hcategory, hname⟩ := h
  rw [hashText, hashText, hcategory, hname]
  simp only [String.append_assoc]

/-- Where a text is divided at two zeros, there is one in a category and one in a name. -/
theorem DividesBefore.zero_mem (h : a.DividesBefore b) :
    '\x00' ∈ b.category.toList ∧ '\x00' ∈ a.name.toList := by
  obtain ⟨between, hcategory, hname⟩ := h
  rw [hcategory, hname]
  simp

/-- Events have the same text exactly if they are the same or it is divided at different zeros. -/
theorem hashText_eq_iff :
    a.hashText = b.hashText ↔ a = b ∨ a.DividesBefore b ∨ b.DividesBefore a := by
  constructor
  · intro h
    have htexts : a.category.toList ++ '\x00' :: a.name.toList =
        b.category.toList ++ '\x00' :: b.name.toList := by
      have hlists := congrArg String.toList h
      simpa [hashText] using hlists
    have hdivides {a b : Id} {between : List Char}
        (hcategory : b.category.toList = a.category.toList ++ between)
        (hname : '\x00' :: a.name.toList = between ++ '\x00' :: b.name.toList) :
        a = b ∨ a.DividesBefore b := by
      cases between with
      | nil =>
        have hcategory := String.toList_inj.mp (hcategory.trans (List.append_nil _))
        have hname := String.toList_inj.mp (List.cons.inj hname).2
        exact .inl (by cases a; cases b; simp_all)
      | cons c between =>
        obtain ⟨rfl, hname⟩ := List.cons.inj hname
        refine .inr ⟨String.ofList between, String.toList_inj.mp ?_, String.toList_inj.mp ?_⟩
        · simpa using hcategory
        · simpa using hname
    rcases List.append_eq_append_iff.mp htexts with ⟨between, hc, hn⟩ | ⟨between, hc, hn⟩
    · exact (hdivides hc hn).imp_right .inl
    · exact (hdivides hc hn).imp Eq.symm .inr
  · rintro (rfl | h | h)
    · rfl
    · exact h.hashText_eq
    · exact h.hashText_eq.symm

/-- Two ids have the same octets iff they are equal or one divides before the other. -/
theorem hashInput_eq_iff :
    a.hashInput = b.hashInput ↔ a = b ∨ a.DividesBefore b ∨ b.DividesBefore a := by
  rw [hashInput_eq, hashInput_eq, Text.Utf8.encode_inj, hashText_eq_iff]

/-! ## Hashes -/

/-- Different inputs whose digests start with the same eight octets. -/
structure Collide (x y : List UInt8) : Prop where
  ne : x ≠ y
  take_digest : (Blake3.digest x).take 8 = (Blake3.digest y).take 8

/-- Events have the same hash exactly if their digests start with the same eight octets. -/
theorem stableHash_eq_iff : a.stableHash = b.stableHash ↔
    (Blake3.digest a.hashInput).take 8 = (Blake3.digest b.hashInput).take 8 := by
  constructor
  · intro h
    refine Archive.eq_of_number ?_ h
    rw [List.length_take, List.length_take, Blake3.length_digest, Blake3.length_digest]
  · intro h
    exact congrArg Archive.number h

/-- The octets that are hashed are the same exactly for the same event and for events whose common
text is divided at different zeros; so they tell events apart if no name, or no category, has a zero
in it. Events share a hash exactly if they share these octets or the digests collide. -/
theorem hashInput_separates (a b : Id) :
    (a.hashInput = b.hashInput ↔ a = b ∨ a.DividesBefore b ∨ b.DividesBefore a) ∧
      ('\x00' ∉ a.name.toList ∧ '\x00' ∉ b.name.toList ∨
          '\x00' ∉ a.category.toList ∧ '\x00' ∉ b.category.toList →
        (a.hashInput = b.hashInput ↔ a = b)) ∧
      (a.stableHash = b.stableHash ↔
        a.hashInput = b.hashInput ∨ Collide a.hashInput b.hashInput) := by
  refine ⟨hashInput_eq_iff, fun hfree => ?_, ?_⟩
  · rw [hashInput_eq_iff]
    refine or_iff_left fun hdivides => ?_
    rcases hdivides with h | h
    · exact hfree.elim (fun hnames => hnames.1 h.zero_mem.2) fun hcategories =>
        hcategories.2 h.zero_mem.1
    · exact hfree.elim (fun hnames => hnames.2 h.zero_mem.2) fun hcategories =>
        hcategories.1 h.zero_mem.1
  · rw [stableHash_eq_iff]
    constructor
    · intro h
      by_cases hsame : a.hashInput = b.hashInput
      · exact .inl hsame
      · exact .inr ⟨hsame, h⟩
    · rintro (hsame | hcollide)
      · rw [hsame]
      · exact hcollide.take_digest

/-- Two events with different names and categories, of which the text is the same, and two with the
same characters in their names and categories, of which it is not. -/
theorem hashInput_separates_zeros :
    DividesBefore ⟨"b\x00c", "a"⟩ ⟨"c", "a\x00b"⟩ ∧
      hashInput ⟨"b\x00c", "a"⟩ = hashInput ⟨"c", "a\x00b"⟩ ∧
      stableHash ⟨"b\x00c", "a"⟩ = stableHash ⟨"c", "a\x00b"⟩ ∧
      hashInput ⟨"bc", "a"⟩ ≠ hashInput ⟨"c", "ab"⟩ := by
  have hdivides : DividesBefore ⟨"b\x00c", "a"⟩ ⟨"c", "a\x00b"⟩ := ⟨"b", by decide, by decide⟩
  obtain ⟨hsame, -, hhash⟩ := hashInput_separates ⟨"b\x00c", "a"⟩ ⟨"c", "a\x00b"⟩
  have hinput := hsame.mpr (.inr (.inl hdivides))
  obtain ⟨-, hfree, -⟩ := hashInput_separates ⟨"bc", "a"⟩ ⟨"c", "ab"⟩
  have happart := hfree (.inl ⟨by decide, by decide⟩)
  exact ⟨hdivides, hinput, hhash.mpr (.inl hinput), happart.not.mpr (by decide)⟩

end Event.Id

end ModuleRuntime
