import StraceMacos.Library.Text

/-!
# Strings and their bytes

The bytes of a literal are at hand for evaluation, its characters have to be decoded from them. The
characters of an ASCII string are its bytes. Strings are quickly told apart by the number that
their bytes form.
-/

namespace Text

/-- The bytes of a string in UTF-8. -/
def bytes (s : String) : List UInt8 :=
  s.toByteArray.data.toList

theorem bytes_eq_flatMap (s : String) : bytes s = s.toList.flatMap String.utf8EncodeChar := by
  unfold bytes
  rw [← String.utf8Encode_toList, List.utf8Encode, List.data_toByteArray]

/-! ## ASCII -/

/-- All bytes of the string are below 0x80. -/
def IsAscii (s : String) : Prop :=
  ∀ b ∈ bytes s, b.toNat < 0x80

instance : DecidablePred IsAscii := fun s =>
  List.decidableBAll (fun b : UInt8 => b.toNat < 0x80) (bytes s)

/-- The characters of an ASCII string, read from its bytes. -/
def asciiChars (s : String) : List Char :=
  (bytes s).map fun b => Char.ofNat b.toNat

/-- A character is encoded in one byte, its code, or in bytes from 0x80 on. -/
theorem utf8EncodeChar_cases (c : Char) :
    (c.toNat < 0x80 ∧ String.utf8EncodeChar c = [UInt8.ofNat c.toNat]) ∨
    (0x80 ≤ c.toNat ∧ String.utf8EncodeChar c ≠ [] ∧
      ∀ b ∈ String.utf8EncodeChar c, 0x80 ≤ b.toNat) := by
  have hcode : c.val.toNat = c.toNat := rfl
  unfold String.utf8EncodeChar
  simp only [hcode]
  by_cases h1 : c.toNat ≤ 0x7F
  · rw [if_pos h1]
    exact .inl ⟨by omega, rfl⟩
  · rw [if_neg h1]
    refine .inr ⟨by omega, by split_ifs <;> simp, ?_⟩
    split_ifs <;> simp only [List.forall_mem_cons, List.not_mem_nil, false_implies, implies_true,
      and_true, UInt8.toNat_ofNat'] <;> omega

theorem toList_eq_asciiChars {s : String} (h : IsAscii s) : s.toList = asciiChars s := by
  have hchars : ∀ cs : List Char, (∀ b ∈ cs.flatMap String.utf8EncodeChar, b.toNat < 0x80) →
      (cs.flatMap String.utf8EncodeChar).map (fun b => Char.ofNat b.toNat) = cs := by
    intro cs
    induction cs with
    | nil => simp
    | cons c cs ih =>
      intro hall
      rw [List.flatMap_cons, List.forall_mem_append] at hall
      rw [List.flatMap_cons, List.map_append, ih hall.2]
      rcases utf8EncodeChar_cases c with ⟨hlt, hone⟩ | ⟨-, hne, hlarge⟩
      · have hbyte : (UInt8.ofNat c.toNat).toNat = c.toNat := by
          rw [UInt8.toNat_ofNat']
          omega
        simp [hone, hbyte]
      · obtain ⟨b, hb⟩ := List.exists_mem_of_ne_nil _ hne
        have hsmall := hall.1 b hb
        have hle := hlarge b hb
        omega
  have hbytes : ∀ b ∈ s.toList.flatMap String.utf8EncodeChar, b.toNat < 0x80 := by
    rw [← bytes_eq_flatMap]
    exact h
  unfold asciiChars
  rw [bytes_eq_flatMap, hchars s.toList hbytes]

/-! ## The number of a string -/

/-- Bytes as one number, under a leading one. -/
def listCode (l : List UInt8) : Nat :=
  l.foldl (fun code b => code * 256 + b.toNat) 1

/-- The bytes of a string as one number. -/
def byteCode (s : String) : Nat :=
  listCode (bytes s)

end Text
