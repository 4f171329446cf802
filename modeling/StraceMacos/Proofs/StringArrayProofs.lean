import Mathlib.Data.List.Forall2
import StraceMacos.Proofs.StringProofs

/-!
# Arrays of strings of the traced process

An array of pointers to strings ends with a null pointer. The list that is shown ends there, but it
also ends at a pointer that cannot be read and after a number of pointers, and nothing in the list
tells these ends apart.
-/

namespace StraceMacos

open CString (window run)

variable {byteAt : Nat → Option UInt8} {order : ByteOrder} {address maxStrings : Nat}

/-- The pointer in memory at an address. -/
def pointerAt (byteAt : Nat → Option UInt8) (address : Nat) : Option Nat :=
  (window byteAt address 8).map (Bytes.toNat .little)

/-- The array at the address holds these pointers, none of them null, and a null pointer behind
them. -/
def HoldsArray (byteAt : Nat → Option UInt8) : Nat → List Nat → Prop
  | address, [] => pointerAt byteAt address = some 0
  | address, p :: ps =>
    pointerAt byteAt address = some p ∧ p ≠ 0 ∧ HoldsArray byteAt (address + 8) ps

/-- The argument lists the strings of the whole array. -/
def ListsWholeArray (byteAt : Nat → Option UInt8) (address : Nat) (arg : SyscallArg) : Prop :=
  ∀ l, arg = .stringArray l → ∃ pointers, HoldsArray byteAt address pointers ∧
    List.Forall₂ (IsStringAt byteAt) pointers l

/-- The reader sees the string as a whole: the chunk in which it ends can be read and it has no more
bytes than the limit. The bytes that it does not see may leave the text as it is, and the address
that it returns where it sees none may be the text. -/
def SeenWhole (byteAt : Nat → Option UInt8) (address : Nat) (bytes : Bytes) : Prop :=
  if RunReadable byteAt address 4096 then
    Bytes.decodeUtf8Replace (bytes.take 4096) = bytes.decodeUtf8Replace
  else if lastChunk bytes.length = 0 then Text.hex0x address = bytes.decodeUtf8Replace
  else Bytes.decodeUtf8Replace (bytes.take (lastChunk bytes.length)) = bytes.decodeUtf8Replace

theorem HoldsArray.ne_zero {pointers : List Nat} (h : HoldsArray byteAt address pointers) :
    ∀ p ∈ pointers, p ≠ 0 := by
  induction pointers generalizing address with
  | nil => simp
  | cons p ps ih => exact List.forall_mem_cons.mpr ⟨h.2.1, ih h.2.2⟩

/-! ## One string -/

theorem readString_eq_text_iff (hne : address ≠ 0) {bytes : Bytes}
    (h : CString.Holds byteAt address bytes) :
    readString (byteProcess byteAt order) address 4096 = bytes.decodeUtf8Replace ↔
      SeenWhole byteAt address bytes := by
  have hrun : run byteAt 4096 address = bytes.take 4096 := h.run_eq
  have hread := @readString_eq byteAt order address 4096 hne
  rw [hread, SeenWhole]
  dsimp only
  by_cases hreadable : RunReadable byteAt address 4096
  · rw [if_pos hreadable, if_pos hreadable, hrun]
  · have hlen : bytes.length < 4096 := by
      by_contra hlong
      refine hreadable (.inl ?_)
      rw [hrun, List.length_take, Nat.min_eq_left (by omega)]
    rw [if_neg hreadable, if_neg hreadable, hrun, List.take_of_length_le hlen.le]
    split_ifs <;> rfl

/-! ## The loop over the array -/

/-- The loop lists the strings of the array from a slot on, as many as it has rounds left. -/
theorem readStringArray_of_holdsArray {pointers : List Nat} {i : Nat}
    (h : HoldsArray byteAt (address + i * 8) pointers) (n : Nat) :
    readStringArray (byteProcess byteAt order) address n i =
      (pointers.take n).map fun p => readString (byteProcess byteAt order) p 4096 := by
  induction n generalizing i pointers with
  | zero => simp [readStringArray]
  | succ n ih =>
    rw [readStringArray, readMemory_byteProcess]
    cases pointers with
    | nil =>
      obtain ⟨ptrData, hread, hzero⟩ := Option.map_eq_some_iff.mp h
      simp [hread, hzero]
    | cons p ps =>
      obtain ⟨hp, hne, hrest⟩ := h
      obtain ⟨ptrData, hread, rfl⟩ := Option.map_eq_some_iff.mp hp
      have hslot : address + i * 8 + 8 = address + (i + 1) * 8 := by omega
      rw [hslot] at hrest
      simp only [hread, if_neg hne, ih hrest, List.take_succ_cons, List.map_cons]

/-- **A list of strings is the whole array exactly when the array ends with a null pointer, has no
more pointers than the limit, and each of them points to a string that is seen as a whole.** -/
theorem decodeArrayOfStrings_whole_iff {ctx : DecodeContext}
    (hprocess : ctx.process = byteProcess byteAt order) (hne : ctx.rawValue ≠ 0) :
    ListsWholeArray byteAt ctx.rawValue (decodeArrayOfStrings maxStrings ctx) ↔
      ∃ pointers, HoldsArray byteAt ctx.rawValue pointers ∧ pointers.length ≤ maxStrings ∧
        ∀ p ∈ pointers, ∃ bytes, CString.Holds byteAt p bytes ∧ SeenWhole byteAt p bytes := by
  have hdecode {pointers : List Nat} (h : HoldsArray byteAt ctx.rawValue pointers) :
      decodeArrayOfStrings maxStrings ctx = .stringArray ((pointers.take maxStrings).map fun p =>
        readString (byteProcess byteAt order) p 4096) := by
    have harray : HoldsArray byteAt (ctx.rawValue + 0 * 8) pointers := by simpa using h
    rw [decodeArrayOfStrings, if_neg hne, hprocess, readStringArray_of_holdsArray harray]
  have hshown {p : Nat} (hp : p ≠ 0) :
      IsStringAt byteAt p (readString (byteProcess byteAt order) p 4096) ↔
        ∃ bytes, CString.Holds byteAt p bytes ∧ SeenWhole byteAt p bytes := by
    refine exists_congr fun bytes => and_congr_right fun hbytes => ?_
    exact readString_eq_text_iff hp hbytes
  constructor
  · intro h
    obtain ⟨l, hl⟩ : ∃ l, decodeArrayOfStrings maxStrings ctx = .stringArray l := by
      rw [decodeArrayOfStrings, if_neg hne]
      exact ⟨_, rfl⟩
    obtain ⟨pointers, harray, hall⟩ := h l hl
    obtain rfl := SyscallArg.stringArray.inj ((hdecode harray).symm.trans hl)
    have hlen : pointers.length ≤ maxStrings := by
      have := hall.length_eq
      rw [List.length_map, List.length_take] at this
      omega
    rw [List.take_of_length_le hlen, List.forall₂_map_right_iff] at hall
    refine ⟨pointers, harray, hlen, fun p hp => (hshown (harray.ne_zero p hp)).mp ?_⟩
    exact List.forall₂_same.mp hall p hp
  · rintro ⟨pointers, harray, hlen, hall⟩ l hl
    obtain rfl := SyscallArg.stringArray.inj ((hdecode harray).symm.trans hl)
    rw [List.take_of_length_le hlen]
    refine ⟨pointers, harray, List.forall₂_map_right_iff.mpr (List.forall₂_same.mpr ?_)⟩
    exact fun p hp => (hshown (harray.ne_zero p hp)).mpr (hall p hp)

/-- A page with the string `h` at `0x1010`, the array of this string and a null pointer at its
beginning, and a pointer to the string at its end. -/
def argvPage (address : Nat) : Option UInt8 :=
  if address ∈ [0x1000, 0x1001, 0x1FF8, 0x1FF9] then some 0x10
  else if address = 0x1010 then some 0x68
  else if 0x1000 ≤ address ∧ address < 0x2000 then some 0
  else none

/-- The call of `execve` with this array. -/
def argvContext (address : Nat) : DecodeContext where
  noAbbrev := false
  process := byteProcess argvPage .little
  rawValue := address
  allArgs := ⟨0, [0x1010, address, 0]⟩
  atEntry := true
  returnValue := none

theorem whole_array_at_begin : ListsWholeArray argvPage 0x1000
    (decodeArrayOfStrings 1024 (argvContext 0x1000)) := by
  have hnull : pointerAt argvPage 0x1008 = some 0 := by decide +kernel
  have hprocess : (argvContext 0x1000).process = byteProcess argvPage .little := rfl
  refine (decodeArrayOfStrings_whole_iff hprocess (by decide)).mpr
    ⟨[0x1010], ⟨by decide +kernel, by decide, hnull⟩, by decide, ?_⟩
  intro p hp
  obtain rfl := List.mem_singleton.mp hp
  refine ⟨[0x68], ⟨fun i hi => ?_, by decide +kernel⟩, ?_⟩
  · obtain rfl : i = 0 := by simpa using hi
    exact ⟨rfl, by simp⟩
  · have hreadable : RunReadable argvPage 0x1010 4096 := by decide +kernel
    rw [SeenWhole, if_pos hreadable]
    rfl

/-- The pointer at the end of the page, which nothing readable follows, is shown as if a null
pointer did. -/
theorem array_cut_by_unmapped_page : ¬ ∀ maxStrings ctx byteAt order,
    ctx.process = byteProcess byteAt order → ctx.rawValue ≠ 0 →
    ListsWholeArray byteAt ctx.rawValue (decodeArrayOfStrings maxStrings ctx) := by
  intro h
  obtain ⟨pointers, harray, -⟩ :=
    h 1024 (argvContext 0x1FF8) argvPage .little rfl (by decide) _ rfl
  cases pointers with
  | nil =>
    have hslot : pointerAt argvPage 0x1FF8 ≠ some 0 := by decide +kernel
    exact hslot harray
  | cons p ps =>
    have hslot : pointerAt argvPage 0x2000 = none := by decide +kernel
    have hrest : HoldsArray argvPage 0x2000 ps := harray.2.2
    cases ps with
    | nil => exact absurd (hslot.symm.trans hrest) (by simp)
    | cons q qs => exact absurd (hslot.symm.trans hrest.1) (by simp)

end StraceMacos
