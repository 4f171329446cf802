import StraceMacos.Library.CString
import StraceMacos.Library.CExpr
import StraceMacos.Proofs.QuoteProofs
import StraceMacos.Syscalls.Definitions.Sysctl

/-!
# Strings of the traced process

Strings are read in chunks of 256 bytes. Where the chunk in which a string ends cannot be read as a
whole, the bytes of the string in this chunk are lost, although each of them could be read. The
failure to read a string is reported by a text, which no string of the process can be told apart
from.
-/

namespace StraceMacos

open CString (window run)

/-- A process whose memory is given byte by byte. -/
def byteProcess (byteAt : Nat → Option UInt8) (order : ByteOrder) : Process :=
  ⟨Memory.ofBytes byteAt, order⟩

variable {byteAt : Nat → Option UInt8} {order : ByteOrder} {address maxLength : Nat}

/-- A page of memory with the given bytes at its beginning. -/
def page (bytes : Bytes) (address : Nat) : Option UInt8 :=
  if 0x1000 ≤ address ∧ address < 0x2000 then some (bytes.getD (address - 0x1000) 0) else none

theorem readMemory_byteProcess (size : Nat) :
    (byteProcess byteAt order).readMemory address size = window byteAt address size := rfl

theorem readStruct_byteProcess {fields : List CStruct.Field}
    (hpos : 0 < CStruct.structSize fields) :
    readStruct (byteProcess byteAt order) address fields =
      (window byteAt address (CStruct.structSize fields)).map (CStruct.loadAll order fields) := by
  rw [readStruct, Process.readData_eq_readMemory _ _ hpos, readMemory_byteProcess]
  rfl

/-- A structure is read from the bytes at its address, or not at all. -/
theorem readStruct_of_window (fields : List CStruct.Field) (hpos : 0 < CStruct.structSize fields)
    {bytes : Option Bytes} (h : window byteAt address (CStruct.structSize fields) = bytes) :
    readStruct (byteProcess byteAt order) address fields =
      bytes.map (CStruct.loadAll order fields) := by
  rw [readStruct_byteProcess hpos, h]

/-! ## The chunked reader -/

/-- The beginning of the last chunk that a run of so many bytes reaches. -/
def lastChunk (length : Nat) : Nat :=
  256 * (length / 256)

/-- The chunk where a run ends can be read, or the run fills the limit and there is none. -/
def RunReadable (byteAt : Nat → Option UInt8) (address maxLength : Nat) : Prop :=
  (run byteAt maxLength address).length = maxLength ∨
    (window byteAt (address + lastChunk (run byteAt maxLength address).length)
      (min 256 (maxLength - lastChunk (run byteAt maxLength address).length))).isSome

instance : Decidable (RunReadable byteAt address maxLength) :=
  instDecidableOr

theorem lastChunk_of_lt {length : Nat} (h : length < 256) : lastChunk length = 0 := by
  simp [lastChunk, h]

theorem lastChunk_add (length : Nat) : lastChunk (256 + length) = 256 + lastChunk length := by
  unfold lastChunk
  omega

section Chunk

variable {limit : Nat} {chunk : Bytes}

/-- A first chunk that cannot be read ends the run within it. -/
theorem not_runReadable_of_none (hpos : 0 < limit)
    (h : window byteAt address (min 256 limit) = none) :
    ¬ RunReadable byteAt address limit ∧ lastChunk (run byteAt limit address).length = 0 := by
  have hlen := CString.length_run_of_window_eq_none h (Nat.min_le_right 256 limit)
  have hlast : lastChunk (run byteAt limit address).length = 0 := lastChunk_of_lt (by omega)
  refine ⟨?_, hlast⟩
  unfold RunReadable
  simp only [hlast, Nat.add_zero, Nat.sub_zero, h]
  simp
  omega

/-- A first chunk with a NUL holds the run. -/
theorem runReadable_of_nul (h : window byteAt address (min 256 limit) = some chunk)
    (h0 : (0 : UInt8) ∈ chunk) (hlen : chunk.length = min 256 limit) :
    RunReadable byteAt address limit ∧ run byteAt limit address = chunk.untilNul := by
  have hrun := CString.run_of_nul_mem h h0 (Nat.min_le_right 256 limit)
  refine ⟨.inr ?_, hrun⟩
  have hlt := CString.length_untilNul_lt h0
  rw [hrun, lastChunk_of_lt (by omega), Nat.add_zero, Nat.sub_zero, h]
  rfl

/-- After a whole first chunk without a NUL the run goes on behind it. -/
theorem run_of_chunk (hle : 256 ≤ limit) (h : window byteAt address 256 = some chunk)
    (h0 : (0 : UInt8) ∉ chunk) (hlen : chunk.length = 256) :
    run byteAt limit address = chunk ++ run byteAt (limit - 256) (address + 256) ∧
      lastChunk (run byteAt limit address).length =
        256 + lastChunk (run byteAt (limit - 256) (address + 256)).length ∧
      (RunReadable byteAt address limit ↔ RunReadable byteAt (address + 256) (limit - 256)) := by
  obtain ⟨rest, rfl⟩ : ∃ rest, limit = 256 + rest := ⟨limit - 256, by omega⟩
  have hrun : run byteAt (256 + rest) address = chunk ++ run byteAt rest (address + 256) :=
    CString.run_of_window h h0
  have hlength : (run byteAt (256 + rest) address).length =
      256 + (run byteAt rest (address + 256)).length := by
    rw [hrun, List.length_append, hlen]
  rw [Nat.add_sub_cancel_left]
  refine ⟨hrun, by rw [hlength, lastChunk_add], ?_⟩
  unfold RunReadable
  rw [hlength, lastChunk_add, Nat.add_sub_add_left, Nat.add_assoc, Nat.add_left_cancel_iff]

/-- A last chunk without a NUL fills the limit. -/
theorem run_of_lastChunk (h : window byteAt address limit = some chunk)
    (h0 : (0 : UInt8) ∉ chunk) (hlen : chunk.length = limit) :
    run byteAt limit address = chunk ∧ RunReadable byteAt address limit := by
  have hrun : run byteAt limit address = chunk := by
    have hall : run byteAt (limit + 0) address = chunk ++ run byteAt 0 (address + limit) :=
      CString.run_of_window h h0
    simpa [run] using hall
  exact ⟨hrun, .inl (by rw [hrun, hlen])⟩

end Chunk

/-- The reader returns the run when the chunk where it ends can be read, else the bytes in front of
this chunk. -/
theorem readChunks_eq (bytesRead : Nat) (resultBytes : Bytes) :
    readChunks (byteProcess byteAt order) maxLength address bytesRead resultBytes =
      let rest := run byteAt (maxLength - bytesRead) address
      if RunReadable byteAt address (maxLength - bytesRead) then some (resultBytes ++ rest)
      else if bytesRead + lastChunk rest.length = 0 then none
      else some (resultBytes ++ rest.take (lastChunk rest.length)) := by
  fun_induction readChunks (byteProcess byteAt order) maxLength address bytesRead resultBytes with
  | case1 address resultBytes hlt hread =>
    obtain ⟨hno, hlast⟩ := not_runReadable_of_none hlt hread
    simp [hno, hlast]
  | case2 address bytesRead resultBytes hlt hread hpos =>
    obtain ⟨hno, hlast⟩ := not_runReadable_of_none (by omega) hread
    simp [hno, hlast, hpos]
  | case3 address bytesRead resultBytes hlt chunk hread hnul =>
    have h0 : (0 : UInt8) ∈ chunk := by simpa using hnul
    obtain ⟨hreadable, hrun⟩ := runReadable_of_nul hread h0 (Process.readMemory_length hread)
    simp only [if_pos hreadable, hrun]
  | case4 address bytesRead resultBytes hlt chunk hread hnul ih =>
    have h0 : (0 : UInt8) ∉ chunk := by simpa using hnul
    have hlen := Process.readMemory_length hread
    rw [ih]
    by_cases hle : 256 ≤ maxLength - bytesRead
    · rw [Nat.min_eq_left hle] at hread hlen
      obtain ⟨hrun, hlast, hiff⟩ := run_of_chunk hle hread h0 hlen
      have htake (rest : Bytes) (n : Nat) :
          (chunk ++ rest).take (256 + n) = chunk ++ rest.take n := by
        rw [← hlen, List.take_length_add_append]
      have hne (n : Nat) : bytesRead + (256 + n) ≠ 0 := by omega
      simp only [hlen, hlast, hiff, ← Nat.sub_sub, Nat.add_assoc, if_neg (hne _)]
      simp only [hrun, htake, List.append_assoc]
    · rw [Nat.min_eq_right (by omega)] at hread hlen
      obtain ⟨hrun, hreadable⟩ := run_of_lastChunk hread h0 hlen
      have hnone : RunReadable byteAt (address + (maxLength - bytesRead)) 0 := .inl rfl
      simp only [hlen, Nat.add_sub_cancel' hlt.le, Nat.sub_self, if_pos hnone, if_pos hreadable,
        hrun, run, List.append_nil]
  | case5 address bytesRead resultBytes hge =>
    have hzero : maxLength - bytesRead = 0 := by omega
    have hreadable : RunReadable byteAt address 0 := .inl rfl
    simp [hzero, hreadable, run]

theorem readString_eq (hne : address ≠ 0) :
    readString (byteProcess byteAt order) address maxLength =
      let bytes := run byteAt maxLength address
      if RunReadable byteAt address maxLength then bytes.decodeUtf8Replace
      else if lastChunk bytes.length = 0 then Text.hex0x address
      else Bytes.decodeUtf8Replace (bytes.take (lastChunk bytes.length)) := by
  have hchunks := @readChunks_eq byteAt order address maxLength 0 []
  simp only [Nat.sub_zero, Nat.zero_add, List.nil_append] at hchunks
  unfold readString
  rw [if_neg hne, hchunks]
  dsimp only
  split_ifs <;> rfl

/-- The reader agrees with one that reads byte by byte: from a readable address on it returns the
text of the run, and the address in place of a text only when nothing can be read. -/
structure ReadsPlainly (byteAt : Nat → Option UInt8) (order : ByteOrder)
    (address maxLength : Nat) : Prop where
  readable : ∀ b, byteAt address = some b →
    readString (byteProcess byteAt order) address maxLength =
      (run byteAt maxLength address).decodeUtf8Replace
  unreadable : readString (byteProcess byteAt order) address maxLength = Text.hex0x address →
    byteAt address = none

/-- The bytes in the chunk where a run ends are not seen, but the text is the same without them. -/
def SameWithoutLastChunk (bytes : Bytes) : Prop :=
  0 < lastChunk bytes.length ∧
    Bytes.decodeUtf8Replace (bytes.take (lastChunk bytes.length)) = bytes.decodeUtf8Replace

/-- **The chunked reader agrees with the plain one exactly when nothing can be read, or the chunk
where the run ends can be read as a whole.** The exceptions are a run that fills the limit, one
whose bytes in this chunk do not change the text, and a text that is its own address. -/
theorem readString_plainly_iff (hne : address ≠ 0) :
    ReadsPlainly byteAt order address maxLength ↔
      ∀ b, byteAt address = some b →
        (run byteAt maxLength address).decodeUtf8Replace ≠ Text.hex0x address ∧
          (RunReadable byteAt address maxLength ∨
            SameWithoutLastChunk (run byteAt maxLength address)) := by
  have hread := @readString_eq byteAt order address maxLength hne
  dsimp only at hread
  constructor
  · intro h b hb
    have hplain := h.readable b hb
    have hnot : readString (byteProcess byteAt order) address maxLength ≠ Text.hex0x address := by
      intro hhex
      rw [h.unreadable hhex] at hb
      cases hb
    refine ⟨hplain ▸ hnot, ?_⟩
    split_ifs at hread with hreadable hzero
    · exact .inl hreadable
    · exact absurd hread hnot
    · exact .inr ⟨Nat.pos_of_ne_zero hzero, hread.symm.trans hplain⟩
  · intro h
    have hplain : ∀ b, byteAt address = some b →
        readString (byteProcess byteAt order) address maxLength =
          (run byteAt maxLength address).decodeUtf8Replace := by
      intro b hb
      rw [hread]
      rcases (h b hb).2 with hreadable | ⟨hpos, hsame⟩
      · exact if_pos hreadable
      · split_ifs with h1 h2
        · rfl
        · omega
        · exact hsame
    refine ⟨hplain, fun hhex => ?_⟩
    cases hb : byteAt address with
    | none => rfl
    | some b => exact absurd ((hplain b hb).symm.trans hhex) (h b hb).1

/-- A page that begins with the string `h`. -/
def firstPage (address : Nat) : Option UInt8 :=
  if address = 0x1000 then some 0x68
  else if 0x1000 < address ∧ address < 0x2000 then some 0
  else none

theorem readString_firstPage : ReadsPlainly firstPage .little 0x1000 4096 :=
  (readString_plainly_iff (by decide)).mpr fun _ _ => ⟨by decide +kernel, .inl (by decide +kernel)⟩

/-- The string `hi` at the end of the last readable page. -/
def lastPage (address : Nat) : Option UInt8 :=
  if address = 0x1FFD then some 0x68
  else if address = 0x1FFE then some 0x69
  else if address = 0x1FFF then some 0
  else none

/-- A string is not read whose NUL is the last readable byte. -/
theorem string_before_unmapped_page : ¬ ∀ byteAt order address maxLength, address ≠ 0 →
    ReadsPlainly byteAt order address maxLength := by
  intro h
  have hread := @readString_eq lastPage .little 0x1FFD 4096 (by decide)
  rw [(h lastPage .little 0x1FFD 4096 (by decide)).readable 0x68 rfl] at hread
  revert hread
  decide +kernel

/-! ## Strings and pointers -/

/-- A string that ends with a NUL can be read at the address. -/
def Terminated (byteAt : Nat → Option UInt8) (address : Nat) : Prop :=
  ∃ bytes, CString.Holds byteAt address bytes

/-- The text is that of the string at the address. -/
def IsStringAt (byteAt : Nat → Option UInt8) (address : Nat) (text : String) : Prop :=
  ∃ bytes, CString.Holds byteAt address bytes ∧ text = bytes.decodeUtf8Replace

/-- The chunks of the reader of 4096 bytes can be read as far as a string reaches. -/
def ReadableAround (byteAt : Nat → Option UInt8) (address : Nat) : Prop :=
  ∀ bytes, CString.Holds byteAt address bytes → ∀ k, 256 * k ≤ bytes.length → 256 * k < 4096 →
    (window byteAt (address + 256 * k) 256).isSome

/-- The argument is the string that the pointer points to exactly when there is one, and the pointer
when that is null or unreadable. -/
structure TellsStrings (byteAt : Nat → Option UInt8) (address : Nat) (arg : SyscallArg) : Prop where
  string_iff : ∀ s, arg = .string s ↔ address ≠ 0 ∧ IsStringAt byteAt address s
  pointer : address = 0 ∨ byteAt address = none → arg = .pointer address

/-- The first `maxLength` bytes of a string have the text of the whole string. -/
def Uncut (maxLength : Nat) (bytes : Bytes) : Prop :=
  Bytes.decodeUtf8Replace (bytes.take maxLength) = bytes.decodeUtf8Replace

theorem uncut_of_length_le {bytes : Bytes} (h : bytes.length ≤ maxLength) :
    Uncut maxLength bytes := by
  rw [Uncut, List.take_of_length_le h]

theorem isStringAt_iff {bytes : Bytes} (h : CString.Holds byteAt address bytes) {s : String} :
    IsStringAt byteAt address s ↔ s = bytes.decodeUtf8Replace := by
  constructor
  · rintro ⟨bytes', hbytes', rfl⟩
    rw [hbytes'.unique h]
  · exact fun hs => ⟨bytes, h, hs⟩

/-- Around a string a reader can read the chunk in which its run ends. -/
theorem runReadable_of_holds {bytes : Bytes} (h : CString.Holds byteAt address bytes)
    (haround : ReadableAround byteAt address) {n : Nat} (hn : n ≤ 16) :
    RunReadable byteAt address (256 * n) := by
  unfold RunReadable
  rw [h.run_eq, List.length_take]
  by_cases hlen : 256 * n ≤ bytes.length
  · exact .inl (Nat.min_eq_left hlen)
  · right
    have hchunk := haround bytes h (bytes.length / 256) (by omega) (by omega)
    have hsize : min 256 (256 * n - lastChunk bytes.length) = 256 := by
      unfold lastChunk
      omega
    rw [Nat.min_eq_right (by omega), hsize]
    exact hchunk

/-- An argument that shows the string which is there tells it. -/
theorem tellsStrings_of_holds {bytes : Bytes} (h : CString.Holds byteAt address bytes)
    (hne : address ≠ 0) : TellsStrings byteAt address (.string bytes.decodeUtf8Replace) where
  string_iff s := by
    rw [isStringAt_iff h, SyscallArg.string.injEq, eq_comm]
    exact ⟨fun hs => ⟨hne, hs⟩, fun hs => hs.2⟩
  pointer := by
    rintro (h0 | hnone)
    · exact absurd h0 hne
    · exact absurd hnone h.byteAt_ne_none

/-- Where no string is, the pointer tells that. -/
theorem tellsStrings_of_not_terminated (h : address ≠ 0 → ¬ Terminated byteAt address) :
    TellsStrings byteAt address (.pointer address) where
  string_iff s := by
    constructor
    · intro hs
      cases hs
    · rintro ⟨hne, bytes, hbytes, -⟩
      exact absurd ⟨bytes, hbytes⟩ (h hne)
  pointer _ := rfl

/-- A string is shown as such exactly where it is read as a whole. -/
theorem tellsStrings_string_iff (haround : ReadableAround byteAt address) :
    TellsStrings byteAt address (.string (readString (byteProcess byteAt order) address 4096)) ↔
      address ≠ 0 ∧ ∃ bytes, CString.Holds byteAt address bytes ∧ Uncut 4096 bytes := by
  have hread {bytes : Bytes} (hne : address ≠ 0) (hbytes : CString.Holds byteAt address bytes) :
      readString (byteProcess byteAt order) address 4096 =
        Bytes.decodeUtf8Replace (bytes.take 4096) := by
    have hreadable : RunReadable byteAt address (256 * 16) :=
      runReadable_of_holds hbytes haround le_rfl
    have heq := @readString_eq byteAt order address 4096 hne
    rwa [if_pos hreadable, hbytes.run_eq] at heq
  constructor
  · intro h
    obtain ⟨hne, bytes, hbytes, htext⟩ := (h.string_iff _).mp rfl
    exact ⟨hne, bytes, hbytes, (hread hne hbytes).symm.trans htext⟩
  · rintro ⟨hne, bytes, hbytes, huncut⟩
    rw [hread hne hbytes, huncut]
    exact tellsStrings_of_holds hbytes hne

/-- In the 256 bytes of a buffer, a string is seen as a whole and does not begin with the marker;
and without a string the text does, if there is one. -/
structure MarkerTells (byteAt : Nat → Option UInt8) (address : Nat) : Prop where
  string : ∀ bytes, CString.Holds byteAt address bytes →
    Uncut 256 bytes ∧ Text.startsWith bytes.decodeUtf8Replace "0x" = false
  no_string : ¬ Terminated byteAt address → RunReadable byteAt address 256 →
    Text.startsWith (run byteAt 256 address).decodeUtf8Replace "0x" = true

theorem startsWith_hex0x (n : Nat) : Text.startsWith (Text.hex0x n) "0x" = true := by
  rw [Text.startsWith_iff, CExpr.toList_hex0x]
  exact ⟨_, rfl⟩

/-- A buffer that cannot be read is shown as the pointer, and so is a text with the marker. -/
theorem decodeByType_string (hne : address ≠ 0) :
    decodeByType (byteProcess byteAt order) address .string =
      if RunReadable byteAt address 256 ∧
          Text.startsWith (run byteAt 256 address).decodeUtf8Replace "0x" = false then
        .string (run byteAt 256 address).decodeUtf8Replace
      else .pointer address := by
  have hread := @readString_eq byteAt order address 256 hne
  dsimp only at hread
  unfold decodeByType
  by_cases hreadable : RunReadable byteAt address 256
  · rw [if_pos hreadable] at hread
    simp only [hread, hreadable, true_and]
    cases Text.startsWith (run byteAt 256 address).decodeUtf8Replace "0x" <;> rfl
  · have hlen : (run byteAt 256 address).length < 256 :=
      lt_of_le_of_ne (CString.length_run_le 256 address) fun hlen => hreadable (.inl hlen)
    rw [if_neg hreadable, if_pos (lastChunk_of_lt hlen)] at hread
    simp only [hread, startsWith_hex0x, hreadable, false_and, if_true, if_false]

theorem tellsStrings_decodeByType_iff (haround : ReadableAround byteAt address)
    (hne : address ≠ 0) :
    TellsStrings byteAt address (decodeByType (byteProcess byteAt order) address .string) ↔
      MarkerTells byteAt address := by
  rw [decodeByType_string hne]
  have hreadable {bytes : Bytes} (hbytes : CString.Holds byteAt address bytes) :
      RunReadable byteAt address 256 :=
    runReadable_of_holds (n := 1) hbytes haround (by omega)
  constructor
  · intro h
    refine ⟨fun bytes hbytes => ?_, fun hterm hrun => ?_⟩
    · have hstring := (h.string_iff _).mpr ⟨hne, bytes, hbytes, rfl⟩
      split_ifs at hstring with hseen
      have htext := SyscallArg.string.inj hstring
      have hmarker := hseen.2
      rw [htext] at hmarker
      rw [hbytes.run_eq] at htext
      exact ⟨htext, hmarker⟩
    · by_contra hmarker
      rw [if_pos ⟨hrun, Bool.eq_false_iff.mpr hmarker⟩] at h
      obtain ⟨-, bytes, hbytes, -⟩ := (h.string_iff _).mp rfl
      exact hterm ⟨bytes, hbytes⟩
  · intro h
    by_cases hterm : Terminated byteAt address
    · obtain ⟨bytes, hbytes⟩ := hterm
      obtain ⟨huncut, hmarker⟩ := h.string bytes hbytes
      have htext : (run byteAt 256 address).decodeUtf8Replace = bytes.decodeUtf8Replace := by
        rw [hbytes.run_eq]
        exact huncut
      rw [htext, if_pos ⟨hreadable hbytes, hmarker⟩]
      exact tellsStrings_of_holds hbytes hne
    · have hno : ¬ (RunReadable byteAt address 256 ∧
          Text.startsWith (run byteAt 256 address).decodeUtf8Replace "0x" = false) := by
        rintro ⟨hrun, hmarker⟩
        rw [h.no_string hterm hrun] at hmarker
        cases hmarker
      rw [if_neg hno]
      exact tellsStrings_of_not_terminated fun _ => hterm

/-- What a pointer points to: a string with this text, or nothing where the pointer is null or
unreadable. -/
inductive PointsTo (byteAt : Nat → Option UInt8) (address : Nat) : Option String → Prop where
  | string {s : String} (hne : address ≠ 0) (h : IsStringAt byteAt address s) :
      PointsTo byteAt address (some s)
  | nothing (h : address = 0 ∨ byteAt address = none) : PointsTo byteAt address none

/-- The argument for what the pointer points to. -/
def pointeeArg (address : Nat) : Option String → SyscallArg
  | some s => .string s
  | none => .pointer address

theorem TellsStrings.eq_pointeeArg {arg : SyscallArg} (h : TellsStrings byteAt address arg)
    {pointee : Option String} (hp : PointsTo byteAt address pointee) :
    arg = pointeeArg address pointee := by
  cases hp with
  | string hne hs => exact (h.string_iff _).mpr ⟨hne, hs⟩
  | nothing hnone => exact h.pointer hnone

/-- A text in quotes is no address. -/
theorem quoted_ne_hex0x (s : String) (n : Nat) : quoted s ≠ Text.hex0x n := by
  intro heq
  have hlist := congrArg String.toList heq
  rw [CExpr.toList_hex0x] at hlist
  simp [quoted] at hlist

/-- Strings, null pointers and unreadable pointers that are told apart are never shown alike. -/
theorem TellsStrings.toStr_eq_iff {arg arg' : SyscallArg} {byteAt' : Nat → Option UInt8}
    {address' : Nat} (h : TellsStrings byteAt address arg)
    (h' : TellsStrings byteAt' address' arg') {pointee pointee' : Option String}
    (hp : PointsTo byteAt address pointee) (hp' : PointsTo byteAt' address' pointee') :
    arg.toStr = arg'.toStr ↔ pointee = pointee' ∧ (pointee = none → address = address') := by
  rw [h.eq_pointeeArg hp, h'.eq_pointeeArg hp']
  cases pointee with
  | some s =>
    cases pointee' with
    | some s' =>
      rw [Option.some_inj]
      exact ⟨fun heq => ⟨quoted_inj heq, nofun⟩, fun heq => congrArg quoted heq.1⟩
    | none => exact iff_of_false (quoted_ne_hex0x s address') fun heq => nomatch heq.1
  | none =>
    cases pointee' with
    | some s' => exact iff_of_false (quoted_ne_hex0x s' address).symm fun heq => nomatch heq.1
    | none =>
      refine Text.hex0x_inj.trans ?_
      simp

/-- A context of a decoder in a memory that is given byte by byte. -/
def DecodeContext.inMemory (ctx : DecodeContext) (byteAt : Nat → Option UInt8) : DecodeContext :=
  { ctx with process := byteProcess byteAt ctx.process.byteOrder }

/-- The buffer of a value that is known to be a string, after the call. -/
theorem tellsStrings_decodeSysctlBuffer_iff (ctx : DecodeContext) (hexit : ctx.atEntry = false)
    (haround : ReadableAround byteAt ctx.rawValue) :
    TellsStrings byteAt ctx.rawValue (decodeSysctlBuffer (some .string) (ctx.inMemory byteAt)) ↔
      (ctx.rawValue ≠ 0 → MarkerTells byteAt ctx.rawValue) := by
  by_cases hne : ctx.rawValue = 0
  · have hnull : decodeSysctlBuffer (some .string) (ctx.inMemory byteAt) = .pointer 0 := by
      simp [decodeSysctlBuffer, DecodeContext.inMemory, hne]
    rw [hnull, hne]
    refine iff_of_true (tellsStrings_of_not_terminated fun h => absurd rfl h) fun h => absurd rfl h
  · have hbuffer : decodeSysctlBuffer (some .string) (ctx.inMemory byteAt) =
        decodeByType (byteProcess byteAt ctx.process.byteOrder) ctx.rawValue .string := by
      simp [decodeSysctlBuffer, DecodeContext.inMemory, hne, hexit]
    rw [hbuffer, tellsStrings_decodeByType_iff haround hne]
    exact ⟨fun h _ => h, fun h => h hne⟩

/-- **Strings and pointers are told apart by a string parameter exactly at a string that can be
read and is not cut, and by the buffer of a string of `sysctl` exactly when it is null, or a string
that is not cut and has no marker, or else unreadable or a text with the marker.** Where they are
told apart, strings, null pointers and unreadable pointers are never shown alike. -/
theorem strings_told_apart_iff (ctx : DecodeContext)
    (haround : ReadableAround byteAt ctx.rawValue) :
    (TellsStrings byteAt ctx.rawValue (decodeString (ctx.inMemory byteAt)) ↔
      ctx.rawValue ≠ 0 ∧ ∃ bytes, CString.Holds byteAt ctx.rawValue bytes ∧ Uncut 4096 bytes) ∧
    (∀ caches, ctx.atEntry = false →
      (getSysctlType ((caches.mib.lookup ctx.allArgs.id).getD []) = some .string →
        (TellsStrings byteAt ctx.rawValue
            (decodeSysctlBufferParam (ctx.inMemory byteAt) caches) ↔
          (ctx.rawValue ≠ 0 → MarkerTells byteAt ctx.rawValue))) ∧
      ((caches.byname.lookup ctx.allArgs.id).bind getSysctlTypeByName = some .string →
        (TellsStrings byteAt ctx.rawValue
            (decodeSysctlBynameBufferParam (ctx.inMemory byteAt) caches) ↔
          (ctx.rawValue ≠ 0 → MarkerTells byteAt ctx.rawValue)))) ∧
    ∀ arg pointee byteAt' address' arg' pointee', TellsStrings byteAt ctx.rawValue arg →
      TellsStrings byteAt' address' arg' → PointsTo byteAt ctx.rawValue pointee →
      PointsTo byteAt' address' pointee' →
      (arg.toStr = arg'.toStr ↔
        pointee = pointee' ∧ (pointee = none → ctx.rawValue = address')) := by
  refine ⟨tellsStrings_string_iff haround,
    fun caches hexit => ⟨fun htype => ?_, fun htype => ?_⟩,
    fun arg pointee byteAt' address' arg' pointee' h h' hp hp' => h.toStr_eq_iff h' hp hp'⟩
  · have hbuffer : decodeSysctlBufferParam (ctx.inMemory byteAt) caches =
        decodeSysctlBuffer (some .string) (ctx.inMemory byteAt) :=
      congrArg (decodeSysctlBuffer · _) htype
    rw [hbuffer]
    exact tellsStrings_decodeSysctlBuffer_iff ctx hexit haround
  · have hbuffer : decodeSysctlBynameBufferParam (ctx.inMemory byteAt) caches =
        decodeSysctlBuffer (some .string) (ctx.inMemory byteAt) :=
      congrArg (decodeSysctlBuffer · _) htype
    rw [hbuffer]
    exact tellsStrings_decodeSysctlBuffer_iff ctx hexit haround

/-- The first page holds one string at its beginning. -/
theorem holds_firstPage : CString.Holds firstPage 0x1000 [0x68] :=
  ⟨by simp [firstPage], rfl⟩

theorem readableAround_firstPage : ReadableAround firstPage 0x1000 := by
  intro bytes hbytes k hk _
  obtain rfl := hbytes.unique holds_firstPage
  have hlen : 256 * k ≤ 1 := hk
  obtain rfl : k = 0 := by omega
  decide +kernel

/-- A context after the call, with the pointer to the first page. -/
def firstPageContext : DecodeContext :=
  ⟨false, ⟨.empty, .little⟩, 0x1000, ⟨0, []⟩, false, none⟩

/-- The path and the buffer at the first page are told apart from null pointers, and are not shown
like one. -/
theorem strings_told_apart_firstPage :
    TellsStrings firstPage 0x1000 (decodeString (firstPageContext.inMemory firstPage)) ∧
      TellsStrings firstPage 0x1000
        (decodeSysctlBufferParam (firstPageContext.inMemory firstPage) ⟨[(0, [1, 1])], []⟩) ∧
      (decodeString (firstPageContext.inMemory firstPage)).toStr ≠
        (SyscallArg.pointer 0).toStr := by
  obtain ⟨hstring, hbuffer, halike⟩ :=
    strings_told_apart_iff firstPageContext readableAround_firstPage
  have huncut (maxLength : Nat) (h : 1 ≤ maxLength) : Uncut maxLength [0x68] :=
    uncut_of_length_le h
  have hpath := hstring.mpr ⟨by decide, [0x68], holds_firstPage, huncut 4096 (by omega)⟩
  have hmarker : MarkerTells firstPage 0x1000 := by
    refine ⟨fun bytes hbytes => ?_, fun hnot => absurd ⟨_, holds_firstPage⟩ hnot⟩
    obtain rfl := hbytes.unique holds_firstPage
    exact ⟨huncut 256 (by omega), by decide +kernel⟩
  have hnull : TellsStrings (fun _ => none) 0 (.pointer 0) :=
    tellsStrings_of_not_terminated fun h => absurd rfl h
  refine ⟨hpath, ((hbuffer ⟨[(0, [1, 1])], []⟩ rfl).1 rfl).mpr fun _ => hmarker, ?_⟩
  intro heq
  have hpointee := (halike _ _ _ _ _ _ hpath hnull
    (.string (by decide) ⟨_, holds_firstPage, rfl⟩) (.nothing (.inl rfl))).mp heq
  cases hpointee.1

/-- A null pointer is shown as the string `NULL`. -/
theorem null_shown_as_string : ¬ ∀ byteAt (ctx : DecodeContext),
    ReadableAround byteAt ctx.rawValue →
      TellsStrings byteAt ctx.rawValue (decodeString (ctx.inMemory byteAt)) := by
  intro h
  have haround : ReadableAround (fun _ => none) 0 := by
    intro bytes hbytes
    cases hbytes.nul
  have hnull := h (fun _ => none) { firstPageContext with rawValue := 0 } haround
  cases hnull.pointer (.inl rfl)

end StraceMacos
