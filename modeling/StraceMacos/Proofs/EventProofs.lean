import StraceMacos.Library.Bitmap
import StraceMacos.Proofs.QuoteProofs
import StraceMacos.Proofs.StringProofs
import StraceMacos.Syscalls.StructParams.Event

/-!
# Arrays of events and sets of descriptors

The decoders of `kevent` and `kevent64_s` arrays load the members of each event from its own bytes
and show the same entries for the same events. The decoder of an `fd_set` lists the bits of its
bitmap.
-/

namespace StraceMacos

open CStruct

variable {order : ByteOrder} {direction : ParamDirection}

/-! ## `kevent` arrays -/

/-- The members of an event that are shown. -/
structure Kevent where
  ident : BitVec 64
  filter : BitVec 16
  flags : BitVec 16
  fflags : BitVec 32
  data : BitVec 64

/-- The members with which both structures of an event begin. -/
def keventFields : List Field :=
  [⟨"ident", u64⟩, ⟨"filter", i16⟩, ⟨"flags", u16⟩, ⟨"fflags", u32⟩, ⟨"data", i64⟩]

namespace Kevent

/-- The bytes of these members. -/
def parts (order : ByteOrder) (e : Kevent) : List Bytes :=
  [Bytes.ofWord order e.ident, Bytes.ofWord order e.filter, Bytes.ofWord order e.flags,
    Bytes.ofWord order e.fflags, Bytes.ofWord order e.data]

/-- The bytes of the event as a `struct kevent`. -/
def image (order : ByteOrder) (e : Kevent) (udata : BitVec 64) : Bytes :=
  (e.parts order ++ [Bytes.ofWord order udata]).flatten

/-- The bytes of the event as a `struct kevent64_s`. -/
def image64 (order : ByteOrder) (e : Kevent) (udata ext0 ext1 : BitVec 64) : Bytes :=
  (e.parts order ++
    [Bytes.ofWord order udata, Bytes.ofWord order ext0, Bytes.ofWord order ext1]).flatten

/-- The entry that shows the event. -/
def entry (direction : ParamDirection) (e : Kevent) : ItemFields :=
  [("ident", .int e.ident.toNat), ("filter", .str (decodeKeventFilter e.filter.toInt)),
    ("flags", .str (decodeKeventFlags e.flags.toNat))] ++
  (if e.fflags ≠ 0 then
    [("fflags", .str (decodeKeventFflags e.fflags.toNat e.filter.toInt))] else []) ++
  (if direction = .out ∧ e.data ≠ 0 then [("data", .int e.data.toInt)] else [])

/-- The entry is made of the members that both structures begin with. -/
theorem keventEntry_parts (e : Kevent) (tail : List Field) (others : List Bytes) :
    keventEntry direction (loadParts order (keventFields ++ tail) (e.parts order ++ others)) =
      e.entry direction := by
  have hident : getInt (loadParts order (keventFields ++ tail) (e.parts order ++ others))
      "ident" = e.ident.toNat :=
    congrArg Int.ofNat (Bytes.toNat_ofWord (by decide) _)
  have hfilter : getInt (loadParts order (keventFields ++ tail) (e.parts order ++ others))
      "filter" = e.filter.toInt :=
    Bytes.toInt_ofWord (by decide) _
  have hflags : getInt (loadParts order (keventFields ++ tail) (e.parts order ++ others))
      "flags" = e.flags.toNat :=
    congrArg Int.ofNat (Bytes.toNat_ofWord (by decide) _)
  have hfflags : getInt (loadParts order (keventFields ++ tail) (e.parts order ++ others))
      "fflags" = e.fflags.toNat :=
    congrArg Int.ofNat (Bytes.toNat_ofWord (by decide) _)
  have hdata : getInt (loadParts order (keventFields ++ tail) (e.parts order ++ others))
      "data" = e.data.toInt :=
    Bytes.toInt_ofWord (by decide) _
  have hfflags0 : (e.fflags.toNat : Int) ≠ 0 ↔ e.fflags ≠ 0 := by
    rw [BitVec.toNat_ne]
    simp
  have hdata0 : e.data.toInt ≠ 0 ↔ e.data ≠ 0 := by
    rw [← BitVec.toInt_ne]
    simp
  simp only [keventEntry, entry, hident, hfilter, hflags, hfflags, hdata, hfflags0, hdata0]

theorem keventEntry_image (e : Kevent) (udata : BitVec 64) :
    keventEntry direction (loadAll order keventStruct (e.image order udata)) =
      e.entry direction := by
  have hlays : Lays 0 keventStruct (e.parts order ++ [Bytes.ofWord order udata])
      (e.image order udata) := lays_flatten (by decide) (by simp [parts, keventStruct, CType.size])
  rw [loadAll_of_lays hlays]
  exact e.keventEntry_parts [⟨"udata", .voidPtr⟩] _

theorem keventEntry_image64 (e : Kevent) (udata ext0 ext1 : BitVec 64) :
    keventEntry direction (loadAll order kevent64Struct (e.image64 order udata ext0 ext1)) =
      e.entry direction := by
  have hlays : Lays 0 kevent64Struct (e.parts order ++ [Bytes.ofWord order udata,
      Bytes.ofWord order ext0, Bytes.ofWord order ext1]) (e.image64 order udata ext0 ext1) :=
    lays_flatten (by decide) (by simp [parts, kevent64Struct, CType.size])
  rw [loadAll_of_lays hlays]
  exact e.keventEntry_parts [⟨"udata", u64⟩, ⟨"ext0", u64⟩, ⟨"ext1", u64⟩] _

end Kevent

/-- An array is decoded element by element. -/
theorem decodeKeventArray_of_images {fields : List Field} (hfields : 0 < structSize fields)
    {process : Process} {address : Nat} {images : List Bytes} (hne : images ≠ [])
    (hlen : images.length ≤ 1000) (hsize : ∀ image ∈ images, image.length = structSize fields)
    (hread : process.readMemory address (structSize fields * images.length) =
      some images.flatten) :
    decodeKeventArray fields direction process address images.length =
      some (images.map fun image =>
        keventEntry direction (loadAll process.byteOrder fields image)) := by
  have hpos : 0 < images.length := List.length_pos_iff.mpr hne
  have hdata : process.readData address (structSize fields * images.length) =
      some images.flatten := by
    rw [Process.readData_eq_readMemory _ _ (Nat.mul_pos hfields hpos), hread]
  have harray : loadArray process.byteOrder fields images.flatten images.length =
      images.map (loadAll process.byteOrder fields) := by
    rw [loadArray, ← Function.comp_def, ← List.map_map, slices_flatten hsize]
  rw [decodeKeventArray, if_neg (by omega), hdata, Option.map_some, harray, List.map_map]
  rfl

/-- Images that are shown by their events are an array that is. -/
theorem decodeKeventArray_of_events {fields : List Field} (hfields : 0 < structSize fields)
    {process : Process} {address : Nat} {events : List Kevent} (hne : events ≠ [])
    (hlen : events.length ≤ 1000) {image : Nat → Kevent → Bytes}
    (hsize : ∀ i e, (image i e).length = structSize fields)
    (hentry : ∀ i e, keventEntry direction (loadAll process.byteOrder fields (image i e)) =
      e.entry direction)
    (hread : process.readMemory address (structSize fields * events.length) =
      some (events.mapIdx image).flatten) :
    decodeKeventArray fields direction process address events.length =
      some (events.map (Kevent.entry direction)) := by
  have hlength : (events.mapIdx image).length = events.length := List.length_mapIdx
  rw [← hlength] at hread hlen ⊢
  have himages : ∀ b ∈ events.mapIdx image, b.length = structSize fields := by
    intro b hb
    obtain ⟨i, hi, rfl⟩ := List.mem_mapIdx.mp hb
    exact hsize i _
  rw [decodeKeventArray_of_images hfields (by simpa using hne) hlen himages hread]
  congr 1
  refine List.ext_getElem? fun i => ?_
  cases hi : events[i]? <;> simp [hi, hentry]

/-- **The two array decoders show the same entries for the same events**, one for each event and in
their order, for any user data and extension words. -/
theorem decodeKeventArray_alike (direction : ParamDirection) {events : List Kevent}
    (hne : events ≠ []) (hlen : events.length ≤ 1000) :
    (∀ (process : Process) address (udata : Nat → BitVec 64),
      process.readMemory address (32 * events.length) =
        some (events.mapIdx fun i e => e.image process.byteOrder (udata i)).flatten →
      decodeKeventArray keventStruct direction process address events.length =
        some (events.map (Kevent.entry direction))) ∧
    ∀ (process : Process) address (udata ext0 ext1 : Nat → BitVec 64),
      process.readMemory address (48 * events.length) = some (events.mapIdx fun i e =>
        e.image64 process.byteOrder (udata i) (ext0 i) (ext1 i)).flatten →
      decodeKeventArray kevent64Struct direction process address events.length =
        some (events.map (Kevent.entry direction)) := by
  refine ⟨fun process address udata hread => ?_,
    fun process address udata ext0 ext1 hread => ?_⟩
  · exact decodeKeventArray_of_events (by decide) hne hlen
      (fun i e => by simp [Kevent.image, Kevent.parts]; rfl)
      (fun i e => e.keventEntry_image (udata i)) hread
  · exact decodeKeventArray_of_events (by decide) hne hlen
      (fun i e => by simp [Kevent.image64, Kevent.parts]; rfl)
      (fun i e => e.keventEntry_image64 (udata i) (ext0 i) (ext1 i)) hread

/-- Two bytes can be read from descriptor 3, and the timer 5 has expired. -/
def twoEvents : List Kevent :=
  [⟨3, 0xFFFF, 1, 0, 2⟩, ⟨5, 0xFFF9, 0x10, 0, 0⟩]

theorem twoEvents_shown : decodeKeventArray keventStruct .out (byteProcess (page
      (twoEvents.mapIdx fun _ e => e.image .little 7).flatten) .little) 0x1000 2 =
    some [[("ident", .int 3), ("filter", .str "EVFILT_READ"), ("flags", .str "EV_ADD"),
        ("data", .int 2)],
      [("ident", .int 5), ("filter", .str "EVFILT_TIMER"), ("flags", .str "EV_ONESHOT")]] := by
  have hshown := (@decodeKeventArray_alike .out twoEvents (by decide) (by decide)).1
    (byteProcess (page (twoEvents.mapIdx fun _ e => e.image .little 7).flatten) .little) 0x1000
    (fun _ => 7) (by decide +kernel)
  exact hshown.trans (by decide +kernel)

/-! ## `fd_set` -/

/-- The bit of a descriptor in a bitmap of little-endian words of 32 bits. -/
def fdIsSet (data : Bytes) (fd : Nat) : Bool :=
  (Bytes.toNat .little (data.slice (fd / 32 * 4) (fd / 32 * 4 + 4))).testBit (fd % 32)

/-- The bytes of the bitmap that `FD_SET` builds from an empty one. -/
def fdSetImage (fds : List Nat) : Bytes :=
  ((Bitmap.ofList 32 32 fds).map (Bytes.ofWord .little)).flatten

/-- The text of a list of descriptors. -/
def fdText (fds : List Nat) : String :=
  "[" ++ Text.join " " (fds.map toString) ++ "]"

theorem fdsOfBitmap_eq (data : Bytes) :
    fdsOfBitmap data = (List.range 1024).filter (fdIsSet data) := by
  have hbit (i : Nat) {bit : Nat} (hbit : bit < 32) :
      decide (Bytes.toNat .little (data.slice (i * 4) (i * 4 + 4)) &&& (1 <<< bit) ≠ 0) =
        fdIsSet data (i * 32 + bit) := by
    have hword : (i * 32 + bit) / 32 = i := by omega
    have hindex : (i * 32 + bit) % 32 = bit := by omega
    rw [fdIsSet, hword, hindex, Nat.one_shiftLeft, Nat.and_two_pow]
    cases (Bytes.toNat .little (data.slice (i * 4) (i * 4 + 4))).testBit bit <;> simp
  rw [← Bitmap.flatMap_filter_range (fdIsSet data) 32 32, fdsOfBitmap]
  refine congrArg List.flatten (List.map_congr_left fun i _ => ?_)
  exact congrArg (List.map fun bit => i * 32 + bit)
    (List.filter_congr fun bit h => hbit i (List.mem_range.mp h))

theorem fdIsSet_fdSetImage {fds : List Nat} (h : ∀ fd ∈ fds, fd < 1024) {fd : Nat}
    (hfd : fd < 1024) : fdIsSet (fdSetImage fds) fd = fds.contains fd := by
  have hlength : (Bitmap.ofList 32 32 fds).length = 32 := Bitmap.length_ofList
  have hword : fd / 32 < ((Bitmap.ofList 32 32 fds).map (Bytes.ofWord .little)).length := by
    rw [List.length_map, hlength]
    omega
  have hsize : ∀ image ∈ (Bitmap.ofList 32 32 fds).map (Bytes.ofWord .little),
      image.length = 4 := by
    simp
  have hslice := slice_flatten hsize hword
  rw [Nat.succ_mul] at hslice
  rw [fdIsSet, fdSetImage, hslice, List.getElem_map, Bytes.toNat_ofWord (by decide),
    ← Bitmap.isSet_ofList (w := 32) (n := 32) h,
    Bitmap.isSet, List.getElem?_eq_getElem (by simpa using hword)]
  rfl

theorem eq_of_fdIsSet {data data' : Bytes} (hlen : data.length = 128) (hlen' : data'.length = 128)
    (h : ∀ fd < 1024, fdIsSet data fd = fdIsSet data' fd) : data = data' := by
  have hsize {bs : Bytes} (hbs : bs.length = 128) {i : Nat} (hi : i < 32) :
      (bs.slice (i * 4) (i * 4 + 4)).length = 4 := by
    rw [Bytes.slice, List.length_take, List.length_drop]
    omega
  have hslice {i : Nat} (hi : i < 32) :
      data.slice (i * 4) (i * 4 + 4) = data'.slice (i * 4) (i * 4 + 4) := by
    refine Bytes.toNatLE_inj (by rw [hsize hlen hi, hsize hlen' hi]) ?_
    refine Nat.eq_of_testBit_eq fun bit => ?_
    by_cases hbit : bit < 32
    · have hfd := h (i * 32 + bit) (by omega)
      have hword : (i * 32 + bit) / 32 = i := by omega
      have hindex : (i * 32 + bit) % 32 = bit := by omega
      rwa [fdIsSet, fdIsSet, hword, hindex] at hfd
    · have hzero {bs : Bytes} (hbs : bs.length = 4) : bs.toNatLE.testBit bit = false := by
        have hlt := Bytes.toNatLE_lt bs
        rw [hbs] at hlt
        exact Nat.testBit_lt_two_pow (hlt.trans_le (Nat.pow_le_pow_right (n := 2) (by omega)
          (by omega : 32 ≤ bit)))
      rw [hzero (hsize hlen hi), hzero (hsize hlen' hi)]
  refine List.ext_getElem? fun k => ?_
  by_cases hk : k < 128
  · have hget {bs : Bytes} : (bs.slice (k / 4 * 4) (k / 4 * 4 + 4))[k % 4]? = bs[k]? := by
      have hindex : k / 4 * 4 + k % 4 = k := by omega
      rw [Bytes.slice, List.getElem?_take_of_lt (by omega), List.getElem?_drop, hindex]
    rw [← hget, hslice (by omega), hget]
  · rw [List.getElem?_eq_none (by omega), List.getElem?_eq_none (by omega)]

theorem fdText_inj {fds fds' : List Nat} (h : fdText fds = fdText fds') : fds = fds' := by
  have hjoin : Text.join " " (fds.map toString) = Text.join " " (fds'.map toString) := by
    simpa [fdText] using h
  have hnumerals (fds : List Nat) :
      ∀ s ∈ fds.map toString, s.isEmpty = false ∧ ' ' ∉ s.toList := by
    intro s hs
    obtain ⟨fd, -, rfl⟩ := List.mem_map.mp hs
    have htext : toString fd = Text.numeral 10 fd := rfl
    exact ⟨by rw [htext]; simp [Text.numeral],
      Text.not_mem_toString_int (by decide) (by decide) (fd : Int)⟩
  have htexts := Text.join_char_inj (c := ' ') (hnumerals fds) (hnumerals fds') hjoin
  refine List.map_injective_iff.mpr (fun m n hmn => ?_) htexts
  exact (Text.numeral_inj (by omega) (by omega)).mp (hmn : Text.numeral 10 m = Text.numeral 10 n)

/-- The decoder looks at a bitmap at entry. -/
structure ReadsFdSet (ctx : DecodeContext) (data : Bytes) : Prop where
  entry : ctx.atEntry = true
  pointer : ctx.rawValue ≠ 0
  read : ctx.process.readMemory ctx.rawValue 128 = some data

theorem ReadsFdSet.decode_eq {ctx : DecodeContext} {data : Bytes} (h : ReadsFdSet ctx data) :
    decodeFdSetParam ctx = some (.string (fdText ((List.range 1024).filter (fdIsSet data)))) := by
  unfold decodeFdSetParam
  rw [if_neg (by simp [h.entry]), if_neg h.pointer, h.read]
  simp only [fdsOfBitmap_eq]
  cases (List.range 1024).filter (fdIsSet data) <;> rfl

theorem mem_filter_fdIsSet {data : Bytes} {fd : Nat} :
    fd ∈ (List.range 1024).filter (fdIsSet data) ↔ fd < 1024 ∧ fdIsSet data fd = true := by
  rw [List.mem_filter, List.mem_range]

/-- **The descriptors of a bitmap are listed exactly**, in strictly increasing order: those that
`FD_SET` has put into it, and other ones for another bitmap. -/
theorem decodeFdSet_exact :
    (∀ ctx data, ReadsFdSet ctx data → ∃ fds, decodeFdSetParam ctx = some (.string (fdText fds)) ∧
      fds.Pairwise (· < ·) ∧ ∀ fd, fd ∈ fds ↔ fd < 1024 ∧ fdIsSet data fd = true) ∧
    (∀ ctx set, (∀ fd ∈ set, fd < 1024) → ReadsFdSet ctx (fdSetImage set) →
      ∃ fds, decodeFdSetParam ctx = some (.string (fdText fds)) ∧
        fds.Pairwise (· < ·) ∧ ∀ fd, fd ∈ fds ↔ fd ∈ set) ∧
    ∀ ctx ctx' data data' arg arg', ReadsFdSet ctx data → ReadsFdSet ctx' data' → data ≠ data' →
      decodeFdSetParam ctx = some arg → decodeFdSetParam ctx' = some arg' →
      arg.toStr ≠ arg'.toStr := by
  have hsorted (data : Bytes) : ((List.range 1024).filter (fdIsSet data)).Pairwise (· < ·) :=
    List.pairwise_lt_range.filter _
  refine ⟨fun ctx data h => ⟨_, h.decode_eq, hsorted data, fun fd => mem_filter_fdIsSet⟩,
    fun ctx set hset h => ⟨_, h.decode_eq, hsorted _, fun fd => ?_⟩, ?_⟩
  · rw [mem_filter_fdIsSet]
    constructor
    · rintro ⟨hfd, hmem⟩
      rw [fdIsSet_fdSetImage hset hfd] at hmem
      simpa using hmem
    · intro hmem
      have hfd := hset fd hmem
      exact ⟨hfd, by rw [fdIsSet_fdSetImage hset hfd]; simpa using hmem⟩
  · intro ctx ctx' data data' arg arg' h h' hdata harg harg' htext
    obtain rfl := Option.some.inj (h.decode_eq.symm.trans harg)
    obtain rfl := Option.some.inj (h'.decode_eq.symm.trans harg')
    have hfds := fdText_inj (quoted_inj htext)
    refine hdata (eq_of_fdIsSet (Process.readMemory_length h.read)
      (Process.readMemory_length h'.read) fun fd hfd => ?_)
    have hiff : fdIsSet data fd = true ↔ fdIsSet data' fd = true := by
      have hmem := @mem_filter_fdIsSet data fd
      rw [hfds, mem_filter_fdIsSet] at hmem
      simpa [hfd] using hmem.symm
    exact Bool.eq_iff_iff.mpr hiff

/-- At the entry of a `select` that waits for the descriptors in `fds`. -/
def selectContext (fds : List Nat) : DecodeContext :=
  ⟨false, byteProcess (page (fdSetImage fds)) .little, 0x1000, ⟨0, [1024, 0x1000, 0, 0, 0]⟩, true,
    none⟩

/-- Descriptors of the first and of the last word. -/
theorem decodeFdSet_select : ∃ fds,
    decodeFdSetParam (selectContext [1023, 0, 5]) = some (.string (fdText fds)) ∧
      fds.Pairwise (· < ·) ∧ ∀ fd, fd ∈ fds ↔ fd ∈ [1023, 0, 5] :=
  decodeFdSet_exact.2.1 (selectContext [1023, 0, 5]) _ (by decide)
    ⟨rfl, by decide, by decide +kernel⟩

end StraceMacos
