import StraceMacos.Library.Ascii
import StraceMacos.Library.Numeral
import StraceMacos.Proofs.DecodeProofs
import StraceMacos.Proofs.StringProofs

/-!
# Output arguments

What a call has written to its buffers is limited by its return value. The decoders of buffers and
arrays show the first bytes or elements at the pointer: they keep to a positive return value that is
smaller than the requested count, and show the whole request otherwise. The decoder of I/O vectors
does not look at the return value.
-/

namespace StraceMacos

open CStruct Fallible

/-- The call and the index of the argument that the kernel fills, as far as its return value
says. -/
def outputArgs : List (String × Nat) :=
  [("read", 1), ("pread", 1), ("recvfrom", 1), ("readlink", 1), ("readlinkat", 2),
    ("getdirentries", 1), ("readv", 1), ("preadv", 1), ("kevent", 3), ("kevent64", 3),
    ("getgroups", 1)]

variable {ctx : DecodeContext} {caches : SysctlCaches} {process : Process} {r : Nat}

/-! ## Counted outputs -/

/-- The index of the argument that counts the bytes or elements of an output. -/
def Param.countIndex : Param → Option Nat
  | .buffer i .out | .kevent i .out | .kevent64 i .out | .intArray (.inr i) .out _ => some i
  | _ => none

/-- The size of an element of an output: a byte, an event or an integer. -/
def Param.elementSize : Param → Nat
  | .kevent .. => structSize keventStruct
  | .kevent64 .. => structSize kevent64Struct
  | .intArray _ _ elementSize => elementSize
  | _ => 1

/-- The argument that shows `k` bytes or elements, which `data` holds. -/
def Param.present (ctx : DecodeContext) (data : Bytes) (k : Nat) : Param → SyscallArg
  | .kevent .. => .structArray
    (((loadArray ctx.process.byteOrder keventStruct data k).map (keventEntry .out)).map .fields)
  | .kevent64 .. => .structArray
    (((loadArray ctx.process.byteOrder kevent64Struct data k).map (keventEntry .out)).map .fields)
  | .intArray _ _ elementSize =>
    .string ("[" ++ Text.join ", " ((List.range k).map fun j => toString
      (Bytes.toInt .little (data.slice (j * elementSize) (j * elementSize + elementSize)))) ++ "]")
  | _ => .buffer data ctx.rawValue 32

/-- The argument shows the first `k` bytes or elements at the pointer; none of them are shown as the
pointer. -/
def Param.ShowsFirst (param : Param) (ctx : DecodeContext) (k : Nat) (arg : SyscallArg) : Prop :=
  if k = 0 then arg = .pointer ctx.rawValue
  else ∃ data, ctx.process.readMemory ctx.rawValue (param.elementSize * k) = some data ∧
    arg = param.present ctx data k

/-- Nothing is shown of so many bytes or elements: they cannot be read, or are too many. -/
def Param.Unshown (ctx : DecodeContext) (n : Nat) : Param → Prop
  | .buffer .. =>
    ctx.process.readData ctx.rawValue (if ctx.noAbbrev then min n 65536 else min n 4096) = none
  | .kevent .. =>
    1000 < n ∨ ctx.process.readData ctx.rawValue (structSize keventStruct * n) = none
  | .kevent64 .. =>
    1000 < n ∨ ctx.process.readData ctx.rawValue (structSize kevent64Struct * n) = none
  | .intArray _ _ elementSize =>
    1024 < n ∨ ctx.process.readData ctx.rawValue (elementSize * n) = none
  | _ => True

theorem readMemory_of_readData {address size : Nat} {data : Bytes}
    (h : process.readData address size = some data) :
    process.readMemory address size = some data ∧ data.length = size ∧ 0 < size := by
  unfold Process.readData at h
  obtain ⟨hread, hne⟩ := Option.filter_eq_some_iff.mp h
  have hlen := Process.readMemory_length hread
  refine ⟨hread, hlen, hlen ▸ List.length_pos_of_ne_nil ?_⟩
  simpa using hne

theorem Param.showsFirst_zero {param : Param} {arg : SyscallArg} :
    param.ShowsFirst ctx 0 arg ↔ arg = .pointer ctx.rawValue := by
  rw [ShowsFirst, if_pos rfl]

theorem Param.present_ne_pointer {param : Param} {data : Bytes} {k address : Nat} :
    param.present ctx data k ≠ .pointer address := by
  cases param <;> exact nofun

/-- What shows some bytes or elements does not show none. -/
theorem Param.ShowsFirst.eq_zero {param : Param} {k : Nat} {arg : SyscallArg}
    (h : param.ShowsFirst ctx k arg) (hnone : arg = .pointer ctx.rawValue) : k = 0 := by
  by_contra hk
  rw [ShowsFirst, if_neg hk] at h
  obtain ⟨data, -, rfl⟩ := h
  exact present_ne_pointer hnone

theorem directed_out (hexit : ctx.atEntry = false) (h0 : ctx.rawValue ≠ 0) (body : Decoded) :
    directed .out ctx body = body := by
  simp [directed, hexit, h0]

theorem directed_out_null (hexit : ctx.atEntry = false) (h0 : ctx.rawValue = 0) (body : Decoded) :
    directed .out ctx body = .ok (some (.pointer ctx.rawValue)) := by
  simp [directed, hexit, h0]

/-- What a decoder has shown of `count` bytes or elements: the first of them, and none exactly when
it may not show them or cannot read them. -/
def Param.ShowsUpTo (param : Param) (ctx : DecodeContext) (count : Nat) (res : Decoded) : Prop :=
  ∃ arg k, res = .ok (some arg) ∧ param.ShowsFirst ctx k arg ∧ k ≤ count ∧
    (k = 0 ↔ count = 0 ∨ param.Unshown ctx count)

theorem Param.showsUpTo_none {param : Param} {count : Nat}
    (h : count = 0 ∨ param.Unshown ctx count) :
    param.ShowsUpTo ctx count (.ok (some (.pointer ctx.rawValue))) :=
  ⟨.pointer ctx.rawValue, 0, rfl, showsFirst_zero.mpr rfl, Nat.zero_le _, iff_of_true rfl h⟩

theorem Param.showsUpTo_some {param : Param} {count k : Nat} {data : Bytes} (hpos : 0 < k)
    (hle : k ≤ count) (hshown : ¬ param.Unshown ctx count)
    (hread : ctx.process.readMemory ctx.rawValue (param.elementSize * k) = some data) :
    param.ShowsUpTo ctx count (.ok (some (param.present ctx data k))) := by
  refine ⟨_, k, rfl, ?_, hle, iff_of_false (by omega) ?_⟩
  · rw [ShowsFirst, if_neg (by omega)]
    exact ⟨data, hread, rfl⟩
  · rintro (h0 | hunshown)
    · omega
    · exact hshown hunshown

theorem decodeBuffer_shown {i n : Nat} (hexit : ctx.atEntry = false) (h0 : ctx.rawValue ≠ 0)
    (hn : ctx.allArgs.vals[i]? = some n) :
    (Param.buffer i .out).ShowsUpTo ctx (returnedCount ctx n) (decodeBuffer i .out ctx) := by
  unfold decodeBuffer
  rw [directed_out hexit h0]
  simp only [hn]
  by_cases hsize : returnedCount ctx n = 0
  · rw [if_pos hsize]
    exact Param.showsUpTo_none (.inl hsize)
  · rw [if_neg hsize]
    cases hread : ctx.process.readData ctx.rawValue (if ctx.noAbbrev = true then
        min (returnedCount ctx n) 65536 else min (returnedCount ctx n) 4096) with
    | none => exact Param.showsUpTo_none (.inr hread)
    | some data =>
      have hshown : ¬ (Param.buffer i .out).Unshown ctx (returnedCount ctx n) := fun hunshown => by
        cases hread.symm.trans hunshown
      obtain ⟨hmemory, -, hpos⟩ := readMemory_of_readData hread
      refine Param.showsUpTo_some hpos ?_ hshown ?_
      · split_ifs <;> exact Nat.min_le_left _ _
      · have hbyte : (Param.buffer i .out).elementSize = 1 := rfl
        rw [hbyte, Nat.one_mul]
        exact hmemory

theorem structArrayOr_of_length {items : List ItemFields} (rawValue : Nat)
    (h : 0 < items.length) :
    structArrayOr rawValue (some items) = .structArray (items.map .fields) := by
  cases items with
  | nil => cases h
  | cons d ds => rfl

theorem length_loadArray {order : ByteOrder} {fields : List Field} {data : Bytes} {count : Nat} :
    (loadArray order fields data count).length = count := by
  rw [loadArray, List.length_map, List.length_range]

/-- The events of a list that is read, and their bytes. -/
theorem decodeKeventArray_out {fields : List Field} {count : Nat} (hpos : count ≠ 0)
    (hle : ¬ 1000 < count) {data : Bytes}
    (hread : ctx.process.readData ctx.rawValue (structSize fields * count) = some data) :
    structArrayOr ctx.rawValue (decodeKeventArray fields .out ctx.process ctx.rawValue count) =
      .structArray (((loadArray ctx.process.byteOrder fields data count).map
        (keventEntry .out)).map .fields) := by
  rw [decodeKeventArray, if_neg (by tauto), hread, Option.map_some]
  refine structArrayOr_of_length _ ?_
  rw [List.length_map, length_loadArray]
  exact Nat.pos_of_ne_zero hpos

/-- An array of events, of either structure. -/
theorem decodeKeventParam_shown {param : Param} {fields : List Field} {i n : Nat}
    (hsize : param.elementSize = structSize fields)
    (hpresent : ∀ data k, param.present ctx data k = .structArray
      (((loadArray ctx.process.byteOrder fields data k).map (keventEntry .out)).map .fields))
    (hunshown : ∀ count, param.Unshown ctx count ↔ 1000 < count ∨
      ctx.process.readData ctx.rawValue (structSize fields * count) = none)
    (hexit : ctx.atEntry = false) (h0 : ctx.rawValue ≠ 0) (hn : ctx.allArgs.vals[i]? = some n) :
    param.ShowsUpTo ctx (returnedCount ctx n) (decodeKeventParam fields i .out ctx) := by
  unfold decodeKeventParam
  rw [directed_out hexit h0]
  simp only [hn]
  by_cases hcount : returnedCount ctx n = 0
  · rw [if_pos (.inl hcount)]
    exact Param.showsUpTo_none (.inl hcount)
  by_cases hlimit : 1000 < returnedCount ctx n
  · rw [if_pos (.inr hlimit)]
    exact Param.showsUpTo_none (.inr ((hunshown _).mpr (.inl hlimit)))
  rw [if_neg (by tauto)]
  cases hread : ctx.process.readData ctx.rawValue (structSize fields * returnedCount ctx n) with
  | none =>
    have harray : decodeKeventArray fields .out ctx.process ctx.rawValue (returnedCount ctx n) =
        none := by
      rw [decodeKeventArray, if_neg (by tauto), hread]
      rfl
    rw [harray]
    exact Param.showsUpTo_none (.inr ((hunshown _).mpr (.inr hread)))
  | some data =>
    rw [decodeKeventArray_out hcount hlimit hread, ← hpresent]
    have hshown : ¬ param.Unshown ctx (returnedCount ctx n) := fun h => by
      rcases (hunshown _).mp h with hlt | hnone
      · exact hlimit hlt
      · cases hread.symm.trans hnone
    refine Param.showsUpTo_some (Nat.pos_of_ne_zero hcount) le_rfl hshown ?_
    rw [hsize]
    exact (readMemory_of_readData hread).1

theorem comma_not_mem_toString (v : Int) : ',' ∉ (toString v).toList :=
  Text.not_mem_toString_int (by decide) (by decide) v

theorem decodeIntArrayParam_shown {i n elementSize : Nat} (hexit : ctx.atEntry = false)
    (h0 : ctx.rawValue ≠ 0) (hn : ctx.allArgs.vals[i]? = some n) :
    (Param.intArray (.inr i) .out elementSize).ShowsUpTo ctx (returnedCount ctx n)
      (decodeIntArrayParam (.inr i) .out elementSize ctx) := by
  unfold decodeIntArrayParam getCount
  rw [directed_out hexit h0]
  simp only [hn, Option.map_some]
  by_cases hcount : returnedCount ctx n = 0
  · rw [if_pos (.inl hcount)]
    exact Param.showsUpTo_none (.inl hcount)
  by_cases hlimit : 1024 < returnedCount ctx n
  · rw [if_pos (.inr hlimit)]
    exact Param.showsUpTo_none (.inr (.inl hlimit))
  rw [if_neg (by tauto)]
  unfold readIntArray
  cases hread : ctx.process.readData ctx.rawValue (elementSize * returnedCount ctx n) with
  | none => exact Param.showsUpTo_none (.inr (.inr hread))
  | some data =>
    have hshown : ¬ (Param.intArray (.inr i) .out elementSize).Unshown ctx
        (returnedCount ctx n) := fun h => by
      rcases h with hlt | hnone
      · exact hlimit hlt
      · cases hread.symm.trans hnone
    exact Param.showsUpTo_some (Nat.pos_of_ne_zero hcount) le_rfl hshown
      (readMemory_of_readData hread).1

/-- Of an output the first bytes or elements are shown, up to the number that the return value
leaves, and none of them when they cannot be read. -/
theorem Param.shown_spec {param : Param} {i n : Nat} (hi : param.countIndex = some i)
    (hexit : ctx.atEntry = false) (h0 : ctx.rawValue ≠ 0) (hn : ctx.allArgs.vals[i]? = some n) :
    param.ShowsUpTo ctx (returnedCount ctx n) (param.decodePure ctx caches) := by
  unfold countIndex at hi
  split at hi <;> cases hi
  · exact decodeBuffer_shown hexit h0 hn
  · exact decodeKeventParam_shown rfl (fun _ _ => rfl) (fun _ => .rfl) hexit h0 hn
  · exact decodeKeventParam_shown rfl (fun _ _ => rfl) (fun _ => .rfl) hexit h0 hn
  · exact decodeIntArrayParam_shown hexit h0 hn

/-- Nothing is shown of an output, whatever the call returns. -/
def Param.Hidden (ctx : DecodeContext) (param : Param) (i : Nat) : Prop :=
  ctx.rawValue = 0 ∨ ∀ n ∈ ctx.allArgs.vals[i]?, n = 0 ∨ param.Unshown ctx n

theorem returnedCount_zero {n : Nat} (hexit : ctx.atEntry = false)
    (hret : ctx.returnValue = some (.int 0)) : returnedCount ctx n = n := by
  simp [returnedCount, hexit, hret, ReturnValue.int?]

theorem returnedCount_le {n : Nat} (hexit : ctx.atEntry = false)
    (hret : ctx.returnValue = some (.int r)) (hpos : 0 < r) : returnedCount ctx n ≤ r := by
  simp only [returnedCount, hexit, hret, ReturnValue.int?, Option.bind_some]
  split_ifs <;> simp_all

theorem Param.decodePure_null {param : Param} {i : Nat} (hi : param.countIndex = some i)
    (hexit : ctx.atEntry = false) (h0 : ctx.rawValue = 0 ∨ ctx.allArgs.vals[i]? = none) :
    param.decodePure ctx caches = .ok (some (.pointer ctx.rawValue)) := by
  by_cases hraw : ctx.rawValue = 0
  · unfold countIndex at hi
    split at hi <;> cases hi
    all_goals exact directed_out_null hexit hraw _
  · have hnone := h0.resolve_left hraw
    unfold countIndex at hi
    split at hi <;> cases hi
    all_goals
      refine (directed_out hexit hraw _).trans ?_
      simp [getCount, hnone]

/-- A counted output shows bytes or elements that have been written, exactly when the return value
is positive or nothing is shown at all. -/
theorem Param.shown_le_iff {param : Param} {i : Nat} (hi : param.countIndex = some i)
    (hexit : ctx.atEntry = false) (hret : ctx.returnValue = some (.int r)) :
    (∀ arg, param.decodePure ctx caches = .ok (some arg) → ∃ k ≤ r, param.ShowsFirst ctx k arg) ↔
      0 < r ∨ param.Hidden ctx i := by
  by_cases hnull : ctx.rawValue = 0 ∨ ctx.allArgs.vals[i]? = none
  · refine iff_of_true ?_ (.inr (hnull.imp_right fun hnone n hn => ?_))
    · rw [decodePure_null hi hexit hnull]
      rintro arg ⟨⟩
      exact ⟨0, Nat.zero_le r, showsFirst_zero.mpr rfl⟩
    · rw [hnone] at hn
      cases hn
  · push Not at hnull
    obtain ⟨h0, hne⟩ := hnull
    obtain ⟨n, hn⟩ := Option.ne_none_iff_exists'.mp hne
    obtain ⟨arg, k, harg, hfirst, hle, hzero⟩ := @shown_spec ctx caches param i n hi hexit h0 hn
    have hall : (∀ arg, param.decodePure ctx caches = .ok (some arg) →
        ∃ k ≤ r, param.ShowsFirst ctx k arg) ↔ ∃ k ≤ r, param.ShowsFirst ctx k arg := by
      rw [harg]
      exact ⟨fun h => h arg rfl, by rintro h _ ⟨⟩; exact h⟩
    have hhidden : param.Hidden ctx i ↔ n = 0 ∨ param.Unshown ctx n := by
      simp [Hidden, h0, hn]
    rw [hall, hhidden]
    rcases Nat.eq_zero_or_pos r with rfl | hpos
    · rw [returnedCount_zero hexit hret] at hzero
      rw [← hzero]
      constructor
      · rintro ⟨k', hk', hfirst'⟩
        obtain rfl : k' = 0 := Nat.le_zero.mp hk'
        exact .inr (hfirst.eq_zero (showsFirst_zero.mp hfirst'))
      · rintro (hlt | rfl)
        · exact absurd hlt (Nat.lt_irrefl 0)
        · exact ⟨0, le_rfl, hfirst⟩
    · exact iff_of_true ⟨k, hle.trans (returnedCount_le hexit hret hpos), hfirst⟩ (.inl hpos)

/-! ## I/O vectors -/

/-- The bytes of its buffer that an element of an I/O vector shows. -/
def Iovec.shown (process : Process) (iov : Iovec) : Option Bytes :=
  if iov.iovBase = some 0 ∨ iov.iovLen = 0 then none
  else iov.iovBase.bind fun base => process.readData base (min iov.iovLen 32)

/-- The entry of an element, with `?` where nothing is shown. -/
def Iovec.entry (process : Process) (iov : Iovec) : ItemFields :=
  [("iov_base", .str (((iov.shown process).map (formatBuffer · 32)).getD "?")),
    ("iov_len", .int iov.iovLen)]

theorem readIovecBuffer_eq {iov : Iovec} {text : String}
    (h : readIovecBuffer process iov.iovBase iov.iovLen = .ok text) :
    text = ((iov.shown process).map (formatBuffer · 32)).getD "?" := by
  unfold readIovecBuffer at h
  unfold Iovec.shown
  split_ifs at h ⊢ with hnone
  · cases h
    rfl
  · obtain ⟨data, hdata, h⟩ := bind_eq_ok.mp h
    cases hbase : iov.iovBase with
    | none => rw [hbase] at hdata; cases hdata
    | some base =>
      rw [hbase] at hdata
      obtain rfl : process.readData base (min iov.iovLen 32) = data := Except.ok.inj hdata
      rw [Option.bind_some]
      cases hread : process.readData base (min iov.iovLen 32) with
      | none => rw [hread] at h; cases h; rfl
      | some bytes => rw [hread] at h; cases h; rfl

theorem decodeIovecs_eq {iovs : List Iovec} {entries : List ItemFields}
    (h : decodeIovecs process iovs = .ok entries) : entries = iovs.map (Iovec.entry process) := by
  induction iovs generalizing entries with
  | nil => cases h; rfl
  | cons iov iovs ih =>
    obtain ⟨text, htext, h⟩ := bind_eq_ok.mp h
    obtain ⟨rest, hrest, h⟩ := bind_eq_ok.mp h
    cases h
    rw [List.map_cons, ← ih hrest, readIovecBuffer_eq htext]
    rfl

theorem decodeIovecArray_eq {address : Nat} {count : Int} {res : Option (List ItemFields)}
    (h : decodeIovecArray process address count = .ok res) :
    res = (readIovecs process address count).map fun iovs => iovs.map (Iovec.entry process) := by
  unfold decodeIovecArray at h
  cases hread : readIovecs process address count with
  | none =>
    rw [hread] at h
    cases h
    rfl
  | some iovs =>
    rw [hread] at h
    obtain ⟨entries, hentries, rfl⟩ := map_eq_ok.mp h
    rw [decodeIovecs_eq hentries]
    rfl

theorem Iovec.length_shown {iov : Iovec} {data : Bytes} (h : iov.shown process = some data) :
    data.length = min iov.iovLen 32 := by
  unfold Iovec.shown at h
  split_ifs at h
  obtain ⟨base, -, hread⟩ := Option.bind_eq_some_iff.mp h
  exact (readMemory_of_readData hread).2.1

/-- The entry of an element that shows these bytes, or nothing. -/
def Iovec.entryOf (iov : Iovec) (data : Bytes) : ItemFields :=
  [("iov_base", .str (if data = [] then "?" else formatBuffer data 32)),
    ("iov_len", .int iov.iovLen)]

/-- The items show a vector as the kernel has filled it: one buffer after the other, `r` bytes in
all. Each item shows bytes from the beginning of its buffer, no more than were written there. -/
inductive ShowsVector (process : Process) :
    Nat → List Iovec → List Bytes → List StructItem → Prop where
  | nil (r : Nat) : ShowsVector process r [] [] []
  | cons {r : Nat} {iov : Iovec} {iovs : List Iovec} {data : Bytes} {datas : List Bytes}
      {items : List StructItem}
      (hdata : data = [] ∨
        ∃ base, iov.iovBase = some base ∧ process.readMemory base data.length = some data)
      (hroom : data.length ≤ min iov.iovLen r)
      (hrest : ShowsVector process (r - iov.iovLen) iovs datas items) :
      ShowsVector process r (iov :: iovs) (data :: datas) (.fields (iov.entryOf data) :: items)

theorem ShowsVector.sum_le {iovs : List Iovec} {datas : List Bytes} {items : List StructItem}
    (h : ShowsVector process r iovs datas items) : (datas.map List.length).sum ≤ r := by
  induction h with
  | nil r => exact Nat.zero_le r
  | cons _ hroom _ ih =>
    rw [List.map_cons, List.sum_cons]
    omega

/-- The bytes that the elements show have been written, or are shown like a buffer of which nothing
is shown. -/
def WithinWritten (process : Process) : Nat → List Iovec → Prop
  | _, [] => True
  | r, iov :: iovs =>
    (∀ data ∈ iov.shown process, data = [0x3F] ∨ data.length ≤ r) ∧
      WithinWritten process (r - iov.iovLen) iovs

theorem Iovec.entry_of_none {iov : Iovec} (h : iov.shown process = none) :
    iov.entry process = iov.entryOf [] := by
  rw [entry, h]
  rfl

theorem Iovec.entry_of_some {iov : Iovec} {data : Bytes} (h : iov.shown process = some data)
    (hne : data ≠ []) : iov.entry process = iov.entryOf data := by
  rw [entry, h, entryOf, if_neg hne]
  rfl

theorem Iovec.shown_readMemory {iov : Iovec} {data : Bytes} (h : iov.shown process = some data) :
    data ≠ [] ∧ data.length ≤ iov.iovLen ∧
      ∃ base, iov.iovBase = some base ∧ process.readMemory base data.length = some data := by
  have hlength := iov.length_shown h
  unfold Iovec.shown at h
  split_ifs at h
  obtain ⟨base, hbase, hread⟩ := Option.bind_eq_some_iff.mp h
  obtain ⟨hmemory, -, hpos⟩ := readMemory_of_readData hread
  refine ⟨List.ne_nil_of_length_pos (by omega), by omega, base, hbase, ?_⟩
  rw [hlength]
  exact hmemory

/-- The text of one byte is that of a buffer of which nothing is shown. -/
theorem formatBuffer_questionMark : formatBuffer [0x3F] 32 = "?" := by
  decide +kernel

/-- Short buffers with the same text are the same. -/
theorem eq_of_formatBuffer_eq {data data' : Bytes} (hle : data.length ≤ 32)
    (h : formatBuffer data 32 = formatBuffer data' 32) : data = data' := by
  obtain ⟨htake, hmore⟩ := quoteString_inj h
  have hle' : data'.length ≤ 32 := by omega
  rwa [List.take_of_length_le hle, List.take_of_length_le hle'] at htake

/-- An entry that is shown for other bytes shows `?`, or the same bytes. -/
theorem Iovec.eq_of_entryOf_eq {iov : Iovec} {data data' : Bytes} (hne : data ≠ [])
    (hle : data.length ≤ 32) (h : iov.entryOf data = iov.entryOf data') :
    data = [0x3F] ∨ data = data' := by
  simp only [entryOf, List.cons.injEq, Prod.mk.injEq, Scalar.str.injEq, true_and, if_neg hne,
    and_true] at h
  split_ifs at h with hnone
  · rw [← formatBuffer_questionMark] at h
    exact .inl (eq_of_formatBuffer_eq hle h)
  · exact .inr (eq_of_formatBuffer_eq hle h)

/-- The entries of a vector show what has been written. -/
theorem showsVector_iff {iovs : List Iovec} :
    (∃ datas, ShowsVector process r iovs datas ((iovs.map (Iovec.entry process)).map .fields)) ↔
      WithinWritten process r iovs := by
  induction iovs generalizing r with
  | nil => exact iff_of_true ⟨[], .nil r⟩ trivial
  | cons iov iovs ih =>
    rw [WithinWritten, ← ih]
    simp only [List.map_cons]
    constructor
    · rintro ⟨datas, h⟩
      generalize hentry : StructItem.fields (iov.entry process) = item at h
      cases h with
      | @cons _ _ _ data' datas _ hdata hroom hrest =>
        refine ⟨fun data hshown => ?_, datas, hrest⟩
        obtain ⟨hne, -, -⟩ := iov.shown_readMemory hshown
        have hle := iov.length_shown hshown
        rw [iov.entry_of_some hshown hne] at hentry
        rcases iov.eq_of_entryOf_eq hne (by omega) (StructItem.fields.inj hentry) with hmark | rfl
        · exact .inl hmark
        · exact .inr (hroom.trans (Nat.min_le_right _ _))
    · rintro ⟨hwithin, datas, hrest⟩
      cases hshown : iov.shown process with
      | none =>
        rw [iov.entry_of_none hshown]
        exact ⟨[] :: datas, .cons (.inl rfl) (Nat.zero_le _) hrest⟩
      | some data =>
        obtain ⟨hne, hlen, hread⟩ := iov.shown_readMemory hshown
        rw [iov.entry_of_some hshown hne]
        rcases hwithin data hshown with rfl | hle
        · have hmark : iov.entryOf [0x3F] = iov.entryOf [] := by
            rw [Iovec.entryOf, if_neg (by decide), formatBuffer_questionMark]
            rfl
          rw [hmark]
          exact ⟨[] :: datas, .cons (.inl rfl) (Nat.zero_le _) hrest⟩
        · exact ⟨data :: datas, .cons (.inr hread) (le_min hlen hle) hrest⟩

/-- The elements that come before an element leave room for the bytes that it shows, unless it shows
a single `?`. -/
def LeavesRoom (process : Process) (r : Nat) (iovs : List Iovec) : Prop :=
  ∀ j iov, iovs[j]? = some iov → ∀ data ∈ iov.shown process,
    data = [0x3F] ∨ data.length ≤ r - ((iovs.take j).map Iovec.iovLen).sum

theorem withinWritten_iff {iovs : List Iovec} :
    WithinWritten process r iovs ↔ LeavesRoom process r iovs := by
  induction iovs generalizing r with
  | nil => simp [WithinWritten, LeavesRoom]
  | cons iov iovs ih =>
    rw [WithinWritten, ih]
    constructor
    · rintro ⟨hhead, hrest⟩ j iov' hj
      cases j with
      | zero =>
        obtain rfl : iov = iov' := by simpa using hj
        simpa using hhead
      | succ j =>
        have hroom := hrest j iov' hj
        rwa [Nat.sub_sub, ← List.sum_cons, ← List.map_cons, ← List.take_succ_cons] at hroom
    · intro h
      refine ⟨by simpa using h 0 iov rfl, fun j iov' hj => ?_⟩
      have hroom := h (j + 1) iov' hj
      rwa [List.take_succ_cons, List.map_cons, List.sum_cons, ← Nat.sub_sub] at hroom

/-- The elements of the vector that an argument points to. -/
def DecodeContext.vector (ctx : DecodeContext) (countArgIndex : Nat) : Option (List Iovec) :=
  if ctx.rawValue = 0 then none
  else ctx.allArgs.vals[countArgIndex]?.bind fun count =>
    readIovecs ctx.process ctx.rawValue count

theorem decodeIovecParam_of_active {i : Nat} {direction : ParamDirection}
    {res : Option SyscallArg} (hactive : direction.active ctx)
    (h : decodeIovecParam i direction ctx = .ok res) :
    res = some (structArrayOr ctx.rawValue
      ((ctx.vector i).map fun iovs => iovs.map (Iovec.entry ctx.process))) := by
  unfold decodeIovecParam at h
  unfold DecodeContext.vector
  rw [directed_of_active hactive] at h
  rw [if_neg hactive.2]
  cases hcount : ctx.allArgs.vals[i]? with
  | none =>
    rw [hcount] at h
    cases h
    rfl
  | some count =>
    simp only [hcount] at h
    rw [Option.bind_some]
    by_cases hlimit : 1024 < count
    · have hnone : readIovecs ctx.process ctx.rawValue count = none := if_pos (by omega)
      rw [if_pos hlimit] at h
      cases h
      rw [hnone]
      rfl
    · rw [if_neg hlimit] at h
      obtain ⟨items, hitems, h⟩ := bind_eq_ok.mp h
      cases h
      rw [decodeIovecArray_eq hitems]

theorem decodeIovecParam_eq {i : Nat} {res : Option SyscallArg} (hexit : ctx.atEntry = false)
    (h : decodeIovecParam i .out ctx = .ok res) :
    res = some (structArrayOr ctx.rawValue
      ((ctx.vector i).map fun iovs => iovs.map (Iovec.entry ctx.process))) := by
  by_cases h0 : ctx.rawValue = 0
  · unfold decodeIovecParam at h
    rw [directed_out_null hexit h0] at h
    cases h
    rw [DecodeContext.vector, if_pos h0]
    rfl
  · exact decodeIovecParam_of_active ⟨by simp [hexit], h0⟩ h

/-! ## All outputs -/

/-- What the argument of an output shows has been written by a call that returned `r`: the first
bytes or elements at the pointer, at most `r` of them; in a vector, the first bytes of the buffers
as far as `r` bytes fill them, at most `r` in all. -/
def Param.ShowsWritten (param : Param) (ctx : DecodeContext) (caches : SysctlCaches) (r : Nat) :
    Prop :=
  ∀ arg, param.decodePure ctx caches = .ok (some arg) →
    match param with
    | .iovec i _ => arg = .pointer ctx.rawValue ∨ ∃ iovs datas items, ctx.vector i = some iovs ∧
        arg = .structArray items ∧ ShowsVector ctx.process r iovs datas items ∧
        (datas.map List.length).sum ≤ r
    | _ => ∃ k ≤ r, param.ShowsFirst ctx k arg

/-- The parameter is an output that the return value measures. -/
def Param.isOutput : Param → Bool
  | .iovec _ .out => true
  | param => param.countIndex.isSome

/-- When an output keeps to the return value `r`: a counted one shows something only if the return
value is positive, and each element of a vector that shows something has room left for it, unless
decoding raises. -/
def Param.KeepsToReturn (param : Param) (ctx : DecodeContext) (r : Nat) : Prop :=
  match param with
  | .iovec i _ => param.MeetsNullBase ctx ∨ ∀ iovs ∈ ctx.vector i, LeavesRoom ctx.process r iovs
  | _ => 0 < r ∨ ∀ i ∈ param.countIndex, param.Hidden ctx i

theorem showsWritten_iovec_iff {i : Nat} (hexit : ctx.atEntry = false) :
    (Param.iovec i .out).ShowsWritten ctx caches r ↔ (Param.iovec i .out).KeepsToReturn ctx r := by
  constructor
  · intro h
    by_cases hnull : (Param.iovec i .out).MeetsNullBase ctx
    · exact .inl hnull
    refine .inr fun iovs hiovs => ?_
    obtain ⟨res, hres⟩ := decodeIovecParam_ok_iff.mpr hnull
    have harg := decodeIovecParam_eq hexit hres
    rw [Option.mem_def.mp hiovs] at harg
    rw [← withinWritten_iff, ← showsVector_iff]
    cases iovs with
    | nil => exact ⟨[], .nil r⟩
    | cons iov iovs =>
      rcases h _ (harg ▸ hres) with hpointer | ⟨iovs', datas, items, hiovs', hitems, hshows, -⟩
      · cases hpointer
      · obtain rfl : iov :: iovs = iovs' := Option.some.inj (hiovs.symm.trans hiovs')
        cases hitems
        exact ⟨datas, hshows⟩
  · rintro (hnull | hroom) arg harg
    · exact absurd ⟨_, harg⟩ (mt decodeIovecParam_ok_iff.mp (not_not.mpr hnull))
    · have heq := Option.some.inj (decodeIovecParam_eq hexit harg)
      cases hiovs : ctx.vector i with
      | none =>
        rw [hiovs] at heq
        exact .inl heq
      | some iovs =>
        rw [hiovs] at heq
        cases iovs with
        | nil => exact .inl heq
        | cons iov iovs =>
          obtain ⟨datas, hshows⟩ := showsVector_iff.mpr (withinWritten_iff.mpr (hroom _ hiovs))
          exact .inr ⟨_, datas, _, hiovs, heq, hshows, hshows.sum_le⟩

/-- What an output shows. -/
theorem Param.showsWritten_iff {param : Param} (hout : param.isOutput = true)
    (hexit : ctx.atEntry = false) (hret : ctx.returnValue = some (.int r)) :
    param.ShowsWritten ctx caches r ↔ param.KeepsToReturn ctx r := by
  unfold isOutput at hout
  split at hout
  · exact showsWritten_iovec_iff hexit
  · obtain ⟨i, hi⟩ := Option.isSome_iff_exists.mp hout
    have hiff := @shown_le_iff ctx caches r param i hi hexit hret
    unfold countIndex at hi
    split at hi <;> cases hi <;> simpa [ShowsWritten, KeepsToReturn, countIndex] using hiff

def SyscallParam.isOutput : SyscallParam → Bool
  | .plain param => param.isOutput
  | .variant _ => false

theorem registered_outputs : ∀ e ∈ registered, ∀ o ∈ outputArgs, e.1.name = o.1 →
    ∃ param, e.1.params[o.2]? = some (.plain param) ∧ param.isOutput = true := by
  have h : ∀ e ∈ registered, ∀ o ∈ outputArgs, Text.byteCode e.1.name = Text.byteCode o.1 →
      e.1.params[o.2]?.any SyscallParam.isOutput = true := by
    decide +kernel
  intro e he o ho hname
  obtain ⟨param, hparam, hout⟩ := (Option.any_eq_true _ _).mp (h e he o ho (congrArg _ hname))
  cases param with
  | plain param => exact ⟨param, hparam, hout⟩
  | variant _ => cases hout

/-- **The output of a call shows the first bytes or elements, and only those that have been written,
exactly when the return value is positive or nothing is shown at all; and for an I/O vector exactly
when every element that shows bytes has room for them in the return value.** -/
theorem output_shown_iff {d : SyscallDef} (hd : d ∈ registered.map Prod.fst) {i : Nat}
    (hi : (d.name, i) ∈ outputArgs) :
    ∃ param, d.params[i]? = some (.plain param) ∧
      ∀ noAbbrev process event rawValue caches (r : Nat),
        event.returnValue = .int r →
          (param.ShowsWritten (exitContext noAbbrev process event rawValue) caches r ↔
            param.KeepsToReturn (exitContext noAbbrev process event rawValue) r) := by
  obtain ⟨e, he, rfl⟩ := List.mem_map.mp hd
  obtain ⟨param, hparam, hout⟩ := registered_outputs e he _ hi rfl
  refine ⟨param, hparam, fun noAbbrev process event rawValue caches r hret => ?_⟩
  exact Param.showsWritten_iff hout rfl (congrArg some hret)

/-- `read` -/
def readDef : SyscallDef where
  number := 3
  name := "read"
  params := plainParams [.fileDescriptor, .buffer 2 .out, .unsigned]

theorem readDef_mem : readDef ∈ registered.map Prod.fst := by
  have hfind : (registered.map Prod.fst).find? (·.name == "read") = some readDef := rfl
  exact List.mem_of_find?_eq_some hfind

/-- A process with these bytes at `0x1000`. -/
def bufferProcess (bytes : Bytes) : Process :=
  byteProcess (page bytes) .little

/-- The bytes of a buffer and, behind them, the vector of one element that points to them. -/
def readBytes : Bytes :=
  [0x61, 0x62, 0x63, 0x64, 0x65, 0, 0, 0, 0x00, 0x10, 0, 0, 0, 0, 0, 0, 4, 0, 0, 0, 0, 0, 0, 0]

/-- A call of `name` with a buffer or a vector at `address` and the size or count `size`. -/
def readEvent (name : String) (address size : Nat) (returnValue : Int) : SyscallEvent :=
  ⟨1, name, [.fileDescriptor 3, .pointer address, .unsigned size], .int returnValue, 0,
    ⟨0, [3, address, size]⟩, 0⟩

/-- `readv` -/
def readvDef : SyscallDef where
  number := 120
  name := "readv"
  params := plainParams [.fileDescriptor, .iovec 2 .out, .int]

theorem readvDef_mem : readvDef ∈ registered.map Prod.fst := by
  have hfind : (registered.map Prod.fst).find? (·.name == "readv") = some readvDef := rfl
  exact List.mem_of_find?_eq_some hfind

/-- Four of five bytes are read, into a buffer and into a vector. -/
theorem output_shown_read :
    (Param.buffer 2 .out).ShowsWritten
      (exitContext false (bufferProcess readBytes) (readEvent "read" 0x1000 5 4) 0x1000) ⟨[], []⟩
      4 ∧
    (Param.iovec 2 .out).ShowsWritten
      (exitContext false (bufferProcess readBytes) (readEvent "readv" 0x1008 1 4) 0x1008) ⟨[], []⟩
      4 := by
  have hread : (readDef.name, 1) ∈ outputArgs := by decide
  have hreadv : (readvDef.name, 1) ∈ outputArgs := by decide
  obtain ⟨param, hparam, hshown⟩ := output_shown_iff readDef_mem hread
  obtain ⟨paramv, hparamv, hshownv⟩ := output_shown_iff readvDef_mem hreadv
  cases hparam
  cases hparamv
  refine ⟨(hshown false (bufferProcess readBytes) (readEvent "read" 0x1000 5 4) 0x1000 ⟨[], []⟩ 4
    rfl).mpr (.inl (by decide)), ?_⟩
  refine (hshownv false (bufferProcess readBytes) (readEvent "readv" 0x1008 1 4) 0x1008 ⟨[], []⟩ 4
    rfl).mpr (.inr fun iovs hiovs j iov hj data hdata => .inr ?_)
  have hvector : (exitContext false (bufferProcess readBytes) (readEvent "readv" 0x1008 1 4)
      0x1008).vector 2 = some [⟨some 0x1000, 4⟩] := by
    decide +kernel
  obtain rfl : [⟨some 0x1000, 4⟩] = iovs := Option.some.inj (hvector.symm.trans hiovs)
  obtain ⟨rfl, rfl⟩ : j = 0 ∧ ⟨some 0x1000, 4⟩ = iov := by
    simpa using List.getElem?_eq_some_iff.mp hj
  exact (Iovec.length_shown hdata).le

/-- At the end of a file the whole buffer is shown. -/
theorem buffer_shown_at_end_of_file : ¬ ∀ d ∈ registered.map Prod.fst, ∀ i param,
    (d.name, i) ∈ outputArgs → d.params[i]? = some (.plain param) →
      ∀ noAbbrev process event rawValue caches (r : Nat), event.returnValue = .int r →
        param.ShowsWritten (exitContext noAbbrev process event rawValue) caches r := by
  intro h
  have hshown := h readDef readDef_mem 1 (.buffer 2 .out) (by decide) rfl false
    (bufferProcess readBytes) (readEvent "read" 0x1000 5 0) 0x1000 ⟨[], []⟩ 0 rfl
  have hbuffer : (Param.buffer 2 .out).decodePure (exitContext false (bufferProcess readBytes)
      (readEvent "read" 0x1000 5 0) 0x1000) ⟨[], []⟩ =
        .ok (some (.buffer [0x61, 0x62, 0x63, 0x64, 0x65] 0x1000 32)) := by
    decide +kernel
  obtain ⟨k, hk, hfirst⟩ := hshown _ hbuffer
  obtain rfl : k = 0 := Nat.le_zero.mp hk
  cases Param.showsFirst_zero.mp hfirst

end StraceMacos
