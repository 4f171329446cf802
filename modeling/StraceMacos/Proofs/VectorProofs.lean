import StraceMacos.Library.CImage
import StraceMacos.Proofs.OutputProofs
import StraceMacos.Proofs.QuoteProofs
import StraceMacos.Proofs.StringProofs

/-!
# Buffers and the elements of I/O vectors

A region of memory is shown by a buffer argument, by an element of an I/O vector, and by an element
of the vector of a message. The first reads enough of it to mark that it is longer than what is
shown, and puts any contents into quotes. The other two read only what they show, and leave the
quotes out for the contents that mark unreadable ones.
-/

namespace StraceMacos

open CStruct Fallible
open CString (window)

/-! ## The texts of a region -/

/-- The text of a region as a buffer argument. -/
def bufferText (region : Bytes) : String :=
  "\"" ++ quoteString region 32 ++ "\""

/-- The text of a region as the base of an element of an I/O vector. -/
def iovBaseText (region : Bytes) : String :=
  let bufStr := quoteString (region.take 32) 32
  if bufStr = "?" ∨ bufStr = "NULL" then bufStr else "\"" ++ bufStr ++ "\""

/-- The text of an element of an I/O vector. -/
def itemText (iovBase : String) (iovLen : Nat) : String :=
  "\x7biov_base=" ++ iovBase ++ ", iov_len=" ++ toString iovLen ++ "\x7d"

/-- The region is not longer than what is shown of it, and does not hold a mark of an unreadable
one. -/
def ShownAlike (region : Bytes) : Prop :=
  region.length ≤ 32 ∧ region ≠ [0x3F] ∧ region ≠ [0x4E, 0x55, 0x4C, 0x4C]

instance (region : Bytes) : Decidable (ShownAlike region) :=
  inferInstanceAs (Decidable (_ ∧ _ ∧ _))

theorem quoteString_take {data : Bytes} {maxLength n : Nat} (h : maxLength < n) :
    quoteString (data.take n) maxLength = quoteString data maxLength := by
  cases data with
  | nil => simp
  | cons b bs =>
    obtain ⟨n, rfl⟩ : ∃ k, n = k + 1 := ⟨n - 1, by omega⟩
    have hlen : maxLength < ((b :: bs).take (n + 1)).length ↔ maxLength < (b :: bs).length := by
      rw [List.length_take]
      omega
    unfold quoteString
    rw [List.take_take, Nat.min_eq_left (by omega)]
    simp only [gt_iff_lt, hlen]
    rfl

/-- A quoted buffer that is not cut is determined by its text. -/
theorem quoteString_take_eq_iff {region : Bytes} (bytes : Bytes) (hlen : bytes.length < 32) :
    quoteString (region.take 32) 32 = quoteString bytes 32 ↔ region = bytes := by
  constructor
  · intro h
    have hbytes := (quoteString_inj h).1
    rw [List.take_take, Nat.min_self, List.take_of_length_le (l := bytes) (by omega)] at hbytes
    have hregion : region.length < 32 := by
      rw [← hbytes, List.length_take] at hlen
      omega
    rwa [List.take_of_length_le (by omega)] at hbytes
  · rintro rfl
    rw [List.take_of_length_le (by omega)]

theorem quoteString_take_self_iff (region : Bytes) :
    quoteString (region.take 32) 32 = quoteString region 32 ↔ region.length ≤ 32 := by
  constructor
  · intro h
    have hmore := (quoteString_inj h).2
    rw [List.length_take] at hmore
    omega
  · intro h
    rw [List.take_of_length_le h]

/-- The bases agree unless the region is cut or its text is one of the marks. -/
theorem iovBaseText_eq_iff (region : Bytes) :
    iovBaseText region = bufferText region ↔ ShownAlike region := by
  have hmark : quoteString (region.take 32) 32 = "?" ↔ region = [0x3F] :=
    quoteString_take_eq_iff [0x3F] (by decide)
  have hnull : quoteString (region.take 32) 32 = "NULL" ↔ region = [0x4E, 0x55, 0x4C, 0x4C] :=
    quoteString_take_eq_iff [0x4E, 0x55, 0x4C, 0x4C] (by decide)
  by_cases h : region = [0x3F] ∨ region = [0x4E, 0x55, 0x4C, 0x4C]
  · refine iff_of_false ?_ fun halike => ?_
    · rcases h with rfl | rfl <;> decide
    · rcases h with h | h
      · exact halike.2.1 h
      · exact halike.2.2 h
  · have htext : iovBaseText region = "\"" ++ quoteString (region.take 32) 32 ++ "\"" := by
      unfold iovBaseText
      simp only [hmark, hnull]
      rw [if_neg h]
    push Not at h
    rw [htext, bufferText, ShownAlike, and_iff_left h, ← quoteString_take_self_iff]
    constructor
    · intro h
      have hlist := congrArg String.toList h
      simp only [String.toList_append, List.append_assoc] at hlist
      exact String.toList_injective (List.append_cancel_right (List.append_cancel_left hlist))
    · intro h
      rw [h]

theorem itemText_inj {iovBase iovBase' : String} {iovLen : Nat} :
    itemText iovBase iovLen = itemText iovBase' iovLen ↔ iovBase = iovBase' := by
  constructor
  · intro h
    have hlist := congrArg String.toList h
    simp only [itemText, String.toList_append, List.append_assoc] at hlist
    exact String.toList_injective (List.append_cancel_right (List.append_cancel_left hlist))
  · rintro rfl
    rfl

/-! ## The region as a buffer -/

/-- The region is shown as the buffer of a call that is not made without abbreviations: the argument
is its address, and the count that the kernel leaves is its size. -/
structure ShowsRegion (address size sizeArgIndex : Nat) (direction : ParamDirection)
    (ctx : DecodeContext) : Prop where
  noAbbrev : ctx.noAbbrev = false
  active : direction.active ctx
  rawValue : ctx.rawValue = address
  count : (ctx.allArgs.vals[sizeArgIndex]?).map (returnedCount ctx) = some size

variable {byteAt : Nat → Option UInt8} {order : ByteOrder} {address size i : Nat} {region : Bytes}
  {direction : ParamDirection} {ctx : DecodeContext}

theorem readData_region (h : window byteAt address size = some region) {n : Nat} (hpos : 0 < n)
    (hn : n ≤ size) :
    (byteProcess byteAt order).readData address n = some (region.take n) := by
  rw [Process.readData_eq_readMemory _ _ hpos, readMemory_byteProcess]
  exact CString.window_take h hn

/-- A buffer argument reads more than it shows, or all that there is. -/
theorem decodeBuffer_region (hproc : ctx.process = byteProcess byteAt order)
    (h : window byteAt address size = some region) (hpos : 0 < size)
    (hshows : ShowsRegion address size i direction ctx) :
    ∃ arg, decodeBuffer i direction ctx = .ok (some arg) ∧ arg.toStr = bufferText region := by
  have hlen : region.length = size := CString.length_window h
  have hread := @readData_region byteAt order address size region h (min size 4096) (by omega)
    (by omega)
  obtain ⟨sizeValue, hvalue, hcount⟩ := Option.map_eq_some_iff.mp hshows.count
  have hdecode : decodeBuffer i direction ctx =
      .ok (some (.buffer (region.take (min size 4096)) address 32)) := by
    unfold decodeBuffer
    rw [directed_of_active hshows.active, hvalue]
    simp only [hcount, hshows.noAbbrev, hshows.rawValue, hproc]
    rw [if_neg (by omega), if_neg (by simp), hread]
  refine ⟨_, hdecode, ?_⟩
  show "\"" ++ quoteString (region.take (min size 4096)) 32 ++ "\"" = bufferText region
  by_cases hsize : size ≤ 4096
  · rw [List.take_of_length_le (by omega), bufferText]
  · rw [quoteString_take (by omega), bufferText]

/-! ## The region in a vector -/

/-- An element of a vector reads what it shows. -/
theorem formatItem_entry (h : window byteAt address size = some region) (hpos : 0 < size)
    (hne : address ≠ 0) :
    formatItem (Iovec.entry (byteProcess byteAt order) ⟨some address, size⟩) =
      itemText (iovBaseText region) size := by
  have hlen : region.length = size := CString.length_window h
  have hshown : Iovec.shown (byteProcess byteAt order) ⟨some address, size⟩ =
      some (region.take 32) := by
    unfold Iovec.shown
    rw [if_neg (by simp; omega)]
    have hread := @readData_region byteAt order address size region h (min size 32) (by omega)
      (by omega)
    have htake : region.take (min size 32) = region.take 32 := by
      rw [← hlen, Nat.min_comm, ← List.take_take, List.take_length]
    rw [← htake]
    exact hread
  have hbase : formatItemField "iov_base" (.str (quoteString (region.take 32) 32)) =
      "iov_base=" ++ iovBaseText region := by
    simp only [formatItemField, iovBaseText]
    split_ifs
    · rfl
    · apply String.toList_injective
      simp
  unfold Iovec.entry
  rw [hshown, Option.map_some, Option.getD_some, formatBuffer, formatItem]
  show "\x7b" ++ Text.join ", " [formatItemField "iov_base" _, formatItemField "iov_len" _] ++
    "\x7d" = _
  have hlength : toString (size : Int) = toString size := rfl
  rw [hbase, Text.join_pair, formatItemField, itemText, hlength]
  apply String.toList_injective
  simp

/-- The elements of the vector of the message that an argument points to. -/
def DecodeContext.msgVector (ctx : DecodeContext) : Option (List Iovec) :=
  (readStruct ctx.process ctx.rawValue msghdrStruct).bind fun msghdr =>
    if (getPtr msghdr "msg_iov").getD 0 = 0 then none
    else readIovecs ctx.process ((getPtr msghdr "msg_iov").getD 0) (getInt msghdr "msg_iovlen")

theorem decodeMsgIov_vector {process : Process} {msgIov : Nat} {msgIovlen : Int} {fields : Fields}
    {iov : Iovec} {iovs : List Iovec} (h : decodeMsgIov process msgIov msgIovlen = .ok fields)
    (hne : msgIov ≠ 0) (hread : readIovecs process msgIov msgIovlen = some (iov :: iovs)) :
    fields = [("msg_iov", .list ((iov :: iovs).map (Iovec.entry process))),
      ("msg_iovlen", .int msgIovlen)] := by
  have hlen : msgIovlen ≠ 0 := by
    rintro rfl
    simp [readIovecs] at hread
  unfold decodeMsgIov at h
  rw [if_neg (by simp [hne, hlen])] at h
  obtain ⟨items, hitems, h⟩ := bind_eq_ok.mp h
  rw [decodeIovecArray_eq hitems, hread] at h
  cases h
  rfl

/-- The decoded message has the entries of its vector. -/
theorem decodeMsghdr_vector {iov : Iovec} {iovs : List Iovec} {arg : Option SyscallArg}
    (hactive : direction.active ctx) (hvector : ctx.msgVector = some (iov :: iovs))
    (h : decodeStructParam decodeMsghdr direction ctx = .ok arg) :
    ∃ fields, arg = some (.struct fields) ∧ fields.lookup "msg_iov" =
      some (.list ((iov :: iovs).map (Iovec.entry ctx.process))) := by
  obtain ⟨msghdr, hread, hvector⟩ := Option.bind_eq_some_iff.mp hvector
  have hne : (getPtr msghdr "msg_iov").getD 0 ≠ 0 := by
    intro hzero
    rw [if_pos hzero] at hvector
    cases hvector
  rw [if_neg hne] at hvector
  unfold decodeStructParam at h
  rw [directed_of_active hactive] at h
  obtain ⟨res, hres, h⟩ := bind_eq_ok.mp h
  unfold decodeMsghdr at hres
  rw [hread] at hres
  obtain ⟨fields, hfields, hres⟩ := bind_eq_ok.mp hres
  cases hres
  rw [decodeMsgIov_vector hfields hne hvector] at h
  cases h
  exact ⟨_, rfl, rfl⟩

/-! ## The texts compared -/

/-- **A region is shown alike by a buffer argument and by an element of an I/O vector or of the
vector of a message** exactly when it is not longer than what is shown and is not one of the
marks. -/
theorem decodeBuffer_alike_iff (hproc : ctx.process = byteProcess byteAt order)
    (h : window byteAt address size = some region) (hpos : 0 < size)
    (hshows : ShowsRegion address size i direction ctx) :
    ∃ arg, decodeBuffer i direction ctx = .ok (some arg) ∧
      (∀ k (direction' : ParamDirection) (ctx' : DecodeContext) (iovs : List Iovec) (j : Nat) arg',
        direction'.active ctx' → ctx'.process = ctx.process →
        ctx'.vector k = some iovs → iovs[j]? = some ⟨some address, size⟩ →
        decodeIovecParam k direction' ctx' = .ok arg' →
        ∃ items, arg' = some (.structArray items) ∧
          ((items.map StructItem.toStr)[j]? = some (itemText arg.toStr size) ↔
            ShownAlike region)) ∧
      ∀ (direction' : ParamDirection) (ctx' : DecodeContext) (iovs : List Iovec) (j : Nat) arg',
        direction'.active ctx' → ctx'.process = ctx.process →
        ctx'.msgVector = some iovs → iovs[j]? = some ⟨some address, size⟩ →
        decodeStructParam decodeMsghdr direction' ctx' = .ok arg' →
        ∃ fields items, arg' = some (.struct fields) ∧
          fields.lookup "msg_iov" = some (.list items) ∧
          ((items.map formatItem)[j]? = some (itemText arg.toStr size) ↔ ShownAlike region) := by
  have hne : address ≠ 0 := hshows.rawValue ▸ hshows.active.2
  obtain ⟨arg, harg, htext⟩ := decodeBuffer_region hproc h hpos hshows
  have hentry (iovs : List Iovec) (j : Nat) (hj : iovs[j]? = some ⟨some address, size⟩) :
      ((iovs.map (Iovec.entry ctx.process)).map formatItem)[j]? = some (itemText arg.toStr size) ↔
        ShownAlike region := by
    rw [List.getElem?_map, List.getElem?_map, hj, Option.map_some, Option.map_some, hproc,
      formatItem_entry h hpos hne, Option.some_inj, itemText_inj, htext, iovBaseText_eq_iff]
  refine ⟨arg, harg, ?_, ?_⟩
  · intro k direction' ctx' iovs j arg' hactive hproc' hvector hj harg'
    cases iovs with
    | nil => cases hj
    | cons iov iovs =>
      rw [decodeIovecParam_of_active hactive harg', hvector, hproc']
      refine ⟨_, rfl, ?_⟩
      rw [← hentry _ j hj, List.map_map]
      rfl
  · intro direction' ctx' iovs j arg' hactive hproc' hvector hj harg'
    cases iovs with
    | nil => cases hj
    | cons iov iovs =>
      obtain ⟨fields, hfields, hlookup⟩ := decodeMsghdr_vector hactive hvector harg'
      rw [hproc'] at hlookup
      exact ⟨fields, _, hfields, hlookup, hentry _ j hj⟩

/-- A page with a vector of one element at its beginning, a message with this vector at `0x1010`,
and the bytes of the element at `0x1040`. -/
def vectorPage (region : Bytes) : Nat → Option UInt8 :=
  page (Bytes.ofNat .little 8 0x1040 ++ Bytes.ofNat .little 8 region.length ++
    (List.replicate 16 0 ++ Bytes.ofNat .little 8 0x1000 ++ Bytes.ofNat .little 8 1 ++
      List.replicate 16 0) ++ region)

/-- The entry of a call that gets the address of one of them. -/
def vectorContext (region : Bytes) (address count : Nat) : DecodeContext where
  noAbbrev := false
  process := byteProcess (vectorPage region) .little
  rawValue := address
  allArgs := ⟨0, [1, address, count]⟩
  atEntry := true
  returnValue := none

theorem hi_shown_alike :
    ∃ arg, decodeBuffer 2 .in (vectorContext [0x68, 0x69] 0x1040 2) = .ok (some arg) ∧
      (∃ items, decodeIovecParam 2 .in (vectorContext [0x68, 0x69] 0x1000 1) =
          .ok (some (.structArray items)) ∧
        (items.map StructItem.toStr)[0]? = some (itemText arg.toStr 2)) ∧
      ∃ fields items, decodeStructParam decodeMsghdr .in (vectorContext [0x68, 0x69] 0x1010 0) =
          .ok (some (.struct fields)) ∧ fields.lookup "msg_iov" = some (.list items) ∧
        (items.map formatItem)[0]? = some (itemText arg.toStr 2) := by
  have halike : ShownAlike [0x68, 0x69] := by decide
  have hwindow : window (vectorPage [0x68, 0x69]) 0x1040 2 = some [0x68, 0x69] := by
    decide +kernel
  have hprocess : (vectorContext [0x68, 0x69] 0x1040 2).process =
      byteProcess (vectorPage [0x68, 0x69]) .little := rfl
  have hshows : ShowsRegion 0x1040 2 2 .in (vectorContext [0x68, 0x69] 0x1040 2) :=
    ⟨rfl, by decide, rfl, rfl⟩
  obtain ⟨arg, harg, hiovec, hmsghdr⟩ :=
    decodeBuffer_alike_iff hprocess hwindow (by decide) hshows
  refine ⟨arg, harg, ?_, ?_⟩
  · have hvector : (vectorContext [0x68, 0x69] 0x1000 1).vector 2 = some [⟨some 0x1040, 2⟩] := by
      decide +kernel
    have hdecode : decodeIovecParam 2 .in (vectorContext [0x68, 0x69] 0x1000 1) =
        .ok (some (.structArray [.fields [("iov_base", .str "hi"), ("iov_len", .int 2)]])) := by
      decide +kernel
    obtain ⟨items, hitems, htext⟩ := hiovec 2 .in
      (vectorContext [0x68, 0x69] 0x1000 1) _ 0 _ (by decide) rfl hvector rfl hdecode
    exact ⟨items, hdecode.trans (congrArg _ hitems), htext.mpr halike⟩
  · have hvector : (vectorContext [0x68, 0x69] 0x1010 0).msgVector = some [⟨some 0x1040, 2⟩] := by
      decide +kernel
    have hdecode : decodeStructParam decodeMsghdr .in (vectorContext [0x68, 0x69] 0x1010 0) =
        .ok (some (.struct [("msg_name", .str "NULL"), ("msg_namelen", .int 0),
          ("msg_iov", .list [[("iov_base", .str "hi"), ("iov_len", .int 2)]]),
          ("msg_iovlen", .int 1), ("msg_control", .str "NULL"), ("msg_controllen", .int 0)])) := by
      decide +kernel
    obtain ⟨fields, items, hfields, hlookup, htext⟩ :=
      hmsghdr .in
      (vectorContext [0x68, 0x69] 0x1010 0) _ 0 _ (by decide) rfl hvector rfl hdecode
    exact ⟨fields, items, hdecode.trans (congrArg _ hfields), hlookup, htext.mpr halike⟩

/-- A question mark is shown by the vector as if it could not be read. -/
theorem question_mark_shown_unread :
    ¬ ∀ (byteAt : Nat → Option UInt8) (order : ByteOrder) (address size : Nat) (region : Bytes)
      (i : Nat) (direction : ParamDirection) (ctx : DecodeContext),
      ctx.process = byteProcess byteAt order → window byteAt address size = some region → 0 < size →
      ShowsRegion address size i direction ctx →
      ∃ arg, decodeBuffer i direction ctx = .ok (some arg) ∧
        ∀ k (direction' : ParamDirection) (ctx' : DecodeContext) (iovs : List Iovec) (j : Nat) arg',
          direction'.active ctx' → ctx'.process = ctx.process →
          ctx'.vector k = some iovs → iovs[j]? = some ⟨some address, size⟩ →
          decodeIovecParam k direction' ctx' = .ok arg' →
          ∃ items, arg' = some (.structArray items) ∧
            (items.map StructItem.toStr)[j]? = some (itemText arg.toStr size) := by
  intro h
  have hwindow : window (vectorPage [0x3F]) 0x1040 1 = some [0x3F] := by decide +kernel
  obtain ⟨arg, harg, hiovec⟩ := h _ .little _ _ _ 2 .in (vectorContext [0x3F] 0x1040 1) rfl hwindow
    (by decide) ⟨rfl, by decide, rfl, rfl⟩
  have hvector : (vectorContext [0x3F] 0x1000 1).vector 2 = some [⟨some 0x1040, 1⟩] := by
    decide +kernel
  have hdecode : decodeIovecParam 2 .in (vectorContext [0x3F] 0x1000 1) =
      .ok (some (.structArray [.fields [("iov_base", .str "?"), ("iov_len", .int 1)]])) := by
    decide +kernel
  have hbuffer : decodeBuffer 2 .in (vectorContext [0x3F] 0x1040 1) =
      .ok (some (.buffer [0x3F] 0x1040 32)) := by
    decide +kernel
  obtain ⟨items, hitems, htext⟩ := hiovec 2 .in (vectorContext [0x3F] 0x1000 1) _ 0 _
    (by decide) rfl hvector rfl hdecode
  obtain rfl : arg = .buffer [0x3F] 0x1040 32 :=
    Option.some.inj (Except.ok.inj (harg.symm.trans hbuffer))
  cases hitems
  revert htext
  decide +kernel

end StraceMacos
