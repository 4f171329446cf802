import StraceMacos.Syscalls.StructParams.Event

/-!
# I/O vectors and integer arrays

`iovec.py`, `msghdr.py` and `int_ptr.py`. The base of an I/O vector is a pointer found in the memory
of the process: a null one is loaded as `None`, and reading memory at `None` raises.
-/

namespace StraceMacos

open CStruct

/-! ## `iovec` -/

def iovecStruct : List Field :=
  [⟨"iov_base", .voidPtr⟩, ⟨"iov_len", u64⟩]

/-- One element of an I/O vector. -/
structure Iovec where
  iovBase : Option Nat
  iovLen : Nat
  deriving DecidableEq, Repr

def Iovec.ofFields (iov : List (Field × CVal)) : Iovec where
  iovBase := getPtr iov "iov_base"
  iovLen := (getInt iov "iov_len").toNat

/-- `_read_iovec_buffer` of `IovecParam` and of `MsghdrParam`. The guard `address == 0` is false of
`None`. -/
def readIovecBuffer (process : Process) (address : Option Nat) (size : Nat) :
    Except PyError String :=
  if address = some 0 ∨ size = 0 then .ok "?"
  else do
    match ← process.readDataAt address (min size 32) with
    | none => return "?"
    | some bufData => return formatBuffer bufData 32

/-- The loop of `_decode_array` over the elements. -/
def decodeIovecs (process : Process) : List Iovec → Except PyError (List ItemFields)
  | [] => .ok []
  | iov :: iovs => do
    let bufStr ← readIovecBuffer process iov.iovBase iov.iovLen
    let rest ← decodeIovecs process iovs
    return [("iov_base", .str bufStr), ("iov_len", .int iov.iovLen)] :: rest

/-- The elements of the vector at `address`, `none` when it is not read. -/
def readIovecs (process : Process) (address : Nat) (count : Int) : Option (List Iovec) :=
  if count ≤ 0 ∨ 1024 < count then none
  else (process.readData address (structSize iovecStruct * count.toNat)).map fun data =>
    (loadArray process.byteOrder iovecStruct data count.toNat).map Iovec.ofFields

/-- `_decode_array` of `IovecParam`, `_decode_iovec_array` of `MsghdrParam` -/
def decodeIovecArray (process : Process) (address : Nat) (count : Int) :
    Except PyError (Option (List ItemFields)) :=
  match readIovecs process address count with
  | none => .ok none
  | some iovs => (decodeIovecs process iovs).map some

/-- `IovecParam.decode` -/
def decodeIovecParam (countArgIndex : Nat) (direction : ParamDirection) (ctx : DecodeContext) :
    Decoded :=
  directed direction ctx <|
    match ctx.allArgs.vals[countArgIndex]? with
    | none => .ok (some (.pointer ctx.rawValue))
    | some count =>
      if 1024 < count then .ok (some (.pointer ctx.rawValue))
      else do
        let iovList ← decodeIovecArray ctx.process ctx.rawValue count
        return some (structArrayOr ctx.rawValue iovList)

/-! ## `msghdr` -/

def msghdrStruct : List Field :=
  [⟨"msg_name", .voidPtr⟩, ⟨"msg_namelen", u32⟩, ⟨"msg_iov", .voidPtr⟩, ⟨"msg_iovlen", i32⟩,
    ⟨"msg_control", .voidPtr⟩, ⟨"msg_controllen", u32⟩, ⟨"msg_flags", i32⟩]

/-- The part of the result for an optional pointer and its length. -/
def pointerWithLength (pointerName lengthName : String) (pointer : Nat) (length : Int) : Fields :=
  [(pointerName, .str (formatPointer pointer)),
    (lengthName, .int (if pointer = 0 then 0 else length))]

/-- The part of the result for `msg_iov`. -/
def decodeMsgIov (process : Process) (msgIov : Nat) (msgIovlen : Int) : Except PyError Fields :=
  if msgIov = 0 ∨ msgIovlen = 0 then
    .ok [("msg_iov", .str "NULL"), ("msg_iovlen", .int 0)]
  else do
    match ← decodeIovecArray process msgIov msgIovlen with
    | some (d :: ds) => return [("msg_iov", .list (d :: ds)), ("msg_iovlen", .int msgIovlen)]
    | _ => return [("msg_iov", .str (formatPointer msgIov)), ("msg_iovlen", .int msgIovlen)]

/-- `MsghdrParam.decode_struct`; `no_abbrev` is not used. -/
def decodeMsghdr (process : Process) (address : Nat) (_noAbbrev : Bool) :
    Except PyError (Option Fields) :=
  match readStruct process address msghdrStruct with
  | none => .ok none
  | some msghdr => do
    let msgName := (getPtr msghdr "msg_name").getD 0
    let msgIov := (getPtr msghdr "msg_iov").getD 0
    let msgControl := (getPtr msghdr "msg_control").getD 0
    let msgFlags := getInt msghdr "msg_flags"
    let iov ← decodeMsgIov process msgIov (getInt msghdr "msg_iovlen")
    return some (
      pointerWithLength "msg_name" "msg_namelen" msgName (getInt msghdr "msg_namelen") ++ iov ++
      pointerWithLength "msg_control" "msg_controllen" msgControl
        (getInt msghdr "msg_controllen") ++
      if msgFlags ≠ 0 then [("msg_flags", .int msgFlags)] else [])

/-! ## `int *` and `int []` -/

/-- `IntPtrParam.decode` -/
def decodeIntPtrParam (direction : ParamDirection) (ctx : DecodeContext) : Decoded :=
  directed direction ctx <|
    match readStruct ctx.process ctx.rawValue [⟨"value", i32⟩] with
    | some value => .ok (some (.intPtr (getInt value "value")))
    | none => .ok (some (.pointer ctx.rawValue))

/-- `IntArrayParam._get_count`, for a fixed count or the index of an argument. -/
def getCount (count : Nat ⊕ Nat) (ctx : DecodeContext) : Option Nat :=
  match count with
  | .inl fixedCount => some fixedCount
  | .inr countArgIndex => (ctx.allArgs.vals[countArgIndex]?).map (returnedCount ctx)

/-- `IntArrayParam._read_array` -/
def readIntArray (process : Process) (address elementSize count : Nat) : Option (List String) :=
  (process.readData address (elementSize * count)).map fun data =>
    (List.range count).map fun i =>
      toString (Bytes.toInt .little (data.slice (i * elementSize) (i * elementSize + elementSize)))

/-- `IntArrayParam.decode` -/
def decodeIntArrayParam (count : Nat ⊕ Nat) (direction : ParamDirection) (elementSize : Nat)
    (ctx : DecodeContext) : Decoded :=
  directed direction ctx <|
    match getCount count ctx with
    | none => .ok (some (.pointer ctx.rawValue))
    | some n =>
      if n = 0 ∨ 1024 < n then .ok (some (.pointer ctx.rawValue))
      else match readIntArray ctx.process ctx.rawValue elementSize n with
        | none => .ok (some (.pointer ctx.rawValue))
        | some values => .ok (some (.string ("[" ++ Text.join ", " values ++ "]")))

theorem decodeIntPtrParam_ok (direction : ParamDirection) (ctx : DecodeContext) :
    ∃ r, decodeIntPtrParam direction ctx = .ok r := by
  unfold decodeIntPtrParam
  rw [directed_ok_iff]
  rintro -
  cases readStruct ctx.process ctx.rawValue [⟨"value", i32⟩] <;> exact ⟨_, rfl⟩

theorem decodeIntArrayParam_ok (count : Nat ⊕ Nat) (direction : ParamDirection)
    (elementSize : Nat) (ctx : DecodeContext) :
    ∃ r, decodeIntArrayParam count direction elementSize ctx = .ok r := by
  unfold decodeIntArrayParam
  rw [directed_ok_iff]
  rintro -
  cases getCount count ctx with
  | none => exact ⟨_, rfl⟩
  | some n =>
    simp only
    split_ifs
    · exact ⟨_, rfl⟩
    · cases readIntArray ctx.process ctx.rawValue elementSize n <;> exact ⟨_, rfl⟩

end StraceMacos
