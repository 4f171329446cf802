import StraceMacos.Lldb
import StraceMacos.Syscalls.Args
import StraceMacos.Syscalls.Symbols.File

/-!
# Parameter decoders: context and scalar decoders

`definitions/__init__.py` up to the structure decoders: the context that one call of `decode` sees,
and the decoders of arguments that are numbers or strings.
-/

namespace StraceMacos

/-- A return value: the signed register value, or a text in its place. -/
inductive ReturnValue where
  | int (value : Int)
  | str (text : String)
  deriving DecidableEq, Repr

/-- `isinstance(value, int)`, with the integer -/
def ReturnValue.int? : ReturnValue → Option Int
  | .int v => some v
  | .str _ => none

inductive ParamDirection where
  | in
  | out
  deriving DecidableEq, Repr

/-- A list object of raw argument values: its identity and its contents. -/
structure PyList where
  id : Nat
  vals : List Nat
  deriving DecidableEq, Repr

/-- What a decoder reads: `tracer.no_abbrev` and the fields of the shared context. -/
structure DecodeContext where
  noAbbrev : Bool
  process : Process
  rawValue : Nat
  allArgs : PyList
  atEntry : Bool
  returnValue : Option ReturnValue

/-- What `decode` does: raise, or return an argument or `None`. -/
abbrev Decoded := Except PyError (Option SyscallArg)

/-- `_to_signed_int` -/
def toSignedInt (regValue : Nat) : Int :=
  if regValue < 0x8000000000000000 then (regValue : Int)
  else (regValue : Int) - 0x10000000000000000

/-- `_to_signed_int32` -/
def toSignedInt32 (regValue : Nat) : Int :=
  let val32 := regValue &&& 0xFFFFFFFF
  if val32 < 0x80000000 then (val32 : Int) else (val32 : Int) - 0x100000000

theorem Process.readMemory_length {process : Process} {address size : Nat} {data : Bytes}
    (h : process.readMemory address size = some data) : data.length = size :=
  process.memory.read_length h

/-- Only a read of no bytes has an empty result. -/
theorem Process.readData_eq_readMemory (process : Process) (address : Nat) {size : Nat}
    (h : 0 < size) :
    process.readData address size = process.readMemory address size := by
  unfold readData
  cases hr : process.readMemory address size with
  | none => rfl
  | some data =>
    have hl := Process.readMemory_length hr
    have hne : data ≠ [] := by
      rintro rfl
      simp at hl
      omega
    simp [hne]

/-- The loop of `_read_string`: chunks of at most 256 bytes up to the first NUL, an unreadable chunk
or `maxLength` bytes. `none` when the first chunk is unreadable. -/
def readChunks (process : Process) (maxLength currentAddress bytesRead : Nat)
    (resultBytes : Bytes) : Option Bytes :=
  if _hlt : bytesRead < maxLength then
    match _h : process.readMemory currentAddress (min 256 (maxLength - bytesRead)) with
    | none => if bytesRead = 0 then none else some resultBytes
    | some chunk =>
      if chunk.contains 0 then some (resultBytes ++ chunk.untilNul)
      else
        readChunks process maxLength (currentAddress + chunk.length) (bytesRead + chunk.length)
          (resultBytes ++ chunk)
  else some resultBytes
termination_by maxLength - bytesRead
decreasing_by
  have := Process.readMemory_length _h
  omega

/-- `_read_string` -/
def readString (process : Process) (address : Nat) (maxLength : Nat) : String :=
  if address = 0 then "NULL"
  else match readChunks process maxLength address 0 [] with
    | none => Text.hex0x address
    | some resultBytes => resultBytes.decodeUtf8Replace

/-! ## Scalars -/

/-- `IntParam` -/
def decodeInt (ctx : DecodeContext) : SyscallArg :=
  .int (toSignedInt ctx.rawValue) none

/-- `UnsignedParam` -/
def decodeUnsigned (ctx : DecodeContext) : SyscallArg :=
  .unsigned ctx.rawValue

/-- `UidGidParam` -/
def decodeUidGid (ctx : DecodeContext) : SyscallArg :=
  if ctx.rawValue = 0xFFFFFFFF then .int (-1) none else .unsigned ctx.rawValue

/-- `StringParam` -/
def decodeString (ctx : DecodeContext) : SyscallArg :=
  .string (readString ctx.process ctx.rawValue 4096)

/-- The loop of `ArrayOfStringsParam.decode` over the `n` slots from index `i`. -/
def readStringArray (process : Process) (address : Nat) : Nat → Nat → List String
  | 0, _ => []
  | n + 1, i =>
    match process.readMemory (address + i * 8) 8 with
    | none => []
    | some ptrData =>
      let ptrValue := Bytes.toNat .little ptrData
      if ptrValue = 0 then []
      else readString process ptrValue 4096 :: readStringArray process address n (i + 1)

/-- `ArrayOfStringsParam` -/
def decodeArrayOfStrings (maxStrings : Nat) (ctx : DecodeContext) : SyscallArg :=
  if ctx.rawValue = 0 then .pointer 0
  else .stringArray (readStringArray ctx.process ctx.rawValue maxStrings 0)

/-- `DirFdParam`; `AT_FDCWD` is -2. -/
def decodeDirFd (ctx : DecodeContext) : SyscallArg :=
  let signedVal := toSignedInt32 ctx.rawValue
  if ctx.noAbbrev then .int signedVal (some (Text.hex0x ctx.rawValue))
  else if signedVal = -2 then .int signedVal (some "AT_FDCWD")
  else .int signedVal none

/-- `FlockOpParam` -/
def decodeFlockOp (ctx : DecodeContext) : SyscallArg :=
  if ctx.noAbbrev then .int ctx.rawValue (some (Text.hex0x ctx.rawValue))
  else
    let baseOp := Text.bandNot ctx.rawValue 4
    let flags := (flockOps.lookup baseOp).toList ++
      (if ctx.rawValue &&& 4 ≠ 0 then ["LOCK_NB"] else [])
    if flags.isEmpty then .int ctx.rawValue none
    else .flags ctx.rawValue (some (Text.join "|" flags))

/-- `PointerParam` -/
def decodePointer (ctx : DecodeContext) : SyscallArg :=
  .pointer ctx.rawValue

/-- `FileDescriptorParam` -/
def decodeFileDescriptor (ctx : DecodeContext) : SyscallArg :=
  .fileDescriptor (toSignedInt ctx.rawValue)

/-- `FlagsParam(flag_map)` -/
def decodeFlags (flagMap : SymbolTable) (ctx : DecodeContext) : SyscallArg :=
  if ctx.noAbbrev then .flags ctx.rawValue none
  else if ctx.rawValue = 0 then .flags 0 (some (flagMap.get 0 "0"))
  else
    let flags := flagMap.positiveNames ctx.rawValue
    .flags ctx.rawValue (if flags.isEmpty then none else some (Text.join "|" flags))

/-- `ConstParam(const_map)` -/
def decodeConst (constMap : SymbolTable) (ctx : DecodeContext) : SyscallArg :=
  let signedVal := toSignedInt32 ctx.rawValue
  if ctx.noAbbrev then .int signedVal none
  else .int signedVal (constMap.lookup signedVal)

/-- `CustomParam(decode_func)` -/
def decodeCustom (decodeFunc : Int → String) (ctx : DecodeContext) : SyscallArg :=
  let signedVal := toSignedInt ctx.rawValue
  if ctx.noAbbrev then .int signedVal (some (Text.hex0x ctx.rawValue))
  else if decodeFunc signedVal = toString signedVal then .int signedVal none
  else .int signedVal (some (decodeFunc signedVal))

/-- `OctalParam` -/
def decodeOctal (ctx : DecodeContext) : SyscallArg :=
  let signedVal := toSignedInt ctx.rawValue
  if ctx.noAbbrev then .int signedVal (some (Text.hex0x ctx.rawValue))
  else if 0 ≤ signedVal then .int signedVal (some ("0" ++ Text.oct signedVal.toNat))
  else .int signedVal none

/-! ## Direction -/

/-- The common beginning of the decoders with a direction: at the other end of the call they show
the pointer (entry) or nothing new (exit), and a null pointer is shown as such. -/
def directed (direction : ParamDirection) (ctx : DecodeContext) (body : Decoded) : Decoded :=
  if ctx.atEntry = true ∧ direction ≠ .in then .ok (some (.pointer ctx.rawValue))
  else if ctx.atEntry = false ∧ direction ≠ .out then .ok none
  else if ctx.rawValue = 0 then .ok (some (.pointer 0))
  else body

/-- Whether a decoder with this direction looks at the argument in this context. -/
def ParamDirection.active (direction : ParamDirection) (ctx : DecodeContext) : Prop :=
  (if ctx.atEntry then direction = .in else direction = .out) ∧ ctx.rawValue ≠ 0

instance (direction : ParamDirection) (ctx : DecodeContext) :
    Decidable (direction.active ctx) := by
  unfold ParamDirection.active
  infer_instance

/-- A count that the kernel may have lowered: at exit the positive return value if it is smaller. -/
def returnedCount (ctx : DecodeContext) (count : Nat) : Nat :=
  if ctx.atEntry then count
  else match ctx.returnValue.bind ReturnValue.int? with
    | some r => if 0 < r ∧ r < count then r.toNat else count
    | none => count

/-- `BufferParam` -/
def decodeBuffer (sizeArgIndex : Nat) (direction : ParamDirection) (ctx : DecodeContext) :
    Decoded :=
  directed direction ctx <|
    match ctx.allArgs.vals[sizeArgIndex]? with
    | none => .ok (some (.pointer ctx.rawValue))
    | some sizeValue =>
      let size := returnedCount ctx sizeValue
      if size = 0 then .ok (some (.pointer ctx.rawValue))
      else
        let actualSize := if ctx.noAbbrev then min size 65536 else min size 4096
        match ctx.process.readData ctx.rawValue actualSize with
        | none => .ok (some (.pointer ctx.rawValue))
        | some data => .ok (some (.buffer data ctx.rawValue 32))

end StraceMacos
