import StraceMacos.Syscalls.Definitions.Struct
import StraceMacos.Syscalls.Symbols.Ipc

/-!
# Event structures

The array decoders of `event_structs.py`: `kevent`, `kevent64_s`, `pollfd` and `fd_set`.
-/

namespace StraceMacos

open CStruct

/-- The elements of an array of structures in `data`, which holds `count` of them. -/
def loadArray (order : ByteOrder) (fields : List Field) (data : Bytes) (count : Nat) :
    List (List (Field × CVal)) :=
  (List.range count).map fun i =>
    loadAll order fields (data.slice (i * structSize fields) ((i + 1) * structSize fields))

/-! ## `kevent` -/

/-- `KeventStruct` -/
def keventStruct : List Field :=
  [⟨"ident", u64⟩, ⟨"filter", i16⟩, ⟨"flags", u16⟩, ⟨"fflags", u32⟩, ⟨"data", i64⟩,
    ⟨"udata", .voidPtr⟩]

/-- `Kevent64Struct` -/
def kevent64Struct : List Field :=
  [⟨"ident", u64⟩, ⟨"filter", i16⟩, ⟨"flags", u16⟩, ⟨"fflags", u32⟩, ⟨"data", i64⟩,
    ⟨"udata", u64⟩, ⟨"ext0", u64⟩, ⟨"ext1", u64⟩]

example : structSize keventStruct = 32 ∧ structSize kevent64Struct = 48 := by decide

def decodeKeventFilter (value : Int) : String :=
  evfiltConstants.get value (toString value)

def decodeKeventFlags (value : Int) : String :=
  if value = 0 then "0" else joinOr (evFlags.sorted.names value) (hexFormat value)

/-- The flag map of a filter: `EVFILT_VNODE`, `EVFILT_PROC`, `EVFILT_TIMER` and `EVFILT_USER`. -/
def keventFlagMap (filterValue : Int) : Option SymbolTable :=
  if filterValue = -4 then some noteVnodeFlags
  else if filterValue = -5 then some noteProcFlags
  else if filterValue = -7 then some noteTimerFlags
  else if filterValue = -10 then some noteUserFlags
  else none

def decodeKeventFflags (value filterValue : Int) : String :=
  if value = 0 then "0"
  else match keventFlagMap filterValue with
    | none => toString value
    | some flagMap =>
      let flags := flagMap.sorted.names value
      let remaining := flagMap.sorted.unnamed value
      if ¬ flags.isEmpty ∧ remaining = 0 then Text.join "|" flags else toString value

/-- The entry of one event in `_decode_array`. -/
def keventEntry (direction : ParamDirection) (kev : List (Field × CVal)) : ItemFields :=
  let filter := getInt kev "filter"
  let fflags := getInt kev "fflags"
  let data := getInt kev "data"
  [("ident", .int (getInt kev "ident")), ("filter", .str (decodeKeventFilter filter)),
    ("flags", .str (decodeKeventFlags (getInt kev "flags")))] ++
  (if fflags ≠ 0 then [("fflags", .str (decodeKeventFflags fflags filter))] else []) ++
  (if direction = .out ∧ data ≠ 0 then [("data", .int data)] else [])

/-- `_decode_array` of `KeventParam` and of `Kevent64Param`, each with its structure. -/
def decodeKeventArray (fields : List Field) (direction : ParamDirection) (process : Process)
    (address count : Nat) : Option (List ItemFields) :=
  if count = 0 ∨ 1000 < count then none
  else (process.readData address (structSize fields * count)).map fun data =>
    (loadArray process.byteOrder fields data count).map (keventEntry direction)

/-- An argument that shows a list of structures, or the pointer when the list is absent or empty. -/
def structArrayOr (rawValue : Nat) (items : Option (List ItemFields)) : SyscallArg :=
  match items with
  | some (d :: ds) => .structArray ((d :: ds).map .fields)
  | _ => .pointer rawValue

/-- `KeventParam.decode` and `Kevent64Param.decode`, each with its structure. -/
def decodeKeventParam (fields : List Field) (countArgIndex : Nat) (direction : ParamDirection)
    (ctx : DecodeContext) : Decoded :=
  directed direction ctx <|
    match ctx.allArgs.vals[countArgIndex]? with
    | none => .ok (some (.pointer ctx.rawValue))
    | some requested =>
      let count := returnedCount ctx requested
      if count = 0 ∨ 1000 < count then .ok (some (.pointer ctx.rawValue))
      else
        .ok (some (structArrayOr ctx.rawValue
          (decodeKeventArray fields direction ctx.process ctx.rawValue count)))

/-! ## `pollfd` -/

def pollfdStruct : List Field :=
  [⟨"fd", i32⟩, ⟨"events", i16⟩, ⟨"revents", i16⟩]

/-- `PollfdParam._decode_events` -/
def decodePollEvents (value : Int) : String :=
  if value = 0 then "0" else joinOr (pollEvents.sorted.names value) (hexFormat value)

/-- `PollfdParam._decode_array` -/
def decodePollfdArray (process : Process) (address count : Nat) : Option (List ItemFields) :=
  if count = 0 ∨ 1000 < count then none
  else (process.readData address (structSize pollfdStruct * count)).map fun data =>
    (loadArray process.byteOrder pollfdStruct data count).map fun pfd =>
      [("fd", .int (getInt pfd "fd")), ("events", .str (decodePollEvents (getInt pfd "events")))]

/-- `PollfdParam.decode` -/
def decodePollfdParam (countArgIndex : Nat) (ctx : DecodeContext) : Option SyscallArg :=
  if ctx.atEntry = false then none
  else if ctx.rawValue = 0 then some (.pointer 0)
  else match ctx.allArgs.vals[countArgIndex]? with
    | none => some (.pointer ctx.rawValue)
    | some count =>
      if count = 0 ∨ 1000 < count then some (.pointer ctx.rawValue)
      else some (structArrayOr ctx.rawValue (decodePollfdArray ctx.process ctx.rawValue count))

/-! ## `fd_set` -/

/-- The descriptors whose bit is set in the bitmap, word by word and bit by bit. -/
def fdsOfBitmap (data : Bytes) : List Nat :=
  (List.range 32).flatMap fun i =>
    let bitmap := Bytes.toNat .little (data.slice (i * 4) (i * 4 + 4))
    ((List.range 32).filter fun bit => bitmap &&& (1 <<< bit) ≠ 0).map fun bit => i * 32 + bit

/-- `FdSetParam.decode` -/
def decodeFdSetParam (ctx : DecodeContext) : Option SyscallArg :=
  if ctx.atEntry = false then none
  else if ctx.rawValue = 0 then some (.pointer 0)
  else match ctx.process.readMemory ctx.rawValue 128 with
    | none => some (.pointer ctx.rawValue)
    | some data =>
      let fds := fdsOfBitmap data
      if fds.isEmpty then some (.string "[]")
      else some (.string ("[" ++ Text.join " " (fds.map toString) ++ "]"))

theorem decodeKeventParam_ok (fields : List Field) (countArgIndex : Nat)
    (direction : ParamDirection) (ctx : DecodeContext) :
    ∃ r, decodeKeventParam fields countArgIndex direction ctx = .ok r := by
  unfold decodeKeventParam
  rw [directed_ok_iff]
  rintro -
  cases ctx.allArgs.vals[countArgIndex]? with
  | none => exact ⟨_, rfl⟩
  | some requested =>
    simp only
    split_ifs <;> exact ⟨_, rfl⟩

end StraceMacos
