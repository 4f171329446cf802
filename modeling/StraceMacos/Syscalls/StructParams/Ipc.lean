import StraceMacos.Syscalls.Definitions.Struct
import StraceMacos.Syscalls.Symbols.Ipc

/-!
# Structures of the IPC and asynchronous I/O calls

`ipc_structs.py`, `aiocb.py` and `aiocb_array.py`
-/

namespace StraceMacos

open CStruct

/-! ## System V IPC -/

def ipcPermStruct : List Field :=
  [⟨"uid", u32⟩, ⟨"gid", u32⟩, ⟨"cuid", u32⟩, ⟨"cgid", u32⟩, ⟨"mode", u16⟩, ⟨"_seq", u16⟩,
    ⟨"_key", i32⟩]

def msqidDsSpec : StructSpec where
  fields := [⟨"msg_perm", nested ipcPermStruct⟩, ⟨"msg_first", i32⟩, ⟨"msg_last", i32⟩,
    ⟨"msg_cbytes", u64⟩, ⟨"msg_qnum", u64⟩, ⟨"msg_qbytes", u64⟩, ⟨"msg_lspid", i32⟩,
    ⟨"msg_lrpid", i32⟩, ⟨"msg_stime", i64⟩, ⟨"msg_pad1", i32⟩, ⟨"msg_rtime", i64⟩,
    ⟨"msg_pad2", i32⟩, ⟨"msg_ctime", i64⟩, ⟨"msg_pad3", i32⟩, ⟨"msg_pad4", .array 4 true 4⟩]
  excluded := ["msg_first", "msg_last", "msg_pad1", "msg_pad2", "msg_pad3", "msg_pad4", "msg_perm"]
  formatters_kind := by decide

def semidDsSpec : StructSpec where
  fields := [⟨"sem_perm", nested ipcPermStruct⟩, ⟨"sem_base", i32⟩, ⟨"sem_nsems", u16⟩,
    ⟨"sem_otime", i64⟩, ⟨"sem_pad1", i32⟩, ⟨"sem_ctime", i64⟩, ⟨"sem_pad2", i32⟩,
    ⟨"sem_pad3", .array 4 true 4⟩]
  excluded := ["sem_base", "sem_pad1", "sem_pad2", "sem_pad3", "sem_perm"]
  formatters_kind := by decide

def shmidDsSpec : StructSpec where
  fields := [⟨"shm_perm", nested ipcPermStruct⟩, ⟨"shm_segsz", u64⟩, ⟨"shm_lpid", i32⟩,
    ⟨"shm_cpid", i32⟩, ⟨"shm_nattch", u16⟩, ⟨"shm_atime", i64⟩, ⟨"shm_dtime", i64⟩,
    ⟨"shm_ctime", i64⟩, ⟨"shm_internal", .voidPtr⟩]
  excluded := ["shm_internal", "shm_perm"]
  formatters_kind := by decide

/-! ## Asynchronous I/O control blocks -/

def aiocbStruct : List Field :=
  [⟨"aio_fildes", i32⟩, ⟨"_pad1", .array 1 true 4⟩, ⟨"aio_offset", i64⟩, ⟨"aio_buf", .voidPtr⟩,
    ⟨"aio_nbytes", u64⟩, ⟨"aio_reqprio", i32⟩, ⟨"_pad2", .array 1 true 4⟩,
    ⟨"aio_sigevent_notify", i32⟩, ⟨"aio_sigevent_padding", .array 1 true 28⟩,
    ⟨"aio_lio_opcode", i32⟩]

example : structSize aiocbStruct = 80 := by decide

/-- `AiocbParam._decode_lio_opcode` -/
def decodeLioOpcode (opcode : Int) (noAbbrev : Bool) : String :=
  if noAbbrev then toString opcode else lioOpcodes.get opcode (toString opcode)

def aiocbSpec : StructSpec where
  fields := aiocbStruct
  excluded := ["_pad1", "_pad2", "aio_sigevent_notify", "aio_sigevent_padding", "aio_reqprio"]
  formatters := [("aio_lio_opcode", .onInt decodeLioOpcode)]
  formatters_kind := by decide

/-- `AiocbArrayParam._read_aiocb` -/
def readAiocb (process : Process) (address : Nat) : Option String :=
  (readStruct process address aiocbStruct).map fun aiocb =>
    let fildes := getInt aiocb "aio_fildes"
    let nbytes := getInt aiocb "aio_nbytes"
    let offset := getInt aiocb "aio_offset"
    let opcode := getInt aiocb "aio_lio_opcode"
    let parts := ["fd=" ++ toString fildes] ++
      (if 0 < nbytes then ["nbytes=" ++ toString nbytes] else []) ++
      (if offset ≠ 0 then ["offset=" ++ toString offset] else []) ++
      (if opcode ≠ 0 then ["op=" ++ lioOpcodes.get opcode (toString opcode)] else [])
    "\x7b" ++ Text.join ", " parts ++ "\x7d"

/-- One element of the pointer array in `AiocbArrayParam._decode_array`. -/
def summarizeAiocb (process : Process) (aiocbPtr : Nat) : String :=
  if aiocbPtr = 0 then "NULL" else (readAiocb process aiocbPtr).getD "?"

/-- `AiocbArrayParam._decode_array`; an empty list is falsy. -/
def decodeAiocbArray (process : Process) (address count : Nat) : Option (List String) :=
  if count = 0 ∨ 64 < count then none
  else (process.readData address (8 * count)).map fun data =>
    (List.range count).map fun i =>
      summarizeAiocb process (Bytes.toNat .little (data.slice (i * 8) (i * 8 + 8)))

/-- `AiocbArrayParam.decode`, which returns `None` for everything that it does not decode. -/
def decodeAiocbArrayParam (countArgIndex : Nat) (direction : ParamDirection)
    (ctx : DecodeContext) : Option SyscallArg :=
  if direction.active ctx then
    match ctx.allArgs.vals[countArgIndex]? with
    | none => none
    | some count =>
      if 64 < count then none
      else match decodeAiocbArray ctx.process ctx.rawValue count with
        | some (s :: ss) => some (.structArray ((s :: ss).map .text))
        | _ => none
  else none

end StraceMacos
