import StraceMacos.Library.Bytes

/-!
# What the tracer sees of the debugger

The debugger is not part of the program: its objects appear here as the values that the tracer reads
from them. A process stop carries the selected thread and frame, the memory of the process at that
moment, and what the runtime of the tracer hands out while it handles the stop (the time, the
identity of a newly made list).
-/

namespace StraceMacos

/-- The exceptions that decoding code can raise. -/
inductive PyError where
  | typeError
  deriving DecidableEq, Repr

/-- The memory of the process as `SBProcess.ReadMemory` presents it: a read fails through its
`SBError` (`none`) or returns exactly the requested bytes. -/
structure Memory where
  read : Nat → Nat → Option Bytes
  read_length : ∀ {address size : Nat} {data : Bytes},
    read address size = some data → data.length = size

/-- Memory without a readable address. -/
def Memory.empty : Memory where
  read _ _ := none
  read_length h := by simp at h

/-- Memory given byte by byte; a read fails when one of its bytes is unreadable. -/
def Memory.ofBytes (byteAt : Nat → Option UInt8) : Memory where
  read address size := (List.range size).mapM fun i => byteAt (address + i)
  read_length := by
    intro address size data h
    have hl : ∀ (l : List Nat) (ds : Bytes),
        l.mapM (fun i => byteAt (address + i)) = some ds → ds.length = l.length := by
      intro l
      induction l with
      | nil => intro ds h; simp at h; simp [h]
      | cons i l ih =>
        intro ds h
        simp only [List.mapM_cons, Option.bind_eq_bind, Option.bind_eq_some_iff,
          Option.pure_def, Option.some.injEq] at h
        obtain ⟨b, -, bs, hbs, rfl⟩ := h
        simp [ih bs hbs]
    simpa using hl _ _ h

/-- What decoders read of the traced process at a stop: its memory, in the byte order of the host
that runs the tracer. -/
structure Process where
  memory : Memory
  byteOrder : ByteOrder

/-- `process.ReadMemory(address, size, error)` at an integer address; `none` is `error.Fail()`. -/
def Process.readMemory (process : Process) (address size : Nat) : Option Bytes :=
  process.memory.read address size

/-- The same read where the caller treats an empty result like a failed one. -/
def Process.readData (process : Process) (address size : Nat) : Option Bytes :=
  (process.readMemory address size).filter (! ·.isEmpty)

/-- The same read at an address that may be `None`, which is not an integer. -/
def Process.readDataAt (process : Process) (address : Option Nat) (size : Nat) :
    Except PyError (Option Bytes) :=
  match address with
  | none => .error .typeError
  | some a => .ok (process.readData a size)

/-- Why the process stopped. The tracer does not read it. -/
inductive StopReason where
  | breakpoint
  | signal (number : Nat)
  | exception
  deriving DecidableEq, Repr

/-- A stack frame. `registers` gives the unsigned value of a register, `none` where `FindRegister`
finds no valid one; `errno` is the result of evaluating `*(int *)__error()`. -/
structure Frame where
  functionName : Option String
  pc : Nat
  /-- The offset of `pc` from the first instruction of the function. The tracer does not read it. -/
  pcOffset : Nat
  registers : String → Option (BitVec 64)
  errno : Option Int

/-- A stop of the process: what `_handle_stop` finds when it runs. -/
structure Stop where
  process : Process
  /-- `process.GetProcessID()` -/
  pid : Nat
  reason : StopReason
  /-- The identifier of the selected thread. -/
  threadId : Option Nat
  frame : Option Frame
  /-- `time.time()` while the stop is handled. -/
  time : Nat
  /-- `id()` of the list of raw values made while the stop is handled. -/
  listId : Nat

/-- The unsigned value of a register. -/
def Frame.findRegister (frame : Frame) (name : String) : Option Nat :=
  (frame.registers name).map BitVec.toNat

end StraceMacos
