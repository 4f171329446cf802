import StraceMacos.Lldb

/-!
# Architectures

`arch.py`
-/

namespace StraceMacos

/-- The subclasses of `Architecture`. -/
inductive Architecture where
  | arm64
  | x8664
  deriving DecidableEq, Repr

namespace Architecture

def argRegisters : Architecture → List String
  | arm64 => ["x0", "x1", "x2", "x3", "x4", "x5", "x6", "x7"]
  | x8664 => ["rdi", "rsi", "rdx", "rcx", "r8", "r9"]

def returnRegister : Architecture → String
  | arm64 => "x0"
  | x8664 => "rax"

/-- `get_return_address` -/
def getReturnAddress (arch : Architecture) (frame : Frame) (process : Process) : Option Nat :=
  match arch with
  | arm64 => frame.findRegister "lr"
  | x8664 =>
    match frame.findRegister "rsp" with
    | none => none
    | some sp => (process.readMemory sp 8).map (Bytes.toNat .little)

/-- `read_variadic_arg` -/
def readVariadicArg (arch : Architecture) (frame : Frame) (process : Process) (index : Nat) :
    Option Nat :=
  match arch with
  | arm64 =>
    match frame.findRegister "sp" with
    | none => none
    | some sp => (process.readData (sp + index * 8) 8).map (Bytes.toNat .little)
  | x8664 =>
    match frame.findRegister "rsp" with
    | none => none
    | some sp => (process.readData (sp + (index + 1) * 8) 8).map (Bytes.toNat .little)

end Architecture

end StraceMacos
