import StraceMacos.Arch
import StraceMacos.Syscalls.Registry
import StraceMacos.Syscalls.Formatters
import StraceMacos.Syscalls.Symbols.Errno

/-!
# Decoding of arguments and return values

The decoding methods of `Tracer`: reading raw values, decoding them at entry and again at exit, and
decoding the return value. They share one mutable `DecodeContext`.
-/

namespace StraceMacos

/-- The mutable fields of the `DecodeContext` of the tracer. -/
structure SharedContext where
  rawValue : Nat := 0
  allArgs : PyList
  atEntry : Bool := true
  returnValue : Option ReturnValue := none
  deriving DecidableEq, Repr

/-- The part of the tracer that decoders read and assign to; `ctx` is `decode_ctx`. -/
structure DecoderState where
  noAbbrev : Bool
  ctx : Option SharedContext
  caches : SysctlCaches

/-- What a decoder sees of the shared context. -/
def SharedContext.view (shared : SharedContext) (noAbbrev : Bool) (process : Process) :
    DecodeContext where
  noAbbrev := noAbbrev
  process := process
  rawValue := shared.rawValue
  allArgs := shared.allArgs
  atEntry := shared.atEntry
  returnValue := shared.returnValue

/-- `_read_raw_arg_value` -/
def readRawArgValue (arch : Architecture) (frame : Frame) (process : Process) (argIndex : Nat)
    (variadicStart : Option Nat) : Nat :=
  match variadicStart.filter (· ≤ argIndex) with
  | some start => (arch.readVariadicArg frame process (argIndex - start)).getD 0
  | none =>
    match arch.argRegisters[argIndex]? with
    | none => 0
    | some reg => (frame.findRegister reg).getD 0

/-- The raw values of all parameters of a call. -/
def readRawValues (arch : Architecture) (frame : Frame) (process : Process)
    (syscallDef : SyscallDef) : List Nat :=
  (List.range syscallDef.params.length).map fun i =>
    readRawArgValue arch frame process i syscallDef.variadicStart

/-- One call of `decode` through the shared context, `None` when there is no context. -/
def decodeShared (process : Process) (param : SyscallParam) (rawValue : Nat)
    (state : DecoderState) : Except PyError (Option SyscallArg × DecoderState) :=
  match state.ctx with
  | none => .ok (none, state)
  | some shared => do
    let shared := { shared with rawValue := rawValue }
    let (decoded, caches) ← param.decode (shared.view state.noAbbrev process) state.caches
    return (decoded, { state with ctx := some shared, caches := caches })

/-- The decoding loop of `_extract_args_with_params`, with `_decode_param_with_context`. -/
def decodeArgs (process : Process) :
    List SyscallParam → List Nat → DecoderState → Except PyError (List SyscallArg × DecoderState)
  | [], _, state => .ok ([], state)
  | _ :: params, [], state => do
    let (args, state) ← decodeArgs process params [] state
    return (.unknown :: args, state)
  | param :: params, rawValue :: rawValues, state => do
    let (decoded, state) ← decodeShared process param rawValue state
    let (args, state) ← decodeArgs process params rawValues state
    return (decoded.getD .unknown :: args, state)

/-- `_extract_args_with_params`; `listId` is the identity of the list `raw_values`. -/
def extractArgsWithParams (arch : Architecture) (frame : Frame) (process : Process) (listId : Nat)
    (syscallDef : SyscallDef) (state : DecoderState) :
    Except PyError (List SyscallArg × PyList × DecoderState) := do
  let rawValues : PyList := ⟨listId, readRawValues arch frame process syscallDef⟩
  let ctx := state.ctx.map fun shared =>
    { shared with allArgs := rawValues, atEntry := true, returnValue := none }
  let (args, state) ← decodeArgs process syscallDef.params rawValues.vals { state with ctx := ctx }
  return (args, rawValues, state)

/-- `_extract_args` -/
def extractArgs (registry : SyscallRegistry) (arch : Architecture) (frame : Frame)
    (process : Process) (listId : Nat) (syscallName : String) (state : DecoderState) :
    Except PyError (List SyscallArg × PyList × DecoderState) :=
  match registry.lookupByName syscallName with
  | none => .ok ([], ⟨listId, []⟩, state)
  | some syscallDef => extractArgsWithParams arch frame process listId syscallDef state

/-- The loop of `_decode_params_at_exit`: an argument is replaced when its decoder returns one. -/
def decodeArgsAtExit (process : Process) :
    List SyscallParam → List Nat → List SyscallArg → DecoderState →
      Except PyError (List SyscallArg × DecoderState)
  | param :: params, rawValue :: rawValues, arg :: args, state => do
    let (decoded, state) ← decodeShared process param rawValue state
    let (args, state) ← decodeArgsAtExit process params rawValues args state
    return (decoded.getD arg :: args, state)
  | _, _, args, state => .ok (args, state)

/-- `_decode_params_at_exit` -/
def decodeParamsAtExit (process : Process) (event : SyscallEvent) (params : List SyscallParam)
    (state : DecoderState) : Except PyError (SyscallEvent × DecoderState) := do
  let ctx := state.ctx.map fun shared =>
    { shared with
      allArgs := event.rawArgs, atEntry := false, returnValue := some event.returnValue }
  let (args, state) ←
    decodeArgsAtExit process params event.rawArgs.vals event.args { state with ctx := ctx }
  return ({ event with args := args }, state)

/-! ## Return values -/

/-- `_read_errno` -/
def readErrno (frame : Frame) : Option Int :=
  frame.errno.filter (0 < ·)

/-- The return register as a signed 64-bit integer. -/
def signedReturn (arch : Architecture) (frame : Frame) : Option Int :=
  (frame.findRegister arch.returnRegister).map fun retValue =>
    if 0x8000000000000000 ≤ retValue then (retValue : Int) - 0x10000000000000000
    else (retValue : Int)

/-- `_decode_return_value` -/
def decodeReturnValue (registry : SyscallRegistry) (arch : Architecture) (noAbbrev : Bool)
    (frame : Frame) (event : SyscallEvent) : ReturnValue :=
  match signedReturn arch frame with
  | none => .str "?"
  | some signedRet =>
    match (registry.lookupByName event.syscallName).bind SyscallDef.returnDecoder with
    | some returnDecoder =>
      if 0 ≤ signedRet then returnDecoder.decode signedRet event.rawArgs.vals noAbbrev
      else failedReturn signedRet
    | none => failedReturn signedRet
where
  /-- The cases after the custom return decoder. -/
  failedReturn (signedRet : Int) : ReturnValue :=
    if signedRet = -1 ∧ noAbbrev = false then
      match readErrno frame with
      | some errnoValue => .str (decodeErrno errnoValue)
      | none => .str "-1"
    else .int signedRet

end StraceMacos
