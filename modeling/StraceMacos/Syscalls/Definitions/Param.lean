import StraceMacos.Syscalls.Definitions.Sysctl
import StraceMacos.Syscalls.StructParams.File
import StraceMacos.Syscalls.StructParams.Process
import StraceMacos.Syscalls.StructParams.Ipc
import StraceMacos.Syscalls.StructParams.Vector
import StraceMacos.Syscalls.StructParams.Sockaddr

/-!
# Parameters and syscall definitions

One constructor for each parameter class; its `decode` is the decoder of that class.
-/

namespace StraceMacos

/-- A parameter decoder other than `VariantParam`. `struct` stands for the classes that inherit
`decode` and `decode_struct` from `StructParamBase`. -/
inductive Param where
  | int
  | unsigned
  | uidGid
  | string
  | arrayOfStrings (maxStrings : Nat := 1024)
  | dirFd
  | flockOp
  | pointer
  | fileDescriptor
  | flags (flagMap : SymbolTable)
  | const (constMap : SymbolTable)
  | custom (decodeFunc : Int → String)
  | octal
  | struct (spec : StructSpec) (direction : ParamDirection)
  | termios (direction : ParamDirection)
  | sockaddr (direction : ParamDirection)
  | msghdr (direction : ParamDirection)
  | sigset (direction : ParamDirection)
  | intPtr (direction : ParamDirection)
  | intArray (count : Nat ⊕ Nat) (direction : ParamDirection) (elementSize : Nat := 4)
  | buffer (sizeArgIndex : Nat) (direction : ParamDirection)
  | iovec (countArgIndex : Nat) (direction : ParamDirection)
  | aiocbArray (countArgIndex : Nat) (direction : ParamDirection)
  | kevent (countArgIndex : Nat) (direction : ParamDirection)
  | kevent64 (countArgIndex : Nat) (direction : ParamDirection)
  | pollfd (countArgIndex : Nat)
  | fdSet
  | sysctlMib
  | sysctlBuffer
  | sysctlBynameName
  | sysctlBynameBuffer
  | uuid
  | sysinfoTimespec
  | sysctlSizePointer

namespace Param

/-- The decoder of a parameter that leaves the caches of the tracer alone. -/
def decodePure (param : Param) (ctx : DecodeContext) (caches : SysctlCaches) : Decoded :=
  match param with
  | int => .ok (some (decodeInt ctx))
  | unsigned => .ok (some (decodeUnsigned ctx))
  | uidGid => .ok (some (decodeUidGid ctx))
  | string => .ok (some (decodeString ctx))
  | arrayOfStrings maxStrings => .ok (some (decodeArrayOfStrings maxStrings ctx))
  | dirFd => .ok (some (decodeDirFd ctx))
  | flockOp => .ok (some (decodeFlockOp ctx))
  | pointer => .ok (some (decodePointer ctx))
  | fileDescriptor => .ok (some (decodeFileDescriptor ctx))
  | flags flagMap => .ok (some (decodeFlags flagMap ctx))
  | const constMap => .ok (some (decodeConst constMap ctx))
  | custom decodeFunc => .ok (some (decodeCustom decodeFunc ctx))
  | octal => .ok (some (decodeOctal ctx))
  | struct spec direction => decodeStructParam spec.decodeStruct direction ctx
  | termios direction => decodeStructParam decodeTermios direction ctx
  | sockaddr direction => decodeStructParam decodeSockaddr direction ctx
  | msghdr direction => decodeStructParam decodeMsghdr direction ctx
  | sigset direction => decodeSigsetParam direction ctx
  | intPtr direction => decodeIntPtrParam direction ctx
  | intArray count direction elementSize => decodeIntArrayParam count direction elementSize ctx
  | buffer sizeArgIndex direction => decodeBuffer sizeArgIndex direction ctx
  | iovec countArgIndex direction => decodeIovecParam countArgIndex direction ctx
  | aiocbArray countArgIndex direction => .ok (decodeAiocbArrayParam countArgIndex direction ctx)
  | kevent countArgIndex direction => decodeKeventParam keventStruct countArgIndex direction ctx
  | kevent64 countArgIndex direction =>
    decodeKeventParam kevent64Struct countArgIndex direction ctx
  | pollfd countArgIndex => .ok (decodePollfdParam countArgIndex ctx)
  | fdSet => .ok (decodeFdSetParam ctx)
  | sysctlMib => .ok (some (decodeSysctlMibParam ctx caches).1)
  | sysctlBuffer => .ok (some (decodeSysctlBufferParam ctx caches))
  | sysctlBynameName => .ok (some (decodeSysctlBynameNameParam ctx caches).1)
  | sysctlBynameBuffer => .ok (some (decodeSysctlBynameBufferParam ctx caches))
  | uuid => .ok (some (decodeUuidParam ctx))
  | sysinfoTimespec => .ok (some (decodeSysinfoTimespec ctx))
  | sysctlSizePointer => .ok (some (decodeSysctlSizePointer ctx))

/-- The caches after the decoder has run; only the two name parameters assign to them. -/
def updateCaches (param : Param) (ctx : DecodeContext) (caches : SysctlCaches) : SysctlCaches :=
  match param with
  | sysctlMib => (decodeSysctlMibParam ctx caches).2
  | sysctlBynameName => (decodeSysctlBynameNameParam ctx caches).2
  | _ => caches

/-- `decode`, with the caches before and after it. -/
def decode (param : Param) (ctx : DecodeContext) (caches : SysctlCaches) :
    Except PyError (Option SyscallArg × SysctlCaches) :=
  (param.decodePure ctx caches).map fun arg => (arg, param.updateCaches ctx caches)

end Param

/-- `VariantParam`. Its variants are never variants themselves. -/
structure VariantParam where
  discriminatorIndex : Nat
  variants : List (Nat × Param) := []
  defaultParam : Option Param := none
  skipFor : List Nat := []
  skipWhenNotSet : Option Nat := none

/-- What `VariantParam.decode` does before it calls another decoder. -/
inductive Variant where
  | done (arg : SyscallArg)
  | decode (param : Param)

/-- The choice of `VariantParam.decode`. -/
def VariantParam.select (variant : VariantParam) (ctx : DecodeContext) : Variant :=
  match ctx.allArgs.vals[variant.discriminatorIndex]? with
  | none => .done (.pointer ctx.rawValue)
  | some discValue =>
    if discValue ∈ variant.skipFor then .done .skip
    else if variant.skipWhenNotSet.any fun flags => discValue &&& flags = 0 then .done .skip
    else match (variant.variants.lookup discValue).or variant.defaultParam with
      | none => .done (.pointer ctx.rawValue)
      | some param => .decode param

def VariantParam.decode (variant : VariantParam) (ctx : DecodeContext) (caches : SysctlCaches) :
    Except PyError (Option SyscallArg × SysctlCaches) :=
  match variant.select ctx with
  | .done arg => .ok (some arg, caches)
  | .decode param => param.decode ctx caches

/-- A parameter of a syscall definition. -/
inductive SyscallParam where
  | plain (param : Param)
  | variant (variant : VariantParam)

def SyscallParam.decode : SyscallParam → DecodeContext → SysctlCaches →
    Except PyError (Option SyscallArg × SysctlCaches)
  | plain param => param.decode
  | variant v => v.decode

/-- A parameter list without variants. -/
def plainParams (params : List Param) : List SyscallParam :=
  params.map .plain

/-- The decoders of return values: `decode_fcntl_return` is the only one. -/
inductive ReturnDecoder where
  | fcntl
  deriving DecidableEq, Repr

structure SyscallDef where
  number : Nat
  name : String
  params : List SyscallParam
  returnDecoder : Option ReturnDecoder := none
  variadicStart : Option Nat := none

end StraceMacos
