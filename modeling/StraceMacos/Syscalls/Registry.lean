import StraceMacos.Library.Dict
import StraceMacos.Syscalls.Definitions.File
import StraceMacos.Syscalls.Definitions.Network
import StraceMacos.Syscalls.Definitions.Process
import StraceMacos.Syscalls.Definitions.Ipc
import StraceMacos.Syscalls.Definitions.System

/-!
# The syscall registry

`syscalls/registry.py` and `syscalls/category.py`: three dictionaries that are filled in the order
of the categories.
-/

namespace StraceMacos

inductive SyscallCategory where
  | file
  | network
  | process
  | memory
  | signal
  | ipc
  | thread
  | time
  | sysinfo
  | security
  | debug
  | misc
  deriving DecidableEq, Repr

/-- All definitions with their categories, in the order of registration. -/
def registered : List (SyscallDef × SyscallCategory) :=
  [(fileSyscalls, .file), (networkSyscalls, .network), (processSyscalls, .process),
    (memorySyscalls, .memory), (signalSyscalls, .signal), (ipcSyscalls, .ipc),
    (miscSyscalls, .misc), (sysinfoSyscalls, .sysinfo), (threadSyscalls, .thread),
    (timeSyscalls, .time), (securitySyscalls, .security), (debugSyscalls, .debug)].flatMap
      fun (syscalls, category) => syscalls.map fun syscall => (syscall, category)

structure SyscallRegistry where
  byNumber : Dict Nat SyscallDef
  byName : Dict String SyscallDef
  categories : Dict String SyscallCategory

namespace SyscallRegistry

def empty : SyscallRegistry :=
  ⟨.empty, .empty, .empty⟩

/-- `_register` -/
def register (registry : SyscallRegistry) (entry : SyscallDef × SyscallCategory) :
    SyscallRegistry where
  byNumber := registry.byNumber.set entry.1.number entry.1
  byName := registry.byName.set entry.1.name entry.1
  categories := registry.categories.set entry.1.name entry.2

/-- The registry after `__init__`. -/
def init : SyscallRegistry :=
  registered.foldl register empty

def lookupByName (registry : SyscallRegistry) (name : String) : Option SyscallDef :=
  registry.byName.get name

def getCategory (registry : SyscallRegistry) (name : String) : Option SyscallCategory :=
  registry.categories.get name

def getAllSyscalls (registry : SyscallRegistry) : List SyscallDef :=
  registry.byNumber.values

end SyscallRegistry

end StraceMacos
