import StraceMacos.Syscalls.Definitions.Struct

/-!
# `sysctl` parameters

The decoders of `definitions/sysinfo.py` and `struct_decoders/sysctl.py`. They share two
dictionaries of the tracer, keyed by the identity of the list of raw arguments.
-/

namespace StraceMacos

inductive SysctlType where
  | string
  | int
  | int64
  deriving DecidableEq, Repr

/-- `sysctl_mib_cache` and `sysctlbyname_cache`, latest assignment first. -/
structure SysctlCaches where
  mib : List (Nat × List Int)
  byname : List (Nat × String)
  deriving DecidableEq, Repr

def ctlNames : SymbolTable :=
  [(0, "CTL_UNSPEC"), (1, "CTL_KERN"), (2, "CTL_VM"), (3, "CTL_VFS"), (4, "CTL_NET"),
    (5, "CTL_DEBUG"), (6, "CTL_HW"), (7, "CTL_MACHDEP"), (8, "CTL_USER")]

def kernNames : SymbolTable :=
  [(1, "KERN_OSTYPE"), (2, "KERN_OSRELEASE"), (3, "KERN_OSREV"), (4, "KERN_VERSION"),
    (5, "KERN_MAXVNODES"), (6, "KERN_MAXPROC"), (7, "KERN_MAXFILES"), (8, "KERN_ARGMAX"),
    (9, "KERN_SECURELVL"), (10, "KERN_HOSTNAME"), (11, "KERN_HOSTID"), (12, "KERN_CLOCKRATE"),
    (13, "KERN_VNODE"), (14, "KERN_PROC"), (15, "KERN_FILE"), (16, "KERN_PROF"),
    (17, "KERN_POSIX1"), (18, "KERN_NGROUPS"), (19, "KERN_JOB_CONTROL"), (20, "KERN_SAVED_IDS"),
    (21, "KERN_BOOTTIME"), (22, "KERN_NISDOMAINNAME"), (23, "KERN_MAXPARTITIONS"),
    (24, "KERN_KDEBUG"), (25, "KERN_UPDATEINTERVAL"), (26, "KERN_OSRELDATE"), (27, "KERN_NTP_PLL"),
    (28, "KERN_BOOTFILE"), (29, "KERN_MAXFILESPERPROC"), (30, "KERN_MAXPROCPERUID"),
    (31, "KERN_DUMPDEV"), (32, "KERN_IPC"), (33, "KERN_DUMMY"), (34, "KERN_PS_STRINGS"),
    (35, "KERN_USRSTACK32"), (36, "KERN_LOGSIGEXIT"), (37, "KERN_SYMFILE"), (38, "KERN_PROCARGS"),
    (40, "KERN_NETBOOT")]

def hwNames : SymbolTable :=
  [(1, "HW_MACHINE"), (2, "HW_MODEL"), (3, "HW_NCPU"), (4, "HW_BYTEORDER"), (5, "HW_PHYSMEM"),
    (6, "HW_USERMEM"), (7, "HW_PAGESIZE"), (8, "HW_DISKNAMES"), (9, "HW_DISKSTATS"),
    (10, "HW_EPOCH"), (11, "HW_FLOATINGPT"), (12, "HW_MACHINE_ARCH"), (13, "HW_VECTORUNIT"),
    (14, "HW_BUS_FREQ"), (15, "HW_CPU_FREQ"), (16, "HW_CACHELINE"), (17, "HW_L1ICACHESIZE"),
    (18, "HW_L1DCACHESIZE"), (19, "HW_L2SETTINGS"), (20, "HW_L2CACHESIZE"), (21, "HW_L3SETTINGS"),
    (22, "HW_L3CACHESIZE"), (23, "HW_TB_FREQ"), (24, "HW_MEMSIZE"), (25, "HW_AVAILCPU"),
    (26, "HW_TARGET"), (27, "HW_PRODUCT")]

def sysctlTypes : List ((Int × Int) × SysctlType) :=
  [((1, 1), .string), ((1, 2), .string), ((1, 3), .int), ((1, 4), .string), ((1, 5), .int),
    ((1, 6), .int), ((1, 7), .int), ((1, 8), .int), ((1, 9), .int), ((1, 10), .string),
    ((1, 11), .int), ((1, 17), .int), ((1, 18), .int), ((1, 19), .int), ((1, 20), .int),
    ((1, 22), .string), ((1, 29), .int), ((1, 30), .int), ((1, 40), .int), ((6, 1), .string),
    ((6, 2), .string), ((6, 3), .int), ((6, 4), .int), ((6, 5), .int), ((6, 6), .int),
    ((6, 7), .int), ((6, 10), .int), ((6, 11), .int), ((6, 12), .string), ((6, 13), .int),
    ((6, 14), .int), ((6, 15), .int), ((6, 16), .int), ((6, 17), .int), ((6, 18), .int),
    ((6, 19), .int), ((6, 20), .int), ((6, 21), .int), ((6, 22), .int), ((6, 23), .int),
    ((6, 24), .int64), ((6, 25), .int), ((6, 26), .string), ((6, 27), .string)]

/-- `get_sysctl_type` -/
def getSysctlType : List Int → Option SysctlType
  | top :: second :: _ => sysctlTypes.lookup (top, second)
  | _ => none

def nameToType : List (String × SysctlType) :=
  [("kern.ostype", .string), ("kern.osrelease", .string), ("kern.osrev", .int),
    ("kern.version", .string), ("kern.hostname", .string), ("kern.maxproc", .int),
    ("kern.maxfiles", .int), ("kern.maxfilesperproc", .int), ("hw.machine", .string),
    ("hw.model", .string), ("hw.ncpu", .int), ("hw.byteorder", .int), ("hw.physmem", .int),
    ("hw.usermem", .int), ("hw.pagesize", .int), ("hw.memsize", .int64), ("hw.availcpu", .int),
    ("hw.machine_arch", .string), ("hw.target", .string), ("hw.product", .string)]

/-- `get_sysctl_type_by_name` -/
def getSysctlTypeByName (name : String) : Option SysctlType :=
  nameToType.lookup name

/-- The loop of `decode_sysctl_mib` over `n` integers from index `i`; on failure the index of the
unreadable one. -/
def readMib (process : Process) (mibPtr : Nat) : Nat → Nat → Except Nat (List Int)
  | 0, _ => .ok []
  | n + 1, i =>
    match process.readMemory (mibPtr + i * 4) 4 with
    | none => .error i
    | some data => (readMib process mibPtr n (i + 1)).map (Bytes.toInt .little data :: ·)

/-- The name of the second integer of a MIB, which depends on the first. -/
def decodeMibSecond (top val : Int) : String :=
  if top = 1 then kernNames.get val (toString val)
  else if top = 6 then hwNames.get val (toString val)
  else toString val

/-- The symbolic names of the integers of a MIB. -/
def decodeMibNames : List Int → List String
  | [] => []
  | [top] => [ctlNames.get top (toString top)]
  | top :: second :: rest =>
    ctlNames.get top (toString top) :: decodeMibSecond top second :: rest.map toString

/-- `decode_sysctl_mib` -/
def decodeSysctlMib (process : Process) (mibPtr namelen : Nat) : String × List Int :=
  if mibPtr = 0 ∨ namelen = 0 then ("NULL", [])
  else if 12 < namelen then ("<invalid namelen=" ++ toString namelen ++ ">", [])
  else match readMib process mibPtr namelen 0 with
    | .error i => ("[<unreadable " ++ toString i ++ "/" ++ toString namelen ++ ">]", [])
    | .ok mibValues => ("[" ++ Text.join ", " (decodeMibNames mibValues) ++ "]", mibValues)

/-- `SysctlMibParam.decode` -/
def decodeSysctlMibParam (ctx : DecodeContext) (caches : SysctlCaches) :
    SyscallArg × SysctlCaches :=
  if ctx.rawValue = 0 then (.pointer 0, caches)
  else match ctx.allArgs.vals with
    | _ :: namelen :: _ =>
      let (decoded, mibValues) := decodeSysctlMib ctx.process ctx.rawValue namelen
      (.string decoded, { caches with mib := (ctx.allArgs.id, mibValues) :: caches.mib })
    | _ => (.pointer ctx.rawValue, caches)

/-- `_decode_by_type` of `SysctlBufferParam` and of `SysctlBynameBufferParam` -/
def decodeByType (process : Process) (rawValue : Nat) : SysctlType → SyscallArg
  | .string =>
    let stringVal := readString process rawValue 256
    if Text.startsWith stringVal "0x" then .pointer rawValue else .string stringVal
  | .int =>
    match process.readMemory rawValue 4 with
    | none => .pointer rawValue
    | some data => .int (Bytes.toInt .little data) none
  | .int64 =>
    match process.readMemory rawValue 8 with
    | none => .pointer rawValue
    | some data => .int (Bytes.toInt .little data) none

/-- The decoders of the two `oldp` buffers, given the type found through the cache. -/
def decodeSysctlBuffer (sysctlType : Option SysctlType) (ctx : DecodeContext) : SyscallArg :=
  if ctx.rawValue = 0 ∨ ctx.atEntry = true then .pointer ctx.rawValue
  else match sysctlType with
    | none => .pointer ctx.rawValue
    | some sysctlType => decodeByType ctx.process ctx.rawValue sysctlType

/-- `SysctlBufferParam.decode`; no type belongs to an empty MIB. -/
def decodeSysctlBufferParam (ctx : DecodeContext) (caches : SysctlCaches) : SyscallArg :=
  decodeSysctlBuffer (getSysctlType ((caches.mib.lookup ctx.allArgs.id).getD [])) ctx

/-- `SysctlBynameNameParam.decode`; the decoder of strings always returns a `StringArg`. -/
def decodeSysctlBynameNameParam (ctx : DecodeContext) (caches : SysctlCaches) :
    SyscallArg × SysctlCaches :=
  let name := readString ctx.process ctx.rawValue 4096
  (.string name, { caches with byname := (ctx.allArgs.id, name) :: caches.byname })

/-- `SysctlBynameBufferParam.decode`; an empty name is treated like an absent one, and no type
belongs to it. -/
def decodeSysctlBynameBufferParam (ctx : DecodeContext) (caches : SysctlCaches) : SyscallArg :=
  decodeSysctlBuffer ((caches.byname.lookup ctx.allArgs.id).bind getSysctlTypeByName) ctx

/-- `decode_uuid` -/
def decodeUuid (process : Process) (uuidPtr : Nat) : String :=
  if uuidPtr = 0 then "NULL"
  else match process.readMemory uuidPtr 16 with
    | none => "<unreadable>"
    | some data =>
      (Text.join "-" [(data.slice 0 4).hex, (data.slice 4 6).hex, (data.slice 6 8).hex,
        (data.slice 8 10).hex, (data.slice 10 16).hex]).toUpper

/-- `UuidParam.decode` -/
def decodeUuidParam (ctx : DecodeContext) : SyscallArg :=
  if ctx.rawValue = 0 then .pointer 0
  else if ctx.atEntry then .pointer ctx.rawValue
  else .uuid (decodeUuid ctx.process ctx.rawValue)

/-- `TimespecParam.decode` of `sysinfo.py`, at entry and again at exit -/
def decodeSysinfoTimespec (ctx : DecodeContext) : SyscallArg :=
  if ctx.rawValue = 0 then .pointer 0
  else match ctx.process.readMemory ctx.rawValue 16 with
    | none => .pointer ctx.rawValue
    | some data =>
      .struct [("tv_sec", .int (Bytes.toInt .little (data.slice 0 8))),
        ("tv_nsec", .int (Bytes.toInt .little (data.slice 8 16)))]

/-- `SysctlSizePointerParam.decode`, at entry and again at exit -/
def decodeSysctlSizePointer (ctx : DecodeContext) : SyscallArg :=
  if ctx.rawValue = 0 then .pointer 0
  else match ctx.process.readMemory ctx.rawValue 8 with
    | none => .pointer ctx.rawValue
    | some data => .string ("[" ++ toString (Bytes.toNat .little data) ++ "]")

end StraceMacos
