import StraceMacos.Syscalls.Definitions.Struct
import StraceMacos.Syscalls.Symbols.File

/-!
# Structures of the file calls

`stat`, `statfs`, `winsize`, `termios`, `attrlist` and `fssearchblock` of `struct_params`. On the
platforms of the tracer `long` and `size_t` have 8 bytes.
-/

namespace StraceMacos

open CStruct

/-! ## `struct stat` -/

def statStruct : List Field :=
  [⟨"st_dev", i32⟩, ⟨"st_mode", u16⟩, ⟨"st_nlink", u16⟩, ⟨"st_ino", u64⟩, ⟨"st_uid", u32⟩,
    ⟨"st_gid", u32⟩, ⟨"st_rdev", i32⟩, ⟨"st_atimespec_sec", i64⟩, ⟨"st_atimespec_nsec", i64⟩,
    ⟨"st_mtimespec_sec", i64⟩, ⟨"st_mtimespec_nsec", i64⟩, ⟨"st_ctimespec_sec", i64⟩,
    ⟨"st_ctimespec_nsec", i64⟩, ⟨"st_birthtimespec_sec", i64⟩, ⟨"st_birthtimespec_nsec", i64⟩,
    ⟨"st_size", i64⟩, ⟨"st_blocks", i64⟩, ⟨"st_blksize", i32⟩, ⟨"st_flags", u32⟩,
    ⟨"st_gen", u32⟩, ⟨"st_lspare", i32⟩, ⟨"st_qspare_0", i64⟩, ⟨"st_qspare_1", i64⟩]

example : structSize statStruct = 144 := by decide

/-- `StatParam._decode_mode` -/
def decodeStatMode (mode : Int) (noAbbrev : Bool) : String :=
  if noAbbrev then "0" ++ Text.signedNumeral 8 mode
  else
    let fileType := Text.band mode 0o170000
    let fileTypeStr := sFileTypes.get fileType ("0" ++ Text.signedNumeral 8 fileType)
    let perms := Text.band mode 0o7777
    fileTypeStr ++ "|0" ++ Text.signedNumeral 8 perms

def statSpec : StructSpec where
  fields := statStruct
  excluded := ["st_lspare", "st_qspare_0", "st_qspare_1", "st_atimespec_nsec",
    "st_mtimespec_nsec", "st_ctimespec_nsec", "st_birthtimespec_nsec"]
  formatters := [("st_mode", .onInt decodeStatMode)]
  formatters_kind := by decide

/-! ## `struct statfs` -/

def statfsStruct : List Field :=
  [⟨"f_bsize", u32⟩, ⟨"f_iosize", i32⟩, ⟨"f_blocks", u64⟩, ⟨"f_bfree", u64⟩, ⟨"f_bavail", u64⟩,
    ⟨"f_files", u64⟩, ⟨"f_ffree", u64⟩, ⟨"f_fsid", .array 4 true 2⟩, ⟨"f_owner", u32⟩,
    ⟨"f_type", u32⟩, ⟨"f_flags", u32⟩, ⟨"f_fssubtype", u32⟩, ⟨"f_fstypename", .chars 16⟩,
    ⟨"f_mntonname", .chars 1024⟩, ⟨"f_mntfromname", .chars 1024⟩, ⟨"f_flags_ext", u32⟩,
    ⟨"f_reserved", .array 4 false 7⟩]

/-- `_decode_fstypename`, `_decode_mntonname` and `_decode_mntfromname` -/
def decodeStatfsName (value : Bytes) (_noAbbrev : Bool) : String :=
  match value.decodeUtf8 with
  | some s => Text.rstrip (Char.ofNat 0) s
  | none => value.repr

def statfsSpec : StructSpec where
  fields := statfsStruct
  excluded := ["f_reserved", "f_flags_ext", "f_fsid"]
  formatters := [("f_fstypename", .onBytes decodeStatfsName),
    ("f_mntonname", .onBytes decodeStatfsName), ("f_mntfromname", .onBytes decodeStatfsName)]
  formatters_kind := by decide

/-! ## `struct winsize` -/

def winsizeSpec : StructSpec where
  fields := [⟨"ws_row", u16⟩, ⟨"ws_col", u16⟩, ⟨"ws_xpixel", u16⟩, ⟨"ws_ypixel", u16⟩]
  formatters_kind := by decide

/-! ## `struct attrlist` and `struct fssearchblock` -/

def attrCmnFlags : SymbolTable :=
  [(0x00000001, "ATTR_CMN_NAME"), (0x00000002, "ATTR_CMN_DEVID"), (0x00000004, "ATTR_CMN_FSID"),
    (0x00000008, "ATTR_CMN_OBJTYPE"), (0x00000010, "ATTR_CMN_OBJTAG"),
    (0x00000020, "ATTR_CMN_OBJID"), (0x00000040, "ATTR_CMN_OBJPERMANENTID"),
    (0x00000080, "ATTR_CMN_PAROBJID"), (0x00000100, "ATTR_CMN_SCRIPT"),
    (0x00000200, "ATTR_CMN_CRTIME"), (0x00000400, "ATTR_CMN_MODTIME"),
    (0x00000800, "ATTR_CMN_CHGTIME"), (0x00001000, "ATTR_CMN_ACCTIME"),
    (0x00002000, "ATTR_CMN_BKUPTIME"), (0x00004000, "ATTR_CMN_FNDRINFO"),
    (0x00008000, "ATTR_CMN_OWNERID"), (0x00010000, "ATTR_CMN_GRPID"),
    (0x00020000, "ATTR_CMN_ACCESSMASK"), (0x00040000, "ATTR_CMN_FLAGS"),
    (0x00080000, "ATTR_CMN_GEN_COUNT"), (0x00100000, "ATTR_CMN_DOCUMENT_ID"),
    (0x00200000, "ATTR_CMN_USERACCESS"), (0x00400000, "ATTR_CMN_EXTENDED_SECURITY"),
    (0x00800000, "ATTR_CMN_UUID"), (0x01000000, "ATTR_CMN_GRPUUID"),
    (0x02000000, "ATTR_CMN_FILEID"), (0x04000000, "ATTR_CMN_PARENTID"),
    (0x08000000, "ATTR_CMN_FULLPATH"), (0x10000000, "ATTR_CMN_ADDEDTIME"),
    (0x20000000, "ATTR_CMN_ERROR"), (0x40000000, "ATTR_CMN_DATA_PROTECT_FLAGS"),
    (0x80000000, "ATTR_CMN_RETURNED_ATTRS")]

def attrVolFlags : SymbolTable :=
  [(0x00000001, "ATTR_VOL_FSTYPE"), (0x00000002, "ATTR_VOL_SIGNATURE"),
    (0x00000004, "ATTR_VOL_SIZE"), (0x00000008, "ATTR_VOL_SPACEFREE"),
    (0x00000010, "ATTR_VOL_SPACEAVAIL"), (0x00000020, "ATTR_VOL_MINALLOCATION"),
    (0x00000040, "ATTR_VOL_ALLOCATIONCLUMP"), (0x00000080, "ATTR_VOL_IOBLOCKSIZE"),
    (0x00000100, "ATTR_VOL_OBJCOUNT"), (0x00000200, "ATTR_VOL_FILECOUNT"),
    (0x00000400, "ATTR_VOL_DIRCOUNT"), (0x00000800, "ATTR_VOL_MAXOBJCOUNT"),
    (0x00001000, "ATTR_VOL_MOUNTPOINT"), (0x00002000, "ATTR_VOL_NAME"),
    (0x00004000, "ATTR_VOL_MOUNTFLAGS")]

def attrDirFlags : SymbolTable :=
  [(0x00000001, "ATTR_DIR_LINKCOUNT"), (0x00000002, "ATTR_DIR_ENTRYCOUNT"),
    (0x00000004, "ATTR_DIR_MOUNTSTATUS")]

def attrFileFlags : SymbolTable :=
  [(0x00000001, "ATTR_FILE_LINKCOUNT"), (0x00000002, "ATTR_FILE_TOTALSIZE"),
    (0x00000004, "ATTR_FILE_ALLOCSIZE"), (0x00000008, "ATTR_FILE_IOBLOCKSIZE"),
    (0x00000010, "ATTR_FILE_DEVTYPE"), (0x00000020, "ATTR_FILE_FORKCOUNT"),
    (0x00000040, "ATTR_FILE_FORKLIST"), (0x00000080, "ATTR_FILE_DATALENGTH"),
    (0x00000100, "ATTR_FILE_DATAALLOCSIZE"), (0x00000200, "ATTR_FILE_RSRCLENGTH"),
    (0x00000400, "ATTR_FILE_RSRCALLOCSIZE")]

/-- `decode_attr_flags` -/
def decodeAttrFlags (flagMap : SymbolTable) (value : Int) (_noAbbrev : Bool) : String :=
  if value = 0 then "0" else joinOr (flagMap.names value) (hexFormat value)

/-- `_decode_forkattr` -/
def decodeForkattr (value : Int) (_noAbbrev : Bool) : String :=
  if value = 0 then "0" else hexFormat value

def attrListStruct : List Field :=
  [⟨"bitmapcount", u16⟩, ⟨"reserved", u16⟩, ⟨"commonattr", u32⟩, ⟨"volattr", u32⟩,
    ⟨"dirattr", u32⟩, ⟨"fileattr", u32⟩, ⟨"forkattr", u32⟩]

def attrListSpec : StructSpec where
  fields := attrListStruct
  excluded := ["reserved"]
  formatters := [("commonattr", .onInt (decodeAttrFlags attrCmnFlags)),
    ("volattr", .onInt (decodeAttrFlags attrVolFlags)),
    ("dirattr", .onInt (decodeAttrFlags attrDirFlags)),
    ("fileattr", .onInt (decodeAttrFlags attrFileFlags)),
    ("forkattr", .onInt decodeForkattr)]
  formatters_kind := by decide

/-- `TimevalStruct` of `fssearchblock.py` -/
def fssearchblockTimeval : List Field :=
  [⟨"tv_sec", i64⟩, ⟨"tv_usec", i32⟩]

def fssearchblockSpec : StructSpec where
  fields := [⟨"returnattrs", .voidPtr⟩, ⟨"returnbuffer", .voidPtr⟩, ⟨"returnbuffersize", u64⟩,
    ⟨"maxmatches", u64⟩, ⟨"timelimit", nested fssearchblockTimeval⟩,
    ⟨"searchparams1", .voidPtr⟩, ⟨"sizeofsearchparams1", u64⟩, ⟨"searchparams2", .voidPtr⟩,
    ⟨"sizeofsearchparams2", u64⟩, ⟨"searchattrs", nested attrListStruct⟩]
  excluded := ["searchparams1", "searchparams2", "searchattrs", "returnattrs", "returnbuffer",
    "timelimit"]
  formatters_kind := by decide

/-! ## `struct termios` -/

def termiosStruct : List Field :=
  [⟨"c_iflag", u64⟩, ⟨"c_oflag", u64⟩, ⟨"c_cflag", u64⟩, ⟨"c_lflag", u64⟩,
    ⟨"c_cc", .array 1 false 20⟩, ⟨"c_ispeed", u64⟩, ⟨"c_ospeed", u64⟩]

def termiosIflag : SymbolTable :=
  [(0x00000001, "IGNBRK"), (0x00000002, "BRKINT"), (0x00000004, "IGNPAR"), (0x00000008, "PARMRK"),
    (0x00000010, "INPCK"), (0x00000020, "ISTRIP"), (0x00000040, "INLCR"), (0x00000080, "IGNCR"),
    (0x00000100, "ICRNL"), (0x00000200, "IXON"), (0x00000400, "IXOFF"), (0x00000800, "IXANY"),
    (0x00002000, "IMAXBEL"), (0x00004000, "IUTF8")]

def termiosOflag : SymbolTable :=
  [(0x00000001, "OPOST"), (0x00000002, "ONLCR"), (0x00000004, "OXTABS"), (0x00000008, "ONOEOT")]

def termiosCflag : SymbolTable :=
  [(0x00004000, "CREAD"), (0x00008000, "PARENB"), (0x00010000, "PARODD"), (0x00020000, "HUPCL"),
    (0x00040000, "CLOCAL")]

def termiosLflag : SymbolTable :=
  [(0x00000001, "ECHOKE"), (0x00000002, "ECHOE"), (0x00000004, "ECHOK"), (0x00000008, "ECHO"),
    (0x00000010, "ECHONL"), (0x00000020, "ECHOPRT"), (0x00000040, "ECHOCTL"), (0x00000080, "ISIG"),
    (0x00000100, "ICANON"), (0x00000400, "IEXTEN"), (0x00000800, "EXTPROC"),
    (0x00001000, "TOSTOP"), (0x00002000, "FLUSHO"), (0x00008000, "PENDIN"),
    (0x00010000, "NOFLSH")]

/-- One flag word of `_decode_flags_symbolic`; nothing is shown when no flag is known. -/
def termiosFlagField (name : String) (table : SymbolTable) (suffix : String) (value : Int) :
    Fields :=
  let names := table.names value
  if names.isEmpty then [] else [(name, .str (Text.join "|" names ++ suffix))]

/-- `TermiosParam._decode_flags_symbolic` -/
def decodeFlagsSymbolic (term : List (Field × CVal)) : Fields :=
  let result := termiosFlagField "c_iflag" termiosIflag "" (getInt term "c_iflag") ++
    termiosFlagField "c_oflag" termiosOflag "" (getInt term "c_oflag") ++
    termiosFlagField "c_cflag" termiosCflag "|..." (getInt term "c_cflag") ++
    termiosFlagField "c_lflag" termiosLflag "" (getInt term "c_lflag")
  if result.isEmpty then [("c_iflag", .str "0")] else result

/-- `TermiosParam.decode_struct` -/
def decodeTermios (process : Process) (address : Nat) (noAbbrev : Bool) :
    Except PyError (Option Fields) :=
  if address = 0 then .ok none
  else .ok <| (readStruct process address termiosStruct).map fun term =>
    if noAbbrev then
      ["c_iflag", "c_oflag", "c_cflag", "c_lflag"].map fun name =>
        (name, .str (hexFormat (getInt term name)))
    else decodeFlagsSymbolic term

theorem decodeTermios_ok (process : Process) (address : Nat) (noAbbrev : Bool) :
    ∃ r, decodeTermios process address noAbbrev = .ok r := by
  unfold decodeTermios
  split_ifs <;> exact ⟨_, rfl⟩

end StraceMacos
