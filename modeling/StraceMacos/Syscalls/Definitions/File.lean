import StraceMacos.Syscalls.Definitions.Param

/-!
# File calls

`definitions/file.py`
-/

namespace StraceMacos

/-- `O_CREAT` -/
def oCreat : Nat := 0x0200

def decodeFcntlReturn (retValue : Int) (allArgs : List Nat) (noAbbrev : Bool) : ReturnValue :=
  if retValue < 0 then .int retValue
  else match allArgs[1]? with
    | none => .int retValue
    | some cmd =>
      -- F_GETFL
      if cmd = 3 then
        if noAbbrev then .str (hexFormat retValue)
        else .str (decodeOpenFlags retValue ++ " (" ++ hexFormat retValue ++ ")")
      -- F_GETFD
      else if cmd = 1 ∧ noAbbrev = false ∧ retValue ≠ 0 ∧ Text.band retValue 1 ≠ 0 then
        .str "FD_CLOEXEC"
      else .int retValue

/-- Calling a decoder of return values with the value, all raw arguments and `no_abbrev`. -/
def ReturnDecoder.decode : ReturnDecoder → Int → List Nat → Bool → ReturnValue
  | fcntl => decodeFcntlReturn

def fileSyscalls : List SyscallDef :=
  [{ number := 3, name := "read", params := plainParams [.fileDescriptor, .buffer 2 .out,
      .unsigned] },
    { number := 4, name := "write", params := plainParams [.fileDescriptor, .buffer 2 .in,
      .unsigned] },
    { number := 5, name := "open", params := [.plain .string, .plain (.custom decodeOpenFlags),
      .variant {
          discriminatorIndex := 1
          defaultParam := some .octal
          skipWhenNotSet := some oCreat }],
      variadicStart := some 2 },
    { number := 6, name := "close", params := plainParams [.fileDescriptor] },
    { number := 9, name := "link", params := plainParams [.string, .string] },
    { number := 10, name := "unlink", params := plainParams [.string] },
    { number := 12, name := "chdir", params := plainParams [.string] },
    { number := 13, name := "fchdir", params := plainParams [.fileDescriptor] },
    { number := 14, name := "mknod", params := plainParams [.string, .octal, .int] },
    { number := 15, name := "chmod", params := plainParams [.string, .octal] },
    { number := 16, name := "chown", params := plainParams [.string, .uidGid, .uidGid] },
    { number := 34, name := "chflags", params := plainParams [.string, .flags chflagsFlags] },
    { number := 18, name := "getfsstat", params := plainParams [.pointer, .int,
      .flags unmountFlags] },
    { number := 33, name := "access", params := plainParams [.string,
      .custom decodeAccessMode] },
    { number := 36, name := "sync", params := plainParams [] },
    { number := 41, name := "dup", params := plainParams [.fileDescriptor] },
    { number := 42, name := "pipe", params := plainParams [] },
    { number := 54, name := "ioctl", params := [.plain .fileDescriptor,
      .plain (.custom decodeIoctlCmd),
      .variant {
          discriminatorIndex := 1
          variants := [(0x4004667F, .intPtr .out), (0x40087468, .struct winsizeSpec .out),
            (0x40487413, .termios .out)]
          defaultParam := some .pointer
          skipFor := [0x20006601, 0x20006602] }],
      variadicStart := some 2 },
    { number := 56, name := "revoke", params := plainParams [.string] },
    { number := 57, name := "symlink", params := plainParams [.string, .string] },
    { number := 58, name := "readlink", params := plainParams [.string, .buffer 2 .out,
      .unsigned] },
    { number := 60, name := "umask", params := plainParams [.octal] },
    { number := 61, name := "chroot", params := plainParams [.string] },
    { number := 65, name := "msync", params := plainParams [.pointer, .unsigned,
      .flags msyncFlags] },
    { number := 90, name := "dup2", params := plainParams [.fileDescriptor, .fileDescriptor] },
    { number := 92, name := "fcntl", params := [.plain .fileDescriptor,
      .plain (.const fcntlCommands),
      .variant {
          discriminatorIndex := 1
          variants := [(0, .fileDescriptor), (67, .fileDescriptor), (2, .flags fdFlags),
            (4, .custom decodeOpenFlags)]
          defaultParam := some .int
          skipFor := [1, 3] }],
      returnDecoder := some .fcntl, variadicStart := some 2 },
    { number := 95, name := "fsync", params := plainParams [.fileDescriptor] },
    { number := 120, name := "readv", params := plainParams [.fileDescriptor, .iovec 2 .out,
      .int] },
    { number := 121, name := "writev", params := plainParams [.fileDescriptor, .iovec 2 .in,
      .int] },
    { number := 123, name := "fchown", params := plainParams [.fileDescriptor, .uidGid,
      .uidGid] },
    { number := 124, name := "fchmod", params := plainParams [.fileDescriptor, .octal] },
    { number := 128, name := "rename", params := plainParams [.string, .string] },
    { number := 131, name := "flock", params := plainParams [.fileDescriptor, .flockOp] },
    { number := 132, name := "mkfifo", params := plainParams [.string, .octal] },
    { number := 136, name := "mkdir", params := plainParams [.string, .octal] },
    { number := 137, name := "rmdir", params := plainParams [.string] },
    { number := 153, name := "pread", params := plainParams [.fileDescriptor, .buffer 2 .out,
      .unsigned, .int] },
    { number := 154, name := "pwrite", params := plainParams [.fileDescriptor, .buffer 2 .in,
      .unsigned, .int] },
    { number := 540, name := "preadv", params := plainParams [.fileDescriptor, .iovec 2 .out,
      .int, .int] },
    { number := 541, name := "pwritev", params := plainParams [.fileDescriptor, .iovec 2 .in,
      .int, .int] },
    { number := 155, name := "nfssvc", params := plainParams [.flags nfssvcFlags, .pointer] },
    { number := 157, name := "statfs", params := plainParams [.string,
      .struct statfsSpec .out] },
    { number := 158, name := "fstatfs", params := plainParams [.fileDescriptor,
      .struct statfsSpec .out] },
    { number := 159, name := "unmount", params := plainParams [.string, .flags unmountFlags] },
    { number := 161, name := "getfh", params := plainParams [.string, .pointer] },
    { number := 165, name := "quotactl", params := plainParams [.string, .const quotactlCmds,
      .int, .pointer] },
    { number := 167, name := "mount", params := plainParams [.string, .string,
      .flags mountFlags, .pointer] },
    { number := 187, name := "fdatasync", params := plainParams [.fileDescriptor] },
    { number := 188, name := "stat", params := plainParams [.string, .struct statSpec .out] },
    { number := 189, name := "fstat", params := plainParams [.fileDescriptor,
      .struct statSpec .out] },
    { number := 190, name := "lstat", params := plainParams [.string, .struct statSpec .out] },
    { number := 191, name := "pathconf", params := plainParams [.string, .const pathconfNames] },
    { number := 192, name := "fpathconf", params := plainParams [.fileDescriptor,
      .const pathconfNames] },
    { number := 196, name := "getdirentries", params := plainParams [.fileDescriptor,
      .buffer 2 .out, .unsigned, .intPtr .out] },
    { number := 199, name := "lseek", params := plainParams [.fileDescriptor, .int,
      .const seekConstants] },
    { number := 200, name := "truncate", params := plainParams [.string, .int] },
    { number := 201, name := "ftruncate", params := plainParams [.fileDescriptor, .int] },
    { number := 205, name := "undelete", params := plainParams [.string] },
    { number := 216, name := "open_dprotected_np", params := [.plain .string,
      .plain (.custom decodeOpenFlags),
      .variant {
          discriminatorIndex := 1
          defaultParam := some .octal
          skipWhenNotSet := some oCreat },
      .plain .int, .plain .int], variadicStart := some 2 },
    { number := 217, name := "fsgetpath_ext", params := plainParams [.pointer, .unsigned,
      .pointer, .unsigned] },
    { number := 218, name := "openat_dprotected_np", params := [.plain .dirFd, .plain .string,
      .plain (.custom decodeOpenFlags),
      .variant {
          discriminatorIndex := 2
          defaultParam := some .octal
          skipWhenNotSet := some oCreat },
      .plain .int, .plain .int], variadicStart := some 3 },
    { number := 220, name := "getattrlist", params := plainParams [.string,
      .struct attrListSpec .in, .pointer, .unsigned, .flags fsoptFlags] },
    { number := 221, name := "setattrlist", params := plainParams [.string,
      .struct attrListSpec .in, .pointer, .unsigned, .flags fsoptFlags] },
    { number := 222, name := "getdirentriesattr", params := plainParams [.fileDescriptor,
      .pointer, .pointer, .unsigned, .pointer, .pointer, .pointer, .unsigned] },
    { number := 223, name := "exchangedata", params := plainParams [.string, .string,
      .flags exchangedataFlags] },
    { number := 225, name := "searchfs", params := plainParams [.string,
      .struct fssearchblockSpec .in, .pointer, .flags srchfsFlags, .unsigned, .pointer] },
    { number := 226, name := "delete", params := plainParams [.string] },
    { number := 227, name := "copyfile", params := plainParams [.string, .string, .int,
      .flags copyfileFlags] },
    { number := 228, name := "fgetattrlist", params := plainParams [.fileDescriptor,
      .struct attrListSpec .in, .pointer, .unsigned, .flags fsoptFlags] },
    { number := 229, name := "fsetattrlist", params := plainParams [.fileDescriptor,
      .struct attrListSpec .in, .pointer, .unsigned, .flags fsoptFlags] },
    { number := 234, name := "getxattr", params := plainParams [.string, .string, .pointer,
      .unsigned, .unsigned, .flags xattrFlags] },
    { number := 235, name := "fgetxattr", params := plainParams [.fileDescriptor, .string,
      .pointer, .unsigned, .unsigned, .flags xattrFlags] },
    { number := 236, name := "setxattr", params := plainParams [.string, .string, .pointer,
      .unsigned, .unsigned, .flags xattrFlags] },
    { number := 237, name := "fsetxattr", params := plainParams [.fileDescriptor, .string,
      .pointer, .unsigned, .unsigned, .flags xattrFlags] },
    { number := 238, name := "removexattr", params := plainParams [.string, .string,
      .flags xattrFlags] },
    { number := 239, name := "fremovexattr", params := plainParams [.fileDescriptor, .string,
      .flags xattrFlags] },
    { number := 240, name := "listxattr", params := plainParams [.string, .pointer, .unsigned,
      .flags xattrFlags] },
    { number := 241, name := "flistxattr", params := plainParams [.fileDescriptor, .pointer,
      .unsigned, .flags xattrFlags] },
    { number := 242, name := "fsctl", params := plainParams [.string, .unsigned, .pointer,
      .unsigned] },
    { number := 245, name := "ffsctl", params := plainParams [.fileDescriptor, .unsigned,
      .pointer, .unsigned] },
    { number := 248, name := "fhopen", params := plainParams [.pointer,
      .custom decodeOpenFlags] },
    { number := 266, name := "shm_open", params := [.plain .string,
      .plain (.custom decodeOpenFlags),
      .variant {
          discriminatorIndex := 1
          defaultParam := some .octal
          skipWhenNotSet := some oCreat }],
      variadicStart := some 2 },
    { number := 267, name := "shm_unlink", params := plainParams [.string] },
    { number := 268, name := "sem_open", params := plainParams [.string,
      .custom decodeOpenFlags, .octal, .unsigned] },
    { number := 269, name := "sem_close", params := plainParams [.pointer] },
    { number := 270, name := "sem_unlink", params := plainParams [.string] },
    { number := 277, name := "open_extended", params := plainParams [.string,
      .custom decodeOpenFlags, .uidGid, .uidGid, .octal, .pointer] },
    { number := 279, name := "stat_extended", params := plainParams [.string, .pointer,
      .pointer, .pointer] },
    { number := 280, name := "lstat_extended", params := plainParams [.string, .pointer,
      .pointer, .pointer] },
    { number := 281, name := "fstat_extended", params := plainParams [.fileDescriptor, .pointer,
      .pointer, .pointer] },
    { number := 282, name := "chmod_extended", params := plainParams [.string, .uidGid, .uidGid,
      .octal, .pointer] },
    { number := 283, name := "fchmod_extended", params := plainParams [.fileDescriptor, .uidGid,
      .uidGid, .octal, .pointer] },
    { number := 284, name := "access_extended", params := plainParams [.string,
      .custom decodeAccessMode, .pointer, .unsigned] },
    { number := 291, name := "mkfifo_extended", params := plainParams [.string, .uidGid,
      .uidGid, .octal, .pointer] },
    { number := 292, name := "mkdir_extended", params := plainParams [.string, .uidGid, .uidGid,
      .octal, .pointer] },
    { number := 297, name := "psynch_rw_longrdlock", params := plainParams [.pointer, .unsigned,
      .unsigned, .unsigned, .int] },
    { number := 298, name := "psynch_rw_yieldwrlock", params := plainParams [.pointer,
      .unsigned, .unsigned, .unsigned, .int] },
    { number := 299, name := "psynch_rw_downgrade", params := plainParams [.pointer, .unsigned,
      .unsigned, .unsigned, .int] },
    { number := 300, name := "psynch_rw_upgrade", params := plainParams [.pointer, .unsigned,
      .unsigned, .unsigned, .int] },
    { number := 350, name := "audit", params := plainParams [.buffer 1 .in, .unsigned] },
    { number := 351, name := "auditon", params := plainParams [.const auditCommands, .pointer,
      .unsigned] },
    { number := 353, name := "getauid", params := plainParams [.pointer] },
    { number := 354, name := "setauid", params := plainParams [.pointer] },
    { number := 357, name := "getaudit_addr", params := plainParams [.pointer, .int] },
    { number := 358, name := "setaudit_addr", params := plainParams [.pointer, .int] },
    { number := 359, name := "auditctl", params := plainParams [.string] },
    { number := 463, name := "openat", params := [.plain .dirFd, .plain .string,
      .plain (.custom decodeOpenFlags),
      .variant {
          discriminatorIndex := 2
          defaultParam := some .octal
          skipWhenNotSet := some oCreat }],
      variadicStart := some 3 },
    { number := 479, name := "openbyid_np", params := plainParams [.pointer, .unsigned,
      .custom decodeOpenFlags] },
    { number := 469, name := "fstatat", params := plainParams [.dirFd, .string,
      .struct statSpec .out, .flags atFlags] },
    { number := 471, name := "linkat", params := plainParams [.dirFd, .string, .dirFd, .string,
      .flags atFlags] },
    { number := 472, name := "unlinkat", params := plainParams [.dirFd, .string,
      .flags atFlags] },
    { number := 473, name := "readlinkat", params := plainParams [.dirFd, .string,
      .buffer 3 .out, .unsigned] },
    { number := 474, name := "symlinkat", params := plainParams [.string, .dirFd, .string] },
    { number := 475, name := "mkdirat", params := plainParams [.dirFd, .string, .octal] },
    { number := 476, name := "getattrlistat", params := plainParams [.dirFd, .string,
      .struct attrListSpec .in, .pointer, .unsigned, .flags fsoptFlags] },
    { number := 467, name := "fchmodat", params := plainParams [.dirFd, .string, .octal,
      .flags atFlags] },
    { number := 468, name := "fchownat", params := plainParams [.dirFd, .string, .uidGid,
      .uidGid, .flags atFlags] },
    { number := 470, name := "fstatat64", params := plainParams [.dirFd, .string,
      .struct statSpec .out, .flags atFlags] },
    { number := 465, name := "renameat", params := plainParams [.dirFd, .string, .dirFd,
      .string] },
    { number := 466, name := "faccessat", params := plainParams [.dirFd, .string,
      .custom decodeAccessMode, .flags atFlags] },
    { number := 35, name := "fchflags", params := plainParams [.fileDescriptor,
      .flags chflagsFlags] },
    { number := 461, name := "getattrlistbulk", params := plainParams [.fileDescriptor,
      .struct attrListSpec .in, .pointer, .unsigned, .unsigned] },
    { number := 441, name := "guarded_open_np", params := plainParams [.string, .pointer,
      .custom decodeOpenFlags, .int] },
    { number := 442, name := "guarded_close_np", params := plainParams [.fileDescriptor,
      .pointer] },
    { number := 484, name := "guarded_open_dprotected_np", params := plainParams [.string,
      .pointer, .custom decodeOpenFlags, .const protectionClasses, .flags dprotectFlags, .octal] },
    { number := 444, name := "change_fdguard_np", params := plainParams [.fileDescriptor,
      .pointer, .unsigned, .pointer, .unsigned, .pointer] },
    { number := 487, name := "guarded_writev_np", params := plainParams [.fileDescriptor,
      .pointer, .pointer, .int] },
    { number := 427, name := "fsgetpath", params := plainParams [.pointer, .unsigned, .pointer,
      .unsigned] },
    { number := 526, name := "fmount", params := plainParams [.string, .fileDescriptor,
      .flags mountFlags, .pointer] },
    { number := 517, name := "fclonefileat", params := plainParams [.fileDescriptor, .dirFd,
      .string, .flags cloneFlags] },
    { number := 553, name := "mkfifoat", params := plainParams [.dirFd, .string, .octal] },
    { number := 554, name := "mknodat", params := plainParams [.dirFd, .string, .octal, .int] },
    { number := 488, name := "renameatx_np", params := plainParams [.dirFd, .string, .dirFd,
      .string, .flags renameatFlags] },
    { number := 489, name := "mremap_encrypted", params := plainParams [.pointer, .unsigned,
      .unsigned, .unsigned, .unsigned] },
    { number := 338, name := "stat64", params := plainParams [.string, .struct statSpec .out] },
    { number := 339, name := "fstat64", params := plainParams [.fileDescriptor,
      .struct statSpec .out] },
    { number := 340, name := "lstat64", params := plainParams [.string, .struct statSpec .out] },
    { number := 341, name := "stat64_extended", params := plainParams [.string, .pointer,
      .pointer, .pointer] },
    { number := 342, name := "lstat64_extended", params := plainParams [.string, .pointer,
      .pointer, .pointer] },
    { number := 343, name := "fstat64_extended", params := plainParams [.fileDescriptor,
      .pointer, .pointer, .pointer] },
    { number := 344, name := "getdirentries64", params := plainParams [.fileDescriptor,
      .buffer 2 .out, .unsigned, .intPtr .out] },
    { number := 345, name := "statfs64", params := plainParams [.string,
      .struct statfsSpec .out] },
    { number := 346, name := "fstatfs64", params := plainParams [.fileDescriptor,
      .struct statfsSpec .out] },
    { number := 347, name := "getfsstat64", params := plainParams [.pointer, .int,
      .flags unmountFlags] },
    { number := 462, name := "clonefileat", params := plainParams [.dirFd, .string, .dirFd,
      .string, .flags cloneFlags] },
    { number := 524, name := "setattrlistat", params := plainParams [.dirFd, .string,
      .struct attrListSpec .in, .pointer, .unsigned, .flags fsoptFlags] }]

end StraceMacos
