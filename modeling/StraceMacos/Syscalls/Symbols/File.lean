import StraceMacos.Syscalls.Symbols.Table

/-!
# File-related constants and decoders

`symbols/file.py`
-/

namespace StraceMacos

def oFlags : SymbolTable :=
  [(0x0000, "O_RDONLY"), (0x0001, "O_WRONLY"), (0x0002, "O_RDWR"), (0x0008, "O_APPEND"),
    (0x0200, "O_CREAT"), (0x0400, "O_TRUNC"), (0x0800, "O_EXCL"), (0x0004, "O_NONBLOCK"),
    (0x0040, "O_ASYNC"), (0x0080, "O_SYNC"), (0x0100, "O_NOFOLLOW"), (0x0010, "O_SHLOCK"),
    (0x0020, "O_EXLOCK"), (0x00008000, "O_EVTONLY"), (0x00020000, "O_NOCTTY"),
    (0x00100000, "O_DIRECTORY"), (0x00200000, "O_SYMLINK"), (0x00400000, "O_DSYNC"),
    (0x01000000, "O_CLOEXEC"), (0x20000000, "O_NOFOLLOW_ANY"), (0x40000000, "O_EXEC")]

def sFileTypes : SymbolTable :=
  [(0o010000, "S_IFIFO"), (0o020000, "S_IFCHR"), (0o060000, "S_IFBLK"), (0o040000, "S_IFDIR"),
    (0o100000, "S_IFREG"), (0o120000, "S_IFLNK"), (0o140000, "S_IFSOCK")]

def seekConstants : SymbolTable :=
  [(0, "SEEK_SET"), (1, "SEEK_CUR"), (2, "SEEK_END"), (3, "SEEK_HOLE"), (4, "SEEK_DATA")]

def atFlags : SymbolTable :=
  [(0x0010, "AT_EACCESS"), (0x0020, "AT_SYMLINK_NOFOLLOW"), (0x0040, "AT_SYMLINK_FOLLOW"),
    (0x0080, "AT_REMOVEDIR")]

def cloneFlags : SymbolTable :=
  [(0x0001, "CLONE_NOFOLLOW"), (0x0002, "CLONE_NOOWNERCOPY"), (0x0004, "CLONE_ACL"),
    (0x0008, "CLONE_NOFOLLOW_ANY")]

def accessModes : SymbolTable :=
  [(0, "F_OK"), (1, "X_OK"), (2, "W_OK"), (4, "R_OK")]

def fcntlCommands : SymbolTable :=
  [(0, "F_DUPFD"), (67, "F_DUPFD_CLOEXEC"), (1, "F_GETFD"), (2, "F_SETFD"), (3, "F_GETFL"),
    (4, "F_SETFL"), (7, "F_GETLK"), (8, "F_SETLK"), (9, "F_SETLKW"), (42, "F_PREALLOCATE"),
    (44, "F_RDADVISE"), (45, "F_RDAHEAD"), (48, "F_NOCACHE"), (49, "F_LOG2PHYS"), (50, "F_GETPATH"),
    (51, "F_FULLFSYNC"), (53, "F_FREEZE_FS"), (54, "F_THAW_FS"), (55, "F_GLOBAL_NOCACHE"),
    (62, "F_NODIRECT"), (65, "F_LOG2PHYS_EXT"), (85, "F_BARRIERFSYNC"), (90, "F_OFD_SETLK"),
    (91, "F_OFD_SETLKW"), (92, "F_OFD_GETLK"), (99, "F_PUNCHHOLE"), (100, "F_TRIM_ACTIVE_FILE"),
    (101, "F_SPECULATIVE_READ"), (102, "F_GETPATH_NOFIRMLINK"), (110, "F_TRANSFEREXTENTS")]

def fdFlags : SymbolTable :=
  [(1, "FD_CLOEXEC")]

def flockOps : SymbolTable :=
  [(1, "LOCK_SH"), (2, "LOCK_EX"), (4, "LOCK_NB"), (8, "LOCK_UN")]

def msyncFlags : SymbolTable :=
  [(0x0001, "MS_ASYNC"), (0x0002, "MS_INVALIDATE"), (0x0010, "MS_SYNC"), (0x0004, "MS_KILLPAGES"),
    (0x0008, "MS_DEACTIVATE")]

def mountFlags : SymbolTable :=
  [(0x00000010, "MNT_NODEV"), (0x00000020, "MNT_UNION"), (0x00000080, "MNT_CPROTECT"),
    (0x00000400, "MNT_QUARANTINE"), (0x00001000, "MNT_LOCAL"), (0x00002000, "MNT_QUOTA"),
    (0x00004000, "MNT_ROOTFS"), (0x00008000, "MNT_DOVOLFS"), (0x00100000, "MNT_DONTBROWSE"),
    (0x00200000, "MNT_IGNORE_OWNERSHIP"), (0x00400000, "MNT_AUTOMOUNTED"),
    (0x00800000, "MNT_JOURNALED"), (0x01000000, "MNT_NOUSERXATTR"), (0x02000000, "MNT_DEFWRITE"),
    (0x04000000, "MNT_MULTILABEL"), (0x10000000, "MNT_NOATIME"), (0x40000000, "MNT_SNAPSHOT"),
    (0x00020000, "MNT_NOBLOCK")]

def unmountFlags : SymbolTable :=
  [(1, "MNT_WAIT"), (2, "MNT_NOWAIT")]

def chflagsFlags : SymbolTable :=
  [(0x00000001, "UF_NODUMP"), (0x00000002, "UF_IMMUTABLE"), (0x00000004, "UF_APPEND"),
    (0x00000008, "UF_OPAQUE"), (0x00000020, "UF_COMPRESSED"), (0x00000040, "UF_TRACKED"),
    (0x00008000, "UF_HIDDEN"), (0x00010000, "SF_ARCHIVED"), (0x00020000, "SF_IMMUTABLE"),
    (0x00040000, "SF_APPEND")]

def pathconfNames : SymbolTable :=
  [(1, "_PC_LINK_MAX"), (2, "_PC_MAX_CANON"), (3, "_PC_MAX_INPUT"), (4, "_PC_NAME_MAX"),
    (5, "_PC_PATH_MAX"), (6, "_PC_PIPE_BUF"), (7, "_PC_CHOWN_RESTRICTED"), (8, "_PC_NO_TRUNC"),
    (9, "_PC_VDISABLE"), (10, "_PC_NAME_CHARS_MAX"), (11, "_PC_CASE_SENSITIVE"),
    (12, "_PC_CASE_PRESERVING"), (13, "_PC_EXTENDED_SECURITY_NP"), (14, "_PC_AUTH_OPAQUE_NP"),
    (15, "_PC_2_SYMLINKS"), (16, "_PC_ALLOC_SIZE_MIN"), (17, "_PC_ASYNC_IO"),
    (18, "_PC_FILESIZEBITS"), (19, "_PC_PRIO_IO"), (20, "_PC_REC_INCR_XFER_SIZE"),
    (21, "_PC_REC_MAX_XFER_SIZE"), (22, "_PC_REC_MIN_XFER_SIZE"), (23, "_PC_REC_XFER_ALIGN"),
    (24, "_PC_SYMLINK_MAX"), (25, "_PC_SYNC_IO"), (26, "_PC_XATTR_SIZE_BITS"),
    (27, "_PC_MIN_HOLE_SIZE")]

def xattrFlags : SymbolTable :=
  [(0x0001, "XATTR_NOFOLLOW"), (0x0002, "XATTR_CREATE"), (0x0004, "XATTR_REPLACE"),
    (0x0008, "XATTR_NOSECURITY"), (0x0010, "XATTR_NODEFAULT"), (0x0020, "XATTR_SHOWCOMPRESSION")]

def srchfsFlags : SymbolTable :=
  [(0x00000001, "SRCHFS_START"), (0x00000002, "SRCHFS_MATCHPARTIALNAMES"),
    (0x00000004, "SRCHFS_MATCHDIRS"), (0x00000008, "SRCHFS_MATCHFILES"),
    (0x00000010, "SRCHFS_SKIPLINKS"), (0x00000020, "SRCHFS_SKIPINVISIBLE"),
    (0x00000040, "SRCHFS_SKIPPACKAGES"), (0x00000080, "SRCHFS_SKIPINAPPROPRIATE"),
    (0x80000000, "SRCHFS_NEGATEPARAMS")]

def copyfileFlags : SymbolTable :=
  [(0x1, "COPYFILE_ACL"), (0x2, "COPYFILE_STAT"), (0x4, "COPYFILE_XATTR"), (0x8, "COPYFILE_DATA"),
    (0x8000, "COPYFILE_RECURSIVE"), (0x10000, "COPYFILE_CHECK"), (0x20000, "COPYFILE_EXCL"),
    (0x40000, "COPYFILE_NOFOLLOW_SRC"), (0x80000, "COPYFILE_NOFOLLOW_DST"),
    (0x100000, "COPYFILE_MOVE"), (0x200000, "COPYFILE_UNLINK"), (0x400000, "COPYFILE_PACK"),
    (0x800000, "COPYFILE_UNPACK"), (0x1000000, "COPYFILE_CLONE"),
    (0x2000000, "COPYFILE_CLONE_FORCE"), (0x4000000, "COPYFILE_RUN_IN_PLACE"),
    (0x8000000, "COPYFILE_DATA_SPARSE"), (0x10000000, "COPYFILE_PRESERVE_DST_TRACKED"),
    (0x40000000, "COPYFILE_VERBOSE")]

def protectionClasses : SymbolTable :=
  [(0, "PROTECTION_CLASS_DEFAULT"), (1, "PROTECTION_CLASS_A"), (2, "PROTECTION_CLASS_B"),
    (3, "PROTECTION_CLASS_C"), (4, "PROTECTION_CLASS_D"), (5, "PROTECTION_CLASS_E"),
    (6, "PROTECTION_CLASS_F")]

def dprotectFlags : SymbolTable :=
  [(0x0001, "O_DP_GETRAWENCRYPTED"), (0x0002, "O_DP_GETRAWUNENCRYPTED"),
    (0x0004, "O_DP_AUTHENTICATE")]

def fsoptFlags : SymbolTable :=
  [(0x00000001, "FSOPT_NOFOLLOW"), (0x00000002, "FSOPT_NOINMEMUPDATE"),
    (0x00000004, "FSOPT_REPORT_FULLSIZE"), (0x00000008, "FSOPT_PACK_INVAL_ATTRS"),
    (0x00000020, "FSOPT_ATTR_CMN_EXTENDED"), (0x00000200, "FSOPT_RETURN_REALDEV"),
    (0x00000800, "FSOPT_NOFOLLOW_ANY")]

def exchangedataFlags : SymbolTable :=
  [(0x0001, "FSOPT_NOFOLLOW")]

def renameatFlags : SymbolTable :=
  [(0x00000002, "RENAME_SWAP"), (0x00000004, "RENAME_EXCL"), (0x00000008, "RENAME_RESERVED1"),
    (0x00000010, "RENAME_NOFOLLOW_ANY")]

def auditCommands : SymbolTable :=
  [(2, "A_OLDGETPOLICY"), (3, "A_OLDSETPOLICY"), (4, "A_GETKMASK"), (5, "A_SETKMASK"),
    (6, "A_OLDGETQCTRL"), (7, "A_OLDSETQCTRL"), (8, "A_GETCWD"), (9, "A_GETCAR"), (12, "A_GETSTAT"),
    (13, "A_SETSTAT"), (14, "A_SETUMASK"), (15, "A_SETSMASK"), (20, "A_OLDGETCOND"),
    (21, "A_OLDSETCOND"), (22, "A_GETCLASS"), (23, "A_SETCLASS"), (24, "A_GETPINFO"),
    (25, "A_SETPMASK"), (26, "A_SETFSIZE"), (27, "A_GETFSIZE"), (28, "A_GETPINFO_ADDR"),
    (29, "A_GETKAUDIT"), (30, "A_SETKAUDIT"), (31, "A_SENDTRIGGER"), (32, "A_GETSINFO_ADDR"),
    (33, "A_GETPOLICY"), (34, "A_SETPOLICY"), (35, "A_GETQCTRL"), (36, "A_SETQCTRL"),
    (37, "A_GETCOND"), (38, "A_SETCOND"), (39, "A_GETSFLAGS"), (40, "A_SETSFLAGS"),
    (41, "A_GETCTLMODE"), (42, "A_SETCTLMODE"), (43, "A_GETEXPAFTER"), (44, "A_SETEXPAFTER")]

def quotactlCmds : SymbolTable :=
  [(0x0100, "Q_QUOTAON"), (0x0200, "Q_QUOTAOFF"), (0x0300, "Q_GETQUOTA"), (0x0400, "Q_SETQUOTA"),
    (0x0700, "Q_QUOTASTAT")]

def nfssvcFlags : SymbolTable :=
  [(0x004, "NFSSVC_NFSD"), (0x008, "NFSSVC_ADDSOCK"), (0x010, "NFSSVC_EXPORTSTATS"),
    (0x020, "NFSSVC_USERSTATS"), (0x040, "NFSSVC_USERCOUNT"), (0x080, "NFSSVC_ZEROSTATS"),
    (0x100, "NFSSVC_SRVSTATS"), (0x200, "NFSSVC_EXPORT")]

def ioctlCommands : SymbolTable :=
  [(0x40487413, "TIOCGETA"), (0x80487414, "TIOCSETA"), (0x80487415, "TIOCSETAW"),
    (0x80487416, "TIOCSETAF"), (0x40087468, "TIOCGWINSZ"), (0x80087467, "TIOCSWINSZ"),
    (0x40047477, "TIOCGPGRP"), (0x80047476, "TIOCSPGRP"), (0x20007471, "TIOCNOTTY"),
    (0x2000746F, "TIOCSTOP"), (0x2000746E, "TIOCSTART"), (0x2000745E, "TIOCDRAIN"),
    (0x80047410, "TIOCFLUSH"), (0x4004746A, "TIOCMGET"), (0x8004746D, "TIOCMSET"),
    (0x8004746C, "TIOCMBIS"), (0x8004746B, "TIOCMBIC"), (0x20007461, "TIOCSCTTY"),
    (0x2000740D, "TIOCEXCL"), (0x2000740E, "TIOCNXCL"), (0x40047473, "TIOCOUTQ"),
    (0x80017472, "TIOCSTI"), (0x80047470, "TIOCPKT"), (0x4004741A, "TIOCGETD"),
    (0x8004741B, "TIOCSETD"), (0x20007465, "TIOCSTAT"), (0x20007463, "TIOCSCONS"),
    (0x80047462, "TIOCCONS"), (0x2000745F, "TIOCSIG"), (0x20007479, "TIOCSDTR"),
    (0x20007478, "TIOCCDTR"), (0x20007481, "TIOCIXON"), (0x20007480, "TIOCIXOFF"),
    (0x80047469, "TIOCREMOTE"), (0x20007454, "TIOCPTYGRANT"), (0x40807453, "TIOCPTYGNAME"),
    (0x20007452, "TIOCPTYUNLK"), (0x40047403, "TIOCMODG"), (0x80047404, "TIOCMODS"),
    (0x80047466, "TIOCUCNTL"), (0x80047460, "TIOCEXT"), (0x8004745B, "TIOCMSDTRWAIT"),
    (0x4004745A, "TIOCMGDTRWAIT"), (0x80047457, "TIOCSDRAINWAIT"), (0x40047456, "TIOCGDRAINWAIT"),
    (0x20007455, "TIOCDSIMICROCODE"), (0x20006601, "FIOCLEX"), (0x20006602, "FIONCLEX"),
    (0x4004667F, "FIONREAD"), (0x8004667E, "FIONBIO"), (0x8004667D, "FIOASYNC"),
    (0x8004667C, "FIOSETOWN"), (0x4004667B, "FIOGETOWN"), (0x4004667A, "FIODTYPE"),
    (0x80047300, "SIOCSHIWAT"), (0x40047301, "SIOCGHIWAT"), (0x80047302, "SIOCSLOWAT"),
    (0x40047303, "SIOCGLOWAT"), (0x40047307, "SIOCATMARK"), (0x80047308, "SIOCSPGRP"),
    (0x40047309, "SIOCGPGRP"), (0x8020690C, "SIOCSIFADDR"), (0xC020690C, "SIOCAIFADDR"),
    (0xC0206921, "SIOCGIFADDR"), (0xC00C6924, "SIOCGIFCONF"), (0x80206910, "SIOCSIFFLAGS"),
    (0xC0206911, "SIOCGIFFLAGS"), (0xC0206933, "SIOCGIFMTU"), (0x80206934, "SIOCSIFMTU"),
    (0x80206931, "SIOCADDMULTI"), (0x80206932, "SIOCDELMULTI"), (0xC0206922, "SIOCGIFDSTADDR"),
    (0x80206923, "SIOCGIFBRDADDR"), (0xC0206925, "SIOCGIFNETMASK"), (0x8020691A, "SIOCSIFDSTADDR"),
    (0x80206916, "SIOCSIFNETMASK"), (0x80206919, "SIOCDIFADDR"), (0x40044272, "BIOCGRSIG"),
    (0x80044273, "BIOCSRSIG"), (0x80044278, "BIOCSDLT"), (0x40044276, "BIOCGSEESENT"),
    (0x80044277, "BIOCSSEESENT"), (0xC00C4279, "BIOCGDLTLIST"), (0xC0644E03, "CTLIOCGINFO")]

def decodeOpenFlags (value : Int) : String :=
  if value = 0 then "O_RDONLY"
  else
    let accessMode := Text.band value 0x3
    let remaining := Text.bandNot value 0x3
    let flags := (oFlags.lookup accessMode).toList ++
      SymbolTable.names (oFlags.filter fun (flagVal, _) => 0x3 < flagVal) remaining
    joinOr flags (hexInt value)

def decodeAccessMode (value : Int) : String :=
  if value = 0 then "F_OK"
  else joinOr (accessModes.positiveNames value) (toString value)

def decodeIoctlCmd (value : Int) : String :=
  let unsignedValue := if value < 0 then Text.band value 0xFFFFFFFF else value
  ioctlCommands.get unsignedValue (hexInt unsignedValue)

end StraceMacos
