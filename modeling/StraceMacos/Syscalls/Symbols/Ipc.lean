import StraceMacos.Syscalls.Symbols.Table

/-!
# IPC and kqueue constants and decoders

`symbols/ipc.py` and `symbols/kqueue.py`
-/

namespace StraceMacos

def ipcFlags : SymbolTable :=
  [(0x200, "IPC_CREAT"), (0x400, "IPC_EXCL"), (0x800, "IPC_NOWAIT"), (0x100, "IPC_R"),
    (0x80, "IPC_W"), (0x1000, "IPC_M")]

def ipcCommands : SymbolTable :=
  [(0, "IPC_RMID"), (1, "IPC_SET"), (2, "IPC_STAT")]

def semctlCommands : SymbolTable :=
  [(0, "IPC_RMID"), (1, "IPC_SET"), (2, "IPC_STAT"), (3, "GETNCNT"), (4, "GETPID"), (5, "GETVAL"),
    (6, "GETALL"), (7, "GETZCNT"), (8, "SETVAL"), (9, "SETALL")]

def msgrcvFlags : SymbolTable :=
  [(0o4000, "IPC_NOWAIT"), (0o10000, "MSG_NOERROR")]

def shmFlags : SymbolTable :=
  [(0o10000, "SHM_RDONLY"), (0o20000, "SHM_RND")]

def lioModes : SymbolTable :=
  [(0x1, "LIO_NOWAIT"), (0x2, "LIO_WAIT")]

def lioOpcodes : SymbolTable :=
  [(0x0, "LIO_NOP"), (0x1, "LIO_READ"), (0x2, "LIO_WRITE")]

def pollEvents : SymbolTable :=
  [(0x0001, "POLLIN"), (0x0002, "POLLPRI"), (0x0004, "POLLOUT"), (0x0008, "POLLERR"),
    (0x0010, "POLLHUP"), (0x0020, "POLLNVAL"), (0x0040, "POLLRDNORM"), (0x0080, "POLLWRNORM"),
    (0x0100, "POLLRDBAND"), (0x0200, "POLLWRBAND")]

def evfiltConstants : SymbolTable :=
  [(-1, "EVFILT_READ"), (-2, "EVFILT_WRITE"), (-3, "EVFILT_AIO"), (-4, "EVFILT_VNODE"),
    (-5, "EVFILT_PROC"), (-6, "EVFILT_SIGNAL"), (-7, "EVFILT_TIMER"), (-8, "EVFILT_MACHPORT"),
    (-9, "EVFILT_FS"), (-10, "EVFILT_USER"), (-12, "EVFILT_VM"), (-15, "EVFILT_EXCEPT")]

def evFlags : SymbolTable :=
  [(0x0001, "EV_ADD"), (0x0002, "EV_DELETE"), (0x0004, "EV_ENABLE"), (0x0008, "EV_DISABLE"),
    (0x0010, "EV_ONESHOT"), (0x0020, "EV_CLEAR"), (0x0040, "EV_RECEIPT"), (0x0080, "EV_DISPATCH"),
    (0x0100, "EV_UDATA_SPECIFIC"), (0x0200, "EV_VANISHED"), (0x1000, "EV_FLAG0"),
    (0x2000, "EV_FLAG1"), (0x4000, "EV_ERROR"), (0x8000, "EV_EOF")]

def noteVnodeFlags : SymbolTable :=
  [(0x00000001, "NOTE_DELETE"), (0x00000002, "NOTE_WRITE"), (0x00000004, "NOTE_EXTEND"),
    (0x00000008, "NOTE_ATTRIB"), (0x00000010, "NOTE_LINK"), (0x00000020, "NOTE_RENAME"),
    (0x00000040, "NOTE_REVOKE"), (0x00000080, "NOTE_NONE")]

def noteProcFlags : SymbolTable :=
  [(0x80000000, "NOTE_EXIT"), (0x40000000, "NOTE_FORK"), (0x20000000, "NOTE_EXEC"),
    (0x10000000, "NOTE_REAP"), (0x08000000, "NOTE_SIGNAL"), (0x04000000, "NOTE_EXITSTATUS"),
    (0x02000000, "NOTE_EXIT_DETAIL")]

def noteTimerFlags : SymbolTable :=
  [(0x00000001, "NOTE_SECONDS"), (0x00000002, "NOTE_USECONDS"), (0x00000004, "NOTE_NSECONDS"),
    (0x00000008, "NOTE_ABSOLUTE"), (0x00000010, "NOTE_LEEWAY"), (0x00000020, "NOTE_CRITICAL"),
    (0x00000040, "NOTE_BACKGROUND"), (0x00000080, "NOTE_MACH_CONTINUOUS_TIME"),
    (0x00000100, "NOTE_MACHTIME")]

def noteUserFlags : SymbolTable :=
  [(0x01000000, "NOTE_TRIGGER"), (0x00000000, "NOTE_FFNOP"), (0x40000000, "NOTE_FFAND"),
    (0x80000000, "NOTE_FFOR"), (0xC0000000, "NOTE_FFCOPY")]

def decodeIpcFlags (value : Int) : String :=
  if value = 0 then "0"
  else
    let permissions := Text.band (ipcFlags.unnamed value) 0o777
    let flags := ipcFlags.names value ++
      (if permissions ≠ 0 then ["0" ++ Text.signedNumeral 8 permissions] else [])
    joinOr flags (hexInt value)

end StraceMacos
