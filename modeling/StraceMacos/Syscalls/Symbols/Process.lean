import StraceMacos.Syscalls.Symbols.Table

/-!
# Constants of process control

`symbols/process.py`, `symbols/signal.py`, `symbols/ptrace.py`, `symbols/time.py` and
`symbols/memory.py`
-/

namespace StraceMacos

def waitOptions : SymbolTable :=
  [(0x00000001, "WNOHANG"), (0x00000002, "WUNTRACED"), (0x00000010, "WCONTINUED")]

def idtypeConstants : SymbolTable :=
  [(0, "P_ALL"), (1, "P_PID"), (2, "P_PGID")]

def waitidOptions : SymbolTable :=
  [(0x00000004, "WEXITED"), (0x00000008, "WSTOPPED"), (0x00000010, "WCONTINUED"),
    (0x00000020, "WNOWAIT")]

def prioWhich : SymbolTable :=
  [(0, "PRIO_PROCESS"), (1, "PRIO_PGRP"), (2, "PRIO_USER"), (3, "PRIO_DARWIN_THREAD"),
    (4, "PRIO_DARWIN_PROCESS"), (0x1000, "PRIO_DARWIN_BG"), (0x1001, "PRIO_DARWIN_NONUI")]

def rusageWho : SymbolTable :=
  [(-1, "RUSAGE_CHILDREN"), (0, "RUSAGE_SELF")]

def rlimitResources : SymbolTable :=
  [(0, "RLIMIT_CPU"), (1, "RLIMIT_FSIZE"), (2, "RLIMIT_DATA"), (3, "RLIMIT_STACK"),
    (4, "RLIMIT_CORE"), (5, "RLIMIT_AS"), (6, "RLIMIT_MEMLOCK"), (7, "RLIMIT_NPROC"),
    (8, "RLIMIT_NOFILE")]

def sigHow : SymbolTable :=
  [(1, "SIG_BLOCK"), (2, "SIG_UNBLOCK"), (3, "SIG_SETMASK")]

def rebootFlags : SymbolTable :=
  [(0x00, "RB_AUTOBOOT"), (0x01, "RB_ASKNAME"), (0x02, "RB_SINGLE"), (0x04, "RB_NOSYNC"),
    (0x08, "RB_HALT"), (0x10, "RB_INITNAME"), (0x20, "RB_DFLTROOT"), (0x40, "RB_ALTBOOT"),
    (0x80, "RB_UNIPROC"), (0x100, "RB_SAFEBOOT"), (0x200, "RB_UPSDELAY"), (0x400, "RB_QUICK"),
    (0x800, "RB_PANIC"), (0x1000, "RB_PANIC_ZPRINT"), (0x2000, "RB_PANIC_FORCERESET")]

def signalNumbers : SymbolTable :=
  [(1, "SIGHUP"), (2, "SIGINT"), (3, "SIGQUIT"), (4, "SIGILL"), (5, "SIGTRAP"), (6, "SIGABRT"),
    (7, "SIGEMT"), (8, "SIGFPE"), (9, "SIGKILL"), (10, "SIGBUS"), (11, "SIGSEGV"), (12, "SIGSYS"),
    (13, "SIGPIPE"), (14, "SIGALRM"), (15, "SIGTERM"), (16, "SIGURG"), (17, "SIGSTOP"),
    (18, "SIGTSTP"), (19, "SIGCONT"), (20, "SIGCHLD"), (21, "SIGTTIN"), (22, "SIGTTOU"),
    (23, "SIGIO"), (24, "SIGXCPU"), (25, "SIGXFSZ"), (26, "SIGVTALRM"), (27, "SIGPROF"),
    (28, "SIGWINCH"), (29, "SIGINFO"), (30, "SIGUSR1"), (31, "SIGUSR2")]

def saFlags : SymbolTable :=
  [(0x0001, "SA_ONSTACK"), (0x0002, "SA_RESTART"), (0x0004, "SA_RESETHAND"),
    (0x0008, "SA_NOCLDSTOP"), (0x0010, "SA_NODEFER"), (0x0020, "SA_NOCLDWAIT"),
    (0x0040, "SA_SIGINFO"), (0x0080, "SA_USERTRAMP"), (0x0100, "SA_64REGSET"),
    (0x0200, "SA_USERSPACE_MASK")]

def ssFlags : SymbolTable :=
  [(0x0001, "SS_ONSTACK"), (0x0002, "SS_DISABLE")]

def ptraceRequests : SymbolTable :=
  [(0, "PT_TRACE_ME"), (1, "PT_READ_I"), (2, "PT_READ_D"), (3, "PT_READ_U"), (4, "PT_WRITE_I"),
    (5, "PT_WRITE_D"), (6, "PT_WRITE_U"), (7, "PT_CONTINUE"), (8, "PT_KILL"), (9, "PT_STEP"),
    (10, "PT_ATTACH"), (11, "PT_DETACH"), (12, "PT_SIGEXC"), (13, "PT_THUPDATE"),
    (14, "PT_ATTACHEXC"), (30, "PT_FORCEQUOTA"), (31, "PT_DENY_ATTACH"), (32, "PT_FIRSTMACH")]

def itimerConstants : SymbolTable :=
  [(0, "ITIMER_REAL"), (1, "ITIMER_VIRTUAL"), (2, "ITIMER_PROF")]

def protFlags : SymbolTable :=
  [(0, "PROT_NONE"), (1, "PROT_READ"), (2, "PROT_WRITE"), (4, "PROT_EXEC")]

def mapFlags : SymbolTable :=
  [(0x0001, "MAP_SHARED"), (0x0002, "MAP_PRIVATE"), (0x0010, "MAP_FIXED"), (0x1000, "MAP_ANON"),
    (0x0020, "MAP_RENAME"), (0x0040, "MAP_NORESERVE"), (0x0100, "MAP_NOEXTEND"),
    (0x0200, "MAP_HASSEMAPHORE"), (0x0400, "MAP_NOCACHE"), (0x0800, "MAP_JIT"),
    (0x2000, "MAP_RESILIENT_CODESIGN"), (0x4000, "MAP_RESILIENT_MEDIA"), (0x8000, "MAP_32BIT")]

def madvConstants : SymbolTable :=
  [(0, "MADV_NORMAL"), (1, "MADV_RANDOM"), (2, "MADV_SEQUENTIAL"), (3, "MADV_WILLNEED"),
    (4, "MADV_DONTNEED"), (5, "MADV_FREE"), (6, "MADV_ZERO_WIRED_PAGES"), (7, "MADV_FREE_REUSABLE"),
    (8, "MADV_FREE_REUSE"), (9, "MADV_CAN_REUSE"), (10, "MADV_PAGEOUT"), (11, "MADV_ZERO")]

def mclFlags : SymbolTable :=
  [(0x0001, "MCL_CURRENT"), (0x0002, "MCL_FUTURE")]

def vmInheritConstants : SymbolTable :=
  [(0, "VM_INHERIT_SHARE"), (1, "VM_INHERIT_COPY"), (2, "VM_INHERIT_NONE"),
    (3, "VM_INHERIT_DONATE_COPY")]

end StraceMacos
