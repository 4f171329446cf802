import StraceMacos.Syscalls.Definitions.Param

/-!
# Process, memory, signal, thread and time calls

`definitions/process.py`, `memory.py`, `signal.py`, `thread.py` and `time.py`
-/

namespace StraceMacos

def processSyscalls : List SyscallDef :=
  [{ number := 1, name := "exit", params := plainParams [.int] },
    { number := 2, name := "fork", params := plainParams [] },
    { number := 7, name := "wait4", params := plainParams [.int, .intPtr .out,
      .flags waitOptions, .struct rusageSpec .out] },
    { number := 20, name := "getpid", params := plainParams [] },
    { number := 23, name := "setuid", params := plainParams [.uidGid] },
    { number := 24, name := "getuid", params := plainParams [] },
    { number := 25, name := "geteuid", params := plainParams [] },
    { number := 39, name := "getppid", params := plainParams [] },
    { number := 43, name := "getegid", params := plainParams [] },
    { number := 47, name := "getgid", params := plainParams [] },
    { number := 49, name := "getlogin", params := plainParams [.buffer 1 .out, .unsigned] },
    { number := 50, name := "setlogin", params := plainParams [.string] },
    { number := 59, name := "execve", params := plainParams [.string, .arrayOfStrings,
      .arrayOfStrings] },
    { number := 66, name := "vfork", params := plainParams [] },
    { number := 67, name := "oslog_coproc_reg", params := plainParams [.pointer, .unsigned] },
    { number := 68, name := "oslog_coproc", params := plainParams [.pointer, .unsigned,
      .unsigned] },
    { number := 79, name := "getgroups", params := plainParams [.unsigned,
      .intArray (.inr 0) .out] },
    { number := 80, name := "setgroups", params := plainParams [.unsigned,
      .intArray (.inr 0) .in] },
    { number := 81, name := "getpgrp", params := plainParams [] },
    { number := 82, name := "setpgid", params := plainParams [.int, .int] },
    { number := 126, name := "setreuid", params := plainParams [.uidGid, .uidGid] },
    { number := 127, name := "setregid", params := plainParams [.uidGid, .uidGid] },
    { number := 96, name := "setpriority", params := plainParams [.const prioWhich, .int,
      .int] },
    { number := 100, name := "getpriority", params := plainParams [.const prioWhich, .int] },
    { number := 117, name := "getrusage", params := plainParams [.const rusageWho,
      .struct rusageSpec .out] },
    { number := 147, name := "setsid", params := plainParams [] },
    { number := 151, name := "getpgid", params := plainParams [.int] },
    { number := 152, name := "setprivexec", params := plainParams [.int] },
    { number := 173, name := "waitid", params := plainParams [.const idtypeConstants, .unsigned,
      .pointer, .flags waitidOptions] },
    { number := 181, name := "setgid", params := plainParams [.uidGid] },
    { number := 182, name := "setegid", params := plainParams [.uidGid] },
    { number := 183, name := "seteuid", params := plainParams [.uidGid] },
    { number := 194, name := "getrlimit", params := plainParams [.const rlimitResources,
      .struct rlimitSpec .out] },
    { number := 195, name := "setrlimit", params := plainParams [.const rlimitResources,
      .struct rlimitSpec .in] },
    { number := 243, name := "initgroups", params := plainParams [.string, .int, .pointer,
      .unsigned] },
    { number := 244, name := "posix_spawn", params := plainParams [.intPtr .out, .string,
      .pointer, .pointer, .arrayOfStrings, .arrayOfStrings] },
    { number := 271, name := "sem_wait", params := plainParams [.pointer] },
    { number := 272, name := "sem_trywait", params := plainParams [.pointer] },
    { number := 310, name := "getsid", params := plainParams [.int] },
    { number := 327, name := "issetugid", params := plainParams [] },
    { number := 334, name := "__semwait_signal", params := plainParams [.int, .int, .int, .int,
      .int, .int] },
    { number := 368, name := "workq_kernreturn", params := plainParams [.int, .pointer, .int,
      .int] },
    { number := 380, name := "__mac_execve", params := plainParams [.string, .arrayOfStrings,
      .arrayOfStrings, .pointer] },
    { number := 386, name := "__mac_get_proc", params := plainParams [.pointer] },
    { number := 387, name := "__mac_set_proc", params := plainParams [.pointer] },
    { number := 390, name := "__mac_get_pid", params := plainParams [.int, .pointer] },
    { number := 457, name := "sfi_pidctl", params := plainParams [.unsigned, .int, .unsigned] },
    { number := 458, name := "coalition", params := plainParams [.unsigned, .pointer,
      .unsigned] },
    { number := 459, name := "coalition_info", params := plainParams [.unsigned, .pointer,
      .pointer, .unsigned] },
    { number := 494, name := "persona", params := plainParams [.unsigned, .unsigned, .pointer,
      .pointer, .unsigned, .pointer] },
    { number := 515, name := "ulock_wait", params := plainParams [.unsigned, .pointer,
      .unsigned, .unsigned] },
    { number := 532, name := "coalition_ledger", params := plainParams [.unsigned, .unsigned,
      .pointer, .unsigned] },
    { number := 538, name := "task_inspect_for_pid", params := plainParams [.int, .int,
      .unsigned] },
    { number := 544, name := "ulock_wait2", params := plainParams [.unsigned, .pointer,
      .unsigned, .unsigned, .unsigned] },
    { number := 556, name := "coalition_policy_set", params := plainParams [.unsigned,
      .unsigned, .pointer, .unsigned] },
    { number := 557, name := "coalition_policy_get", params := plainParams [.unsigned,
      .unsigned, .pointer, .unsigned] }]

def memorySyscalls : List SyscallDef :=
  [{ number := 73, name := "munmap", params := plainParams [.pointer, .unsigned] },
    { number := 74, name := "mprotect", params := plainParams [.pointer, .unsigned,
      .flags protFlags] },
    { number := 75, name := "madvise", params := plainParams [.pointer, .unsigned,
      .const madvConstants] },
    { number := 78, name := "mincore", params := plainParams [.pointer, .unsigned, .pointer] },
    { number := 197, name := "mmap", params := plainParams [.pointer, .unsigned,
      .flags protFlags, .flags mapFlags, .fileDescriptor, .unsigned] },
    { number := 203, name := "mlock", params := plainParams [.pointer, .unsigned] },
    { number := 204, name := "munlock", params := plainParams [.pointer, .unsigned] },
    { number := 250, name := "minherit", params := plainParams [.pointer, .unsigned,
      .const vmInheritConstants] },
    { number := 294, name := "shared_region_check_np", params := plainParams [.pointer] },
    { number := 296, name := "vm_pressure_monitor", params := plainParams [.int, .int,
      .pointer] },
    { number := 324, name := "mlockall", params := plainParams [.flags mclFlags] },
    { number := 325, name := "munlockall", params := plainParams [] },
    { number := 536, name := "shared_region_map_and_slide_2_np",
      params := plainParams [.unsigned, .unsigned, .pointer, .unsigned, .pointer, .unsigned] },
    { number := 65, name := "msync", params := plainParams [.pointer, .unsigned,
      .flags msyncFlags] },
    { number := 489, name := "mremap_encrypted", params := plainParams [.pointer, .unsigned,
      .unsigned, .unsigned, .unsigned] }]

def signalSyscalls : List SyscallDef :=
  [{ number := 37, name := "kill", params := plainParams [.int, .const signalNumbers] },
    { number := 46, name := "sigaction", params := plainParams [.const signalNumbers,
      .struct sigactionSpec .in, .struct sigactionSpec .out] },
    { number := 52, name := "sigpending", params := plainParams [.sigset .out] },
    { number := 53, name := "sigaltstack", params := plainParams [.struct stackSpec .in,
      .struct stackSpec .out] },
    { number := 111, name := "sigsuspend", params := plainParams [.sigset .in] },
    { number := 328, name := "pthread_kill", params := plainParams [.pointer,
      .const signalNumbers] },
    { number := 329, name := "pthread_sigmask", params := plainParams [.const sigHow,
      .sigset .in, .sigset .out] },
    { number := 48, name := "sigprocmask", params := plainParams [.const sigHow, .sigset .in,
      .sigset .out] },
    { number := 330, name := "sigwait", params := plainParams [.sigset .in, .intPtr .out] }]

def threadSyscalls : List SyscallDef :=
  [{ number := 333, name := "__pthread_canceled", params := plainParams [.int] },
    { number := 332, name := "__pthread_markcancel", params := plainParams [.int] },
    { number := 348, name := "__pthread_chdir", params := plainParams [.string] },
    { number := 349, name := "__pthread_fchdir", params := plainParams [.int] },
    { number := 360, name := "bsdthread_create", params := plainParams [.pointer, .pointer,
      .pointer, .pointer, .unsigned] },
    { number := 361, name := "bsdthread_terminate", params := plainParams [.pointer, .unsigned,
      .unsigned, .unsigned] },
    { number := 366, name := "bsdthread_register", params := plainParams [.pointer, .pointer,
      .int] },
    { number := 478, name := "bsdthread_ctl", params := plainParams [.pointer, .unsigned,
      .pointer, .pointer] },
    { number := 482, name := "thread_selfusage", params := plainParams [] },
    { number := 372, name := "thread_selfid", params := plainParams [] }]

def timeSyscalls : List SyscallDef :=
  [{ number := 83, name := "setitimer", params := plainParams [.const itimerConstants,
      .pointer, .pointer] },
    { number := 86, name := "getitimer", params := plainParams [.const itimerConstants,
      .pointer] },
    { number := 116, name := "gettimeofday", params := plainParams [.pointer, .pointer] },
    { number := 122, name := "settimeofday", params := plainParams [.pointer, .pointer] },
    { number := 138, name := "utimes", params := plainParams [.string, .pointer] },
    { number := 139, name := "futimes", params := plainParams [.int, .pointer] },
    { number := 140, name := "adjtime", params := plainParams [.pointer, .pointer] }]

end StraceMacos
