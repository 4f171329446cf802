import StraceMacos.Syscalls.Definitions.Param

/-!
# System information, security and other calls

`definitions/sysinfo.py`, `security.py`, `debug.py` and `misc.py`
-/

namespace StraceMacos

def sysinfoSyscalls : List SyscallDef :=
  [{ number := 89, name := "getdtablesize", params := plainParams [] },
    { number := 142, name := "gethostuuid", params := plainParams [.uuid, .sysinfoTimespec] },
    { number := 202, name := "sysctl", params := plainParams [.sysctlMib, .unsigned,
      .sysctlBuffer, .sysctlSizePointer, .pointer, .unsigned] },
    { number := 274, name := "sysctlbyname", params := plainParams [.sysctlBynameName,
      .sysctlBynameBuffer, .sysctlSizePointer, .pointer, .unsigned] },
    { number := 445, name := "usrctl", params := plainParams [.unsigned] },
    { number := 500, name := "getentropy", params := plainParams [.pointer, .unsigned] }]

def securitySyscalls : List SyscallDef :=
  [{ number := 381, name := "__mac_syscall", params := plainParams [.string, .int, .pointer] },
    { number := 382, name := "__mac_get_file", params := plainParams [.string, .pointer] },
    { number := 383, name := "__mac_set_file", params := plainParams [.string, .pointer] },
    { number := 384, name := "__mac_get_link", params := plainParams [.string, .pointer] },
    { number := 385, name := "__mac_set_link", params := plainParams [.string, .pointer] },
    { number := 388, name := "__mac_get_fd", params := plainParams [.fileDescriptor, .pointer] },
    { number := 389, name := "__mac_set_fd", params := plainParams [.fileDescriptor, .pointer] },
    { number := 424, name := "__mac_mount", params := plainParams [.string, .string, .int,
      .pointer, .pointer] },
    { number := 426, name := "__mac_getfsstat", params := plainParams [.pointer, .int, .int] },
    { number := 169, name := "csops", params := plainParams [.int, .unsigned, .pointer,
      .unsigned] },
    { number := 483, name := "csrctl", params := plainParams [.unsigned, .pointer, .unsigned] }]

def debugSyscalls : List SyscallDef :=
  [{ number := 26, name := "ptrace", params := plainParams [.const ptraceRequests, .int,
      .pointer, .int] },
    { number := 177, name := "kdebug_typefilter", params := plainParams [.pointer, .pointer] },
    { number := 178, name := "kdebug_trace_string", params := plainParams [.unsigned, .unsigned,
      .string] },
    { number := 179, name := "kdebug_trace64", params := plainParams [.unsigned, .unsigned,
      .unsigned, .unsigned, .unsigned] },
    { number := 180, name := "kdebug_trace", params := plainParams [.unsigned, .unsigned,
      .unsigned, .unsigned, .unsigned] },
    { number := 185, name := "panic_with_data", params := plainParams [.pointer, .pointer,
      .unsigned, .unsigned] },
    { number := 492, name := "microstackshot", params := plainParams [.pointer, .unsigned,
      .unsigned] },
    { number := 491, name := "stack_snapshot_with_config", params := plainParams [.int,
      .pointer, .unsigned] },
    { number := 520, name := "terminate_with_payload", params := plainParams [.int, .unsigned,
      .pointer, .unsigned, .pointer, .unsigned, .unsigned] },
    { number := 521, name := "abort_with_payload", params := plainParams [.int, .unsigned,
      .pointer, .unsigned, .pointer, .unsigned, .unsigned] },
    { number := 529, name := "os_fault_with_payload", params := plainParams [.unsigned,
      .pointer, .unsigned, .pointer, .unsigned] },
    { number := 533, name := "log_data", params := plainParams [.unsigned, .unsigned, .pointer,
      .unsigned] },
    { number := 535, name := "objc_bp_assist_cfg_np", params := plainParams [.pointer] },
    { number := 547, name := "debug_syscall_reject", params := plainParams [.pointer] },
    { number := 548, name := "debug_syscall_reject_config", params := plainParams [.pointer,
      .unsigned] }]

def miscSyscalls : List SyscallDef :=
  [{ number := 0, name := "syscall", params := plainParams [.int, .pointer] },
    { number := 38, name := "crossarch_trap", params := plainParams [.unsigned, .unsigned,
      .unsigned, .unsigned] },
    { number := 51, name := "acct", params := plainParams [.string] },
    { number := 55, name := "reboot", params := plainParams [.flags rebootFlags, .string] },
    { number := 85, name := "swapon", params := plainParams [] },
    { number := 493, name := "grab_pgo_data", params := plainParams [.pointer, .int, .pointer,
      .unsigned, .pointer, .pointer] },
    { number := 550, name := "map_with_linking_np", params := plainParams [.pointer, .unsigned,
      .int, .int, .int, .unsigned, .pointer] },
    { number := 430, name := "fileport_makeport", params := plainParams [.fileDescriptor,
      .pointer] },
    { number := 431, name := "fileport_makefd", params := plainParams [.pointer] },
    { number := 501, name := "necp_open", params := plainParams [.int] },
    { number := 446, name := "proc_rlimit_control", params := plainParams [.int, .int,
      .pointer] },
    { number := 170, name := "csops_audittoken", params := plainParams [.int, .unsigned,
      .pointer, .unsigned, .pointer] },
    { number := 186, name := "thread_selfcounts", params := plainParams [.int, .pointer,
      .unsigned] }]

end StraceMacos
