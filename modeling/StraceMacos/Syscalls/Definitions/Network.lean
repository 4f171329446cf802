import StraceMacos.Syscalls.Definitions.Param

/-!
# Network calls

`definitions/network.py`
-/

namespace StraceMacos

def networkSyscalls : List SyscallDef :=
  [{ number := 27, name := "recvmsg", params := plainParams [.fileDescriptor, .msghdr .out,
      .flags msgFlags] },
    { number := 28, name := "sendmsg", params := plainParams [.fileDescriptor, .msghdr .in,
      .flags msgFlags] },
    { number := 29, name := "recvfrom", params := plainParams [.fileDescriptor, .buffer 2 .out,
      .unsigned, .flags msgFlags, .sockaddr .out, .intPtr .out] },
    { number := 30, name := "accept", params := plainParams [.fileDescriptor, .sockaddr .out,
      .intPtr .out] },
    { number := 31, name := "getpeername", params := plainParams [.fileDescriptor,
      .sockaddr .out, .intPtr .out] },
    { number := 32, name := "getsockname", params := plainParams [.fileDescriptor,
      .sockaddr .out, .intPtr .out] },
    { number := 97, name := "socket", params := plainParams [.const afConstants,
      .const sockConstants, .const ipprotoConstants] },
    { number := 98, name := "connect", params := plainParams [.fileDescriptor, .sockaddr .in,
      .unsigned] },
    { number := 104, name := "bind", params := plainParams [.fileDescriptor, .sockaddr .in,
      .unsigned] },
    { number := 105, name := "setsockopt", params := plainParams [.fileDescriptor,
      .const solConstants, .const soOptions, .buffer 4 .in, .unsigned] },
    { number := 106, name := "listen", params := plainParams [.fileDescriptor, .int] },
    { number := 118, name := "getsockopt", params := plainParams [.fileDescriptor,
      .const solConstants, .const soOptions, .pointer, .intPtr .out] },
    { number := 133, name := "sendto", params := plainParams [.fileDescriptor, .buffer 2 .in,
      .unsigned, .flags msgFlags, .sockaddr .in, .unsigned] },
    { number := 134, name := "shutdown", params := plainParams [.fileDescriptor,
      .const shutConstants] },
    { number := 135, name := "socketpair", params := plainParams [.const afConstants,
      .const sockConstants, .const ipprotoConstants, .intArray (.inl 2) .out] },
    { number := 436, name := "pid_shutdown_sockets", params := plainParams [.int, .int] },
    { number := 447, name := "connectx", params := plainParams [.fileDescriptor, .pointer,
      .unsigned, .pointer, .unsigned, .unsigned, .pointer, .pointer] },
    { number := 448, name := "disconnectx", params := plainParams [.fileDescriptor, .unsigned,
      .unsigned] },
    { number := 449, name := "peeloff", params := plainParams [.fileDescriptor, .unsigned] },
    { number := 450, name := "socket_delegate", params := plainParams [.const afConstants,
      .const sockConstants, .const ipprotoConstants, .int] },
    { number := 460, name := "necp_match_policy", params := plainParams [.pointer, .unsigned,
      .pointer] },
    { number := 480, name := "recvmsg_x", params := plainParams [.fileDescriptor, .pointer,
      .unsigned, .flags msgFlags] },
    { number := 481, name := "sendmsg_x", params := plainParams [.fileDescriptor, .pointer,
      .unsigned, .flags msgFlags] },
    { number := 490, name := "netagent_trigger", params := plainParams [.pointer, .unsigned] },
    { number := 502, name := "necp_client_action", params := plainParams [.int, .unsigned,
      .pointer, .unsigned, .pointer, .unsigned] },
    { number := 523, name := "necp_session_action", params := plainParams [.int, .unsigned,
      .pointer, .unsigned] },
    { number := 525, name := "net_qos_guideline", params := plainParams [.pointer, .pointer] }]

end StraceMacos
