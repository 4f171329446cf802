import StraceMacos.Syscalls.Definitions.Param

/-!
# Inter-process communication calls

`definitions/ipc.py`
-/

namespace StraceMacos

def ipcSyscalls : List SyscallDef :=
  [{ number := 93, name := "select", params := plainParams [.int, .fdSet, .fdSet, .fdSet,
      .struct timevalSpec .in] },
    { number := 230, name := "poll", params := plainParams [.pollfd 1, .unsigned, .int] },
    { number := 394, name := "pselect", params := plainParams [.int, .fdSet, .fdSet, .fdSet,
      .struct timespecSpec .in, .pointer] },
    { number := 251, name := "semsys", params := plainParams [.int, .int, .int, .int, .int] },
    { number := 252, name := "msgsys", params := plainParams [.int, .int, .int, .int, .int] },
    { number := 253, name := "shmsys", params := plainParams [.int, .int, .int, .int] },
    { number := 254, name := "semctl", params := plainParams [.int, .int, .const semctlCommands,
      .struct semidDsSpec .out], variadicStart := some 3 },
    { number := 255, name := "semget", params := plainParams [.int, .int,
      .custom decodeIpcFlags] },
    { number := 256, name := "semop", params := plainParams [.int, .pointer, .unsigned] },
    { number := 258, name := "msgctl", params := plainParams [.int, .const ipcCommands,
      .struct msqidDsSpec .out] },
    { number := 259, name := "msgget", params := plainParams [.int, .custom decodeIpcFlags] },
    { number := 260, name := "msgsnd", params := plainParams [.int, .pointer, .unsigned,
      .flags msgrcvFlags] },
    { number := 261, name := "msgrcv", params := plainParams [.int, .pointer, .unsigned, .int,
      .flags msgrcvFlags] },
    { number := 262, name := "shmat", params := plainParams [.int, .pointer, .flags shmFlags] },
    { number := 263, name := "shmctl", params := plainParams [.int, .const ipcCommands,
      .struct shmidDsSpec .out] },
    { number := 264, name := "shmdt", params := plainParams [.pointer] },
    { number := 265, name := "shmget", params := plainParams [.int, .unsigned,
      .custom decodeIpcFlags] },
    { number := 271, name := "sem_wait", params := plainParams [.pointer] },
    { number := 272, name := "sem_trywait", params := plainParams [.pointer] },
    { number := 273, name := "sem_post", params := plainParams [.pointer] },
    { number := 314, name := "aio_return", params := plainParams [.struct aiocbSpec .in] },
    { number := 315, name := "aio_suspend", params := plainParams [.aiocbArray 1 .in, .int,
      .pointer] },
    { number := 316, name := "aio_cancel", params := plainParams [.fileDescriptor,
      .struct aiocbSpec .in] },
    { number := 317, name := "aio_error", params := plainParams [.struct aiocbSpec .in] },
    { number := 320, name := "lio_listio", params := plainParams [.const lioModes,
      .aiocbArray 2 .in, .int, .struct sigeventSpec .in] },
    { number := 362, name := "kqueue", params := plainParams [] },
    { number := 363, name := "kevent", params := plainParams [.fileDescriptor, .kevent 2 .in,
      .int, .kevent 4 .out, .int, .struct timespecSpec .in] },
    { number := 369, name := "kevent64", params := plainParams [.fileDescriptor,
      .kevent64 2 .in, .int, .kevent64 4 .out, .int, .unsigned, .struct timespecSpec .in] },
    { number := 374, name := "kevent_qos", params := plainParams [.int, .pointer, .int,
      .pointer, .int, .pointer, .pointer, .unsigned] },
    { number := 375, name := "kevent_id", params := plainParams [.unsigned, .pointer, .int,
      .pointer, .int, .pointer, .pointer, .unsigned] },
    { number := 306, name := "psynch_rw_rdlock", params := plainParams [.pointer, .unsigned,
      .unsigned, .unsigned, .int] },
    { number := 307, name := "psynch_rw_wrlock", params := plainParams [.pointer, .unsigned,
      .unsigned, .unsigned, .int] },
    { number := 308, name := "psynch_rw_unlock", params := plainParams [.pointer, .unsigned,
      .unsigned, .unsigned, .int] },
    { number := 305, name := "psynch_cvwait", params := plainParams [.pointer, .unsigned,
      .unsigned, .pointer, .unsigned, .unsigned, .unsigned, .unsigned] },
    { number := 303, name := "psynch_cvbroad", params := plainParams [.pointer, .unsigned,
      .unsigned, .pointer, .unsigned, .unsigned, .unsigned, .unsigned] },
    { number := 304, name := "psynch_cvsignal", params := plainParams [.pointer, .unsigned,
      .unsigned, .pointer, .unsigned, .unsigned, .unsigned, .unsigned] },
    { number := 301, name := "psynch_mutexwait", params := plainParams [.pointer, .unsigned,
      .unsigned, .unsigned, .unsigned] },
    { number := 302, name := "psynch_mutexdrop", params := plainParams [.pointer, .unsigned,
      .unsigned, .unsigned, .unsigned] },
    { number := 443, name := "guarded_kqueue_np", params := plainParams [.pointer, .int] },
    { number := 516, name := "ulock_wake", params := plainParams [.unsigned, .pointer,
      .unsigned] },
    { number := 530, name := "kqueue_workloop_ctl", params := plainParams [.pointer, .unsigned,
      .pointer, .unsigned] }]

end StraceMacos
