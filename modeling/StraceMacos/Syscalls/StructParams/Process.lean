import StraceMacos.Syscalls.Definitions.Struct
import StraceMacos.Syscalls.Symbols.Process

/-!
# Structures of the process, signal and time calls

`process_structs.py`, `signal_structs.py`, `sigevent.py` and the time structures of
`event_structs.py`.
-/

namespace StraceMacos

open CStruct

/-! ## Limits and usage -/

/-- `RlimitParam._decode_rlim`; `RLIM_INFINITY` is `(1 << 63) - 1`. -/
def decodeRlim (value : Int) (_noAbbrev : Bool) : String :=
  if value = 0x7fffffffffffffff then "RLIM_INFINITY" else toString value

def rlimitSpec : StructSpec where
  fields := [⟨"rlim_cur", u64⟩, ⟨"rlim_max", u64⟩]
  formatters := [("rlim_cur", .onInt decodeRlim), ("rlim_max", .onInt decodeRlim)]
  formatters_kind := by decide

def decodeTimeSec (value : Int) (_noAbbrev : Bool) : String :=
  toString value ++ "s"

def decodeTimeUsec (value : Int) (_noAbbrev : Bool) : String :=
  toString value ++ "µs"

def rusageSpec : StructSpec where
  fields := [⟨"ru_utime_sec", i64⟩, ⟨"ru_utime_usec", i32⟩, ⟨"_padding1", i32⟩,
    ⟨"ru_stime_sec", i64⟩, ⟨"ru_stime_usec", i32⟩, ⟨"_padding2", i32⟩, ⟨"ru_maxrss", i64⟩,
    ⟨"ru_ixrss", i64⟩, ⟨"ru_idrss", i64⟩, ⟨"ru_isrss", i64⟩, ⟨"ru_minflt", i64⟩,
    ⟨"ru_majflt", i64⟩, ⟨"ru_nswap", i64⟩, ⟨"ru_inblock", i64⟩, ⟨"ru_oublock", i64⟩,
    ⟨"ru_msgsnd", i64⟩, ⟨"ru_msgrcv", i64⟩, ⟨"ru_nsignals", i64⟩, ⟨"ru_nvcsw", i64⟩,
    ⟨"ru_nivcsw", i64⟩]
  excluded := ["_padding1", "_padding2"]
  formatters := [("ru_utime_sec", .onInt decodeTimeSec), ("ru_utime_usec", .onInt decodeTimeUsec),
    ("ru_stime_sec", .onInt decodeTimeSec), ("ru_stime_usec", .onInt decodeTimeUsec)]
  formatters_kind := by decide

/-! ## Signals -/

/-- The names of the signals in a mask, in the order of their numbers. -/
def signalNames (value : Int) : List String :=
  (signalNumbers.sorted.filter fun (signum, _) =>
    Text.band value (2 ^ (signum - 1).toNat) ≠ 0).map Prod.snd

/-- `SigactionParam._decode_handler` -/
def decodeHandler (value : Option Nat) (_noAbbrev : Bool) : String :=
  match value with
  | none | some 0 => "SIG_DFL"
  | some 1 => "SIG_IGN"
  | some a => Text.hex0x a

/-- `SigactionParam._decode_sigset` -/
def decodeSigset (value : Int) (_noAbbrev : Bool) : String :=
  if value = 0 then "[]"
  else
    let signals := signalNames value
    if signals.isEmpty then hexFormat value else "[" ++ Text.join "|" signals ++ "]"

/-- `_decode_sa_flags` and `_decode_ss_flags`, each over its table -/
def decodeSortedFlags (table : SymbolTable) (value : Int) (_noAbbrev : Bool) : String :=
  if value = 0 then "0" else joinOr (table.sorted.names value) (hexFormat value)

def sigactionSpec : StructSpec where
  fields := [⟨"sa_handler", .voidPtr⟩, ⟨"sa_mask", u32⟩, ⟨"sa_flags", i32⟩]
  formatters := [("sa_handler", .onPtr decodeHandler), ("sa_mask", .onInt decodeSigset),
    ("sa_flags", .onInt (decodeSortedFlags saFlags))]
  formatters_kind := by decide

/-- `StackParam._decode_pointer` -/
def decodeStackPointer (value : Option Nat) (_noAbbrev : Bool) : String :=
  match value with
  | none | some 0 => "NULL"
  | some a => Text.hex0x a

/-- `StackParam._decode_size` -/
def decodeStackSize (value : Int) (_noAbbrev : Bool) : String :=
  if value = 131072 then "SIGSTKSZ" else toString value

def stackSpec : StructSpec where
  fields := [⟨"ss_sp", .voidPtr⟩, ⟨"ss_size", u64⟩, ⟨"ss_flags", i32⟩]
  formatters := [("ss_sp", .onPtr decodeStackPointer), ("ss_size", .onInt decodeStackSize),
    ("ss_flags", .onInt (decodeSortedFlags ssFlags))]
  formatters_kind := by decide

/-- `SigsetParam.decode`; the mask has 32 bits, in the byte order of the target. -/
def decodeSigsetParam (direction : ParamDirection) (ctx : DecodeContext) : Decoded :=
  directed direction ctx <|
    match ctx.process.readMemory ctx.rawValue 4 with
    | none => .ok (some (.pointer ctx.rawValue))
    | some data =>
      let value := Bytes.toNat .little data
      let signals := signalNames value
      let signalsStr :=
        if value = 0 then "[]"
        else if signals.isEmpty then "[" ++ Text.hex0x value ++ "]"
        else "[" ++ Text.join "|" signals ++ "]"
      .ok (some (.string signalsStr))

def sigevNotify : SymbolTable :=
  [(0, "SIGEV_NONE"), (1, "SIGEV_SIGNAL"), (3, "SIGEV_THREAD")]

/-- `SigeventParam._decode_notify` -/
def decodeNotify (notify : Int) (noAbbrev : Bool) : String :=
  if noAbbrev then toString notify else sigevNotify.get notify (toString notify)

def sigeventSpec : StructSpec where
  fields := [⟨"sigev_notify", i32⟩, ⟨"sigev_signo", i32⟩, ⟨"sigev_value_int", i32⟩,
    ⟨"sigev_value_ptr", .voidPtr⟩, ⟨"sigev_notify_function", .voidPtr⟩,
    ⟨"sigev_notify_attributes", .voidPtr⟩]
  excluded := ["sigev_notify_function", "sigev_notify_attributes", "sigev_value_int"]
  formatters := [("sigev_notify", .onInt decodeNotify)]
  formatters_kind := by decide

/-! ## Times -/

/-- `TimespecParam` of `event_structs.py`, whose direction is always `IN` -/
def timespecSpec : StructSpec where
  fields := [⟨"tv_sec", i64⟩, ⟨"tv_nsec", i64⟩]
  formatters_kind := by decide

/-- `TimevalParam`, whose direction is always `IN` -/
def timevalSpec : StructSpec where
  fields := [⟨"tv_sec", i64⟩, ⟨"tv_usec", i32⟩]
  formatters_kind := by decide

theorem decodeSigsetParam_ok (direction : ParamDirection) (ctx : DecodeContext) :
    ∃ r, decodeSigsetParam direction ctx = .ok r := by
  unfold decodeSigsetParam
  rw [directed_ok_iff]
  rintro -
  cases ctx.process.readMemory ctx.rawValue 4 <;> exact ⟨_, rfl⟩

end StraceMacos
