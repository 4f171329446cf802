import Mathlib.Data.List.AList
import StraceMacos.Decoding

/-!
# The tracer

`tracer.py`: the state of a `Tracer` and the handling of process stops. Three components of the
state are not attributes of the Python object: `created` and `written` count the event objects and
record the calls of `_write_event`, and `target` holds the breakpoints that the tracer has set.
-/

namespace StraceMacos

/-! ## Filters -/

/-- `filtered_syscalls` and `filter_category`. -/
structure Filter where
  filteredSyscalls : Option (List String) := none
  filterCategory : Option SyscallCategory := none
  deriving DecidableEq, Repr

/-- No filter: everything is traced. -/
def Filter.all : Filter := {}

/-- The `category_map` of `_parse_filter`. -/
def categoryMap : List (String × SyscallCategory) :=
  [("file", .file), ("network", .network), ("process", .process), ("memory", .memory),
    ("signal", .signal), ("ipc", .ipc), ("thread", .thread), ("time", .time),
    ("sysinfo", .sysinfo), ("security", .security), ("debug", .debug), ("misc", .misc)]

/-- `_parse_filter`; an expression without the prefix is rejected with this message. -/
def parseFilter (filterExpr : String) : Except String Filter :=
  if Text.startsWith filterExpr "trace=" then
    let value := String.ofList (filterExpr.toList.drop 6)
    match categoryMap.lookup value with
    | some category => .ok { filterCategory := some category }
    | none => .ok { filteredSyscalls := some (Text.split ',' value) }
  else .error ("Invalid filter expression: " ++ filterExpr)

/-- `_should_trace_syscall` -/
def Filter.shouldTraceSyscall (filter : Filter) (registry : SyscallRegistry)
    (syscallName : String) : Bool :=
  match filter.filterCategory, filter.filteredSyscalls with
  | some category, _ => registry.getCategory syscallName == some category
  | none, some names => names.contains syscallName
  | none, none => true

/-! ## State -/

/-- The key of a pending event: thread identifier and return address. -/
abbrev PendingKey := Nat × Nat

/-- `pending_syscalls` -/
abbrev Pending := AList fun _ : PendingKey => SyscallEvent

/-- The breakpoints set by the tracer: by function name at the start, and one-shot ones at return
addresses. -/
structure Target where
  entries : List String
  oneShots : List Nat
  deriving DecidableEq, Repr

/-- The arguments of `Tracer(…)`, and whether the output is a terminal. -/
structure Options where
  arch : Architecture
  noAbbrev : Bool := false
  summaryOnly : Bool := false
  jsonOutput : Bool := false
  isatty : Bool := false
  deriving DecidableEq, Repr

structure Tracer where
  options : Options
  registry : SyscallRegistry
  filter : Filter
  summary : SummaryStats
  output : List OutputLine
  pendingSyscalls : Pending
  decoder : DecoderState
  target : Target
  created : Nat
  written : List SyscallEvent

/-- `_open_output` -/
def Options.formatter (options : Options) : OutputFormat :=
  if options.jsonOutput then .json else if options.isatty then .color else .text

/-- The names at which `_set_syscall_breakpoints` creates breakpoints. -/
def syscallBreakpoints (registry : SyscallRegistry) : List String :=
  registry.getAllSyscalls.map SyscallDef.name

namespace Tracer

/-- The tracer when `_trace_loop` begins: after `__post_init__`, `_open_output`,
`_set_syscall_breakpoints` and the creation of the decode context, whose first list is empty. -/
def init (options : Options) (filter : Filter) : Tracer where
  options := options
  registry := SyscallRegistry.init
  filter := filter
  summary := .empty
  output := []
  pendingSyscalls := ∅
  decoder :=
    { noAbbrev := options.noAbbrev, ctx := some { allArgs := ⟨0, []⟩ }, caches := ⟨[], []⟩ }
  target := ⟨syscallBreakpoints SyscallRegistry.init, []⟩
  created := 0
  written := []

def shouldTraceSyscall (t : Tracer) (syscallName : String) : Bool :=
  t.filter.shouldTraceSyscall t.registry syscallName

/-- `_write_event` -/
def writeEvent (t : Tracer) (event : SyscallEvent) : Tracer :=
  { t with
    summary := addEvent t.summary event
    output := if t.options.summaryOnly then t.output
      else t.output ++ [t.options.formatter.format event]
    written := t.written ++ [event] }

/-! ## Stops -/

/-- `any(key[0] == thread_id for key in self.pending_syscalls)` -/
def threadHasPending (t : Tracer) (threadId : Nat) : Bool :=
  t.pendingSyscalls.keys.any fun key => key.1 == threadId

/-- The wrapper of a call has been traced already: the function is an `__implementation` and its
thread has something pending. -/
def isDuplicate (t : Tracer) (threadId : Nat) (functionName : String) (syscallDef : SyscallDef) :
    Bool :=
  Text.startsWith functionName "__" && ! Text.startsWith syscallDef.name "__" &&
    t.threadHasPending threadId

/-- The checks of `_handle_stop` on the function name: the name of the syscall whose entry the stop
is taken for. -/
def entryName (t : Tracer) (threadId : Nat) (functionName : Option String) : Option String :=
  match functionName with
  | none => none
  | some functionName =>
    if functionName = "" then none
    else
      let syscallName := Text.lstrip '_' functionName
      match t.registry.lookupByName syscallName with
      | none => none
      | some syscallDef =>
        if t.isDuplicate threadId functionName syscallDef then none
        else if t.shouldTraceSyscall syscallName then some syscallName
        else none

/-- The event of an entry stop, before its return value is known. -/
def entryEvent (t : Tracer) (stop : Stop) (syscallName : String) (args : List SyscallArg)
    (rawArgs : PyList) : SyscallEvent where
  pid := stop.pid
  syscallName := syscallName
  args := args
  returnValue := .str "?"
  timestamp := stop.time
  rawArgs := rawArgs
  serial := t.created

/-- The end of `_handle_syscall_entry` without a return address: the event is written at once. -/
def report (t : Tracer) (decoder : DecoderState) (event : SyscallEvent) : Tracer :=
  { t with decoder := decoder, created := t.created + 1 }.writeEvent event

/-- The end of `_handle_syscall_entry` with a return address: a one-shot breakpoint is set there and
the event is stored under its key. -/
def record (t : Tracer) (decoder : DecoderState) (key : PendingKey) (event : SyscallEvent) :
    Tracer :=
  { t with
    decoder := decoder
    created := t.created + 1
    target := { t.target with oneShots := t.target.oneShots ++ [key.2] }
    pendingSyscalls := t.pendingSyscalls.insert key event }

/-- `_handle_syscall_entry` -/
def handleSyscallEntry (t : Tracer) (stop : Stop) (frame : Frame) (threadId : Nat)
    (syscallName : String) : Except PyError Tracer := do
  let (args, rawArgs, decoder) ← extractArgs t.registry t.options.arch frame stop.process
    stop.listId syscallName t.decoder
  let event := t.entryEvent stop syscallName args rawArgs
  match t.options.arch.getReturnAddress frame stop.process with
  | none => return t.report decoder event
  | some returnAddress => return t.record decoder (threadId, returnAddress) event

/-- The pending event with its return value and, after success, its output parameters. -/
def completeEvent (t : Tracer) (stop : Stop) (frame : Frame) (event : SyscallEvent) :
    Except PyError (SyscallEvent × DecoderState) :=
  let returnValue := decodeReturnValue t.registry t.options.arch t.options.noAbbrev frame event
  let event := { event with returnValue := returnValue }
  if returnValue.int?.any (0 ≤ ·) then
    match t.registry.lookupByName event.syscallName with
    | none => .ok (event, t.decoder)
    | some syscallDef => decodeParamsAtExit stop.process event syscallDef.params t.decoder
  else .ok (event, t.decoder)

/-- The event popped from its key and written. -/
def settle (t : Tracer) (decoder : DecoderState) (key : PendingKey) (event : SyscallEvent) :
    Tracer :=
  { t with
    decoder := decoder
    pendingSyscalls := t.pendingSyscalls.erase key }.writeEvent event

/-- `_handle_syscall_return` of the event that is pending at the key. -/
def handleSyscallReturn (t : Tracer) (stop : Stop) (frame : Frame) (key : PendingKey)
    (event : SyscallEvent) : Except PyError Tracer := do
  let (event, decoder) ← t.completeEvent stop frame event
  return t.settle decoder key event

/-- `_handle_stop` -/
def handleStop (t : Tracer) (stop : Stop) : Except PyError Tracer :=
  match stop.threadId, stop.frame with
  | some threadId, some frame =>
    match t.pendingSyscalls.lookup (threadId, frame.pc) with
    | some event => t.handleSyscallReturn stop frame (threadId, frame.pc) event
    | none =>
      match t.entryName threadId frame.functionName with
      | some syscallName => t.handleSyscallEntry stop frame threadId syscallName
      | none => .ok t
  | _, _ => .ok t

/-- The stops handled one after the other. -/
def run (t : Tracer) (stops : List Stop) : Except PyError Tracer :=
  stops.foldlM handleStop t

/-! ## The trace loop -/

end Tracer

/-- What one iteration of `_trace_loop` finds: `self.interrupted` and the state of the process. -/
inductive ProcessState where
  | exited (status : Int)
  | stopped (stop : Stop)
  | crashed
  | detached
  | unloaded
  /-- Any other state: the loop sleeps and looks again. -/
  | other

structure Poll where
  interrupted : Bool
  state : ProcessState

namespace Tracer

/-- `_trace_loop` over the iterations that it makes, with its exit code; `none` while the loop has
not ended. -/
def traceLoop (t : Tracer) : List Poll → Except PyError (Tracer × Option Int)
  | [] => .ok (t, none)
  | poll :: polls =>
    if poll.interrupted then .ok (t, some 0)
    else match poll.state with
      | .exited status => .ok (t, some status)
      | .stopped stop => do
        let t ← t.handleStop stop
        t.traceLoop polls
      | .crashed | .detached | .unloaded => .ok (t, some 1)
      | .other => t.traceLoop polls

/-- The end of `spawn` and of `attach`: the summary is printed if it was asked for. -/
def finish (percent : Nat → Nat → String) (t : Tracer) : Tracer :=
  if t.options.summaryOnly then
    { t with output := t.output ++ [.text (formatSummary percent t.summary)] }
  else t

end Tracer

end StraceMacos
