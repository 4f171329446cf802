import StraceMacos.Tracer

/-!
# Threads and breakpoints

The traced process as the debugger runs it. A thread that reaches an address stops there if a
breakpoint is set at it. Breakpoints belong to no thread, and all one-shot breakpoints at an address
are removed when a thread reaches it. The calls in progress are known to the process and not to the
tracer, which sees only the stops.
-/

namespace StraceMacos

/-- A thread that stands at an address. -/
structure Arrival where
  stop : Stop
  tid : Nat
  frame : Frame
  thread_eq : stop.threadId = some tid
  frame_eq : stop.frame = some frame

/-- What happens in the process. -/
inductive Move where
  /-- A thread reaches an address; `atEntry` says whether a breakpoint of a syscall is set there. -/
  | reach (arrival : Arrival) (atEntry : Bool)
  /-- The process stops for another reason than a breakpoint. -/
  | interrupt (stop : Stop)

namespace Move

/-- The stop that the tracer sees, if it sees one. -/
def stop : Move → Stop
  | .reach arrival _ => arrival.stop
  | .interrupt stop => stop

/-- The key of a call that may return in the move. -/
def returnKey : Move → Option PendingKey
  | .reach arrival _ => some (arrival.tid, arrival.frame.pc)
  | .interrupt _ => none

/-- The move may take away the pending event or the breakpoint of a call with this key: a breakpoint
is lost whichever thread reaches it, an event only if its own thread stops there. -/
def touches (key : PendingKey) : Move → Bool
  | .reach arrival _ => arrival.frame.pc = key.2
  | .interrupt stop => stop.threadId = some key.1 ∧ stop.frame.map Frame.pc = some key.2

end Move

namespace Tracer

/-- Whether the process stops in the move. -/
def stopsAt (t : Tracer) : Move → Bool
  | .reach arrival atEntry => atEntry || t.target.oneShots.contains arrival.frame.pc
  | .interrupt _ => true

/-- The breakpoints that are left when the process stops. -/
def disarm (t : Tracer) : Move → Tracer
  | .reach arrival _ =>
    { t with target :=
        { t.target with oneShots := t.target.oneShots.filter (· ≠ arrival.frame.pc) } }
  | .interrupt _ => t

/-- The debugger and the tracer in one move. -/
def move (t : Tracer) (m : Move) : Except PyError Tracer :=
  if t.stopsAt m then (t.disarm m).handleStop m.stop else .ok t

end Tracer

/-! ## Calls in progress -/

/-- A call whose event the tracer has stored: the number of the event and its key. -/
structure Activation where
  serial : Nat
  key : PendingKey
  deriving DecidableEq, Repr

/-- A call that has reached its return address, and its frame there. -/
structure Completion where
  serial : Nat
  frame : Frame

/-- The tracer, the stored calls that are in progress and those that have returned. -/
structure System where
  tracer : Tracer
  active : List Activation
  returned : List Completion

/-- What happens to the calls: in a move the call `own` may return, and a call may be left without a
return, by a jump out of it or with its thread. -/
inductive Action where
  | move (m : Move) (own : Option Nat)
  | unwind (serial : Nat)

/-- The calls that were stored between two states of the tracer. -/
def Tracer.storedSince (t t' : Tracer) : List Activation :=
  (t'.pendingSyscalls.entries.filter fun e => t.created ≤ e.2.serial).map fun e =>
    ⟨e.2.serial, e.1⟩

namespace System

def init (options : Options) (filter : Filter) : System :=
  ⟨.init options filter, [], []⟩

/-- The activation that returns in the move. -/
def returning (s : System) (m : Move) (own : Option Nat) : Option Activation :=
  s.active.find? fun a => own = some a.serial ∧ m.returnKey = some a.key

/-- The call that returns is no longer active. -/
def leave (s : System) (m : Move) (own : Option Nat) : System :=
  match m, s.returning m own with
  | .reach arrival _, some a =>
    { s with
      active := s.active.filter (· ≠ a)
      returned := s.returned ++ [⟨a.serial, arrival.frame⟩] }
  | _, _ => s

/-- The tracer makes its part of the move. -/
def advance (s : System) (m : Move) : Except PyError System := do
  let t ← s.tracer.move m
  return { s with tracer := t, active := s.active ++ s.tracer.storedSince t }

def step (s : System) : Action → Except PyError System
  | .move m own => (s.leave m own).advance m
  | .unwind serial => .ok { s with active := s.active.filter fun a => a.serial ≠ serial }

end System

end StraceMacos
