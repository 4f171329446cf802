import StraceMacos.Tracer
import StraceMacos.Library.Fallible
import StraceMacos.Library.Run
import StraceMacos.Library.Ledger

/-!
# What `_handle_stop` does at a stop

A stop is ignored, taken for the return of a pending call, or taken for the entry of a call, which
is then recorded or reported at once. Everything that is proved about the tracer starts from this
case analysis.
-/

namespace StraceMacos

namespace Tracer

open Fallible

variable {t t' : Tracer} {stop : Stop} {tid : Nat} {frame : Frame} {name : String}

/-- The stop is taken for the return of the event that is pending at its thread and address. -/
structure IsReturn (t : Tracer) (stop : Stop) (tid : Nat) (frame : Frame) (event : SyscallEvent) :
    Prop where
  thread : stop.threadId = some tid
  frame_eq : stop.frame = some frame
  pending : t.pendingSyscalls.lookup (tid, frame.pc) = some event

/-- The stop is taken for the entry of a call of `name`. -/
structure IsEntry (t : Tracer) (stop : Stop) (tid : Nat) (frame : Frame) (name : String) :
    Prop where
  thread : stop.threadId = some tid
  frame_eq : stop.frame = some frame
  not_pending : t.pendingSyscalls.lookup (tid, frame.pc) = none
  name_eq : t.entryName tid frame.functionName = some name

/-- The outcome of decoding the arguments of a call of `name` at a stop. -/
def decodeEntry (t : Tracer) (stop : Stop) (frame : Frame) (name : String) :
    Except PyError (List SyscallArg × PyList × DecoderState) :=
  extractArgs t.registry t.options.arch frame stop.process stop.listId name t.decoder

/-- The return address at a stop. -/
def returnAddress (t : Tracer) (stop : Stop) (frame : Frame) : Option Nat :=
  t.options.arch.getReturnAddress frame stop.process

/-- The possible outcomes of a stop. -/
inductive Handles (t : Tracer) (stop : Stop) : Tracer → Prop where
  | ignored (hr : ∀ tid frame event, ¬ t.IsReturn stop tid frame event)
      (he : ∀ tid frame name, ¬ t.IsEntry stop tid frame name) : Handles t stop t
  | returned {tid : Nat} {frame : Frame} {event event' : SyscallEvent} {decoder : DecoderState}
      (hr : t.IsReturn stop tid frame event)
      (hc : t.completeEvent stop frame event = .ok (event', decoder)) :
      Handles t stop (t.settle decoder (tid, frame.pc) event')
  | reported {tid : Nat} {frame : Frame} {name : String} {args : List SyscallArg}
      {rawArgs : PyList} {decoder : DecoderState} (he : t.IsEntry stop tid frame name)
      (hd : t.decodeEntry stop frame name = .ok (args, rawArgs, decoder))
      (hra : t.returnAddress stop frame = none) :
      Handles t stop (t.report decoder (t.entryEvent stop name args rawArgs))
  | recorded {tid : Nat} {frame : Frame} {name : String} {args : List SyscallArg}
      {rawArgs : PyList} {decoder : DecoderState} {address : Nat}
      (he : t.IsEntry stop tid frame name)
      (hd : t.decodeEntry stop frame name = .ok (args, rawArgs, decoder))
      (hra : t.returnAddress stop frame = some address) :
      Handles t stop (t.record decoder (tid, address) (t.entryEvent stop name args rawArgs))

theorem IsReturn.not_isEntry {event : SyscallEvent} {tid' : Nat} {frame' : Frame}
    (hr : t.IsReturn stop tid frame event) : ¬ t.IsEntry stop tid' frame' name := by
  rintro ⟨ht, hf, hn, -⟩
  have hp := hr.pending
  rw [hr.thread] at ht
  rw [hr.frame_eq] at hf
  cases ht
  cases hf
  rw [hn] at hp
  cases hp

theorem IsReturn.unique {event event' : SyscallEvent} {tid' : Nat} {frame' : Frame}
    (h : t.IsReturn stop tid frame event) (h' : t.IsReturn stop tid' frame' event') :
    tid = tid' ∧ frame = frame' ∧ event = event' := by
  obtain ⟨ht, hf, hp⟩ := h
  obtain ⟨ht', hf', hp'⟩ := h'
  cases ht.symm.trans ht'
  cases hf.symm.trans hf'
  exact ⟨rfl, rfl, Option.some.inj (hp.symm.trans hp')⟩

theorem IsEntry.unique {tid' : Nat} {frame' : Frame} {name' : String}
    (h : t.IsEntry stop tid frame name) (h' : t.IsEntry stop tid' frame' name') :
    tid = tid' ∧ frame = frame' ∧ name = name' := by
  obtain ⟨ht, hf, -, hn⟩ := h
  obtain ⟨ht', hf', -, hn'⟩ := h'
  cases ht.symm.trans ht'
  cases hf.symm.trans hf'
  exact ⟨rfl, rfl, Option.some.inj (hn.symm.trans hn')⟩

theorem mem_pending_iff {key : PendingKey} :
    key ∈ t.pendingSyscalls ↔ ∃ event, t.pendingSyscalls.lookup key = some event := by
  rw [← AList.lookup_isSome, Option.isSome_iff_exists]

theorem IsReturn.mem {event : SyscallEvent} (hr : t.IsReturn stop tid frame event) :
    (tid, frame.pc) ∈ t.pendingSyscalls :=
  mem_pending_iff.mpr ⟨event, hr.pending⟩

/-- At a stop that is no return nothing is pending. -/
theorem lookup_eq_none_of_not_isReturn (hr : ∀ tid frame event, ¬ t.IsReturn stop tid frame event)
    (ht : stop.threadId = some tid) (hf : stop.frame = some frame) :
    t.pendingSyscalls.lookup (tid, frame.pc) = none := by
  rw [Option.eq_none_iff_forall_not_mem]
  exact fun event hl => hr tid frame event ⟨ht, hf, hl⟩

/-! ## The equations of `handleStop` -/

theorem handleStop_return {event : SyscallEvent} (hr : t.IsReturn stop tid frame event) :
    t.handleStop stop = t.handleSyscallReturn stop frame (tid, frame.pc) event := by
  unfold handleStop
  rw [hr.thread, hr.frame_eq]
  simp only [hr.pending]

theorem handleStop_entry (he : t.IsEntry stop tid frame name) :
    t.handleStop stop = t.handleSyscallEntry stop frame tid name := by
  unfold handleStop
  rw [he.thread, he.frame_eq]
  simp only [he.not_pending, he.name_eq]

theorem handleStop_ignored (hr : ∀ tid frame event, ¬ t.IsReturn stop tid frame event)
    (he : ∀ tid frame name, ¬ t.IsEntry stop tid frame name) : t.handleStop stop = .ok t := by
  unfold handleStop
  cases ht : stop.threadId with
  | none => rfl
  | some tid =>
    cases hf : stop.frame with
    | none => rfl
    | some frame =>
      cases hp : t.pendingSyscalls.lookup (tid, frame.pc) with
      | some event => exact absurd ⟨ht, hf, hp⟩ (hr tid frame event)
      | none =>
        cases hn : t.entryName tid frame.functionName with
        | none => simp only [hp, hn]
        | some name => exact absurd ⟨ht, hf, hp, hn⟩ (he tid frame name)

/-- The state after the event of an entry has been made. -/
def enter (t : Tracer) (stop : Stop) (frame : Frame) (tid : Nat) (decoder : DecoderState)
    (event : SyscallEvent) : Tracer :=
  match t.returnAddress stop frame with
  | none => t.report decoder event
  | some address => t.record decoder (tid, address) event

theorem handleSyscallEntry_eq (t : Tracer) (stop : Stop) (frame : Frame) (tid : Nat)
    (name : String) :
    t.handleSyscallEntry stop frame tid name =
      (t.decodeEntry stop frame name).map fun (args, rawArgs, decoder) =>
        t.enter stop frame tid decoder (t.entryEvent stop name args rawArgs) := by
  unfold handleSyscallEntry decodeEntry enter returnAddress
  cases extractArgs t.registry t.options.arch frame stop.process stop.listId name t.decoder with
  | error e => rfl
  | ok r =>
    simp only [bind, Except.bind, Except.map]
    cases t.options.arch.getReturnAddress frame stop.process <;> rfl

theorem handleSyscallReturn_eq (t : Tracer) (stop : Stop) (frame : Frame) (key : PendingKey)
    (event : SyscallEvent) :
    t.handleSyscallReturn stop frame key event =
      (t.completeEvent stop frame event).map fun (event, decoder) =>
        t.settle decoder key event := by
  unfold handleSyscallReturn
  cases t.completeEvent stop frame event <;> rfl

/-- Every stop is ignored, a return or an entry. -/
theorem stop_cases (t : Tracer) (stop : Stop) :
    (∃ tid frame event, t.IsReturn stop tid frame event) ∨
    (∃ tid frame name, t.IsEntry stop tid frame name) ∨
    ((∀ tid frame event, ¬ t.IsReturn stop tid frame event) ∧
      ∀ tid frame name, ¬ t.IsEntry stop tid frame name) := by
  by_cases hr : ∃ tid frame event, t.IsReturn stop tid frame event
  · exact .inl hr
  · by_cases he : ∃ tid frame name, t.IsEntry stop tid frame name
    · exact .inr (.inl he)
    · push Not at hr he
      exact .inr (.inr ⟨hr, he⟩)

theorem IsReturn.handled {event : SyscallEvent} (hr : t.IsReturn stop tid frame event)
    (h : t.handleStop stop = .ok t') : ∃ event' decoder,
      t.completeEvent stop frame event = .ok (event', decoder) ∧
      t' = t.settle decoder (tid, frame.pc) event' := by
  rw [handleStop_return hr, handleSyscallReturn_eq] at h
  obtain ⟨⟨event', decoder⟩, hc, rfl⟩ := map_eq_ok.mp h
  exact ⟨event', decoder, hc, rfl⟩

theorem IsEntry.handled (he : t.IsEntry stop tid frame name) (h : t.handleStop stop = .ok t') :
    ∃ args rawArgs decoder, t.decodeEntry stop frame name = .ok (args, rawArgs, decoder) ∧
      t' = t.enter stop frame tid decoder (t.entryEvent stop name args rawArgs) := by
  rw [handleStop_entry he, handleSyscallEntry_eq] at h
  obtain ⟨⟨args, rawArgs, decoder⟩, hd, rfl⟩ := map_eq_ok.mp h
  exact ⟨args, rawArgs, decoder, hd, rfl⟩

/-- **The outcomes of a stop.** -/
theorem handleStop_handles (h : t.handleStop stop = .ok t') : t.Handles stop t' := by
  rcases t.stop_cases stop with ⟨tid, frame, event, hr⟩ | ⟨tid, frame, name, he⟩ | ⟨hr, he⟩
  · obtain ⟨event', decoder, hc, rfl⟩ := hr.handled h
    exact .returned hr hc
  · obtain ⟨args, rawArgs, decoder, hd, rfl⟩ := he.handled h
    unfold enter
    cases hra : t.returnAddress stop frame with
    | none => exact .reported he hd hra
    | some address => exact .recorded he hd hra
  · rw [handleStop_ignored hr he] at h
    cases h
    exact .ignored hr he

/-! ## The name of an entry -/

theorem entryName_eq_some (h : t.entryName tid frame.functionName = some name) :
    ∃ fn d, frame.functionName = some fn ∧ fn ≠ "" ∧ name = Text.lstrip '_' fn ∧
      t.registry.lookupByName name = some d ∧ t.isDuplicate tid fn d = false ∧
      t.shouldTraceSyscall name = true := by
  unfold entryName at h
  cases hfn : frame.functionName with
  | none => rw [hfn] at h; cases h
  | some fn =>
    rw [hfn] at h
    by_cases hempty : fn = ""
    · simp [hempty] at h
    · cases hl : t.registry.lookupByName (Text.lstrip '_' fn) with
      | none => simp [hempty, hl] at h
      | some d =>
        simp only [if_neg hempty, hl] at h
        split_ifs at h with hdup hshould
        cases h
        exact ⟨fn, d, rfl, hempty, rfl, hl, by simpa using hdup, hshould⟩

theorem entryName_of (tid : Nat) {fn : String} {d : SyscallDef} (hfn : frame.functionName = some fn)
    (hempty : fn ≠ "") (hl : t.registry.lookupByName (Text.lstrip '_' fn) = some d) :
    t.entryName tid frame.functionName =
      if t.isDuplicate tid fn d then none
      else if t.shouldTraceSyscall (Text.lstrip '_' fn) then some (Text.lstrip '_' fn)
      else none := by
  unfold entryName
  rw [hfn]
  simp only [hl, if_neg hempty]

theorem threadHasPending_iff : t.threadHasPending tid = true ↔
    ∃ address, (tid, address) ∈ t.pendingSyscalls := by
  unfold threadHasPending
  rw [List.any_eq_true]
  constructor
  · rintro ⟨⟨tid', address⟩, hmem, htid⟩
    obtain rfl : tid' = tid := by simpa using htid
    exact ⟨address, hmem⟩
  · rintro ⟨address, hmem⟩
    exact ⟨(tid, address), hmem, by simp⟩

theorem lookup_eq_none_of_not_threadHasPending (h : t.threadHasPending tid = false) (pc : Nat) :
    t.pendingSyscalls.lookup (tid, pc) = none := by
  rw [AList.lookup_eq_none]
  intro hmem
  rw [threadHasPending_iff.mpr ⟨pc, hmem⟩] at h
  cases h

/-! ## What stays and what changes -/

/-- The parts of a tracer that no stop changes. -/
structure SameConfig (t t' : Tracer) : Prop where
  options : t'.options = t.options
  registry : t'.registry = t.registry
  filter : t'.filter = t.filter
  entries : t'.target.entries = t.target.entries

theorem SameConfig.rfl : SameConfig t t := ⟨.refl _, .refl _, .refl _, .refl _⟩

theorem SameConfig.trans {t'' : Tracer} (h : SameConfig t t') (h' : SameConfig t' t'') :
    SameConfig t t'' :=
  ⟨h'.options.trans h.options, h'.registry.trans h.registry, h'.filter.trans h.filter,
    h'.entries.trans h.entries⟩

theorem Handles.sameConfig (h : t.Handles stop t') : SameConfig t t' := by
  cases h <;> exact ⟨.refl _, .refl _, .refl _, .refl _⟩

theorem Handles.written_isPrefix (h : t.Handles stop t') : t.written <+: t'.written := by
  cases h with
  | ignored => exact List.prefix_rfl
  | returned => exact List.prefix_append _ _
  | reported => exact List.prefix_append _ _
  | recorded => exact List.prefix_rfl

/-- The ledger of the events: those created, pending and written. -/
def ledger (t : Tracer) : Ledger PendingKey SyscallEvent :=
  ⟨t.created, t.pendingSyscalls, t.written⟩

/-- Completing an event sets its return value and may replace arguments; nothing else. -/
theorem completeEvent_eq {event event' : SyscallEvent} {decoder : DecoderState}
    (h : t.completeEvent stop frame event = .ok (event', decoder)) :
    ∃ args, event' = { event with
      returnValue := decodeReturnValue t.registry t.options.arch t.options.noAbbrev frame event
      args := args } := by
  unfold completeEvent at h
  simp only at h
  split_ifs at h with hr
  · cases hl : t.registry.lookupByName event.syscallName with
    | none =>
      rw [hl] at h
      cases h
      exact ⟨event.args, rfl⟩
    | some d =>
      rw [hl] at h
      simp only [decodeParamsAtExit] at h
      cases hd : decodeArgsAtExit stop.process d.params event.rawArgs.vals event.args
          { t.decoder with
            ctx := t.decoder.ctx.map fun shared =>
              { shared with
                allArgs := event.rawArgs
                atEntry := false
                returnValue := some (decodeReturnValue t.registry t.options.arch
                  t.options.noAbbrev frame event) } } with
      | error e => rw [hd] at h; cases h
      | ok r =>
        rw [hd] at h
        cases h
        exact ⟨r.1, rfl⟩
  · cases h
    exact ⟨event.args, rfl⟩

theorem completeEvent_serial {event event' : SyscallEvent} {decoder : DecoderState}
    (h : t.completeEvent stop frame event = .ok (event', decoder)) :
    event'.serial = event.serial := by
  obtain ⟨args, rfl⟩ := completeEvent_eq h
  rfl

/-- **Handling a stop is a step of the ledger of events.** -/
theorem Handles.ledger_step (h : t.Handles stop t') :
    Ledger.Step SyscallEvent.serial t.ledger t'.ledger := by
  cases h with
  | ignored => exact .skip _
  | returned hr hc => exact .settle t.ledger _ _ _ hr.pending (completeEvent_serial hc)
  | reported => exact .report t.ledger _ rfl
  | recorded => exact .record t.ledger _ _ rfl

theorem ledger_init (options : Options) (filter : Filter) :
    (init options filter).ledger = Ledger.empty := rfl

/-! ## Sample stops -/

def sampleFrame (pc : Nat) (functionName : String) (registers : List (String × BitVec 64)) :
    Frame :=
  ⟨some functionName, pc, 0, fun name => registers.lookup name, none⟩

/-- A stop of thread `tid` at the address `pc` of `functionName`, in a process without memory. -/
def sampleStop (tid pc : Nat) (functionName : String) (registers : List (String × BitVec 64)) :
    Stop where
  process := ⟨.empty, .little⟩
  pid := 7
  reason := .breakpoint
  threadId := some tid
  frame := some (sampleFrame pc functionName registers)
  time := 0
  listId := 1

def sampleOptions : Options := { arch := .arm64 }

/-- The options with `--no-abbrev`. -/
def plainOptions : Options := { sampleOptions with noAbbrev := true }

/-- A call of `close` by thread 1 that returns this value, with `errno` 9. -/
def closeReturning (value : BitVec 64) : List Stop :=
  [sampleStop 1 0x100 "close" [("lr", 0x500), ("x0", 3)],
    { sampleStop 1 0x500 "main" [] with
      frame := some ⟨some "main", 0x500, 0, fun name => [("x0", value)].lookup name, some 9⟩ }]

/-- The number of events made, the written ones with their serials and return values, and the keys
of the pending ones with their serials and names. -/
structure Account where
  created : Nat
  written : List (Nat × String × ReturnValue)
  pending : List (PendingKey × Nat × String)
  deriving DecidableEq

def account (t : Tracer) : Account where
  created := t.created
  written := t.written.map fun e => (e.serial, e.syscallName, e.returnValue)
  pending := t.pendingSyscalls.entries.map fun e => (e.1, e.2.serial, e.2.syscallName)

theorem mem_account_pending {key : PendingKey} {event : SyscallEvent}
    (h : t.pendingSyscalls.lookup key = some event) :
    (key, event.serial, event.syscallName) ∈ t.account.pending :=
  List.mem_map.mpr ⟨⟨key, event⟩, AList.mem_lookup_iff.mp h, rfl⟩

theorem lookup_of_mem_account {key : PendingKey} {serial : Nat} {name : String}
    (h : (key, serial, name) ∈ t.account.pending) :
    ∃ event, t.pendingSyscalls.lookup key = some event ∧ event.syscallName = name := by
  obtain ⟨⟨key', event⟩, he, heq⟩ := List.mem_map.mp h
  cases heq
  exact ⟨event, AList.mem_lookup_iff.mpr he, rfl⟩

theorem lookup_eq_none_of_account {key : PendingKey}
    (h : ∀ e ∈ t.account.pending, e.1 ≠ key) : t.pendingSyscalls.lookup key = none := by
  refine Option.eq_none_iff_forall_ne_some.mpr fun event hl => ?_
  exact h _ (mem_account_pending hl) rfl

theorem run_pair {stop stop' : Stop} (h : t.run [stop, stop'] = .ok t') :
    ∃ s, t.run [stop] = .ok s ∧ s.handleStop stop' = .ok t' := by
  rw [show [stop, stop'] = [stop] ++ [stop'] from rfl] at h
  exact Run.snoc_ok.mp h

/-- A run whose account is known ends in a state with that account. -/
theorem run_of_account (stops : List Stop) (a : Account)
    (h : (t.run stops).toOption.map account = some a) :
    ∃ t', t.run stops = .ok t' ∧ t'.account = a := by
  obtain ⟨t', ht', ha⟩ := Option.map_eq_some_iff.mp h
  exact ⟨t', toOption_eq_some.mp ht', ha⟩

end Tracer

end StraceMacos
