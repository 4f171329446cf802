import StraceMacos.Proofs.ContextProofs
import StraceMacos.Proofs.ExitProofs
import StraceMacos.Proofs.LedgerProofs

/-!
# The arguments of an event

Each argument of a written event has been decoded at the entry of its call, and once more at its
return if the call was successful. Both decodings see the raw values of the entry, and the memory of
their own stop.
-/

namespace StraceMacos

open Fallible

/-- The call returned a number that is not negative: its arguments are decoded again. -/
def SyscallEvent.Succeeded (event : SyscallEvent) : Prop :=
  event.returnValue.int?.any (0 ≤ ·) = true

namespace Tracer

variable {s t : Tracer} {stop : Stop} {frame : Frame} {name : String} {d : SyscallDef}
variable {options : Options} {filter : Filter} {pre stops : List Stop}
variable {args : List SyscallArg} {rawArgs : PyList} {decoder : DecoderState}
variable {event event' : SyscallEvent} {i rawValue : Nat} {param : SyscallParam} {arg : SyscallArg}

/-! ## At the entry -/

theorem decodeEntry_vals (hs : s.Sound options filter)
    (hd : SyscallRegistry.init.lookupByName name = some d)
    (h : s.decodeEntry stop frame name = .ok (args, rawArgs, decoder)) :
    rawArgs.vals = readRawValues options.arch frame stop.process d := by
  unfold decodeEntry extractArgs at h
  rw [hs.registry, hs.options_eq, hd] at h
  obtain ⟨⟨as, state⟩, -, hres⟩ := bind_eq_ok.mp h
  cases hres
  rfl

/-- An argument is decoded in the memory of the entry stop. -/
theorem decodeEntry_arg (hs : s.Sound options filter)
    (hd : SyscallRegistry.init.lookupByName name = some d)
    (h : s.decodeEntry stop frame name = .ok (args, rawArgs, decoder))
    (hparam : d.params[i]? = some param) (hraw : rawArgs.vals[i]? = some rawValue) :
    ∃ before after r, args[i]? = some (r.getD .unknown) ∧
      param.decode ⟨options.noAbbrev, stop.process, rawValue, rawArgs, true, none⟩ before =
        .ok (r, after) := by
  obtain ⟨shared, caches, hready⟩ := hs.ready
  unfold decodeEntry extractArgs at h
  rw [hs.registry, hd, hready] at h
  obtain ⟨⟨as, state⟩, hargs, hres⟩ := bind_eq_ok.mp h
  cases hres
  exact decodeArgs_getElem? hargs hparam hraw

/-! ## At the return -/

/-- At a successful return an argument is decoded in the memory of the return stop, and replaced
unless its decoder returns nothing; at any other return it is kept. -/
theorem completeEvent_arg (hs : s.Sound options filter)
    (hd : SyscallRegistry.init.lookupByName event.syscallName = some d)
    (h : s.completeEvent stop frame event = .ok (event', decoder))
    (hparam : d.params[i]? = some param) (hraw : event.rawArgs.vals[i]? = some rawValue)
    (harg : event.args[i]? = some arg) :
    event'.args[i]? = some arg ∨ ∃ before after r, event'.args[i]? = some (r.getD arg) ∧
      param.decode ⟨options.noAbbrev, stop.process, rawValue, event.rawArgs, false,
        some event'.returnValue⟩ before = .ok (r, after) := by
  obtain ⟨hvalue, hexit, hkeep⟩ := completeEvent_args rfl hs.decoder h
  rw [← hvalue, hs.registry] at hexit hkeep
  by_cases hsuccess : event'.Succeeded
  · obtain ⟨raw, state, hdecode⟩ := hexit d hd hsuccess
    rw [hs.options_eq] at hdecode
    exact .inr (decodeArgsAtExit_getElem? hdecode hparam hraw harg)
  · refine .inl ?_
    rw [hkeep (.inr (Bool.eq_false_iff.mpr hsuccess))]
    exact harg

theorem completeEvent_args_length (hs : s.Sound options filter)
    (h : s.completeEvent stop frame event = .ok (event', decoder)) :
    event'.args.length = event.args.length := by
  obtain ⟨hvalue, hexit, hkeep⟩ := completeEvent_args rfl hs.decoder h
  rw [← hvalue] at hexit hkeep
  by_cases hsuccess : event'.Succeeded
  · cases hd : s.registry.lookupByName event.syscallName with
    | none => rw [hkeep (.inl hd)]
    | some d =>
      obtain ⟨raw, state, hdecode⟩ := hexit d hd hsuccess
      exact decodeArgsAtExit_length hdecode
  · rw [hkeep (.inr (Bool.eq_false_iff.mpr hsuccess))]

/-! ## In a run -/

/-- Every event of a run has an argument and a raw value for each parameter. -/
theorem run_args_length (h : (init options filter).run stops = .ok t) :
    t.EveryEvent fun event => ∀ d, SyscallRegistry.init.lookupByName event.syscallName = some d →
      event.args.length = d.params.length ∧ event.rawArgs.vals.length = d.params.length := by
  have hentry : HoldsAtEntry options filter fun _ event => ∀ d,
      SyscallRegistry.init.lookupByName event.syscallName = some d →
        event.args.length = d.params.length ∧
          event.rawArgs.vals.length = d.params.length := by
    intro s stop frame name args rawArgs decoder hs hdecode d hd
    refine ⟨decodeEntry_length (by rw [hs.registry]; exact hd) hdecode, ?_⟩
    exact (congrArg List.length (decodeEntry_vals hs hd hdecode)).trans (by simp [readRawValues])
  have hreturn : KeptAtReturn options filter fun _ event => ∀ d,
      SyscallRegistry.init.lookupByName event.syscallName = some d →
        event.args.length = d.params.length ∧
          event.rawArgs.vals.length = d.params.length := by
    intro _ s stop frame event event' decoder hs hcomplete hevent d hd
    obtain ⟨args, heq⟩ := completeEvent_eq hcomplete
    have hname : event'.syscallName = event.syscallName := by rw [heq]
    have hraw : event'.rawArgs = event.rawArgs := by rw [heq]
    rw [completeEvent_args_length hs hcomplete, hraw]
    exact hevent d (hname ▸ hd)
  have hall := run_madeWith hentry hreturn h
  refine ⟨fun key event hl => ?_, fun event hmem => ?_⟩
  · obtain ⟨_, _, _, _, _, _, _, hevent⟩ := hall.pending key event hl
    exact hevent
  · obtain ⟨_, _, _, _, _, _, _, hevent⟩ := hall.written event hmem
    exact hevent

/-- An event that is written with success has been decoded again at the stop, all arguments one
after the other. -/
theorem WrittenAt.decoded_again (h : WrittenAt options filter pre stop event)
    (hd : SyscallRegistry.init.lookupByName event.syscallName = some d)
    (hsuccess : event.Succeeded) :
    ∃ args raw caches state, args.length = d.params.length ∧
      event.rawArgs.vals.length = d.params.length ∧
      decodeArgsAtExit stop.process d.params event.rawArgs.vals args
        ⟨options.noAbbrev, some ⟨raw, event.rawArgs, false, some event.returnValue⟩, caches⟩ =
          .ok (event.args, state) := by
  obtain ⟨s, s', hrun, hstep, hwritten⟩ := h
  have hs := run_sound hrun
  have hnot {events : List SyscallEvent} (h : events = events ++ [event]) : False := by
    simpa using congrArg List.length h
  cases handleStop_handles hstep with
  | ignored => exact (hnot hwritten).elim
  | recorded => exact (hnot hwritten).elim
  | @reported tid frame name args rawArgs decoder he hdecode hra =>
    obtain rfl : s.entryEvent stop name args rawArgs = event := by
      simpa [report, writeEvent] using hwritten
    cases hsuccess
  | @returned tid frame event₀ event' decoder hr hc =>
    obtain rfl : event' = event := by simpa [settle, writeEvent] using hwritten
    obtain ⟨hvalue, hexit, -⟩ := completeEvent_args rfl hs.decoder hc
    obtain ⟨args, heq⟩ := completeEvent_eq hc
    have hname : event'.syscallName = event₀.syscallName := by rw [heq]
    have hraw : event'.rawArgs = event₀.rawArgs := by rw [heq]
    obtain ⟨hargs, hvals⟩ := (run_args_length hrun).pending _ _ hr.pending d (hname ▸ hd)
    rw [← hvalue, hs.registry, hs.options_eq] at hexit
    obtain ⟨raw, state, hdecode⟩ := hexit d (hname ▸ hd) hsuccess
    rw [hraw]
    exact ⟨event₀.args, raw, _, state, hargs, hvals, hdecode⟩

end Tracer

end StraceMacos
