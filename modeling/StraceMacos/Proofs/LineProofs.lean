import StraceMacos.Proofs.EntryProofs
import StraceMacos.Proofs.ParamProofs
import StraceMacos.Proofs.ExitProofs

/-!
# One event, one line

The line of an event is free of control characters exactly when the texts of the traced process in
its arguments are: names of calls, return values and everything that decoders add never have any.
-/

namespace StraceMacos

open Fallible
open Text (Printable)

/-! ## Return values -/

theorem printable_decodeErrno (errnoNum : Int) : Printable (decodeErrno errnoNum) := by
  have htable : ∀ e ∈ errnoMap, Printable e.2.1 ∧ Printable e.2.2 := by decide +kernel
  unfold decodeErrno
  cases hl : errnoMap.lookup errnoNum with
  | none => exact (by decide : Printable "-1")
  | some e =>
    obtain ⟨hname, hdesc⟩ := htable _ (Dict.mem_of_lookup hl)
    simp only [Text.printable_append, hname, hdesc, and_true]
    decide

theorem printable_decodeFcntlReturn (retValue : Int) (allArgs : List Nat) (noAbbrev : Bool) :
    Printable (decodeFcntlReturn retValue allArgs noAbbrev).toStr := by
  have hnumber : Printable (ReturnValue.int retValue).toStr := Text.printable_toString_int retValue
  have hflags : Printable (decodeOpenFlags retValue ++ " (" ++ hexFormat retValue ++ ")") := by
    simp only [Text.printable_append, printable_decodeOpenFlags, printable_hexFormat, and_true,
      true_and]
    decide
  have hcloexec : Printable (ReturnValue.str "FD_CLOEXEC").toStr :=
    (by decide : Printable "FD_CLOEXEC")
  unfold decodeFcntlReturn
  by_cases hneg : retValue < 0
  · rw [if_pos hneg]
    exact hnumber
  · rw [if_neg hneg]
    cases allArgs[1]? with
    | none => exact hnumber
    | some cmd =>
      simp only
      split_ifs
      · exact printable_hexFormat retValue
      · exact hflags
      · exact hcloexec
      · exact hnumber

theorem printable_failedReturn (noAbbrev : Bool) (frame : Frame) (signedRet : Int) :
    Printable (decodeReturnValue.failedReturn noAbbrev frame signedRet).toStr := by
  unfold decodeReturnValue.failedReturn
  split_ifs
  · cases readErrno frame with
    | none => exact (by decide : Printable "-1")
    | some errnoValue => exact printable_decodeErrno errnoValue
  · exact Text.printable_toString_int signedRet

theorem printable_decodeReturnValue (registry : SyscallRegistry) (arch : Architecture)
    (noAbbrev : Bool) (frame : Frame) (event : SyscallEvent) :
    Printable (decodeReturnValue registry arch noAbbrev frame event).toStr := by
  unfold decodeReturnValue
  cases signedReturn arch frame with
  | none => exact (by decide : Printable "?")
  | some signedRet =>
    cases (registry.lookupByName event.syscallName).bind SyscallDef.returnDecoder with
    | none => exact printable_failedReturn noAbbrev frame signedRet
    | some returnDecoder =>
      simp only
      split_ifs
      · cases returnDecoder
        exact printable_decodeFcntlReturn signedRet event.rawArgs.vals noAbbrev
      · exact printable_failedReturn noAbbrev frame signedRet

/-! ## Lines -/

/-- What the tracer may show as an argument of a registered call: the result of a decoder, in any
memory and with any caches, or the placeholder. -/
inductive SyscallArg.Produced : SyscallArg → Prop where
  | unknown : Produced .unknown
  | decoded {e : SyscallDef × SyscallCategory} (he : e ∈ registered) {param : SyscallParam}
      (hparam : param ∈ e.1.params) {ctx : DecodeContext} {caches caches' : SysctlCaches}
      {arg : SyscallArg} (h : param.decode ctx caches = .ok (some arg, caches')) : Produced arg

/-- An event of a registered call whose arguments and return value come from the decoders. -/
structure SyscallEvent.Produced (event : SyscallEvent) : Prop where
  name : ∃ e ∈ registered, e.1.name = event.syscallName
  args : ∀ arg ∈ event.args, arg.Produced
  returnValue : event.returnValue = .str "?" ∨ ∃ registry arch noAbbrev frame event₀,
    event.returnValue = decodeReturnValue registry arch noAbbrev frame event₀

theorem SyscallArg.Produced.clean {arg : SyscallArg} (h : arg.Produced) : arg.Clean := by
  cases h with
  | unknown => trivial
  | decoded he hparam h =>
    exact SyscallParam.decode_clean
      (fun p hp => registeredDecoders_clean p (mem_registeredDecoders he hparam hp)) h

/-- An argument that is skipped has no text. -/
theorem SyscallArg.texts_of_isSkip {arg : SyscallArg} (h : arg.isSkip = true) : arg.texts = [] := by
  cases arg <;> first | rfl | cases h

theorem registered_names_printable : ∀ e ∈ registered, Printable e.1.name := by
  decide +kernel

namespace SyscallEvent

variable {event : SyscallEvent}

theorem Produced.printable_name (h : event.Produced) : Printable event.syscallName := by
  obtain ⟨e, he, hname⟩ := h.name
  rw [← hname]
  exact registered_names_printable e he

theorem Produced.printable_returnValue (h : event.Produced) :
    Printable event.returnValue.toStr := by
  rcases h.returnValue with hvalue | ⟨registry, arch, noAbbrev, frame, event₀, hvalue⟩
  · rw [hvalue]
    exact (by decide : Printable "?")
  · rw [hvalue]
    exact printable_decodeReturnValue registry arch noAbbrev frame event₀

end SyscallEvent

/-! ## The events of a run -/

section Decoding

variable {process : Process} {state state' : DecoderState}

theorem decodeShared_produced {e : SyscallDef × SyscallCategory} (he : e ∈ registered)
    {param : SyscallParam} (hparam : param ∈ e.1.params) {rawValue : Nat} {arg : SyscallArg}
    (h : decodeShared process param rawValue state = .ok (some arg, state')) : arg.Produced := by
  unfold decodeShared at h
  cases hctx : state.ctx with
  | none =>
    rw [hctx] at h
    cases h
  | some shared =>
    rw [hctx] at h
    obtain ⟨⟨decoded, caches⟩, hdecode, hres⟩ := bind_eq_ok.mp h
    cases hres
    exact .decoded he hparam hdecode

theorem decodeArgs_produced {e : SyscallDef × SyscallCategory} (he : e ∈ registered)
    {params : List SyscallParam} (hparams : ∀ param ∈ params, param ∈ e.1.params)
    {rawValues : List Nat} {args : List SyscallArg}
    (h : decodeArgs process params rawValues state = .ok (args, state')) :
    ∀ arg ∈ args, arg.Produced := by
  induction params generalizing rawValues state args with
  | nil =>
    cases h
    simp
  | cons param params ih =>
    obtain ⟨hparam, hrest⟩ := List.forall_mem_cons.mp hparams
    cases rawValues with
    | nil =>
      rw [decodeArgs] at h
      obtain ⟨⟨as, s⟩, has, hres⟩ := bind_eq_ok.mp h
      cases hres
      exact List.forall_mem_cons.mpr ⟨.unknown, ih hrest has⟩
    | cons rawValue rawValues =>
      rw [decodeArgs] at h
      obtain ⟨⟨decoded, s⟩, hs, h⟩ := bind_eq_ok.mp h
      obtain ⟨⟨as, s'⟩, has, hres⟩ := bind_eq_ok.mp h
      cases hres
      refine List.forall_mem_cons.mpr ⟨?_, ih hrest has⟩
      cases decoded with
      | none => exact .unknown
      | some arg => exact decodeShared_produced he hparam hs

theorem decodeArgsAtExit_produced {e : SyscallDef × SyscallCategory} (he : e ∈ registered)
    {params : List SyscallParam} (hparams : ∀ param ∈ params, param ∈ e.1.params)
    {rawValues : List Nat} {args args' : List SyscallArg} (hargs : ∀ arg ∈ args, arg.Produced)
    (h : decodeArgsAtExit process params rawValues args state = .ok (args', state')) :
    ∀ arg ∈ args', arg.Produced := by
  induction params generalizing rawValues state args args' with
  | nil =>
    cases h
    exact hargs
  | cons param params ih =>
    obtain ⟨hparam, hrest⟩ := List.forall_mem_cons.mp hparams
    rcases rawValues with _ | ⟨rawValue, rawValues⟩
    · cases h
      exact hargs
    rcases args with _ | ⟨arg, args⟩
    · cases h
      exact hargs
    obtain ⟨harg, hargs⟩ := List.forall_mem_cons.mp hargs
    rw [decodeArgsAtExit] at h
    obtain ⟨⟨decoded, s⟩, hs, h⟩ := bind_eq_ok.mp h
    obtain ⟨⟨as, s'⟩, has, hres⟩ := bind_eq_ok.mp h
    cases hres
    refine List.forall_mem_cons.mpr ⟨?_, ih hrest hargs has⟩
    cases decoded with
    | none => exact harg
    | some arg' => exact decodeShared_produced he hparam hs

end Decoding

namespace Tracer

variable {t t' : Tracer} {stop : Stop} {frame : Frame} {name : String}
variable {options : Options} {filter : Filter} {stops : List Stop}

theorem decodeEntry_produced (hs : t.Sound options filter) {d : SyscallDef}
    (hd : t.registry.lookupByName name = some d) {args : List SyscallArg} {rawArgs : PyList}
    {decoder : DecoderState} (h : t.decodeEntry stop frame name = .ok (args, rawArgs, decoder)) :
    (t.entryEvent stop name args rawArgs).Produced := by
  rw [hs.registry] at hd
  obtain ⟨hname, category, hmem⟩ := SyscallRegistry.lookupByName_eq_some hd
  unfold decodeEntry extractArgs at h
  rw [hs.registry, hd] at h
  obtain ⟨⟨as, s⟩, hdecode, hres⟩ := bind_eq_ok.mp h
  cases hres
  exact ⟨⟨_, hmem, hname⟩, decodeArgs_produced hmem (fun _ hparam => hparam) hdecode, .inl rfl⟩

theorem completeEvent_produced (hs : t.Sound options filter) {event event' : SyscallEvent}
    (hp : event.Produced) {decoder : DecoderState}
    (h : t.completeEvent stop frame event = .ok (event', decoder)) : event'.Produced := by
  have hvalue : ∀ args : List SyscallArg, (∀ arg ∈ args, arg.Produced) →
      SyscallEvent.Produced { event with
        returnValue := decodeReturnValue t.registry t.options.arch t.options.noAbbrev frame event
        args := args } :=
    fun args hargs => ⟨hp.name, hargs, .inr ⟨_, _, _, _, _, rfl⟩⟩
  unfold completeEvent at h
  simp only at h
  split_ifs at h
  · cases hl : t.registry.lookupByName event.syscallName with
    | none =>
      rw [hl] at h
      cases h
      exact hvalue event.args hp.args
    | some d =>
      rw [hl] at h
      rw [hs.registry] at hl
      obtain ⟨-, category, hmem⟩ := SyscallRegistry.lookupByName_eq_some hl
      obtain ⟨⟨as, s⟩, hdecode, hres⟩ := bind_eq_ok.mp h
      cases hres
      exact hvalue as (decodeArgsAtExit_produced hmem (fun _ hparam => hparam) hp.args hdecode)
  · cases h
    exact hvalue event.args hp.args

/-- All events of the tracer, pending or written, come from the decoders. -/
structure AllProduced (t : Tracer) : Prop where
  pending : ∀ key event, t.pendingSyscalls.lookup key = some event → event.Produced
  written : ∀ event ∈ t.written, event.Produced

theorem AllProduced.step (ha : t.AllProduced) (hs : t.Sound options filter)
    (h : t.Handles stop t') : t'.AllProduced := by
  cases h with
  | ignored => exact ha
  | @returned tid frame event event' decoder hr hc =>
    have hevent := completeEvent_produced hs (ha.pending _ _ hr.pending) hc
    refine ⟨fun key e hl => ?_, List.forall_mem_append.mpr ⟨ha.written, ?_⟩⟩
    · by_cases hkey : key = (tid, frame.pc)
      · rw [hkey] at hl
        simp [settle, writeEvent] at hl
      · rw [settle, writeEvent, AList.lookup_erase_ne hkey] at hl
        exact ha.pending key e hl
    · exact List.forall_mem_singleton.mpr hevent
  | reported he hd =>
    obtain ⟨d, hl⟩ := entryName_lookup he.name_eq
    have hevent := decodeEntry_produced hs hl hd
    exact ⟨ha.pending, List.forall_mem_append.mpr
      ⟨ha.written, List.forall_mem_singleton.mpr hevent⟩⟩
  | @recorded tid frame name args rawArgs decoder address he hd hra =>
    obtain ⟨d, hl⟩ := entryName_lookup he.name_eq
    have hevent := decodeEntry_produced hs hl hd
    refine ⟨fun key e hl => ?_, ha.written⟩
    by_cases hkey : key = (tid, address)
    · rw [hkey] at hl
      simp only [record, AList.lookup_insert, Option.some.injEq] at hl
      rw [← hl]
      exact hevent
    · rw [record, AList.lookup_insert_ne hkey] at hl
      exact ha.pending key e hl

/-- **Every event that a run writes comes from the decoders**, so that its line is as below. -/
theorem run_allProduced (h : (init options filter).run stops = .ok t) : t.AllProduced := by
  have hinit : (init options filter).AllProduced :=
    ⟨fun _ _ hl => (by cases hl), fun _ hmem => (by cases hmem)⟩
  have hboth := Run.invariant (I := fun t => t.Sound options filter ∧ t.AllProduced)
    (fun _ _ _ hi h => ⟨(handleStop_handles h).sound hi.1, hi.2.step hi.1 (handleStop_handles h)⟩)
    ⟨sound_init, hinit⟩ h
  exact hboth.2

end Tracer

/-! ## The line of an event -/

/-- **The line of an event is free of control characters exactly when the texts of the traced
process in its arguments are**: its strings, the elements of its lists of strings, and the paths and
names in its structures. -/
theorem line_printable_iff {event : SyscallEvent} (h : event.Produced) :
    Printable (formatText event) ↔ ∀ arg ∈ event.args, ∀ text ∈ arg.texts, Printable text := by
  unfold formatText
  simp only [Text.printable_append, h.printable_name, h.printable_returnValue, and_true, true_and,
    (by decide : Printable "("), (by decide : Printable ") = ")]
  rw [Text.printable_join (by decide), List.forall_mem_map]
  constructor
  · intro hargs arg harg
    cases hskip : arg.isSkip with
    | true =>
      rw [SyscallArg.texts_of_isSkip hskip]
      simp
    | false =>
      have hshown : arg ∈ event.args.filter (! ·.isSkip) :=
        List.mem_filter.mpr ⟨harg, by rw [hskip]; rfl⟩
      exact (h.args arg harg).clean.printable_iff.mp (hargs arg hshown)
  · intro htexts arg harg
    have hmem := List.mem_of_mem_filter harg
    exact (h.args arg hmem).clean.printable_iff.mpr (htexts arg hmem)

/-! ### The path of `unlink` -/

/-- A call of `unlink` with the path at the beginning of the first page. -/
def unlinkEvent (byteAt : Nat → Option UInt8) : SyscallEvent where
  pid := 1
  syscallName := "unlink"
  args := [.string (readString (byteProcess byteAt .little) 0x1000 4096)]
  returnValue := .str "?"
  timestamp := 0
  rawArgs := ⟨0, [0x1000]⟩
  serial := 0

theorem unlinkEvent_produced (byteAt : Nat → Option UInt8) : (unlinkEvent byteAt).Produced := by
  obtain ⟨e, he, hdef⟩ := List.mem_map.mp unlinkDef_mem
  have hparam : SyscallParam.plain .string ∈ e.1.params := by
    rw [hdef]
    exact List.mem_cons_self
  have hdecode : (SyscallParam.plain .string).decode
      ⟨false, byteProcess byteAt .little, 0x1000, ⟨0, [0x1000]⟩, true, none⟩ ⟨[], []⟩ =
        .ok (some (.string (readString (byteProcess byteAt .little) 0x1000 4096)), ⟨[], []⟩) :=
    rfl
  refine ⟨⟨e, he, by rw [hdef]; rfl⟩, fun arg harg => ?_, .inl rfl⟩
  rw [List.mem_singleton.mp harg]
  exact .decoded he hparam hdecode

theorem line_printable_firstPage : Printable (formatText (unlinkEvent firstPage)) := by
  refine (line_printable_iff (unlinkEvent_produced firstPage)).mpr fun arg harg text htext => ?_
  rw [List.mem_singleton.mp harg] at htext
  rw [List.mem_singleton.mp htext, readString_eq (by decide)]
  decide +kernel

/-- A page that begins with a path of two lines. -/
def twoLinePath (address : Nat) : Option UInt8 :=
  if 0x1000 ≤ address ∧ address < 0x2000 then some ([0x61, 0x0A, 0x62].getD (address - 0x1000) 0)
  else none

/-- A path with a newline is shown on two lines. -/
theorem path_shown_on_two_lines :
    ¬ ∀ event : SyscallEvent, event.Produced → Printable (formatText event) := by
  intro h
  have hline := h (unlinkEvent twoLinePath) (unlinkEvent_produced twoLinePath)
  have htext : formatText (unlinkEvent twoLinePath) =
      "unlink(" ++ quoted (readString (byteProcess twoLinePath .little) 0x1000 4096) ++
        ") = ?" := by
    simp [formatText, unlinkEvent, SyscallArg.isSkip, SyscallArg.toStr, Text.join,
      ReturnValue.toStr, String.append_assoc]
  rw [htext, readString_eq (by decide)] at hline
  revert hline
  decide +kernel

end StraceMacos
