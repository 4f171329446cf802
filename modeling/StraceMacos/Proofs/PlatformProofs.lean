import Mathlib.Data.Option.Basic
import StraceMacos.Proofs.ArgumentProofs
import StraceMacos.Proofs.NestingProofs

/-!
# The same program on both architectures

A program is built for both architectures, and its stops correspond: the same functions, addresses,
threads and memory, while arguments, return addresses and results are where each platform has them.
The tracer goes through the same states, provided that it looks for all arguments in their places.
-/

namespace StraceMacos

/-! ## Stops on two platforms -/

/-- The arguments of a call of `d` as the calling convention of the platform passes them, each in
the place where the tracer looks for it. -/
structure PassesArgs (arch : Architecture) (frame : Frame) (process : Process) (d : SyscallDef)
    (vals : List Nat) : Prop where
  length : vals.length = d.params.length
  passed : ∀ i value, vals[i]? = some value → arch.ReadsRightSlot i d.variadicStart ∧
    ∃ slot, arch.conventionSlot i d.variadicStart = some slot ∧
      arch.readSlot frame process slot = some value

theorem PassesArgs.readRawValues_eq {arch : Architecture} {frame : Frame} {process : Process}
    {d : SyscallDef} {vals : List Nat} (h : PassesArgs arch frame process d vals) :
    readRawValues arch frame process d = vals := by
  have hlength : (readRawValues arch frame process d).length = vals.length := by
    simp [readRawValues, h.length]
  refine List.ext_getElem hlength fun i hi hi' => ?_
  obtain ⟨hright, slot, hslot, hvalue⟩ := h.passed i _ (List.getElem?_eq_getElem hi')
  simp [readRawValues, readRawArgValue_eq, Architecture.sourceSlot_eq hright hslot, hvalue]

/-- Frames that differ at most in their registers. -/
structure SameFrame (frame frame' : Frame) : Prop where
  functionName : frame'.functionName = frame.functionName
  pc : frame'.pc = frame.pc
  errno : frame'.errno = frame.errno

/-- Stops that differ at most in the registers of their frames. -/
structure CorrespondingStop (stop stop' : Stop) : Prop where
  process : stop'.process = stop.process
  pid : stop'.pid = stop.pid
  threadId : stop'.threadId = stop.threadId
  time : stop'.time = stop.time
  listId : stop'.listId = stop.listId
  frame : Option.Rel SameFrame stop.frame stop'.frame

namespace Tracer

variable {t : Tracer} {arch : Architecture} {options : Options} {filter : Filter}
variable {stop stop' : Stop}

/-- A stop, and the same stop on the platform `arch`: if the tracer takes it for the entry of a
call, both platforms pass the same arguments and the same return address, and if it takes it for a
return, the same result. -/
structure AgreesOn (arch : Architecture) (t : Tracer) (pair : Stop × Stop) : Prop where
  corresponding : CorrespondingStop pair.1 pair.2
  entry : ∀ tid frame frame' name d, t.IsEntry pair.1 tid frame name →
    pair.2.frame = some frame' → SyscallRegistry.init.lookupByName name = some d →
    (∃ vals, PassesArgs t.options.arch frame pair.1.process d vals ∧
      PassesArgs arch frame' pair.2.process d vals) ∧
    arch.getReturnAddress frame' pair.2.process =
      t.options.arch.getReturnAddress frame pair.1.process
  result : ∀ tid frame frame' event, t.IsReturn pair.1 tid frame event →
    pair.2.frame = some frame' →
    frame'.findRegister arch.returnRegister = frame.findRegister t.options.arch.returnRegister

/-- The tracer on another architecture. -/
def onArch (arch : Architecture) (t : Tracer) : Tracer :=
  { t with options := { t.options with arch := arch } }

/-! ## One stop -/

theorem completeEvent_onArch {frame frame' : Frame} (event : SyscallEvent)
    (hprocess : stop'.process = stop.process) (hframe : SameFrame frame frame')
    (hresult : frame'.findRegister arch.returnRegister =
      frame.findRegister t.options.arch.returnRegister) :
    (t.onArch arch).completeEvent stop' frame' event = t.completeEvent stop frame event := by
  have hvalue : decodeReturnValue t.registry arch t.options.noAbbrev frame' event =
      decodeReturnValue t.registry t.options.arch t.options.noAbbrev frame event := by
    unfold decodeReturnValue decodeReturnValue.failedReturn signedReturn readErrno
    rw [hresult, hframe.errno]
  unfold completeEvent onArch
  rw [hprocess]
  simp only [hvalue]

theorem handleSyscallReturn_onArch {frame frame' : Frame} (key : PendingKey) (event : SyscallEvent)
    (hprocess : stop'.process = stop.process) (hframe : SameFrame frame frame')
    (hresult : frame'.findRegister arch.returnRegister =
      frame.findRegister t.options.arch.returnRegister) :
    (t.onArch arch).handleSyscallReturn stop' frame' key event =
      (t.handleSyscallReturn stop frame key event).map (onArch arch) := by
  unfold handleSyscallReturn
  rw [completeEvent_onArch event hprocess hframe hresult]
  cases t.completeEvent stop frame event with
  | error e => rfl
  | ok r => rfl

theorem handleSyscallEntry_onArch {frame frame' : Frame} {name : String} {d : SyscallDef}
    (tid : Nat) (hstop : CorrespondingStop stop stop')
    (hd : t.registry.lookupByName name = some d)
    (hvals : readRawValues arch frame' stop'.process d =
      readRawValues t.options.arch frame stop.process d)
    (haddress : arch.getReturnAddress frame' stop'.process =
      t.options.arch.getReturnAddress frame stop.process) :
    (t.onArch arch).handleSyscallEntry stop' frame' tid name =
      (t.handleSyscallEntry stop frame tid name).map (onArch arch) := by
  rw [hstop.process] at hvals haddress
  have hextract : extractArgs t.registry arch frame' stop.process stop.listId name t.decoder =
      extractArgs t.registry t.options.arch frame stop.process stop.listId name t.decoder := by
    unfold extractArgs
    rw [hd]
    simp only [extractArgsWithParams, hvals]
  have hevent (args : List SyscallArg) (rawArgs : PyList) :
      (t.onArch arch).entryEvent stop' name args rawArgs = t.entryEvent stop name args rawArgs := by
    unfold entryEvent onArch
    rw [hstop.pid, hstop.time]
  have hregistry : (t.onArch arch).registry = t.registry := rfl
  have hdecoder : (t.onArch arch).decoder = t.decoder := rfl
  have harch : (t.onArch arch).options.arch = arch := rfl
  unfold handleSyscallEntry
  simp only [hevent, hregistry, hdecoder, harch, hstop.process, hstop.listId, hextract,
    haddress]
  cases extractArgs t.registry t.options.arch frame stop.process stop.listId name t.decoder with
  | error e => rfl
  | ok r =>
    cases hra : t.options.arch.getReturnAddress frame stop.process with
    | none => rfl
    | some address => rfl

/-- Corresponding stops are handled alike. -/
theorem handleStop_onArch (hs : t.Sound options filter) (h : t.AgreesOn arch (stop, stop')) :
    (t.onArch arch).handleStop stop' = (t.handleStop stop).map (onArch arch) := by
  obtain ⟨hstop, hentry, hresult⟩ := h
  have hframes := hstop.frame
  unfold handleStop
  rw [hstop.threadId]
  cases hthread : stop.threadId with
  | none => rfl
  | some tid =>
    cases hf : stop.frame with
    | none =>
      rw [hf] at hframes
      cases hf' : stop'.frame with
      | none => rfl
      | some frame' =>
        rw [hf'] at hframes
        cases hframes
    | some frame =>
      rw [hf] at hframes
      cases hf' : stop'.frame with
      | none =>
        rw [hf'] at hframes
        cases hframes
      | some frame' =>
        rw [hf'] at hframes
        obtain ⟨hframe⟩ := hframes
        have hpending : (t.onArch arch).pendingSyscalls.lookup (tid, frame'.pc) =
            t.pendingSyscalls.lookup (tid, frame.pc) := by
          rw [hframe.pc]
          rfl
        have hname (fn : Option String) : (t.onArch arch).entryName tid fn = t.entryName tid fn :=
          rfl
        simp only [hpending, hname, hframe.functionName]
        cases hl : t.pendingSyscalls.lookup (tid, frame.pc) with
        | some event =>
          have hreturn := handleSyscallReturn_onArch (tid, frame.pc) event hstop.process hframe
            (hresult tid frame frame' event ⟨hthread, hf, hl⟩ hf')
          rwa [← hframe.pc] at hreturn ⊢
        | none =>
          cases hn : t.entryName tid frame.functionName with
          | none => rfl
          | some name =>
            obtain ⟨d, hd⟩ := entryName_lookup hn
            obtain ⟨⟨vals, hvals, hvals'⟩, haddress⟩ :=
              hentry tid frame frame' name d ⟨hthread, hf, hl, hn⟩ hf' (hs.registry ▸ hd)
            exact handleSyscallEntry_onArch tid hstop hd
              (hvals'.readRawValues_eq.trans hvals.readRawValues_eq.symm) haddress

/-! ## Runs -/

theorem run_onArch {pairs : List (Stop × Stop)} (hs : t.Sound options filter)
    (h : Run.Along (fun t pair => t.handleStop pair.1) (AgreesOn arch) t pairs) :
    (t.onArch arch).run (pairs.map Prod.snd) = (t.run (pairs.map Prod.fst)).map (onArch arch) := by
  induction pairs generalizing t with
  | nil => rfl
  | cons pair pairs ih =>
    obtain ⟨hpair, hpairs⟩ := Run.along_cons.mp h
    have hstep : (t.onArch arch).handleStop pair.2 = (t.handleStop pair.1).map (onArch arch) :=
      handleStop_onArch hs hpair
    unfold run
    rw [List.map_cons, List.map_cons, List.foldlM_cons, List.foldlM_cons, hstep]
    cases hstop : t.handleStop pair.1 with
    | error e => rfl
    | ok s => exact ih ((handleStop_handles hstop).sound hs) (hpairs s hstop)

/-- **The trace does not depend on the architecture**: if the stops of a program correspond on two
platforms, and the tracer takes none of them for the entry of a call with an argument that it looks
for in the wrong place, then the runs have the same outcome: the same events written and pending,
the same output and the same summary. -/
theorem platform_independent {pairs : List (Stop × Stop)}
    (h : Run.Along (fun t pair => t.handleStop pair.1) (AgreesOn arch) (init options filter)
      pairs) :
    (init { options with arch := arch } filter).run (pairs.map Prod.snd) =
      ((init options filter).run (pairs.map Prod.fst)).map fun t =>
        { t with options := { options with arch := arch } } := by
  have hrun := run_onArch sound_init h
  have hinit : (init options filter).onArch arch = init { options with arch := arch } filter := by
    simp only [onArch, init]
  rw [hinit] at hrun
  rw [hrun]
  cases ht : (init options filter).run (pairs.map Prod.fst) with
  | error e => rfl
  | ok t =>
    have hoptions : t.options = options := (run_sound ht).options_eq
    rw [← hoptions]
    rfl

/-! ### `close` on both platforms -/

/-- A stop with the given registers, in a process whose memory holds the return address 0x100 at
0x2000. -/
def platformStop (pc : Nat) (functionName : Option String) (registers : List (String × BitVec 64)) :
    Stop :=
  { sampleStop 1 pc "" [] with
    process := ⟨oneByteMemory 0x2001, .little⟩
    frame := some ⟨functionName, pc, 0, fun name => registers.lookup name, none⟩ }

def closeOnBoth : List (Stop × Stop) :=
  [(platformStop 0x10 (some "close") [("x0", 3), ("lr", 0x100)],
      platformStop 0x10 (some "close") [("rdi", 3), ("rsp", 0x2000)]),
    (platformStop 0x100 none [("x0", 0)], platformStop 0x100 none [("rax", 0)])]

theorem corresponding_platformStop (pc : Nat) (functionName : Option String)
    (registers registers' : List (String × BitVec 64)) :
    CorrespondingStop (platformStop pc functionName registers)
      (platformStop pc functionName registers') :=
  ⟨rfl, rfl, rfl, rfl, rfl, .some ⟨rfl, rfl, rfl⟩⟩

theorem platform_independent_close :
    (init { sampleOptions with arch := .x8664 } .all).run (closeOnBoth.map Prod.snd) =
      ((init sampleOptions .all).run (closeOnBoth.map Prod.fst)).map fun t =>
        { t with options := { sampleOptions with arch := .x8664 } } := by
  refine platform_independent (Run.along_cons.mpr ⟨⟨corresponding_platformStop _ _ _ _, ?_, ?_⟩,
    fun s hs => Run.along_cons.mpr ⟨⟨corresponding_platformStop _ _ _ _, ?_, ?_⟩,
      fun _ _ => Run.along_nil⟩⟩)
  · rintro tid frame frame' name d he hf' hd
    cases he.frame_eq
    cases hf'
    obtain ⟨fn, -, hfn, -, rfl, -⟩ := entryName_eq_some he.name_eq
    cases hfn
    rw [lstrip_close, lookup_close] at hd
    cases hd
    have hfirst {i value : Nat} (hvalue : [3][i]? = some value) : i = 0 ∧ value = 3 := by
      cases i with
      | zero => exact ⟨rfl, (Option.some.inj hvalue).symm⟩
      | succ i => simp at hvalue
    refine ⟨⟨[3], ⟨rfl, fun i value hvalue => ?_⟩, ⟨rfl, fun i value hvalue => ?_⟩⟩, by decide⟩
    · obtain ⟨rfl, rfl⟩ := hfirst hvalue
      have hright : Architecture.ReadsRightSlot .arm64 0 none := fun harch => by cases harch
      exact ⟨hright, .register "x0", rfl, by decide⟩
    · obtain ⟨rfl, rfl⟩ := hfirst hvalue
      have hright : Architecture.ReadsRightSlot .x8664 0 none := fun _ => (by decide : 0 < 6)
      exact ⟨hright, .register "rdi", rfl, by decide⟩
  · rintro tid frame frame' event hr -
    cases hr.pending
  · rintro tid frame frame' name d he - -
    cases he.frame_eq
    obtain ⟨fn, -, hfn, -⟩ := entryName_eq_some he.name_eq
    cases hfn
  · rintro tid frame frame' event hr hf'
    cases hr.frame_eq
    cases hf'
    rw [((handleStop_handles hs).sound sound_init).options_eq]
    decide

end Tracer

end StraceMacos
