import StraceMacos.Proofs.ThreadProofs

/-!
# How a trace is shown

Whether events are printed, as JSON, in colour or as plain text, has no influence on what is traced:
the tracer goes through the same states, and its output is made from the events that it has written.
-/

namespace StraceMacos

/-- The lines that are printed of the events. -/
def Options.lines (options : Options) (events : List SyscallEvent) : List OutputLine :=
  if options.summaryOnly then [] else events.map options.formatter.format

theorem Options.lines_append (options : Options) (events events' : List SyscallEvent) :
    options.lines (events ++ events') = options.lines events ++ options.lines events' := by
  unfold lines
  split_ifs
  · rfl
  · exact List.map_append

/-- Options that differ at most in how a trace is shown. -/
structure Options.SameTracing (options options' : Options) : Prop where
  arch : options'.arch = options.arch
  noAbbrev : options'.noAbbrev = options.noAbbrev

theorem Options.SameTracing.refl {options : Options} : options.SameTracing options :=
  ⟨rfl, rfl⟩

namespace Tracer

variable {options options' : Options} {filter : Filter}

/-- The tracer as it is when its events are shown with other options. -/
def present (options : Options) (t : Tracer) : Tracer :=
  { t with options := options, output := options.lines t.written }

theorem writeEvent_present (t : Tracer) (event : SyscallEvent) :
    (t.present options).writeEvent event = (t.writeEvent event).present options := by
  unfold writeEvent present
  rw [Options.lines_append]
  congr 1
  unfold Options.lines
  split_ifs <;> simp

theorem settle_present (t : Tracer) (decoder : DecoderState) (key : PendingKey)
    (event : SyscallEvent) :
    (t.present options).settle decoder key event = (t.settle decoder key event).present options :=
  writeEvent_present
    { t with decoder := decoder, pendingSyscalls := t.pendingSyscalls.erase key } event

theorem report_present (t : Tracer) (decoder : DecoderState) (event : SyscallEvent) :
    (t.present options).report decoder event = (t.report decoder event).present options :=
  writeEvent_present { t with decoder := decoder, created := t.created + 1 } event

theorem handleSyscallReturn_present {t : Tracer} (h : t.options.SameTracing options) (stop : Stop)
    (frame : Frame) (key : PendingKey) (event : SyscallEvent) :
    (t.present options).handleSyscallReturn stop frame key event =
      (t.handleSyscallReturn stop frame key event).map (present options) := by
  have hcomplete : (t.present options).completeEvent stop frame event =
      t.completeEvent stop frame event := by
    unfold completeEvent present
    rw [h.arch, h.noAbbrev]
  unfold handleSyscallReturn
  rw [hcomplete]
  cases t.completeEvent stop frame event with
  | error e => rfl
  | ok r => exact congrArg Except.ok (settle_present t _ _ _)

theorem handleSyscallEntry_present {t : Tracer} (h : t.options.SameTracing options) (stop : Stop)
    (frame : Frame) (threadId : Nat) (syscallName : String) :
    (t.present options).handleSyscallEntry stop frame threadId syscallName =
      (t.handleSyscallEntry stop frame threadId syscallName).map (present options) := by
  unfold handleSyscallEntry
  have hextract : extractArgs (t.present options).registry (t.present options).options.arch frame
      stop.process stop.listId syscallName (t.present options).decoder =
        extractArgs t.registry t.options.arch frame stop.process stop.listId syscallName
          t.decoder := by
    rw [← h.arch]
    rfl
  have haddress : (t.present options).options.arch.getReturnAddress frame stop.process =
      t.options.arch.getReturnAddress frame stop.process := by
    rw [← h.arch]
    rfl
  rw [hextract, haddress]
  cases extractArgs t.registry t.options.arch frame stop.process stop.listId syscallName
      t.decoder with
  | error e => rfl
  | ok r =>
    cases hra : t.options.arch.getReturnAddress frame stop.process with
    | none => exact congrArg Except.ok (report_present t _ _)
    | some address => rfl

/-- A stop is handled alike, however the events are shown. -/
theorem handleStop_present {t : Tracer} (h : t.options.SameTracing options) (stop : Stop) :
    (t.present options).handleStop stop = (t.handleStop stop).map (present options) := by
  unfold handleStop
  cases stop.threadId with
  | none => rfl
  | some threadId =>
    cases stop.frame with
    | none => rfl
    | some frame =>
      have hpending : (t.present options).pendingSyscalls.lookup (threadId, frame.pc) =
          t.pendingSyscalls.lookup (threadId, frame.pc) := rfl
      have hname : (t.present options).entryName threadId frame.functionName =
          t.entryName threadId frame.functionName := rfl
      simp only [hpending, hname]
      cases t.pendingSyscalls.lookup (threadId, frame.pc) with
      | some event => exact handleSyscallReturn_present h stop frame _ event
      | none =>
        cases t.entryName threadId frame.functionName with
        | none => rfl
        | some syscallName => exact handleSyscallEntry_present h stop frame threadId syscallName

theorem init_present (h : options.SameTracing options') :
    (init options filter).present options' = init options' filter := by
  unfold present init
  rw [h.noAbbrev]
  congr 1
  unfold Options.lines
  split_ifs <;> rfl

/-- A run is the same, however the events are shown. -/
theorem run_present {t : Tracer} {stops : List Stop} (h : (init options filter).run stops = .ok t)
    (ho : options.SameTracing options') :
    (init options' filter).run stops = .ok (t.present options') := by
  rw [← init_present ho]
  have hs : (init options filter).Sound options filter := sound_init
  generalize init options filter = s at h hs ⊢
  induction stops generalizing s with
  | nil =>
    rw [Run.nil_ok.mp h]
    rfl
  | cons stop stops ih =>
    obtain ⟨s', hstop, hrun⟩ := Run.cons_ok.mp h
    have hrest := ih s' hrun ((handleStop_handles hstop).sound hs)
    refine Run.cons_ok.mpr ⟨s'.present options', ?_, hrest⟩
    rw [handleStop_present (hs.options_eq ▸ ho), hstop]
    rfl

/-- The output of a run is made from the events that it has written. -/
theorem run_output {t : Tracer} {stops : List Stop} (h : (init options filter).run stops = .ok t) :
    t.output = options.lines t.written := by
  have hpresent : t = t.present options := Except.ok.inj (h.symm.trans (run_present h .refl))
  rw [hpresent]
  rfl

/-- The trace loop goes through the same iterations. -/
theorem traceLoop_present {t : Tracer} (hs : t.Sound options filter)
    (h : options.SameTracing options') (polls : List Poll) :
    (t.present options').traceLoop polls =
      (t.traceLoop polls).map fun r => (r.1.present options', r.2) := by
  induction polls generalizing t with
  | nil => rfl
  | cons poll polls ih =>
    unfold traceLoop
    split_ifs
    · rfl
    · cases poll.state with
      | stopped stop =>
        simp only
        rw [handleStop_present (hs.options_eq ▸ h)]
        cases hstop : t.handleStop stop with
        | error e => rfl
        | ok t' => exact ih ((handleStop_handles hstop).sound hs)
      | other => exact ih hs
      | exited | crashed | detached | unloaded => rfl

/-- **What is traced does not depend on how it is shown.** With other output options the trace loop
ends with the same exit code and has written the same events; what is printed is made from these
events: a line for each of them or, if only the summary was asked for, its table. -/
theorem presentation_independent {polls : List Poll} {t : Tracer} {code : Option Int}
    (h : (init options filter).traceLoop polls = .ok (t, code))
    (ho : options.SameTracing options') :
    ∃ t', (init options' filter).traceLoop polls = .ok (t', code) ∧ t'.written = t.written ∧
      t'.pendingSyscalls = t.pendingSyscalls ∧ t'.summary = t.summary ∧
      ∀ percent, (t'.finish percent).output =
        if options'.summaryOnly then [.text (formatSummary percent t.summary)]
        else t.written.map options'.formatter.format := by
  refine ⟨t.present options', ?_, rfl, rfl, rfl, fun percent => ?_⟩
  · rw [← init_present ho, traceLoop_present sound_init ho, h]
    rfl
  · unfold finish present Options.lines
    split_ifs <;> rfl

/-- The iterations in which a process stops. -/
def pollsOf (stops : List Stop) : List Poll :=
  stops.map fun stop => ⟨false, .stopped stop⟩

theorem traceLoop_pollsOf (t : Tracer) (stops : List Stop) (polls : List Poll) :
    t.traceLoop (pollsOf stops ++ polls) = t.run stops >>= fun t' => t'.traceLoop polls := by
  induction stops generalizing t with
  | nil => rfl
  | cons stop stops ih =>
    have hloop : t.traceLoop (pollsOf (stop :: stops) ++ polls) =
        t.handleStop stop >>= fun t' => t'.traceLoop (pollsOf stops ++ polls) := rfl
    rw [hloop, run, List.foldlM_cons, bind_assoc]
    exact congrArg _ (funext ih)

/-- The summary of a trace and its JSON lines. -/
theorem presentation_independent_twoThreads : ∃ t t',
    (init sampleOptions .all).traceLoop (pollsOf twoThreads ++ [⟨false, .exited 0⟩]) =
      .ok (t, some 0) ∧
    (init { sampleOptions with jsonOutput := true } .all).traceLoop
      (pollsOf twoThreads ++ [⟨false, .exited 0⟩]) = .ok (t', some 0) ∧
    (t'.finish fun _ _ => "").output = t.written.map fun event => .json (formatJson event) := by
  obtain ⟨t, ht, -⟩ := run_twoThreads
  have hloop : (init sampleOptions .all).traceLoop (pollsOf twoThreads ++ [⟨false, .exited 0⟩]) =
      .ok (t, some 0) := by
    rw [traceLoop_pollsOf, ht]
    rfl
  have hsame : sampleOptions.SameTracing { sampleOptions with jsonOutput := true } := ⟨rfl, rfl⟩
  obtain ⟨t', ht', -, -, -, houtput⟩ := presentation_independent hloop hsame
  exact ⟨t, t', hloop, ht', houtput _⟩

end Tracer

end StraceMacos
