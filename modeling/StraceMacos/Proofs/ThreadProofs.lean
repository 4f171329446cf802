import StraceMacos.Library.Interleaving
import StraceMacos.Proofs.FilterProofs
import StraceMacos.Proofs.TableProofs

/-!
# The threads of a trace

All threads are traced through one table of pending events and one decode context. The events that
are written at the stops of a thread are still those that its stops alone would give, so that the
order in which the threads run does not matter. The exception is a `sysctl` without a name, which
looks up what any thread has left in the cache.
-/

namespace StraceMacos

theorem SameStop.refl {stop : Stop} : SameStop stop stop :=
  ⟨rfl, rfl, rfl, rfl, rfl⟩

theorem SameStop.symm {stop stop' : Stop} (h : SameStop stop stop') : SameStop stop' stop :=
  ⟨h.process.symm, h.pid.symm, h.reason.symm, h.threadId.symm, h.frame.symm⟩

namespace Tracer

variable {t t' u u' f f' : Tracer} {stop stop' : Stop} {tid : Nat} {frame : Frame} {name : String}
variable {event event' : SyscallEvent} {options : Options} {filter : Filter}
variable {stops stops' : List Stop}

/-! ## One stop in two tracers -/

/-- The stop completes a `sysctl` that looks up the type of its buffer under an earlier name. -/
def LooksUpStaleMib (t : Tracer) (stop : Stop) : Prop :=
  ∃ tid frame event, t.IsReturn stop tid frame event ∧
    event.ReadsStaleMib t.options.arch frame

theorem decodeReturnValue_congr (registry : SyscallRegistry) (arch : Architecture) (noAbbrev : Bool)
    (frame : Frame) (hname : event'.syscallName = event.syscallName)
    (hvals : event'.rawArgs.vals = event.rawArgs.vals) :
    decodeReturnValue registry arch noAbbrev frame event' =
      decodeReturnValue registry arch noAbbrev frame event := by
  unfold decodeReturnValue
  rw [hname, hvals]

/-- Two tracers that see the same return of events that look alike write events that look alike,
with the value that is decoded there. -/
theorem IsReturn.alike (hu : u.Sound options filter) (hf : f.Sound options filter)
    (hstop : SameStop stop stop') (hr : u.IsReturn stop tid frame event)
    (hr' : f.IsReturn stop' tid frame event') (hun : event'.untimed = event.untimed)
    (hmib : ¬ u.LooksUpStaleMib stop) (h : u.handleStop stop = .ok u') :
    ∃ decoder decoder' e e', u' = u.settle decoder (tid, frame.pc) e ∧
      f.handleStop stop' = .ok (f.settle decoder' (tid, frame.pc) e') ∧
      e'.untimed = e.untimed ∧ e.syscallName = event.syscallName ∧
      e.returnValue =
        decodeReturnValue SyscallRegistry.init options.arch options.noAbbrev frame e := by
  obtain ⟨hpid, hname, hargs, hval, hvals⟩ := SyscallEvent.untimed_eq_iff.mp hun
  have hvalue := decodeReturnValue_congr SyscallRegistry.init options.arch options.noAbbrev frame
    hname hvals
  have hok : ¬ f.MeetsNullBase stop' := by
    rintro (⟨he, -, -⟩ | ⟨hret, hd, rfl, hsuccess, hnull⟩)
    · exact hr'.not_isEntry he
    · obtain ⟨rfl, rfl, rfl⟩ := hr'.unique hret
      rw [hf.registry, hf.options_eq, hvalue] at hsuccess hnull
      rw [hf.registry, hname, ← hu.registry] at hd
      refine (handleStop_returns_iff hu).mp ⟨u', h⟩ (.exit hr hd rfl ?_ ?_)
      · rw [hu.registry, hu.options_eq]
        exact hsuccess
      · rw [hstop.process] at hnull
        rw [hu.registry, hu.options_eq]
        set value := decodeReturnValue SyscallRegistry.init options.arch options.noAbbrev frame
          event
        exact (SyscallDef.nullBaseAtExit_congr { event with returnValue := value }
          { event' with returnValue := value } hvals hargs rfl).mp hnull
  obtain ⟨f', hf'⟩ := (handleStop_returns_iff hf).mpr hok
  obtain ⟨e, decoder, hc, rfl⟩ := hr.handled h
  obtain ⟨e', decoder', hc', rfl⟩ := hr'.handled hf'
  refine ⟨decoder, decoder', e, e', rfl, hf', ?_⟩
  obtain ⟨hargs', hvalue'⟩ := completeEvent_congr hu hf rfl rfl hstop.process rfl rfl hname hvals
    hargs (fun _ _ _ hreads => absurd ⟨tid, frame, event, hr, by rwa [hu.options_eq]⟩ hmib) hc hc'
  obtain ⟨args, rfl⟩ := completeEvent_eq hc
  obtain ⟨args', rfl⟩ := completeEvent_eq hc'
  refine ⟨SyscallEvent.untimed_eq_iff.mpr ⟨hpid, hname, hargs', hvalue', hvals⟩, rfl, ?_⟩
  rw [hu.registry, hu.options_eq]
  dsimp only
  refine decodeReturnValue_congr _ _ _ _ ?_ ?_ <;> rfl

/-- Two tracers that see the same entry make events that look alike, with the name of the call. -/
theorem IsEntry.alike (hu : u.Sound options filter) (hf : f.Sound options filter)
    (hstop : SameStop stop stop') (he : u.IsEntry stop tid frame name)
    (he' : f.IsEntry stop' tid frame name) (h : u.handleStop stop = .ok u') :
    ∃ decoder decoder' e e', u' = u.enter stop frame tid decoder e ∧
      f.handleStop stop' = .ok (f.enter stop' frame tid decoder' e') ∧
      e'.untimed = e.untimed ∧ e.syscallName = name ∧ e.returnValue = .str "?" := by
  obtain ⟨args, rawArgs, decoder, hdec, rfl⟩ := he.handled h
  obtain ⟨d, hd⟩ := entryName_lookup he.name_eq
  rw [hu.registry] at hd
  have hnull := (decodeEntry_ok_iff hu hd).mp ⟨_, hdec⟩
  rw [← SyscallDef.nullBaseAtEntry_congr stop'.listId, ← hstop.process] at hnull
  obtain ⟨f', hf'⟩ := he'.returns_iff.mpr ((decodeEntry_ok_iff hf hd).mpr hnull)
  obtain ⟨args', rawArgs', decoder', hdec', rfl⟩ := he'.handled hf'
  obtain ⟨hargs, hvals⟩ := decodeEntry_congr hu hf rfl rfl hstop.process rfl hd hdec hdec'
  exact ⟨decoder, decoder', _, _, rfl, hf',
    SyscallEvent.untimed_eq_iff.mpr ⟨hstop.pid, rfl, hargs, rfl, hvals⟩, rfl, rfl⟩

theorem returnAddress_alike (hu : u.Sound options filter) (hf : f.Sound options filter)
    (hstop : SameStop stop stop') (frame : Frame) :
    f.returnAddress stop' frame = u.returnAddress stop frame := by
  unfold returnAddress
  rw [hu.options_eq, hf.options_eq, hstop.process]

/-! ## A thread among others -/

/-- The tracer `f` has the pending events of the thread that `u` has. -/
structure Beside (options : Options) (filter : Filter) (tid : Nat) (u f : Tracer) : Prop where
  all : u.Sound options filter
  alone : f.Sound options filter
  pending : ∀ address, (f.pendingSyscalls.lookup (tid, address)).map SyscallEvent.untimed =
    (u.pendingSyscalls.lookup (tid, address)).map SyscallEvent.untimed

theorem beside_init : Beside options filter tid (init options filter) (init options filter) :=
  ⟨sound_init, sound_init, fun _ => rfl⟩

theorem Beside.isSome (h : Beside options filter tid u f) (address : Nat) :
    (f.pendingSyscalls.lookup (tid, address)).isSome =
      (u.pendingSyscalls.lookup (tid, address)).isSome := by
  have hmap := congrArg Option.isSome (h.pending address)
  rwa [Option.isSome_map, Option.isSome_map] at hmap

theorem Beside.symm (h : Beside options filter tid u f) : Beside options filter tid f u :=
  ⟨h.alone, h.all, fun address => (h.pending address).symm⟩

theorem Beside.entryName (h : Beside options filter tid u f) (fn : Option String) :
    f.entryName tid fn = u.entryName tid fn := by
  have hthread : f.threadHasPending tid = u.threadHasPending tid := by
    rw [Bool.eq_iff_iff, threadHasPending_iff, threadHasPending_iff]
    simp only [← AList.lookup_isSome, h.isSome]
  unfold Tracer.entryName isDuplicate shouldTraceSyscall
  rw [hthread, h.all.registry, h.alone.registry, h.all.filter_eq, h.alone.filter_eq]

theorem Beside.isReturn (h : Beside options filter tid u f) (hstop : SameStop stop stop')
    (hr : u.IsReturn stop tid frame event) :
    ∃ event', f.IsReturn stop' tid frame event' ∧ event'.untimed = event.untimed := by
  have hmap := h.pending frame.pc
  rw [hr.pending, Option.map_some, Option.map_eq_some_iff] at hmap
  obtain ⟨event', hlookup, hun⟩ := hmap
  exact ⟨event', ⟨hstop.threadId.trans hr.thread, hstop.frame.trans hr.frame_eq, hlookup⟩, hun⟩

theorem Beside.isEntry (h : Beside options filter tid u f) (hstop : SameStop stop stop')
    (he : u.IsEntry stop tid frame name) : f.IsEntry stop' tid frame name := by
  refine ⟨hstop.threadId.trans he.thread, hstop.frame.trans he.frame_eq, ?_,
    by rw [h.entryName]; exact he.name_eq⟩
  have hsome := h.isSome frame.pc
  rwa [he.not_pending, Option.isSome_none, Option.isSome_eq_false_iff,
    Option.isNone_iff_eq_none] at hsome

/-- The events written between two states. -/
def newEvents (t t' : Tracer) : List SyscallEvent :=
  t'.written.drop t.written.length

theorem newEvents_of_append {events : List SyscallEvent}
    (h : t'.written = t.written ++ events) : t.newEvents t' = events := by
  rw [newEvents, h, List.drop_left]

theorem newEvents_self : t.newEvents t = [] :=
  newEvents_of_append (List.append_nil _).symm

/-- A stop of another thread leaves the events of the thread alone. -/
theorem Beside.other (h : Beside options filter tid u f) (hthread : stop.threadId ≠ some tid)
    (hu : u.handleStop stop = .ok u') : Beside options filter tid u' f := by
  refine ⟨(handleStop_handles hu).sound h.all, h.alone, fun address => ?_⟩
  have hspares : u.Spares (tid, address) stop := spares_of_thread_ne hthread
  rw [hspares.lookup_eq hu]
  exact h.pending address

/-- At a stop of the thread both tracers look up a stale name, or neither does. -/
theorem Beside.looksUpStaleMib (h : Beside options filter tid u f)
    (hthread : stop.threadId = some tid) (hstop : SameStop stop stop')
    (hmib : f.LooksUpStaleMib stop') : u.LooksUpStaleMib stop := by
  obtain ⟨tid', frame, event', hr', hreads⟩ := hmib
  obtain rfl : tid' = tid :=
    Option.some.inj ((hstop.threadId.symm.trans hr'.thread).symm.trans hthread)
  obtain ⟨event, hr, hun⟩ := h.symm.isReturn hstop.symm hr'
  obtain ⟨-, hname, -, -, hvals⟩ := SyscallEvent.untimed_eq_iff.mp hun
  refine ⟨tid', frame, event, hr, ?_⟩
  unfold SyscallEvent.ReadsStaleMib at hreads ⊢
  rwa [hname, hvals, h.all.options_eq, ← h.alone.options_eq]

/-- A stop of the thread does the same in both tracers. -/
theorem Beside.own (h : Beside options filter tid u f) (hthread : stop.threadId = some tid)
    (hstop : SameStop stop stop') (hmib : ¬ u.LooksUpStaleMib stop)
    (hu : u.handleStop stop = .ok u') :
    ∃ f', f.handleStop stop' = .ok f' ∧ Beside options filter tid u' f' ∧
      (f.newEvents f').map SyscallEvent.untimed = (u.newEvents u').map SyscallEvent.untimed := by
  have hsound := (handleStop_handles hu).sound h.all
  rcases u.stop_cases stop with ⟨tid', frame, event, hr⟩ | ⟨tid', frame, name, he⟩ | ⟨hr, he⟩
  · obtain rfl : tid' = tid := Option.some.inj (hr.thread.symm.trans hthread)
    obtain ⟨event', hr', hun⟩ := h.isReturn hstop hr
    obtain ⟨decoder, decoder', e, e', rfl, hf, hun', -⟩ :=
      hr.alike h.all h.alone hstop hr' hun hmib hu
    refine ⟨_, hf, ⟨hsound, (handleStop_handles hf).sound h.alone, fun address => ?_⟩, ?_⟩
    · by_cases hkey : address = frame.pc
      · subst hkey
        simp [settle, writeEvent]
      · have hne : (tid', address) ≠ (tid', frame.pc) := by simpa using hkey
        simpa [settle, writeEvent, AList.lookup_erase_ne hne] using h.pending address
    · simp [newEvents, settle, writeEvent, hun']
  · obtain rfl : tid' = tid := Option.some.inj (he.thread.symm.trans hthread)
    have he' := h.isEntry hstop he
    obtain ⟨decoder, decoder', e, e', rfl, hf, hun, -⟩ := he.alike h.all h.alone hstop he' hu
    have haddress := returnAddress_alike h.all h.alone hstop frame
    refine ⟨_, hf, ⟨hsound, (handleStop_handles hf).sound h.alone, fun address => ?_⟩, ?_⟩
    all_goals
      unfold enter
      rw [haddress]
      cases u.returnAddress stop frame with
      | none => ?_
      | some address' => ?_
    · exact h.pending address
    · by_cases hkey : address = address'
      · subst hkey
        simp [record, hun]
      · have hne : (tid', address) ≠ (tid', address') := by simpa using hkey
        simpa [record, AList.lookup_insert_ne hne] using h.pending address
    · simp [newEvents, report, writeEvent, hun]
    · simp [newEvents, record]
  · rw [handleStop_ignored hr he] at hu
    cases hu
    refine ⟨f, handleStop_ignored (fun tid' frame event' hr' => ?_) (fun tid' frame name he' => ?_),
      h, by rw [newEvents_self, newEvents_self]⟩
    · obtain rfl : tid' = tid :=
        Option.some.inj ((hstop.threadId.symm.trans hr'.thread).symm.trans hthread)
      obtain ⟨event, hr₀, -⟩ := h.symm.isReturn hstop.symm hr'
      exact hr _ _ _ hr₀
    · obtain rfl : tid' = tid :=
        Option.some.inj ((hstop.threadId.symm.trans he'.thread).symm.trans hthread)
      exact he _ _ _ (h.symm.isEntry hstop.symm he')

/-! ## The trace of a thread -/

/-- The events that a run writes, each with the thread at whose stop it was written. -/
def trace (t : Tracer) (stops : List Stop) : List (Option Nat × SyscallEvent) :=
  Run.outputs handleStop
    (fun t stop t' => (t.newEvents t').map fun event => (stop.threadId, event)) t stops

/-- The trace of one thread, without times and identities. -/
def threadTrace (t : Tracer) (tid : Nat) (stops : List Stop) : List SyscallEvent :=
  ((t.trace stops).filter fun e => e.1 = some tid).map fun e => e.2.untimed

theorem run_trace (h : t.run stops = .ok t') :
    t'.written = t.written ++ (t.trace stops).map Prod.snd := by
  induction stops generalizing t with
  | nil =>
    rw [← Run.nil_ok.mp h]
    exact (List.append_nil _).symm
  | cons stop stops ih =>
    obtain ⟨s, hstop, h⟩ := Run.cons_ok.mp h
    obtain ⟨new, hnew⟩ := (handleStop_handles hstop).written_isPrefix
    rw [ih h, trace, trace, Run.outputs_cons _ hstop, newEvents_of_append hnew.symm, ← hnew,
      List.map_append, List.map_map, List.append_assoc]
    exact congrArg _ (congrArg (· ++ _) (List.map_id _).symm)

/-- What the thread trace takes from a stop. -/
def threadOutput (tid : Nat) (t : Tracer) (stop : Stop) (t' : Tracer) : List SyscallEvent :=
  if stop.threadId = some tid then (t.newEvents t').map SyscallEvent.untimed else []

theorem threadTrace_eq (t : Tracer) (tid : Nat) (stops : List Stop) :
    t.threadTrace tid stops = Run.outputs handleStop (threadOutput tid) t stops := by
  unfold threadTrace trace
  rw [Run.filter_outputs, Run.map_outputs]
  congr 1
  funext t stop t'
  unfold threadOutput
  rw [List.filter_map, List.map_map]
  split_ifs with hthread <;> simp [hthread, Function.comp_def]

/-- The stops of a thread. -/
def stopsOf (tid : Nat) (stops : List Stop) : List Stop :=
  stops.filter fun stop => stop.threadId = some tid

/-- A stop without a thread is ignored. -/
theorem handleStop_of_idle (h : stop.threadId = none) : t.handleStop stop = .ok t := by
  rw [handleStop, h]

theorem mem_trace {e : Option Nat × SyscallEvent} (h : e ∈ t.trace stops) :
    ∃ stop ∈ stops, stop.threadId = e.1 ∧ e.1 ≠ none := by
  obtain ⟨stop, hstop, t₁, t₂, hstep, he⟩ := Run.mem_outputs h
  obtain ⟨event, hnew, rfl⟩ := List.mem_map.mp he
  refine ⟨stop, hstop, rfl, fun hidle => ?_⟩
  cases hstep.symm.trans (handleStop_of_idle hidle)
  rw [newEvents_self] at hnew
  cases hnew

/-- Where all stops are of one thread, its trace is the whole trace. -/
theorem threadTrace_of_alone (hstops : ∀ stop ∈ stops, stop.threadId = some tid) :
    t.threadTrace tid stops = ((t.trace stops).map Prod.snd).map SyscallEvent.untimed := by
  have hall : ∀ e ∈ t.trace stops, decide (e.1 = some tid) = true := fun e he => by
    obtain ⟨stop, hmem, hthread, -⟩ := mem_trace he
    simpa [hthread] using hstops stop hmem
  rw [threadTrace, List.filter_eq_self.mpr hall, List.map_map]
  rfl

/-- No stop of the run looks up a type under an earlier name. -/
def NoStaleMib (t : Tracer) (stops : List Stop) : Prop :=
  Run.Along handleStop (fun t stop => ¬ t.LooksUpStaleMib stop) t stops

/-- Beside others a thread is traced as it is alone. -/
theorem Beside.run (h : Beside options filter tid u f) (hmib : u.NoStaleMib stops)
    (hu : u.run stops = .ok u') (hstops : List.Forall₂ SameStop (stopsOf tid stops) stops') :
    f.NoStaleMib stops' ∧ ∃ f', f.run stops' = .ok f' ∧ Beside options filter tid u' f' ∧
      f.threadTrace tid stops' = u.threadTrace tid stops := by
  rw [threadTrace_eq, threadTrace_eq]
  refine Run.projection (fun u f stop u' hR hown hu => ?_)
    (fun u f stop stop' u' hR hmib hown hstop hu => ?_) h hmib hu hstops
  · have hthread : stop.threadId ≠ some tid := by simpa using hown
    exact ⟨hR.other hthread hu, if_neg hthread⟩
  · have hthread : stop.threadId = some tid := by simpa using hown
    obtain ⟨f', hf, hR', hnew⟩ := hR.own hthread hstop hmib hu
    refine ⟨fun hreads => hmib (hR.looksUpStaleMib hthread hstop hreads), f', hf, hR', ?_⟩
    rw [threadOutput, threadOutput, if_pos hthread, if_pos (hstop.threadId.trans hthread), hnew]

theorem threadId_of_stopsOf {l l' : List Stop} (h : List.Forall₂ SameStop l l')
    (hl : ∀ stop ∈ l, stop.threadId = some tid) : ∀ stop ∈ l', stop.threadId = some tid := by
  induction h with
  | nil => exact hl
  | cons hsame _ ih =>
    obtain ⟨hfirst, hrest⟩ := List.forall_mem_cons.mp hl
    exact List.forall_mem_cons.mpr ⟨hsame.threadId.trans hfirst, ih hrest⟩

theorem threadId_of_mem_stopsOf : ∀ stop ∈ stopsOf tid stops, stop.threadId = some tid := by
  simp [stopsOf]

/-- **A thread is traced as if it were alone.** The events that are written at the stops of a thread
are those that a tracer writes that sees its stops only. -/
theorem thread_traced_alone (hu : (init options filter).run stops = .ok u)
    (hmib : (init options filter).NoStaleMib stops)
    (hstops : List.Forall₂ SameStop (stopsOf tid stops) stops') :
    ∃ f, (init options filter).run stops' = .ok f ∧
      (init options filter).threadTrace tid stops = f.written.map SyscallEvent.untimed := by
  obtain ⟨-, f, hf, -, htrace⟩ := beside_init.run hmib hu hstops
  refine ⟨f, hf, ?_⟩
  rw [← htrace, run_trace hf,
    threadTrace_of_alone (threadId_of_stopsOf hstops threadId_of_mem_stopsOf)]
  rfl

/-! ## The order of the threads -/

/-- Two lists of stops in which each thread makes the same stops, in whatever order the threads run.
-/
def SameThreads (stops stops' : List Stop) : Prop :=
  ∀ tid, List.Forall₂ SameStop (stopsOf tid stops) (stopsOf tid stops')

/-- A run over the stops of all threads goes through when the run of each thread does. -/
theorem run_of_threads {s : Tracer} {alone : Nat → Tracer}
    (hbeside : ∀ tid, Beside options filter tid s (alone tid))
    (h : ∀ tid, ∃ f', (alone tid).run (stopsOf tid stops) = .ok f')
    (hmib : ∀ tid, (alone tid).NoStaleMib (stopsOf tid stops)) :
    s.NoStaleMib stops ∧ ∃ s', s.run stops = .ok s' := by
  refine Run.composition (p := Stop.threadId) (fun s stop hidle => ?_)
    (fun tid s f stop s' hR hthread hs => hR.other hthread hs)
    (fun tid s f stop f' hR hmib hthread hf => ?_) hbeside h hmib
  · refine ⟨fun ⟨tid, frame, event, hr, _⟩ => ?_, handleStop_of_idle hidle⟩
    cases hidle.symm.trans hr.thread
  · obtain ⟨s', hs, hR', -⟩ := hR.symm.own hthread .refl hmib hf
    exact ⟨fun hreads => hmib (hR.symm.looksUpStaleMib hthread .refl hreads), s', hs, hR'.symm⟩

/-- The trace is made up of the traces of the threads. -/
theorem trace_of_thread (t : Tracer) (tid : Nat) (stops : List Stop) :
    ((t.trace stops).map (Prod.map id SyscallEvent.untimed)).filter (fun e => e.1 = some tid) =
      (t.threadTrace tid stops).map fun event => (some tid, event) := by
  rw [List.filter_map, threadTrace, List.map_map]
  refine List.map_congr_left fun e he => ?_
  have hthread : e.1 = some tid := by simpa using (List.mem_filter.mp he).2
  exact Prod.ext hthread rfl

theorem trace_of_no_thread (t : Tracer) (stops : List Stop) :
    ((t.trace stops).map (Prod.map id SyscallEvent.untimed)).filter (fun e => e.1 = none) = [] := by
  rw [List.filter_map]
  refine List.map_eq_nil_iff.mpr (List.filter_eq_nil_iff.mpr fun e he => ?_)
  simpa using (mem_trace he).choose_spec.2.2

/-- Runs in which every thread has the same trace write the same events. -/
theorem trace_perm (htraces : ∀ tid, t'.threadTrace tid stops' = t.threadTrace tid stops) :
    (((t'.trace stops').map Prod.snd).map SyscallEvent.untimed).Perm
      (((t.trace stops).map Prod.snd).map SyscallEvent.untimed) := by
  have hperm : ((t'.trace stops').map (Prod.map id SyscallEvent.untimed)).Perm
      ((t.trace stops).map (Prod.map id SyscallEvent.untimed)) := by
    refine List.perm_of_parts fun thread => ?_
    cases thread with
    | none => rw [trace_of_no_thread, trace_of_no_thread]
    | some tid => rw [trace_of_thread, trace_of_thread, htraces]
  have hmap : ∀ l : List (Option Nat × SyscallEvent), (l.map Prod.snd).map SyscallEvent.untimed =
      (l.map (Prod.map id SyscallEvent.untimed)).map Prod.snd := fun l => by
    rw [List.map_map, List.map_map]
    rfl
  rw [hmap, hmap]
  exact hperm.map _

/-- **The order in which the threads run does not matter.** If each thread makes the same stops, the
trace goes through in any order of the threads; each thread has the same trace, the same events are
written, and the summary is the same. -/
theorem schedule_independent (h : (init options filter).run stops = .ok t)
    (hmib : (init options filter).NoStaleMib stops) (hthreads : SameThreads stops stops') :
    ∃ t', (init options filter).run stops' = .ok t' ∧
      (∀ tid, (init options filter).threadTrace tid stops' =
        (init options filter).threadTrace tid stops) ∧
      (t'.written.map SyscallEvent.untimed).Perm (t.written.map SyscallEvent.untimed) ∧
      ∀ percent, formatSummary percent t'.summary = formatSummary percent t.summary := by
  have halone := fun tid => beside_init.run hmib h (hthreads tid)
  obtain ⟨hmib', t', h'⟩ := run_of_threads (fun tid => beside_init)
    (fun tid => (halone tid).2.imp fun _ hf => hf.1) fun tid => (halone tid).1
  have htraces : ∀ tid, (init options filter).threadTrace tid stops' =
      (init options filter).threadTrace tid stops := fun tid => by
    obtain ⟨-, f, -, -, hf⟩ := halone tid
    obtain ⟨-, f', -, -, hf'⟩ :=
      beside_init.run hmib' h' (List.forall₂_same.mpr fun _ _ => SameStop.refl)
    exact hf'.symm.trans hf
  have hperm := trace_perm htraces
  have hwritten : ∀ {s : Tracer} {ss : List Stop}, (init options filter).run ss = .ok s →
      s.written = ((init options filter).trace ss).map Prod.snd := fun hs => run_trace hs
  rw [← hwritten h', ← hwritten h] at hperm
  refine ⟨t', h', htraces, hperm, fun percent => formatSummary_congr ?_ percent⟩
  rw [run_summary_eq h', run_summary_eq h]
  refine summaryRows_of_perm ?_
  have htally := hperm.map SyscallEvent.tally
  rwa [List.map_map, List.map_map] at htally

/-- A run that writes no event of `sysctl` looks up no type under an earlier name. -/
theorem noStaleMib_of_written (h : t.run stops = .ok t')
    (hnames : ∀ event ∈ t'.written, event.syscallName ≠ "sysctl") : t.NoStaleMib stops := by
  induction stops generalizing t with
  | nil => exact Run.along_nil
  | cons stop stops ih =>
    obtain ⟨s, hstop, hrun⟩ := Run.cons_ok.mp h
    refine (Run.along_cons_of_ok hstop).mpr ⟨?_, ih hrun⟩
    rintro ⟨tid, frame, event, hr, hname, -⟩
    obtain ⟨event', decoder, hc, rfl⟩ := hr.handled hstop
    have hmem : event' ∈ t'.written := by
      rw [run_trace hrun]
      exact List.mem_append_left _ (List.mem_append_right _ (List.mem_singleton.mpr rfl))
    obtain ⟨args, rfl⟩ := completeEvent_eq hc
    exact hnames _ hmem hname

/-! ## Two threads -/

/-- Thread `tid` enters `functionName` and is to return to `address`. -/
def enterStop (tid : Nat) (functionName : String) (address : BitVec 64) : Stop :=
  sampleStop tid 0x100 functionName [("lr", address), ("x0", 3)]

def returnStop (tid address : Nat) : Stop :=
  sampleStop tid address "main" [("x0", 0)]

/-- While thread 1 is inside `close`, a signal handler calls `close`, and so does thread 2. -/
def twoThreads : List Stop :=
  [enterStop 1 "close" 0x500, enterStop 2 "close" 0x600, enterStop 1 "__close" 0x400,
    enterStop 1 "close" 0x700, returnStop 2 0x600, returnStop 1 0x700, returnStop 1 0x500]

/-- The stops of thread 2 first. -/
def oneByOne : List Stop :=
  [enterStop 2 "close" 0x600, returnStop 2 0x600, enterStop 1 "close" 0x500,
    enterStop 1 "__close" 0x400, enterStop 1 "close" 0x700, returnStop 1 0x700,
    returnStop 1 0x500]

theorem run_twoThreads : ∃ t, (init sampleOptions .all).run twoThreads = .ok t ∧
    t.account = ⟨3, [(1, "close", .int 0), (2, "close", .int 0), (0, "close", .int 0)], []⟩ ∧
    (init sampleOptions .all).NoStaleMib twoThreads := by
  obtain ⟨t, ht, haccount⟩ := run_of_account (t := init sampleOptions .all) twoThreads
    ⟨3, [(1, "close", .int 0), (2, "close", .int 0), (0, "close", .int 0)], []⟩
    (by rw [init_eq_initByNumber]; decide +kernel)
  refine ⟨t, ht, haccount, noStaleMib_of_written ht fun event hmem => ?_⟩
  have hwritten : (event.serial, event.syscallName, event.returnValue) ∈ t.account.written :=
    List.mem_map_of_mem hmem
  rw [haccount] at hwritten
  simp only [List.mem_cons, Prod.mk.injEq, List.not_mem_nil, or_false] at hwritten
  rcases hwritten with ⟨-, hname, -⟩ | ⟨-, hname, -⟩ | ⟨-, hname, -⟩ <;> rw [hname] <;> decide

theorem thread_traced_alone_twoThreads : ∃ f,
    (init sampleOptions .all).run [enterStop 2 "close" 0x600, returnStop 2 0x600] = .ok f ∧
    (init sampleOptions .all).threadTrace 2 twoThreads =
      f.written.map SyscallEvent.untimed := by
  obtain ⟨t, ht, -, hmib⟩ := run_twoThreads
  exact thread_traced_alone ht hmib (List.forall₂_same.mpr fun _ _ => SameStop.refl)

theorem schedule_independent_twoThreads : ∃ t t',
    (init sampleOptions .all).run twoThreads = .ok t ∧
    (init sampleOptions .all).run oneByOne = .ok t' ∧
    (t'.written.map SyscallEvent.untimed).Perm (t.written.map SyscallEvent.untimed) := by
  obtain ⟨t, ht, -, hmib⟩ := run_twoThreads
  have hthreads : SameThreads twoThreads oneByOne := fun tid => by
    have hstops : stopsOf tid twoThreads = stopsOf tid oneByOne := by
      by_cases h₁ : tid = 1
      · subst h₁
        rfl
      · by_cases h₂ : tid = 2
        · subst h₂
          rfl
        · simp [stopsOf, twoThreads, oneByOne, enterStop, returnStop, sampleStop, Ne.symm h₁,
            Ne.symm h₂]
    rw [hstops]
    exact List.forall₂_same.mpr fun _ _ => SameStop.refl
  obtain ⟨t', ht', -, hperm, -⟩ := schedule_independent ht hmib hthreads
  exact ⟨t, t', ht, ht', hperm⟩

end Tracer

end StraceMacos
