import StraceMacos.Library.Projection
import StraceMacos.Proofs.ContextProofs
import StraceMacos.Proofs.SystemProofs

/-!
# Filtered and unfiltered traces

The process is traced twice, with a filter and without. As long as the calls do not get into the way
of each other in the trace without the filter, the pending events with the filter are those without
it that pass, and the same holds of the written events.
-/

namespace StraceMacos

/-- The event without its time and without the identities of Python objects. -/
def SyscallEvent.untimed (event : SyscallEvent) : SyscallEvent :=
  { event with timestamp := 0, serial := 0, rawArgs := ⟨0, event.rawArgs.vals⟩ }

theorem SyscallEvent.untimed_eq_iff {event event' : SyscallEvent} :
    event'.untimed = event.untimed ↔ event'.pid = event.pid ∧
      event'.syscallName = event.syscallName ∧ event'.args = event.args ∧
      event'.returnValue = event.returnValue ∧ event'.rawArgs.vals = event.rawArgs.vals := by
  simp [untimed]

/-- The name of the event passes the filter. -/
def Filter.passes (filter : Filter) (event : SyscallEvent) : Bool :=
  filter.shouldTraceSyscall SyscallRegistry.init event.syscallName

/-- Two stops that differ at most in their time and in the identity of a new list. -/
structure SameStop (stop stop' : Stop) : Prop where
  process : stop'.process = stop.process
  pid : stop'.pid = stop.pid
  reason : stop'.reason = stop.reason
  threadId : stop'.threadId = stop.threadId
  frame : stop'.frame = stop.frame

inductive SameMove : Move → Move → Prop where
  | reach {arrival arrival' : Arrival} (atEntry : Bool)
      (h : SameStop arrival.stop arrival'.stop) :
      SameMove (.reach arrival atEntry) (.reach arrival' atEntry)
  | interrupt {stop stop' : Stop} (h : SameStop stop stop') :
      SameMove (.interrupt stop) (.interrupt stop')

theorem SameMove.stop {m m' : Move} (h : SameMove m m') : SameStop m.stop m'.stop := by
  cases h <;> assumption

theorem SameStop.arrival {arrival arrival' : Arrival} (h : SameStop arrival.stop arrival'.stop) :
    arrival'.tid = arrival.tid ∧ arrival'.frame = arrival.frame := by
  have ht := h.threadId
  have hf := h.frame
  rw [arrival.thread_eq, arrival'.thread_eq] at ht
  rw [arrival.frame_eq, arrival'.frame_eq] at hf
  exact ⟨Option.some.inj ht, Option.some.inj hf⟩

theorem SameMove.returnKey {m m' : Move} (h : SameMove m m') : m'.returnKey = m.returnKey := by
  cases h with
  | reach atEntry h =>
    obtain ⟨htid, hframe⟩ := h.arrival
    simp only [Move.returnKey, htid, hframe]
  | interrupt => rfl

theorem SameMove.touches {m m' : Move} (h : SameMove m m') (key : PendingKey) :
    m'.touches key = m.touches key := by
  cases h with
  | reach atEntry h => simp only [Move.touches, h.arrival.2]
  | interrupt h => simp only [Move.touches, h.threadId, h.frame]

namespace Tracer

variable {t t' u f : Tracer} {m m' : Move} {stop stop' : Stop} {tid : Nat} {frame : Frame}
variable {name : String} {event : SyscallEvent} {options : Options} {filter : Filter}

/-! ## One-shot breakpoints of pending calls -/

/-- One-shot breakpoints are set at the return addresses of the pending calls and nowhere else. -/
def Armed (t : Tracer) : Prop :=
  ∀ address, address ∈ t.target.oneShots ↔ ∃ tid, (tid, address) ∈ t.pendingSyscalls

/-- In the move only the pending call that returns has its return address. -/
def Alone (t : Tracer) (m : Move) : Prop :=
  ∀ key ∈ t.pendingSyscalls, m.touches key = true → m.returnKey = some key

theorem isReturn_of_returnKey {key : PendingKey} (hkey : m.returnKey = some key)
    (hl : t.pendingSyscalls.lookup key = some event) :
    ∃ frame, t.IsReturn m.stop key.1 frame event := by
  cases m with
  | reach arrival atEntry =>
    cases hkey
    exact ⟨arrival.frame, arrival.thread_eq, arrival.frame_eq, hl⟩
  | interrupt => cases hkey

/-- After the breakpoints at an address are gone those of the other pending calls are left. -/
theorem Armed.disarm (ha : t.Armed) (hal : t.Alone m) (address : Nat) :
    address ∈ (t.disarm m).target.oneShots ↔
      ∃ tid, (tid, address) ∈ t.pendingSyscalls ∧ m.returnKey ≠ some (tid, address) := by
  cases m with
  | interrupt stop => simpa [Tracer.disarm, Move.returnKey] using ha address
  | reach arrival atEntry =>
    show address ∈ t.target.oneShots.filter (· ≠ arrival.frame.pc) ↔ _
    rw [List.mem_filter, ha address]
    constructor
    · rintro ⟨⟨tid, hmem⟩, hne⟩
      refine ⟨tid, hmem, fun hkey => ?_⟩
      cases hkey
      simp at hne
    · rintro ⟨tid, hmem, hkey⟩
      refine ⟨⟨tid, hmem⟩, ?_⟩
      by_contra hpc
      have hpc : address = arrival.frame.pc := by simpa using hpc
      exact hkey (hal _ hmem (by simp [Move.touches, hpc]))

/-- **The breakpoints follow the pending calls in a move in which they are alone.** -/
theorem Armed.move (ha : t.Armed) (hal : t.Alone m) (h : t.move m = .ok t') : t'.Armed := by
  rcases move_cases h with ⟨-, rfl⟩ | ⟨-, h⟩
  · exact ha
  · have hdisarm := ha.disarm hal
    -- Without a return all pending calls keep their breakpoints.
    have hkept : (∀ tid frame event, ¬ t.IsReturn m.stop tid frame event) → ∀ address,
        address ∈ (t.disarm m).target.oneShots ↔ ∃ tid, (tid, address) ∈ t.pendingSyscalls := by
      intro hn address
      rw [hdisarm address]
      refine exists_congr fun tid => and_iff_left_of_imp fun hmem hkey => ?_
      obtain ⟨event, hl⟩ := mem_pending_iff.mp hmem
      obtain ⟨frame, hr⟩ := isReturn_of_returnKey hkey hl
      exact hn _ _ _ hr
    cases h with
    | ignored hn =>
      intro address
      rw [disarm_pendingSyscalls]
      exact hkept (fun tid frame event hr => hn _ _ _ (disarm_isReturn.mpr hr)) address
    | @returned tid frame event event' decoder hr hc =>
      have hr := disarm_isReturn.mp hr
      have hkey := hal _ hr.mem (touches_of_isReturn hr)
      intro address
      show address ∈ (t.disarm m).target.oneShots ↔
        ∃ tid', (tid', address) ∈ (t.disarm m).pendingSyscalls.erase (tid, frame.pc)
      rw [hdisarm address, disarm_pendingSyscalls]
      refine exists_congr fun tid' => ?_
      rw [AList.mem_erase, hkey, and_comm]
      exact and_congr_left fun _ =>
        not_congr ⟨fun h => (Option.some.inj h).symm, fun h => by rw [h]⟩
    | reported he =>
      intro address
      show address ∈ (t.disarm m).target.oneShots ↔
        ∃ tid, (tid, address) ∈ (t.disarm m).pendingSyscalls
      rw [disarm_pendingSyscalls]
      exact hkept (fun tid frame event hr => hr.not_isEntry (disarm_isEntry.mp he)) address
    | @recorded tid frame name args rawArgs decoder address' he =>
      intro address
      show address ∈ (t.disarm m).target.oneShots ++ [address'] ↔
        ∃ tid', (tid', address) ∈ (t.disarm m).pendingSyscalls.insert (tid, address') _
      rw [List.mem_append, List.mem_singleton, disarm_pendingSyscalls,
        hkept (fun tid frame event hr => hr.not_isEntry (disarm_isEntry.mp he)) address]
      simp only [AList.mem_insert, Prod.mk.injEq]
      constructor
      · rintro (⟨tid', hmem⟩ | rfl)
        · exact ⟨tid', .inr hmem⟩
        · exact ⟨tid, .inl ⟨rfl, rfl⟩⟩
      · rintro ⟨tid', ⟨rfl, rfl⟩ | hmem⟩
        · exact .inr rfl
        · exact .inl ⟨tid', hmem⟩

/-! ## Two tracers at one stop -/

/-- The tracer `f` has the pending and the written events of `u` that pass the filter. -/
structure Matched (options : Options) (filter : Filter) (u f : Tracer) : Prop where
  all : u.Sound options .all
  filtered : f.Sound options filter
  pending : Projection filter.passes SyscallEvent.untimed SyscallEvent.untimed u.pendingSyscalls
    f.pendingSyscalls
  written : f.written.map SyscallEvent.untimed =
    (u.written.filter filter.passes).map SyscallEvent.untimed

theorem passes_congr {event event' : SyscallEvent} (h : event'.syscallName = event.syscallName) :
    filter.passes event' = filter.passes event := by
  unfold Filter.passes
  rw [h]

/-- Both tracers write events that look alike and pass. -/
theorem map_untimed_append {event' : SyscallEvent} {written written' : List SyscallEvent}
    (h : written'.map SyscallEvent.untimed =
      (written.filter filter.passes).map SyscallEvent.untimed)
    (hp : filter.passes event = true) (heq : event'.untimed = event.untimed) :
    (written' ++ [event']).map SyscallEvent.untimed =
      ((written ++ [event]).filter filter.passes).map SyscallEvent.untimed := by
  rw [List.filter_append, List.map_append, List.map_append, h, List.filter_cons_of_pos hp]
  simp [heq]

/-- One tracer writes an event that does not pass. -/
theorem map_untimed_skip {written written' : List SyscallEvent}
    (h : written'.map SyscallEvent.untimed =
      (written.filter filter.passes).map SyscallEvent.untimed)
    (hp : filter.passes event = false) :
    written'.map SyscallEvent.untimed =
      ((written ++ [event]).filter filter.passes).map SyscallEvent.untimed := by
  rw [List.filter_append, List.filter_cons_of_neg (by simp [hp]), h]
  simp

/-- A return that both tracers see. -/
theorem Matched.returned (h : Matched options filter u f) (hstop : SameStop stop stop')
    (hr : u.IsReturn stop tid frame event) (hp : filter.passes event = true)
    (hmib : ¬ event.ReadsStaleMib options.arch frame) (hok : ¬ u.MeetsNullBase stop) :
    ∃ u' f', u.handleStop stop = .ok u' ∧ f.handleStop stop' = .ok f' ∧
      Matched options filter u' f' := by
  obtain ⟨event', hlookup, hun⟩ := h.pending.lookup_of_pos hr.pending hp
  obtain ⟨hpid, hname, hargs, hval, hvals⟩ := SyscallEvent.untimed_eq_iff.mp hun
  have hr' : f.IsReturn stop' tid frame event' :=
    ⟨hstop.threadId.trans hr.thread, hstop.frame.trans hr.frame_eq, hlookup⟩
  have hvalue : decodeReturnValue SyscallRegistry.init options.arch options.noAbbrev frame event' =
      decodeReturnValue SyscallRegistry.init options.arch options.noAbbrev frame event := by
    unfold decodeReturnValue
    rw [hname, hvals]
  have hok' : ¬ f.MeetsNullBase stop' := by
    rintro (⟨he, -, -⟩ | ⟨hret, hd, rfl, hsuccess, hnull⟩)
    · exact hr'.not_isEntry he
    · obtain ⟨rfl, rfl, rfl⟩ := hr'.unique hret
      rw [h.filtered.registry, h.filtered.options_eq, hvalue] at hsuccess hnull
      rw [h.filtered.registry, hname, ← h.all.registry] at hd
      set value := decodeReturnValue SyscallRegistry.init options.arch options.noAbbrev frame event
        with hv
      have hv' : value =
          decodeReturnValue u.registry u.options.arch u.options.noAbbrev frame event := by
        rw [h.all.registry, h.all.options_eq]
      rw [hstop.process, SyscallDef.nullBaseAtExit_congr { event with returnValue := value }
        { event' with returnValue := value } hvals hargs rfl] at hnull
      refine hok (.exit hr hd hv' hsuccess ?_)
      rw [h.all.options_eq]
      exact hnull
  obtain ⟨u', hu⟩ := (handleStop_returns_iff h.all).mpr hok
  obtain ⟨f', hf⟩ := (handleStop_returns_iff h.filtered).mpr hok'
  refine ⟨u', f', hu, hf, (handleStop_handles hu).sound h.all,
    (handleStop_handles hf).sound h.filtered, ?_, ?_⟩
  all_goals
    obtain ⟨e, decoder, hc, rfl⟩ := hr.handled hu
    obtain ⟨e', decoder', hc', rfl⟩ := hr'.handled hf
  · exact h.pending.erase _
  · obtain ⟨hargs', hvalue'⟩ := completeEvent_congr h.all h.filtered rfl rfl hstop.process rfl rfl
      hname hvals hargs (fun _ _ _ hreads => absurd hreads hmib) hc hc'
    obtain ⟨args, rfl⟩ := completeEvent_eq hc
    obtain ⟨args', rfl⟩ := completeEvent_eq hc'
    exact map_untimed_append h.written ((passes_congr rfl).trans hp)
      (SyscallEvent.untimed_eq_iff.mpr ⟨hpid, hname, hargs', hvalue', hvals⟩)

/-- A return of a call that does not pass; the other tracer sees no stop. -/
theorem Matched.returned_left (h : Matched options filter u f)
    (hr : u.IsReturn stop tid frame event) (hp : filter.passes event = false)
    (hok : ¬ u.MeetsNullBase stop) :
    ∃ u', u.handleStop stop = .ok u' ∧ Matched options filter u' f := by
  obtain ⟨u', hu⟩ := (handleStop_returns_iff h.all).mpr hok
  refine ⟨u', hu, (handleStop_handles hu).sound h.all, h.filtered, ?_, ?_⟩
  all_goals obtain ⟨e, decoder, hc, rfl⟩ := hr.handled hu
  · refine h.pending.erase_left fun a ha => ?_
    cases hr.pending.symm.trans ha
    exact hp
  · obtain ⟨args, rfl⟩ := completeEvent_eq hc
    exact map_untimed_skip h.written ((passes_congr rfl).trans hp)

/-! ### Entries -/

/-- A stop that the filtered tracer takes for a duplicate is one for the other tracer too, and the
converse holds where the thread has a pending call that passes. -/
theorem Matched.entryName (h : Matched options filter u f) {fn : Option String}
    (hdup : ∀ functionName d, fn = some functionName →
      SyscallRegistry.init.lookupByName (Text.lstrip '_' functionName) = some d →
      filter.shouldTraceSyscall SyscallRegistry.init d.name = true →
      u.isDuplicate tid functionName d = true →
      ∃ address event, u.pendingSyscalls.lookup (tid, address) = some event ∧
        filter.passes event = true) :
    f.entryName tid fn = (u.entryName tid fn).filter
      (filter.shouldTraceSyscall SyscallRegistry.init) := by
  have hthread : f.threadHasPending tid = true → u.threadHasPending tid = true := by
    rw [threadHasPending_iff, threadHasPending_iff]
    exact fun ⟨address, hmem⟩ => ⟨address, h.pending.mem hmem⟩
  unfold Tracer.entryName
  cases fn with
  | none => rfl
  | some functionName =>
    by_cases hempty : functionName = ""
    · simp [hempty]
    simp only [if_neg hempty, h.all.registry, h.filtered.registry]
    cases hd : SyscallRegistry.init.lookupByName (Text.lstrip '_' functionName) with
    | none => rfl
    | some d =>
      obtain ⟨hname, -⟩ := SyscallRegistry.lookupByName_eq_some hd
      have hall : u.shouldTraceSyscall (Text.lstrip '_' functionName) = true := by
        unfold shouldTraceSyscall
        rw [h.all.filter_eq]
        rfl
      have hfiltered : f.shouldTraceSyscall (Text.lstrip '_' functionName) =
          filter.shouldTraceSyscall SyscallRegistry.init (Text.lstrip '_' functionName) := by
        unfold shouldTraceSyscall
        rw [h.filtered.filter_eq, h.filtered.registry]
      simp only [hall, hfiltered, if_true]
      cases hp : filter.shouldTraceSyscall SyscallRegistry.init (Text.lstrip '_' functionName) with
      | false =>
        cases f.isDuplicate tid functionName d <;> cases u.isDuplicate tid functionName d <;>
          simp [Option.filter_some, hp]
      | true =>
        have hiff : f.isDuplicate tid functionName d = u.isDuplicate tid functionName d := by
          cases hu : u.isDuplicate tid functionName d with
          | false =>
            unfold isDuplicate at hu ⊢
            rw [Bool.and_eq_false_iff] at hu ⊢
            refine hu.imp_right fun hno => ?_
            rw [← Bool.not_eq_true] at hno ⊢
            exact fun hf => hno (hthread hf)
          | true =>
            obtain ⟨address, event, hl, hpass⟩ :=
              hdup functionName d rfl hd (by rw [hname]; exact hp) hu
            obtain ⟨event', hl', -⟩ := h.pending.lookup_of_pos hl hpass
            have hthread' : f.threadHasPending tid = true :=
              threadHasPending_iff.mpr ⟨address, mem_pending_iff.mpr ⟨event', hl'⟩⟩
            unfold isDuplicate at hu ⊢
            rw [Bool.and_eq_true] at hu ⊢
            exact ⟨hu.1, hthread'⟩
        rw [hiff]
        cases u.isDuplicate tid functionName d <;> simp [Option.filter_some, hp]

/-- At an entry no call that does not pass is stored over one that does, and an `__implementation`
that passes is dropped only if its thread has a pending call that passes. -/
structure EntryProjects (filter : Filter) (t : Tracer) (stop : Stop) : Prop where
  free : ∀ tid frame name address event, t.IsEntry stop tid frame name →
    t.returnAddress stop frame = some address →
    t.pendingSyscalls.lookup (tid, address) = some event → filter.passes event = true →
    filter.shouldTraceSyscall SyscallRegistry.init name = true
  duplicate : ∀ tid frame functionName d, stop.threadId = some tid → stop.frame = some frame →
    frame.functionName = some functionName →
    t.pendingSyscalls.lookup (tid, frame.pc) = none →
    SyscallRegistry.init.lookupByName (Text.lstrip '_' functionName) = some d →
    filter.shouldTraceSyscall SyscallRegistry.init d.name = true →
    t.isDuplicate tid functionName d = true →
    ∃ address event, t.pendingSyscalls.lookup (tid, address) = some event ∧
      filter.passes event = true

/-- A stop that is no return, seen by both tracers. -/
theorem Matched.entered (h : Matched options filter u f) (hstop : SameStop stop stop')
    (hn : ∀ tid frame event, ¬ u.IsReturn stop tid frame event)
    (hentry : u.EntryProjects filter stop) (hok : ¬ u.MeetsNullBase stop) :
    ∃ u' f', u.handleStop stop = .ok u' ∧ f.handleStop stop' = .ok f' ∧
      Matched options filter u' f' := by
  have hlookup : ∀ tid frame, stop.threadId = some tid → stop.frame = some frame →
      u.pendingSyscalls.lookup (tid, frame.pc) = none := fun tid frame ht hf =>
    lookup_eq_none_of_not_isReturn hn ht hf
  have hfname : ∀ tid frame, stop.threadId = some tid → stop.frame = some frame →
      f.entryName tid frame.functionName = (u.entryName tid frame.functionName).filter
        (filter.shouldTraceSyscall SyscallRegistry.init) := fun tid frame ht hf =>
    h.entryName fun fn d hfn hd hp hdup =>
      hentry.duplicate tid frame fn d ht hf hfn (hlookup tid frame ht hf) hd hp hdup
  have hlookup' : ∀ tid frame, stop.threadId = some tid → stop.frame = some frame →
      f.pendingSyscalls.lookup (tid, frame.pc) = none := fun tid frame ht hf =>
    h.pending.lookup_eq_none_of_eq_none (hlookup tid frame ht hf)
  obtain ⟨u', hu⟩ := (handleStop_returns_iff h.all).mpr hok
  rcases u.stop_cases stop with ⟨tid, frame, event, hr⟩ | ⟨tid, frame, name, he⟩ | ⟨-, hi⟩
  · exact absurd hr (hn _ _ _)
  · obtain ⟨args, rawArgs, decoder, hdec, heq⟩ := he.handled hu
    have hname := hfname tid frame he.thread he.frame_eq
    rw [he.name_eq, Option.filter_some] at hname
    cases hp : filter.shouldTraceSyscall SyscallRegistry.init name with
    | false =>
      -- Only the unfiltered tracer makes an event.
      rw [hp] at hname
      refine ⟨u', f, hu, handleStop_of_entryName_none (hstop.threadId.trans he.thread)
        (hstop.frame.trans he.frame_eq) (hlookup' tid frame he.thread he.frame_eq) hname,
        (handleStop_handles hu).sound h.all, h.filtered, ?_, ?_⟩
      all_goals
        rw [heq]
        unfold enter
        cases hra : u.returnAddress stop frame with
        | none => ?_
        | some address => ?_
      · exact h.pending
      · refine h.pending.insert_left hp fun event hl => ?_
        by_contra hpass
        have := hentry.free tid frame name address event he hra hl (by simpa using hpass)
        rw [hp] at this
        cases this
      · exact map_untimed_skip h.written hp
      · exact h.written
    | true =>
      rw [hp] at hname
      have he' : f.IsEntry stop' tid frame name := ⟨hstop.threadId.trans he.thread,
        hstop.frame.trans he.frame_eq, hlookup' tid frame he.thread he.frame_eq, hname⟩
      obtain ⟨d, hd⟩ := entryName_lookup he.name_eq
      rw [h.all.registry] at hd
      have hnull := (decodeEntry_ok_iff h.all hd).mp ⟨_, hdec⟩
      rw [← SyscallDef.nullBaseAtEntry_congr stop'.listId, ← hstop.process] at hnull
      obtain ⟨f', hf⟩ := he'.returns_iff.mpr ((decodeEntry_ok_iff h.filtered hd).mpr hnull)
      obtain ⟨args', rawArgs', decoder', hdec', heq'⟩ := he'.handled hf
      obtain ⟨hargs, hvals⟩ := decodeEntry_congr h.all h.filtered rfl rfl hstop.process rfl hd hdec
        hdec'
      have hra' : f.returnAddress stop' frame = u.returnAddress stop frame := by
        unfold returnAddress
        rw [h.filtered.options_eq, h.all.options_eq, hstop.process]
      have hevent : (f.entryEvent stop' name args' rawArgs').untimed =
          (u.entryEvent stop name args rawArgs).untimed :=
        SyscallEvent.untimed_eq_iff.mpr ⟨hstop.pid, rfl, hargs, rfl, hvals⟩
      refine ⟨u', f', hu, hf, (handleStop_handles hu).sound h.all,
        (handleStop_handles hf).sound h.filtered, ?_, ?_⟩
      all_goals
        rw [heq, heq']
        unfold enter
        rw [hra']
        cases u.returnAddress stop frame with
        | none => ?_
        | some address => ?_
      · exact h.pending
      · exact h.pending.insert _ hp hevent
      · exact map_untimed_append h.written hp hevent
      · exact h.written
  · have hu' : u.handleStop stop = .ok u := handleStop_ignored hn hi
    have hf : f.handleStop stop' = .ok f := by
      refine handleStop_ignored (fun tid frame event hr => ?_) fun tid frame name he => ?_
      · have hnone := hlookup' tid frame (hstop.threadId ▸ hr.thread) (hstop.frame ▸ hr.frame_eq)
        cases hnone.symm.trans hr.pending
      · have ht : stop.threadId = some tid := hstop.threadId ▸ he.thread
        have hframe : stop.frame = some frame := hstop.frame ▸ he.frame_eq
        have hname := (hfname tid frame ht hframe).symm.trans he.name_eq
        obtain ⟨hname, -⟩ := Option.filter_eq_some_iff.mp hname
        exact hi tid frame name ⟨ht, hframe, hlookup tid frame ht hframe, hname⟩
    exact ⟨u, f, hu', hf, h⟩

/-! ## Two runs of the process -/

/-- What a move must not do in the unfiltered trace. Only the call that returns has its return
address there, and the call passes if an entry breakpoint is there too; at an entry the filter does
not change what is stored or dropped of the calls that pass; no call that passes looks up a type
under the name of an earlier `sysctl`; and no decoder meets a null base. -/
structure Projects (filter : Filter) (t : Tracer) (m : Move) : Prop where
  alone : t.Alone m
  atEntry : ∀ arrival event, m = .reach arrival true →
    t.pendingSyscalls.lookup (arrival.tid, arrival.frame.pc) = some event →
    filter.passes event = true
  entry : t.stopsAt m = true → t.EntryProjects filter m.stop
  mib : ∀ tid frame event, t.IsReturn m.stop tid frame event → filter.passes event = true →
    ¬ event.ReadsStaleMib t.options.arch frame
  decodable : t.stopsAt m = true → ¬ t.MeetsNullBase m.stop

theorem EntryProjects.disarm (h : t.EntryProjects filter stop) :
    (t.disarm m).EntryProjects filter stop := by
  cases m <;> exact ⟨fun tid frame name address event he =>
    h.free tid frame name address event (disarm_isEntry.mp he), h.duplicate⟩

theorem Matched.disarm (h : Matched options filter u f) :
    Matched options filter (u.disarm m) (f.disarm m') :=
  ⟨h.all.disarm, h.filtered.disarm, by simpa using h.pending, by simpa using h.written⟩

theorem move_of_stopsAt (h : t.stopsAt m = true) :
    t.move m = (t.disarm m).handleStop m.stop := by
  rw [Tracer.move, if_pos h]

theorem move_of_not_stopsAt (h : t.stopsAt m = false) : t.move m = .ok t := by
  rw [Tracer.move, h]
  rfl

/-- A call that returns stops at its breakpoint. -/
theorem Armed.stopsAt (ha : t.Armed) {arrival : Arrival} (atEntry : Bool)
    (hl : t.pendingSyscalls.lookup (arrival.tid, arrival.frame.pc) = some event) :
    t.stopsAt (.reach arrival atEntry) = true := by
  have harmed : arrival.frame.pc ∈ t.target.oneShots :=
    (ha _).mpr ⟨arrival.tid, mem_pending_iff.mpr ⟨event, hl⟩⟩
  simp [Tracer.stopsAt, harmed]

/-- Where no call returns the process stops at an entry breakpoint only. -/
theorem Armed.stopsAt_eq (ha : t.Armed) {arrival : Arrival} {atEntry : Bool}
    (hal : t.Alone (.reach arrival atEntry))
    (hn : t.pendingSyscalls.lookup (arrival.tid, arrival.frame.pc) = none) :
    t.stopsAt (.reach arrival atEntry) = atEntry := by
  have hnot : arrival.frame.pc ∉ t.target.oneShots := fun harmed => by
    obtain ⟨tid, hmem⟩ := (ha _).mp harmed
    have hkey := hal _ hmem (by simp [Move.touches])
    rw [← Option.some.inj hkey] at hmem
    exact AList.lookup_eq_none.mp hn hmem
  simp [Tracer.stopsAt, hnot]

/-- The two tracers, with breakpoints at the return addresses of their pending calls. -/
structure Projected (options : Options) (filter : Filter) (u f : Tracer) : Prop where
  matched : Matched options filter u f
  armed : u.Armed
  filtered_armed : f.Armed

theorem Projected.filtered_alone (h : Projected options filter u f) (hm : SameMove m m')
    (hal : u.Alone m) : f.Alone m' := by
  intro key hmem htouch
  rw [hm.returnKey]
  rw [hm.touches] at htouch
  exact hal key (h.matched.pending.mem hmem) htouch

/-- One move of the process in both traces. -/
theorem Projected.matched_move (h : Projected options filter u f) (hm : SameMove m m')
    (hp : u.Projects filter m) : ∃ u' f', u.move m = .ok u' ∧ f.move m' = .ok f' ∧
      Matched options filter u' f' := by
  have hal' := h.filtered_alone hm hp.alone
  have hmatched : Matched options filter (u.disarm m) (f.disarm m') := h.matched.disarm
  by_cases hret : ∃ tid frame event, u.IsReturn m.stop tid frame event
  · obtain ⟨tid, frame, event, hr⟩ := hret
    have hkey := hp.alone _ hr.mem (touches_of_isReturn hr)
    cases hm with
    | interrupt => cases hkey
    | @reach arrival arrival' atEntry hstop =>
      obtain ⟨htid, hframe⟩ := hstop.arrival
      obtain ⟨rfl, rfl, hl⟩ : arrival.tid = tid ∧ arrival.frame = frame ∧
          u.pendingSyscalls.lookup (arrival.tid, arrival.frame.pc) = some event := by
        have ht := arrival.thread_eq.symm.trans hr.thread
        have hf := arrival.frame_eq.symm.trans hr.frame_eq
        cases ht
        cases hf
        exact ⟨rfl, rfl, hr.pending⟩
      have hstops := h.armed.stopsAt atEntry hl
      have hnull : ¬ (u.disarm (.reach arrival atEntry)).MeetsNullBase arrival.stop :=
        mt disarm_meetsNullBase.mp (hp.decodable hstops)
      cases hpass : filter.passes event with
      | true =>
        obtain ⟨event', hl', -⟩ := h.matched.pending.lookup_of_pos hl hpass
        rw [← htid, ← hframe] at hl'
        have hstops' := h.filtered_armed.stopsAt atEntry hl'
        rw [move_of_stopsAt hstops, move_of_stopsAt hstops']
        have hmib := hp.mib _ _ _ hr hpass
        rw [h.matched.all.options_eq] at hmib
        exact hmatched.returned hstop (disarm_isReturn.mpr hr) hpass hmib hnull
      | false =>
        have hentry : atEntry = false := by
          by_contra htrue
          obtain rfl : atEntry = true := by simpa using htrue
          rw [hp.atEntry arrival event rfl hl] at hpass
          cases hpass
        have hnone : f.pendingSyscalls.lookup (arrival'.tid, arrival'.frame.pc) = none := by
          rw [htid, hframe]
          exact h.matched.pending.lookup_eq_none fun a ha => by
            cases hl.symm.trans ha
            exact hpass
        have hstops' := h.filtered_armed.stopsAt_eq hal' hnone
        rw [hentry] at hstops'
        rw [move_of_stopsAt hstops]
        subst hentry
        rw [move_of_not_stopsAt hstops']
        have hmatched' : Matched options filter (u.disarm (.reach arrival false)) f :=
          ⟨h.matched.all.disarm, h.matched.filtered, by simpa using h.matched.pending,
            by simpa using h.matched.written⟩
        obtain ⟨u', hu, hmatched''⟩ :=
          hmatched'.returned_left (disarm_isReturn.mpr hr) hpass hnull
        exact ⟨u', f, hu, rfl, hmatched''⟩
  · push Not at hret
    have hsame : f.stopsAt m' = u.stopsAt m := by
      cases hm with
      | interrupt => rfl
      | @reach arrival arrival' atEntry hstop =>
        obtain ⟨htid, hframe⟩ := hstop.arrival
        have hnone : u.pendingSyscalls.lookup (arrival.tid, arrival.frame.pc) = none :=
          lookup_eq_none_of_not_isReturn hret arrival.thread_eq arrival.frame_eq
        have hnone' : f.pendingSyscalls.lookup (arrival'.tid, arrival'.frame.pc) = none := by
          rw [htid, hframe]
          exact h.matched.pending.lookup_eq_none_of_eq_none hnone
        rw [h.armed.stopsAt_eq hp.alone hnone, h.filtered_armed.stopsAt_eq hal' hnone']
    cases hstops : u.stopsAt m with
    | false =>
      rw [hstops] at hsame
      rw [move_of_not_stopsAt hstops, move_of_not_stopsAt hsame]
      exact ⟨u, f, rfl, rfl, h.matched⟩
    | true =>
      rw [hstops] at hsame
      rw [move_of_stopsAt hstops, move_of_stopsAt hsame]
      exact hmatched.entered hm.stop
        (fun tid frame event hr => hret tid frame event (disarm_isReturn.mp hr))
        (hp.entry hstops).disarm (mt disarm_meetsNullBase.mp (hp.decodable hstops))

theorem Projected.move (h : Projected options filter u f) (hm : SameMove m m')
    (hp : u.Projects filter m) : ∃ u' f', u.move m = .ok u' ∧ f.move m' = .ok f' ∧
      Projected options filter u' f' := by
  obtain ⟨u', f', hu, hf, hmatched⟩ := h.matched_move hm hp
  exact ⟨u', f', hu, hf, hmatched, h.armed.move hp.alone hu,
    h.filtered_armed.move (h.filtered_alone hm hp.alone) hf⟩

theorem projected_init (options : Options) (filter : Filter) :
    Projected options filter (init options .all) (init options filter) where
  matched := ⟨sound_init, sound_init, .empty, rfl⟩
  armed := fun address => iff_of_false (by rintro ⟨⟩) (by rintro ⟨tid, ⟨⟩⟩)
  filtered_armed := fun address => iff_of_false (by rintro ⟨⟩) (by rintro ⟨tid, ⟨⟩⟩)

/-- **Filtering is a projection.** With a filter exactly those events are written that are written
without it and pass, in the same order and with the same contents but for their times; the entry
breakpoints are the same, and one-shot breakpoints are set for pending calls only. -/
theorem filtered_trace {moves moves' : List Move} (hmoves : List.Forall₂ SameMove moves moves')
    (h : Run.Along move (Projects filter) (init options .all) moves) :
    ∃ u f, moves.foldlM move (init options .all) = .ok u ∧
      moves'.foldlM move (init options filter) = .ok f ∧
      f.written.map SyscallEvent.untimed =
        (u.written.filter filter.passes).map SyscallEvent.untimed ∧
      f.target.entries = u.target.entries ∧
      (∀ address ∈ u.target.oneShots, ∃ tid, (tid, address) ∈ u.pendingSyscalls) ∧
      ∀ address ∈ f.target.oneShots, ∃ tid, (tid, address) ∈ f.pendingSyscalls := by
  obtain ⟨u, f, hu, hf, hprojected⟩ := Run.simulation_along (R := Projected options filter)
    (C := SameMove) (fun _ _ _ _ hR hm hp => hR.move hm hp) (projected_init options filter) hmoves h
  exact ⟨u, f, hu, hf, hprojected.matched.written,
    by rw [hprojected.matched.all.entries, hprojected.matched.filtered.entries],
    fun address => (hprojected.armed address).mp,
    fun address => (hprojected.filtered_armed address).mp⟩

/-! ## One call at a time -/

/-- The key of a call that may return in the move, away from the entry breakpoints. -/
def exitKey : Move → Option PendingKey
  | .reach arrival false => some (arrival.tid, arrival.frame.pc)
  | _ => none

/-- Nothing is pending but the call that returns in the move, and no `sysctl`. -/
def Sequential (t : Tracer) (m : Move) : Prop :=
  (∀ key ∈ t.pendingSyscalls.keys, exitKey m = some key) ∧
    ∀ e ∈ t.pendingSyscalls.entries, e.2.syscallName ≠ "sysctl"

instance : Decidable (t.Sequential m) :=
  inferInstanceAs (Decidable (_ ∧ _))

/-- A process that makes one call at a time is traced alike with every filter. -/
theorem Sequential.projects (h : t.Sequential m)
    (hdecodable : t.stopsAt m = true → ¬ t.MeetsNullBase m.stop) : t.Projects filter m := by
  have hkey : ∀ key event, t.pendingSyscalls.lookup key = some event → exitKey m = some key :=
    fun key event hl => h.1 key (AList.mem_keys.mp (mem_pending_iff.mpr ⟨event, hl⟩))
  -- Where the thread of the stop has nothing pending at its address, nothing is pending.
  have hnone : ∀ tid frame key, m.stop.threadId = some tid → m.stop.frame = some frame →
      t.pendingSyscalls.lookup (tid, frame.pc) = none → t.pendingSyscalls.lookup key = none := by
    intro tid frame key ht hf hn
    cases hl : t.pendingSyscalls.lookup key with
    | none => rfl
    | some event =>
      have hexit := hkey key event hl
      cases m with
      | interrupt => cases hexit
      | reach arrival atEntry =>
        cases atEntry with
        | true => cases hexit
        | false =>
          cases hexit
          cases arrival.thread_eq.symm.trans ht
          cases arrival.frame_eq.symm.trans hf
          cases hl.symm.trans hn
  refine ⟨fun key hmem _ => ?_, fun arrival event hm hl => ?_, fun _ => ⟨?_, ?_⟩, ?_, hdecodable⟩
  · have hexit := h.1 key (AList.mem_keys.mp hmem)
    cases m with
    | interrupt => cases hexit
    | reach arrival atEntry =>
      cases atEntry with
      | true => cases hexit
      | false => exact hexit
  · subst hm
    cases hkey _ event hl
  · intro tid frame name address event he _ hl
    cases (hnone tid frame _ he.thread he.frame_eq he.not_pending).symm.trans hl
  · intro tid frame functionName d ht hf _ hn _ _ hdup
    have hthread : t.threadHasPending tid = true := by
      unfold isDuplicate at hdup
      exact (Bool.and_eq_true_iff.mp hdup).2
    obtain ⟨address, hmem⟩ := threadHasPending_iff.mp hthread
    exact absurd hmem (AList.lookup_eq_none.mp (hnone tid frame (tid, address) ht hf hn))
  · intro tid frame event hr _ hreads
    exact h.2 ⟨_, event⟩ (AList.mem_lookup_iff.mp hr.pending) hreads.1

theorem along_projects {moves : List Move} (hs : t.Sound options filter)
    (h : Run.Along move Sequential t moves) (hrun : moves.foldlM move t = .ok t')
    (filter' : Filter) : Run.Along move (Projects filter') t moves := by
  induction moves generalizing t with
  | nil => exact Run.along_nil
  | cons m moves ih =>
    obtain ⟨s, hstep, hrun⟩ := Run.cons_ok.mp hrun
    refine Run.along_cons.mpr ⟨h.1.projects ((move_returns_iff hs).mp ⟨s, hstep⟩), fun s' hs' => ?_⟩
    cases hstep.symm.trans hs'
    exact ih (hs.move hstep) (h.2 s hstep) hrun

/-- The filters of the sample runs. -/
def traceOnly (name : String) : Filter := { filteredSyscalls := some [name] }

/-- Thread 1 enters `functionName` and is to return to `address`. -/
def sampleEntry (functionName : String) (pc : Nat) (address : BitVec 64) : Move :=
  .reach (sampleArrival 1 pc functionName [("lr", address), ("x0", 3)]) true

def sampleExit (address : Nat) : Move :=
  .reach (sampleArrival 1 address "main" [("x0", 3)]) false

/-- Thread 1 calls `open` and `close`, one after the other. -/
def openClose : List Move :=
  [sampleEntry "open" 0x100 0x500, sampleExit 0x500, sampleEntry "close" 0x200 0x600,
    sampleExit 0x600]

/-- Inside `close` thread 1 calls `__open`. -/
def openInClose : List Move :=
  [sampleEntry "close" 0x200 0x600, sampleEntry "__open" 0x100 0x500, sampleExit 0x500]

/-- The names of the events that a run writes. -/
def writtenNames (options : Options) (filter : Filter) (moves : List Move) : Option (List String) :=
  (moves.foldlM move (init options filter)).toOption.map fun t =>
    t.written.map SyscallEvent.syscallName

theorem exists_of_writtenNames {moves : List Move} {names : List String}
    (h : writtenNames options filter moves = some names) :
    ∃ t, moves.foldlM move (init options filter) = .ok t ∧
      t.written.map SyscallEvent.syscallName = names := by
  obtain ⟨t, ht, hnames⟩ := Option.map_eq_some_iff.mp h
  exact ⟨t, Fallible.toOption_eq_some.mp ht, hnames⟩

theorem sameMove_refl (moves : List Move) : List.Forall₂ SameMove moves moves :=
  List.forall₂_same.mpr fun m _ => by
    cases m with
    | reach arrival atEntry => exact .reach atEntry ⟨rfl, rfl, rfl, rfl, rfl⟩
    | interrupt stop => exact .interrupt ⟨rfl, rfl, rfl, rfl, rfl⟩

/-- With `trace=close` only the second call is traced. -/
theorem filtered_trace_openClose : ∃ u f,
    openClose.foldlM move (init sampleOptions .all) = .ok u ∧
    openClose.foldlM move (init sampleOptions (traceOnly "close")) = .ok f ∧
    u.written.map SyscallEvent.syscallName = ["open", "close"] ∧
    f.written.map SyscallEvent.untimed =
      (u.written.filter (traceOnly "close").passes).map SyscallEvent.untimed := by
  have h : Run.Along move Sequential (init sampleOptions .all) openClose ∧
      writtenNames sampleOptions .all openClose = some ["open", "close"] := by
    unfold writtenNames
    rw [init_eq_initByNumber]
    decide +kernel
  obtain ⟨u, hu, hnames⟩ := exists_of_writtenNames h.2
  obtain ⟨u', f, hu', hf, hwritten, -⟩ := filtered_trace (sameMove_refl openClose)
    (along_projects sound_init h.1 hu (traceOnly "close"))
  cases hu.symm.trans hu'
  exact ⟨u, f, hu, hf, hnames, hwritten⟩

/-- With `trace=open` the call inside `close` is traced; without a filter it is taken for a
duplicate. -/
theorem nested_open_not_projected : ¬ ∀ expr filter (options : Options) moves moves' u f,
    parseFilter expr = .ok filter → options.summaryOnly = false →
    List.Forall₂ SameMove moves moves' → moves.foldlM move (init options .all) = .ok u →
    moves'.foldlM move (init options filter) = .ok f →
    f.written.map SyscallEvent.untimed =
      (u.written.filter filter.passes).map SyscallEvent.untimed := by
  intro h
  have hnames : writtenNames sampleOptions .all openInClose = some [] ∧
      writtenNames sampleOptions (traceOnly "open") openInClose = some ["open"] := by
    unfold writtenNames
    rw [init_eq_initByNumber, init_eq_initByNumber]
    decide +kernel
  obtain ⟨u, hu, hnone⟩ := exists_of_writtenNames hnames.1
  obtain ⟨f, hf, hopen⟩ := exists_of_writtenNames hnames.2
  have heq := congrArg List.length (h "trace=open" (traceOnly "open") sampleOptions _ _ u f
    (by decide +kernel) rfl (sameMove_refl openInClose) hu hf)
  have hlength := congrArg List.length hopen
  rw [List.map_eq_nil_iff.mp hnone] at heq
  simp only [List.length_map, List.filter_nil, List.length_nil] at heq hlength
  rw [heq] at hlength
  cases hlength

end Tracer

end StraceMacos
