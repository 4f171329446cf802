import StraceMacos.Proofs.StopProofs
import StraceMacos.Proofs.DecodeProofs
import StraceMacos.Proofs.RegistryProofs

/-!
# Which stops are taken for entries

A stop is taken for the entry of a call by the name of its function alone: without its leading
underscores it has to be registered and to pass the filter, and the function must not be an
`__implementation` while its thread has something pending.
-/

namespace StraceMacos

namespace Tracer

open Fallible

variable {t t' : Tracer} {stop : Stop} {tid : Nat} {frame : Frame} {name : String} {d : SyscallDef}
variable {options : Options} {filter : Filter} {stops : List Stop}

/-! ## Reachable states -/

theorem completeEvent_ready {event event' : SyscallEvent} {decoder : DecoderState}
    (hs : t.decoder.Ready t.options.noAbbrev)
    (h : t.completeEvent stop frame event = .ok (event', decoder)) :
    decoder.Ready t.options.noAbbrev := by
  unfold completeEvent at h
  simp only at h
  split_ifs at h
  · cases hl : t.registry.lookupByName event.syscallName with
    | none => rw [hl] at h; cases h; exact hs
    | some d =>
      rw [hl] at h
      exact decodeParamsAtExit_ready hs h
  · cases h; exact hs

theorem Handles.ready (h : t.Handles stop t') (hs : t.decoder.Ready t.options.noAbbrev) :
    t'.decoder.Ready t'.options.noAbbrev := by
  cases h with
  | ignored => exact hs
  | returned hr hc => exact completeEvent_ready (t := t) hs hc
  | reported he hd => exact extractArgs_ready hs hd
  | recorded he hd => exact extractArgs_ready hs hd

/-- What holds of a tracer after any stops: it has its configuration and its registry, its ledger is
valid and its decoders have their shared context. -/
structure Sound (options : Options) (filter : Filter) (t : Tracer) : Prop where
  config : SameConfig (init options filter) t
  valid : t.ledger.Valid SyscallEvent.serial
  decoder : t.decoder.Ready t.options.noAbbrev

theorem sound_init : (init options filter).Sound options filter :=
  ⟨.rfl, by rw [ledger_init]; exact Ledger.valid_empty _, _, _, rfl⟩

theorem Handles.sound (h : t.Handles stop t') (hs : t.Sound options filter) :
    t'.Sound options filter :=
  ⟨hs.config.trans h.sameConfig, hs.valid.step h.ledger_step, h.ready hs.decoder⟩

theorem run_sound (h : (init options filter).run stops = .ok t) : t.Sound options filter :=
  Run.invariant (I := Sound options filter)
    (fun _ _ _ hs h => (handleStop_handles h).sound hs) sound_init h

theorem Sound.registry (hs : t.Sound options filter) : t.registry = SyscallRegistry.init := by
  rw [hs.config.registry]
  dsimp only [init]

theorem Sound.entries (hs : t.Sound options filter) :
    t.target.entries = syscallBreakpoints SyscallRegistry.init := by
  rw [hs.config.entries]
  dsimp only [init]

theorem Sound.options_eq (hs : t.Sound options filter) : t.options = options :=
  hs.config.options

theorem Sound.filter_eq (hs : t.Sound options filter) : t.filter = filter :=
  hs.config.filter

theorem Sound.ready (hs : t.Sound options filter) : t.decoder.Ready options.noAbbrev := by
  rw [← hs.options_eq]
  exact hs.decoder

theorem entryName_lookup (h : t.entryName tid frame.functionName = some name) :
    ∃ d, t.registry.lookupByName name = some d := by
  obtain ⟨fn, d, -, -, -, hl, -⟩ := entryName_eq_some h
  exact ⟨d, hl⟩

/-- The arguments of a call of `d` can be decoded unless a decoder meets a null base. -/
theorem decodeEntry_ok_iff (hs : t.Sound options filter)
    (hd : SyscallRegistry.init.lookupByName name = some d) :
    (∃ r, t.decodeEntry stop frame name = .ok r) ↔
      ¬ d.NullBaseAtEntry options.arch frame stop.process stop.listId options.noAbbrev := by
  obtain ⟨shared, caches, hready⟩ := hs.ready
  unfold decodeEntry extractArgs
  rw [hs.registry, hs.options_eq, hd, hready]
  exact extractArgsWithParams_ok_iff shared caches

/-- The event of a call of `d` has one argument for each parameter of `d`. -/
theorem decodeEntry_length {args : List SyscallArg} {rawArgs : PyList} {decoder : DecoderState}
    (hd : t.registry.lookupByName name = some d)
    (h : t.decodeEntry stop frame name = .ok (args, rawArgs, decoder)) :
    args.length = d.params.length := by
  unfold decodeEntry extractArgs at h
  rw [hd] at h
  exact extractArgsWithParams_length h

/-- The names of pending events are registered, without leading underscores. -/
def PendingNamed (t : Tracer) : Prop :=
  ∀ key event, t.pendingSyscalls.lookup key = some event →
    Text.startsWith event.syscallName "_" = false

theorem Handles.pendingNamed (h : t.Handles stop t') (hp : t.PendingNamed) : t'.PendingNamed := by
  cases h with
  | ignored => exact hp
  | @returned tid frame event event' decoder hr hc =>
    intro key event he
    by_cases hkey : key = (tid, frame.pc)
    · rw [hkey] at he
      simp [settle, writeEvent] at he
    · rw [settle, writeEvent, AList.lookup_erase_ne hkey] at he
      exact hp key event he
  | reported he hd => exact hp
  | @recorded tid frame name args rawArgs decoder address he hd hra =>
    intro key event hl
    by_cases hkey : key = (tid, address)
    · rw [hkey] at hl
      simp only [record, AList.lookup_insert, Option.some.injEq] at hl
      obtain ⟨fn, -, -, -, rfl, -⟩ := entryName_eq_some he.name_eq
      rw [← hl]
      exact Text.startsWith_lstrip '_' fn
    · rw [record, AList.lookup_insert_ne hkey] at hl
      exact hp key event hl

theorem run_pendingNamed (h : (init options filter).run stops = .ok t) : t.PendingNamed :=
  Run.invariant (I := PendingNamed) (fun _ _ _ hp h => (handleStop_handles h).pendingNamed hp)
    (fun key event he => by cases he) h

/-! ## The event of an entry -/

/-- Between `t` and `t'` one event was made at a stop of thread `tid`: it is pending or written. -/
structure MakesEvent (t t' : Tracer) (tid : Nat) (event : SyscallEvent) : Prop where
  created : t'.created = t.created + 1
  serial : event.serial = t.created
  placed : (∃ address, t'.pendingSyscalls = t.pendingSyscalls.insert (tid, address) event ∧
      t'.written = t.written) ∨
    (t'.pendingSyscalls = t.pendingSyscalls ∧ t'.written = t.written ++ [event])

theorem not_makesEvent_self {event : SyscallEvent} : ¬ t.MakesEvent t tid event := fun h => by
  have := h.created
  omega

theorem IsEntry.returns_iff (he : t.IsEntry stop tid frame name) :
    (∃ t', t.handleStop stop = .ok t') ↔ ∃ r, t.decodeEntry stop frame name = .ok r := by
  rw [handleStop_entry he, handleSyscallEntry_eq]
  exact map_returns_iff

theorem IsReturn.returns_iff {event : SyscallEvent} (hr : t.IsReturn stop tid frame event) :
    (∃ t', t.handleStop stop = .ok t') ↔ ∃ r, t.completeEvent stop frame event = .ok r := by
  rw [handleStop_return hr, handleSyscallReturn_eq]
  exact map_returns_iff

/-- One of the decoders that run at the stop meets a null base. -/
inductive MeetsNullBase (t : Tracer) (stop : Stop) : Prop where
  | entry {tid : Nat} {frame : Frame} {name : String} {d : SyscallDef}
      (he : t.IsEntry stop tid frame name) (hd : t.registry.lookupByName name = some d)
      (h : d.NullBaseAtEntry t.options.arch frame stop.process stop.listId t.options.noAbbrev)
  | exit {tid : Nat} {frame : Frame} {event : SyscallEvent} {d : SyscallDef} {value : ReturnValue}
      (hr : t.IsReturn stop tid frame event)
      (hd : t.registry.lookupByName event.syscallName = some d)
      (hvalue : value =
        decodeReturnValue t.registry t.options.arch t.options.noAbbrev frame event)
      (hsuccess : value.int?.any (0 ≤ ·) = true)
      (h : d.NullBaseAtExit stop.process { event with returnValue := value } t.options.noAbbrev)

theorem completeEvent_returns_iff {event : SyscallEvent} (hs : t.Sound options filter)
    (hr : t.IsReturn stop tid frame event) :
    (∃ r, t.completeEvent stop frame event = .ok r) ↔ ¬ t.MeetsNullBase stop := by
  obtain ⟨shared, caches, hready⟩ := hs.decoder
  set value := decodeReturnValue t.registry t.options.arch t.options.noAbbrev frame event with hv
  have hmeets : t.MeetsNullBase stop ↔ ∃ d, t.registry.lookupByName event.syscallName = some d ∧
      value.int?.any (0 ≤ ·) = true ∧
      d.NullBaseAtExit stop.process { event with returnValue := value } t.options.noAbbrev := by
    constructor
    · rintro (⟨he, -, -⟩ | ⟨hr', hd, rfl, hsuccess, h⟩)
      · exact absurd he hr.not_isEntry
      · obtain ⟨rfl, rfl, rfl⟩ := hr.unique hr'
        exact ⟨_, hd, hsuccess, h⟩
    · rintro ⟨d, hd, hsuccess, h⟩
      exact .exit hr hd hv hsuccess h
  rw [hmeets]
  unfold completeEvent
  simp only [← hv]
  cases hsuccess : value.int?.any (0 ≤ ·) with
  | false => simp
  | true =>
    rw [if_pos rfl, hready]
    cases hd : t.registry.lookupByName event.syscallName with
    | none => simp
    | some d => simpa using decodeParamsAtExit_ok_iff shared caches

/-- **Handling a stop raises exactly when one of its decoders meets a null base.** -/
theorem handleStop_returns_iff (hs : t.Sound options filter) :
    (∃ t', t.handleStop stop = .ok t') ↔ ¬ t.MeetsNullBase stop := by
  rcases t.stop_cases stop with ⟨tid, frame, event, hr⟩ | ⟨tid, frame, name, he⟩ | ⟨hr, he⟩
  · rw [hr.returns_iff, completeEvent_returns_iff hs hr]
  · obtain ⟨d, hd⟩ := entryName_lookup he.name_eq
    rw [he.returns_iff, decodeEntry_ok_iff hs (by rw [← hs.registry]; exact hd)]
    refine not_congr ⟨fun h => .entry he hd (by rw [hs.options_eq]; exact h), ?_⟩
    rintro (⟨he', hd', h⟩ | ⟨hr, -, -, -, -⟩)
    · obtain ⟨rfl, rfl, rfl⟩ := he.unique he'
      cases hd.symm.trans hd'
      rw [← hs.options_eq]
      exact h
    · exact absurd he hr.not_isEntry
  · refine iff_of_true ⟨t, handleStop_ignored hr he⟩ ?_
    rintro (⟨he', -, -⟩ | ⟨hr', -, -, -, -⟩)
    · exact he _ _ _ he'
    · exact hr _ _ _ hr'

/-- **An entry makes one event of the called syscall, with all its arguments.** -/
theorem IsEntry.makesEvent (he : t.IsEntry stop tid frame name)
    (hd : t.registry.lookupByName name = some d) (h : t.handleStop stop = .ok t') :
    ∃ event, t.MakesEvent t' tid event ∧ event.syscallName = name ∧
      event.args.length = d.params.length := by
  obtain ⟨args, rawArgs, decoder, hdec, rfl⟩ := he.handled h
  refine ⟨t.entryEvent stop name args rawArgs, ?_, rfl, decodeEntry_length hd hdec⟩
  unfold enter
  cases t.returnAddress stop frame with
  | none => exact ⟨rfl, rfl, .inr ⟨rfl, rfl⟩⟩
  | some address => exact ⟨rfl, rfl, .inl ⟨address, rfl, rfl⟩⟩

/-- An entry is visible: it writes an event or creates a breakpoint. -/
theorem IsEntry.effect (he : t.IsEntry stop tid frame name) (h : t.handleStop stop = .ok t') :
    t'.written ≠ t.written ∨ t'.target ≠ t.target := by
  cases handleStop_handles h with
  | ignored _ hne => exact absurd he (hne tid frame name)
  | returned hr => exact absurd he hr.not_isEntry
  | reported => exact .inl fun h => by simp [report, writeEvent] at h
  | recorded => exact .inr fun h => by simpa [record] using congrArg Target.oneShots h

theorem handleStop_of_entryName_none (ht : stop.threadId = some tid) (hf : stop.frame = some frame)
    (hp : t.pendingSyscalls.lookup (tid, frame.pc) = none)
    (hn : t.entryName tid frame.functionName = none) : t.handleStop stop = .ok t := by
  unfold handleStop
  rw [ht, hf]
  simp only [hp, hn]

/-- A stop in a function whose name, stripped, is that of a definition with leading underscores is
ignored. -/
theorem entryName_eq_none_of_underscore (tid : Nat) {fn : String}
    (hreg : t.registry = SyscallRegistry.init)
    (hd : SyscallRegistry.init.lookupByName d.name = some d)
    (hu : Text.startsWith d.name "_" = true) (hfn : frame.functionName = some fn)
    (hstrip : Text.lstrip '_' fn = Text.lstrip '_' d.name) :
    t.entryName tid frame.functionName = none := by
  have hnone := lookupByName_lstrip_eq_none hd hu
  unfold entryName
  simp only [hfn, hstrip, hreg, hnone, ite_self]

/-! ## Every registered name -/

/-- The filters under which `d` has to be traced: none, its name, or its category. -/
inductive Admits (d : SyscallDef) : Filter → Prop where
  | all : Admits d .all
  | name {filter : Filter} (h : parseFilter ("trace=" ++ d.name) = .ok filter) : Admits d filter
  | category {filter : Filter} {value : String} {category : SyscallCategory}
      (hv : categoryMap.lookup value = some category)
      (hc : SyscallRegistry.init.getCategory d.name = some category)
      (h : parseFilter ("trace=" ++ value) = .ok filter) : Admits d filter

theorem parseFilter_trace (value : String) :
    parseFilter ("trace=" ++ value) = .ok
      (match categoryMap.lookup value with
      | some category => { filterCategory := some category }
      | none => { filteredSyscalls := some (Text.split ',' value) }) := by
  have hdrop : String.ofList (("trace=" ++ value).toList.drop 6) = value := by
    rw [String.toList_append]
    exact String.ofList_toList
  unfold parseFilter
  rw [if_pos (Text.startsWith_append _ _), hdrop]
  cases h : categoryMap.lookup value <;> simp only [h]

theorem Admits.shouldTraceSyscall (hd : SyscallRegistry.init.lookupByName d.name = some d)
    (h : Admits d filter) :
    filter.shouldTraceSyscall SyscallRegistry.init d.name = true := by
  obtain ⟨-, category, hmem⟩ := SyscallRegistry.lookupByName_eq_some hd
  obtain ⟨-, hcomma, hcat, -⟩ := registered_names _ hmem
  cases h with
  | all => rfl
  | name h =>
    rw [parseFilter_trace, hcat, Text.split_of_not_mem hcomma] at h
    cases h
    simp [Filter.shouldTraceSyscall]
  | category hv hc h =>
    rw [parseFilter_trace, hv] at h
    cases h
    simp [Filter.shouldTraceSyscall, hc]

/-- **A registered syscall is traced at its own breakpoint exactly when its name has no leading
underscore and its arguments can be decoded.** -/
theorem traced_at_breakpoint_iff (hd : d ∈ SyscallRegistry.init.getAllSyscalls)
    (hfilter : Admits d filter) (hrun : (init options filter).run stops = .ok t)
    (ht : stop.threadId = some tid) (hf : stop.frame = some frame)
    (hname : frame.functionName = some d.name) (hp : t.threadHasPending tid = false) :
    (d.name ∈ t.target.entries ∧ ∃ t' event, t.handleStop stop = .ok t' ∧
        t.MakesEvent t' tid event ∧ event.syscallName = d.name ∧
        event.args.length = d.params.length) ↔
      Text.startsWith d.name "_" = false ∧
        ¬ d.NullBaseAtEntry options.arch frame stop.process stop.listId options.noAbbrev := by
  rw [SyscallRegistry.mem_getAllSyscalls_iff] at hd
  have hreg := (run_sound hrun).registry
  have hlookup := lookup_eq_none_of_not_threadHasPending hp frame.pc
  have hbreak : d.name ∈ t.target.entries := by
    rw [(run_sound hrun).entries]
    exact mem_syscallBreakpoints_iff.mpr ⟨d, hd⟩
  obtain ⟨-, category, hmem⟩ := SyscallRegistry.lookupByName_eq_some hd
  have hempty := (registered_names _ hmem).1
  cases hu : Text.startsWith d.name "_" with
  | true =>
    have hn := entryName_eq_none_of_underscore tid hreg hd hu hname rfl
    refine iff_of_false ?_ (by simp)
    rintro ⟨-, t', event, h, hmakes, -⟩
    rw [handleStop_of_entryName_none ht hf hlookup hn] at h
    cases h
    exact not_makesEvent_self hmakes
  | false =>
    have hstrip : Text.lstrip '_' d.name = d.name := Text.lstrip_of_not_startsWith hu
    have hn : t.entryName tid frame.functionName = some d.name := by
      have hdup : t.isDuplicate tid d.name d = false := by simp [isDuplicate, hp]
      have hshould : t.shouldTraceSyscall d.name = true := by
        unfold shouldTraceSyscall
        rw [hreg, (run_sound hrun).filter_eq]
        exact hfilter.shouldTraceSyscall hd
      rw [entryName_of tid hname hempty (by rw [hstrip, hreg]; exact hd), hdup, hstrip, hshould]
      rfl
    have he : t.IsEntry stop tid frame d.name := ⟨ht, hf, hlookup, hn⟩
    rw [and_iff_right hbreak, and_iff_right rfl, ← decodeEntry_ok_iff (run_sound hrun) hd,
      ← he.returns_iff]
    constructor
    · rintro ⟨t', event, h, -⟩
      exact ⟨t', h⟩
    · rintro ⟨t', h⟩
      obtain ⟨event, hmakes, hname', hlen⟩ := he.makesEvent (by rw [hreg]; exact hd) h
      exact ⟨t', event, h, hmakes, hname', hlen⟩

/-- The call of `close` is traced at its breakpoint. -/
theorem traced_at_breakpoint_close : ∃ d ∈ SyscallRegistry.init.getAllSyscalls,
    d.name = "close" ∧ ∃ t' event,
      (init sampleOptions .all).handleStop (sampleStop 1 0x100 "close" [("lr", 0x500)]) = .ok t' ∧
      (init sampleOptions .all).MakesEvent t' 1 event ∧ event.syscallName = d.name ∧
      event.args.length = d.params.length := by
  obtain ⟨d, hd, hname, hreads⟩ := SyscallRegistry.exists_lookupByName
    "close" (p := fun d => !d.readsVectors) (by decide +kernel)
  rw [← hname, ← SyscallRegistry.mem_getAllSyscalls_iff] at hd
  have hrun : (init sampleOptions .all).run [] = .ok (init sampleOptions .all) := rfl
  have ht : (sampleStop 1 0x100 "close" [("lr", 0x500)]).threadId = some 1 := rfl
  refine ⟨d, hd, hname, ((traced_at_breakpoint_iff hd .all hrun ht rfl
    (congrArg some hname.symm) rfl).mpr ⟨?_, ?_⟩).2⟩
  · rw [hname]
    decide
  · exact SyscallDef.not_nullBaseAtEntry (by simpa using hreads)

/-- The call of `__mac_get_proc` is not. -/
theorem mac_get_proc_not_traced :
    ¬ ∀ d ∈ SyscallRegistry.init.getAllSyscalls, ∀ options filter stops t stop tid frame,
      Admits d filter → (init options filter).run stops = .ok t → stop.threadId = some tid →
      stop.frame = some frame → frame.functionName = some d.name →
      (t.returnAddress stop frame).isSome → t.threadHasPending tid = false →
      d.name ∈ t.target.entries ∧ ∃ t' event, t.handleStop stop = .ok t' ∧
        t.MakesEvent t' tid event ∧ event.syscallName = d.name ∧
        event.args.length = d.params.length := by
  intro h
  obtain ⟨d, hd, hname, -⟩ := SyscallRegistry.exists_lookupByName
    "__mac_get_proc" (p := fun _ => true) (by decide +kernel)
  rw [← hname] at hd
  obtain ⟨-, t', event, hstop, hmakes, -⟩ := h d (SyscallRegistry.mem_getAllSyscalls_iff.mpr hd)
    sampleOptions .all [] (init sampleOptions .all)
    (sampleStop 1 0x100 "__mac_get_proc" [("lr", 0x500)]) 1 _ .all rfl rfl rfl
    (congrArg some hname.symm) rfl rfl
  rw [handleStop_of_entryName_none rfl rfl rfl (entryName_eq_none_of_underscore _
    sound_init.registry hd (by rw [hname]; decide) rfl (by rw [hname]))] at hstop
  cases hstop
  exact not_makesEvent_self hmakes

/-! ## Wrappers and implementations -/

/-- Thread `tid` has a call of `name` pending. -/
def HasPending (t : Tracer) (tid : Nat) (name : String) : Prop :=
  ∃ address event, t.pendingSyscalls.lookup (tid, address) = some event ∧
    event.syscallName = name

theorem HasPending.thread (h : t.HasPending tid name) : t.threadHasPending tid = true := by
  obtain ⟨address, event, hl, -⟩ := h
  exact threadHasPending_iff.mpr ⟨address, mem_pending_iff.mpr ⟨event, hl⟩⟩

/-- **A stop at `__foo` is dropped for a pending `foo` and only then, and recorded otherwise,
exactly when the thread has `foo` pending or has nothing pending and the arguments can be decoded.**
A name with a leading underscore is never right. -/
theorem implementation_stop_iff (hd : d ∈ SyscallRegistry.init.getAllSyscalls)
    (hrun : (init options filter).run stops = .ok t)
    (hpass : t.shouldTraceSyscall d.name = true) (ht : stop.threadId = some tid)
    (hf : stop.frame = some frame) (hname : frame.functionName = some ("__" ++ d.name))
    (hlookup : t.pendingSyscalls.lookup (tid, frame.pc) = none) :
    ((t.handleStop stop = .ok t ↔ t.HasPending tid d.name) ∧
      (¬ t.HasPending tid d.name → ∃ t' event, t.handleStop stop = .ok t' ∧
        t.MakesEvent t' tid event ∧ event.syscallName = d.name)) ↔
      Text.startsWith d.name "_" = false ∧ (t.HasPending tid d.name ∨
        t.threadHasPending tid = false ∧
          ¬ d.NullBaseAtEntry options.arch frame stop.process stop.listId options.noAbbrev) := by
  rw [SyscallRegistry.mem_getAllSyscalls_iff] at hd
  have hreg := (run_sound hrun).registry
  have hstrip : Text.lstrip '_' ("__" ++ d.name) = Text.lstrip '_' d.name :=
    Text.lstrip_doubled '_' d.name
  have hempty : "__" ++ d.name ≠ "" := fun h => by
    have := congrArg String.toList h
    simp at this
  cases hu : Text.startsWith d.name "_" with
  | true =>
    have hn := entryName_eq_none_of_underscore tid hreg hd hu hname hstrip
    have hnot : ¬ t.HasPending tid d.name := by
      rintro ⟨address, event, hl, heq⟩
      have := run_pendingNamed hrun _ _ hl
      rw [heq, hu] at this
      cases this
    refine iff_of_false ?_ (by simp)
    rintro ⟨h, -⟩
    exact hnot (h.mp (handleStop_of_entryName_none ht hf hlookup hn))
  | false =>
    have hself : Text.lstrip '_' d.name = d.name := Text.lstrip_of_not_startsWith hu
    have hdup : t.isDuplicate tid ("__" ++ d.name) d = t.threadHasPending tid := by
      have hd2 : Text.startsWith d.name "__" = false := by
        rw [← Bool.not_eq_true, Text.startsWith_iff] at hu ⊢
        exact fun h => hu ((List.prefix_append ['_'] ['_']).trans h)
      simp [isDuplicate, hd2, Text.startsWith_append]
    have hn := entryName_of (t := t) tid hname hempty (d := d)
      (by rw [hstrip, hself, hreg]; exact hd)
    rw [hstrip, hself, hdup, hpass] at hn
    rw [and_iff_right rfl]
    by_cases hpend : t.HasPending tid d.name
    · rw [hpend.thread] at hn
      have hstop := handleStop_of_entryName_none ht hf hlookup hn
      exact iff_of_true ⟨iff_of_true hstop hpend, fun h => absurd hpend h⟩ (.inl hpend)
    · cases hthread : t.threadHasPending tid with
      | true =>
        rw [hthread] at hn
        have hstop := handleStop_of_entryName_none ht hf hlookup hn
        refine iff_of_false (fun h => hpend (h.1.mp hstop)) ?_
        rintro (h | ⟨h, -⟩)
        · exact hpend h
        · cases h
      | false =>
        rw [hthread] at hn
        have he : t.IsEntry stop tid frame d.name := ⟨ht, hf, hlookup, hn⟩
        rw [or_iff_right hpend, and_iff_right rfl, ← decodeEntry_ok_iff (run_sound hrun) hd,
          ← he.returns_iff]
        constructor
        · rintro ⟨-, h⟩
          obtain ⟨t', event, h, -⟩ := h hpend
          exact ⟨t', h⟩
        · rintro ⟨t', h⟩
          obtain ⟨event, hmakes, hname', -⟩ := he.makesEvent (by rw [hreg]; exact hd) h
          refine ⟨iff_of_false (fun hself => ?_) hpend, fun _ => ⟨t', event, h, hmakes, hname'⟩⟩
          rw [hself] at h
          cases h
          exact not_makesEvent_self hmakes

/-- Thread 1 is inside `open`, and thread 2 inside `close`. -/
def openAndClose : List Stop :=
  [sampleStop 1 0x100 "open" [("lr", 0x500)], sampleStop 2 0x100 "close" [("lr", 0x600)]]

theorem run_openAndClose : ∃ t, (init sampleOptions .all).run openAndClose = .ok t ∧
    t.account = ⟨2, [], [((2, 0x600), 1, "close"), ((1, 0x500), 0, "open")]⟩ ∧
    t.HasPending 1 "open" := by
  obtain ⟨t, hrun, haccount⟩ := run_of_account (t := init sampleOptions .all) openAndClose
    ⟨2, [], [((2, 0x600), 1, "close"), ((1, 0x500), 0, "open")]⟩
    (by rw [init_eq_initByNumber]; decide +kernel)
  have hmem : ((1, 0x500), 0, "open") ∈ t.account.pending := by
    rw [haccount]
    exact List.mem_of_mem_tail List.mem_cons_self
  obtain ⟨event, hlookup, hname⟩ := lookup_of_mem_account hmem
  exact ⟨t, hrun, haccount, 0x500, event, hlookup, hname⟩

def implementationStop (tid : Nat) : Stop :=
  sampleStop tid 0x200 "__open" [("lr", 0x700)]

/-- A stop at `__open` is dropped in the thread that is inside `open`, and makes an event of `open`
in a thread without pending calls, whatever is pending in others. -/
theorem implementation_stop_open : ∃ d ∈ SyscallRegistry.init.getAllSyscalls,
    d.name = "open" ∧ ∃ t, (init sampleOptions .all).run openAndClose = .ok t ∧
      t.handleStop (implementationStop 1) = .ok t ∧
      ∃ t' event, t.handleStop (implementationStop 3) = .ok t' ∧ t.MakesEvent t' 3 event ∧
        event.syscallName = d.name := by
  obtain ⟨d, hd, hname, hreads⟩ := SyscallRegistry.exists_lookupByName
    "open" (p := fun d => !d.readsVectors) (by decide +kernel)
  rw [← hname, ← SyscallRegistry.mem_getAllSyscalls_iff] at hd
  obtain ⟨t, hrun, haccount, hopen⟩ := run_openAndClose
  have hpass : t.shouldTraceSyscall d.name = true := by
    rw [shouldTraceSyscall, (run_sound hrun).filter_eq]
    rfl
  have hunderscore : Text.startsWith d.name "_" = false := by
    rw [hname]
    decide
  have hfree : ∀ tid, t.pendingSyscalls.lookup (tid, 0x200) = none := fun tid =>
    lookup_eq_none_of_account (by rw [haccount]; simp)
  refine ⟨d, hd, hname, t, hrun, ?_, ?_⟩
  · have hpending : t.HasPending 1 d.name := hname ▸ hopen
    exact ((implementation_stop_iff hd hrun hpass rfl rfl (by rw [hname]; rfl) (hfree 1)).mpr
      ⟨hunderscore, .inl hpending⟩).1.mpr hpending
  · have hthread : t.threadHasPending 3 = false := by
      rw [← Bool.not_eq_true, threadHasPending_iff]
      rintro ⟨address, hmem⟩
      obtain ⟨event, hlookup⟩ := mem_pending_iff.mp hmem
      have haccounted := mem_account_pending hlookup
      rw [haccount] at haccounted
      simp at haccounted
    have hnot : ¬ t.HasPending 3 d.name := fun hpending => by
      rw [hpending.thread] at hthread
      cases hthread
    exact ((implementation_stop_iff hd hrun hpass rfl rfl (by rw [hname]; rfl) (hfree 3)).mpr
      ⟨hunderscore, .inr ⟨hthread, SyscallDef.not_nullBaseAtEntry (by simpa using hreads)⟩⟩).2 hnot

/-- A stop at `__open` is ignored while the thread has only `close` pending. -/
theorem open_ignored_for_close :
    ¬ ∀ d ∈ SyscallRegistry.init.getAllSyscalls, ∀ options filter stops t stop tid frame,
      (init options filter).run stops = .ok t → t.shouldTraceSyscall d.name = true →
      stop.threadId = some tid → stop.frame = some frame →
      frame.functionName = some ("__" ++ d.name) →
      t.pendingSyscalls.lookup (tid, frame.pc) = none →
      (t.handleStop stop = .ok t ↔ t.HasPending tid d.name) ∧
      (¬ t.HasPending tid d.name → ∃ t' event, t.handleStop stop = .ok t' ∧
        t.MakesEvent t' tid event ∧ event.syscallName = d.name) := by
  intro h
  obtain ⟨d, hd, hname, -⟩ := SyscallRegistry.exists_lookupByName
    "open" (p := fun _ => true) (by decide +kernel)
  rw [← hname, ← SyscallRegistry.mem_getAllSyscalls_iff] at hd
  obtain ⟨t, hrun, haccount⟩ := run_of_account (t := init sampleOptions .all)
    [sampleStop 1 0x100 "close" [("lr", 0x500)]]
    ⟨1, [], [((1, 0x500), 0, "close")]⟩ (by rw [init_eq_initByNumber]; decide +kernel)
  obtain ⟨t₂, hrun₂, haccount₂⟩ := run_of_account (t := init sampleOptions .all)
    [sampleStop 1 0x100 "close" [("lr", 0x500)],
      sampleStop 1 0x200 "__open" [("lr", 0x600)]]
    ⟨1, [], [((1, 0x500), 0, "close")]⟩ (by rw [init_eq_initByNumber]; decide +kernel)
  obtain ⟨t₁, h₁, h₂⟩ := run_pair hrun₂
  cases hrun.symm.trans h₁
  have hnot : ¬ t.HasPending 1 d.name := by
    rintro ⟨address, event, hl, heq⟩
    have := mem_account_pending hl
    rw [haccount, heq, hname] at this
    simp at this
  obtain ⟨-, hnew⟩ := h d hd sampleOptions .all _ t
    (sampleStop 1 0x200 "__open" [("lr", 0x600)]) 1 _ hrun (by
      rw [shouldTraceSyscall, (run_sound hrun).filter_eq]; rfl) rfl rfl (by rw [hname]; rfl) (by
      rw [AList.lookup_eq_none]
      intro hmem
      obtain ⟨event, hl⟩ := mem_pending_iff.mp hmem
      have := mem_account_pending hl
      rw [haccount] at this
      simp [sampleFrame] at this)
  obtain ⟨t', event, hstop, hmakes, -⟩ := hnew hnot
  obtain rfl : t₂ = t' := Except.ok.inj (h₂.symm.trans hstop)
  have hcreated := hmakes.created
  have hc : t.created = 1 := congrArg Account.created haccount
  have hc₂ : t₂.created = 1 := congrArg Account.created haccount₂
  omega

/-! ## Stops without an effect -/

/-- The checks of `_handle_stop` take a stop in this function for the entry of a call of `d`. -/
structure TakenForCall (t : Tracer) (tid : Nat) (frame : Frame) (d : SyscallDef) : Prop where
  known : ∃ fn, frame.functionName = some fn ∧ fn ≠ "" ∧
    SyscallRegistry.init.lookupByName (Text.lstrip '_' fn) = some d ∧
    t.isDuplicate tid fn d = false
  passes : t.shouldTraceSyscall d.name = true

theorem TakenForCall.lookup (h : t.TakenForCall tid frame d) :
    SyscallRegistry.init.lookupByName d.name = some d := by
  obtain ⟨fn, -, -, hl, -⟩ := h.known
  rwa [(SyscallRegistry.lookupByName_eq_some hl).1]

theorem entryName_eq_some_iff (hreg : t.registry = SyscallRegistry.init) :
    t.entryName tid frame.functionName = some name ↔
      ∃ d, t.TakenForCall tid frame d ∧ d.name = name := by
  constructor
  · intro h
    obtain ⟨fn, d, hfn, hempty, rfl, hl, hdup, hshould⟩ := entryName_eq_some h
    rw [hreg] at hl
    obtain ⟨hname, -⟩ := SyscallRegistry.lookupByName_eq_some hl
    exact ⟨d, ⟨⟨fn, hfn, hempty, hl, hdup⟩, by rw [hname]; exact hshould⟩, hname⟩
  · rintro ⟨d, ⟨⟨fn, hfn, hempty, hl, hdup⟩, hshould⟩, rfl⟩
    obtain ⟨hname, -⟩ := SyscallRegistry.lookupByName_eq_some hl
    rw [entryName_of tid hfn hempty (by rw [hreg]; exact hl), hdup, ← hname, hshould]
    rfl

/-- **A stop that is not at a pending return address leaves the output, the breakpoints and the
pending calls alone exactly when it is not taken for a call, or its arguments cannot be decoded.**
Neither the reason of the stop nor the offset of its `pc` matters. -/
theorem stop_without_effect_iff (hrun : (init options filter).run stops = .ok t)
    (hreturn : ∀ tid frame event, ¬ t.IsReturn stop tid frame event) :
    (∀ t', t.handleStop stop = .ok t' → t'.written = t.written ∧ t'.target = t.target ∧
        t'.pendingSyscalls = t.pendingSyscalls) ↔
      ∀ tid frame d, stop.threadId = some tid → stop.frame = some frame →
        t.TakenForCall tid frame d →
        d.NullBaseAtEntry options.arch frame stop.process stop.listId options.noAbbrev := by
  have hreg := (run_sound hrun).registry
  constructor
  · intro h tid frame d ht hf htaken
    have hp := lookup_eq_none_of_not_isReturn hreturn ht hf
    have he : t.IsEntry stop tid frame d.name :=
      ⟨ht, hf, hp, (entryName_eq_some_iff hreg).mpr ⟨d, htaken, rfl⟩⟩
    by_contra hnull
    have hdecodable := (decodeEntry_ok_iff (run_sound hrun) htaken.lookup).mpr hnull
    obtain ⟨t', h'⟩ := he.returns_iff.mpr hdecodable
    obtain ⟨hwritten, htarget, -⟩ := h t' h'
    rcases he.effect h' with hne | hne
    · exact hne hwritten
    · exact hne htarget
  · intro h t' h'
    rcases t.stop_cases stop with ⟨tid, frame, event, hr⟩ | ⟨tid, frame, name, he⟩ | ⟨hr, he⟩
    · exact absurd hr (hreturn tid frame event)
    · obtain ⟨d, htaken, rfl⟩ := (entryName_eq_some_iff hreg).mp he.name_eq
      have hnull := h tid frame d he.thread he.frame_eq htaken
      have hdecodable := he.returns_iff.mp ⟨t', h'⟩
      exact absurd hnull ((decodeEntry_ok_iff (run_sound hrun) htaken.lookup).mp hdecodable)
    · rw [handleStop_ignored hr he] at h'
      cases h'
      exact ⟨rfl, rfl, rfl⟩

/-- A stop in the middle of `read`, when a signal arrives for the blocked thread. -/
def readInterrupted : Stop where
  process := ⟨.empty, .little⟩
  pid := 7
  reason := .signal 14
  threadId := some 1
  frame := some ⟨some "read", 0x108, 8, fun name => [("lr", 0x500)].lookup name, none⟩
  time := 1
  listId := 2

/-- Stops of a thread inside `open`, in a function that is no syscall and in the implementation of
`open`, leave the pending calls alone. -/
theorem stop_without_effect_main : ∃ t, (init sampleOptions .all).run openAndClose = .ok t ∧
    t.pendingSyscalls.entries.length = 2 ∧
    ∀ name ∈ ["main", "__open"], ∀ t', t.handleStop (sampleStop 1 0x700 name []) = .ok t' →
      t'.written = t.written ∧ t'.target = t.target ∧
        t'.pendingSyscalls = t.pendingSyscalls := by
  obtain ⟨t, hrun, haccount, hopen⟩ := run_openAndClose
  have hlength := congrArg (fun a => a.pending.length) haccount
  refine ⟨t, hrun, by simpa [account] using hlength, fun name hmem => ?_⟩
  refine (stop_without_effect_iff hrun ?_).mpr ?_
  · rintro tid frame event ⟨ht, hf, hl⟩
    cases ht
    cases hf
    have haccounted := mem_account_pending hl
    rw [haccount] at haccounted
    simp [sampleFrame] at haccounted
  · rintro tid frame d ht hf ⟨⟨fn, hfn, -, hlookup, hduplicate⟩, -⟩
    cases ht
    cases hf
    cases hfn
    rcases List.mem_pair.mp hmem with rfl | rfl
    · have hnone : SyscallRegistry.init.lookupByName (Text.lstrip '_' "main") = none := by
        rw [SyscallRegistry.init_lookupByName, Option.map_eq_none_iff, List.find?_eq_none]
        decide +kernel
      rw [hnone] at hlookup
      cases hlookup
    · -- The stop belongs to the call that is pending.
      obtain ⟨hname, -⟩ := SyscallRegistry.lookupByName_eq_some hlookup
      have hdunder : Text.startsWith d.name "__" = false := by
        rw [hname]
        decide
      rw [isDuplicate, hopen.thread, hdunder] at hduplicate
      exact absurd hduplicate (by decide)

/-- A signal in the middle of `read` replaces the pending event of that `read`. -/
theorem interrupted_read_recorded :
    ¬ ∀ options filter stops t stop, (init options filter).run stops = .ok t →
      (∀ tid frame event, ¬ t.IsReturn stop tid frame event) →
      (∀ frame, stop.frame = some frame → frame.pcOffset ≠ 0) →
      ∀ t', t.handleStop stop = .ok t' → t'.written = t.written ∧ t'.target = t.target ∧
        t'.pendingSyscalls = t.pendingSyscalls := by
  intro h
  obtain ⟨t, hrun, haccount⟩ := run_of_account (t := init sampleOptions .all)
    [sampleStop 1 0x100 "read" [("lr", 0x500)]]
    ⟨1, [], [((1, 0x500), 0, "read")]⟩ (by rw [init_eq_initByNumber]; decide +kernel)
  obtain ⟨t', hrun', haccount'⟩ := run_of_account (t := init sampleOptions .all)
    [sampleStop 1 0x100 "read" [("lr", 0x500)], readInterrupted]
    ⟨2, [], [((1, 0x500), 1, "read")]⟩ (by rw [init_eq_initByNumber]; decide +kernel)
  obtain ⟨t₁, h₁, h₂⟩ := run_pair hrun'
  cases hrun.symm.trans h₁
  obtain ⟨-, -, hpending⟩ := h sampleOptions .all _ t readInterrupted hrun (by
    rintro tid frame event ⟨ht, hf, hl⟩
    cases ht
    cases hf
    have := mem_account_pending hl
    rw [haccount] at this
    simp at this) (by
    intro frame hf
    cases hf
    decide) t' h₂
  have hp := congrArg Account.pending haccount
  have hp' := congrArg Account.pending haccount'
  unfold account at hp hp'
  rw [hpending] at hp'
  simpa using hp.symm.trans hp'

end Tracer

end StraceMacos
