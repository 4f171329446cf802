import StraceMacos.Proofs.RegistryProofs
import StraceMacos.Proofs.StopProofs

/-!
# The calls and failures of a run

The summary counts the events of each name, and those whose decoded return value is a negative
number. A return register of -1 is replaced by a text unless abbreviation is off. A run that differs
in `no_abbrev` handles every stop in the same way.
-/

namespace StraceMacos

/-! ## The summary as a count over events -/

theorem get_foldl_addEvent (events : List SyscallEvent) (stats : SummaryStats) (name : String) :
    ((events.foldl addEvent stats).get name).getD ⟨0, 0⟩ =
      ⟨((stats.get name).getD ⟨0, 0⟩).count + events.countP fun e => e.syscallName = name,
        ((stats.get name).getD ⟨0, 0⟩).errors +
          events.countP fun e => e.syscallName = name ∧ e.returnValue.isNegative⟩ := by
  induction events generalizing stats with
  | nil => rfl
  | cons e es ih =>
    rw [List.foldl_cons, ih, addEvent, Dict.get_set, List.countP_cons, List.countP_cons]
    by_cases hname : name = e.syscallName
    · subst hname
      simp only [if_true, Option.getD_some, decide_true, true_and, decide_eq_true_eq]
      congr 1 <;> omega
    · have hne : ¬ e.syscallName = name := fun h => hname h.symm
      simp only [if_neg hname, hne, false_and, decide_false, Bool.false_eq_true, if_false,
        Nat.add_zero]

theorem mem_keys_foldl_addEvent {events : List SyscallEvent} {stats : SummaryStats}
    {name : String} :
    name ∈ (events.foldl addEvent stats).keys ↔
      name ∈ stats.keys ∨ ∃ e ∈ events, e.syscallName = name := by
  induction events generalizing stats with
  | nil => simp
  | cons e es ih =>
    have hkeys : name ∈ (addEvent stats e).keys ↔ name ∈ stats.keys ∨ e.syscallName = name := by
      rw [addEvent, Dict.keys_set]
      split_ifs with h
      · exact ⟨.inl, fun h' => h'.elim id fun heq => heq ▸ h⟩
      · simp [eq_comm]
    rw [List.foldl_cons, ih, hkeys, List.exists_mem_cons_iff, or_assoc]

/-- The summary depends on the names of the events and on which of them count as failed. -/
theorem foldl_addEvent_congr {events events' : List SyscallEvent}
    (h : events.map (fun e => (e.syscallName, e.returnValue.isNegative)) =
      events'.map fun e => (e.syscallName, e.returnValue.isNegative)) (stats : SummaryStats) :
    events.foldl addEvent stats = events'.foldl addEvent stats := by
  induction events generalizing events' stats with
  | nil =>
    rw [List.map_nil, eq_comm, List.map_eq_nil_iff] at h
    rw [h]
  | cons e es ih =>
    cases events' with
    | nil => cases h
    | cons e' es' =>
      rw [List.map_cons, List.map_cons, List.cons.injEq, Prod.mk.injEq] at h
      obtain ⟨⟨hname, hneg⟩, hrest⟩ := h
      have hadd : addEvent stats e = addEvent stats e' := by
        unfold addEvent
        rw [hname, hneg]
      rw [List.foldl_cons, List.foldl_cons, hadd, ih hrest]

/-- **The totals row is the sum of the rows above it.** -/
theorem totalCalls_eq_sum (stats : SummaryStats) :
    totalCalls stats = ((summaryRows stats).map SummaryRow.calls).sum := by
  have hrows : (summaryRows stats).map SummaryRow.calls =
      (stats.keys.insertionSort (· ≤ ·)).map fun name =>
        ((stats.get name).getD ⟨0, 0⟩).count := by
    unfold summaryRows
    rw [List.map_map]
    rfl
  have hvalues : stats.values.map Stats.count =
      stats.keys.map fun name => ((stats.get name).getD ⟨0, 0⟩).count := by
    unfold Dict.values Dict.keys
    rw [List.map_map, List.map_map]
    refine List.map_congr_left fun e he => ?_
    have hget : stats.get e.1 = some e.2 := Dict.mem_entries_iff.mp he
    simp only [Function.comp_apply, hget, Option.getD_some]
  unfold totalCalls
  rw [hvalues, hrows]
  exact ((List.perm_insertionSort _ _).map _).symm.sum_eq

theorem map_syscall_summaryRows (stats : SummaryStats) :
    (summaryRows stats).map SummaryRow.syscall = stats.keys.insertionSort (· ≤ ·) := by
  unfold summaryRows
  rw [List.map_map]
  exact List.map_id _

/-! ## Return values that count as failures -/

theorem decodeFcntlReturn_isNegative {v : Int} (hv : 0 ≤ v) (rawArgs : List Nat)
    (noAbbrev : Bool) : (decodeFcntlReturn v rawArgs noAbbrev).isNegative = false := by
  have hint : (ReturnValue.int v).isNegative = false := by
    simpa [ReturnValue.isNegative, ReturnValue.int?] using hv
  unfold decodeFcntlReturn
  rw [if_neg (by omega)]
  cases rawArgs[1]? with
  | none => exact hint
  | some cmd =>
    simp only
    split_ifs <;> first | rfl | exact hint

theorem ReturnDecoder.decode_isNegative (r : ReturnDecoder) {v : Int} (hv : 0 ≤ v)
    (rawArgs : List Nat) (noAbbrev : Bool) : (r.decode v rawArgs noAbbrev).isNegative = false := by
  cases r
  exact decodeFcntlReturn_isNegative hv rawArgs noAbbrev

theorem failedReturn_isNegative (noAbbrev : Bool) (frame : Frame) (v : Int) :
    (decodeReturnValue.failedReturn noAbbrev frame v).isNegative =
      decide (v < 0 ∧ ¬ (v = -1 ∧ noAbbrev = false)) := by
  unfold decodeReturnValue.failedReturn
  by_cases h : v = -1 ∧ noAbbrev = false
  · rw [if_pos h]
    cases readErrno frame <;> simp [ReturnValue.isNegative, ReturnValue.int?, h]
  · rw [if_neg h]
    simp [ReturnValue.isNegative, ReturnValue.int?, h]

/-- A decoded return value is a negative number when the register is, except for -1 with
abbreviation on. -/
theorem decodeReturnValue_isNegative (registry : SyscallRegistry) (arch : Architecture)
    (noAbbrev : Bool) (frame : Frame) (event : SyscallEvent) :
    (decodeReturnValue registry arch noAbbrev frame event).isNegative =
      (signedReturn arch frame).any fun v => v < 0 ∧ ¬ (v = -1 ∧ noAbbrev = false) := by
  unfold decodeReturnValue
  cases signedReturn arch frame with
  | none => rfl
  | some v =>
    simp only [Option.any_some]
    cases (registry.lookupByName event.syscallName).bind SyscallDef.returnDecoder with
    | none => exact failedReturn_isNegative noAbbrev frame v
    | some r =>
      by_cases hv : 0 ≤ v
      · simp only [if_pos hv]
        rw [r.decode_isNegative hv, eq_comm, decide_eq_false_iff_not]
        omega
      · simp only [if_neg hv]
        exact failedReturn_isNegative noAbbrev frame v

/-! ## Runs with their return registers -/

namespace Tracer

variable {t t' t₀ t₁ t₀' t₁' : Tracer} {stop : Stop} {stops : List Stop} {options : Options}
variable {filter : Filter}

/-- The signed return register at a stop that is taken for a return. -/
def returnRegister (t : Tracer) (stop : Stop) : Option Int :=
  match stop.threadId, stop.frame with
  | some tid, some frame =>
    if (tid, frame.pc) ∈ t.pendingSyscalls then signedReturn t.options.arch frame else none
  | _, _ => none

theorem IsReturn.returnRegister_eq {tid : Nat} {frame : Frame} {event : SyscallEvent}
    (h : t.IsReturn stop tid frame event) :
    t.returnRegister stop = signedReturn t.options.arch frame := by
  unfold returnRegister
  rw [h.thread, h.frame_eq]
  exact if_pos h.mem

theorem IsEntry.returnRegister_eq {tid : Nat} {frame : Frame} {name : String}
    (h : t.IsEntry stop tid frame name) : t.returnRegister stop = none := by
  unfold returnRegister
  rw [h.thread, h.frame_eq]
  exact if_neg (AList.lookup_eq_none.mp h.not_pending)

/-- The events written in a run, each with the return register at the stop where it was written. -/
def completions (t : Tracer) : List Stop → List (SyscallEvent × Option Int)
  | [] => []
  | stop :: stops =>
    match t.handleStop stop with
    | .error _ => []
    | .ok t' =>
      ((t'.written.drop t.written.length).map fun event => (event, t.returnRegister stop)) ++
        t'.completions stops

theorem completions_cons (h : t.handleStop stop = .ok t') :
    t.completions (stop :: stops) =
      ((t'.written.drop t.written.length).map fun event => (event, t.returnRegister stop)) ++
        t'.completions stops := by
  rw [completions, h]

theorem run_completions (h : t.run stops = .ok t') :
    t'.written = t.written ++ (t.completions stops).map Prod.fst := by
  induction stops generalizing t with
  | nil =>
    rw [← Run.nil_ok.mp h]
    exact (List.append_nil _).symm
  | cons stop stops ih =>
    obtain ⟨s, hstop, h⟩ := Run.cons_ok.mp h
    obtain ⟨new, hnew⟩ := (handleStop_handles hstop).written_isPrefix
    rw [ih h, completions_cons hstop, ← hnew, List.drop_left, List.map_append, List.map_map,
      List.append_assoc]
    exact congrArg _ (congrArg (· ++ _) (List.map_id _).symm)

/-- A written event counts as failed when its return register was negative, except for -1 with
abbreviation on. -/
theorem Handles.isNegative (h : t.Handles stop t') :
    ∀ event ∈ t'.written.drop t.written.length, event.returnValue.isNegative =
      (t.returnRegister stop).any fun v => v < 0 ∧ ¬ (v = -1 ∧ t.options.noAbbrev = false) := by
  intro event hmem
  cases h with
  | ignored => simp at hmem
  | @returned tid frame event₀ event' decoder hr hc =>
    obtain rfl : event = event' := by simpa [settle, writeEvent] using hmem
    obtain ⟨args, rfl⟩ := completeEvent_eq hc
    rw [hr.returnRegister_eq]
    exact decodeReturnValue_isNegative _ _ _ _ _
  | @reported tid frame name args rawArgs decoder he hd hra =>
    obtain rfl : event = t.entryEvent stop name args rawArgs := by
      simpa [report, writeEvent] using hmem
    rw [he.returnRegister_eq]
    rfl
  | recorded => simp [record] at hmem

theorem run_isNegative (h : t.run stops = .ok t') :
    ∀ p ∈ t.completions stops, p.1.returnValue.isNegative =
      p.2.any fun v => v < 0 ∧ ¬ (v = -1 ∧ t.options.noAbbrev = false) := by
  induction stops generalizing t with
  | nil => simp [completions]
  | cons stop stops ih =>
    obtain ⟨s, hstop, h⟩ := Run.cons_ok.mp h
    have hhandles := handleStop_handles hstop
    have hoptions := hhandles.sameConfig.options
    intro p hmem
    rw [completions_cons hstop] at hmem
    rcases List.mem_append.mp hmem with hmem | hmem
    · obtain ⟨event, hevent, rfl⟩ := List.mem_map.mp hmem
      exact hhandles.isNegative event hevent
    · rw [← hoptions]
      exact ih h p hmem

theorem Handles.summary_eq (h : t.Handles stop t')
    (hs : t.summary = t.written.foldl addEvent .empty) :
    t'.summary = t'.written.foldl addEvent .empty := by
  have hwrite : ∀ event, addEvent t.summary event =
      (t.written ++ [event]).foldl addEvent .empty := by
    intro event
    rw [List.foldl_append, ← hs]
    rfl
  cases h with
  | ignored => exact hs
  | returned => exact hwrite _
  | reported => exact hwrite _
  | recorded => exact hs

theorem run_summary_eq (h : (init options filter).run stops = .ok t) :
    t.summary = t.written.foldl addEvent .empty :=
  Run.invariant (I := fun t => t.summary = t.written.foldl addEvent .empty)
    (fun _ _ _ hs h => (handleStop_handles h).summary_eq hs) rfl h

/-! ## Two runs that differ in `no_abbrev` -/

/-- Two tracers that take every stop for the same: they agree on the registry, the filter, the
architecture and the names of the pending events. -/
structure SameControl (t₀ t₁ : Tracer) : Prop where
  registry : t₁.registry = t₀.registry
  filter : t₁.filter = t₀.filter
  arch : t₁.options.arch = t₀.options.arch
  pending : ∀ key, (t₁.pendingSyscalls.lookup key).map SyscallEvent.syscallName =
    (t₀.pendingSyscalls.lookup key).map SyscallEvent.syscallName

theorem SameControl.isSome (hR : SameControl t₀ t₁) (key : PendingKey) :
    (t₁.pendingSyscalls.lookup key).isSome = (t₀.pendingSyscalls.lookup key).isSome := by
  have h := congrArg Option.isSome (hR.pending key)
  rwa [Option.isSome_map, Option.isSome_map] at h

theorem SameControl.entryName (hR : SameControl t₀ t₁) (tid : Nat) (fn : Option String) :
    t₁.entryName tid fn = t₀.entryName tid fn := by
  have hthread : t₁.threadHasPending tid = t₀.threadHasPending tid := by
    rw [Bool.eq_iff_iff, threadHasPending_iff, threadHasPending_iff]
    simp only [← AList.lookup_isSome, hR.isSome]
  unfold Tracer.entryName isDuplicate shouldTraceSyscall
  rw [hthread, hR.registry, hR.filter]

theorem SameControl.isEntry {tid : Nat} {frame : Frame} {name : String} (hR : SameControl t₀ t₁)
    (h : t₀.IsEntry stop tid frame name) : t₁.IsEntry stop tid frame name := by
  refine ⟨h.thread, h.frame_eq, ?_, by rw [hR.entryName]; exact h.name_eq⟩
  have hpend := hR.isSome (tid, frame.pc)
  rw [h.not_pending] at hpend
  cases hl : t₁.pendingSyscalls.lookup (tid, frame.pc) with
  | none => rfl
  | some event => rw [hl] at hpend; cases hpend

theorem SameControl.symm (hR : SameControl t₀ t₁) : SameControl t₁ t₀ :=
  ⟨hR.registry.symm, hR.filter.symm, hR.arch.symm, fun key => (hR.pending key).symm⟩

/-- What the two runs write at a stop has the same names and return registers. -/
def SameOutcome (stop : Stop) (t₀ t₁ t₀' t₁' : Tracer) : Prop :=
  ((t₁'.written.drop t₁.written.length).map fun e => (e.syscallName, t₁.returnRegister stop)) =
    (t₀'.written.drop t₀.written.length).map fun e => (e.syscallName, t₀.returnRegister stop)

theorem SameControl.step (hR : SameControl t₀ t₁) (h₀ : t₀.handleStop stop = .ok t₀')
    (h₁ : t₁.handleStop stop = .ok t₁') :
    SameControl t₀' t₁' ∧ SameOutcome stop t₀ t₁ t₀' t₁' := by
  unfold SameOutcome
  rcases t₀.stop_cases stop with ⟨tid, frame, event, hr⟩ | ⟨tid, frame, name, he⟩ | ⟨hr, he⟩
  · -- A return: the events pending at the key have the same name.
    have hpend := hR.pending (tid, frame.pc)
    rw [hr.pending, Option.map_some, Option.map_eq_some_iff] at hpend
    obtain ⟨event₁, hl₁, hname⟩ := hpend
    have hr₁ : t₁.IsReturn stop tid frame event₁ := ⟨hr.thread, hr.frame_eq, hl₁⟩
    obtain ⟨event', decoder, hc, rfl⟩ := hr.handled h₀
    obtain ⟨event₁', decoder₁, hc₁, rfl⟩ := hr₁.handled h₁
    obtain ⟨args, rfl⟩ := completeEvent_eq hc
    obtain ⟨args₁, rfl⟩ := completeEvent_eq hc₁
    refine ⟨⟨hR.registry, hR.filter, hR.arch, fun key => ?_⟩, ?_⟩
    · by_cases hkey : key = (tid, frame.pc)
      · subst hkey
        simp [settle, writeEvent]
      · simpa [settle, writeEvent, AList.lookup_erase_ne hkey] using hR.pending key
    · rw [hr.returnRegister_eq, hr₁.returnRegister_eq, hR.arch]
      simp [settle, writeEvent, hname]
  · -- An entry: both runs make an event of the same name.
    have he₁ := hR.isEntry he
    obtain ⟨args, rawArgs, decoder, hd, rfl⟩ := he.handled h₀
    obtain ⟨args₁, rawArgs₁, decoder₁, hd₁, rfl⟩ := he₁.handled h₁
    have hra : t₁.returnAddress stop frame = t₀.returnAddress stop frame := by
      unfold returnAddress
      rw [hR.arch]
    rw [he.returnRegister_eq, he₁.returnRegister_eq]
    unfold enter
    rw [hra]
    cases t₀.returnAddress stop frame with
    | none =>
      exact ⟨⟨hR.registry, hR.filter, hR.arch, hR.pending⟩,
        by simp [report, writeEvent, entryEvent]⟩
    | some address =>
      refine ⟨⟨hR.registry, hR.filter, hR.arch, fun key => ?_⟩, by simp [record]⟩
      by_cases hkey : key = (tid, address)
      · subst hkey
        simp [record, entryEvent]
      · simpa [record, AList.lookup_insert_ne hkey] using hR.pending key
  · have hr₁ : ∀ tid frame event, ¬ t₁.IsReturn stop tid frame event := by
      rintro tid frame event ⟨ht, hf, hl⟩
      have hpend := hR.isSome (tid, frame.pc)
      rw [hl] at hpend
      obtain ⟨event₀, hl₀⟩ := Option.isSome_iff_exists.mp hpend.symm
      exact hr tid frame event₀ ⟨ht, hf, hl₀⟩
    have he₁ : ∀ tid frame name, ¬ t₁.IsEntry stop tid frame name :=
      fun tid frame name he₁ => he tid frame name (hR.symm.isEntry he₁)
    rw [handleStop_ignored hr he] at h₀
    rw [handleStop_ignored hr₁ he₁] at h₁
    cases h₀
    cases h₁
    exact ⟨hR, by simp⟩

theorem SameControl.completions (hR : SameControl t₀ t₁) (h₀ : t₀.run stops = .ok t₀')
    (h₁ : t₁.run stops = .ok t₁') :
    (t₁.completions stops).map (fun p => (p.1.syscallName, p.2)) =
      (t₀.completions stops).map fun p => (p.1.syscallName, p.2) := by
  induction stops generalizing t₀ t₁ with
  | nil => rfl
  | cons stop stops ih =>
    obtain ⟨s₀, hs₀, h₀⟩ := Run.cons_ok.mp h₀
    obtain ⟨s₁, hs₁, h₁⟩ := Run.cons_ok.mp h₁
    obtain ⟨hR', hout⟩ := hR.step hs₀ hs₁
    rw [completions_cons hs₀, completions_cons hs₁, List.map_append, List.map_append, ih hR' h₀ h₁,
      List.map_map, List.map_map]
    exact congrArg (· ++ _) hout

end Tracer

end StraceMacos
