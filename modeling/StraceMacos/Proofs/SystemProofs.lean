import StraceMacos.System
import StraceMacos.Proofs.EntryProofs

/-!
# The calls in progress

As long as no thread reaches the return address of another call, and no call is stored under the key
of another one, the pending events and the one-shot breakpoints follow the calls in progress. Then
each call that returns is written once, with the value that it returned.
-/

namespace StraceMacos

namespace Tracer

variable {t t' : Tracer} {m : Move} {stop : Stop} {tid : Nat} {frame : Frame} {name : String}
variable {event : SyscallEvent} {options : Options} {filter : Filter} {key : PendingKey}

/-! ## Breakpoints -/

@[simp] theorem disarm_pendingSyscalls : (t.disarm m).pendingSyscalls = t.pendingSyscalls := by
  cases m <;> rfl

@[simp] theorem disarm_written : (t.disarm m).written = t.written := by
  cases m <;> rfl

theorem disarm_isReturn : (t.disarm m).IsReturn stop tid frame event ↔
    t.IsReturn stop tid frame event := by
  constructor <;> rintro ⟨ht, hf, hp⟩ <;> exact ⟨ht, hf, by simpa using hp⟩

theorem disarm_isEntry : (t.disarm m).IsEntry stop tid frame name ↔
    t.IsEntry stop tid frame name := by
  cases m <;> constructor <;> rintro ⟨ht, hf, hp, hn⟩ <;> exact ⟨ht, hf, hp, hn⟩

theorem disarm_meetsNullBase : (t.disarm m).MeetsNullBase stop ↔ t.MeetsNullBase stop := by
  cases m <;> constructor <;> rintro (⟨he, hd, h⟩ | ⟨hr, hd, hv, hsuccess, h⟩)
  all_goals first
    | exact .entry (disarm_isEntry.mp he) hd h
    | exact .entry (disarm_isEntry.mpr he) hd h
    | exact .exit (disarm_isReturn.mp hr) hd hv hsuccess h
    | exact .exit (disarm_isReturn.mpr hr) hd hv hsuccess h

theorem Sound.disarm (hs : t.Sound options filter) : (t.disarm m).Sound options filter := by
  cases m with
  | reach => exact ⟨⟨hs.config.options, hs.config.registry, hs.config.filter, hs.config.entries⟩,
      hs.valid, hs.decoder⟩
  | interrupt => exact hs

/-- What a move does to the tracer: nothing, or what its stop does without the breakpoints that the
thread has reached. -/
theorem move_cases (h : t.move m = .ok t') :
    (t.stopsAt m = false ∧ t' = t) ∨ (t.stopsAt m = true ∧ (t.disarm m).Handles m.stop t') := by
  unfold move at h
  cases hstops : t.stopsAt m with
  | false =>
    rw [hstops] at h
    cases h
    exact .inl ⟨rfl, rfl⟩
  | true =>
    rw [hstops] at h
    exact .inr ⟨rfl, handleStop_handles h⟩

theorem Sound.move (hs : t.Sound options filter) (h : t.move m = .ok t') :
    t'.Sound options filter := by
  rcases move_cases h with ⟨-, rfl⟩ | ⟨-, h⟩
  · exact hs
  · exact h.sound hs.disarm

/-- A move goes through unless a decoder that runs in it meets a null base. -/
theorem move_returns_iff (hs : t.Sound options filter) :
    (∃ t', t.move m = .ok t') ↔ (t.stopsAt m = true → ¬ t.MeetsNullBase m.stop) := by
  unfold move
  cases hstops : t.stopsAt m with
  | false => simp
  | true =>
    rw [if_pos rfl, handleStop_returns_iff hs.disarm, disarm_meetsNullBase]
    exact ⟨fun h _ => h, fun h => h rfl⟩

/-- The key under which the event of an entry is stored. -/
def storedKey (t : Tracer) (stop : Stop) : Option PendingKey :=
  match stop.threadId, stop.frame with
  | some tid, some frame =>
    if (t.pendingSyscalls.lookup (tid, frame.pc)).isNone ∧
        (t.entryName tid frame.functionName).isSome then
      (t.returnAddress stop frame).map fun address => (tid, address)
    else none
  | _, _ => none

theorem IsEntry.storedKey (he : t.IsEntry stop tid frame name) :
    t.storedKey stop = (t.returnAddress stop frame).map fun address => (tid, address) := by
  unfold Tracer.storedKey
  rw [he.thread, he.frame_eq]
  simp only [he.not_pending, he.name_eq]
  rfl

theorem disarm_storedKey : (t.disarm m).storedKey stop = t.storedKey stop := by
  cases m <;> rfl

/-- What a stop leaves of the pending events and the breakpoints. -/
structure Leaves (t : Tracer) (key : PendingKey) (t' : Tracer) : Prop where
  pending : t'.pendingSyscalls.lookup key = t.pendingSyscalls.lookup key
  armed : key.2 ∈ t.target.oneShots → key.2 ∈ t'.target.oneShots

/-- A stop leaves a key alone that is neither returned to nor stored under. -/
theorem Handles.leaves (h : t.Handles stop t')
    (hr : ∀ frame event, t.IsReturn stop key.1 frame event → frame.pc ≠ key.2)
    (hs : t.storedKey stop ≠ some key) : t.Leaves key t' := by
  cases h with
  | ignored => exact ⟨rfl, id⟩
  | @returned tid frame event event' decoder hret =>
    refine ⟨AList.lookup_erase_ne fun hkey => ?_, id⟩
    subst hkey
    exact hr frame event hret rfl
  | reported => exact ⟨rfl, id⟩
  | @recorded tid frame name args rawArgs decoder address he hd hra =>
    refine ⟨AList.lookup_insert_ne fun hkey => ?_, List.mem_append_left _⟩
    subst hkey
    exact hs (by rw [he.storedKey, hra]; rfl)

/-- A return touches its own key. -/
theorem touches_of_isReturn (hr : t.IsReturn m.stop tid frame event) :
    m.touches (tid, frame.pc) = true := by
  cases m with
  | reach arrival atEntry =>
    have hframe := hr.frame_eq
    rw [Move.stop, arrival.frame_eq] at hframe
    cases hframe
    simp [Move.touches]
  | interrupt stop =>
    have ht : stop.threadId = some tid := hr.thread
    have hf : stop.frame = some frame := hr.frame_eq
    simp [Move.touches, ht, hf]

theorem move_leaves (h : t.move m = .ok t') (htouch : m.touches key = false)
    (hs : t.stopsAt m = true → t.storedKey m.stop ≠ some key) : t.Leaves key t' := by
  rcases move_cases h with ⟨-, rfl⟩ | ⟨hstops, h⟩
  · exact ⟨rfl, id⟩
  · have hleaves : (t.disarm m).Leaves key t' := by
      refine h.leaves (fun frame event hr hpc => ?_) (by rw [disarm_storedKey]; exact hs hstops)
      have htouches := touches_of_isReturn hr
      rw [hpc, htouch] at htouches
      cases htouches
    refine ⟨hleaves.pending.trans (by rw [disarm_pendingSyscalls]), fun harmed => hleaves.armed ?_⟩
    cases m with
    | reach arrival atEntry =>
      refine List.mem_filter.mpr ⟨harmed, ?_⟩
      have hne : ¬ arrival.frame.pc = key.2 := by simpa [Move.touches] using htouch
      simpa using fun h => hne (Eq.symm h)
    | interrupt stop => exact harmed

/-- A thread that reaches the return address of its call stops there, and the event is written. -/
theorem move_return {arrival : Arrival} {atEntry : Bool}
    (h : t.move (.reach arrival atEntry) = .ok t')
    (hpending : t.pendingSyscalls.lookup (arrival.tid, arrival.frame.pc) = some event)
    (harmed : arrival.frame.pc ∈ t.target.oneShots) :
    ∃ event', t'.written = t.written ++ [event'] ∧ event'.serial = event.serial ∧
      event'.returnValue = decodeReturnValue t.registry t.options.arch t.options.noAbbrev
        arrival.frame event' := by
  have hr : t.IsReturn arrival.stop arrival.tid arrival.frame event :=
    ⟨arrival.thread_eq, arrival.frame_eq, hpending⟩
  rcases move_cases h with ⟨hstops, -⟩ | ⟨-, h⟩
  · simp [stopsAt, harmed] at hstops
  · cases h with
    | ignored hn => exact absurd (disarm_isReturn.mpr hr) (hn _ _ _)
    | returned hr' hc =>
      obtain ⟨rfl, rfl, rfl⟩ := hr.unique (disarm_isReturn.mp hr')
      obtain ⟨args, rfl⟩ := completeEvent_eq hc
      exact ⟨_, rfl, rfl, rfl⟩
    | reported he => exact absurd (disarm_isEntry.mp he) hr.not_isEntry
    | recorded he => exact absurd (disarm_isEntry.mp he) hr.not_isEntry

theorem move_written_isPrefix (h : t.move m = .ok t') : t.written <+: t'.written := by
  rcases move_cases h with ⟨-, rfl⟩ | ⟨-, h⟩
  · exact List.prefix_rfl
  · exact disarm_written (m := m) ▸ h.written_isPrefix

/-- The calls stored in a move are pending and have their breakpoints. -/
theorem mem_storedSince (hs : t.Sound options filter) (h : t.move m = .ok t') {a : Activation}
    (ha : a ∈ t.storedSince t') :
    (∃ event, t'.pendingSyscalls.lookup a.key = some event ∧ event.serial = a.serial) ∧
      a.key.2 ∈ t'.target.oneShots := by
  obtain ⟨⟨key, event⟩, he, rfl⟩ := List.mem_map.mp ha
  obtain ⟨hmem, hnew⟩ := List.mem_filter.mp he
  have hlookup : t'.pendingSyscalls.lookup key = some event := AList.mem_lookup_iff.mpr hmem
  refine ⟨⟨event, hlookup, rfl⟩, ?_⟩
  have hnew : t.created ≤ event.serial := by simpa using hnew
  -- An event that was pending before has a smaller number.
  have hold : t.pendingSyscalls.lookup key ≠ some event := fun hl => by
    have hlt : event.serial < t.created :=
      hs.valid.lt_opened _ (Ledger.mem_tags_of_lookup (L := t.ledger) hl)
    omega
  rcases move_cases h with ⟨-, rfl⟩ | ⟨-, h⟩
  · exact absurd hlookup hold
  · cases h with
    | ignored => exact absurd (by rwa [disarm_pendingSyscalls] at hlookup) hold
    | @returned tid frame event₀ event' decoder hr =>
      refine absurd ?_ hold
      by_cases hkey : key = (tid, frame.pc)
      · subst hkey
        simp [settle, writeEvent] at hlookup
      · rwa [settle, writeEvent, AList.lookup_erase_ne hkey, disarm_pendingSyscalls] at hlookup
    | reported => exact absurd (by simpa [report, writeEvent] using hlookup) hold
    | @recorded tid frame name args rawArgs decoder address =>
      by_cases hkey : key = (tid, address)
      · subst hkey
        exact List.mem_append_right _ (List.mem_singleton.mpr rfl)
      · rw [record, AList.lookup_insert_ne hkey, disarm_pendingSyscalls] at hlookup
        exact absurd hlookup hold

/-- Thread `tid` reaches the address `pc`. -/
def sampleArrival (tid pc : Nat) (functionName : String) (registers : List (String × BitVec 64)) :
    Arrival :=
  ⟨sampleStop tid pc functionName registers, tid, sampleFrame pc functionName registers,
    rfl, rfl⟩

end Tracer

/-! ## Calls in progress -/

namespace System

variable {s s' : System} {m : Move} {own : Option Nat} {options : Options} {filter : Filter}

/-- Each call that has returned has been written once, with the return value of its own frame. -/
def Complete (s : System) : Prop :=
  ∀ c ∈ s.returned, (s.tracer.written.map SyscallEvent.serial).count c.serial = 1 ∧
    ∃ event ∈ s.tracer.written, event.serial = c.serial ∧
      event.returnValue = decodeReturnValue s.tracer.registry s.tracer.options.arch
        s.tracer.options.noAbbrev c.frame event

/-- The calls in progress do not get into the way of each other: only the call that returns is at
its return address, and nothing is stored under the key of a call in progress. -/
structure Separate (s : System) (m : Move) (own : Option Nat) : Prop where
  alone : ∀ a ∈ s.active, m.touches a.key = true →
    own = some a.serial ∧ m.returnKey = some a.key
  free : s.tracer.stopsAt m = true → ∀ a ∈ s.active, s.tracer.storedKey m.stop ≠ some a.key

instance : Decidable (s.Separate m own) :=
  decidable_of_iff ((∀ a ∈ s.active, m.touches a.key = true →
      own = some a.serial ∧ m.returnKey = some a.key) ∧
    (s.tracer.stopsAt m = true → ∀ a ∈ s.active, s.tracer.storedKey m.stop ≠ some a.key))
    ⟨fun ⟨h₁, h₂⟩ => ⟨h₁, h₂⟩, fun ⟨h₁, h₂⟩ => ⟨h₁, h₂⟩⟩

/-- The calls are separate in the action, and no decoder meets a null base. -/
def Undisturbed (s : System) : Action → Prop
  | .move m own => s.Separate m own ∧
    (s.tracer.stopsAt m = true → ¬ s.tracer.MeetsNullBase m.stop)
  | .unwind _ => True

/-- The tracer knows the calls in progress: their events are pending and their breakpoints are set.
-/
structure Tracked (options : Options) (filter : Filter) (s : System) : Prop where
  sound : s.tracer.Sound options filter
  pending : ∀ a ∈ s.active, ∃ event, s.tracer.pendingSyscalls.lookup a.key = some event ∧
    event.serial = a.serial
  armed : ∀ a ∈ s.active, a.key.2 ∈ s.tracer.target.oneShots
  written : ∀ c ∈ s.returned, ∃ event ∈ s.tracer.written, event.serial = c.serial ∧
    event.returnValue = decodeReturnValue s.tracer.registry s.tracer.options.arch
      s.tracer.options.noAbbrev c.frame event

theorem Tracked.complete (h : s.Tracked options filter) : s.Complete := by
  intro c hc
  obtain ⟨event, hmem, hserial, hvalue⟩ := h.written c hc
  have hnodup : (s.tracer.written.map SyscallEvent.serial).Nodup :=
    (List.nodup_append.mp h.sound.valid.nodup).1
  refine ⟨List.count_eq_one_of_mem hnodup ?_, event, hmem, hserial, hvalue⟩
  exact List.mem_map.mpr ⟨event, hmem, hserial⟩

/-! ### Leaving a call -/

theorem leave_tracer : (s.leave m own).tracer = s.tracer := by
  unfold leave
  split <;> rfl

theorem returning_eq_some {a : Activation} (h : s.returning m own = some a) :
    a ∈ s.active ∧ own = some a.serial ∧ m.returnKey = some a.key := by
  have hp := List.find?_some h
  exact ⟨List.mem_of_find?_eq_some h, by simpa using hp⟩

theorem Separate.returning_of_touches (hsep : s.Separate m own) {a : Activation}
    (ha : a ∈ s.active) (htouch : m.touches a.key = true) : s.returning m own = some a := by
  obtain ⟨hown, hkey⟩ := hsep.alone a ha htouch
  cases hret : s.returning m own with
  | none =>
    have hnot : own = some a.serial → ¬ m.returnKey = some a.key := by
      simpa using List.find?_eq_none.mp hret a ha
    exact absurd hkey (hnot hown)
  | some b =>
    obtain ⟨-, hown', hkey'⟩ := returning_eq_some hret
    have hserial : b.serial = a.serial := Option.some.inj (hown'.symm.trans hown)
    have hk : b.key = a.key := Option.some.inj (hkey'.symm.trans hkey)
    cases a
    cases b
    cases hserial
    cases hk
    rfl

/-- In a move either no call returns, or the one at whose return address its thread has arrived. -/
theorem leave_cases (s : System) (m : Move) (own : Option Nat) :
    (s.returning m own = none ∧ s.leave m own = s) ∨
    ∃ arrival atEntry a, m = .reach arrival atEntry ∧ s.returning m own = some a ∧
      a ∈ s.active ∧ a.key = (arrival.tid, arrival.frame.pc) ∧
      s.leave m own =
        ⟨s.tracer, s.active.filter (· ≠ a), s.returned ++ [⟨a.serial, arrival.frame⟩]⟩ := by
  unfold leave
  cases hret : s.returning m own with
  | none => exact .inl ⟨rfl, by cases m <;> rfl⟩
  | some a =>
    obtain ⟨ha, -, hkey⟩ := returning_eq_some hret
    cases m with
    | reach arrival atEntry =>
      exact .inr ⟨arrival, atEntry, a, rfl, rfl, ha, (Option.some.inj hkey).symm, rfl⟩
    | interrupt stop => cases hkey

/-- The calls that stay active are not touched by the move. -/
theorem Separate.of_mem_leave (hsep : s.Separate m own) {a : Activation}
    (ha : a ∈ (s.leave m own).active) : a ∈ s.active ∧ m.touches a.key = false := by
  rcases leave_cases s m own with ⟨hret, heq⟩ | ⟨arrival, atEntry, b, -, hret, -, -, heq⟩
  · rw [heq] at ha
    refine ⟨ha, Bool.eq_false_iff.mpr fun htouch => ?_⟩
    cases hret.symm.trans (hsep.returning_of_touches ha htouch)
  · rw [heq] at ha
    obtain ⟨ha, hne⟩ := List.mem_filter.mp ha
    refine ⟨ha, Bool.eq_false_iff.mpr fun htouch => ?_⟩
    cases hret.symm.trans (hsep.returning_of_touches ha htouch)
    simp at hne

/-! ### The calls stay tracked -/

theorem Tracked.move (h : s.Tracked options filter) (hsep : s.Separate m own)
    (hdecodable : s.tracer.stopsAt m = true → ¬ s.tracer.MeetsNullBase m.stop) :
    ∃ s', (s.leave m own).advance m = .ok s' ∧ s'.Tracked options filter := by
  obtain ⟨t', hmove⟩ := (Tracer.move_returns_iff h.sound).mpr hdecodable
  have hleaves : ∀ a ∈ (s.leave m own).active, s.tracer.Leaves a.key t' := fun a ha =>
    Tracer.move_leaves hmove (hsep.of_mem_leave ha).2 fun hstops =>
      hsep.free hstops a (hsep.of_mem_leave ha).1
  have hconfig := (h.sound.move hmove).config
  refine ⟨⟨t', (s.leave m own).active ++ s.tracer.storedSince t', (s.leave m own).returned⟩, ?_,
    h.sound.move hmove, fun a ha => ?_, fun a ha => ?_, fun c hc => ?_⟩
  · unfold advance
    rw [leave_tracer, hmove]
    rfl
  · rcases List.mem_append.mp ha with ha | ha
    · rw [(hleaves a ha).pending]
      exact h.pending a (hsep.of_mem_leave ha).1
    · exact (Tracer.mem_storedSince h.sound hmove ha).1
  · rcases List.mem_append.mp ha with ha | ha
    · exact (hleaves a ha).armed (h.armed a (hsep.of_mem_leave ha).1)
    · exact (Tracer.mem_storedSince h.sound hmove ha).2
  · have hold : ∀ c ∈ s.returned, ∃ event ∈ t'.written, event.serial = c.serial ∧
        event.returnValue = decodeReturnValue t'.registry t'.options.arch t'.options.noAbbrev
          c.frame event := fun c hc => by
      obtain ⟨event, hmem, hserial, hvalue⟩ := h.written c hc
      refine ⟨event, (Tracer.move_written_isPrefix hmove).subset hmem, hserial, ?_⟩
      rw [hconfig.registry, hconfig.options, ← h.sound.config.registry, ← h.sound.config.options]
      exact hvalue
    rcases leave_cases s m own with ⟨-, heq⟩ | ⟨arrival, atEntry, a, rfl, -, ha, hkey, heq⟩
    · rw [heq] at hc
      exact hold c hc
    · rw [heq] at hc
      rcases List.mem_append.mp hc with hc | hc
      · exact hold c hc
      · cases List.mem_singleton.mp hc
        obtain ⟨event, hlookup, hserial⟩ := h.pending a ha
        have harmed := h.armed a ha
        rw [hkey] at hlookup harmed
        obtain ⟨event', hwritten, hserial', hvalue⟩ := Tracer.move_return hmove hlookup harmed
        refine ⟨event', by simp [hwritten], hserial'.trans hserial, ?_⟩
        rw [hconfig.registry, hconfig.options, ← h.sound.config.registry,
          ← h.sound.config.options]
        exact hvalue

theorem Tracked.step {action : Action} (h : s.Tracked options filter)
    (hu : s.Undisturbed action) : ∃ s', s.step action = .ok s' ∧ s'.Tracked options filter := by
  cases action with
  | move m own => exact h.move hu.1 hu.2
  | unwind serial =>
    exact ⟨_, rfl, h.sound, fun a ha => h.pending a (List.mem_filter.mp ha).1,
      fun a ha => h.armed a (List.mem_filter.mp ha).1, h.written⟩

/-- **No call is lost.** In a process whose calls do not get into the way of each other, each call
that returns is written once, with the return value of its own frame. -/
theorem no_call_lost {actions : List Action}
    (h : Run.Along step Undisturbed (init options filter) actions) :
    ∃ s, actions.foldlM step (init options filter) = .ok s ∧ s.Complete := by
  obtain ⟨s, hrun, htracked⟩ := Run.returns_along (I := Tracked options filter)
    (fun _ _ ht hu => ht.step hu) ⟨Tracer.sound_init, by rintro a ⟨⟩, by rintro a ⟨⟩,
      by rintro c ⟨⟩⟩ h
  exact ⟨s, hrun, htracked.complete⟩

/-! ### Calls of two threads -/

/-- Whether the calls are separate in the action. -/
def Separated (s : System) : Action → Prop
  | .move m own => s.Separate m own
  | .unwind _ => True

instance : ∀ (s : System) (action : Action), Decidable (s.Separated action)
  | s, .move m own => inferInstanceAs (Decidable (s.Separate m own))
  | _, .unwind _ => .isTrue trivial

/-- In a run that returns no decoder has met a null base. -/
theorem along_undisturbed {actions : List Action} (hs : s.tracer.Sound options filter)
    (h : Run.Along step Separated s actions) (hrun : actions.foldlM step s = .ok s') :
    Run.Along step Undisturbed s actions := by
  induction actions generalizing s with
  | nil => exact Run.along_nil
  | cons action actions ih =>
    obtain ⟨s₁, hstep, hrun⟩ := Run.cons_ok.mp hrun
    have hsound : s₁.tracer.Sound options filter ∧ s.Undisturbed action := by
      cases action with
      | unwind serial =>
        cases hstep
        exact ⟨hs, trivial⟩
      | move m own =>
        obtain ⟨t, hmove, hs₁⟩ := Fallible.bind_eq_ok.mp hstep
        rw [leave_tracer] at hmove
        cases hs₁
        exact ⟨hs.move hmove, h.1, (Tracer.move_returns_iff hs).mp ⟨t, hmove⟩⟩
    refine Run.along_cons.mpr ⟨hsound.2, fun s₂ hstep₂ => ?_⟩
    cases hstep.symm.trans hstep₂
    exact ih hsound.1 (h.2 s₁ hstep) hrun

/-- Thread `tid` calls `close` and is to return to `address`. -/
def enterClose (tid : Nat) (address : BitVec 64) : Action :=
  .move (.reach (Tracer.sampleArrival tid 0x100 "close" [("lr", address), ("x0", 3)]) true) none

/-- The call `own` of thread `tid` returns 0 to `address`. -/
def leaveClose (tid address own : Nat) : Action :=
  .move (.reach (Tracer.sampleArrival tid address "main" [("x0", 0)]) false) (some own)

/-- The numbers of the calls that have returned and of the written events. -/
def tally (s : System) : List Nat × List Nat :=
  (s.returned.map Completion.serial, s.tracer.written.map SyscallEvent.serial)

/-- Two threads call `close` at different places. -/
theorem no_call_lost_close : ∃ s,
    [enterClose 1 0x500, enterClose 2 0x600, leaveClose 1 0x500 0, leaveClose 2 0x600 1].foldlM step
      (init Tracer.sampleOptions .all) = .ok s ∧ s.Complete ∧ s.tally = ([0, 1], [0, 1]) := by
  have h : Run.Along step Separated (init Tracer.sampleOptions .all)
        [enterClose 1 0x500, enterClose 2 0x600, leaveClose 1 0x500 0, leaveClose 2 0x600 1] ∧
      ([enterClose 1 0x500, enterClose 2 0x600, leaveClose 1 0x500 0,
        leaveClose 2 0x600 1].foldlM step (init Tracer.sampleOptions .all)).toOption.map tally =
          some ([0, 1], [0, 1]) := by
    unfold init
    rw [Tracer.init_eq_initByNumber]
    decide +kernel
  obtain ⟨s, hrun, htally⟩ := Option.map_eq_some_iff.mp h.2
  have hrun := Fallible.toOption_eq_some.mp hrun
  have hsound : (init Tracer.sampleOptions .all).tracer.Sound Tracer.sampleOptions .all :=
    Tracer.sound_init
  obtain ⟨s', hrun', hcomplete⟩ := no_call_lost (along_undisturbed hsound h.1 hrun)
  cases hrun.symm.trans hrun'
  exact ⟨s, hrun, hcomplete, htally⟩

/-- Two threads call `close` at the same place: the first to return takes the breakpoint away, and
the second is never written. -/
theorem second_return_lost : ¬ ∀ options filter (actions : List Action) s,
    actions.foldlM step (init options filter) = .ok s → s.Complete := by
  intro h
  have htally : ([enterClose 1 0x500, enterClose 2 0x500, leaveClose 1 0x500 0,
      leaveClose 2 0x500 1].foldlM step (init Tracer.sampleOptions .all)).toOption.map tally =
        some ([0, 1], [0]) := by
    unfold init
    rw [Tracer.init_eq_initByNumber]
    decide +kernel
  obtain ⟨s, hrun, htally⟩ := Option.map_eq_some_iff.mp htally
  have hcomplete := h _ _ _ s (Fallible.toOption_eq_some.mp hrun)
  obtain ⟨hreturned, hwritten⟩ := Prod.mk.inj htally
  obtain ⟨c, hc, hserial⟩ : ∃ c ∈ s.returned, c.serial = 1 := by
    rw [← List.mem_map, hreturned]
    decide
  obtain ⟨hcount, -⟩ := hcomplete c hc
  rw [hwritten, hserial] at hcount
  cases hcount

end System

end StraceMacos
