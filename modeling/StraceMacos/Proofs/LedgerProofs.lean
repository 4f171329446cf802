import StraceMacos.Proofs.EntryProofs

/-!
# Accounting for the events of a run

Every written event goes back to one entry stop, and to one return stop of the same thread if it was
pending. At the end of a trace nothing is missing exactly when no call is in progress and no event
was recorded over another one.
-/

namespace StraceMacos

namespace Tracer

variable {t t' : Tracer} {stop : Stop} {tid : Nat} {event : SyscallEvent}
variable {options : Options} {filter : Filter} {pre stops : List Stop}

/-! ## Where an event comes from -/

/-- After the stops `pre`, the event was made at the entry stop `stop` of thread `tid`, with the
return address read there. -/
structure EnteredAt (options : Options) (filter : Filter) (pre : List Stop) (stop : Stop)
    (tid : Nat) (address : Option Nat) (event : SyscallEvent) : Prop where
  entry : ∃ s frame args decoder, (init options filter).run pre = .ok s ∧
    s.IsEntry stop tid frame event.syscallName ∧
    s.decodeEntry stop frame event.syscallName = .ok (args, event.rawArgs, decoder) ∧
    s.returnAddress stop frame = address ∧ event.serial = s.created
  pid : event.pid = stop.pid
  timestamp : event.timestamp = stop.time

/-- After the stops `pre`, the event is written while `stop` is handled. -/
def WrittenAt (options : Options) (filter : Filter) (pre : List Stop) (stop : Stop)
    (event : SyscallEvent) : Prop :=
  ∃ s s', (init options filter).run pre = .ok s ∧ s.handleStop stop = .ok s' ∧
    s'.written = s.written ++ [event]

/-- The event was made in `stops` at an entry of thread `tid` that returns to `address`. -/
def Entered (options : Options) (filter : Filter) (stops : List Stop) (tid address : Nat)
    (event : SyscallEvent) : Prop :=
  ∃ pre stop post, stops = pre ++ stop :: post ∧
    EnteredAt options filter pre stop tid (some address) event

/-- The event was made in `stops` and written at once, since its return address was unreadable. -/
def Reported (options : Options) (filter : Filter) (stops : List Stop) (event : SyscallEvent) :
    Prop :=
  ∃ pre stop post tid, stops = pre ++ stop :: post ∧
    EnteredAt options filter pre stop tid none event ∧
    WrittenAt options filter pre stop event

/-- The event was made in `stops` at an entry, and written when the thread of that entry stopped at
the return address recorded there. -/
def Returned (options : Options) (filter : Filter) (stops : List Stop) (event : SyscallEvent) :
    Prop :=
  ∃ pre stop mid ret post tid frame, stops = pre ++ stop :: (mid ++ ret :: post) ∧
    EnteredAt options filter pre stop tid (some frame.pc) event ∧
    ret.threadId = some tid ∧ ret.frame = some frame ∧
    WrittenAt options filter (pre ++ stop :: mid) ret event

theorem Entered.snoc {address : Nat} (h : Entered options filter stops tid address event)
    (stop : Stop) : Entered options filter (stops ++ [stop]) tid address event := by
  obtain ⟨pre, s, post, rfl, h⟩ := h
  exact ⟨pre, s, post ++ [stop], by simp, h⟩

theorem Reported.snoc (h : Reported options filter stops event) (stop : Stop) :
    Reported options filter (stops ++ [stop]) event := by
  obtain ⟨pre, s, post, tid, rfl, h⟩ := h
  exact ⟨pre, s, post ++ [stop], tid, by simp, h⟩

theorem Returned.snoc (h : Returned options filter stops event) (stop : Stop) :
    Returned options filter (stops ++ [stop]) event := by
  obtain ⟨pre, s, mid, ret, post, tid, frame, rfl, h⟩ := h
  exact ⟨pre, s, mid, ret, post ++ [stop], tid, frame, by simp, h⟩

/-- Completing an event keeps what was taken at its entry. -/
theorem EnteredAt.complete {address : Option Nat} {event' : SyscallEvent}
    (h : EnteredAt options filter pre stop tid address event) {value : ReturnValue}
    {args : List SyscallArg} (he : event' = { event with returnValue := value, args := args }) :
    EnteredAt options filter pre stop tid address event' := by
  subst he
  exact ⟨h.entry, h.pid, h.timestamp⟩

/-- The origin of every pending and of every written event. -/
structure Origins (options : Options) (filter : Filter) (past : List Stop) (t : Tracer) :
    Prop where
  pending : ∀ tid address event, t.pendingSyscalls.lookup (tid, address) = some event →
    Entered options filter past tid address event
  written : ∀ event ∈ t.written, Returned options filter past event ∨
    Reported options filter past event ∧ event.returnValue = .str "?"

theorem origins_step {past : List Stop} (hrun : (init options filter).run past = .ok t)
    (ho : Origins options filter past t) (h : t.handleStop stop = .ok t') :
    Origins options filter (past ++ [stop]) t' := by
  have hkeep : ∀ event ∈ t.written, Returned options filter (past ++ [stop]) event ∨
      Reported options filter (past ++ [stop]) event ∧ event.returnValue = .str "?" := by
    intro event hmem
    rcases ho.written event hmem with hr | ⟨hr, hv⟩
    · exact .inl (hr.snoc stop)
    · exact .inr ⟨hr.snoc stop, hv⟩
  have hpend : ∀ tid address event, t.pendingSyscalls.lookup (tid, address) = some event →
      Entered options filter (past ++ [stop]) tid address event :=
    fun tid address event hl => (ho.pending tid address event hl).snoc stop
  cases handleStop_handles h with
  | ignored => exact ⟨hpend, hkeep⟩
  | @returned tid frame event event' decoder hr hc =>
    refine ⟨fun tid' address e hl => ?_, fun e hmem => ?_⟩
    · by_cases hkey : ((tid', address) : PendingKey) = (tid, frame.pc)
      · rw [hkey] at hl
        simp [settle, writeEvent] at hl
      · rw [settle, writeEvent, AList.lookup_erase_ne hkey] at hl
        exact hpend tid' address e hl
    · rcases List.mem_append.mp hmem with hmem | hmem
      · exact hkeep e hmem
      · obtain rfl : e = event' := by simpa using hmem
        obtain ⟨args, heq⟩ := completeEvent_eq hc
        obtain ⟨pre, entry, post, rfl, hentered⟩ := ho.pending _ _ _ hr.pending
        exact .inl ⟨pre, entry, post, stop, [], tid, frame, by simp, hentered.complete heq,
          hr.thread, hr.frame_eq, _, _, hrun, h, rfl⟩
  | @reported tid frame name args rawArgs decoder he hd hra =>
    refine ⟨hpend, fun e hmem => ?_⟩
    rcases List.mem_append.mp hmem with hmem | hmem
    · exact hkeep e hmem
    · obtain rfl : e = t.entryEvent stop name args rawArgs := by simpa using hmem
      exact .inr ⟨⟨past, stop, [], tid, rfl,
        ⟨⟨t, frame, args, decoder, hrun, he, hd, hra, rfl⟩, rfl, rfl⟩, t, _, hrun, h, rfl⟩, rfl⟩
  | @recorded tid frame name args rawArgs decoder address he hd hra =>
    refine ⟨fun tid' address' e hl => ?_, hkeep⟩
    by_cases hkey : ((tid', address') : PendingKey) = (tid, address)
    · rw [hkey] at hl
      simp only [record, AList.lookup_insert, Option.some.injEq] at hl
      cases hkey
      subst hl
      exact ⟨past, stop, [], rfl, ⟨⟨t, frame, args, decoder, hrun, he, hd, hra, rfl⟩, rfl, rfl⟩⟩
    · rw [record, AList.lookup_insert_ne hkey] at hl
      exact hpend tid' address' e hl

theorem run_origins (h : (init options filter).run stops = .ok t) :
    Origins options filter stops t :=
  Run.invariant_history (I := Origins options filter)
    (fun _ _ _ _ hrun ho h => origins_step hrun ho h)
    ⟨fun _ _ _ hl => (by cases hl), fun _ hmem => (by cases hmem)⟩ h

/-- An entry stop numbers its event. -/
theorem EnteredAt.serial_eq {tid' : Nat} {address address' : Option Nat} {event' : SyscallEvent}
    (h : EnteredAt options filter pre stop tid address event)
    (h' : EnteredAt options filter pre stop tid' address' event') :
    event.serial = event'.serial := by
  obtain ⟨s, -, -, -, hs, -, -, -, hserial⟩ := h.entry
  obtain ⟨s', -, -, -, hs', -, -, -, hserial'⟩ := h'.entry
  obtain rfl : s = s' := Except.ok.inj (hs.symm.trans hs')
  rw [hserial, hserial']

/-- After its entry stop an event has a smaller number than those that are still to be made. -/
theorem EnteredAt.serial_lt {address : Option Nat} {mid : List Stop} {s : Tracer}
    (h : EnteredAt options filter pre stop tid address event)
    (hrun : (init options filter).run (pre ++ stop :: mid) = .ok s) :
    event.serial < s.created := by
  obtain ⟨s₀, frame, _, _, hpre, hentry, -, -, hserial⟩ := h.entry
  obtain ⟨s₁, h₁, hrun⟩ := Run.append_ok.mp hrun
  cases hpre.symm.trans h₁
  obtain ⟨s₂, hstop, hmid⟩ := Run.cons_ok.mp hrun
  obtain ⟨args, rawArgs, decoder, -, rfl⟩ := hentry.handled hstop
  refine Run.invariant (I := fun s => event.serial < s.created) (fun s stop s' hlt hstep => ?_) ?_
    hmid
  · cases handleStop_handles hstep with
    | ignored | returned => exact hlt
    | reported | recorded => exact Nat.lt_succ_of_lt hlt
  · rw [hserial]
    unfold enter
    cases s₀.returnAddress stop frame <;> exact Nat.lt_succ_self _

/-- An event is entered at one stop of a run only. -/
theorem EnteredAt.stop_eq {pre' post post' : List Stop} {stop' : Stop} {tid' : Nat}
    {address address' : Option Nat} (h : EnteredAt options filter pre stop tid address event)
    (h' : EnteredAt options filter pre' stop' tid' address' event)
    (hstops : pre ++ stop :: post = pre' ++ stop' :: post') : stop = stop' := by
  have hlater {pre mid : List Stop} {stop stop' : Stop} {tid tid' : Nat}
      {address address' : Option Nat} (h : EnteredAt options filter pre stop tid address event)
      (h' : EnteredAt options filter (pre ++ stop :: mid) stop' tid' address' event) : False := by
    obtain ⟨s, -, -, -, hrun, -, -, -, hserial⟩ := h'.entry
    exact (h.serial_lt hrun).ne hserial
  rcases List.append_eq_append_iff.mp hstops with ⟨mid, rfl, hmid⟩ | ⟨mid, rfl, hmid⟩
  · cases mid with
    | nil => exact (List.cons.inj hmid).1
    | cons first mid =>
      obtain ⟨rfl, -⟩ := List.cons.inj hmid
      exact (hlater h h').elim
  · cases mid with
    | nil => exact (List.cons.inj hmid).1.symm
    | cons first mid =>
      obtain ⟨rfl, -⟩ := List.cons.inj hmid
      exact (hlater h' h).elim

/-! ## What holds of every event -/

/-- The event was made in `stops` at a stop with which it has the property. -/
def MadeWith (options : Options) (filter : Filter) (P : Stop → SyscallEvent → Prop)
    (stops : List Stop) (event : SyscallEvent) : Prop :=
  ∃ pre stop post tid address, stops = pre ++ stop :: post ∧
    EnteredAt options filter pre stop tid address event ∧ P stop event

/-- All events of the tracer, pending or written, have the property. -/
structure EveryEvent (Q : SyscallEvent → Prop) (t : Tracer) : Prop where
  pending : ∀ key event, t.pendingSyscalls.lookup key = some event → Q event
  written : ∀ event ∈ t.written, Q event

/-- Events have the property with the stop at which they are made. -/
def HoldsAtEntry (options : Options) (filter : Filter) (P : Stop → SyscallEvent → Prop) : Prop :=
  ∀ (s : Tracer) (stop : Stop) (frame : Frame) (name : String) (args : List SyscallArg)
    (rawArgs : PyList) (decoder : DecoderState), s.Sound options filter →
    s.decodeEntry stop frame name = .ok (args, rawArgs, decoder) →
    P stop (s.entryEvent stop name args rawArgs)

/-- Events keep the property when their call returns. -/
def KeptAtReturn (options : Options) (filter : Filter) (P : Stop → SyscallEvent → Prop) : Prop :=
  ∀ (entry : Stop) (s : Tracer) (stop : Stop) (frame : Frame) (event event' : SyscallEvent)
    (decoder : DecoderState), s.Sound options filter →
    s.completeEvent stop frame event = .ok (event', decoder) → P entry event → P entry event'

theorem madeWith_step {P : Stop → SyscallEvent → Prop} {past : List Stop}
    (hentry : HoldsAtEntry options filter P) (hreturn : KeptAtReturn options filter P)
    (hrun : (init options filter).run past = .ok t)
    (hall : t.EveryEvent (MadeWith options filter P past)) (h : t.handleStop stop = .ok t') :
    t'.EveryEvent (MadeWith options filter P (past ++ [stop])) := by
  have hs := run_sound hrun
  have hsnoc : ∀ event, MadeWith options filter P past event →
      MadeWith options filter P (past ++ [stop]) event := by
    rintro event ⟨pre, entry, post, tid, address, rfl, hmade⟩
    exact ⟨pre, entry, post ++ [stop], tid, address, by simp, hmade⟩
  have hkeep : ∀ event ∈ t.written, MadeWith options filter P (past ++ [stop]) event :=
    fun event hmem => hsnoc event (hall.written event hmem)
  cases handleStop_handles h with
  | ignored => exact ⟨fun key event hl => hsnoc event (hall.pending key event hl), hkeep⟩
  | @returned tid frame event event' decoder hr hc =>
    refine ⟨fun key e hl => ?_, List.forall_mem_append.mpr ⟨hkeep, ?_⟩⟩
    · by_cases hkey : key = (tid, frame.pc)
      · rw [hkey] at hl
        simp [settle, writeEvent] at hl
      · rw [settle, writeEvent, AList.lookup_erase_ne hkey] at hl
        exact hsnoc e (hall.pending key e hl)
    · obtain ⟨args, heq⟩ := completeEvent_eq hc
      obtain ⟨pre, entry, post, tid', address, hpast, hmade, hP⟩ :=
        hsnoc event (hall.pending _ _ hr.pending)
      exact List.forall_mem_singleton.mpr ⟨pre, entry, post, tid', address, hpast,
        hmade.complete heq, hreturn _ _ _ _ _ _ _ hs hc hP⟩
  | @reported tid frame name args rawArgs decoder he hd hra =>
    refine ⟨fun key event hl => hsnoc event (hall.pending key event hl),
      List.forall_mem_append.mpr ⟨hkeep, List.forall_mem_singleton.mpr ?_⟩⟩
    exact ⟨past, stop, [], tid, none, rfl,
      ⟨⟨t, frame, args, decoder, hrun, he, hd, hra, rfl⟩, rfl, rfl⟩, hentry _ _ _ _ _ _ _ hs hd⟩
  | @recorded tid frame name args rawArgs decoder address he hd hra =>
    refine ⟨fun key e hl => ?_, hkeep⟩
    by_cases hkey : key = (tid, address)
    · rw [hkey] at hl
      simp only [record, AList.lookup_insert, Option.some.injEq] at hl
      rw [← hl]
      exact ⟨past, stop, [], tid, some address, rfl,
        ⟨⟨t, frame, args, decoder, hrun, he, hd, hra, rfl⟩, rfl, rfl⟩, hentry _ _ _ _ _ _ _ hs hd⟩
    · rw [record, AList.lookup_insert_ne hkey] at hl
      exact hsnoc e (hall.pending key e hl)

/-- What holds of events with their entry stops, and is kept when their calls return, holds of all
events of a run. -/
theorem run_madeWith {P : Stop → SyscallEvent → Prop} (hentry : HoldsAtEntry options filter P)
    (hreturn : KeptAtReturn options filter P) (h : (init options filter).run stops = .ok t) :
    t.EveryEvent (MadeWith options filter P stops) :=
  Run.invariant_history (I := fun past t => t.EveryEvent (MadeWith options filter P past))
    (fun _ _ _ _ hrun hall h => madeWith_step hentry hreturn hrun hall h)
    ⟨fun _ _ hl => (by cases hl), fun _ hmem => (by cases hmem)⟩ h

/-- **Attribution, at most once.** No event is written twice and no entry stop gives rise to two
written events; every written event goes back to one entry stop, and to a return stop of the same
thread at the recorded address unless it was written at the entry itself; and no more events are
written or pending than were made. -/
theorem run_attribution (h : (init options filter).run stops = .ok t) :
    (t.written.map SyscallEvent.serial).Nodup ∧
    (∀ pre stop tid tid' address address', ∀ event ∈ t.written, ∀ event' ∈ t.written,
      EnteredAt options filter pre stop tid address event →
      EnteredAt options filter pre stop tid' address' event' → event = event') ∧
    (∀ event ∈ t.written, Returned options filter stops event ∨
      Reported options filter stops event) ∧
    t.written.length + t.pendingSyscalls.entries.length ≤ t.created := by
  have hv := (run_sound h).valid
  have hnodup : (t.written.map SyscallEvent.serial).Nodup := (List.nodup_append.mp hv.nodup).1
  refine ⟨hnodup, ?_, fun event hmem => ?_, hv.held_le⟩
  · intro pre stop tid tid' address address' event hmem event' hmem' he he'
    exact List.inj_on_of_nodup_map hnodup hmem hmem' (he.serial_eq he')
  · exact ((run_origins h).written event hmem).imp_right And.left

/-- A call of `close` by thread 1 that returns 0. -/
def closeEntry : Stop := sampleStop 1 0x100 "close" [("lr", 0x500), ("x0", 3)]

def closeReturn : Stop := sampleStop 1 0x500 "main" [("x0", 0)]

theorem run_attribution_close : ∃ t, (init sampleOptions .all).run [closeEntry, closeReturn] =
      .ok t ∧ t.account = ⟨1, [(0, "close", .int 0)], []⟩ ∧
    ∀ event ∈ t.written, Returned sampleOptions .all [closeEntry, closeReturn] event ∨
      Reported sampleOptions .all [closeEntry, closeReturn] event := by
  obtain ⟨t, hrun, haccount⟩ := run_of_account (t := init sampleOptions .all)
    [closeEntry, closeReturn] ⟨1, [(0, "close", .int 0)], []⟩
    (by rw [init_eq_initByNumber]; decide +kernel)
  exact ⟨t, hrun, haccount, (run_attribution hrun).2.2.1⟩

/-! ## The end of a trace -/

/-- The stops that the loop handles. -/
def handledStops : List Poll → List Stop
  | [] => []
  | poll :: polls =>
    if poll.interrupted then []
    else match poll.state with
      | .stopped stop => stop :: handledStops polls
      | .other => handledStops polls
      | .exited _ | .crashed | .detached | .unloaded => []

/-- The loop is a run over the stops that it handles. -/
theorem traceLoop_run {polls : List Poll} {code : Option Int}
    (h : t.traceLoop polls = .ok (t', code)) : t.run (handledStops polls) = .ok t' := by
  induction polls generalizing t with
  | nil => cases h; rfl
  | cons poll polls ih =>
    unfold traceLoop at h
    unfold handledStops
    split_ifs at h ⊢ with hi
    · cases h; rfl
    · cases hs : poll.state with
      | stopped stop =>
        simp only [hs] at h
        obtain ⟨s, hstop, h⟩ := Fallible.bind_eq_ok.mp h
        exact Run.cons_ok.mpr ⟨s, hstop, ih h⟩
      | other => simp only [hs] at h; exact ih h
      | exited status => simp only [hs] at h; cases h; rfl
      | crashed => simp only [hs] at h; cases h; rfl
      | detached => simp only [hs] at h; cases h; rfl
      | unloaded => simp only [hs] at h; cases h; rfl

/-- The stop is an entry that is recorded under a key where another event is still pending. -/
def Overwrites (t : Tracer) (stop : Stop) : Prop :=
  ∃ tid frame name address, t.IsEntry stop tid frame name ∧
    t.returnAddress stop frame = some address ∧ (tid, address) ∈ t.pendingSyscalls

/-- Unless an event is overwritten, nothing is lost. -/
theorem held_step (hn : ¬ t.Overwrites stop) (hheld : t.ledger.held = t.created)
    (h : t.handleStop stop = .ok t') : t'.ledger.held = t'.created := by
  cases handleStop_handles h with
  | ignored => exact hheld
  | returned hr hc => exact (Ledger.held_settle hr.pending).trans hheld
  | @reported tid frame name args rawArgs decoder he hd hra =>
    exact (Ledger.held_report t.ledger _).trans (congrArg (· + 1) hheld)
  | @recorded tid frame name args rawArgs decoder address he hd hra =>
    have hfree : ((tid, address) : PendingKey) ∉ t.pendingSyscalls :=
      fun hmem => hn ⟨tid, frame, name, address, he, hra, hmem⟩
    have := Ledger.held_record t.ledger (tid, address) (t.entryEvent stop name args rawArgs)
    rw [if_neg (show (tid, address) ∉ t.ledger.pending from hfree)] at this
    exact this.trans (congrArg (· + 1) hheld)

/-- What is overwritten is lost. -/
theorem held_lt_of_overwrites (ho : t.Overwrites stop) (hle : t.ledger.held ≤ t.created)
    (h : t.handleStop stop = .ok t') : t'.ledger.held < t'.created := by
  obtain ⟨tid, frame, name, address, he, hra, hmem⟩ := ho
  cases handleStop_handles h with
  | ignored _ hne => exact absurd he (hne tid frame name)
  | returned hr => exact absurd he hr.not_isEntry
  | reported he' hd hra' =>
    obtain ⟨rfl, rfl, rfl⟩ := he.unique he'
    rw [hra] at hra'
    cases hra'
  | @recorded _ _ _ args rawArgs decoder address' he' hd hra' =>
    obtain ⟨rfl, rfl, rfl⟩ := he.unique he'
    obtain rfl : address = address' := Option.some.inj (hra.symm.trans hra')
    have hrec := Ledger.held_record t.ledger (tid, address) (t.entryEvent stop name args rawArgs)
    rw [if_pos (show (tid, address) ∈ t.ledger.pending from hmem), Nat.add_zero] at hrec
    exact hrec.trans_lt (Nat.lt_succ_of_le hle)

/-- No event has been lost at the end of a run exactly when none was overwritten. -/
theorem run_held_iff (h : (init options filter).run stops = .ok t) :
    t.ledger.held = t.created ↔
      Run.Along handleStop (fun s stop => ¬ s.Overwrites stop) (init options filter) stops := by
  constructor
  · intro hheld
    by_contra hn
    obtain ⟨pre, stop, post, s, rfl, hpre, ho⟩ := Run.exists_of_not_along hn
    obtain ⟨s₁, h₁, h₂⟩ := Run.append_ok.mp h
    cases hpre.symm.trans h₁
    obtain ⟨s', hstop, hpost⟩ := Run.cons_ok.mp h₂
    have hlost := held_lt_of_overwrites (not_not.mp ho) (run_sound hpre).valid.held_le hstop
    have hlost' : t.ledger.held < t.created :=
      Run.invariant (I := fun s => s.ledger.held < s.created)
        (fun s stop s' hlt hstep => by
          have := (handleStop_handles hstep).ledger_step.held_le
          show s'.ledger.held < s'.ledger.opened
          have : s.ledger.held < s.ledger.opened := hlt
          omega) hlost hpost
    omega
  · intro hn
    exact Run.invariant_along (I := fun s => s.ledger.held = s.created)
      (fun _ _ _ hheld hn h => held_step hn hheld h) rfl hn h

/-- **At the end of a trace every event has been written exactly once, with the return value `?` if
its call never returned, exactly when no call is in progress and none was recorded over another
one.** -/
theorem trace_complete_iff {percent : Nat → Nat → String} {polls : List Poll} {code : Int}
    (h : (init options filter).traceLoop polls = .ok (t, some code)) :
    ((∀ n < t.created, ((t.finish percent).written.map SyscallEvent.serial).count n = 1) ∧
      ∀ event ∈ (t.finish percent).written,
        ¬ Returned options filter (handledStops polls) event → event.returnValue = .str "?") ↔
      t.pendingSyscalls.entries = [] ∧ Run.Along handleStop
        (fun s stop => ¬ s.Overwrites stop) (init options filter) (handledStops polls) := by
  have hrun := traceLoop_run h
  have hfinish : (t.finish percent).written = t.written := by
    unfold finish
    split_ifs <;> rfl
  have hunreturned : ∀ event ∈ t.written,
      ¬ Returned options filter (handledStops polls) event → event.returnValue = .str "?" :=
    fun event hmem hn => (((run_origins hrun).written event hmem).resolve_left hn).2
  rw [hfinish, and_iff_left hunreturned, ← run_held_iff hrun]
  exact (run_sound hrun).valid.all_closed_iff

/-- A trace whose account is known ends in a state with that account. -/
theorem traceLoop_of_account (polls : List Poll) (a : Account) (code : Option Int)
    (h : ((t.traceLoop polls).toOption.map fun r => (r.1.account, r.2)) = some (a, code)) :
    ∃ t', t.traceLoop polls = .ok (t', code) ∧ t'.account = a := by
  obtain ⟨r, hr, ha⟩ := Option.map_eq_some_iff.mp h
  cases ha
  exact ⟨r.1, Fallible.toOption_eq_some.mp hr, rfl⟩

/-- The process exits after a call of `close` has returned. -/
theorem trace_complete_close : ∃ t,
    (init sampleOptions .all).traceLoop
      [⟨false, .stopped closeEntry⟩, ⟨false, .stopped closeReturn⟩, ⟨false, .exited 0⟩] =
        .ok (t, some 0) ∧ t.created = 1 ∧
      ∀ n < t.created, ((t.finish fun _ _ => "").written.map SyscallEvent.serial).count n = 1 := by
  obtain ⟨t, hloop, haccount⟩ := traceLoop_of_account (t := init sampleOptions .all)
    [⟨false, .stopped closeEntry⟩, ⟨false, .stopped closeReturn⟩, ⟨false, .exited 0⟩]
    ⟨1, [(0, "close", .int 0)], []⟩ (some 0)
    (by rw [init_eq_initByNumber]; decide +kernel)
  have hcreated : t.created = 1 := congrArg Account.created haccount
  have hwritten := congrArg (fun a => a.written.length) haccount
  have hpending := congrArg (fun a => a.pending.length) haccount
  simp only [account, List.length_map, List.length_cons, List.length_nil] at hwritten hpending
  have hheld : t.ledger.held = t.created := by
    show t.written.length + t.pendingSyscalls.entries.length = t.created
    omega
  exact ⟨t, hloop, hcreated, ((trace_complete_iff hloop).mpr
    ⟨List.length_eq_zero_iff.mp hpending, (run_held_iff (traceLoop_run hloop)).mp hheld⟩).1⟩

/-- The process exits while a call of `close` is in progress: its event is never written. -/
theorem pending_event_dropped :
    ¬ ∀ options filter percent polls t code,
      (init options filter).traceLoop polls = .ok (t, some code) →
      (∀ n < t.created, ((t.finish percent).written.map SyscallEvent.serial).count n = 1) ∧
      ∀ event ∈ (t.finish percent).written,
        ¬ Returned options filter (handledStops polls) event → event.returnValue = .str "?" := by
  intro h
  obtain ⟨t, hloop, haccount⟩ := traceLoop_of_account (t := init sampleOptions .all)
    [⟨false, .stopped closeEntry⟩, ⟨false, .exited 0⟩]
    ⟨1, [], [((1, 0x500), 0, "close")]⟩ (some 0)
    (by rw [init_eq_initByNumber]; decide +kernel)
  have hcreated : t.created = 1 := congrArg Account.created haccount
  have hwritten : t.written.map _ = [] := congrArg Account.written haccount
  have hcount := (h sampleOptions .all (fun _ _ => "") _ t 0 hloop).1 0 (by omega)
  have hfinish : (t.finish fun _ _ => "").written = t.written := by
    unfold finish
    split_ifs <;> rfl
  rw [hfinish, List.map_eq_nil_iff.mp hwritten] at hcount
  cases hcount

end Tracer

end StraceMacos
