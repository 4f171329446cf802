import StraceMacos.Proofs.ThreadProofs

/-!
# Calls inside calls

A thread makes its calls one inside another: a signal handler runs while a call is in progress, and
makes calls itself. The stops of a thread whose calls are well nested are traced as the calls in the
order in which they return, each with its name, its return value and all that it has on its own, and
nothing of the thread is left pending, whatever the other threads do.
-/

namespace StraceMacos

/-! ## Well-nested calls -/

/-- The name of the call that a thread makes at a function, inside another call or not: an
`__implementation` inside a call belongs to that call. -/
def callName (filter : Filter) (inside : Bool) (functionName : Option String) : Option String :=
  functionName.bind fun functionName =>
    if functionName = "" then none
    else
      let name := Text.lstrip '_' functionName
      (SyscallRegistry.init.lookupByName name).bind fun d =>
        if Text.startsWith functionName "__" && ! Text.startsWith d.name "__" && inside then none
        else if filter.shouldTraceSyscall SyscallRegistry.init name then some name
        else none

theorem callName_registered {filter : Filter} {inside : Bool} {functionName name : String}
    {d : SyscallDef} (hne : functionName ≠ "") (hstrip : Text.lstrip '_' functionName = name)
    (hd : SyscallRegistry.init.lookupByName name = some d)
    (hdunder : Text.startsWith functionName "__" = false)
    (hfilter : filter.shouldTraceSyscall SyscallRegistry.init name = true) :
    callName filter inside (some functionName) = some name := by
  simp [callName, hne, hstrip, hd, hdunder, hfilter]

/-- Inside a call the implementation of a call is none. -/
theorem callName_duplicate {filter : Filter} {functionName name : String} {d : SyscallDef}
    (hstrip : Text.lstrip '_' functionName = name)
    (hd : SyscallRegistry.init.lookupByName name = some d)
    (hdunder : Text.startsWith functionName "__" = true)
    (hname : Text.startsWith d.name "__" = false) :
    callName filter true (some functionName) = none := by
  simp [callName, hstrip, hd, hdunder, hname]

/-- A call that is made outside is no implementation. -/
theorem callName_outside {filter : Filter} {inside : Bool} {fn : Option String} {name : String}
    (h : callName filter inside fn = some name) : callName filter false fn = some name := by
  unfold callName at h ⊢
  simp only [Option.bind_eq_some_iff] at h ⊢
  obtain ⟨functionName, rfl, h⟩ := h
  refine ⟨functionName, rfl, ?_⟩
  by_cases hempty : functionName = ""
  · rw [if_pos hempty] at h
    cases h
  rw [if_neg hempty] at h ⊢
  obtain ⟨d, hd, h⟩ := Option.bind_eq_some_iff.mp h
  refine Option.bind_eq_some_iff.mpr ⟨d, hd, ?_⟩
  split_ifs at h with hdup hfilter
  simpa [hfilter] using h

/-- A call of a thread: its name, its entry stop and, unless its return address could not be read,
its return stop. -/
structure ThreadCall where
  name : String
  entry : Stop
  ret : Option Stop

/-- The stops of a call. -/
def ThreadCall.stops (call : ThreadCall) : List Stop :=
  call.entry :: call.ret.toList

/-- The stops of one thread inside calls that return to the addresses in `busy`, with the calls that
the thread makes there, in the order in which they return. -/
inductive Nested (options : Options) (filter : Filter) (tid : Nat) :
    List Nat → List Stop → List ThreadCall → Prop where
  | nil (busy : List Nat) : Nested options filter tid busy [] []
  /-- A stop at which no call is made. -/
  | idle {busy : List Nat} {stop : Stop} {stops : List Stop} {calls : List ThreadCall}
      (hthread : stop.threadId = some tid)
      (hframe : ∀ frame, stop.frame = some frame → frame.pc ∉ busy ∧
        callName filter (!busy.isEmpty) frame.functionName = none)
      (hrest : Nested options filter tid busy stops calls) :
      Nested options filter tid busy (stop :: stops) calls
  /-- A call whose return address cannot be read. -/
  | reported {busy : List Nat} {stop : Stop} {frame : Frame} {name : String} {stops : List Stop}
      {calls : List ThreadCall} (hthread : stop.threadId = some tid)
      (hframe : stop.frame = some frame) (hpc : frame.pc ∉ busy)
      (hname : callName filter (!busy.isEmpty) frame.functionName = some name)
      (haddress : options.arch.getReturnAddress frame stop.process = none)
      (hrest : Nested options filter tid busy stops calls) :
      Nested options filter tid busy (stop :: stops) (⟨name, stop, none⟩ :: calls)
  /-- A call, with the calls that are made before it returns. -/
  | call {busy : List Nat} {entry ret : Stop} {frame retFrame : Frame} {name : String}
      {inner stops : List Stop} {innerCalls calls : List ThreadCall}
      (hthread : entry.threadId = some tid) (hframe : entry.frame = some frame)
      (hpc : frame.pc ∉ busy)
      (hname : callName filter (!busy.isEmpty) frame.functionName = some name)
      (haddress : options.arch.getReturnAddress frame entry.process = some retFrame.pc)
      (hfree : retFrame.pc ∉ busy)
      (hinner : Nested options filter tid (retFrame.pc :: busy) inner innerCalls)
      (hretThread : ret.threadId = some tid) (hretFrame : ret.frame = some retFrame)
      (hrest : Nested options filter tid busy stops calls) :
      Nested options filter tid busy (entry :: (inner ++ ret :: stops))
        (innerCalls ++ ⟨name, entry, some ret⟩ :: calls)

/-- The return value of the event of a call: it is decoded in the frame at the return of the call,
and it is `?` where the return cannot be seen. -/
def ThreadCall.returnValue (call : ThreadCall) (options : Options) (event : SyscallEvent) :
    ReturnValue :=
  match call.ret.bind Stop.frame with
  | none => .str "?"
  | some frame =>
    decodeReturnValue SyscallRegistry.init options.arch options.noAbbrev frame event

/-- The event has the name of the call and the value at its return, and a tracer that sees nothing
but the stops of the call writes this event. -/
structure TracedAs (options : Options) (filter : Filter) (call : ThreadCall)
    (event : SyscallEvent) : Prop where
  name : event.syscallName = call.name
  value : event.returnValue = call.returnValue options event
  alone : ∃ s, (Tracer.init options filter).run call.stops = .ok s ∧
    s.written.map SyscallEvent.untimed = [event]

namespace Tracer

variable {t t' : Tracer} {stop : Stop} {tid : Nat} {frame : Frame} {name : String}
variable {options : Options} {filter : Filter} {stops : List Stop} {busy : List Nat}

/-- The calls of the thread that are in progress return to the addresses in `busy`. -/
def InProgress (t : Tracer) (tid : Nat) (busy : List Nat) : Prop :=
  ∀ address, (tid, address) ∈ t.pendingSyscalls ↔ address ∈ busy

theorem InProgress.entryName (h : t.InProgress tid busy) (hs : t.Sound options filter)
    (fn : Option String) : t.entryName tid fn = callName filter (!busy.isEmpty) fn := by
  have hthread : t.threadHasPending tid = !busy.isEmpty := by
    rw [Bool.eq_iff_iff, threadHasPending_iff]
    cases busy with
    | nil => simp [h _]
    | cons address busy => simpa using ⟨address, (h address).mpr List.mem_cons_self⟩
  unfold Tracer.entryName callName isDuplicate shouldTraceSyscall
  rw [hthread, hs.registry, hs.filter_eq]
  cases fn with
  | none => rfl
  | some functionName =>
    by_cases hempty : functionName = ""
    · simp only [Option.bind_some, if_pos hempty]
    · simp only [Option.bind_some, if_neg hempty]
      cases SyscallRegistry.init.lookupByName (Text.lstrip '_' functionName) <;> rfl

theorem InProgress.lookup_eq_none (h : t.InProgress tid busy) {pc : Nat} (hpc : pc ∉ busy) :
    t.pendingSyscalls.lookup (tid, pc) = none :=
  AList.lookup_eq_none.mpr fun hmem => hpc ((h pc).mp hmem)

theorem InProgress.isEntry (h : t.InProgress tid busy) (hs : t.Sound options filter)
    (hthread : stop.threadId = some tid) (hframe : stop.frame = some frame) (hpc : frame.pc ∉ busy)
    (hname : callName filter (!busy.isEmpty) frame.functionName = some name) :
    t.IsEntry stop tid frame name :=
  ⟨hthread, hframe, h.lookup_eq_none hpc, (h.entryName hs _).trans hname⟩

theorem inProgress_init : (init options filter).InProgress tid [] := fun address =>
  iff_of_false (by rintro ⟨⟩) List.not_mem_nil

theorem InProgress.congr (h : t.InProgress tid busy)
    (hlookup : ∀ key, t'.pendingSyscalls.lookup key = t.pendingSyscalls.lookup key) :
    t'.InProgress tid busy := fun address => by
  rw [← h address, ← AList.lookup_isSome, ← AList.lookup_isSome, hlookup]

theorem isEntry_init (hthread : stop.threadId = some tid) (hframe : stop.frame = some frame)
    {inside : Bool} (hname : callName filter inside frame.functionName = some name) :
    (init options filter).IsEntry stop tid frame name :=
  inProgress_init.isEntry sound_init hthread hframe List.not_mem_nil (callName_outside hname)

/-- A call that is reported at its entry is written as it is on its own. -/
theorem IsEntry.tracedAs_of_reported (he : t.IsEntry stop tid frame name)
    (he₀ : (init options filter).IsEntry stop tid frame name) (hs : t.Sound options filter)
    (haddress : options.arch.getReturnAddress frame stop.process = none)
    (h : t.handleStop stop = .ok t') :
    t'.pendingSyscalls = t.pendingSyscalls ∧ ∃ event, t'.written = t.written ++ [event] ∧
      TracedAs options filter ⟨name, stop, none⟩ event.untimed := by
  obtain ⟨decoder, decoder₀, e, e₀, rfl, h₀, hun, hname, hvalue⟩ :=
    he.alike hs sound_init .refl he₀ h
  have hra : t.returnAddress stop frame = none := by
    rw [returnAddress, hs.options_eq, haddress]
  have hra₀ : (init options filter).returnAddress stop frame = none := haddress
  rw [enter, hra₀] at h₀
  rw [enter, hra]
  refine ⟨rfl, e, rfl, hname, hvalue, _, Run.cons_ok.mpr ⟨_, h₀, rfl⟩, ?_⟩
  exact congrArg (fun e => [e]) hun

/-- **The stops of a thread with well-nested calls** write the event of each call when it returns
and leave everything pending that was pending before. -/
theorem run_nested {calls : List ThreadCall} (hn : Nested options filter tid busy stops calls)
    (hs : t.Sound options filter) (hbusy : t.InProgress tid busy) (hmib : t.NoStaleMib stops)
    (h : t.run stops = .ok t') :
    (∀ key, t'.pendingSyscalls.lookup key = t.pendingSyscalls.lookup key) ∧
      ∃ events, t'.written.map SyscallEvent.untimed =
        t.written.map SyscallEvent.untimed ++ events ∧
        List.Forall₂ (TracedAs options filter) calls events := by
  induction hn generalizing t t' with
  | nil busy =>
    rw [← Run.nil_ok.mp h]
    exact ⟨fun _ => rfl, [], (List.append_nil _).symm, .nil⟩
  | @idle busy stop stops calls hthread hframe _ ih =>
    obtain ⟨s, hstop, hrun⟩ := Run.cons_ok.mp h
    obtain ⟨-, hmib⟩ := (Run.along_cons_of_ok hstop).mp hmib
    have hidle : t.handleStop stop = .ok t := by
      cases hf : stop.frame with
      | none =>
        rw [handleStop, hthread, hf]
      | some frame =>
        obtain ⟨hpc, hname⟩ := hframe frame hf
        exact handleStop_of_entryName_none hthread hf (hbusy.lookup_eq_none hpc)
          ((hbusy.entryName hs _).trans hname)
    cases hidle.symm.trans hstop
    exact ih hs hbusy hmib hrun
  | @reported busy stop frame name stops calls hthread hframe hpc hname haddress _ ih =>
    obtain ⟨s, hstop, hrun⟩ := Run.cons_ok.mp h
    obtain ⟨-, hmib⟩ := (Run.along_cons_of_ok hstop).mp hmib
    have he := hbusy.isEntry hs hthread hframe hpc hname
    obtain ⟨hpending, event, hwritten, htraced⟩ := he.tracedAs_of_reported
      (isEntry_init hthread hframe hname) hs haddress hstop
    obtain ⟨hlookup, events, hevents, hrest⟩ := ih ((handleStop_handles hstop).sound hs)
      (hbusy.congr fun key => by rw [hpending]) hmib hrun
    refine ⟨fun key => by rw [hlookup, hpending], event.untimed :: events, ?_,
      .cons htraced hrest⟩
    rw [hevents, hwritten, List.map_append, List.map_singleton, List.append_assoc]
    rfl
  | @call busy entry ret frame retFrame name inner stops innerCalls calls hthread hframe hpc hname
      haddress hfree _ hretThread hretFrame _ ihinner ihrest =>
    -- The entry is recorded, here and alone.
    obtain ⟨t₁, hentry, hrun⟩ := Run.cons_ok.mp h
    obtain ⟨t₂, hinnerRun, hrun⟩ := Run.append_ok.mp hrun
    obtain ⟨t₃, hret, hrun⟩ := Run.cons_ok.mp hrun
    obtain ⟨-, hmib⟩ := (Run.along_cons_of_ok hentry).mp hmib
    obtain ⟨hmibInner, hmib⟩ := (Run.along_append_of_ok hinnerRun).mp hmib
    obtain ⟨hmibRet, hmibRest⟩ := (Run.along_cons_of_ok hret).mp hmib
    have he := hbusy.isEntry hs hthread hframe hpc hname
    have he₀ : (init options filter).IsEntry entry tid frame name :=
      isEntry_init hthread hframe hname
    obtain ⟨decoder, decoder₀, e, e₀, ht₁, h₀, hun, hename, -⟩ :=
      he.alike hs sound_init .refl he₀ hentry
    have hra : t.returnAddress entry frame = some retFrame.pc := by
      rw [returnAddress, hs.options_eq, haddress]
    have hra₀ : (init options filter).returnAddress entry frame = some retFrame.pc := haddress
    rw [enter, hra₀] at h₀
    replace ht₁ : t₁ = t.record decoder (tid, retFrame.pc) e := by rw [ht₁, enter, hra]
    have hs₁ := (handleStop_handles hentry).sound hs
    have hbusy₁ : t₁.InProgress tid (retFrame.pc :: busy) := fun address => by
      rw [ht₁, record, AList.mem_insert, hbusy address, List.mem_cons]
      exact or_congr_left (by simp)
    obtain ⟨hlookup₂, events₂, hevents₂, hinnerTraced⟩ := ihinner hs₁ hbusy₁ hmibInner hinnerRun
    -- The return is seen, here and alone.
    have hs₂ : t₂.Sound options filter := Run.invariant (I := Sound options filter)
      (fun _ _ _ hs h => (handleStop_handles h).sound hs) hs₁ hinnerRun
    have hr : t₂.IsReturn ret tid retFrame e := by
      refine ⟨hretThread, hretFrame, ?_⟩
      rw [hlookup₂, ht₁]
      exact AList.lookup_insert _
    have hs₀ := (handleStop_handles h₀).sound sound_init
    have hr₀ : ((init options filter).record decoder₀ (tid, retFrame.pc) e₀).IsReturn ret tid
        retFrame e₀ := ⟨hretThread, hretFrame, AList.lookup_insert _⟩
    obtain ⟨decoder', decoder₀', e', e₀', ht₃, h₀', hun', hename', hvalue⟩ :=
      hr.alike hs₂ hs₀ .refl hr₀ hun hmibRet hret
    have hlookup₃ : ∀ key, t₃.pendingSyscalls.lookup key = t.pendingSyscalls.lookup key := by
      intro key
      rw [ht₃, settle, writeEvent]
      by_cases hkey : key = (tid, retFrame.pc)
      · rw [hkey, AList.lookup_erase, hbusy.lookup_eq_none hfree]
      · rw [AList.lookup_erase_ne hkey, hlookup₂, ht₁, record, AList.lookup_insert_ne hkey]
    obtain ⟨hlookup, events, hevents, hrestTraced⟩ := ihrest ((handleStop_handles hret).sound hs₂)
      (hbusy.congr hlookup₃) hmibRest hrun
    refine ⟨fun key => (hlookup key).trans (hlookup₃ key), events₂ ++ e'.untimed :: events, ?_,
      List.rel_append hinnerTraced (.cons ?_ hrestTraced)⟩
    · have hwritten₁ : t₁.written = t.written := by rw [ht₁]; rfl
      have hwritten₃ : t₃.written = t₂.written ++ [e'] := by rw [ht₃]; rfl
      rw [hevents, hwritten₃, List.map_append, hevents₂, hwritten₁]
      simp
    · refine ⟨hename'.trans hename, ?_, _,
        Run.cons_ok.mpr ⟨_, h₀, Run.cons_ok.mpr ⟨_, h₀', rfl⟩⟩, congrArg (fun e => [e]) hun'⟩
      rw [ThreadCall.returnValue, Option.bind_some, hretFrame]
      exact hvalue.trans (decodeReturnValue_congr _ _ _ _ rfl rfl)

/-- **A thread with well-nested calls among others**, whatever these do: the events that are written
at the stops of the thread are those of its calls, in the order in which they return, each with its
name and the value at its return, and as it is without other calls; nothing of the thread is left
pending. -/
theorem nested_calls_traced {calls : List ThreadCall}
    (h : (init options filter).run stops = .ok t) (hmib : (init options filter).NoStaleMib stops)
    (hn : Nested options filter tid [] (stopsOf tid stops) calls) :
    List.Forall₂ (TracedAs options filter) calls ((init options filter).threadTrace tid stops) ∧
      ∀ address, (tid, address) ∉ t.pendingSyscalls := by
  -- The thread is traced as it is alone.
  obtain ⟨hmib', f, hf, hbeside, htrace⟩ :=
    beside_init.run hmib h (List.forall₂_same.mpr fun _ _ => SameStop.refl)
  obtain ⟨hlookup, events, hevents, htraced⟩ :=
    run_nested hn sound_init inProgress_init hmib' hf
  refine ⟨?_, fun address hmem => ?_⟩
  · have hall : (init options filter).threadTrace tid stops = events := by
      rw [← htrace, threadTrace_of_alone threadId_of_mem_stopsOf]
      have hwritten := run_trace hf
      rw [show (init options filter).written = [] from rfl, List.nil_append] at hwritten
      rw [← hwritten, hevents]
      rfl
    rw [hall]
    exact htraced
  · have hsome := hbeside.isSome address
    rw [hlookup, AList.lookup_isSome.mpr hmem,
      inProgress_init.lookup_eq_none List.not_mem_nil] at hsome
    cases hsome

def closeDef : SyscallDef where
  number := 6
  name := "close"
  params := plainParams [.fileDescriptor]

set_option maxRecDepth 10000 in
theorem lookup_close : SyscallRegistry.init.lookupByName "close" = some closeDef :=
  SyscallRegistry.lookupByName_of_number 6 (closeDef, .file) rfl

theorem close_toList : "close".toList = ['c', 'l', 'o', 's', 'e'] :=
  Text.toList_eq_asciiChars (by decide)

theorem lstrip_close : Text.lstrip '_' "close" = "close" := by
  rw [Text.lstrip, close_toList]
  rfl

theorem underscores_toList : "__".toList = ['_', '_'] :=
  Text.toList_eq_asciiChars (by decide)

theorem close_not_implementation : Text.startsWith "close" "__" = false := by
  rw [Text.startsWith, close_toList, underscores_toList]
  rfl

theorem callName_close (inside : Bool) : callName .all inside (some "close") = some "close" :=
  callName_registered (by decide) lstrip_close lookup_close close_not_implementation rfl

theorem callName_close_implementation : callName .all true (some "__close") = none := by
  have hname : "__close" = String.ofList ['_', '_'] ++ "close" := rfl
  have hstrip : Text.lstrip '_' "__close" = "close" := by
    rw [hname, Text.lstrip_doubled, lstrip_close]
  have hdunder : Text.startsWith "__close" "__" = true := Text.startsWith_append "__" "close"
  exact callName_duplicate hstrip lookup_close hdunder close_not_implementation

/-- A call of `close` with other calls inside. -/
theorem nested_close {address : BitVec 64} {inner : List Stop} {innerCalls calls : List ThreadCall}
    (hpc : 0x100 ∉ busy) (hfree : address.toNat ∉ busy)
    (hinner : Nested sampleOptions .all tid (address.toNat :: busy) inner innerCalls)
    (hrest : Nested sampleOptions .all tid busy stops calls) :
    Nested sampleOptions .all tid busy
      (enterStop tid "close" address :: (inner ++ returnStop tid address.toNat :: stops))
      (innerCalls ++
        ⟨"close", enterStop tid "close" address, some (returnStop tid address.toNat)⟩ :: calls) :=
  .call rfl rfl hpc (callName_close _) rfl hfree hinner rfl rfl hrest

/-- The calls of thread 1 in `twoThreads`: that of the signal handler returns first. -/
def handlerCalls : List ThreadCall :=
  [⟨"close", enterStop 1 "close" 0x700, some (returnStop 1 0x700)⟩,
    ⟨"close", enterStop 1 "close" 0x500, some (returnStop 1 0x500)⟩]

theorem nested_calls_traced_twoThreads : ∃ t,
    (init sampleOptions .all).run twoThreads = .ok t ∧
    List.Forall₂ (TracedAs sampleOptions .all) handlerCalls
      ((init sampleOptions .all).threadTrace 1 twoThreads) ∧
    ((init sampleOptions .all).threadTrace 1 twoThreads).map SyscallEvent.syscallName =
      ["close", "close"] ∧
    ∀ address, (1, address) ∉ t.pendingSyscalls := by
  obtain ⟨t, ht, -, hmib⟩ := run_twoThreads
  have himplementation : ∀ frame, (enterStop 1 "__close" 0x400).frame = some frame →
      frame.pc ∉ [0x500] ∧ callName .all (!([0x500] : List Nat).isEmpty) frame.functionName =
        none := by
    rintro frame ⟨⟩
    exact ⟨by decide, callName_close_implementation⟩
  have hnested : Nested sampleOptions .all 1 [] (stopsOf 1 twoThreads) handlerCalls :=
    nested_close (by decide) (by decide)
      (.idle rfl himplementation (nested_close (by decide) (by decide) (.nil _) (.nil _)))
      (.nil _)
  obtain ⟨htraced, hpending⟩ := nested_calls_traced ht hmib hnested
  refine ⟨t, ht, htraced, ?_, hpending⟩
  obtain ⟨first, rest, hfirst, hrest, heq⟩ := List.forall₂_cons_left_iff.mp htraced
  obtain ⟨second, last, hsecond, hlast, rfl⟩ := List.forall₂_cons_left_iff.mp hrest
  obtain rfl := List.forall₂_nil_left_iff.mp hlast
  rw [heq, List.map_cons, List.map_singleton, hfirst.name, hsecond.name]

end Tracer

end StraceMacos
