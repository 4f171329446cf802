import StraceMacos.Decoding
import StraceMacos.Library.Fallible

/-!
# When decoding raises

The only exception comes from an I/O vector in the memory of the process: the base of one of its
elements is null while its length is not. All other decoders return normally, whatever the registers
and the memory hold.
-/

namespace StraceMacos

open CStruct Fallible

/-! ## I/O vectors -/

/-- The `count` elements at `address` can be read, and one of them has no base but a length. -/
def Process.NullBaseIn (process : Process) (address : Nat) (count : Int) : Prop :=
  ∃ iovs ∈ readIovecs process address count, ∃ iov ∈ iovs, iov.iovBase = none ∧ iov.iovLen ≠ 0

theorem readIovecBuffer_ok_iff (process : Process) (iov : Iovec) :
    (∃ s, readIovecBuffer process iov.iovBase iov.iovLen = .ok s) ↔
      ¬ (iov.iovBase = none ∧ iov.iovLen ≠ 0) := by
  unfold readIovecBuffer
  by_cases hg : iov.iovBase = some 0 ∨ iov.iovLen = 0
  · rw [if_pos hg]
    refine iff_of_true ⟨_, rfl⟩ ?_
    rintro ⟨hb, hl⟩
    rcases hg with h | h
    · rw [hb] at h; cases h
    · exact hl h
  · rw [if_neg hg]
    push Not at hg
    cases hb : iov.iovBase with
    | none => exact iff_of_false (by rintro ⟨s, hs⟩; cases hs) (fun h => h ⟨rfl, hg.2⟩)
    | some base =>
      refine iff_of_true ?_ fun h => by cases h.1
      simp only [Process.readDataAt, bind, Except.bind]
      cases process.readData base (min iov.iovLen 32) <;> exact ⟨_, rfl⟩

theorem decodeIovecs_ok_iff (process : Process) (iovs : List Iovec) :
    (∃ r, decodeIovecs process iovs = .ok r) ↔
      ¬ ∃ iov ∈ iovs, iov.iovBase = none ∧ iov.iovLen ≠ 0 := by
  induction iovs with
  | nil => simp [decodeIovecs]
  | cons iov iovs ih =>
    have hrest : ∀ bufStr : String,
        (∃ r, (decodeIovecs process iovs >>= fun rest => pure
          ([("iov_base", Scalar.str bufStr), ("iov_len", .int iov.iovLen)] :: rest)) = .ok r) ↔
        ∃ r, decodeIovecs process iovs = .ok r :=
      fun bufStr => bind_returns_iff_of_returns fun _ => ⟨_, rfl⟩
    rw [decodeIovecs, bind_returns_iff, List.exists_mem_cons_iff, not_or,
      ← readIovecBuffer_ok_iff process, ← ih]
    simp only [hrest, exists_and_right]

theorem decodeIovecArray_ok_iff {process : Process} {address : Nat} {count : Int} :
    (∃ r, decodeIovecArray process address count = .ok r) ↔
      ¬ process.NullBaseIn address count := by
  unfold decodeIovecArray Process.NullBaseIn
  cases readIovecs process address count with
  | none => simp
  | some iovs =>
    simp only [Option.mem_def, Option.some.injEq, exists_eq_left']
    rw [← decodeIovecs_ok_iff process iovs, map_returns_iff]

theorem decodeMsgIov_ok_iff (process : Process) (msgIov : Nat) (msgIovlen : Int) :
    (∃ r, decodeMsgIov process msgIov msgIovlen = .ok r) ↔
      ¬ (msgIov ≠ 0 ∧ process.NullBaseIn msgIov msgIovlen) := by
  unfold decodeMsgIov
  by_cases hg : msgIov = 0 ∨ msgIovlen = 0
  · rw [if_pos hg]
    refine iff_of_true ⟨_, rfl⟩ ?_
    rintro ⟨hne, iovs, hiovs, -⟩
    rcases hg with h | rfl
    · exact hne h
    · simp [readIovecs] at hiovs
  · rw [if_neg hg]
    push Not at hg
    rw [and_iff_right hg.1, ← decodeIovecArray_ok_iff]
    refine bind_returns_iff_of_returns fun r => ?_
    rcases r with _ | _ | ⟨d, ds⟩ <;> exact ⟨_, rfl⟩

/-! ## Parameters -/

/-- The decoder follows a pointer to an I/O vector with a null base. -/
def Param.MeetsNullBase (ctx : DecodeContext) : Param → Prop
  | .iovec countArgIndex direction =>
    direction.active ctx ∧
      ∃ count ∈ ctx.allArgs.vals[countArgIndex]?, ctx.process.NullBaseIn ctx.rawValue count
  | .msghdr direction =>
    direction.active ctx ∧ ∃ msghdr ∈ readStruct ctx.process ctx.rawValue msghdrStruct,
      ∃ msgIov ∈ getPtr msghdr "msg_iov",
        msgIov ≠ 0 ∧ ctx.process.NullBaseIn msgIov (getInt msghdr "msg_iovlen")
  | _ => False

theorem decodeIovecParam_ok_iff {countArgIndex : Nat} {direction : ParamDirection}
    {ctx : DecodeContext} :
    (∃ r, decodeIovecParam countArgIndex direction ctx = .ok r) ↔
      ¬ (Param.iovec countArgIndex direction).MeetsNullBase ctx := by
  unfold decodeIovecParam Param.MeetsNullBase
  rw [directed_ok_iff, not_and]
  refine forall_congr' fun _ => ?_
  cases ctx.allArgs.vals[countArgIndex]? with
  | none => simp
  | some count =>
    simp only [Option.mem_def, Option.some.injEq, exists_eq_left']
    by_cases hc : 1024 < count
    · rw [if_pos hc]
      refine iff_of_true ⟨_, rfl⟩ ?_
      rintro ⟨iovs, hiovs, -⟩
      have : (1024 : Int) < count := by exact_mod_cast hc
      simp [readIovecs, this] at hiovs
    · rw [if_neg hc, ← decodeIovecArray_ok_iff]
      exact bind_returns_iff_of_returns fun _ => ⟨_, rfl⟩

theorem decodeMsghdr_ok_iff (process : Process) (address : Nat) (noAbbrev : Bool) :
    (∃ r, decodeMsghdr process address noAbbrev = .ok r) ↔
      ¬ ∃ msghdr ∈ readStruct process address msghdrStruct,
        ∃ msgIov ∈ getPtr msghdr "msg_iov",
          msgIov ≠ 0 ∧ process.NullBaseIn msgIov (getInt msghdr "msg_iovlen") := by
  unfold decodeMsghdr
  cases readStruct process address msghdrStruct with
  | none => simp
  | some msghdr =>
    have hiov := decodeMsgIov_ok_iff process ((getPtr msghdr "msg_iov").getD 0)
      (getInt msghdr "msg_iovlen")
    have hbind : (∃ msgIov ∈ getPtr msghdr "msg_iov",
        msgIov ≠ 0 ∧ process.NullBaseIn msgIov (getInt msghdr "msg_iovlen")) ↔
        ((getPtr msghdr "msg_iov").getD 0 ≠ 0 ∧
          process.NullBaseIn ((getPtr msghdr "msg_iov").getD 0) (getInt msghdr "msg_iovlen")) := by
      cases getPtr msghdr "msg_iov" <;> simp
    simp only [Option.mem_def, Option.some.injEq, exists_eq_left'] at hbind ⊢
    rw [hbind, ← hiov]
    exact bind_returns_iff_of_returns fun _ => ⟨_, rfl⟩

theorem decodeMsghdrParam_ok_iff {direction : ParamDirection} {ctx : DecodeContext} :
    (∃ r, decodeStructParam decodeMsghdr direction ctx = .ok r) ↔
      ¬ (Param.msghdr direction).MeetsNullBase ctx := by
  unfold decodeStructParam Param.MeetsNullBase
  rw [directed_ok_iff, not_and]
  refine forall_congr' fun _ => ?_
  rw [← decodeMsghdr_ok_iff _ _ ctx.noAbbrev]
  refine bind_returns_iff_of_returns fun r => ?_
  rcases r with _ | _ | ⟨f, fs⟩ <;> exact ⟨_, rfl⟩

/-- A parameter decoder raises exactly when it meets a null base. -/
theorem Param.decode_ok_iff (param : Param) (ctx : DecodeContext) (caches : SysctlCaches) :
    (∃ r, param.decode ctx caches = .ok r) ↔ ¬ param.MeetsNullBase ctx := by
  have hmap : (∃ r, param.decode ctx caches = .ok r) ↔
      ∃ r, param.decodePure ctx caches = .ok r := map_returns_iff
  rw [hmap]
  cases param with
  | iovec countArgIndex direction => exact decodeIovecParam_ok_iff
  | msghdr direction => exact decodeMsghdrParam_ok_iff
  | struct spec direction =>
    exact iff_of_true (decodeStructParam_ok spec.decodeStruct_ok direction ctx) not_false
  | termios direction =>
    exact iff_of_true (decodeStructParam_ok decodeTermios_ok direction ctx) not_false
  | sockaddr direction =>
    exact iff_of_true (decodeStructParam_ok (fun _ _ _ => ⟨_, rfl⟩) direction ctx) not_false
  | sigset direction => exact iff_of_true (decodeSigsetParam_ok direction ctx) not_false
  | intPtr direction => exact iff_of_true (decodeIntPtrParam_ok direction ctx) not_false
  | intArray count direction elementSize =>
    exact iff_of_true (decodeIntArrayParam_ok count direction elementSize ctx) not_false
  | buffer sizeArgIndex direction =>
    exact iff_of_true (decodeBuffer_ok sizeArgIndex direction ctx) not_false
  | kevent countArgIndex direction =>
    exact iff_of_true (decodeKeventParam_ok keventStruct countArgIndex direction ctx) not_false
  | kevent64 countArgIndex direction =>
    exact iff_of_true (decodeKeventParam_ok kevent64Struct countArgIndex direction ctx) not_false
  | _ => exact iff_of_true ⟨_, rfl⟩ not_false

/-- The decoder that the parameter selects meets a null base. -/
def SyscallParam.MeetsNullBase (ctx : DecodeContext) : SyscallParam → Prop
  | .plain param => param.MeetsNullBase ctx
  | .variant v => ∃ param, v.select ctx = .decode param ∧ param.MeetsNullBase ctx

theorem SyscallParam.decode_ok_iff (param : SyscallParam) (ctx : DecodeContext)
    (caches : SysctlCaches) :
    (∃ r, param.decode ctx caches = .ok r) ↔ ¬ param.MeetsNullBase ctx := by
  cases param with
  | plain param => exact param.decode_ok_iff ctx caches
  | variant v =>
    unfold SyscallParam.decode VariantParam.decode MeetsNullBase
    cases hs : v.select ctx with
    | done arg => simp [hs]
    | decode param =>
      simp only [hs, Variant.decode.injEq, exists_eq_left']
      exact param.decode_ok_iff ctx caches

/-- The identity of the list of raw values does not matter. -/
theorem SyscallParam.meetsNullBase_congr (param : SyscallParam) (ctx : DecodeContext) (id : Nat) :
    param.MeetsNullBase { ctx with allArgs := ⟨id, ctx.allArgs.vals⟩ } ↔
      param.MeetsNullBase ctx := by
  cases param with
  | plain param => cases param <;> rfl
  | variant v =>
    refine exists_congr fun param => and_congr Iff.rfl ?_
    cases param <;> rfl

/-! ## All parameters of a call -/

variable {process : Process} {shared : SharedContext} {noAbbrev : Bool} {caches : SysctlCaches}

/-- The context in which the raw value of one parameter is decoded. -/
def SharedContext.viewAt (shared : SharedContext) (noAbbrev : Bool) (process : Process)
    (rawValue : Nat) : DecodeContext :=
  { shared with rawValue := rawValue }.view noAbbrev process

theorem SharedContext.viewAt_rawValue (shared : SharedContext) (noAbbrev : Bool)
    (process : Process) (v w : Nat) :
    { shared with rawValue := v }.viewAt noAbbrev process w = shared.viewAt noAbbrev process w :=
  rfl

/-- One call of a decoder leaves everything of the shared context but the raw value. -/
theorem decodeShared_eq (param : SyscallParam) (rawValue : Nat) :
    decodeShared process param rawValue ⟨noAbbrev, some shared, caches⟩ =
      (param.decode (shared.viewAt noAbbrev process rawValue) caches).map
        fun r => (r.1, ⟨noAbbrev, some { shared with rawValue := rawValue }, r.2⟩) := by
  unfold decodeShared SharedContext.viewAt
  simp only [bind, Except.bind, pure, Except.pure]
  cases param.decode ({ shared with rawValue := rawValue }.view noAbbrev process) caches <;> rfl

theorem decodeArgs_ok_iff {params : List SyscallParam} {rawValues : List Nat} :
    (∃ r, decodeArgs process params rawValues ⟨noAbbrev, some shared, caches⟩ = .ok r) ↔
      ∀ p ∈ params.zip rawValues, ¬ p.1.MeetsNullBase (shared.viewAt noAbbrev process p.2) := by
  induction params generalizing rawValues shared caches with
  | nil => simp [decodeArgs]
  | cons param params ih =>
    cases rawValues with
    | nil =>
      have hrest := @ih shared caches []
      unfold decodeArgs
      cases hd : decodeArgs process params [] ⟨noAbbrev, some shared, caches⟩ with
      | error e => simp [hd] at hrest
      | ok r => simp [bind, Except.bind, pure, Except.pure]
    | cons rawValue rawValues =>
      rw [List.zip_cons_cons, List.forall_mem_cons]
      rw [← param.decode_ok_iff (shared.viewAt noAbbrev process rawValue) caches]
      unfold decodeArgs
      rw [decodeShared_eq]
      cases param.decode (shared.viewAt noAbbrev process rawValue) caches with
      | error e => simp [bind, Except.bind, Except.map]
      | ok r =>
        have hrest := @ih { shared with rawValue := rawValue } r.2 rawValues
        simp only [SharedContext.viewAt_rawValue] at hrest
        rw [← hrest]
        simp only [bind, Except.bind, Except.map, pure, Except.pure]
        cases decodeArgs process params rawValues
          ⟨noAbbrev, some { shared with rawValue := rawValue }, r.2⟩ <;> simp

theorem decodeArgsAtExit_ok_iff {params : List SyscallParam} {rawValues : List Nat}
    {args : List SyscallArg} :
    (∃ r, decodeArgsAtExit process params rawValues args ⟨noAbbrev, some shared, caches⟩ =
        .ok r) ↔
      ∀ p ∈ params.zip (rawValues.zip args),
        ¬ p.1.MeetsNullBase (shared.viewAt noAbbrev process p.2.1) := by
  induction params generalizing rawValues args shared caches with
  | nil => simp [decodeArgsAtExit]
  | cons param params ih =>
    rcases rawValues with _ | ⟨rawValue, rawValues⟩
    · simp [decodeArgsAtExit]
    · rcases args with _ | ⟨arg, args⟩
      · simp [decodeArgsAtExit]
      · rw [List.zip_cons_cons, List.zip_cons_cons, List.forall_mem_cons]
        rw [← param.decode_ok_iff (shared.viewAt noAbbrev process rawValue) caches]
        unfold decodeArgsAtExit
        rw [decodeShared_eq]
        cases param.decode (shared.viewAt noAbbrev process rawValue) caches with
        | error e => simp [bind, Except.bind, Except.map]
        | ok r =>
          have hrest := @ih { shared with rawValue := rawValue } r.2 rawValues args
          simp only [SharedContext.viewAt_rawValue] at hrest
          rw [← hrest]
          simp only [bind, Except.bind, Except.map, pure, Except.pure]
          cases decodeArgsAtExit process params rawValues args
            ⟨noAbbrev, some { shared with rawValue := rawValue }, r.2⟩ <;> simp

theorem decodeArgs_length {params : List SyscallParam} {rawValues : List Nat}
    {state state' : DecoderState} {args : List SyscallArg}
    (h : decodeArgs process params rawValues state = .ok (args, state')) :
    args.length = params.length := by
  induction params generalizing rawValues state args with
  | nil => cases h; rfl
  | cons param params ih =>
    cases rawValues with
    | nil =>
      rw [decodeArgs] at h
      obtain ⟨r, hd, h⟩ := bind_eq_ok.mp h
      cases h
      rw [List.length_cons, List.length_cons, ih hd]
    | cons rawValue rawValues =>
      rw [decodeArgs] at h
      obtain ⟨r, -, h⟩ := bind_eq_ok.mp h
      obtain ⟨r', hd, h⟩ := bind_eq_ok.mp h
      cases h
      rw [List.length_cons, List.length_cons, ih hd]

theorem decodeArgsAtExit_length {params : List SyscallParam} {rawValues : List Nat}
    {state state' : DecoderState} {args args' : List SyscallArg}
    (h : decodeArgsAtExit process params rawValues args state = .ok (args', state')) :
    args'.length = args.length := by
  fun_induction decodeArgsAtExit process params rawValues args state generalizing args' with
  | case1 param params rawValue rawValues arg args state ih =>
    obtain ⟨r, -, h⟩ := bind_eq_ok.mp h
    obtain ⟨r', hd, h⟩ := bind_eq_ok.mp h
    cases h
    rw [List.length_cons, List.length_cons, ih _ hd]
  | case2 => cases h; rfl

/-! ## A call at its entry and at its return -/

variable {d : SyscallDef} {arch : Architecture} {frame : Frame} {listId : Nat}

/-- The context of a parameter at the entry of a call with the given raw values. -/
def entryContext (noAbbrev : Bool) (process : Process) (rawValues : PyList) (rawValue : Nat) :
    DecodeContext :=
  ⟨noAbbrev, process, rawValue, rawValues, true, none⟩

/-- The context of a parameter when the call of `event` has returned. -/
def exitContext (noAbbrev : Bool) (process : Process) (event : SyscallEvent) (rawValue : Nat) :
    DecodeContext :=
  ⟨noAbbrev, process, rawValue, event.rawArgs, false, some event.returnValue⟩

/-- At the entry of a call of `d`, a decoder meets a null base. -/
def SyscallDef.NullBaseAtEntry (d : SyscallDef) (arch : Architecture) (frame : Frame)
    (process : Process) (listId : Nat) (noAbbrev : Bool) : Prop :=
  ∃ p ∈ d.params.zip (readRawValues arch frame process d), p.1.MeetsNullBase
    (entryContext noAbbrev process ⟨listId, readRawValues arch frame process d⟩ p.2)

/-- After the call of `event`, a decoder meets a null base. -/
def SyscallDef.NullBaseAtExit (d : SyscallDef) (process : Process) (event : SyscallEvent)
    (noAbbrev : Bool) : Prop :=
  ∃ p ∈ d.params.zip (event.rawArgs.vals.zip event.args),
    p.1.MeetsNullBase (exitContext noAbbrev process event p.2.1)

theorem SyscallDef.nullBaseAtEntry_congr (listId' : Nat) :
    d.NullBaseAtEntry arch frame process listId' noAbbrev ↔
      d.NullBaseAtEntry arch frame process listId noAbbrev :=
  exists_congr fun p => and_congr_right fun _ =>
    p.1.meetsNullBase_congr (entryContext noAbbrev process
      ⟨listId, readRawValues arch frame process d⟩ p.2) listId'

theorem SyscallDef.nullBaseAtExit_congr (event event' : SyscallEvent)
    (hvals : event'.rawArgs.vals = event.rawArgs.vals) (hargs : event'.args = event.args)
    (hvalue : event'.returnValue = event.returnValue) :
    d.NullBaseAtExit process event' noAbbrev ↔ d.NullBaseAtExit process event noAbbrev := by
  have hraw : event'.rawArgs = ⟨event'.rawArgs.id, event.rawArgs.vals⟩ := by rw [← hvals]
  unfold NullBaseAtExit exitContext
  rw [hvals, hargs, hvalue, hraw]
  exact exists_congr fun p => and_congr_right fun _ =>
    p.1.meetsNullBase_congr (exitContext noAbbrev process event p.2.1) event'.rawArgs.id

theorem extractArgsWithParams_length {state state' : DecoderState} {args : List SyscallArg}
    {rawArgs : PyList}
    (h : extractArgsWithParams arch frame process listId d state = .ok (args, rawArgs, state')) :
    args.length = d.params.length := by
  obtain ⟨r, hr, h⟩ := bind_eq_ok.mp h
  cases h
  exact decodeArgs_length hr

theorem decodeParamsAtExit_length {event event' : SyscallEvent} {state state' : DecoderState}
    {params : List SyscallParam}
    (h : decodeParamsAtExit process event params state = .ok (event', state')) :
    event'.args.length = event.args.length := by
  obtain ⟨r, hr, h⟩ := bind_eq_ok.mp h
  cases h
  exact decodeArgsAtExit_length hr

theorem extractArgsWithParams_ok_iff (shared : SharedContext) (caches : SysctlCaches) :
    (∃ r, extractArgsWithParams arch frame process listId d ⟨noAbbrev, some shared, caches⟩ =
        .ok r) ↔
      ¬ d.NullBaseAtEntry arch frame process listId noAbbrev := by
  simp only [SyscallDef.NullBaseAtEntry, not_exists, not_and]
  exact (bind_returns_iff_of_returns fun _ => ⟨_, rfl⟩).trans decodeArgs_ok_iff

theorem decodeParamsAtExit_ok_iff (shared : SharedContext) (caches : SysctlCaches)
    {event : SyscallEvent} :
    (∃ r, decodeParamsAtExit process event d.params ⟨noAbbrev, some shared, caches⟩ = .ok r) ↔
      ¬ d.NullBaseAtExit process event noAbbrev := by
  simp only [SyscallDef.NullBaseAtExit, not_exists, not_and]
  exact (bind_returns_iff_of_returns fun _ => ⟨_, rfl⟩).trans decodeArgsAtExit_ok_iff

/-- Whether the decoder follows pointers to I/O vectors. -/
def Param.readsVectors : Param → Bool
  | .iovec .. | .msghdr .. => true
  | _ => false

def SyscallParam.readsVectors : SyscallParam → Bool
  | .plain param => param.readsVectors
  | .variant v => v.variants.any (·.2.readsVectors) || v.defaultParam.any Param.readsVectors

def SyscallDef.readsVectors (d : SyscallDef) : Bool :=
  d.params.any SyscallParam.readsVectors

theorem Param.readsVectors_of_meets {param : Param} {ctx : DecodeContext}
    (h : param.MeetsNullBase ctx) : param.readsVectors = true := by
  cases param <;> first | rfl | exact absurd h not_false

/-- A variant parameter decodes with one of its own parameters. -/
theorem VariantParam.mem_of_select {v : VariantParam} {ctx : DecodeContext} {param : Param}
    (h : v.select ctx = .decode param) :
    param ∈ v.variants.map Prod.snd ∨ v.defaultParam = some param := by
  unfold select at h
  cases hdisc : ctx.allArgs.vals[v.discriminatorIndex]? with
  | none => simp [hdisc] at h
  | some discValue =>
    simp only [hdisc] at h
    split_ifs at h
    cases hl : v.variants.lookup discValue with
    | some param' =>
      simp only [hl, Option.some_or, Variant.decode.injEq] at h
      exact .inl (h ▸ List.mem_map_of_mem (Dict.mem_of_lookup hl))
    | none =>
      cases hdef : v.defaultParam with
      | none => simp [hl, hdef] at h
      | some param' =>
        simp only [hl, hdef, Option.none_or, Variant.decode.injEq] at h
        exact .inr (by rw [h])

/-- What holds of no parameter of a variant does not hold of the one that it decodes with. -/
theorem VariantParam.any_of_select {v : VariantParam} {ctx : DecodeContext} {param : Param}
    {f : Param → Bool} (h : v.select ctx = .decode param) (hf : f param = true) :
    (v.variants.any (f ·.2) || v.defaultParam.any f) = true := by
  rcases VariantParam.mem_of_select h with hmem | hdef
  · obtain ⟨e, he, rfl⟩ := List.mem_map.mp hmem
    rw [List.any_eq_true.mpr ⟨e, he, hf⟩, Bool.true_or]
  · rw [hdef, Option.any_some, hf, Bool.or_true]

/-- Only a call with an I/O vector or a message header among its parameters can meet a null base. -/
theorem SyscallDef.not_nullBaseAtEntry (h : d.readsVectors = false) :
    ¬ d.NullBaseAtEntry arch frame process listId noAbbrev := by
  rintro ⟨⟨param, rawValue⟩, hmem, hmeets⟩
  have hparam : param.readsVectors = false := by
    simpa using List.any_eq_false.mp h param (List.of_mem_zip hmem).1
  cases param with
  | plain param =>
    have := Param.readsVectors_of_meets hmeets
    exact absurd hparam (by rw [SyscallParam.readsVectors, this]; simp)
  | variant v =>
    obtain ⟨param, hselect, hmeets⟩ := hmeets
    have := VariantParam.any_of_select hselect (Param.readsVectors_of_meets hmeets)
    rw [SyscallParam.readsVectors, this] at hparam
    cases hparam

/-! ## The shared context outlives every call -/

/-- The state of the decoders of a tracer that has been started: there is a shared context. -/
def DecoderState.Ready (noAbbrev : Bool) (state : DecoderState) : Prop :=
  ∃ shared caches, state = ⟨noAbbrev, some shared, caches⟩

theorem decodeShared_ready {param : SyscallParam} {rawValue : Nat} {state state' : DecoderState}
    {arg : Option SyscallArg} (hs : state.Ready noAbbrev)
    (h : decodeShared process param rawValue state = .ok (arg, state')) :
    state'.Ready noAbbrev := by
  obtain ⟨shared, caches, rfl⟩ := hs
  rw [decodeShared_eq] at h
  obtain ⟨r, -, h⟩ := map_eq_ok.mp h
  cases h
  exact ⟨_, _, rfl⟩

theorem decodeArgs_ready {params : List SyscallParam} {rawValues : List Nat}
    {state state' : DecoderState} {args : List SyscallArg} (hs : state.Ready noAbbrev)
    (h : decodeArgs process params rawValues state = .ok (args, state')) :
    state'.Ready noAbbrev := by
  induction params generalizing rawValues state args with
  | nil => cases h; exact hs
  | cons param params ih =>
    cases rawValues with
    | nil =>
      rw [decodeArgs] at h
      obtain ⟨r, hd, h⟩ := bind_eq_ok.mp h
      cases h
      exact ih hs hd
    | cons rawValue rawValues =>
      rw [decodeArgs] at h
      obtain ⟨r, hr, h⟩ := bind_eq_ok.mp h
      obtain ⟨r', hd, h⟩ := bind_eq_ok.mp h
      cases h
      exact ih (decodeShared_ready hs hr) hd

theorem decodeArgsAtExit_ready {params : List SyscallParam} {rawValues : List Nat}
    {state state' : DecoderState} {args args' : List SyscallArg} (hs : state.Ready noAbbrev)
    (h : decodeArgsAtExit process params rawValues args state = .ok (args', state')) :
    state'.Ready noAbbrev := by
  fun_induction decodeArgsAtExit process params rawValues args state generalizing args' with
  | case1 param params rawValue rawValues arg args state ih =>
    obtain ⟨r, hr, h⟩ := bind_eq_ok.mp h
    obtain ⟨r', hd, h⟩ := bind_eq_ok.mp h
    cases h
    exact ih _ (decodeShared_ready hs hr) hd
  | case2 => cases h; exact hs

theorem extractArgs_ready {registry : SyscallRegistry} {name : String}
    {state state' : DecoderState} {args : List SyscallArg} {rawArgs : PyList}
    (hs : state.Ready noAbbrev)
    (h : extractArgs registry arch frame process listId name state = .ok (args, rawArgs, state')) :
    state'.Ready noAbbrev := by
  unfold extractArgs at h
  cases hl : registry.lookupByName name with
  | none => rw [hl] at h; cases h; exact hs
  | some d =>
    rw [hl] at h
    obtain ⟨shared, caches, rfl⟩ := hs
    obtain ⟨r, hr, h⟩ := bind_eq_ok.mp h
    cases h
    exact decodeArgs_ready ⟨_, _, rfl⟩ hr

theorem decodeParamsAtExit_ready {event event' : SyscallEvent} {state state' : DecoderState}
    {params : List SyscallParam} (hs : state.Ready noAbbrev)
    (h : decodeParamsAtExit process event params state = .ok (event', state')) :
    state'.Ready noAbbrev := by
  obtain ⟨shared, caches, rfl⟩ := hs
  obtain ⟨r, hr, h⟩ := bind_eq_ok.mp h
  cases h
  exact decodeArgsAtExit_ready ⟨_, _, rfl⟩ hr

/-! ## Decoding and exceptions -/

/-- **Decoding returns, with one argument for each parameter, unless a decoder meets an I/O vector
with a null base.** -/
theorem decoding_returns_iff (d : SyscallDef) (arch : Architecture) (frame : Frame)
    (process : Process) (listId : Nat) (noAbbrev : Bool) (shared : SharedContext)
    (caches : SysctlCaches) (event : SyscallEvent) :
    ((∃ args rawArgs state,
        extractArgsWithParams arch frame process listId d ⟨noAbbrev, some shared, caches⟩ =
          .ok (args, rawArgs, state) ∧ args.length = d.params.length) ↔
      ¬ d.NullBaseAtEntry arch frame process listId noAbbrev) ∧
    ((∃ event' state,
        decodeParamsAtExit process event d.params ⟨noAbbrev, some shared, caches⟩ =
          .ok (event', state) ∧ event'.args.length = event.args.length) ↔
      ¬ d.NullBaseAtExit process event noAbbrev) := by
  constructor
  · rw [← extractArgsWithParams_ok_iff shared caches]
    constructor
    · rintro ⟨args, rawArgs, state, h, -⟩
      exact ⟨_, h⟩
    · rintro ⟨⟨args, rawArgs, state⟩, h⟩
      exact ⟨args, rawArgs, state, h, extractArgsWithParams_length h⟩
  · rw [← decodeParamsAtExit_ok_iff shared caches]
    constructor
    · rintro ⟨event', state, h, -⟩
      exact ⟨_, h⟩
    · rintro ⟨⟨event', state⟩, h⟩
      exact ⟨event', state, h, decodeParamsAtExit_length h⟩

/-- `writev(3, {{NULL, 5}}, 1)` at its entry: the vector stands at address `0x1000`. -/
def nullBaseFrame : Frame where
  functionName := some "writev"
  pc := 0x100
  pcOffset := 0
  registers name := [("x0", 3), ("x1", 0x1000), ("x2", 1), ("lr", 0x500)].lookup name
  errno := none

def nullBaseProcess : Process where
  memory := Memory.ofBytes fun a =>
    if 0x1000 ≤ a ∧ a < 0x1010 then some (if a = 0x1008 then 5 else 0) else none
  byteOrder := .little

/-- Decoding may raise: here at the entry of `writev`. -/
theorem decoding_not_total :
    ¬ ∀ d ∈ registered.map Prod.fst, ∀ (arch : Architecture) (frame : Frame) (process : Process)
      (listId : Nat) (noAbbrev : Bool) (shared : SharedContext) (caches : SysctlCaches),
      ∃ r, extractArgsWithParams arch frame process listId d ⟨noAbbrev, some shared, caches⟩ =
        .ok r := by
  intro h
  have hwritev : ((registered.map Prod.fst).any fun d => d.name == "writev" &&
      !(extractArgsWithParams .arm64 nullBaseFrame nullBaseProcess 0 d
        ⟨false, some { allArgs := ⟨0, []⟩ }, ⟨[], []⟩⟩).toBool) = true := by
    decide +kernel
  obtain ⟨d, hd, hbad⟩ := List.any_eq_true.mp hwritev
  obtain ⟨r, hr⟩ := h d hd .arm64 nullBaseFrame nullBaseProcess 0 false { allArgs := ⟨0, []⟩ }
    ⟨[], []⟩
  rw [hr] at hbad
  simp [Except.toBool] at hbad

end StraceMacos
