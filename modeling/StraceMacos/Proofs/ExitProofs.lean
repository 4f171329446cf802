import StraceMacos.Proofs.DecodeProofs
import StraceMacos.Proofs.RereadProofs

/-!
# Input arguments at the return of a call

All parameters are decoded again when a call returns, and the argument is replaced where the decoder
returns one. Decoders with a direction keep silent, and numbers are decoded to the same argument.
The other decoders of inputs read the memory of the process again, and show what it holds by then.
-/

namespace StraceMacos

open CStruct Fallible
open CString (window)

variable {process : Process} {shared : SharedContext} {noAbbrev : Bool}
  {caches : SysctlCaches}

/-! ## One argument of a call -/

theorem decodeArgs_getElem? {params : List SyscallParam} {rawValues : List Nat}
    {args : List SyscallArg} {state : DecoderState}
    (h : decodeArgs process params rawValues ⟨noAbbrev, some shared, caches⟩ = .ok (args, state))
    {i : Nat} {param : SyscallParam} {rawValue : Nat} (hp : params[i]? = some param)
    (hr : rawValues[i]? = some rawValue) :
    ∃ before after r, args[i]? = some (r.getD .unknown) ∧
      param.decode (shared.viewAt noAbbrev process rawValue) before = .ok (r, after) := by
  induction params generalizing rawValues i shared caches args with
  | nil => simp at hp
  | cons head params ih =>
    cases rawValues with
    | nil => simp at hr
    | cons rawHead rawValues =>
      rw [decodeArgs, decodeShared_eq] at h
      obtain ⟨⟨a, s⟩, hs, h⟩ := bind_eq_ok.mp h
      obtain ⟨⟨as, t⟩, ht, h⟩ := bind_eq_ok.mp h
      obtain ⟨⟨r, after⟩, hdecode, hres⟩ := map_eq_ok.mp hs
      cases h
      cases hres
      cases i with
      | zero =>
        cases hp
        cases hr
        exact ⟨caches, after, r, rfl, hdecode⟩
      | succ i => exact ih ht hp hr

theorem decodeArgsAtExit_getElem? {params : List SyscallParam} {rawValues : List Nat}
    {args args' : List SyscallArg} {state : DecoderState}
    (h : decodeArgsAtExit process params rawValues args ⟨noAbbrev, some shared, caches⟩ =
      .ok (args', state))
    {i : Nat} {param : SyscallParam} {rawValue : Nat} {arg : SyscallArg}
    (hp : params[i]? = some param) (hr : rawValues[i]? = some rawValue)
    (ha : args[i]? = some arg) :
    ∃ before after r, args'[i]? = some (r.getD arg) ∧
      param.decode (shared.viewAt noAbbrev process rawValue) before = .ok (r, after) := by
  induction params generalizing rawValues i shared caches args args' with
  | nil => simp at hp
  | cons head params ih =>
    rcases rawValues with _ | ⟨rawHead, rawValues⟩
    · simp at hr
    rcases args with _ | ⟨argHead, args⟩
    · simp at ha
    rw [decodeArgsAtExit, decodeShared_eq] at h
    obtain ⟨⟨a, s⟩, hs, h⟩ := bind_eq_ok.mp h
    obtain ⟨⟨as, t⟩, ht, h⟩ := bind_eq_ok.mp h
    obtain ⟨⟨r, after⟩, hdecode, hres⟩ := map_eq_ok.mp hs
    cases h
    cases hres
    cases i with
    | zero =>
      cases hp
      cases hr
      cases ha
      exact ⟨caches, after, r, rfl, hdecode⟩
    | succ i => exact ih ht hp hr ha

/-! ## Inputs -/

/-- The parameter is an input of the call. -/
def Param.isInput : Param → Bool
  | .struct _ direction | .termios direction | .sockaddr direction | .msghdr direction
  | .sigset direction | .intPtr direction | .intArray _ direction _ | .buffer _ direction
  | .iovec _ direction | .aiocbArray _ direction | .kevent _ direction | .kevent64 _ direction =>
    direction = .in
  | .sysctlBuffer | .sysctlBynameBuffer | .uuid | .sysctlSizePointer => false
  | .int | .unsigned | .uidGid | .string | .arrayOfStrings _ | .dirFd | .flockOp | .pointer
  | .fileDescriptor | .flags _ | .const _ | .custom _ | .octal | .pollfd _ | .fdSet | .sysctlMib
  | .sysctlBynameName | .sysinfoTimespec => true

/-- The bytes that the decoder of an input reads again at the return are the same in both memories,
as far as the decoder can tell. -/
def Param.SameBytes (byteAt byteAt' : Nat → Option UInt8) (rawValue : Nat) (rawValues : List Nat) :
    Param → Prop
  | .string | .sysctlBynameName => rawValue ≠ 0 → SameString byteAt byteAt' rawValue rawValue
  | .arrayOfStrings maxStrings => rawValue ≠ 0 → SameArray byteAt byteAt' maxStrings rawValue
  | .sysctlMib =>
    rawValue ≠ 0 → ∀ namelen ∈ rawValues[1]?, namelen ≤ 12 →
      SameIntegers byteAt byteAt' rawValue namelen
  | .sysinfoTimespec => rawValue ≠ 0 → window byteAt rawValue 16 = window byteAt' rawValue 16
  | _ => True

theorem readString_again_iff {byteAt byteAt' : Nat → Option UInt8} {order order' : ByteOrder}
    {rawValue : Nat} :
    readString (byteProcess byteAt' order') rawValue 4096 =
        readString (byteProcess byteAt order) rawValue 4096 ↔
      (rawValue ≠ 0 → SameString byteAt byteAt' rawValue rawValue) := by
  by_cases h0 : rawValue = 0
  · simp [readString, h0]
  · rw [eq_comm, readString_eq_iff h0 h0]
    exact ⟨fun h _ => h, fun h => h h0⟩

/-- A decoder of an input leaves the argument alone exactly when it reads the same again. -/
theorem Param.kept_iff {param : Param} (hinput : param.isInput = true)
    {byteAt byteAt' : Nat → Option UInt8} {order order' : ByteOrder} {rawValue : Nat}
    {rawArgs : PyList} {value value' : Option ReturnValue} {before before' : SysctlCaches}
    {r r' : Option SyscallArg}
    (h : param.decodePure ⟨noAbbrev, byteProcess byteAt order, rawValue, rawArgs, true, value⟩
      before = .ok r)
    (h' : param.decodePure ⟨noAbbrev, byteProcess byteAt' order', rawValue, rawArgs, false, value'⟩
      before' = .ok r') :
    r'.getD (r.getD .unknown) = r.getD .unknown ↔
      param.SameBytes byteAt byteAt' rawValue rawArgs.vals := by
  -- Decoders with a direction return nothing.
  have hsilent {body : Decoded} (direction : ParamDirection) (hin : direction = .in)
      (h' : directed direction
        ⟨noAbbrev, byteProcess byteAt' order', rawValue, rawArgs, false, value'⟩ body = .ok r') :
      r'.getD (r.getD .unknown) = r.getD .unknown := by
    subst hin
    obtain rfl : none = r' := Except.ok.inj h'
    rfl
  cases param with
  | string | sysctlBynameName =>
    cases h
    cases h'
    rw [Option.getD_some, Option.getD_some]
    exact SyscallArg.string.injEq .. ▸ readString_again_iff
  | arrayOfStrings maxStrings =>
    cases h
    cases h'
    simp only [Option.getD_some, SameBytes, decodeArrayOfStrings]
    by_cases h0 : rawValue = 0
    · simp [h0]
    · have hslots := @readStringArray_eq_iff byteAt byteAt' order order' rawValue maxStrings 0
      rw [Nat.zero_mul, Nat.add_zero] at hslots
      rw [if_neg h0, if_neg h0, SyscallArg.stringArray.injEq, eq_comm, hslots]
      exact ⟨fun h _ => h, fun h => h h0⟩
  | sysctlMib =>
    cases h
    cases h'
    simp only [Option.getD_some, SameBytes, decodeSysctlMibParam]
    by_cases h0 : rawValue = 0
    · simp [h0]
    · rcases hvals : rawArgs.vals with _ | ⟨ptr, _ | ⟨namelen, rest⟩⟩
      · simp [h0]
      · simp [h0]
      · simp only [if_neg h0, SyscallArg.string.injEq]
        rw [eq_comm, decodeSysctlMib_inj h0, readMib_eq_iff]
        simp [h0]
  | sysinfoTimespec =>
    cases h
    cases h'
    exact decodeSysinfoTimespec_kept_iff
  | int | unsigned | uidGid | dirFd | flockOp | pointer | fileDescriptor | flags | const | custom
  | octal =>
    cases h
    cases h'
    exact iff_of_true rfl trivial
  | pollfd | fdSet =>
    obtain rfl : none = r' := Except.ok.inj h'
    exact iff_of_true rfl trivial
  | aiocbArray countArgIndex direction =>
    have hin : direction = .in := by simpa [isInput] using hinput
    have hnone : decodeAiocbArrayParam countArgIndex direction
        ⟨noAbbrev, byteProcess byteAt' order', rawValue, rawArgs, false, value'⟩ = none :=
      if_neg (by simp [ParamDirection.active, hin])
    obtain rfl : none = r' := hnone.symm.trans (Except.ok.inj h')
    exact iff_of_true rfl trivial
  | sysctlBuffer | sysctlBynameBuffer | uuid | sysctlSizePointer => cases hinput
  | struct _ direction | termios direction | sockaddr direction | msghdr direction
  | sigset direction | intPtr direction | intArray _ direction | buffer _ direction
  | iovec _ direction | kevent _ direction | kevent64 _ direction =>
    exact iff_of_true (hsilent direction (by simpa [isInput] using hinput) h') trivial

/-! ## The input arguments of a call -/

/-- The parameter is an input of the call, or selects one. -/
def SyscallParam.IsInput (ctx : DecodeContext) : SyscallParam → Prop
  | .plain param => param.isInput = true
  | .variant v => ∀ param, v.select ctx = .decode param → param.isInput = true

/-- The bytes that the decoder which the parameter selects reads again are the same in both
memories. -/
def SyscallParam.SameBytes (byteAt byteAt' : Nat → Option UInt8) (ctx : DecodeContext) :
    SyscallParam → Prop
  | .plain param => param.SameBytes byteAt byteAt' ctx.rawValue ctx.allArgs.vals
  | .variant v => ∀ param, v.select ctx = .decode param →
    param.SameBytes byteAt byteAt' ctx.rawValue ctx.allArgs.vals

theorem SyscallParam.kept_iff {param : SyscallParam} {byteAt byteAt' : Nat → Option UInt8}
    {order order' : ByteOrder} {rawValue : Nat} {rawArgs : PyList} {value : ReturnValue}
    {before before' after after' : SysctlCaches} {r r' : Option SyscallArg} {ctx : DecodeContext}
    (hctx : ctx = entryContext noAbbrev (byteProcess byteAt order) rawArgs rawValue)
    (hinput : param.IsInput ctx) (h : param.decode ctx before = .ok (r, after))
    (h' : param.decode
      ⟨noAbbrev, byteProcess byteAt' order', rawValue, rawArgs, false, some value⟩ before' =
        .ok (r', after')) :
    r'.getD (r.getD .unknown) = r.getD .unknown ↔ param.SameBytes byteAt byteAt' ctx := by
  subst hctx
  cases param with
  | plain param =>
    obtain ⟨a, ha, hres⟩ := map_eq_ok.mp h
    obtain ⟨a', ha', hres'⟩ := map_eq_ok.mp h'
    cases hres
    cases hres'
    exact Param.kept_iff hinput ha ha'
  | variant v =>
    -- The choice depends on the raw values alone.
    have hselect :
        v.select ⟨noAbbrev, byteProcess byteAt' order', rawValue, rawArgs, false, some value⟩ =
          v.select (entryContext noAbbrev (byteProcess byteAt order) rawArgs rawValue) := rfl
    simp only [decode, VariantParam.decode, hselect] at h h'
    simp only [IsInput, SameBytes] at hinput ⊢
    cases hs : v.select (entryContext noAbbrev (byteProcess byteAt order) rawArgs rawValue) with
    | done arg =>
      rw [hs] at h h'
      cases h
      cases h'
      simp
    | decode param =>
      rw [hs] at h h'
      obtain ⟨a, ha, hres⟩ := map_eq_ok.mp h
      obtain ⟨a', ha', hres'⟩ := map_eq_ok.mp h'
      cases hres
      cases hres'
      rw [Param.kept_iff (hinput param hs) ha ha']
      simp [entryContext]

/-- A call that is decoded at its entry and again at its return, each time in the memory of the
process at that stop. Whatever happens in between may change the state of the decoders. -/
structure DecodedCall (d : SyscallDef) where
  noAbbrev : Bool
  arch : Architecture
  frame : Frame
  listId : Nat
  entry : Process
  shared : SharedContext
  caches : SysctlCaches
  args : List SyscallArg
  rawArgs : PyList
  state : DecoderState
  extracted : extractArgsWithParams arch frame entry listId d ⟨noAbbrev, some shared, caches⟩ =
    .ok (args, rawArgs, state)
  exit : Process
  shared' : SharedContext
  caches' : SysctlCaches
  event : SyscallEvent
  args_eq : event.args = args
  rawArgs_eq : event.rawArgs = rawArgs
  event' : SyscallEvent
  state' : DecoderState
  decoded : decodeParamsAtExit exit event d.params ⟨noAbbrev, some shared', caches'⟩ =
    .ok (event', state')

/-- The context in which a raw value of the call is decoded at its entry. -/
def DecodedCall.contextAt {d : SyscallDef} (call : DecodedCall d) (rawValue : Nat) :
    DecodeContext :=
  entryContext call.noAbbrev call.entry call.rawArgs rawValue

section Call

variable {d : SyscallDef} (call : DecodedCall d) {i : Nat} {param : SyscallParam} {rawValue : Nat}

/-- What the two decodings of one argument return. -/
theorem DecodedCall.decoded_arg (hparam : d.params[i]? = some param)
    (hvalue : call.rawArgs.vals[i]? = some rawValue) :
    ∃ before after before' after' r r',
      call.args[i]? = some (r.getD .unknown) ∧
      call.event'.args[i]? = some (r'.getD (r.getD .unknown)) ∧
      param.decode (call.contextAt rawValue) before = .ok (r, after) ∧
      param.decode (exitContext call.noAbbrev call.exit call.event rawValue) before' =
        .ok (r', after') := by
  have hentry := call.extracted
  have hexit := call.decoded
  unfold extractArgsWithParams at hentry
  unfold decodeParamsAtExit at hexit
  obtain ⟨⟨as, s⟩, hdecode, hentry⟩ := bind_eq_ok.mp hentry
  obtain ⟨⟨as', s'⟩, hdecode', hexit⟩ := bind_eq_ok.mp hexit
  simp only [pure, Except.pure, Except.ok.injEq, Prod.mk.injEq] at hentry hexit
  obtain ⟨hargs, hraw, -⟩ := hentry
  rw [call.args_eq, call.rawArgs_eq] at hdecode'
  rw [hargs, hraw] at hdecode
  obtain ⟨before, after, r, harg, hr⟩ := decodeArgs_getElem? hdecode hparam hvalue
  obtain ⟨before', after', r', harg', hr'⟩ := decodeArgsAtExit_getElem? hdecode' hparam hvalue harg
  refine ⟨before, after, before', after', r, r', harg, by rw [← hexit.1, harg'], hr, ?_⟩
  rw [exitContext, call.rawArgs_eq]
  exact hr'

/-- **An input argument is left alone at the return of a call exactly when the bytes that its
decoder reads again are those of the entry.** Only strings, lists of strings, the names of `sysctl`
and `sysctlbyname` and the times of `sysinfo.py` are read again. -/
theorem input_arg_kept_iff {byteAt byteAt' : Nat → Option UInt8} {order order' : ByteOrder}
    (hentry : call.entry = byteProcess byteAt order)
    (hexit : call.exit = byteProcess byteAt' order')
    (hparam : d.params[i]? = some param) (hvalue : call.rawArgs.vals[i]? = some rawValue)
    (hinput : param.IsInput (call.contextAt rawValue)) :
    call.event'.args[i]? = call.args[i]? ↔
      param.SameBytes byteAt byteAt' (call.contextAt rawValue) := by
  obtain ⟨_, _, _, _, r, r', harg, harg', hr, hr'⟩ := call.decoded_arg hparam hvalue
  rw [exitContext, call.rawArgs_eq, hexit] at hr'
  rw [harg, harg', Option.some_inj]
  have hctx : call.contextAt rawValue =
      entryContext call.noAbbrev (byteProcess byteAt order) call.rawArgs rawValue := by
    rw [DecodedCall.contextAt, hentry]
  exact SyscallParam.kept_iff hctx hinput hr hr'

end Call

/-- `unlink` -/
def unlinkDef : SyscallDef where
  number := 10
  name := "unlink"
  params := plainParams [.string]

theorem unlinkDef_mem : unlinkDef ∈ registered.map Prod.fst := by
  have hfind : (registered.map Prod.fst).find? (·.name == "unlink") = some unlinkDef := rfl
  exact List.mem_of_find?_eq_some hfind

/-- `unlink("h")` at its entry on ARM64. -/
def unlinkFrame : Frame where
  functionName := some "unlink"
  pc := 0x100
  pcOffset := 0
  registers name := [("x0", 0x1000), ("lr", 0x500)].lookup name
  errno := none

/-- `unlink("h")`, at whose return the memory is `byteAt`. -/
def unlinkCall (byteAt : Nat → Option UInt8) : DecodedCall unlinkDef where
  noAbbrev := false
  arch := .arm64
  frame := unlinkFrame
  listId := 0
  entry := byteProcess firstPage .little
  shared := ⟨0, ⟨0, []⟩, true, none⟩
  caches := ⟨[], []⟩
  args := [.string (readString (byteProcess firstPage .little) 0x1000 4096)]
  rawArgs := ⟨0, [0x1000]⟩
  state := ⟨false, some ⟨0x1000, ⟨0, [0x1000]⟩, true, none⟩, ⟨[], []⟩⟩
  extracted := rfl
  exit := byteProcess byteAt .little
  shared' := ⟨0, ⟨0, []⟩, true, none⟩
  caches' := ⟨[], []⟩
  event := ⟨1, "unlink", [.string (readString (byteProcess firstPage .little) 0x1000 4096)], .int 0,
    0, ⟨0, [0x1000]⟩, 0⟩
  args_eq := rfl
  rawArgs_eq := rfl
  event' := ⟨1, "unlink", [.string (readString (byteProcess byteAt .little) 0x1000 4096)], .int 0,
    0, ⟨0, [0x1000]⟩, 0⟩
  state' := ⟨false, some ⟨0x1000, ⟨0, [0x1000]⟩, false, some (.int 0)⟩, ⟨[], []⟩⟩
  decoded := rfl

/-- The first page with other bytes behind its string. -/
def rewrittenPage (address : Nat) : Option UInt8 :=
  if 0x1002 ≤ address ∧ address < 0x2000 then some 0x21 else firstPage address

/-- The path of `unlink` is kept when only the bytes behind it have changed. -/
theorem unlink_path_kept : rewrittenPage 0x1002 ≠ firstPage 0x1002 ∧
    (unlinkCall rewrittenPage).event'.args[0]? = (unlinkCall rewrittenPage).args[0]? := by
  have hseen : seenBytes firstPage 0x1000 4096 = some [0x68] ∧
      seenBytes rewrittenPage 0x1000 4096 = some [0x68] := by
    decide +kernel
  have hsame : SameString firstPage rewrittenPage 0x1000 0x1000 := by
    rw [sameString_iff, hseen.1, hseen.2]
    rfl
  have hparam : unlinkDef.params[0]? = some (.plain .string) := rfl
  have hvalue : (unlinkCall rewrittenPage).rawArgs.vals[0]? = some 0x1000 := rfl
  have hchanged : rewrittenPage 0x1002 ≠ firstPage 0x1002 := by decide +kernel
  exact ⟨hchanged,
    (input_arg_kept_iff (unlinkCall rewrittenPage) rfl rfl hparam hvalue rfl).mpr fun _ => hsame⟩

/-- The path of `unlink` is read again. -/
theorem path_read_again : ¬ ∀ d ∈ registered.map Prod.fst, ∀ (call : DecodedCall d) (i : Nat)
    (param : SyscallParam) (rawValue : Nat), d.params[i]? = some param →
      call.rawArgs.vals[i]? = some rawValue → param.IsInput (call.contextAt rawValue) →
        call.event'.args[i]? = call.args[i]? := by
  intro h
  have hkept := h unlinkDef unlinkDef_mem (unlinkCall fun _ => none) 0 (.plain .string) 0x1000 rfl
    rfl rfl
  have hread : readString (byteProcess (fun _ => none) .little) 0x1000 4096 =
      readString (byteProcess firstPage .little) 0x1000 4096 :=
    SyscallArg.string.inj (Option.some.inj hkept)
  rw [readString_eq (by decide), readString_eq (by decide)] at hread
  revert hread
  decide +kernel

end StraceMacos
