import StraceMacos.Proofs.EntryProofs

/-!
# What reaches a call through the shared decode context

All calls are decoded through one context and two caches that are keyed by the identity of the list
of raw values and never emptied. The context is set anew at each end of a call. An entry of a cache
is looked up only under the identity of the call's own list; it can be a stale one only if the call
has not just assigned it, which happens to a `sysctl` without a name.
-/

namespace StraceMacos

open Fallible

/-! ## Parameters that use the caches -/

def Param.usesCaches : Param → Bool
  | .sysctlMib | .sysctlBuffer | .sysctlBynameName | .sysctlBynameBuffer => true
  | _ => false

def SyscallParam.usesCaches : SyscallParam → Bool
  | .plain param => param.usesCaches
  | .variant v => v.variants.any (·.2.usesCaches) || v.defaultParam.any Param.usesCaches

/-- In a list of parameters the buffers whose type is looked up in a cache stand behind the name
that is cached, and there are no others; only `sysctl` looks up by MIB. -/
def SyscallDef.looksUpOwnName (d : SyscallDef) : Bool :=
  match d.params with
  | .plain .sysctlMib :: param :: .plain .sysctlBuffer :: params =>
    d.name == "sysctl" && d.variadicStart.isNone && !param.usesCaches &&
      params.all (!·.usesCaches)
  | .plain .sysctlBynameName :: .plain .sysctlBynameBuffer :: params => params.all (!·.usesCaches)
  | params => params.all (!·.usesCaches)

theorem registered_looksUpOwnName : ∀ e ∈ registered, e.1.looksUpOwnName = true := by
  decide +kernel

/-! ## Decoding in two contexts -/

/-- Two states of the decoders in which a call with the raw values `vals` is decoded alike: they
differ in the identity of the list, in what was decoded last and in the caches. Under the two
conditions the caches have the same entry for the call. -/
def Agree (vals : List Nat) (atEntry : Bool) (mib byname : Prop) (s s' : DecoderState) : Prop :=
  ∃ noAbbrev raw raw' id id' value caches caches',
    s = ⟨noAbbrev, some ⟨raw, ⟨id, vals⟩, atEntry, value⟩, caches⟩ ∧
    s' = ⟨noAbbrev, some ⟨raw', ⟨id', vals⟩, atEntry, value⟩, caches'⟩ ∧
    (mib → caches.mib.lookup id = caches'.mib.lookup id') ∧
    (byname → caches.byname.lookup id = caches'.byname.lookup id')

variable {vals : List Nat} {atEntry : Bool} {mib byname : Prop} {process : Process}

/-- The parameter looks up nothing but what the call itself has cached. -/
def SyscallParam.Settled (atEntry : Bool) (mib byname : Prop) (rawValue : Nat) :
    SyscallParam → Prop
  | .plain .sysctlBuffer => atEntry = true ∨ rawValue = 0 ∨ mib
  | .plain .sysctlBynameBuffer => atEntry = true ∨ rawValue = 0 ∨ byname
  | .plain _ => True
  | .variant v => (SyscallParam.variant v).usesCaches = false

/-- After this parameter the MIB of the call is cached. -/
def SyscallParam.settlesMib (vals : List Nat) (rawValue : Nat) : SyscallParam → Prop
  | .plain .sysctlMib => rawValue ≠ 0 ∧ 2 ≤ vals.length
  | _ => False

/-- After this parameter the name of the call is cached. -/
def SyscallParam.settlesByname : SyscallParam → Prop
  | .plain .sysctlBynameName => True
  | _ => False

theorem Param.decode_of_not_usesCaches {param : Param} (h : param.usesCaches = false)
    (ctx : DecodeContext) (caches : SysctlCaches) :
    ∃ arg, ∀ id' caches', param.decode { ctx with allArgs := ⟨id', ctx.allArgs.vals⟩ } caches' =
      (arg : Decoded).map fun a => (a, caches') := by
  refine ⟨param.decodePure ctx caches, fun id' caches' => ?_⟩
  cases param <;> first | rfl | cases h

/-- What decoding one parameter gives in two contexts that differ in the identity of the list: the
same argument, and caches that still agree on the call. -/
structure SameDecoded (vals : List Nat) (mib byname : Prop) (param : SyscallParam) (rawValue : Nat)
    (id id' : Nat) (r r' : Option SyscallArg × SysctlCaches) : Prop where
  arg : r.1 = r'.1
  mib : mib ∨ param.settlesMib vals rawValue → r.2.mib.lookup id = r'.2.mib.lookup id'
  byname : byname ∨ param.settlesByname → r.2.byname.lookup id = r'.2.byname.lookup id'

variable {rawValue id id' : Nat} {caches caches' : SysctlCaches} {ctx : DecodeContext}
variable {r r' : Option SyscallArg × SysctlCaches}

theorem sameDecoded_of_not_usesCaches {param : Param} (h : param.usesCaches = false)
    {p : SyscallParam} (hmib : ¬ p.settlesMib vals rawValue) (hbyname : ¬ p.settlesByname)
    (hm : mib → caches.mib.lookup id = caches'.mib.lookup id')
    (hb : byname → caches.byname.lookup id = caches'.byname.lookup id')
    (hr : param.decode { ctx with allArgs := ⟨id, vals⟩ } caches = .ok r)
    (hr' : param.decode { ctx with allArgs := ⟨id', vals⟩ } caches' = .ok r') :
    SameDecoded vals mib byname p rawValue id id' r r' := by
  obtain ⟨arg, harg⟩ := Param.decode_of_not_usesCaches h { ctx with allArgs := ⟨id, vals⟩ } caches
  have hr₁ := (harg id caches).symm.trans hr
  have hr₂ := (harg id' caches').symm.trans hr'
  obtain ⟨a, ha, rfl⟩ := map_eq_ok.mp hr₁
  obtain ⟨a', ha', rfl⟩ := map_eq_ok.mp hr₂
  cases ha.symm.trans ha'
  exact ⟨rfl, fun h => hm (h.resolve_right hmib), fun h => hb (h.resolve_right hbyname)⟩

theorem decodeSysctlBuffer_congr {t t' : Option SysctlType}
    (h : atEntry = true ∨ rawValue = 0 ∨ t = t') (ha : ctx.atEntry = atEntry)
    (hraw : ctx.rawValue = rawValue) :
    decodeSysctlBuffer t { ctx with allArgs := ⟨id, vals⟩ } =
      decodeSysctlBuffer t' { ctx with allArgs := ⟨id', vals⟩ } := by
  unfold decodeSysctlBuffer
  simp only
  rcases h with h | h | rfl
  · rw [if_pos (.inr (ha.trans h)), if_pos (.inr (ha.trans h))]
  · rw [if_pos (.inl (hraw.trans h)), if_pos (.inl (hraw.trans h))]
  · rfl

/-- Decoding a settled parameter gives the same argument in both contexts. -/
theorem SyscallParam.Settled.sameDecoded {param : SyscallParam}
    (hs : param.Settled atEntry mib byname rawValue) (ctx : DecodeContext)
    (ha : ctx.atEntry = atEntry) (hraw : ctx.rawValue = rawValue)
    (hm : mib → caches.mib.lookup id = caches'.mib.lookup id')
    (hb : byname → caches.byname.lookup id = caches'.byname.lookup id')
    (hr : param.decode { ctx with allArgs := ⟨id, vals⟩ } caches = .ok r)
    (hr' : param.decode { ctx with allArgs := ⟨id', vals⟩ } caches' = .ok r') :
    SameDecoded vals mib byname param rawValue id id' r r' := by
  cases param with
  | variant v =>
    have hnot : (SyscallParam.variant v).usesCaches = false := hs
    have hselect : v.select { ctx with allArgs := ⟨id', vals⟩ } =
        v.select { ctx with allArgs := ⟨id, vals⟩ } := rfl
    change v.decode _ caches = .ok r at hr
    change v.decode _ caches' = .ok r' at hr'
    unfold VariantParam.decode at hr hr'
    rw [hselect] at hr'
    cases hv : v.select { ctx with allArgs := ⟨id, vals⟩ } with
    | done arg =>
      rw [hv] at hr hr'
      cases hr
      cases hr'
      exact ⟨rfl, fun h => hm (h.resolve_right not_false), fun h => hb (h.resolve_right not_false)⟩
    | decode param =>
      rw [hv] at hr hr'
      refine sameDecoded_of_not_usesCaches ?_ not_false not_false hm hb hr hr'
      rw [← Bool.not_eq_true]
      intro huses
      have := VariantParam.any_of_select hv huses
      rw [SyscallParam.usesCaches, this] at hnot
      cases hnot
  | plain param =>
    cases param with
    | sysctlMib =>
      cases hr
      cases hr'
      by_cases h0 : ctx.rawValue = 0
      · have hset : ¬ (SyscallParam.plain .sysctlMib).settlesMib vals rawValue :=
          fun h => h.1 (hraw.symm.trans h0)
        simp only [Param.updateCaches, decodeSysctlMibParam, if_pos h0]
        exact ⟨rfl, fun h => hm (h.resolve_right hset), fun h => hb (h.resolve_right not_false)⟩
      · simp only [Param.updateCaches, decodeSysctlMibParam, if_neg h0]
        rcases vals with _ | ⟨v, _ | ⟨namelen, vals⟩⟩
        · exact ⟨rfl, fun h => hm (h.resolve_right fun h => by simpa using h.2),
            fun h => hb (h.resolve_right not_false)⟩
        · exact ⟨rfl, fun h => hm (h.resolve_right fun h => by simpa using h.2),
            fun h => hb (h.resolve_right not_false)⟩
        · exact ⟨rfl, fun _ => by simp, fun h => hb (h.resolve_right not_false)⟩
    | sysctlBuffer =>
      cases hr
      cases hr'
      refine ⟨congrArg some (decodeSysctlBuffer_congr ?_ ha hraw),
        fun h => hm (h.resolve_right not_false), fun h => hb (h.resolve_right not_false)⟩
      exact hs.imp_right fun h => h.imp_right fun h => by rw [hm h]
    | sysctlBynameName =>
      cases hr
      cases hr'
      exact ⟨rfl, fun h => hm (h.resolve_right not_false),
        fun _ => by simp [Param.updateCaches, decodeSysctlBynameNameParam]⟩
    | sysctlBynameBuffer =>
      cases hr
      cases hr'
      refine ⟨congrArg some (decodeSysctlBuffer_congr ?_ ha hraw),
        fun h => hm (h.resolve_right not_false), fun h => hb (h.resolve_right not_false)⟩
      exact hs.imp_right fun h => h.imp_right fun h => by rw [hb h]
    | _ => exact sameDecoded_of_not_usesCaches rfl not_false not_false hm hb hr hr'

/-- The view of the decoders in which one parameter is decoded. -/
theorem decodeShared_agree {param : SyscallParam} {s s' t t' : DecoderState}
    {a a' : Option SyscallArg} (hs : param.Settled atEntry mib byname rawValue)
    (hA : Agree vals atEntry mib byname s s')
    (h : decodeShared process param rawValue s = .ok (a, t))
    (h' : decodeShared process param rawValue s' = .ok (a', t')) :
    a = a' ∧ Agree vals atEntry (mib ∨ param.settlesMib vals rawValue)
      (byname ∨ param.settlesByname) t t' := by
  obtain ⟨noAbbrev, raw, raw', id, id', value, caches, caches', rfl, rfl, hm, hb⟩ := hA
  rw [decodeShared_eq] at h h'
  obtain ⟨r, hr, h⟩ := map_eq_ok.mp h
  obtain ⟨r', hr', h'⟩ := map_eq_ok.mp h'
  cases h
  cases h'
  have hd : SameDecoded vals mib byname param rawValue id id' r r' :=
    hs.sameDecoded ⟨noAbbrev, process, rawValue, ⟨id, vals⟩, atEntry, value⟩ rfl rfl hm hb hr hr'
  exact ⟨hd.arg, _, _, _, _, _, _, _, _, rfl, rfl, hd.mib, hd.byname⟩

/-- Every parameter of a list is settled when it is reached. -/
def Covered (vals : List Nat) (atEntry : Bool) :
    Prop → Prop → List SyscallParam → List Nat → Prop
  | mib, byname, param :: params, rawValue :: rawValues =>
    param.Settled atEntry mib byname rawValue ∧
      Covered vals atEntry (mib ∨ param.settlesMib vals rawValue)
        (byname ∨ param.settlesByname) params rawValues
  | _, _, _, _ => True

theorem decodeArgs_agree {params : List SyscallParam} {rawValues : List Nat}
    {s s' t t' : DecoderState} {args args' : List SyscallArg}
    (hc : Covered vals atEntry mib byname params rawValues)
    (hA : Agree vals atEntry mib byname s s')
    (h : decodeArgs process params rawValues s = .ok (args, t))
    (h' : decodeArgs process params rawValues s' = .ok (args', t')) : args = args' := by
  induction params generalizing rawValues s s' args args' mib byname with
  | nil => cases h; cases h'; rfl
  | cons param params ih =>
    cases rawValues with
    | nil =>
      rw [decodeArgs] at h h'
      obtain ⟨r, hd, h⟩ := bind_eq_ok.mp h
      obtain ⟨r', hd', h'⟩ := bind_eq_ok.mp h'
      cases h
      cases h'
      rw [ih (by cases params <;> trivial) hA hd hd']
    | cons rawValue rawValues =>
      rw [decodeArgs] at h h'
      obtain ⟨⟨a, u⟩, hs, h⟩ := bind_eq_ok.mp h
      obtain ⟨⟨a', u'⟩, hs', h'⟩ := bind_eq_ok.mp h'
      obtain ⟨r, hd, h⟩ := bind_eq_ok.mp h
      obtain ⟨r', hd', h'⟩ := bind_eq_ok.mp h'
      cases h
      cases h'
      obtain ⟨rfl, hA'⟩ := decodeShared_agree hc.1 hA hs hs'
      rw [ih hc.2 hA' hd hd']

theorem decodeArgsAtExit_agree {params : List SyscallParam} {rawValues : List Nat}
    {s s' t t' : DecoderState} {args₀ args args' : List SyscallArg}
    (hc : Covered vals atEntry mib byname params rawValues)
    (hA : Agree vals atEntry mib byname s s')
    (h : decodeArgsAtExit process params rawValues args₀ s = .ok (args, t))
    (h' : decodeArgsAtExit process params rawValues args₀ s' = .ok (args', t')) :
    args = args' := by
  induction params generalizing rawValues s s' args₀ args args' mib byname with
  | nil => cases h; cases h'; rfl
  | cons param params ih =>
    rcases rawValues with _ | ⟨rawValue, rawValues⟩
    · cases h; cases h'; rfl
    · rcases args₀ with _ | ⟨arg, args₀⟩
      · cases h; cases h'; rfl
      · rw [decodeArgsAtExit] at h h'
        obtain ⟨⟨a, u⟩, hs, h⟩ := bind_eq_ok.mp h
        obtain ⟨⟨a', u'⟩, hs', h'⟩ := bind_eq_ok.mp h'
        obtain ⟨r, hd, h⟩ := bind_eq_ok.mp h
        obtain ⟨r', hd', h'⟩ := bind_eq_ok.mp h'
        cases h
        cases h'
        obtain ⟨rfl, hA'⟩ := decodeShared_agree hc.1 hA hs hs'
        rw [ih hc.2 hA' hd hd']

/-! ## Registered calls are covered -/

theorem SyscallParam.settled_of_not_usesCaches {param : SyscallParam}
    (h : param.usesCaches = false) : param.Settled atEntry mib byname rawValue := by
  cases param with
  | variant v => exact h
  | plain param => cases param <;> trivial

theorem covered_of_not_usesCaches {params : List SyscallParam} {rawValues : List Nat}
    (h : params.all (!·.usesCaches) = true) :
    Covered vals atEntry mib byname params rawValues := by
  induction params generalizing rawValues mib byname with
  | nil => trivial
  | cons param params ih =>
    cases rawValues with
    | nil => trivial
    | cons rawValue rawValues =>
      rw [List.all_cons, Bool.and_eq_true, Bool.not_eq_true'] at h
      exact ⟨SyscallParam.settled_of_not_usesCaches h.1, ih h.2⟩

/-- The three forms of the parameters of a registered definition. -/
theorem SyscallDef.looksUpOwnName_cases {d : SyscallDef} (h : d.looksUpOwnName = true) :
    d.params.all (!·.usesCaches) = true ∨
    (∃ params, d.params = .plain .sysctlBynameName :: .plain .sysctlBynameBuffer :: params ∧
      params.all (!·.usesCaches) = true) ∨
    ∃ param params, d.params = .plain .sysctlMib :: param :: .plain .sysctlBuffer :: params ∧
      d.name = "sysctl" ∧ d.variadicStart = none ∧ param.usesCaches = false ∧
      params.all (!·.usesCaches) = true := by
  unfold looksUpOwnName at h
  split at h
  · next param params hp =>
    simp only [Bool.and_eq_true, beq_iff_eq, Bool.not_eq_true', Option.isNone_iff_eq_none] at h
    obtain ⟨⟨⟨hname, hvariadic⟩, hparam⟩, hparams⟩ := h
    exact .inr (.inr ⟨param, params, hp, hname, hvariadic, hparam, hparams⟩)
  · next params hp => exact .inr (.inl ⟨params, hp, h⟩)
  · exact .inl h

/-- At the entry no buffer is looked up. -/
theorem covered_entry {d : SyscallDef} (h : d.looksUpOwnName = true) (rawValues : List Nat) :
    Covered vals true mib byname d.params rawValues := by
  rcases d.looksUpOwnName_cases h with h | ⟨params, hp, hparams⟩ |
    ⟨param, params, hp, -, -, hparam, hparams⟩
  · exact covered_of_not_usesCaches h
  · rw [hp]
    rcases rawValues with _ | ⟨v₀, _ | ⟨v₁, rawValues⟩⟩
    · trivial
    · exact ⟨trivial, trivial⟩
    · exact ⟨trivial, .inl rfl, covered_of_not_usesCaches hparams⟩
  · rw [hp]
    rcases rawValues with _ | ⟨v₀, _ | ⟨v₁, _ | ⟨v₂, rawValues⟩⟩⟩
    · trivial
    · exact ⟨trivial, trivial⟩
    · exact ⟨trivial, SyscallParam.settled_of_not_usesCaches hparam, trivial⟩
    · exact ⟨trivial, SyscallParam.settled_of_not_usesCaches hparam, .inl rfl,
        covered_of_not_usesCaches hparams⟩

/-- After the return the type of a buffer is looked up under a name that was cached just before,
unless a `sysctl` has a buffer and no name; then the caches have to have the same entry. -/
theorem covered_exit {d : SyscallDef} (h : d.looksUpOwnName = true) (rawValues : List Nat)
    (hstale : d.name = "sysctl" → d.variadicStart = none → rawValues[0]? = some 0 →
      (∃ v ∈ rawValues[2]?, v ≠ 0) → mib) :
    Covered rawValues false mib byname d.params rawValues := by
  rcases d.looksUpOwnName_cases h with h | ⟨params, hp, hparams⟩ |
    ⟨param, params, hp, hname, hvar, hparam, hparams⟩
  · exact covered_of_not_usesCaches h
  · rw [hp]
    rcases rawValues with _ | ⟨v₀, _ | ⟨v₁, rawValues⟩⟩
    · trivial
    · exact ⟨trivial, trivial⟩
    · exact ⟨trivial, .inr (.inr (.inr trivial)), covered_of_not_usesCaches hparams⟩
  · rw [hp]
    rcases rawValues with _ | ⟨v₀, _ | ⟨v₁, _ | ⟨v₂, rawValues⟩⟩⟩
    · trivial
    · exact ⟨trivial, trivial⟩
    · exact ⟨trivial, SyscallParam.settled_of_not_usesCaches hparam, trivial⟩
    · refine ⟨trivial, SyscallParam.settled_of_not_usesCaches hparam, ?_,
        covered_of_not_usesCaches hparams⟩
      by_cases h₂ : v₂ = 0
      · exact .inr (.inl h₂)
      · refine .inr (.inr (.inl ?_))
        by_cases h₀ : v₀ = 0
        · exact .inl (hstale hname hvar (by simp [h₀]) ⟨v₂, by simp, h₂⟩)
        · exact .inr ⟨h₀, by simp⟩

/-! ## The events of two tracers -/

/-- A successful `sysctl` with a buffer and without a name: the type of its buffer is looked up
among the names of earlier calls. -/
def SyscallEvent.ReadsStaleMib (event : SyscallEvent) (arch : Architecture) (frame : Frame) :
    Prop :=
  event.syscallName = "sysctl" ∧ event.rawArgs.vals[0]? = some 0 ∧
    (∃ v ∈ event.rawArgs.vals[2]?, v ≠ 0) ∧ ∃ v ∈ signedReturn arch frame, 0 ≤ v

/-- The raw value of a parameter of a call that is not variadic. -/
theorem readRawValues_getElem {arch : Architecture} {frame : Frame} {d : SyscallDef} {i v : Nat}
    (hvariadic : d.variadicStart = none)
    (h : (readRawValues arch frame process d)[i]? = some v) :
    v = readRawArgValue arch frame process i none := by
  unfold readRawValues at h
  rw [List.getElem?_map, Option.map_eq_some_iff] at h
  obtain ⟨j, hj, rfl⟩ := h
  obtain ⟨hlt, hj⟩ := List.getElem?_eq_some_iff.mp hj
  rw [List.getElem_range] at hj
  rw [hvariadic, ← hj]

namespace Tracer

variable {t t' : Tracer} {options options' : Options} {filter filter' : Filter}
variable {stop stop' : Stop} {frame frame' : Frame} {name : String} {d : SyscallDef}

/-- The raw values are read once, at the entry, into a new list. -/
theorem decodeEntry_rawArgs {args : List SyscallArg} {rawArgs : PyList} {decoder : DecoderState}
    (hs : t.Sound options filter) (hd : SyscallRegistry.init.lookupByName name = some d)
    (h : t.decodeEntry stop frame name = .ok (args, rawArgs, decoder)) :
    rawArgs = ⟨stop.listId, readRawValues options.arch frame stop.process d⟩ := by
  unfold decodeEntry extractArgs at h
  rw [hs.registry, hs.options_eq, hd] at h
  obtain ⟨r, -, hr⟩ := bind_eq_ok.mp h
  cases hr
  rfl

/-- At the entry of a call nothing is looked up in the caches. -/
theorem decodeEntry_congr {args args' : List SyscallArg} {rawArgs rawArgs' : PyList}
    {decoder decoder' : DecoderState} (hs : t.Sound options filter)
    (hs' : t'.Sound options' filter') (harch : options'.arch = options.arch)
    (habbrev : options'.noAbbrev = options.noAbbrev) (hprocess : stop'.process = stop.process)
    (hregisters : frame'.registers = frame.registers)
    (hd : SyscallRegistry.init.lookupByName name = some d)
    (h : t.decodeEntry stop frame name = .ok (args, rawArgs, decoder))
    (h' : t'.decodeEntry stop' frame' name = .ok (args', rawArgs', decoder')) :
    args' = args ∧ rawArgs'.vals = rawArgs.vals := by
  obtain ⟨-, category, hmem⟩ := SyscallRegistry.lookupByName_eq_some hd
  have hvals : readRawValues options'.arch frame' stop'.process d =
      readRawValues options.arch frame stop.process d := by
    unfold readRawValues readRawArgValue Architecture.readVariadicArg Frame.findRegister
    rw [harch, hprocess, hregisters]
  obtain ⟨shared, caches, hready⟩ := hs.ready
  obtain ⟨shared', caches', hready'⟩ := hs'.ready
  unfold decodeEntry extractArgs at h h'
  rw [hs.registry, hs.options_eq, hd, hready] at h
  rw [hs'.registry, hs'.options_eq, hd, hready'] at h'
  obtain ⟨r, hargs, hr⟩ := bind_eq_ok.mp h
  obtain ⟨r', hargs', hr'⟩ := bind_eq_ok.mp h'
  cases hr
  cases hr'
  simp only [Option.map_some, hvals] at hargs hargs'
  rw [hprocess, habbrev] at hargs'
  have hcovered : Covered (readRawValues options.arch frame stop.process d) true False False
      d.params (readRawValues options.arch frame stop.process d) :=
    covered_entry (registered_looksUpOwnName _ hmem) _
  have hagree := decodeArgs_agree hcovered
    ⟨_, _, _, _, _, _, _, _, rfl, rfl, fun h => h.elim, fun h => h.elim⟩ hargs hargs'
  exact ⟨hagree.symm, hvals⟩

/-- Output arguments are decoded only after a return value that is not negative. -/
theorem signedReturn_of_int {registry : SyscallRegistry} {arch : Architecture} {noAbbrev : Bool}
    {frame : Frame} {event : SyscallEvent}
    (h : (decodeReturnValue registry arch noAbbrev frame event).int?.any (0 ≤ ·) = true) :
    ∃ v ∈ signedReturn arch frame, 0 ≤ v := by
  unfold decodeReturnValue at h
  cases hs : signedReturn arch frame with
  | none => rw [hs] at h; cases h
  | some v =>
    refine ⟨v, rfl, ?_⟩
    by_contra hv
    have hfailed : (decodeReturnValue.failedReturn noAbbrev frame v).int?.any (0 ≤ ·) = false := by
      unfold decodeReturnValue.failedReturn
      split_ifs
      · cases readErrno frame <;> rfl
      · simpa [ReturnValue.int?] using hv
    rw [hs] at h
    simp only [if_neg hv] at h
    cases hd : (registry.lookupByName event.syscallName).bind SyscallDef.returnDecoder <;>
      rw [hd] at h <;> exact absurd (hfailed.symm.trans h) (by decide)

/-- The arguments of a completed event: decoded again after success, and kept otherwise. -/
theorem completeEvent_args {event event' : SyscallEvent} {state : DecoderState}
    {value : ReturnValue}
    (hvalue : decodeReturnValue t.registry t.options.arch t.options.noAbbrev frame event = value)
    (hready : t.decoder.Ready t.options.noAbbrev)
    (h : t.completeEvent stop frame event = .ok (event', state)) :
    event'.returnValue = value ∧
    (∀ d, t.registry.lookupByName event.syscallName = some d →
      value.int?.any (0 ≤ ·) = true → ∃ raw state',
        decodeArgsAtExit stop.process d.params event.rawArgs.vals event.args
          ⟨t.options.noAbbrev, some ⟨raw, event.rawArgs, false, some value⟩, t.decoder.caches⟩ =
            .ok (event'.args, state')) ∧
    (t.registry.lookupByName event.syscallName = none ∨ value.int?.any (0 ≤ ·) = false →
      event'.args = event.args) := by
  obtain ⟨shared, caches, hdecoder⟩ := hready
  unfold completeEvent at h
  simp only [hvalue] at h
  cases hany : value.int?.any (0 ≤ ·) with
  | false =>
    rw [if_neg (by rw [hany]; decide)] at h
    cases h
    exact ⟨rfl, fun _ _ h => (by cases h), fun _ => rfl⟩
  | true =>
    rw [if_pos hany, hdecoder] at h
    cases hd : t.registry.lookupByName event.syscallName with
    | none =>
      rw [hd] at h
      cases h
      exact ⟨rfl, fun _ h => (by cases h), fun _ => rfl⟩
    | some d =>
      rw [hd] at h
      obtain ⟨r, hr, h⟩ := bind_eq_ok.mp h
      cases h
      refine ⟨rfl, fun d' hd' _ => ⟨shared.rawValue, r.2, ?_⟩, fun h => by simp at h⟩
      cases hd'
      rw [hdecoder]
      exact hr

/-- An event is completed alike in two tracers, unless it looks up a type under the name of an
earlier `sysctl`. -/
theorem completeEvent_congr {event event' e e' : SyscallEvent} {state state' : DecoderState}
    (hs : t.Sound options filter) (hs' : t'.Sound options' filter')
    (harch : options'.arch = options.arch) (habbrev : options'.noAbbrev = options.noAbbrev)
    (hprocess : stop'.process = stop.process)
    (hregister : frame'.findRegister options.arch.returnRegister =
      frame.findRegister options.arch.returnRegister)
    (herrno : frame'.errno = frame.errno) (hname : event'.syscallName = event.syscallName)
    (hvals : event'.rawArgs.vals = event.rawArgs.vals) (hargs : event'.args = event.args)
    (hstale : ∀ d, SyscallRegistry.init.lookupByName event.syscallName = some d →
      d.variadicStart = none → event.ReadsStaleMib options.arch frame →
      t.decoder.caches.mib.lookup event.rawArgs.id =
        t'.decoder.caches.mib.lookup event'.rawArgs.id)
    (h : t.completeEvent stop frame event = .ok (e, state))
    (h' : t'.completeEvent stop' frame' event' = .ok (e', state')) :
    e'.args = e.args ∧ e'.returnValue = e.returnValue := by
  have hvalue :
      decodeReturnValue SyscallRegistry.init options'.arch options'.noAbbrev frame' event' =
      decodeReturnValue SyscallRegistry.init options.arch options.noAbbrev frame event := by
    unfold decodeReturnValue decodeReturnValue.failedReturn signedReturn readErrno
    rw [harch, habbrev, hregister, herrno, hname, hvals]
  obtain ⟨hret, hexit, hkeep⟩ := completeEvent_args rfl hs.decoder h
  obtain ⟨hret', hexit', hkeep'⟩ := completeEvent_args rfl hs'.decoder h'
  rw [hs.registry, hs.options_eq] at hret hexit hkeep
  rw [hs'.registry, hs'.options_eq, hvalue] at hret' hexit' hkeep'
  rw [hname] at hexit' hkeep'
  refine ⟨?_, hret'.trans hret.symm⟩
  cases hd : SyscallRegistry.init.lookupByName event.syscallName with
  | none => rw [hkeep' (.inl hd), hkeep (.inl hd), hargs]
  | some d =>
    cases hany : (decodeReturnValue SyscallRegistry.init options.arch options.noAbbrev frame
        event).int?.any (0 ≤ ·) with
    | false => rw [hkeep' (.inr hany), hkeep (.inr hany), hargs]
    | true =>
      obtain ⟨hdname, category, hmem⟩ := SyscallRegistry.lookupByName_eq_some hd
      obtain ⟨raw, st, hdec⟩ := hexit d hd hany
      obtain ⟨raw', st', hdec'⟩ := hexit' d hd hany
      have hcovered : Covered event.rawArgs.vals false
          (t.decoder.caches.mib.lookup event.rawArgs.id =
            t'.decoder.caches.mib.lookup event'.rawArgs.id) False d.params event.rawArgs.vals :=
        covered_exit (registered_looksUpOwnName _ hmem) _ fun hsysctl hvariadic h₀ h₂ =>
          hstale d hd hvariadic ⟨hdname.symm.trans hsysctl, h₀, h₂, signedReturn_of_int hany⟩
      rw [hvals, hargs, hprocess, habbrev] at hdec'
      exact (decodeArgsAtExit_agree hcovered
        ⟨_, _, _, event.rawArgs.id, event'.rawArgs.id, _, _, _, rfl, by rw [← hvals],
          fun h => h, fun h => h.elim⟩ hdec hdec').symm

end Tracer

/-! ## One call in two runs -/

namespace Tracer

/-- Handling the stop neither pops nor assigns the key. -/
structure Spares (key : PendingKey) (t : Tracer) (stop : Stop) : Prop where
  returned : ∀ tid frame event, t.IsReturn stop tid frame event → (tid, frame.pc) ≠ key
  recorded : ∀ tid frame name address, t.IsEntry stop tid frame name →
    t.returnAddress stop frame = some address → (tid, address) ≠ key

theorem Spares.lookup_eq {key : PendingKey} {t t' : Tracer} {stop : Stop} (hs : t.Spares key stop)
    (h : t.handleStop stop = .ok t') :
    t'.pendingSyscalls.lookup key = t.pendingSyscalls.lookup key := by
  cases handleStop_handles h with
  | ignored => rfl
  | returned hr =>
    have hne := hs.returned _ _ _ hr
    rw [settle, writeEvent, AList.lookup_erase_ne hne.symm]
  | reported => rfl
  | recorded he hd hra =>
    have hne := hs.recorded _ _ _ _ he hra
    rw [record, AList.lookup_insert_ne hne.symm]

/-- A stop of another thread spares the key. -/
theorem spares_of_thread_ne {key : PendingKey} {t : Tracer} {stop : Stop}
    (h : stop.threadId ≠ some key.1) : t.Spares key stop where
  returned tid frame event hr hkey := h (by rw [hr.thread, ← hkey])
  recorded tid frame name address he _ hkey := h (by rw [he.thread, ← hkey])

theorem run_lookup_of_spares {key : PendingKey} {t t' : Tracer} {stops : List Stop}
    (hs : Run.Along handleStop (Spares key) t stops) (h : t.run stops = .ok t') :
    t'.pendingSyscalls.lookup key = t.pendingSyscalls.lookup key :=
  Run.invariant_along
    (I := fun s => s.pendingSyscalls.lookup key = t.pendingSyscalls.lookup key)
    (fun _ _ _ hi hs h => (hs.lookup_eq h).trans hi) rfl hs h

/-- A call in a run from the start: it is entered at the stop `entry`, its key is not used at the
stops in `mid`, and it returns at the stop `ret`. -/
structure CallScript where
  options : Options
  filter : Filter
  pre : List Stop
  entry : Stop
  mid : List Stop
  ret : Stop
  tid : Nat
  frame : Frame
  retFrame : Frame
  name : String

/-- A call that is recorded at its entry and written at its return. -/
structure CompletedCall extends CallScript where
  before : Tracer
  entered : Tracer
  waiting : Tracer
  finished : Tracer
  event : SyscallEvent
  run_pre : (init options filter).run pre = .ok before
  isEntry : before.IsEntry entry tid frame name
  returnAddress : before.returnAddress entry frame = some retFrame.pc
  handle_entry : before.handleStop entry = .ok entered
  run_mid : entered.run mid = .ok waiting
  spares : Run.Along handleStop (Spares (tid, retFrame.pc)) entered mid
  ret_thread : ret.threadId = some tid
  ret_frame : ret.frame = some retFrame
  handle_ret : waiting.handleStop ret = .ok finished
  written : finished.written = waiting.written ++ [event]

namespace CompletedCall

/-- What two runs have to agree on: the registers and the memory at the entry of the call, the
return register, `errno` and the memory at its return, and the mode. -/
structure SameCall (c c' : CompletedCall) : Prop where
  arch : c'.options.arch = c.options.arch
  noAbbrev : c'.options.noAbbrev = c.options.noAbbrev
  name : c'.name = c.name
  registers : c'.frame.registers = c.frame.registers
  entryMemory : c'.entry.process = c.entry.process
  returnRegister : c'.retFrame.findRegister c.options.arch.returnRegister =
    c.retFrame.findRegister c.options.arch.returnRegister
  errno : c'.retFrame.errno = c.retFrame.errno
  returnMemory : c'.ret.process = c.ret.process

/-- The raw value of an argument that is not variadic. -/
def rawArg (c : CompletedCall) (i : Nat) : Nat :=
  readRawArgValue c.options.arch c.frame c.entry.process i none

/-- A successful `sysctl` with a buffer and without a name: the type of its buffer is looked up
among the names of earlier calls. -/
def ReadsStaleMib (c : CompletedCall) : Prop :=
  c.name = "sysctl" ∧ c.rawArg 0 = 0 ∧ c.rawArg 2 ≠ 0 ∧
    ∃ v ∈ signedReturn c.options.arch c.retFrame, 0 ≤ v

/-- The name that an earlier call has left in the cache under the identity of the call's list. -/
def staleMib (c : CompletedCall) : Option (List Int) :=
  c.waiting.decoder.caches.mib.lookup c.entry.listId

variable {c c' : CompletedCall}

theorem run_waiting (c : CompletedCall) :
    (init c.options c.filter).run (c.pre ++ c.entry :: c.mid) = .ok c.waiting :=
  Run.append_ok.mpr ⟨c.before, c.run_pre, Run.cons_ok.mpr ⟨c.entered, c.handle_entry, c.run_mid⟩⟩

/-- The event that waits for the return of the call, and how it is completed. -/
theorem completed (c : CompletedCall) : ∃ event decoder decoder',
    event.syscallName = c.name ∧
    c.before.decodeEntry c.entry c.frame c.name = .ok (event.args, event.rawArgs, decoder) ∧
    c.waiting.completeEvent c.ret c.retFrame event = .ok (c.event, decoder') := by
  obtain ⟨args, rawArgs, decoder, hdec, hentered⟩ := c.isEntry.handled c.handle_entry
  set event := c.before.entryEvent c.entry c.name args rawArgs with hevent
  have hpend : c.waiting.pendingSyscalls.lookup (c.tid, c.retFrame.pc) = some event := by
    rw [run_lookup_of_spares c.spares c.run_mid, hentered, enter, c.returnAddress]
    exact AList.lookup_insert _
  have hr : c.waiting.IsReturn c.ret c.tid c.retFrame event := ⟨c.ret_thread, c.ret_frame, hpend⟩
  obtain ⟨event', decoder', hcomplete, hfinished⟩ := hr.handled c.handle_ret
  have hwritten := c.written
  rw [hfinished] at hwritten
  obtain rfl : event' = c.event := by
    simpa using List.append_cancel_left (show c.waiting.written ++ [event'] = _ from hwritten)
  exact ⟨event, decoder, decoder', rfl, hdec, hcomplete⟩

/-- **Isolation.** A call that two runs enter and return from alike is written with the same
arguments and return value in both, whatever else happens in them, unless it looks up a type under
the name of an earlier `sysctl` and the runs have different names there. -/
theorem isolated (h : c.SameCall c') (hstale : c.ReadsStaleMib → c.staleMib = c'.staleMib) :
    c'.event.args = c.event.args ∧ c'.event.returnValue = c.event.returnValue := by
  have hs := run_sound c.run_pre
  obtain ⟨d, hd⟩ := entryName_lookup c.isEntry.name_eq
  rw [hs.registry] at hd
  obtain ⟨event, decoder, state, hname, hdec, hcomplete⟩ := c.completed
  obtain ⟨event', decoder', state', hname', hdec', hcomplete'⟩ := c'.completed
  rw [h.name] at hname' hdec'
  obtain ⟨hargs, hvals⟩ := decodeEntry_congr hs (run_sound c'.run_pre) h.arch h.noAbbrev
    h.entryMemory h.registers hd hdec hdec'
  have hraw := decodeEntry_rawArgs hs hd hdec
  have hraw' := decodeEntry_rawArgs (run_sound c'.run_pre) hd hdec'
  refine completeEvent_congr (run_sound c.run_waiting) (run_sound c'.run_waiting) h.arch h.noAbbrev
    h.returnMemory h.returnRegister h.errno (by rw [hname, hname']) hvals hargs
    (fun d' hd' hvariadic hreads => ?_) hcomplete hcomplete'
  rw [hname] at hd'
  cases hd.symm.trans hd'
  obtain ⟨hsysctl, h₀, ⟨v, h₂, hv⟩, hsuccess⟩ := hreads
  rw [hraw] at h₀ h₂ ⊢
  rw [hraw']
  refine hstale ⟨by rw [← hname, hsysctl], ?_, ?_, hsuccess⟩
  · exact (readRawValues_getElem hvariadic h₀).symm
  · rw [rawArg, ← readRawValues_getElem hvariadic h₂]
    exact hv

end CompletedCall

/-! ## Calls in concrete runs -/

/-- The identities of the lists of raw values that are alive between two stops. -/
def liveLists (t : Tracer) : List Nat :=
  (t.decoder.ctx.map fun shared => shared.allArgs.id).toList ++
    t.pendingSyscalls.entries.map fun e => e.2.rawArgs.id

/-- No list is given the identity of another one that is alive. -/
def CallScript.FreshIds (s : CallScript) : Prop :=
  Run.Along handleStop (fun t stop => stop.listId ∉ t.liveLists) (init s.options s.filter)
    (s.pre ++ s.entry :: (s.mid ++ [s.ret]))

/-- The event that is written for the call, if it is recorded and written. -/
def CallScript.observe (s : CallScript) : Option SyscallEvent :=
  ((init s.options s.filter).run s.pre).toOption.bind fun before =>
  (before.handleStop s.entry).toOption.bind fun entered =>
  (entered.run s.mid).toOption.bind fun waiting =>
  (waiting.handleStop s.ret).toOption.bind fun finished =>
  if before.pendingSyscalls.lookup (s.tid, s.frame.pc) = none ∧
      before.entryName s.tid s.frame.functionName = some s.name ∧
      before.returnAddress s.entry s.frame = some s.retFrame.pc then
    finished.written[waiting.written.length]?
  else none

theorem Handles.written_of_getElem? {t t' : Tracer} {stop : Stop} {event : SyscallEvent}
    (h : t.Handles stop t') (hevent : t'.written[t.written.length]? = some event) :
    t'.written = t.written ++ [event] := by
  cases h with
  | ignored => simp at hevent
  | returned => simpa [settle, writeEvent] using hevent
  | reported => simpa [report, writeEvent] using hevent
  | recorded => simp [record] at hevent

theorem CallScript.completed_of_observe {s : CallScript} {args : List SyscallArg}
    (h : s.observe.map SyscallEvent.args = some args)
    (hentry : s.entry.threadId = some s.tid ∧ s.entry.frame = some s.frame)
    (hret : s.ret.threadId = some s.tid ∧ s.ret.frame = some s.retFrame)
    (hspares : ∀ stop ∈ s.mid, stop.threadId ≠ some s.tid) :
    ∃ c : CompletedCall, c.toCallScript = s ∧ c.event.args = args := by
  obtain ⟨event, hevent, hargs⟩ := Option.map_eq_some_iff.mp h
  unfold observe at hevent
  simp only [Option.bind_eq_some_iff, toOption_eq_some] at hevent
  obtain ⟨before, hbefore, entered, hentered, waiting, hwaiting, finished, hfinished, hevent⟩ :=
    hevent
  split_ifs at hevent with hchecks
  obtain ⟨hlookup, hname, haddress⟩ := hchecks
  exact ⟨
    { toCallScript := s
      before := before
      entered := entered
      waiting := waiting
      finished := finished
      event := event
      run_pre := hbefore
      isEntry := ⟨hentry.1, hentry.2, hlookup, hname⟩
      returnAddress := haddress
      handle_entry := hentered
      run_mid := hwaiting
      spares := Run.along_of_forall (fun _ stop hmem => spares_of_thread_ne (hspares stop hmem)) _
      ret_thread := hret.1
      ret_frame := hret.2
      handle_ret := hfinished
      written := (handleStop_handles hfinished).written_of_getElem? hevent }, rfl, hargs⟩

/-- The call of `name` by thread 1 that returns 0. -/
def sampleCall (name : String) (memory : Memory) (registers : List (String × BitVec 64))
    (pre mid : List Stop) : CallScript where
  options := sampleOptions
  filter := .all
  pre := pre
  entry := { sampleStop 1 0x100 name registers with process := ⟨memory, .little⟩ }
  mid := mid
  ret :=
    { sampleStop 1 0x500 "main" [("x0", 0)] with process := ⟨memory, .little⟩, listId := 3 }
  tid := 1
  frame := sampleFrame 0x100 name registers
  retFrame := sampleFrame 0x500 "main" [("x0", 0)]
  name := name

/-- Memory with the name `{CTL_KERN, KERN_MAXPROC}` at 0x1000 and the number 42 at 0x2000. -/
def mibMemory : Memory := Memory.ofBytes fun a =>
  if a = 0x1000 then some 1
  else if a = 0x1004 then some 6
  else if a = 0x2000 then some 42
  else if (0x1000 ≤ a ∧ a < 0x1008) ∨ (0x2000 ≤ a ∧ a < 0x2004) then some 0
  else none

/-- A `sysctl` with a name, and a `close`; then the identity of the list of the former is free. -/
def namedSysctl : List Stop :=
  let call := sampleCall "sysctl" mibMemory [("lr", 0x500), ("x0", 0x1000), ("x1", 2)] [] []
  [call.entry, call.ret,
    { sampleStop 1 0x200 "close" [("lr", 0x600), ("x0", 3)] with listId := 2 },
    { sampleStop 1 0x600 "main" [("x0", 0)] with listId := 3 }]

def otherClose : Stop := sampleStop 2 0x100 "close" [("lr", 0x600), ("x0", 5)]

/-- A `sysctl` with a name and a buffer, which other calls may precede and interrupt. -/
def maxprocSysctl (pre mid : List Stop) : CallScript :=
  sampleCall "sysctl" mibMemory [("lr", 0x500), ("x0", 0x1000), ("x1", 2), ("x2", 0x2000)] pre mid

/-- The call is decoded alike after another `sysctl` whose list had the same identity, and while
another thread is inside `close`. -/
theorem isolated_sysctl : ∃ c c' : CompletedCall, c.pre = [] ∧ c'.pre = namedSysctl ∧
    c'.mid = [otherClose] ∧ c.event.args[2]? = some (.int 42 none) ∧
    c'.event.args = c.event.args ∧ c'.event.returnValue = c.event.returnValue := by
  have hargs : (maxprocSysctl [] []).observe.map SyscallEvent.args =
        some [.string "[CTL_KERN, KERN_MAXPROC]", .unsigned 2, .int 42 none, .pointer 0,
          .pointer 0, .unsigned 0] ∧
      (maxprocSysctl namedSysctl [otherClose]).observe.map SyscallEvent.args =
        some [.string "[CTL_KERN, KERN_MAXPROC]", .unsigned 2, .int 42 none, .pointer 0,
          .pointer 0, .unsigned 0] := by
    simp only [CallScript.observe, init_eq_initByNumber]
    decide +kernel
  obtain ⟨c, hc, hevent⟩ := CallScript.completed_of_observe hargs.1 ⟨rfl, rfl⟩ ⟨rfl, rfl⟩
    (by rintro stop ⟨⟩)
  obtain ⟨c', hc', -⟩ := CallScript.completed_of_observe hargs.2 ⟨rfl, rfl⟩ ⟨rfl, rfl⟩
    (by rintro stop (_ | ⟨_, ⟨⟩⟩); decide)
  have hnot : ¬ c.ReadsStaleMib := fun hstale => by
    have hname := hstale.2.1
    rw [CompletedCall.rawArg, hc] at hname
    exact absurd hname (by decide)
  have hsame : c.SameCall c' := by constructor <;> rw [hc, hc'] <;> rfl
  obtain ⟨hargs, hvalue⟩ := CompletedCall.isolated hsame fun hstale => absurd hstale hnot
  exact ⟨c, c', by rw [hc]; rfl, by rw [hc']; rfl, by rw [hc']; rfl, by rw [hevent]; rfl, hargs,
    hvalue⟩

/-- The `sysctl` without a name that another one may precede. -/
def staleSysctl (pre : List Stop) : CallScript :=
  sampleCall "sysctl" mibMemory [("lr", 0x500), ("x0", 0), ("x1", 2), ("x2", 0x2000)] pre []

theorem staleSysctl_events :
    ((staleSysctl []).FreshIds ∧ (staleSysctl namedSysctl).FreshIds) ∧
    (staleSysctl []).observe.map SyscallEvent.args =
      some [.pointer 0, .unsigned 2, .pointer 0x2000, .pointer 0, .pointer 0, .unsigned 0] ∧
    (staleSysctl namedSysctl).observe.map SyscallEvent.args =
      some [.pointer 0, .unsigned 2, .int 42 none, .pointer 0, .pointer 0, .unsigned 0] := by
  simp only [CallScript.FreshIds, CallScript.observe, init_eq_initByNumber]
  decide

/-- A `sysctl` without a name shows its buffer in the type of an earlier name. -/
theorem sysctl_reads_stale_mib : ¬ ∀ c c' : CompletedCall, c.SameCall c' →
    c.FreshIds → c'.FreshIds →
    c'.event.args = c.event.args ∧ c'.event.returnValue = c.event.returnValue := by
  intro h
  obtain ⟨⟨hfresh, hfresh'⟩, hargs, hargs'⟩ := staleSysctl_events
  obtain ⟨c, hc, hevent⟩ := CallScript.completed_of_observe hargs ⟨rfl, rfl⟩ ⟨rfl, rfl⟩
    (by rintro stop ⟨⟩)
  obtain ⟨c', hc', hevent'⟩ := CallScript.completed_of_observe hargs' ⟨rfl, rfl⟩ ⟨rfl, rfl⟩
    (by rintro stop ⟨⟩)
  obtain ⟨hsame, -⟩ := h c c' (by constructor <;> rw [hc, hc'] <;> rfl)
    (by rw [hc]; exact hfresh) (by rw [hc']; exact hfresh')
  rw [hevent, hevent'] at hsame
  exact absurd hsame (by decide)

end Tracer

end StraceMacos
