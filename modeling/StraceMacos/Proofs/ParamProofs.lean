import StraceMacos.Proofs.CleanProofs
import StraceMacos.Syscalls.Registry

/-!
# What registered parameters add to an argument

The remaining decoders, and with them every parameter of a registered definition, put nothing
unprintable into an argument but texts of the traced process.
-/

namespace StraceMacos

open CStruct Fallible
open Text (Printable)

variable {ctx : DecodeContext} {arg : SyscallArg}

/-! ## Lists of structures -/

theorem structArrayOr_clean {rawValue : Nat} {items : Option (List ItemFields)}
    (h : ∀ ds ∈ items, ∀ d ∈ ds, PrintableItem d) : (structArrayOr rawValue items).Clean := by
  rcases items with _ | _ | ⟨d, ds⟩
  · trivial
  · trivial
  · intro item hitem
    obtain ⟨d', hd', rfl⟩ := List.mem_map.mp hitem
    exact h (d :: ds) rfl d' hd'

/-- Names from a table, or the number in hexadecimal digits. -/
theorem printable_namesOrHex {table : SymbolTable} (h : table.Printable) (value : Int) :
    Printable (if value = 0 then "0" else joinOr (table.names value) (hexFormat value)) := by
  split_ifs
  · decide
  · exact printable_joinOr (h.names value) (printable_hexFormat value)

theorem printable_decodeKeventFilter (value : Int) : Printable (decodeKeventFilter value) := by
  have htable : evfiltConstants.Printable := by decide
  exact htable.get value (Text.printable_toString_int value)

theorem printable_decodeKeventFlags (value : Int) : Printable (decodeKeventFlags value) := by
  have htable : evFlags.Printable := by decide
  exact printable_namesOrHex htable.sorted value

theorem keventFlagMap_printable {filterValue : Int} {table : SymbolTable}
    (h : keventFlagMap filterValue = some table) : table.Printable := by
  unfold keventFlagMap at h
  split_ifs at h <;> cases h <;> decide

theorem printable_decodeKeventFflags (value filterValue : Int) :
    Printable (decodeKeventFflags value filterValue) := by
  have hnumber := Text.printable_toString_int value
  unfold decodeKeventFflags
  by_cases hv : value = 0
  · rw [if_pos hv]
    decide
  · rw [if_neg hv]
    cases hmap : keventFlagMap filterValue with
    | none => exact hnumber
    | some flagMap =>
      have hnames := (keventFlagMap_printable hmap).sorted.names value
      simp only
      split_ifs
      · exact (Text.printable_join (by decide)).mpr hnames
      · exact hnumber

theorem printableItem_kevent (direction : ParamDirection) (kev : List (Field × CVal)) :
    PrintableItem (keventEntry direction kev) := by
  have hnames : ∀ name ∈ ["ident", "filter", "flags", "fflags", "data"], Printable name := by
    decide
  simp only [List.forall_mem_cons] at hnames
  obtain ⟨hident, hfilter, hflags, hfflags, hdata, -⟩ := hnames
  unfold keventEntry
  simp only
  split_ifs <;>
    simp [PrintableItem, Scalar.Printable, hident, hfilter, hflags, hfflags, hdata,
      printable_decodeKeventFilter, printable_decodeKeventFlags, printable_decodeKeventFflags]

theorem decodeKeventParam_clean {fields : List Field} {countArgIndex : Nat}
    {direction : ParamDirection}
    (h : decodeKeventParam fields countArgIndex direction ctx = .ok (some arg)) : arg.Clean := by
  refine directed_clean h fun hbody => ?_
  cases hcount : ctx.allArgs.vals[countArgIndex]? with
  | none =>
    rw [hcount] at hbody
    cases hbody
    trivial
  | some requested =>
    rw [hcount] at hbody
    simp only at hbody
    split_ifs at hbody
    · cases hbody
      trivial
    · cases hbody
      refine structArrayOr_clean fun ds hds => ?_
      unfold decodeKeventArray at hds
      split_ifs at hds
      obtain ⟨data, -, rfl⟩ := Option.map_eq_some_iff.mp hds
      exact List.forall_mem_map.mpr fun kev _ => printableItem_kevent direction kev

theorem printableItem_pollfd (pfd : List (Field × CVal)) :
    PrintableItem [("fd", .int (getInt pfd "fd")),
      ("events", .str (decodePollEvents (getInt pfd "events")))] := by
  have hfd : Printable "fd" := by decide
  have hevents : Printable "events" := by decide
  have htable : pollEvents.Printable := by decide
  have htext : Printable (decodePollEvents (getInt pfd "events")) :=
    printable_namesOrHex htable.sorted _
  simpa [PrintableItem, Scalar.Printable, hfd, hevents] using htext

theorem decodePollfdParam_clean {countArgIndex : Nat}
    (h : decodePollfdParam countArgIndex ctx = some arg) : arg.Clean := by
  unfold decodePollfdParam at h
  cases hcount : ctx.allArgs.vals[countArgIndex]? with
  | none =>
    rw [hcount] at h
    split_ifs at h <;> cases h <;> trivial
  | some count =>
    rw [hcount] at h
    simp only at h
    split_ifs at h
    · cases h
      trivial
    · cases h
      trivial
    · cases h
      refine structArrayOr_clean fun ds hds => ?_
      unfold decodePollfdArray at hds
      split_ifs at hds
      obtain ⟨data, -, rfl⟩ := Option.map_eq_some_iff.mp hds
      exact List.forall_mem_map.mpr fun pfd _ => printableItem_pollfd pfd

theorem decodeIovecParam_clean {countArgIndex : Nat} {direction : ParamDirection}
    (h : decodeIovecParam countArgIndex direction ctx = .ok (some arg)) : arg.Clean := by
  refine directed_clean h fun hbody => ?_
  cases hcount : ctx.allArgs.vals[countArgIndex]? with
  | none =>
    rw [hcount] at hbody
    cases hbody
    trivial
  | some count =>
    rw [hcount] at hbody
    simp only at hbody
    split_ifs at hbody
    · cases hbody
      trivial
    · obtain ⟨iovList, hiov, hres⟩ := bind_eq_ok.mp hbody
      cases hres
      refine structArrayOr_clean fun ds hds => ?_
      rw [Option.mem_def.mp hds] at hiov
      exact decodeIovecArray_printable hiov

/-- A part that is shown under a condition. -/
theorem printable_optional (c : Prop) [Decidable c] {text : String} (h : Printable text) :
    ∀ s ∈ (if c then [text] else []), Printable s := by
  split_ifs <;> simp [h]

theorem printable_readAiocb {process : Process} {address : Nat} {text : String}
    (h : readAiocb process address = some text) : Printable text := by
  have hopcodes : lioOpcodes.Printable := by decide
  have hnumber (label : String) (hlabel : Printable label) (n : Int) :
      Printable (label ++ toString n) :=
    Text.printable_append.mpr ⟨hlabel, Text.printable_toString_int n⟩
  have hopcode (n : Int) : Printable ("op=" ++ lioOpcodes.get n (toString n)) :=
    Text.printable_append.mpr ⟨by decide, hopcodes.get n (Text.printable_toString_int n)⟩
  obtain ⟨aiocb, -, rfl⟩ := Option.map_eq_some_iff.mp h
  refine (Text.printable_enclosed (by decide) (by decide) (by decide)).mpr ?_
  simp only [List.forall_mem_append, List.forall_mem_singleton]
  exact ⟨⟨⟨hnumber _ (by decide) _, printable_optional _ (hnumber _ (by decide) _)⟩,
    printable_optional _ (hnumber _ (by decide) _)⟩, printable_optional _ (hopcode _)⟩

theorem printable_summarizeAiocb (process : Process) (aiocbPtr : Nat) :
    Printable (summarizeAiocb process aiocbPtr) := by
  unfold summarizeAiocb
  split_ifs
  · decide
  · cases hread : readAiocb process aiocbPtr with
    | none => exact (by decide : Printable "?")
    | some text => exact printable_readAiocb hread

theorem decodeAiocbArrayParam_clean {countArgIndex : Nat} {direction : ParamDirection}
    (h : decodeAiocbArrayParam countArgIndex direction ctx = some arg) : arg.Clean := by
  unfold decodeAiocbArrayParam at h
  split_ifs at h
  cases hcount : ctx.allArgs.vals[countArgIndex]? with
  | none =>
    rw [hcount] at h
    cases h
  | some count =>
    rw [hcount] at h
    simp only at h
    split_ifs at h
    cases harray : decodeAiocbArray ctx.process ctx.rawValue count with
    | none =>
      rw [harray] at h
      cases h
    | some texts =>
      have htexts : ∀ s ∈ texts, Printable s := by
        unfold decodeAiocbArray at harray
        split_ifs at harray
        obtain ⟨data, -, rfl⟩ := Option.map_eq_some_iff.mp harray
        exact List.forall_mem_map.mpr fun i _ => printable_summarizeAiocb _ _
      rw [harray] at h
      rcases texts with _ | ⟨s, ss⟩
      · cases h
      · cases h
        exact List.forall_mem_map.mpr htexts

/-! ## Other arguments -/

theorem decodeUidGid_clean (ctx : DecodeContext) : (decodeUidGid ctx).Clean := by
  unfold decodeUidGid
  split_ifs <;> simp [SyscallArg.Clean]

theorem decodeSigsetParam_clean {direction : ParamDirection}
    (h : decodeSigsetParam direction ctx = .ok (some arg)) : arg.Clean := by
  refine directed_clean h fun hbody => ?_
  split at hbody <;> cases hbody <;> trivial

theorem decodeIntPtrParam_clean {direction : ParamDirection}
    (h : decodeIntPtrParam direction ctx = .ok (some arg)) : arg.Clean := by
  refine directed_clean h fun hbody => ?_
  split at hbody <;> cases hbody <;> trivial

theorem decodeIntArrayParam_clean {count : Nat ⊕ Nat} {direction : ParamDirection}
    {elementSize : Nat} (h : decodeIntArrayParam count direction elementSize ctx = .ok (some arg)) :
    arg.Clean := by
  refine directed_clean h fun hbody => ?_
  split at hbody
  · cases hbody
    trivial
  · split_ifs at hbody
    · cases hbody
      trivial
    · split at hbody <;> cases hbody <;> trivial

theorem decodeBuffer_clean {sizeArgIndex : Nat} {direction : ParamDirection}
    (h : decodeBuffer sizeArgIndex direction ctx = .ok (some arg)) : arg.Clean := by
  refine directed_clean h fun hbody => ?_
  split at hbody
  · cases hbody
    trivial
  · simp only at hbody
    generalize (if ctx.noAbbrev = true then _ else _) = actualSize at hbody
    split_ifs at hbody
    · cases hbody
      trivial
    · split at hbody <;> cases hbody <;> trivial

theorem decodeFdSetParam_clean (h : decodeFdSetParam ctx = some arg) : arg.Clean := by
  unfold decodeFdSetParam at h
  split_ifs at h
  · cases h
    trivial
  · split at h
    · cases h
      trivial
    · simp only at h
      split_ifs at h <;> cases h <;> trivial

theorem decodeSysctlMibParam_clean (caches : SysctlCaches) :
    (decodeSysctlMibParam ctx caches).1.Clean := by
  unfold decodeSysctlMibParam
  split_ifs
  · trivial
  · split <;> trivial

theorem decodeSysctlBuffer_clean (sysctlType : Option SysctlType) :
    (decodeSysctlBuffer sysctlType ctx).Clean := by
  unfold decodeSysctlBuffer
  split_ifs
  · trivial
  · rcases sysctlType with _ | sysctlType
    · trivial
    · cases sysctlType with
      | string =>
        simp only [decodeByType]
        split_ifs <;> trivial
      | int | int64 =>
        simp only [decodeByType]
        split <;> simp [SyscallArg.Clean]

theorem decodeUuidParam_clean (ctx : DecodeContext) : (decodeUuidParam ctx).Clean := by
  unfold decodeUuidParam
  split_ifs
  · trivial
  · trivial
  · unfold decodeUuid
    split_ifs
    refine show Printable _ from ?_
    split
    · decide
    · refine Text.printable_toUpper ((Text.printable_join (by decide)).mpr ?_)
      simp [Bytes.printable_hex]

theorem decodeSysinfoTimespec_clean (ctx : DecodeContext) :
    (decodeSysinfoTimespec ctx).Clean := by
  unfold decodeSysinfoTimespec
  split_ifs
  · trivial
  · split
    · trivial
    · exact cleanFields_cons (cleanFields_int (by decide) _) (cleanFields_int (by decide) _)

theorem decodeSysctlSizePointer_clean (ctx : DecodeContext) :
    (decodeSysctlSizePointer ctx).Clean := by
  unfold decodeSysctlSizePointer
  split_ifs
  · trivial
  · split <;> trivial

/-! ## Parameters -/

/-- What the definition of the parameter brings along is printable: the names of its table, the
texts of its function, the fields of its structure. -/
def Param.Clean : Param → Prop
  | .flags flagMap => flagMap.Printable
  | .const constMap => constMap.Printable
  | .custom decodeFunc => ∀ v, Printable (decodeFunc v)
  | .struct spec _ => spec.Clean
  | _ => True

/-- **Decoders add nothing unprintable**: only the texts of the process may be. -/
theorem Param.Clean.decodePure {param : Param} (h : param.Clean) {caches : SysctlCaches}
    (harg : param.decodePure ctx caches = .ok (some arg)) : arg.Clean := by
  cases param with
  | struct spec direction =>
    exact decodeStructParam_clean (fun _ _ _ _ => StructSpec.Clean.decodeStruct h) harg
  | termios direction => exact decodeStructParam_clean (fun _ _ _ _ => decodeTermios_clean) harg
  | sockaddr direction => exact decodeStructParam_clean (fun _ _ _ _ => decodeSockaddr_clean) harg
  | msghdr direction => exact decodeStructParam_clean (fun _ _ _ _ => decodeMsghdr_clean) harg
  | sigset direction => exact decodeSigsetParam_clean harg
  | intPtr direction => exact decodeIntPtrParam_clean harg
  | intArray count direction elementSize => exact decodeIntArrayParam_clean harg
  | buffer sizeArgIndex direction => exact decodeBuffer_clean harg
  | iovec countArgIndex direction => exact decodeIovecParam_clean harg
  | aiocbArray countArgIndex direction => exact decodeAiocbArrayParam_clean (Except.ok.inj harg)
  | kevent countArgIndex direction => exact decodeKeventParam_clean harg
  | kevent64 countArgIndex direction => exact decodeKeventParam_clean harg
  | pollfd countArgIndex => exact decodePollfdParam_clean (Except.ok.inj harg)
  | fdSet => exact decodeFdSetParam_clean (Except.ok.inj harg)
  | unsigned | string | pointer | fileDescriptor | sysctlBynameName =>
    cases harg
    trivial
  | int =>
    cases harg
    simp [SyscallArg.Clean, decodeInt]
  | arrayOfStrings maxStrings =>
    cases harg
    unfold decodeArrayOfStrings
    split_ifs <;> trivial
  | uidGid =>
    cases harg
    exact decodeUidGid_clean ctx
  | dirFd =>
    cases harg
    exact decodeDirFd_clean ctx
  | flockOp =>
    cases harg
    exact decodeFlockOp_clean ctx
  | flags flagMap =>
    cases harg
    exact decodeFlags_clean h ctx
  | const constMap =>
    cases harg
    exact decodeConst_clean h ctx
  | custom decodeFunc =>
    cases harg
    exact decodeCustom_clean h ctx
  | octal =>
    cases harg
    exact decodeOctal_clean ctx
  | sysctlMib =>
    cases harg
    exact decodeSysctlMibParam_clean caches
  | sysctlBuffer | sysctlBynameBuffer =>
    cases harg
    exact decodeSysctlBuffer_clean _
  | uuid =>
    cases harg
    exact decodeUuidParam_clean ctx
  | sysinfoTimespec =>
    cases harg
    exact decodeSysinfoTimespec_clean ctx
  | sysctlSizePointer =>
    cases harg
    exact decodeSysctlSizePointer_clean ctx

/-- The parameters that a parameter of a definition may decode with. -/
def SyscallParam.decoders : SyscallParam → List Param
  | .plain param => [param]
  | .variant v => v.variants.map Prod.snd ++ v.defaultParam.toList

theorem VariantParam.select_mem {v : VariantParam} {param : Param}
    (h : v.select ctx = .decode param) : param ∈ (SyscallParam.variant v).decoders := by
  unfold VariantParam.select at h
  cases hdisc : ctx.allArgs.vals[v.discriminatorIndex]? with
  | none =>
    rw [hdisc] at h
    cases h
  | some discValue =>
    rw [hdisc] at h
    simp only at h
    split_ifs at h
    cases hl : v.variants.lookup discValue with
    | some p =>
      rw [hl] at h
      cases h
      exact List.mem_append_left _ (List.mem_map_of_mem (Dict.mem_of_lookup hl))
    | none =>
      rw [hl] at h
      cases hd : v.defaultParam with
      | none =>
        rw [hd] at h
        cases h
      | some p =>
        rw [hd] at h
        cases h
        exact List.mem_append_right _ (Option.mem_toList.mpr hd)

theorem VariantParam.select_done_clean {v : VariantParam} (h : v.select ctx = .done arg) :
    arg.Clean := by
  unfold VariantParam.select at h
  split at h
  · cases h
    trivial
  · split_ifs at h
    · cases h
      trivial
    · cases h
      trivial
    · split at h <;> cases h
      trivial

theorem SyscallParam.decode_clean {param : SyscallParam} (h : ∀ p ∈ param.decoders, p.Clean)
    {caches caches' : SysctlCaches} (harg : param.decode ctx caches = .ok (some arg, caches')) :
    arg.Clean := by
  have hplain {p : Param} (hp : p ∈ param.decoders)
      (hdecode : p.decode ctx caches = .ok (some arg, caches')) : arg.Clean := by
    obtain ⟨r, hr, hres⟩ := map_eq_ok.mp hdecode
    cases hres
    exact (h p hp).decodePure hr
  cases param with
  | plain p => exact hplain List.mem_cons_self harg
  | variant v =>
    change v.decode ctx caches = _ at harg
    unfold VariantParam.decode at harg
    cases hselect : v.select ctx with
    | decode p =>
      rw [hselect] at harg
      exact hplain (VariantParam.select_mem hselect) harg
    | done a =>
      rw [hselect] at harg
      cases harg
      exact VariantParam.select_done_clean hselect

/-! ## Functions and structures of the registered parameters -/

theorem printable_decodeOpenFlags (value : Int) : Printable (decodeOpenFlags value) := by
  have htable : oFlags.Printable := by decide
  unfold decodeOpenFlags
  simp only
  split_ifs
  · decide
  · refine printable_joinOr (List.forall_mem_append.mpr ⟨?_, (htable.filter _).names _⟩)
      (printable_hexInt value)
    exact fun s hs => htable.of_lookup (Option.mem_toList.mp hs)

theorem printable_decodeAccessMode (value : Int) : Printable (decodeAccessMode value) := by
  have htable : accessModes.Printable := by decide
  unfold decodeAccessMode
  split_ifs
  · decide
  · exact printable_joinOr (htable.positiveNames value) (Text.printable_toString_int value)

theorem printable_decodeIoctlCmd (value : Int) : Printable (decodeIoctlCmd value) := by
  have htable : ioctlCommands.Printable := by decide
  exact htable.get _ (printable_hexInt _)

theorem printable_octal (value : Int) : Printable ("0" ++ Text.signedNumeral 8 value) :=
  Text.printable_append.mpr ⟨by decide, Text.printable_signedNumeral (by omega) (by omega) value⟩

theorem printable_decodeIpcFlags (value : Int) : Printable (decodeIpcFlags value) := by
  have htable : ipcFlags.Printable := by decide
  unfold decodeIpcFlags
  simp only
  split_ifs
  · decide
  · refine printable_joinOr (List.forall_mem_append.mpr ⟨htable.names value, ?_⟩)
      (printable_hexInt value)
    exact List.forall_mem_singleton.mpr (printable_octal _)
  · refine printable_joinOr (List.forall_mem_append.mpr ⟨htable.names value, ?_⟩)
      (printable_hexInt value)
    simp

/-- The number as such, or its name in the table. -/
theorem printable_nameOrNumber {table : SymbolTable} (h : table.Printable) (value : Int)
    (noAbbrev : Bool) :
    Printable (if noAbbrev then toString value else table.get value (toString value)) := by
  have hnumber := Text.printable_toString_int value
  split_ifs
  · exact hnumber
  · exact h.get value hnumber

theorem printable_decodeStatMode (mode : Int) (noAbbrev : Bool) :
    Printable (decodeStatMode mode noAbbrev) := by
  have htable : sFileTypes.Printable := by decide
  unfold decodeStatMode
  split_ifs
  · exact printable_octal mode
  · have htype := htable.get (Text.band mode 0o170000)
      (printable_octal (Text.band mode 0o170000))
    have hperms := Text.printable_signedNumeral (b := 8) (by omega) (by omega)
      (Text.band mode 0o7777)
    simp only [Text.printable_append, htype, hperms, and_true, true_and]
    decide

theorem printable_decodeHandler (value : Option Nat) (noAbbrev : Bool) :
    Printable (decodeHandler value noAbbrev) := by
  unfold decodeHandler
  split
  · decide
  · decide
  · decide
  · exact Text.printable_hex0x _

theorem printable_decodeStackPointer (value : Option Nat) (noAbbrev : Bool) :
    Printable (decodeStackPointer value noAbbrev) := by
  unfold decodeStackPointer
  split
  · decide
  · decide
  · exact Text.printable_hex0x _

theorem printable_signalNames (value : Int) : ∀ s ∈ signalNames value, Printable s := by
  have htable : signalNumbers.Printable := by decide
  intro s hs
  obtain ⟨e, he, rfl⟩ := List.mem_map.mp hs
  exact htable.sorted.filter _ e he

theorem printable_decodeSigset (value : Int) (noAbbrev : Bool) :
    Printable (decodeSigset value noAbbrev) := by
  unfold decodeSigset
  simp only
  split_ifs
  · decide
  · exact printable_hexFormat value
  · exact (Text.printable_enclosed (by decide) (by decide) (by decide)).mpr
      (printable_signalNames value)

theorem printable_numberWithUnit {unit : String} (h : Printable unit) (value : Int) :
    Printable (toString value ++ unit) :=
  Text.printable_append.mpr ⟨Text.printable_toString_int value, h⟩

/-- The parameters that the registered definitions decode with. -/
def registeredDecoders : List Param :=
  registered.flatMap fun e => e.1.params.flatMap SyscallParam.decoders

/-- The tables of the parameter. -/
def Param.tables : Param → List SymbolTable
  | .flags table | .const table => [table]
  | _ => []

/-- The function of a custom parameter. -/
def Param.decodeFuncs : Param → List (Int → String)
  | .custom decodeFunc => [decodeFunc]
  | _ => []

/-- The description of a structure parameter. -/
def Param.specs : Param → List StructSpec
  | .struct spec _ => [spec]
  | _ => []

theorem registered_tables_printable :
    ∀ param ∈ registeredDecoders, ∀ table ∈ param.tables, table.Printable := by
  decide +kernel

set_option maxRecDepth 10000 in
theorem registered_decodeFuncs : registeredDecoders.flatMap Param.decodeFuncs =
    [decodeOpenFlags, decodeAccessMode, decodeIoctlCmd, decodeOpenFlags, decodeOpenFlags,
      decodeOpenFlags, decodeOpenFlags, decodeOpenFlags, decodeOpenFlags, decodeOpenFlags,
      decodeAccessMode, decodeOpenFlags, decodeOpenFlags, decodeAccessMode, decodeOpenFlags,
      decodeOpenFlags, decodeIpcFlags, decodeIpcFlags, decodeIpcFlags] :=
  rfl

set_option maxRecDepth 10000 in
theorem registered_specs : registeredDecoders.flatMap Param.specs =
    [winsizeSpec, statfsSpec, statfsSpec, statSpec, statSpec, statSpec, attrListSpec, attrListSpec,
      fssearchblockSpec, attrListSpec, attrListSpec, statSpec, attrListSpec, statSpec, attrListSpec,
      statSpec, statSpec, statSpec, statfsSpec, statfsSpec, attrListSpec, rusageSpec, rusageSpec,
      rlimitSpec, rlimitSpec, sigactionSpec, sigactionSpec, stackSpec, stackSpec, timevalSpec,
      timespecSpec, semidDsSpec, msqidDsSpec, shmidDsSpec, aiocbSpec, aiocbSpec, aiocbSpec,
      sigeventSpec, timespecSpec, timespecSpec] :=
  rfl

/-- The names of the bits of an attribute list, or the number. -/
theorem printable_decodeAttrFlags {table : SymbolTable} (h : table.Printable) (value : Int)
    (noAbbrev : Bool) : Printable (decodeAttrFlags table value noAbbrev) :=
  printable_namesOrHex h value

theorem printable_decodeSortedFlags {table : SymbolTable} (h : table.Printable) (value : Int)
    (noAbbrev : Bool) : Printable (decodeSortedFlags table value noAbbrev) :=
  printable_namesOrHex h.sorted value

theorem printable_decodeForkattr (value : Int) (noAbbrev : Bool) :
    Printable (decodeForkattr value noAbbrev) := by
  unfold decodeForkattr
  split_ifs
  · decide
  · exact printable_hexFormat value

/-- The number as such, or the name of one value. -/
theorem printable_nameOfOne {name : String} (h : Printable name) (limit value : Int) :
    Printable (if value = limit then name else toString value) := by
  split_ifs
  · exact h
  · exact Text.printable_toString_int value

theorem statSpec_formatters : statSpec.FormattersPrintable := by
  simpa [StructSpec.FormattersPrintable, statSpec, Formatter.Printable]
    using fun _ => printable_decodeStatMode

theorem statfsSpec_formatters : statfsSpec.FormattersPrintable := by
  simp [StructSpec.FormattersPrintable, statfsSpec, textFields]

theorem attrListSpec_formatters : attrListSpec.FormattersPrintable := by
  have htables : attrCmnFlags.Printable ∧ attrVolFlags.Printable ∧ attrDirFlags.Printable ∧
      attrFileFlags.Printable := by
    decide
  simp [StructSpec.FormattersPrintable, attrListSpec, Formatter.Printable, htables,
    printable_decodeAttrFlags, printable_decodeForkattr]

theorem rlimitSpec_formatters : rlimitSpec.FormattersPrintable := by
  have hrlim (v : Int) (noAbbrev : Bool) : Printable (decodeRlim v noAbbrev) :=
    printable_nameOfOne (by decide) _ v
  simp [StructSpec.FormattersPrintable, rlimitSpec, Formatter.Printable, hrlim]

theorem rusageSpec_formatters : rusageSpec.FormattersPrintable := by
  have hsec (v : Int) (noAbbrev : Bool) : Printable (decodeTimeSec v noAbbrev) :=
    printable_numberWithUnit (by decide) v
  have husec (v : Int) (noAbbrev : Bool) : Printable (decodeTimeUsec v noAbbrev) :=
    printable_numberWithUnit (by decide) v
  simp [StructSpec.FormattersPrintable, rusageSpec, Formatter.Printable, hsec, husec]

theorem sigactionSpec_formatters : sigactionSpec.FormattersPrintable := by
  have htable : saFlags.Printable := by decide
  simp [StructSpec.FormattersPrintable, sigactionSpec, Formatter.Printable, htable,
    printable_decodeHandler, printable_decodeSigset, printable_decodeSortedFlags]

theorem stackSpec_formatters : stackSpec.FormattersPrintable := by
  have htable : ssFlags.Printable := by decide
  have hsize (v : Int) (noAbbrev : Bool) : Printable (decodeStackSize v noAbbrev) :=
    printable_nameOfOne (by decide) _ v
  simp [StructSpec.FormattersPrintable, stackSpec, Formatter.Printable, htable, hsize,
    printable_decodeStackPointer, printable_decodeSortedFlags]

theorem sigeventSpec_formatters : sigeventSpec.FormattersPrintable := by
  have htable : sigevNotify.Printable := by decide
  have hnotify (v : Int) (noAbbrev : Bool) : Printable (decodeNotify v noAbbrev) :=
    printable_nameOrNumber htable v noAbbrev
  simp [StructSpec.FormattersPrintable, sigeventSpec, Formatter.Printable, hnotify]

theorem aiocbSpec_formatters : aiocbSpec.FormattersPrintable := by
  have htable : lioOpcodes.Printable := by decide
  have hlio (v : Int) (noAbbrev : Bool) : Printable (decodeLioOpcode v noAbbrev) :=
    printable_nameOrNumber htable v noAbbrev
  simp [StructSpec.FormattersPrintable, aiocbSpec, Formatter.Printable, hlio]

/-- The structures that are shown without formatters. -/
theorem plainSpecs_formatters : ∀ spec ∈ [winsizeSpec, fssearchblockSpec, timevalSpec, timespecSpec,
    semidDsSpec, msqidDsSpec, shmidDsSpec], spec.FormattersPrintable := by
  simp [StructSpec.FormattersPrintable, winsizeSpec, fssearchblockSpec, timevalSpec, timespecSpec,
    semidDsSpec, msqidDsSpec, shmidDsSpec]

theorem registered_specs_clean : ∀ spec ∈ registeredDecoders.flatMap Param.specs, spec.Clean := by
  have hnames : ∀ spec ∈ registeredDecoders.flatMap Param.specs, ∀ f ∈ spec.fields,
      Printable f.name := by
    decide +kernel
  have hformatters : ∀ spec ∈ registeredDecoders.flatMap Param.specs,
      spec.FormattersPrintable := by
    have hplain := plainSpecs_formatters
    rw [registered_specs]
    simp only [List.forall_mem_cons] at hplain ⊢
    simp only [hplain, statSpec_formatters, statfsSpec_formatters, attrListSpec_formatters,
      rlimitSpec_formatters, rusageSpec_formatters, sigactionSpec_formatters,
      stackSpec_formatters, sigeventSpec_formatters, aiocbSpec_formatters, List.not_mem_nil,
      true_and, false_imp_iff, implies_true]
  exact fun spec hspec => ⟨hnames spec hspec, hformatters spec hspec⟩

theorem registered_decodeFuncs_printable : ∀ decodeFunc ∈ registeredDecoders.flatMap
    Param.decodeFuncs, ∀ v, Printable (decodeFunc v) := by
  rw [registered_decodeFuncs]
  simp only [List.forall_mem_cons, printable_decodeOpenFlags, printable_decodeAccessMode,
    printable_decodeIoctlCmd, printable_decodeIpcFlags, List.not_mem_nil, implies_true, true_and,
    false_imp_iff]

/-- **Every registered parameter is clean**, with its tables, functions and structures. -/
theorem registeredDecoders_clean : ∀ param ∈ registeredDecoders, param.Clean := by
  intro param hparam
  cases param with
  | flags table => exact registered_tables_printable _ hparam table List.mem_cons_self
  | const table => exact registered_tables_printable _ hparam table List.mem_cons_self
  | custom decodeFunc =>
    exact registered_decodeFuncs_printable decodeFunc
      (List.mem_flatMap.mpr ⟨_, hparam, List.mem_cons_self⟩)
  | struct spec direction =>
    exact registered_specs_clean spec (List.mem_flatMap.mpr ⟨_, hparam, List.mem_cons_self⟩)
  | _ => trivial

theorem mem_registeredDecoders {e : SyscallDef × SyscallCategory} (he : e ∈ registered)
    {param : SyscallParam} (hparam : param ∈ e.1.params) {p : Param} (hp : p ∈ param.decoders) :
    p ∈ registeredDecoders :=
  List.mem_flatMap.mpr ⟨e, he, List.mem_flatMap.mpr ⟨param, hparam, hp⟩⟩

end StraceMacos
