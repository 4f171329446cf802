import StraceMacos.Proofs.LineProofs
import StraceMacos.Proofs.PresentationProofs
import StraceMacos.Syscalls.JsonLines

/-!
# JSON Lines of a trace

With JSON output the tracer prints one line for each event, in ASCII, that is read back as the
object of the event. Structures that reach an event have no members that JSON cannot show: those
that no formatter turns into texts are numbers and pointers.
-/

namespace StraceMacos

open CStruct Fallible

variable {ctx : DecodeContext} {arg : SyscallArg}

/-! ## What can be dumped -/

def FieldVal.isObject : FieldVal → Bool
  | .object _ => true
  | _ => false

/-- Some field has a value that JSON cannot show. -/
def hasObject (fields : Fields) : Bool :=
  fields.any fun e => e.2.isObject

def SyscallArg.hasObject : SyscallArg → Bool
  | .struct fields => StraceMacos.hasObject fields
  | _ => false

theorem FieldVal.toJson_returns_iff (value : FieldVal) :
    (∃ v, value.toJson = .ok v) ↔ value.isObject = false := by
  cases value <;> simp [toJson, isObject]

theorem fieldsToJson_returns_iff (fields : Fields) :
    (∃ members, fieldsToJson fields = .ok members) ↔ hasObject fields = false := by
  unfold fieldsToJson hasObject
  rw [mapM_returns_iff, List.any_eq_false]
  refine forall₂_congr fun e _ => ?_
  rw [map_returns_iff, FieldVal.toJson_returns_iff, Bool.not_eq_true]

/-- An argument can be dumped exactly when it has no member that JSON cannot show. -/
theorem formatArgForJson_returns_iff (arg : SyscallArg) :
    (∀ a, formatArgForJson arg = some a → ∃ v, a.toJson = .ok v) ↔ arg.hasObject = false := by
  have hok {a : JsonArg} (h : ∃ v, a.toJson = .ok v) :
      ∀ b, some a = some b → ∃ v, b.toJson = .ok v := by
    rintro b ⟨⟩
    exact h
  cases arg with
  | struct fields =>
    rw [SyscallArg.hasObject, ← fieldsToJson_returns_iff, ← map_returns_iff]
    exact ⟨fun h => h _ rfl, hok (a := .fields fields)⟩
  | skip => exact iff_of_true (fun a h => by cases h) rfl
  | int value symbolic | flags value symbolic =>
    refine iff_of_true (hok ?_) rfl
    unfold formatSymbolicOrValue
    split
    · split_ifs <;> exact ⟨_, rfl⟩
    · exact ⟨_, rfl⟩
  | _ => exact iff_of_true (hok ⟨_, rfl⟩) rfl

/-- **The line of an event can be dumped exactly when no argument has a member that JSON cannot
show.** -/
theorem dumps_returns_iff (timeText : Nat → Json.Number) (event : SyscallEvent) :
    (∃ line, (formatJson event).dumps timeText = .ok line) ↔
      ∀ arg ∈ event.args, arg.hasObject = false := by
  unfold JsonEvent.dumps JsonEvent.toJson
  rw [map_returns_iff, map_returns_iff, mapM_returns_iff]
  simp only [formatJson, List.mem_filterMap, forall_exists_index, and_imp]
  rw [forall_comm]
  refine forall_congr' fun arg => ?_
  rw [← formatArgForJson_returns_iff]
  exact ⟨fun h harg a ha => h a harg ha, fun h a harg ha => h harg a ha⟩

/-! ## Structures have no objects -/

theorem hasObject_append {fields fields' : Fields} :
    hasObject (fields ++ fields') = (hasObject fields || hasObject fields') :=
  List.any_append

theorem hasObject_cons (name : String) (value : FieldVal) (fields : Fields) :
    hasObject ((name, value) :: fields) = (value.isObject || hasObject fields) :=
  rfl

/-- A member that is shown without a formatter is a number or a pointer. -/
theorem rawFieldVal_isObject {value : CVal} (h : showable none value.kind = true) :
    (rawFieldVal value).isObject = false := by
  cases value with
  | int v => rfl
  | voidPtr p => cases p <;> rfl
  | chars | array | struct => cases h

theorem StructSpec.formatFields_hasObject (spec : StructSpec) {noAbbrev : Bool}
    {values : List (Field × CVal)} {fields : Fields}
    (hvalues : ∀ fv ∈ values, fv.1 ∈ spec.fields ∧ fv.2.kind = fv.1.type.kind)
    (hfields : spec.formatFields noAbbrev values = .ok fields) : hasObject fields = false := by
  induction values generalizing fields with
  | nil =>
    cases hfields
    rfl
  | cons fv rest ih =>
    obtain ⟨f, value⟩ := fv
    obtain ⟨⟨hf, hkind⟩, hrest⟩ := List.forall_mem_cons.mp hvalues
    rw [StructSpec.formatFields] at hfields
    split_ifs at hfields with hexcluded
    · exact ih hrest hfields
    · obtain ⟨v, hv, hfields⟩ := bind_eq_ok.mp hfields
      obtain ⟨fields', hfields', hres⟩ := bind_eq_ok.mp hfields
      cases hres
      rw [hasObject_cons, ih hrest hfields', Bool.or_false]
      have hshow := spec.formatters_kind f hf hexcluded
      unfold StructSpec.formatField at hv
      cases hl : spec.formatters.lookup f.name with
      | none =>
        rw [hl] at hv hshow
        cases hv
        exact rawFieldVal_isObject (hkind ▸ hshow)
      | some formatter =>
        rw [hl] at hv
        obtain ⟨text, -, rfl⟩ := map_eq_ok.mp hv
        rfl

theorem StructSpec.decodeStruct_hasObject (spec : StructSpec) {process : Process} {address : Nat}
    {noAbbrev : Bool} {fields : Fields}
    (h : spec.decodeStruct process address noAbbrev = .ok (some fields)) :
    hasObject fields = false := by
  unfold StructSpec.decodeStruct at h
  cases hread : readStruct process address spec.fields with
  | none =>
    rw [hread] at h
    cases h
  | some values =>
    rw [hread] at h
    obtain ⟨fields', hfields, hres⟩ := map_eq_ok.mp h
    cases hres
    obtain ⟨data, -, rfl⟩ := Option.map_eq_some_iff.mp hread
    refine spec.formatFields_hasObject (fun fv hfv => ⟨?_, kind_of_mem_loadAll hfv⟩) hfields
    rw [← loadAll_map_fst process.byteOrder spec.fields data]
    exact List.mem_map_of_mem hfv

theorem termiosFlagField_hasObject (name : String) (table : SymbolTable) (suffix : String)
    (value : Int) : hasObject (termiosFlagField name table suffix value) = false := by
  unfold termiosFlagField
  simp only
  split_ifs <;> rfl

theorem decodeTermios_hasObject {process : Process} {address : Nat} {noAbbrev : Bool}
    {fields : Fields} (h : decodeTermios process address noAbbrev = .ok (some fields)) :
    hasObject fields = false := by
  unfold decodeTermios at h
  by_cases h0 : address = 0
  · rw [if_pos h0] at h
    cases h
  · rw [if_neg h0] at h
    obtain ⟨term, -, hterm⟩ := Option.map_eq_some_iff.mp (Except.ok.inj h)
    rw [← hterm]
    split_ifs
    · rfl
    · unfold decodeFlagsSymbolic
      simp only
      split_ifs
      · rfl
      · simp only [hasObject_append, termiosFlagField_hasObject, Bool.or_false]

theorem portField_hasObject (name : String) (host : ByteOrder) (port : Int) :
    hasObject (portField name host port) = false := by
  unfold portField
  simp only
  split_ifs <;> rfl

theorem decodeSockaddr_hasObject {process : Process} {address : Nat} {noAbbrev : Bool}
    {fields : Fields} (h : decodeSockaddr process address noAbbrev = .ok (some fields)) :
    hasObject fields = false := by
  obtain ⟨base, -, hbase⟩ := Option.map_eq_some_iff.mp (Except.ok.inj h)
  rw [← hbase]
  simp only
  split_ifs
  · unfold decodeUnix
    split
    · rfl
    · split
      · split_ifs <;> rfl
      · rfl
  · unfold decodeInet
    split
    · rfl
    · rw [hasObject_append, hasObject_cons, portField_hasObject]
      rfl
  · unfold decodeInet6
    split
    · rfl
    · rw [hasObject_append, hasObject_append, hasObject_cons, portField_hasObject]
      split_ifs <;> rfl
  · rfl

theorem decodeMsghdr_hasObject {process : Process} {address : Nat} {noAbbrev : Bool}
    {fields : Fields} (h : decodeMsghdr process address noAbbrev = .ok (some fields)) :
    hasObject fields = false := by
  unfold decodeMsghdr at h
  cases hread : readStruct process address msghdrStruct with
  | none =>
    rw [hread] at h
    cases h
  | some msghdr =>
    rw [hread] at h
    obtain ⟨iov, hiov, h⟩ := bind_eq_ok.mp h
    cases h
    have hvectors : hasObject iov = false := by
      unfold decodeMsgIov at hiov
      split_ifs at hiov
      · cases hiov
        rfl
      · obtain ⟨res, -, hiov⟩ := bind_eq_ok.mp hiov
        rcases res with _ | _ | ⟨d, ds⟩ <;> cases hiov <;> rfl
    rw [hasObject_append, hasObject_append, hasObject_append, hvectors]
    split_ifs <;> rfl

/-! ## Arguments have no objects -/

/-- A directed decoder returns a pointer or what its body returns. -/
theorem directed_hasObject {direction : ParamDirection} {body : Decoded}
    (h : directed direction ctx body = .ok (some arg))
    (hbody : body = .ok (some arg) → arg.hasObject = false) : arg.hasObject = false := by
  unfold directed at h
  split_ifs at h
  · cases h
    rfl
  · cases h
  · cases h
    rfl
  · exact hbody h

theorem decodeStructParam_hasObject
    {decodeStruct : Process → Nat → Bool → Except PyError (Option Fields)}
    (hdecode : ∀ process address noAbbrev fields,
      decodeStruct process address noAbbrev = .ok (some fields) → hasObject fields = false)
    {direction : ParamDirection}
    (h : decodeStructParam decodeStruct direction ctx = .ok (some arg)) :
    arg.hasObject = false := by
  refine directed_hasObject h fun hbody => ?_
  obtain ⟨res, hres, hbody⟩ := bind_eq_ok.mp hbody
  rcases res with _ | _ | ⟨f, fs⟩
  · cases hbody
    rfl
  · cases hbody
    rfl
  · cases hbody
    exact hdecode _ _ _ _ hres

theorem structArrayOr_hasObject (rawValue : Nat) (items : Option (List ItemFields)) :
    (structArrayOr rawValue items).hasObject = false := by
  rcases items with _ | _ | ⟨d, ds⟩ <;> rfl

theorem decodeSysctlBuffer_hasObject (sysctlType : Option SysctlType) :
    (decodeSysctlBuffer sysctlType ctx).hasObject = false := by
  unfold decodeSysctlBuffer
  split_ifs
  · rfl
  · rcases sysctlType with _ | sysctlType
    · rfl
    · cases sysctlType with
      | string =>
        simp only [decodeByType]
        split_ifs <;> rfl
      | int | int64 =>
        simp only [decodeByType]
        split <;> rfl

/-- **No decoder makes a member that JSON cannot show.** -/
theorem Param.decodePure_hasObject {param : Param} {caches : SysctlCaches}
    (h : param.decodePure ctx caches = .ok (some arg)) : arg.hasObject = false := by
  cases param with
  | struct spec direction =>
    exact decodeStructParam_hasObject (fun _ _ _ _ => spec.decodeStruct_hasObject) h
  | termios direction =>
    exact decodeStructParam_hasObject (fun _ _ _ _ => decodeTermios_hasObject) h
  | sockaddr direction =>
    exact decodeStructParam_hasObject (fun _ _ _ _ => decodeSockaddr_hasObject) h
  | msghdr direction => exact decodeStructParam_hasObject (fun _ _ _ _ => decodeMsghdr_hasObject) h
  | sigset direction | intPtr direction =>
    refine directed_hasObject h fun hbody => ?_
    split at hbody <;> cases hbody <;> rfl
  | intArray count direction elementSize =>
    refine directed_hasObject h fun hbody => ?_
    split at hbody
    · cases hbody
      rfl
    · split_ifs at hbody
      · cases hbody
        rfl
      · split at hbody <;> cases hbody <;> rfl
  | buffer sizeArgIndex direction =>
    refine directed_hasObject h fun hbody => ?_
    split at hbody
    · cases hbody
      rfl
    · simp only at hbody
      generalize (if ctx.noAbbrev = true then _ else _) = actualSize at hbody
      split_ifs at hbody
      · cases hbody
        rfl
      · split at hbody <;> cases hbody <;> rfl
  | iovec countArgIndex direction =>
    refine directed_hasObject h fun hbody => ?_
    split at hbody
    · cases hbody
      rfl
    · split_ifs at hbody
      · cases hbody
        rfl
      · obtain ⟨items, -, hres⟩ := bind_eq_ok.mp hbody
        cases hres
        exact structArrayOr_hasObject _ _
  | kevent countArgIndex direction | kevent64 countArgIndex direction =>
    refine directed_hasObject h fun hbody => ?_
    split at hbody
    · cases hbody
      rfl
    · simp only at hbody
      split_ifs at hbody
      · cases hbody
        rfl
      · cases hbody
        exact structArrayOr_hasObject _ _
  | aiocbArray countArgIndex direction =>
    replace h := Except.ok.inj h
    unfold decodeAiocbArrayParam at h
    split_ifs at h
    split at h
    · cases h
    · split_ifs at h
      split at h <;> cases h
      rfl
  | pollfd countArgIndex =>
    replace h := Except.ok.inj h
    unfold decodePollfdParam at h
    split_ifs at h
    · cases h
      rfl
    · split at h
      · cases h
        rfl
      · split_ifs at h
        · cases h
          rfl
        · cases h
          exact structArrayOr_hasObject _ _
  | fdSet =>
    replace h := Except.ok.inj h
    unfold decodeFdSetParam at h
    split_ifs at h
    · cases h
      rfl
    · split at h
      · cases h
        rfl
      · simp only at h
        split_ifs at h <;> cases h <;> rfl
  | int | unsigned | string | pointer | fileDescriptor | sysctlBynameName =>
    cases h
    rfl
  | sysctlBuffer | sysctlBynameBuffer =>
    cases h
    exact decodeSysctlBuffer_hasObject _
  | arrayOfStrings maxStrings =>
    cases h
    unfold decodeArrayOfStrings
    split_ifs <;> rfl
  | uidGid =>
    cases h
    unfold decodeUidGid
    split_ifs <;> rfl
  | dirFd =>
    cases h
    unfold decodeDirFd
    simp only
    split_ifs <;> rfl
  | flockOp =>
    cases h
    unfold decodeFlockOp
    split_ifs <;> (try simp only) <;> (try split_ifs) <;> rfl
  | flags flagMap =>
    cases h
    unfold decodeFlags
    simp only
    split_ifs <;> rfl
  | const constMap =>
    cases h
    unfold decodeConst
    simp only
    split_ifs <;> rfl
  | custom decodeFunc =>
    cases h
    unfold decodeCustom
    simp only
    split_ifs <;> rfl
  | octal =>
    cases h
    unfold decodeOctal
    simp only
    split_ifs <;> rfl
  | sysctlMib =>
    cases h
    unfold decodeSysctlMibParam
    split_ifs
    · rfl
    · split <;> rfl
  | uuid =>
    cases h
    unfold decodeUuidParam
    split_ifs
    · rfl
    · rfl
    · unfold decodeUuid
      split_ifs
      rfl
  | sysinfoTimespec =>
    cases h
    unfold decodeSysinfoTimespec
    split_ifs
    · rfl
    · split <;> rfl
  | sysctlSizePointer =>
    cases h
    unfold decodeSysctlSizePointer
    split_ifs
    · rfl
    · split <;> rfl

theorem VariantParam.select_done_hasObject {v : VariantParam} (h : v.select ctx = .done arg) :
    arg.hasObject = false := by
  unfold VariantParam.select at h
  split at h
  · cases h
    rfl
  · split_ifs at h
    · cases h
      rfl
    · cases h
      rfl
    · split at h <;> cases h
      rfl

theorem SyscallParam.decode_hasObject {param : SyscallParam} {caches caches' : SysctlCaches}
    (h : param.decode ctx caches = .ok (some arg, caches')) : arg.hasObject = false := by
  have hplain {p : Param} (hdecode : p.decode ctx caches = .ok (some arg, caches')) :
      arg.hasObject = false := by
    obtain ⟨r, hr, hres⟩ := map_eq_ok.mp hdecode
    cases hres
    exact p.decodePure_hasObject hr
  cases param with
  | plain p => exact hplain h
  | variant v =>
    change v.decode ctx caches = _ at h
    unfold VariantParam.decode at h
    cases hselect : v.select ctx with
    | decode p =>
      rw [hselect] at h
      exact hplain h
    | done a =>
      rw [hselect] at h
      cases h
      exact VariantParam.select_done_hasObject hselect

theorem SyscallArg.Produced.hasObject (h : arg.Produced) : arg.hasObject = false := by
  cases h with
  | unknown => rfl
  | decoded _ _ h => exact SyscallParam.decode_hasObject h

/-! ## The lines of a run -/

/-- The line reads as the object of the event and is one line of ASCII. -/
def IsLineOf (timeText : Nat → Json.Number) (line : String) (event : SyscallEvent) : Prop :=
  Json.Graphic line.toList ∧
    ∃ v, (formatJson event).toJson timeText = .ok v ∧ Json.parse line.toList = some v

theorem isLineOf_of_dumps {timeText : Nat → Json.Number} {event : SyscallEvent} {line : String}
    (h : (formatJson event).dumps timeText = .ok line) : IsLineOf timeText line event := by
  obtain ⟨v, hv, rfl⟩ := map_eq_ok.mp h
  rw [IsLineOf, String.toList_ofList]
  exact ⟨Json.graphic_dump v, v, hv, Json.parse_dump v⟩

theorem IsLineOf.newline_notMem {timeText : Nat → Json.Number} {event : SyscallEvent}
    {line : String} (h : IsLineOf timeText line event) : '\n' ∉ line.toList := fun hmem =>
  absurd (h.1 _ hmem) (by decide)

/-- Events that come from the decoders can all be dumped. -/
theorem exists_lines (timeText : Nat → Json.Number) {events : List SyscallEvent}
    (h : ∀ event ∈ events, event.Produced) :
    ∃ lines, events.mapM (fun event => (formatJson event).dumps timeText) = .ok lines :=
  mapM_returns_iff.mpr fun event hevent => (dumps_returns_iff timeText event).mpr fun arg harg =>
    ((h event hevent).args arg harg).hasObject

/-- **The JSON lines of a trace are read back.** With JSON output every written event is printed, on
a line of its own, in ASCII; between the newlines of the output stand the lines of the written
events, in their order, and a JSON reader finds in each the object of its event. -/
theorem Tracer.json_lines_read_back {options : Options} {filter : Filter} {stops : List Stop}
    {t : Tracer} (timeText : Nat → Json.Number) (h : (init options filter).run stops = .ok t)
    (hjson : options.jsonOutput = true) (hevents : options.summaryOnly = false) :
    ∃ text lines, t.printed timeText = .ok text ∧ Text.split '\n' text = lines ++ [""] ∧
      List.Forall₂ (IsLineOf timeText) lines t.written := by
  obtain ⟨lines, hlines⟩ := exists_lines timeText (run_allProduced h).written
  have hoptions : ¬ options.summaryOnly = true := by simp [hevents]
  have houtput : t.output = t.written.map fun event => .json (formatJson event) := by
    rw [run_output h, Options.lines, if_neg hoptions, Options.formatter, if_pos hjson]
    rfl
  have hprinted : t.output.mapM (OutputLine.print timeText) =
      .ok (lines.map fun line => line ++ "\n") := by
    rw [houtput, mapM_eq_ok, List.forall₂_map_left_iff, List.forall₂_map_right_iff]
    refine (mapM_eq_ok.mp hlines).imp fun event line hline => ?_
    rw [OutputLine.print, hline]
    rfl
  have hnewline : ∀ line ∈ lines, '\n' ∉ line.toList := fun line hmem => by
    obtain ⟨event, -, hline⟩ := exists_of_mem_mapM hlines hmem
    exact (isLineOf_of_dumps hline).newline_notMem
  refine ⟨_, lines, by rw [printed, hprinted]; rfl, Text.split_lines hnewline, ?_⟩
  exact ((mapM_eq_ok.mp hlines).imp fun _ _ hline => isLineOf_of_dumps hline).flip

/-- The text of the time of the sample stops. -/
def zeroSeconds : Json.Number := ⟨['0', '.', '0'], rfl⟩

theorem Tracer.json_lines_read_back_twoThreads : ∃ t text lines,
    (init { sampleOptions with jsonOutput := true } .all).run twoThreads = .ok t ∧
    t.printed (fun _ => zeroSeconds) = .ok text ∧ Text.split '\n' text = lines ++ [""] ∧
    List.Forall₂ (IsLineOf fun _ => zeroSeconds) lines t.written := by
  obtain ⟨t, ht, -⟩ := run_twoThreads
  have hrun := run_present ht
    (⟨rfl, rfl⟩ : sampleOptions.SameTracing { sampleOptions with jsonOutput := true })
  obtain ⟨text, lines, hlines⟩ := json_lines_read_back (fun _ => zeroSeconds) hrun rfl rfl
  exact ⟨_, text, lines, hrun, hlines⟩

end StraceMacos
