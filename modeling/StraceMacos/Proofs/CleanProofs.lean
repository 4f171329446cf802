import StraceMacos.Library.Fallible
import StraceMacos.Proofs.PrintableProofs
import StraceMacos.Syscalls.Definitions.Param

/-!
# What decoders add to an argument

Apart from the texts of the traced process, a decoder puts only symbols, numerals, quoted buffers
and texts of its own into an argument. This is shown here for scalars, structures and I/O vectors.
-/

namespace StraceMacos

open CStruct Fallible
open Text (Printable)

variable {ctx : DecodeContext} {arg : SyscallArg}

/-! ## Scalars -/

theorem decodeDirFd_clean (ctx : DecodeContext) : (decodeDirFd ctx).Clean := by
  have hcwd : Printable "AT_FDCWD" := by decide
  unfold decodeDirFd
  simp only
  split_ifs <;> simp [SyscallArg.Clean, hcwd]

theorem decodeFlockOp_clean (ctx : DecodeContext) : (decodeFlockOp ctx).Clean := by
  have htable : flockOps.Printable := by decide
  have hflags : ∀ s ∈ (flockOps.lookup (Text.bandNot ctx.rawValue 4)).toList ++
      (if ctx.rawValue &&& 4 ≠ 0 then ["LOCK_NB"] else []), Printable s := by
    intro s hs
    rcases List.mem_append.mp hs with hop | hnb
    · exact htable.of_lookup (Option.mem_toList.mp hop)
    · split_ifs at hnb
      · rw [List.mem_singleton.mp hnb]
        decide
      · cases hnb
  have hjoined := (Text.printable_join (by decide : Printable "|")).mpr hflags
  unfold decodeFlockOp
  by_cases hno : ctx.noAbbrev = true
  · rw [if_pos hno]
    simp [SyscallArg.Clean]
  · rw [if_neg hno]
    by_cases hempty : ((flockOps.lookup (Text.bandNot ctx.rawValue 4)).toList ++
        (if ctx.rawValue &&& 4 ≠ 0 then ["LOCK_NB"] else [])).isEmpty = true
    · simp only [if_pos hempty]
      simp [SyscallArg.Clean]
    · simp only [if_neg hempty]
      rintro s ⟨⟩
      exact hjoined

theorem decodeFlags_clean {flagMap : SymbolTable} (h : flagMap.Printable) (ctx : DecodeContext) :
    (decodeFlags flagMap ctx).Clean := by
  unfold decodeFlags
  simp only
  split_ifs
  · simp [SyscallArg.Clean]
  · have hzero := h.get 0 (by decide : Printable "0")
    simpa [SyscallArg.Clean] using hzero
  · simp [SyscallArg.Clean]
  · have hnames := (Text.printable_join (by decide : Printable "|")).mpr
      (h.positiveNames ctx.rawValue)
    simpa [SyscallArg.Clean] using hnames

theorem decodeConst_clean {constMap : SymbolTable} (h : constMap.Printable) (ctx : DecodeContext) :
    (decodeConst constMap ctx).Clean := by
  unfold decodeConst
  simp only
  split_ifs
  · simp [SyscallArg.Clean]
  · exact fun s hs => h.of_lookup hs

theorem decodeCustom_clean {decodeFunc : Int → String} (h : ∀ v, Printable (decodeFunc v))
    (ctx : DecodeContext) : (decodeCustom decodeFunc ctx).Clean := by
  unfold decodeCustom
  simp only
  split_ifs <;> simp [SyscallArg.Clean, h]

theorem decodeOctal_clean (ctx : DecodeContext) : (decodeOctal ctx).Clean := by
  have hzero : Printable "0" := by decide
  unfold decodeOctal
  simp only
  split_ifs <;> simp [SyscallArg.Clean, hzero]

/-! ## Structures -/

/-- A formatter shows printable texts. -/
def Formatter.Printable : Formatter → Prop
  | .onInt format => ∀ v noAbbrev, Text.Printable (format v noAbbrev)
  | .onPtr format => ∀ p noAbbrev, Text.Printable (format p noAbbrev)
  | .onBytes format => ∀ bs noAbbrev, Text.Printable (format bs noAbbrev)

theorem Formatter.Printable.apply {formatter : Formatter} (h : formatter.Printable) {value : CVal}
    {noAbbrev : Bool} {text : String} (htext : formatter.apply value noAbbrev = .ok text) :
    Text.Printable text := by
  unfold Formatter.apply at htext
  split at htext <;> cases htext
  · exact h _ _
  · exact h _ _
  · exact h _ _

/-- Formatters show printable texts, except in the fields that show a text of the traced process. -/
def StructSpec.FormattersPrintable (spec : StructSpec) : Prop :=
  ∀ e ∈ spec.formatters, e.1 ∉ textFields → e.2.Printable

/-- The names of the members are printable, and so is what the formatters show. -/
structure StructSpec.Clean (spec : StructSpec) : Prop where
  names : ∀ f ∈ spec.fields, Printable f.name
  formatters : spec.FormattersPrintable

/-- The fields of a structure are clean. -/
def CleanFields (fields : Fields) : Prop :=
  ∀ e ∈ fields, Printable e.1 ∧ (fieldText e = none → e.2.Printable)

theorem rawFieldVal_printable (value : CVal) : (rawFieldVal value).Printable := by
  cases value with
  | voidPtr p => cases p <;> trivial
  | int | chars | array | struct => trivial

theorem StructSpec.Clean.formatFields {spec : StructSpec} (h : spec.Clean) {noAbbrev : Bool}
    {values : List (Field × CVal)} {fields : Fields} (hvalues : ∀ fv ∈ values, fv.1 ∈ spec.fields)
    (hfields : spec.formatFields noAbbrev values = .ok fields) : CleanFields fields := by
  induction values generalizing fields with
  | nil =>
    cases hfields
    simp [CleanFields]
  | cons fv rest ih =>
    obtain ⟨f, value⟩ := fv
    have hrest := fun fv hfv => hvalues fv (List.mem_cons_of_mem _ hfv)
    rw [StructSpec.formatFields] at hfields
    split_ifs at hfields
    · exact ih hrest hfields
    · obtain ⟨v, hv, hfields⟩ := bind_eq_ok.mp hfields
      obtain ⟨fields', hfields', hres⟩ := bind_eq_ok.mp hfields
      cases hres
      have hname := h.names f (hvalues _ List.mem_cons_self)
      refine List.forall_mem_cons.mpr ⟨⟨hname, fun ht => ?_⟩, ih hrest hfields'⟩
      unfold StructSpec.formatField at hv
      cases hl : spec.formatters.lookup f.name with
      | none =>
        rw [hl] at hv
        cases hv
        exact rawFieldVal_printable value
      | some formatter =>
        rw [hl] at hv
        obtain ⟨text, htext, rfl⟩ := map_eq_ok.mp hv
        have hnot : f.name ∉ textFields := by simpa [fieldText] using ht
        exact (h.formatters _ (Dict.mem_of_lookup hl) hnot).apply htext

theorem StructSpec.Clean.decodeStruct {spec : StructSpec} (h : spec.Clean) {process : Process}
    {address : Nat} {noAbbrev : Bool} {fields : Fields}
    (hfields : spec.decodeStruct process address noAbbrev = .ok (some fields)) :
    CleanFields fields := by
  unfold StructSpec.decodeStruct at hfields
  cases hread : readStruct process address spec.fields with
  | none =>
    rw [hread] at hfields
    cases hfields
  | some values =>
    rw [hread] at hfields
    obtain ⟨fields', hfields', hres⟩ := map_eq_ok.mp hfields
    cases hres
    obtain ⟨data, -, rfl⟩ := Option.map_eq_some_iff.mp hread
    refine h.formatFields (fun fv hfv => ?_) hfields'
    rw [← loadAll_map_fst process.byteOrder spec.fields data]
    exact List.mem_map_of_mem hfv

/-- A directed decoder returns what its body returns, or a pointer. -/
theorem directed_clean {direction : ParamDirection} {body : Decoded}
    (h : directed direction ctx body = .ok (some arg))
    (hbody : body = .ok (some arg) → arg.Clean) : arg.Clean := by
  unfold directed at h
  split_ifs at h
  · cases h
    trivial
  · cases h
  · cases h
    trivial
  · exact hbody h

theorem decodeStructParam_clean
    {decodeStruct : Process → Nat → Bool → Except PyError (Option Fields)}
    (hdecode : ∀ process address noAbbrev fields,
      decodeStruct process address noAbbrev = .ok (some fields) → CleanFields fields)
    {direction : ParamDirection}
    (h : decodeStructParam decodeStruct direction ctx = .ok (some arg)) :
    arg.Clean := by
  refine directed_clean h fun hbody => ?_
  obtain ⟨res, hres, hbody⟩ := bind_eq_ok.mp hbody
  rcases res with _ | _ | ⟨f, fs⟩
  · cases hbody
    trivial
  · cases hbody
    trivial
  · cases hbody
    exact hdecode _ _ _ _ hres

/-! ## Structures with decoders of their own -/

theorem cleanFields_append {fields fields' : Fields} (h : CleanFields fields)
    (h' : CleanFields fields') : CleanFields (fields ++ fields') :=
  List.forall_mem_append.mpr ⟨h, h'⟩

/-- A field with a text of the tracer. -/
theorem cleanFields_str {name text : String} (hname : Printable name) (htext : Printable text) :
    CleanFields [(name, .str text)] := by
  simpa [CleanFields, FieldVal.Printable, hname] using fun _ => htext

theorem cleanFields_int {name : String} (hname : Printable name) (value : Int) :
    CleanFields [(name, .int value)] := by
  simpa [CleanFields, FieldVal.Printable] using hname

theorem cleanFields_cons {name : String} {value : FieldVal} {fields : Fields}
    (h : CleanFields [(name, value)]) (h' : CleanFields fields) :
    CleanFields ((name, value) :: fields) :=
  cleanFields_append h h'

theorem cleanFields_nil : CleanFields [] := by
  simp [CleanFields]

theorem termiosFlagField_clean {name : String} (hname : Printable name) {table : SymbolTable}
    (htable : table.Printable) {suffix : String} (hsuffix : Printable suffix) (value : Int) :
    CleanFields (termiosFlagField name table suffix value) := by
  unfold termiosFlagField
  simp only
  split_ifs
  · exact cleanFields_nil
  · have hnames := (Text.printable_join (by decide : Printable "|")).mpr (htable.names value)
    exact cleanFields_str hname (Text.printable_append.mpr ⟨hnames, hsuffix⟩)

theorem decodeFlagsSymbolic_clean (term : List (Field × CVal)) :
    CleanFields (decodeFlagsSymbolic term) := by
  have hiflag : termiosIflag.Printable := by decide
  have hoflag : termiosOflag.Printable := by decide
  have hcflag : termiosCflag.Printable := by decide
  have hlflag : termiosLflag.Printable := by decide
  unfold decodeFlagsSymbolic
  simp only
  split_ifs
  · exact cleanFields_str (by decide) (by decide)
  · refine cleanFields_append (cleanFields_append (cleanFields_append ?_ ?_) ?_) ?_
    · exact termiosFlagField_clean (by decide) hiflag (by decide) _
    · exact termiosFlagField_clean (by decide) hoflag (by decide) _
    · exact termiosFlagField_clean (by decide) hcflag (by decide) _
    · exact termiosFlagField_clean (by decide) hlflag (by decide) _

theorem decodeTermios_clean {process : Process} {address : Nat} {noAbbrev : Bool} {fields : Fields}
    (h : decodeTermios process address noAbbrev = .ok (some fields)) : CleanFields fields := by
  have hwords : ∀ name ∈ ["c_iflag", "c_oflag", "c_cflag", "c_lflag"], Printable name := by decide
  unfold decodeTermios at h
  by_cases h0 : address = 0
  · rw [if_pos h0] at h
    cases h
  · rw [if_neg h0] at h
    obtain ⟨term, -, hterm⟩ := Option.map_eq_some_iff.mp (Except.ok.inj h)
    rw [← hterm]
    split_ifs
    · refine List.forall_mem_map.mpr fun name hname => ?_
      exact ⟨hwords name hname, fun _ => printable_hexFormat _⟩
    · exact decodeFlagsSymbolic_clean term

/-! ### Socket addresses -/

theorem printable_inetNtoa (octets : List Nat) : Printable (inetNtoa octets) := by
  unfold inetNtoa
  rw [Text.printable_join (by decide), List.forall_mem_map]
  exact fun n _ => Text.printable_toString_nat n

theorem printable_formatWords (i : Nat) (run : Option (Nat × Nat)) (words : List Nat) :
    Printable (formatWords i run words) := by
  induction words generalizing i with
  | nil =>
    rw [formatWords]
    split_ifs <;> decide
  | cons w ws ih =>
    rw [formatWords]
    split_ifs <;> simp only [Text.printable_append, Text.printable_hex, ih, and_true] <;> decide

theorem printable_inetNtop6 (addr : Bytes) : Printable (inetNtop6 addr) := by
  unfold inetNtop6
  simp only
  split_ifs
  · exact Text.printable_append.mpr ⟨by decide, printable_inetNtoa _⟩
  · exact Text.printable_append.mpr ⟨by decide, printable_inetNtoa _⟩
  · exact printable_formatWords _ _ _

theorem portField_clean {name : String} (hname : Printable name) (host : ByteOrder) (port : Int) :
    CleanFields (portField name host port) := by
  have hcall (n : Nat) : Printable ("htons(" ++ toString n ++ ")") := by
    simp only [Text.printable_append, Text.printable_toString_nat, and_true]
    decide
  unfold portField
  simp only
  split_ifs
  · exact cleanFields_str hname (hcall _)
  · exact cleanFields_nil

theorem decodeUnix_clean (process : Process) (address : Nat) :
    CleanFields (decodeUnix process address) := by
  have hfamily : CleanFields [("sa_family", .str "AF_UNIX")] :=
    cleanFields_str (by decide) (by decide)
  unfold decodeUnix
  cases readStruct process address sockaddrUn with
  | none => exact hfamily
  | some structObj =>
    refine cleanFields_cons hfamily ?_
    cases (getChars structObj "sun_path").decodeUtf8 with
    | none => exact cleanFields_nil
    | some path =>
      simp only
      split_ifs
      · exact cleanFields_nil
      · have hname : Printable "sun_path" := by decide
        simpa [CleanFields, fieldText, textFields] using hname

theorem decodeInet_clean (process : Process) (address : Nat) :
    CleanFields (decodeInet process address) := by
  have hfamily : CleanFields [("sa_family", .str "AF_INET")] :=
    cleanFields_str (by decide) (by decide)
  have haddr (octets : List Nat) : Printable ("inet_addr(\"" ++ inetNtoa octets ++ "\")") := by
    simp only [Text.printable_append, printable_inetNtoa, and_true]
    decide
  unfold decodeInet
  cases readStruct process address sockaddrIn with
  | none => exact hfamily
  | some structObj =>
    refine cleanFields_cons hfamily (cleanFields_append ?_ ?_)
    · exact portField_clean (by decide) _ _
    · exact cleanFields_str (by decide) (haddr _)

theorem decodeInet6_clean (process : Process) (address : Nat) :
    CleanFields (decodeInet6 process address) := by
  have hfamily : CleanFields [("sa_family", .str "AF_INET6")] :=
    cleanFields_str (by decide) (by decide)
  have haddr (addr : Bytes) :
      Printable ("inet_pton(AF_INET6, \"" ++ inetNtop6 addr ++ "\")") := by
    simp only [Text.printable_append, printable_inetNtop6, and_true]
    decide
  unfold decodeInet6
  cases readStruct process address sockaddrIn6 with
  | none => exact hfamily
  | some structObj =>
    refine cleanFields_cons hfamily (cleanFields_append (cleanFields_append ?_ ?_) ?_)
    · exact portField_clean (by decide) _ _
    · exact cleanFields_str (by decide) (haddr _)
    · split_ifs
      · exact cleanFields_int (by decide) _
      · exact cleanFields_nil

theorem decodeSockaddr_clean {process : Process} {address : Nat} {noAbbrev : Bool} {fields : Fields}
    (h : decodeSockaddr process address noAbbrev = .ok (some fields)) : CleanFields fields := by
  have hfamilies : afConstants.Printable := by decide
  obtain ⟨base, -, hbase⟩ := Option.map_eq_some_iff.mp (Except.ok.inj h)
  rw [← hbase]
  simp only
  split_ifs
  · exact decodeUnix_clean process address
  · exact decodeInet_clean process address
  · exact decodeInet6_clean process address
  · exact cleanFields_str (by decide) (hfamilies.get _ (Text.printable_toString_int _))

/-! ### I/O vectors -/

theorem printable_readIovecBuffer {process : Process} {address : Option Nat} {size : Nat}
    {text : String} (h : readIovecBuffer process address size = .ok text) : Printable text := by
  have hunread : Printable "?" := by decide
  unfold readIovecBuffer at h
  split_ifs at h
  · cases h
    exact hunread
  · obtain ⟨data, -, hdata⟩ := bind_eq_ok.mp h
    cases data with
    | none =>
      cases hdata
      exact hunread
    | some bufData =>
      cases hdata
      exact printable_quoteString bufData 32

theorem printableItem_iovec {process : Process} {iovs : List Iovec} {items : List ItemFields}
    (h : decodeIovecs process iovs = .ok items) : ∀ d ∈ items, PrintableItem d := by
  have hbase : Printable "iov_base" := by decide
  have hlen : Printable "iov_len" := by decide
  induction iovs generalizing items with
  | nil =>
    cases h
    simp
  | cons iov iovs ih =>
    rw [decodeIovecs] at h
    obtain ⟨bufStr, hbuf, h⟩ := bind_eq_ok.mp h
    obtain ⟨rest, hrest, h⟩ := bind_eq_ok.mp h
    cases h
    refine List.forall_mem_cons.mpr ⟨?_, ih hrest⟩
    simpa [PrintableItem, Scalar.Printable, hbase, hlen] using printable_readIovecBuffer hbuf

theorem decodeIovecArray_printable {process : Process} {address : Nat} {count : Int}
    {items : List ItemFields} (h : decodeIovecArray process address count = .ok (some items)) :
    ∀ d ∈ items, PrintableItem d := by
  unfold decodeIovecArray at h
  cases hiovs : readIovecs process address count with
  | none =>
    rw [hiovs] at h
    cases h
  | some iovs =>
    rw [hiovs] at h
    obtain ⟨items', hitems, hres⟩ := map_eq_ok.mp h
    cases hres
    exact printableItem_iovec hitems

theorem printable_formatPointer (address : Nat) : Printable (formatPointer address) := by
  unfold formatPointer
  split_ifs
  · decide
  · exact Text.printable_hex0x address

theorem pointerWithLength_clean {pointerName lengthName : String} (hpointer : Printable pointerName)
    (hlength : Printable lengthName) (pointer : Nat) (length : Int) :
    CleanFields (pointerWithLength pointerName lengthName pointer length) :=
  cleanFields_cons (cleanFields_str hpointer (printable_formatPointer pointer))
    (cleanFields_int hlength _)

theorem decodeMsgIov_clean {process : Process} {msgIov : Nat} {msgIovlen : Int} {fields : Fields}
    (h : decodeMsgIov process msgIov msgIovlen = .ok fields) : CleanFields fields := by
  have hname : Printable "msg_iov" := by decide
  have hlength (n : Int) : CleanFields [("msg_iovlen", .int n)] := cleanFields_int (by decide) n
  have hpointer : CleanFields [("msg_iov", .str (formatPointer msgIov))] :=
    cleanFields_str hname (printable_formatPointer msgIov)
  unfold decodeMsgIov at h
  split_ifs at h
  · cases h
    exact cleanFields_cons (cleanFields_str hname (by decide)) (hlength 0)
  · obtain ⟨res, hres, h⟩ := bind_eq_ok.mp h
    rcases res with _ | _ | ⟨d, ds⟩
    · cases h
      exact cleanFields_cons hpointer (hlength _)
    · cases h
      exact cleanFields_cons hpointer (hlength _)
    · cases h
      refine cleanFields_cons ?_ (hlength _)
      have hitems := decodeIovecArray_printable hres
      simp only [CleanFields, List.mem_singleton, forall_eq]
      exact ⟨hname, fun _ => hitems⟩

theorem decodeMsghdr_clean {process : Process} {address : Nat} {noAbbrev : Bool} {fields : Fields}
    (h : decodeMsghdr process address noAbbrev = .ok (some fields)) : CleanFields fields := by
  unfold decodeMsghdr at h
  cases hread : readStruct process address msghdrStruct with
  | none =>
    rw [hread] at h
    cases h
  | some msghdr =>
    rw [hread] at h
    obtain ⟨iov, hiov, h⟩ := bind_eq_ok.mp h
    cases h
    refine cleanFields_append (cleanFields_append (cleanFields_append ?_ ?_) ?_) ?_
    · exact pointerWithLength_clean (by decide) (by decide) _ _
    · exact decodeMsgIov_clean hiov
    · exact pointerWithLength_clean (by decide) (by decide) _ _
    · split_ifs
      · exact cleanFields_int (by decide) _
      · exact cleanFields_nil

end StraceMacos
