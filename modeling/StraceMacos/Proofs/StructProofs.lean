import StraceMacos.Library.CValue
import StraceMacos.Proofs.EventArgProofs
import StraceMacos.Proofs.OutputProofs
import StraceMacos.Proofs.ParamProofs

/-!
# Structures as arguments

A structure is shown as it stands in memory at the entry of the call if it is an input, and at the
return of a successful call if it is an output: an entry for each member that is not excluded, in
the order of the members. For most structures the text of the argument determines the shown members.
-/

namespace StraceMacos

open CStruct Fallible

variable {spec : StructSpec} {noAbbrev : Bool} {members members' : List (Field × CVal)}
  {fields fields' : Fields}

/-! ## The members that are shown -/

/-- The members without the excluded ones. -/
def StructSpec.shown (spec : StructSpec) (members : List (Field × CVal)) : List (Field × CVal) :=
  members.filter fun m => m.1.name ∉ spec.excluded

/-- An entry of the result shows a member. -/
structure StructSpec.Shows (spec : StructSpec) (noAbbrev : Bool) (m : Field × CVal)
    (entry : String × FieldVal) : Prop where
  name_eq : entry.1 = m.1.name
  value_eq : spec.formatField noAbbrev m.1.name m.2 = .ok entry.2

theorem StructSpec.formatFields_shows (h : spec.formatFields noAbbrev members = .ok fields) :
    List.Forall₂ (spec.Shows noAbbrev) (spec.shown members) fields := by
  induction members generalizing fields with
  | nil =>
    cases h
    exact .nil
  | cons m members ih =>
    obtain ⟨f, value⟩ := m
    rw [formatFields] at h
    rw [shown, List.filter_cons]
    split_ifs at h with hexcluded
    · rw [if_neg (by simpa using hexcluded)]
      exact ih h
    · rw [if_pos (by simpa using hexcluded)]
      obtain ⟨shownValue, hvalue, h⟩ := bind_eq_ok.mp h
      obtain ⟨rest, hrest, h⟩ := bind_eq_ok.mp h
      cases h
      exact .cons ⟨rfl, hvalue⟩ (ih hrest)

/-- The memory at an address holds a structure with these members. -/
structure HoldsStruct (process : Process) (address : Nat) (fields : List Field)
    (members : List (Field × CVal)) : Prop where
  fields_eq : members.map Prod.fst = fields
  image : ∃ data, process.readMemory address (structSize fields) = some data ∧
    Image process.byteOrder members data

theorem HoldsStruct.readStruct_eq {process : Process} {address : Nat} {fields : List Field}
    (h : HoldsStruct process address fields members) (hsize : 0 < structSize fields) :
    readStruct process address fields = some members := by
  obtain ⟨data, hdata, himage⟩ := h.image
  rw [readStruct, Process.readData_eq_readMemory process address hsize, hdata, Option.map_some,
    ← h.fields_eq, himage.loadAll]

/-- The class has members, and not all of them are excluded. -/
structure StructSpec.Visible (spec : StructSpec) : Prop where
  size_pos : 0 < structSize spec.fields
  some_shown : ∃ f ∈ spec.fields, f.name ∉ spec.excluded

theorem HoldsStruct.map_fst_shown {process : Process} {address : Nat}
    (h : HoldsStruct process address spec.fields members) :
    (spec.shown members).map Prod.fst = spec.fields.filter fun f => f.name ∉ spec.excluded := by
  rw [← h.fields_eq, List.filter_map]
  rfl

theorem HoldsStruct.shown_ne_nil (hspec : spec.Visible) {process : Process} {address : Nat}
    (h : HoldsStruct process address spec.fields members) : spec.shown members ≠ [] := by
  obtain ⟨f, hf, hshown⟩ := hspec.some_shown
  intro hnil
  have hmem : f ∈ (spec.shown members).map Prod.fst := by
    rw [h.map_fst_shown]
    exact List.mem_filter.mpr ⟨hf, by simpa using hshown⟩
  rw [hnil] at hmem
  cases hmem

/-- The argument is the structure with the members that are not excluded. -/
def StructSpec.ShownBy (spec : StructSpec) (noAbbrev : Bool) (members : List (Field × CVal))
    (arg : SyscallArg) : Prop :=
  ∃ fields, arg = .struct fields ∧
    List.Forall₂ (spec.Shows noAbbrev) (spec.shown members) fields

/-- A structure that is looked at is shown member by member. -/
theorem decodeStructParam_shows {direction : ParamDirection} {ctx : DecodeContext}
    (hactive : direction.active ctx) (hspec : spec.Visible)
    (hmem : HoldsStruct ctx.process ctx.rawValue spec.fields members) :
    ∃ arg, decodeStructParam spec.decodeStruct direction ctx = .ok (some arg) ∧
      spec.ShownBy ctx.noAbbrev members arg := by
  have hread := hmem.readStruct_eq hspec.size_pos
  obtain ⟨result, hresult⟩ := spec.decodeStruct_ok ctx.process ctx.rawValue ctx.noAbbrev
  have hdecode := hresult
  rw [StructSpec.decodeStruct, hread] at hresult
  obtain ⟨fields, hfields, rfl⟩ := map_eq_ok.mp hresult
  have hshows := StructSpec.formatFields_shows hfields
  cases fields with
  | nil => exact absurd (List.forall₂_nil_right_iff.mp hshows) (hmem.shown_ne_nil hspec)
  | cons f fs => exact ⟨_, decodeStructParam_of_active hactive hdecode, f :: fs, rfl, hshows⟩

/-! ## In the events of a run -/

theorem registered_specs_visible :
    ∀ spec ∈ registeredDecoders.flatMap Param.specs, spec.Visible := by
  have hcheck : ∀ spec ∈ registeredDecoders.flatMap Param.specs,
      0 < structSize spec.fields ∧ ∃ f ∈ spec.fields, f.name ∉ spec.excluded := by
    rw [registered_specs]
    decide
  exact fun spec hspec => ⟨(hcheck spec hspec).1, (hcheck spec hspec).2⟩

/-- For a call with these raw values the parameter is decoded as a structure of this class. -/
inductive SyscallParam.IsStruct (spec : StructSpec) (direction : ParamDirection)
    (rawValues : List Nat) : SyscallParam → Prop where
  | plain : IsStruct spec direction rawValues (.plain (.struct spec direction))
  | variant {v : VariantParam} (h : ∀ ctx : DecodeContext, ctx.allArgs.vals = rawValues →
      v.select ctx = .decode (.struct spec direction)) :
      IsStruct spec direction rawValues (.variant v)

section IsStruct

variable {param : SyscallParam} {direction : ParamDirection} {rawValues : List Nat}

theorem SyscallParam.IsStruct.mem_decoders (h : param.IsStruct spec direction rawValues) :
    Param.struct spec direction ∈ param.decoders := by
  cases h with
  | plain => exact List.mem_singleton_self _
  | variant h =>
    exact VariantParam.select_mem
      (h ⟨false, ⟨.empty, .little⟩, 0, ⟨0, rawValues⟩, true, none⟩ rfl)

theorem SyscallParam.IsStruct.decode_eq (h : param.IsStruct spec direction rawValues)
    {ctx : DecodeContext} (hvals : ctx.allArgs.vals = rawValues) {before after : SysctlCaches}
    {r : Option SyscallArg} (hr : param.decode ctx before = .ok (r, after)) :
    decodeStructParam spec.decodeStruct direction ctx = .ok r := by
  have hparam : (Param.struct spec direction).decode ctx before = .ok (r, after) := by
    cases h with
    | plain => exact hr
    | @variant v h =>
      have hselect := h ctx hvals
      rw [SyscallParam.decode, VariantParam.decode, hselect] at hr
      exact hr
  obtain ⟨result, hresult, hpair⟩ := map_eq_ok.mp hparam
  cases hpair
  exact hresult

end IsStruct

/-- The argument `i` of the event is decoded as a structure of this class. -/
def SyscallEvent.HasStruct (event : SyscallEvent) (i : Nat) (spec : StructSpec)
    (direction : ParamDirection) : Prop :=
  ∃ d param, SyscallRegistry.init.lookupByName event.syscallName = some d ∧
    d.params[i]? = some param ∧ param.IsStruct spec direction event.rawArgs.vals

theorem SyscallEvent.HasStruct.visible {event : SyscallEvent} {i : Nat}
    {direction : ParamDirection} (h : event.HasStruct i spec direction) : spec.Visible := by
  obtain ⟨d, param, hd, hparam, hstruct⟩ := h
  obtain ⟨-, category, he⟩ := SyscallRegistry.lookupByName_eq_some hd
  exact registered_specs_visible spec (List.mem_flatMap.mpr ⟨_, mem_registeredDecoders he
    (List.mem_of_getElem? hparam) hstruct.mem_decoders, List.mem_singleton_self _⟩)

/-- The argument of the event is the address of a structure with these members. -/
def SyscallEvent.PointsTo (event : SyscallEvent) (process : Process) (i : Nat) (spec : StructSpec)
    (members : List (Field × CVal)) : Prop :=
  ∃ address, event.rawArgs.vals[i]? = some address ∧ address ≠ 0 ∧
    HoldsStruct process address spec.fields members

namespace Tracer

variable {t : Tracer} {options : Options} {filter : Filter} {stops : List Stop}

/-- The process when the tracer looks at what an argument of the event points to: at the entry of
the call for an input, and at its successful return for an output. -/
inductive LooksAt (options : Options) (filter : Filter) (stops : List Stop)
    (event : SyscallEvent) : ParamDirection → Process → Prop where
  | entry {pre post : List Stop} {stop : Stop} {tid : Nat} {address : Option Nat}
      (hstops : stops = pre ++ stop :: post)
      (hentered : EnteredAt options filter pre stop tid address event) :
      LooksAt options filter stops event .in stop.process
  | ret {pre post : List Stop} {stop : Stop} (hstops : stops = pre ++ stop :: post)
      (hwritten : WrittenAt options filter pre stop event) (hsuccess : event.Succeeded) :
      LooksAt options filter stops event .out stop.process

/-- The event shows its input structures as the memory at its entry holds them. -/
def ShowsInputs (noAbbrev : Bool) (entry : Stop) (event : SyscallEvent) : Prop :=
  ∀ i spec members, event.HasStruct i spec .in → event.PointsTo entry.process i spec members →
    ∃ arg, event.args[i]? = some arg ∧ spec.ShownBy noAbbrev members arg

theorem showsInputs_at_entry : HoldsAtEntry options filter (ShowsInputs options.noAbbrev) := by
  intro s stop frame name args rawArgs decoder hs hdecode i spec members hstruct hpoints
  have hspec := hstruct.visible
  obtain ⟨d, param, hd, hparam, hstruct⟩ := hstruct
  obtain ⟨address, hraw, hne, hmem⟩ := hpoints
  obtain ⟨before, after, r, hget, hr⟩ := decodeEntry_arg hs hd hdecode hparam hraw
  have hactive : ParamDirection.in.active
      ⟨options.noAbbrev, stop.process, address, rawArgs, true, none⟩ := ⟨rfl, hne⟩
  obtain ⟨arg, harg, hshown⟩ := decodeStructParam_shows hactive hspec hmem
  obtain rfl : r = some arg := Except.ok.inj ((hstruct.decode_eq rfl hr).symm.trans harg)
  exact ⟨arg, hget, hshown⟩

theorem showsInputs_at_return : KeptAtReturn options filter (ShowsInputs options.noAbbrev) := by
  intro entry s stop frame event event' decoder hs hcomplete hevent i spec members hstruct hpoints
  obtain ⟨args, heq⟩ := completeEvent_eq hcomplete
  have hname : event'.syscallName = event.syscallName := by rw [heq]
  have hraw : event'.rawArgs = event.rawArgs := by rw [heq]
  unfold SyscallEvent.HasStruct at hstruct
  unfold SyscallEvent.PointsTo at hpoints
  rw [hname, hraw] at hstruct
  rw [hraw] at hpoints
  obtain ⟨arg, harg, hshown⟩ := hevent i spec members hstruct hpoints
  obtain ⟨d, param, hd, hparam, hstruct⟩ := hstruct
  obtain ⟨address, haddress, -⟩ := hpoints
  refine ⟨arg, ?_, hshown⟩
  rcases completeEvent_arg hs hd hcomplete hparam haddress harg with hkept | hagain
  · exact hkept
  · -- The decoder of an input returns nothing at the return.
    obtain ⟨before, after, r, hget, hr⟩ := hagain
    obtain rfl : none = r := Except.ok.inj (hstruct.decode_eq rfl hr)
    exact hget

/-- A structure that an argument of a written event points to is shown. -/
theorem LooksAt.shows {event : SyscallEvent} {direction : ParamDirection} {process : Process}
    {i : Nat} (hlooks : LooksAt options filter stops event direction process)
    (h : (init options filter).run stops = .ok t) (hmem : event ∈ t.written)
    (hstruct : event.HasStruct i spec direction)
    (hpoints : event.PointsTo process i spec members) :
    ∃ arg, event.args[i]? = some arg ∧ spec.ShownBy options.noAbbrev members arg := by
  cases hlooks with
  | @entry pre post stop tid address hstops hentered =>
    obtain ⟨pre', stop', post', tid', address', hstops', hentered', hshows⟩ :=
      (run_madeWith showsInputs_at_entry showsInputs_at_return h).written event hmem
    obtain rfl := hentered.stop_eq hentered' (hstops.symm.trans hstops')
    exact hshows i spec members hstruct hpoints
  | @ret pre post stop hstops hwritten hsuccess =>
    have hspec := hstruct.visible
    obtain ⟨d, param, hd, hparam, hstruct⟩ := hstruct
    obtain ⟨address, hraw, hne, hholds⟩ := hpoints
    obtain ⟨args, raw, caches, state, hargs, -, hdecode⟩ := hwritten.decoded_again hd hsuccess
    have hi : i < args.length := by
      rw [hargs]
      exact (List.getElem?_eq_some_iff.mp hparam).1
    obtain ⟨before, after, r, hget, hr⟩ :=
      decodeArgsAtExit_getElem? hdecode hparam hraw (List.getElem?_eq_getElem hi)
    have hactive : ParamDirection.out.active ⟨options.noAbbrev, stop.process, address,
        event.rawArgs, false, some event.returnValue⟩ := ⟨rfl, hne⟩
    obtain ⟨arg, harg, hshown⟩ := decodeStructParam_shows hactive hspec hholds
    obtain rfl : r = some arg := Except.ok.inj ((hstruct.decode_eq rfl hr).symm.trans harg)
    exact ⟨arg, hget, hshown⟩

end Tracer

/-! ## Texts that tell structures apart -/

/-- The values of a member of this type. -/
def HasValue (t : CType) (v : CVal) : Prop :=
  ∃ order part, Stores order t v part

theorem HasValue.int {size : Nat} {signed : Bool} {v : CVal} (h : HasValue (.int size signed) v) :
    ∃ i, v = .int i ∧ InRange size signed i := by
  obtain ⟨_, _, h⟩ := h
  cases h with
  | int h => exact ⟨_, rfl, h⟩

theorem HasValue.voidPtr {v : CVal} (h : HasValue .voidPtr v) :
    v = .voidPtr none ∨ ∃ a, v = .voidPtr (some a) := by
  obtain ⟨_, _, h⟩ := h
  cases h with
  | null => exact .inl rfl
  | ptr => exact .inr ⟨_, rfl⟩

/-- What is shown of a member of this type determines its value, and has no comma. -/
structure TellsApart (t : CType) (format : CVal → Except PyError FieldVal) : Prop where
  no_comma : ∀ {v shown}, HasValue t v → format v = .ok shown → ',' ∉ shown.toStr.toList
  inj : ∀ {v v' shown shown'}, HasValue t v → HasValue t v' → format v = .ok shown →
    format v' = .ok shown' → shown.toStr = shown'.toStr → v = v'

/-- A formatter of integers tells the integers of a type apart. -/
structure TellsInts (size : Nat) (signed : Bool) (format : Int → Bool → String) : Prop where
  no_comma : ∀ {v}, InRange size signed v → ∀ noAbbrev, ',' ∉ (format v noAbbrev).toList
  inj : ∀ {v v'}, InRange size signed v → InRange size signed v' → ∀ {noAbbrev},
    format v noAbbrev = format v' noAbbrev → v = v'

theorem TellsInts.tellsApart {size : Nat} {signed : Bool} {format : Int → Bool → String}
    (h : TellsInts size signed format) (noAbbrev : Bool) :
    TellsApart (.int size signed)
      fun v => ((Formatter.onInt format).apply v noAbbrev).map FieldVal.str where
  no_comma hv hshown := by
    obtain ⟨i, rfl, hi⟩ := hv.int
    cases hshown
    exact h.no_comma hi noAbbrev
  inj hv hv' hshown hshown' htext := by
    obtain ⟨i, rfl, hi⟩ := hv.int
    obtain ⟨i', rfl, hi'⟩ := hv'.int
    cases hshown
    cases hshown'
    exact congrArg CVal.int (h.inj hi hi' htext)

/-- A number or a pointer without a formatter. -/
theorem tellsApart_raw {t : CType} (h : t.kind = .int ∨ t.kind = .voidPtr) :
    TellsApart t fun v => .ok (rawFieldVal v) where
  no_comma hv hshown := by
    cases hshown
    cases t with
    | int size signed =>
      obtain ⟨i, rfl, -⟩ := hv.int
      exact comma_not_mem_toString i
    | voidPtr =>
      obtain rfl | ⟨a, rfl⟩ := hv.voidPtr
      · decide
      · exact comma_not_mem_toString a
    | _ => simp [CType.kind] at h
  inj hv hv' hshown hshown' htext := by
    cases hshown
    cases hshown'
    have hnone (a : Nat) : "None" ≠ toString (a : Int) := fun heq => by
      have hmem : 'N' ∈ (toString (a : Int)).toList := heq ▸ by decide
      exact Text.not_mem_toString_int (by decide) (by decide) a hmem
    cases t with
    | int size signed =>
      obtain ⟨i, rfl, -⟩ := hv.int
      obtain ⟨i', rfl, -⟩ := hv'.int
      exact congrArg CVal.int (Text.toString_int_inj.mp htext)
    | voidPtr =>
      obtain rfl | ⟨a, rfl⟩ := hv.voidPtr <;> obtain rfl | ⟨a', rfl⟩ := hv'.voidPtr
      · rfl
      · exact absurd htext (hnone a')
      · exact absurd htext.symm (hnone a)
      · rw [Int.natCast_inj.mp (Text.toString_int_inj.mp htext)]
    | _ => simp [CType.kind] at h

/-- Every shown member of the structures of this class is told apart, and its name has no comma. -/
structure StructSpec.Tells (spec : StructSpec) : Prop where
  visible : spec.Visible
  names : ∀ f ∈ spec.fields, ',' ∉ f.name.toList
  formatters : ∀ f ∈ spec.fields, ∀ formatter, (f.name, formatter) ∈ spec.formatters →
    ∃ size signed format, f.type = .int size signed ∧ formatter = .onInt format ∧
      TellsInts size signed format

theorem StructSpec.Tells.formatField (h : spec.Tells) {f : Field} (hf : f ∈ spec.fields)
    (hshown : f.name ∉ spec.excluded) (noAbbrev : Bool) :
    TellsApart f.type (spec.formatField noAbbrev f.name) := by
  have hkind := spec.formatters_kind f hf hshown
  unfold StructSpec.formatField
  cases hlookup : spec.formatters.lookup f.name with
  | none =>
    rw [hlookup] at hkind
    exact tellsApart_raw (by simpa [showable] using hkind)
  | some formatter =>
    obtain ⟨size, signed, format, htype, rfl, htells⟩ :=
      h.formatters f hf formatter (Dict.mem_of_lookup hlookup)
    rw [htype]
    exact htells.tellsApart noAbbrev

/-! ## Formatters -/

theorem tellsInts_number {size : Nat} {signed : Bool} {suffix : String}
    (hsuffix : ',' ∉ suffix.toList) :
    TellsInts size signed fun v _ => toString v ++ suffix where
  no_comma _ _ := by
    rw [String.toList_append, List.mem_append, not_or]
    exact ⟨comma_not_mem_toString _, hsuffix⟩
  inj _ _ _ htext := Text.toString_int_inj.mp (String.append_left_inj _ |>.mp htext)

theorem tellsInts_decodeRlim {size : Nat} {signed : Bool} : TellsInts size signed decodeRlim where
  no_comma {v} _ _ := by
    unfold decodeRlim
    split_ifs
    · decide
    · exact comma_not_mem_toString v
  inj {v v'} _ _ _ htext := by
    have hword (i : Int) : "RLIM_INFINITY" ≠ toString i := fun heq => by
      have hmem : 'R' ∈ (toString i).toList := heq ▸ by decide
      exact Text.not_mem_toString_int (by decide) (by decide) i hmem
    unfold decodeRlim at htext
    split_ifs at htext with hv hv' hv'
    · rw [hv, hv']
    · exact absurd htext (hword v')
    · exact absurd htext.symm (hword v)
    · exact Text.toString_int_inj.mp htext

/-- The names of a table, or decimal numbers. -/
theorem tellsInts_get {size : Nat} {signed : Bool} {table : SymbolTable}
    {format : Int → Bool → String} (hnodup : (table.map Prod.snd).Nodup)
    (hname : ∀ e ∈ table, CExpr.isName e.2 = true ∧ ',' ∉ e.2.toList)
    (hformat : ∀ v noAbbrev, format v noAbbrev =
      if noAbbrev then toString v else table.get v (toString v)) :
    TellsInts size signed format where
  no_comma {v} _ noAbbrev := by
    rw [hformat]
    split_ifs
    · exact comma_not_mem_toString v
    · unfold SymbolTable.get
      cases hlookup : table.lookup v with
      | none => exact comma_not_mem_toString v
      | some name => exact (hname _ (Dict.mem_of_lookup hlookup)).2
  inj {v v'} _ _ noAbbrev htext := by
    rw [hformat, hformat] at htext
    split_ifs at htext
    · exact Text.toString_int_inj.mp htext
    · exact SymbolTable.get_inj hnodup (fun e he => (hname e he).1) htext

/-! ### The mode of a file -/

/-- The text of the file type in a mode. -/
def fileTypeText (fileType : Nat) : String :=
  sFileTypes.get fileType ("0" ++ Text.numeral 8 fileType)

theorem sFileTypes_names : (sFileTypes.map Prod.snd).Nodup ∧ ∀ e ∈ sFileTypes,
    ',' ∉ e.2.toList ∧ '|' ∉ e.2.toList ∧ e.2.toList.head? = some 'S' := by
  decide

theorem not_mem_octal {c : Char} (hzero : c ≠ '0') (hdigit : ∀ d < 8, d.digitChar ≠ c) (n : Nat) :
    c ∉ ("0" ++ Text.numeral 8 n).toList := by
  rw [CExpr.toList_octal, List.mem_cons, not_or]
  refine ⟨hzero, fun h => ?_⟩
  obtain ⟨d, hd, rfl⟩ := Text.isDigit_of_mem_toDigits (by omega : 1 < 8) (by omega) h
  exact hdigit d hd rfl

theorem not_mem_fileTypeText {c : Char} (hc : c = ',' ∨ c = '|') (fileType : Nat) :
    c ∉ (fileTypeText fileType).toList := by
  unfold fileTypeText SymbolTable.get
  cases hlookup : sFileTypes.lookup (fileType : Int) with
  | none =>
    rcases hc with rfl | rfl
    · exact not_mem_octal (by decide) (by decide) fileType
    · exact not_mem_octal (by decide) (by decide) fileType
  | some name =>
    obtain ⟨hcomma, hbar, -⟩ := sFileTypes_names.2 _ (Dict.mem_of_lookup hlookup)
    rcases hc with rfl | rfl
    · exact hcomma
    · exact hbar

theorem fileTypeText_inj {fileType fileType' : Nat}
    (h : fileTypeText fileType = fileTypeText fileType') : fileType = fileType' := by
  have hoctal {name : String} {v : Int} (hname : sFileTypes.lookup v = some name) (n : Nat) :
      name ≠ "0" ++ Text.numeral 8 n := fun heq => by
    obtain ⟨-, -, hhead⟩ := sFileTypes_names.2 _ (Dict.mem_of_lookup hname)
    rw [heq, CExpr.toList_octal] at hhead
    exact absurd (Option.some.inj hhead) (by decide)
  unfold fileTypeText SymbolTable.get at h
  cases hl : sFileTypes.lookup (fileType : Int) with
  | none =>
    cases hl' : sFileTypes.lookup (fileType' : Int) with
    | none =>
      rw [hl, hl'] at h
      exact (Text.numeral_inj (by omega) (by omega)).mp ((String.append_right_inj "0").mp h)
    | some name =>
      rw [hl, hl'] at h
      exact absurd h.symm (hoctal hl' fileType)
  | some name =>
    cases hl' : sFileTypes.lookup (fileType' : Int) with
    | none =>
      rw [hl, hl'] at h
      exact absurd h (hoctal hl fileType')
    | some name' =>
      rw [hl, hl'] at h
      have hmode := congrArg Prod.fst (List.inj_on_of_nodup_map sFileTypes_names.1
        (Dict.mem_of_lookup hl) (Dict.mem_of_lookup hl') h)
      exact Int.natCast_inj.mp hmode

theorem decodeStatMode_natCast (mode : Nat) (noAbbrev : Bool) : decodeStatMode mode noAbbrev =
    if noAbbrev then "0" ++ Text.numeral 8 mode
    else fileTypeText (mode &&& 0o170000) ++ "|" ++ ("0" ++ Text.numeral 8 (mode &&& 0o7777)) := by
  unfold decodeStatMode
  split_ifs
  · rfl
  · show fileTypeText (mode &&& 0o170000) ++ "|0" ++ Text.numeral 8 (mode &&& 0o7777) = _
    have hbar : "|0" = "|" ++ "0" := rfl
    rw [hbar, ← String.append_assoc, String.append_assoc]

/-- A mode of 16 bits consists of its type and its permissions. -/
theorem mode_of_parts {mode : Nat} (h : mode < 2 ^ 16) :
    mode = mode &&& 0o170000 ||| mode &&& 0o7777 := by
  rw [← Nat.and_or_distrib_left, show 0o170000 ||| 0o7777 = 2 ^ 16 - 1 from rfl,
    Nat.and_two_pow_sub_one_eq_mod, Nat.mod_eq_of_lt h]

theorem tellsInts_decodeStatMode : TellsInts 2 false decodeStatMode where
  no_comma {v} hv noAbbrev := by
    obtain ⟨mode, rfl⟩ := Int.eq_ofNat_of_zero_le hv.1
    rw [decodeStatMode_natCast]
    have hoctal := not_mem_octal (by decide : ',' ≠ '0') (by decide)
    split_ifs
    · exact hoctal mode
    · rw [String.toList_append, String.toList_append, List.mem_append, List.mem_append, not_or,
        not_or]
      exact ⟨⟨not_mem_fileTypeText (.inl rfl) _, by decide⟩, hoctal _⟩
  inj {v v'} hv hv' noAbbrev htext := by
    obtain ⟨mode, rfl⟩ := Int.eq_ofNat_of_zero_le hv.1
    obtain ⟨mode', rfl⟩ := Int.eq_ofNat_of_zero_le hv'.1
    have hlt : mode < 2 ^ 16 := Int.ofNat_lt.mp hv.2
    have hlt' : mode' < 2 ^ 16 := Int.ofNat_lt.mp hv'.2
    have hoctal {n n' : Nat} (h : "0" ++ Text.numeral 8 n = "0" ++ Text.numeral 8 n') : n = n' :=
      (Text.numeral_inj (by omega) (by omega)).mp ((String.append_right_inj "0").mp h)
    rw [decodeStatMode_natCast, decodeStatMode_natCast] at htext
    split_ifs at htext
    · rw [hoctal htext]
    · have hlists := congrArg String.toList htext
      simp only [String.toList_append, List.append_assoc] at hlists
      obtain ⟨htype, hperms⟩ := Text.append_cons_inj (not_mem_fileTypeText (.inr rfl) _)
        (not_mem_fileTypeText (.inr rfl) _) hlists
      have htype := fileTypeText_inj (String.toList_injective htype)
      have hperms := hoctal (String.toList_injective (by simpa using hperms))
      rw [mode_of_parts hlt, mode_of_parts hlt', htype, hperms]

/-! ## The structures -/

/-- The structures without flag words and strings. -/
def tellingSpecs : List StructSpec :=
  [statSpec, winsizeSpec, rlimitSpec, rusageSpec, timespecSpec, timevalSpec, msqidDsSpec,
    semidDsSpec, shmidDsSpec, aiocbSpec, sigeventSpec, fssearchblockSpec]

theorem tellingSpecs_names : ∀ spec ∈ tellingSpecs, 0 < structSize spec.fields ∧
    (∃ f ∈ spec.fields, f.name ∉ spec.excluded) ∧
    ∀ f ∈ spec.fields, Text.IsAscii f.name ∧ ',' ∉ Text.asciiChars f.name := by
  decide

/-- The formatters of the class tell the integers of their members apart. -/
def StructSpec.FormattersTell (spec : StructSpec) : Prop :=
  ∀ e ∈ spec.formatters, ∃ size signed format, e.2 = .onInt format ∧
    TellsInts size signed format ∧ ∀ f ∈ spec.fields, f.name = e.1 → f.type = .int size signed

theorem formattersTell_of_empty (h : spec.formatters = []) : spec.FormattersTell := by
  intro e he
  rw [h] at he
  cases he

theorem formattersTell_stat : statSpec.FormattersTell :=
  List.forall_mem_singleton.mpr ⟨2, false, _, rfl, tellsInts_decodeStatMode, by decide⟩

theorem formattersTell_rlimit : rlimitSpec.FormattersTell :=
  List.forall_mem_cons.mpr ⟨⟨8, false, _, rfl, tellsInts_decodeRlim, by decide⟩,
    List.forall_mem_singleton.mpr ⟨8, false, _, rfl, tellsInts_decodeRlim, by decide⟩⟩

theorem formattersTell_rusage : rusageSpec.FormattersTell := by
  have hsec : TellsInts 8 true decodeTimeSec := tellsInts_number (by decide)
  have husec : TellsInts 4 true decodeTimeUsec := tellsInts_number (by decide)
  refine List.forall_mem_cons.mpr ⟨⟨8, true, _, rfl, hsec, by decide⟩, ?_⟩
  refine List.forall_mem_cons.mpr ⟨⟨4, true, _, rfl, husec, by decide⟩, ?_⟩
  refine List.forall_mem_cons.mpr ⟨⟨8, true, _, rfl, hsec, by decide⟩, ?_⟩
  exact List.forall_mem_singleton.mpr ⟨4, true, _, rfl, husec, by decide⟩

theorem formattersTell_sigevent : sigeventSpec.FormattersTell :=
  List.forall_mem_singleton.mpr ⟨4, true, _, rfl,
    @tellsInts_get 4 true sigevNotify _ (by decide) (by decide) fun _ _ => rfl, by decide⟩

theorem formattersTell_aiocb : aiocbSpec.FormattersTell :=
  List.forall_mem_singleton.mpr ⟨4, true, _, rfl,
    @tellsInts_get 4 true lioOpcodes _ (by decide) (by decide) fun _ _ => rfl, by decide⟩

theorem tells_of_mem (h : spec ∈ tellingSpecs) : spec.Tells := by
  obtain ⟨hsize, hshown, hnames⟩ := tellingSpecs_names spec h
  refine ⟨⟨hsize, hshown⟩, fun f hf => ?_, fun f hf formatter hformatter => ?_⟩
  · rw [Text.toList_eq_asciiChars (hnames f hf).1]
    exact (hnames f hf).2
  · have htell : spec.FormattersTell := by
      simp only [tellingSpecs, List.mem_cons, List.not_mem_nil, or_false] at h
      rcases h with rfl | rfl | rfl | rfl | rfl | rfl | rfl | rfl | rfl | rfl | rfl | rfl
      · exact formattersTell_stat
      · exact formattersTell_of_empty rfl
      · exact formattersTell_rlimit
      · exact formattersTell_rusage
      · exact formattersTell_of_empty rfl
      · exact formattersTell_of_empty rfl
      · exact formattersTell_of_empty rfl
      · exact formattersTell_of_empty rfl
      · exact formattersTell_of_empty rfl
      · exact formattersTell_aiocb
      · exact formattersTell_sigevent
      · exact formattersTell_of_empty rfl
    obtain ⟨size, signed, format, hformat, htells, htype⟩ := htell _ hformatter
    exact ⟨size, signed, format, htype f hf rfl, hformat, htells⟩

/-! ## The text of a structure -/

/-- A member of a structure of this class that is shown. -/
def StructSpec.IsShown (spec : StructSpec) (m : Field × CVal) : Prop :=
  m.1 ∈ spec.fields ∧ m.1.name ∉ spec.excluded ∧ HasValue m.1.type m.2

theorem HoldsStruct.isShown {process : Process} {address : Nat}
    (h : HoldsStruct process address spec.fields members) :
    ∀ m ∈ spec.shown members, spec.IsShown m := by
  intro m hm
  obtain ⟨hmem, hshown⟩ := List.mem_filter.mp hm
  obtain ⟨data, -, parts, hparts, -⟩ := h.image
  have hvalue : ∀ m ∈ members, HasValue m.1.type m.2 := by
    clear hmem hm h
    induction hparts with
    | nil => simp
    | cons hpart _ ih => exact List.forall_mem_cons.mpr ⟨⟨_, _, hpart⟩, ih⟩
  exact ⟨h.fields_eq ▸ List.mem_map_of_mem hmem, by simpa using hshown, hvalue m hmem⟩

/-- One entry of the text of a structure. -/
def entryText (entry : String × FieldVal) : String :=
  entry.1 ++ "=" ++ entry.2.toStr

theorem comma_not_mem_entryText (htells : spec.Tells) {m : Field × CVal} (hm : spec.IsShown m)
    {entry : String × FieldVal} (h : spec.Shows noAbbrev m entry) :
    ',' ∉ (entryText entry).toList := by
  have hvalue := (htells.formatField hm.1 hm.2.1 noAbbrev).no_comma hm.2.2 h.value_eq
  rw [entryText, String.toList_append, String.toList_append, List.mem_append, List.mem_append,
    not_or, not_or, h.name_eq]
  exact ⟨⟨htells.names _ hm.1, by decide⟩, hvalue⟩

/-- Members with the same texts are the same. -/
theorem eq_of_entryTexts (htells : spec.Tells) {ms ms' : List (Field × CVal)}
    (hms : ∀ m ∈ ms, spec.IsShown m) (hms' : ∀ m ∈ ms', spec.IsShown m)
    (hfields : ms.map Prod.fst = ms'.map Prod.fst)
    (h : List.Forall₂ (spec.Shows noAbbrev) ms fields)
    (h' : List.Forall₂ (spec.Shows noAbbrev) ms' fields')
    (htexts : fields.map entryText = fields'.map entryText) : ms = ms' := by
  induction h generalizing ms' fields' with
  | nil => simpa using hfields.symm
  | @cons m entry ms fields hm _ ih =>
    cases h' with
    | nil => simp at hfields
    | @cons m' entry' ms' fields' hm' hrest' =>
      obtain ⟨hfield, hrestFields⟩ := List.cons.inj hfields
      obtain ⟨htext, htexts⟩ := List.cons.inj htexts
      obtain ⟨hshown, hrestShown⟩ := List.forall_mem_cons.mp hms
      obtain ⟨hshown', hrestShown'⟩ := List.forall_mem_cons.mp hms'
      obtain ⟨f, v⟩ := m
      obtain ⟨f', v'⟩ := m'
      obtain rfl : f = f' := hfield
      have hvalue : entry.2.toStr = entry'.2.toStr := by
        rw [entryText, entryText, hm.name_eq, hm'.name_eq] at htext
        exact (String.append_right_inj _).mp htext
      obtain rfl : v = v' := (htells.formatField hshown.1 hshown.2.1 noAbbrev).inj hshown.2.2
        hshown'.2.2 hm.value_eq hm'.value_eq hvalue
      rw [ih hrestShown hrestShown' hrestFields hrest' htexts]

theorem toStr_struct (hne : fields ≠ []) : (SyscallArg.struct fields).toStr =
    "\x7b" ++ Text.join ", " (fields.map entryText) ++ "\x7d" := by
  cases fields with
  | nil => exact absurd rfl hne
  | cons entry fields => rfl

/-- Structures with the same text have the same shown members. -/
theorem shown_of_toStr_eq (htells : spec.Tells) {process process' : Process}
    {address address' : Nat}
    (hmem : HoldsStruct process address spec.fields members)
    (hmem' : HoldsStruct process' address' spec.fields members')
    (h : List.Forall₂ (spec.Shows noAbbrev) (spec.shown members) fields)
    (h' : List.Forall₂ (spec.Shows noAbbrev) (spec.shown members') fields')
    (htext : (SyscallArg.struct fields).toStr = (SyscallArg.struct fields').toStr) :
    spec.shown members = spec.shown members' := by
  have hfields : (spec.shown members).map Prod.fst = (spec.shown members').map Prod.fst := by
    rw [hmem.map_fst_shown, hmem'.map_fst_shown]
  have hcomma {ms : List (Field × CVal)} {fs : Fields} (hms : ∀ m ∈ ms, spec.IsShown m)
      (hfs : List.Forall₂ (spec.Shows noAbbrev) ms fs) :
      ∀ text ∈ fs.map entryText, ',' ∉ text.toList := by
    induction hfs with
    | nil => simp
    | cons hm _ ih =>
      obtain ⟨hshown, hrest⟩ := List.forall_mem_cons.mp hms
      exact List.forall_mem_cons.mpr ⟨comma_not_mem_entryText htells hshown hm, ih hrest⟩
  have hlen : (fields.map entryText).length = (fields'.map entryText).length := by
    have hlengths := congrArg List.length hfields
    rw [List.length_map, List.length_map, h.length_eq, h'.length_eq] at hlengths
    rwa [List.length_map, List.length_map]
  have hne : fields ≠ [] := by
    rintro rfl
    exact hmem.shown_ne_nil htells.visible (List.forall₂_nil_right_iff.mp h)
  have hne' : fields' ≠ [] := by
    rintro rfl
    exact hmem'.shown_ne_nil htells.visible (List.forall₂_nil_right_iff.mp h')
  rw [toStr_struct hne, toStr_struct hne', String.append_left_inj, String.append_right_inj] at htext
  have htexts : fields.map entryText = fields'.map entryText :=
    Text.join_inj hlen (hcomma hmem.isShown h) (hcomma hmem'.isShown h') htext
  exact eq_of_entryTexts htells hmem.isShown hmem'.isShown hfields h h' htexts

namespace Tracer

variable {t : Tracer} {options : Options} {filter : Filter} {stops : List Stop}

/-- **A structure is shown as the memory holds it when the tracer looks at it**, in every written
event of every run: an entry for each member that is not excluded, in order; and for the structures
without flag words and strings, arguments with the same text show the same members, in whatever
events of whatever runs with the same abbreviations. -/
theorem struct_arg_shown (h : (init options filter).run stops = .ok t) : ∀ event ∈ t.written,
    ∀ i spec direction process members, event.HasStruct i spec direction →
    LooksAt options filter stops event direction process →
    event.PointsTo process i spec members →
    ∃ arg, event.args[i]? = some arg ∧ spec.ShownBy options.noAbbrev members arg ∧
      (spec ∈ tellingSpecs → ∀ options' filter' stops' t',
        (init options' filter').run stops' = .ok t' → options'.noAbbrev = options.noAbbrev →
        ∀ event' ∈ t'.written, ∀ i' direction' process' members' arg',
          event'.HasStruct i' spec direction' →
          LooksAt options' filter' stops' event' direction' process' →
          event'.PointsTo process' i' spec members' → event'.args[i']? = some arg' →
          arg'.toStr = arg.toStr → spec.shown members' = spec.shown members) := by
  intro event hmem i spec direction process members hstruct hlooks hpoints
  obtain ⟨arg, harg, hshown⟩ := hlooks.shows h hmem hstruct hpoints
  refine ⟨arg, harg, hshown, ?_⟩
  intro htelling options' filter' stops' t' h' hmode event' hmem' i' direction' process' members'
    arg' hstruct' hlooks' hpoints' harg' htext
  obtain ⟨_, hget, hshown'⟩ := hlooks'.shows h' hmem' hstruct' hpoints'
  obtain rfl := Option.some.inj (hget.symm.trans harg')
  obtain ⟨fields, rfl, hfields⟩ := hshown
  obtain ⟨fields', rfl, hfields'⟩ := hshown'
  obtain ⟨address, -, -, hholds⟩ := hpoints
  obtain ⟨address', -, -, hholds'⟩ := hpoints'
  rw [hmode] at hfields'
  exact shown_of_toStr_eq (tells_of_mem htelling) hholds' hholds hfields' hfields htext

/-- `{rlim_cur=5, rlim_max=RLIM_INFINITY}` -/
def rlimitMembers : List (Field × CVal) :=
  [(⟨"rlim_cur", u64⟩, .int 5), (⟨"rlim_max", u64⟩, .int 0x7FFFFFFFFFFFFFFF)]

/-- A process with the limits in memory. -/
def rlimitProcess : Process :=
  byteProcess (page (Bytes.ofInt .little 8 5 ++ Bytes.ofInt .little 8 0x7FFFFFFFFFFFFFFF)) .little

theorem holdsStruct_rlimit : HoldsStruct rlimitProcess 0x1000 rlimitSpec.fields rlimitMembers := by
  have hparts : List.Forall₂ (fun (m : Field × CVal) part => Stores .little m.1.type m.2 part)
      rlimitMembers [Bytes.ofInt .little 8 5, Bytes.ofInt .little 8 0x7FFFFFFFFFFFFFFF] :=
    .cons (.int (by decide)) (.cons (.int (by decide)) .nil)
  exact ⟨rfl, _, rfl, _, hparts, lays_flatten (by decide) (by decide)⟩

/-- A call of `name` with the descriptor limit and the address of the structure, which returns 0. -/
def rlimitCall (name : String) : List Stop :=
  [{ sampleStop 1 0x100 name [("lr", 0x500), ("x0", 8), ("x1", 0x1000)] with
      process := rlimitProcess },
    { sampleStop 1 0x500 "main" [("x0", 0)] with process := rlimitProcess }]

/-- The limits are set, and then they are got. -/
def rlimitStops : List Stop :=
  rlimitCall "setrlimit" ++ rlimitCall "getrlimit"

theorem run_rlimitStops : ∃ t, (init sampleOptions .all).run rlimitStops = .ok t ∧
    t.written.map (fun event => (event.syscallName, event.returnValue, event.rawArgs.vals)) =
      [("setrlimit", .int 0, [8, 0x1000]), ("getrlimit", .int 0, [8, 0x1000])] := by
  have hrun : ((init sampleOptions .all).run rlimitStops).toOption.map (fun t => t.written.map
      fun event => (event.syscallName, event.returnValue, event.rawArgs.vals)) =
        some [("setrlimit", .int 0, [8, 0x1000]), ("getrlimit", .int 0, [8, 0x1000])] := by
    rw [init_eq_initByNumber]
    decide +kernel
  obtain ⟨t, ht, hwritten⟩ := Option.map_eq_some_iff.mp hrun
  exact ⟨t, toOption_eq_some.mp ht, hwritten⟩

theorem hasStruct_rlimit (name : String) (direction : ParamDirection) (number : Nat)
    (category : SyscallCategory)
    (h : (registered.reverse.find? fun e => e.1.number = number) = some
      ({ number := number
         name := name
         params := plainParams [.const rlimitResources, .struct rlimitSpec direction] }, category))
    {event : SyscallEvent} (hname : event.syscallName = name) :
    event.HasStruct 1 rlimitSpec direction :=
  ⟨_, _, hname ▸ SyscallRegistry.lookupByName_of_number _ _ h, rfl, .plain⟩

set_option maxRecDepth 10000 in
theorem hasStruct_setrlimit {event : SyscallEvent} (h : event.syscallName = "setrlimit") :
    event.HasStruct 1 rlimitSpec .in :=
  hasStruct_rlimit "setrlimit" .in 195 .process rfl h

set_option maxRecDepth 10000 in
theorem hasStruct_getrlimit {event : SyscallEvent} (h : event.syscallName = "getrlimit") :
    event.HasStruct 1 rlimitSpec .out :=
  hasStruct_rlimit "getrlimit" .out 194 .process rfl h

/-- Both calls show the limits. -/
theorem struct_arg_shown_rlimit : ∃ t, (init sampleOptions .all).run rlimitStops = .ok t ∧
    t.written.map SyscallEvent.syscallName = ["setrlimit", "getrlimit"] ∧
    ∀ event ∈ t.written, ∃ arg, event.args[1]? = some arg ∧
      rlimitSpec.ShownBy false rlimitMembers arg := by
  obtain ⟨t, ht, hwritten⟩ := run_rlimitStops
  have hnames := congrArg (List.map Prod.fst) hwritten
  rw [List.map_map] at hnames
  refine ⟨t, ht, hnames, fun event hmem => ?_⟩
  have hevent : (event.syscallName, event.returnValue, event.rawArgs.vals) ∈
      [("setrlimit", .int 0, [8, 0x1000]), ("getrlimit", .int 0, [8, 0x1000])] :=
    hwritten ▸ List.mem_map_of_mem hmem
  have hvalue : event.returnValue = .int 0 ∧ event.rawArgs.vals = [8, 0x1000] := by
    rcases List.mem_pair.mp hevent with hpair | hpair <;>
      exact (Prod.mk.inj hpair).2 |> Prod.mk.inj
  have hpoints : event.PointsTo rlimitProcess 1 rlimitSpec rlimitMembers :=
    ⟨0x1000, by rw [hvalue.2]; rfl, by decide, holdsStruct_rlimit⟩
  -- The memory is the same at all stops.
  have hprocess : ∀ stop ∈ rlimitStops, stop.process = rlimitProcess := by
    simp [rlimitStops, rlimitCall]
  have hlooks : ∀ direction,
      LooksAt sampleOptions .all rlimitStops event direction rlimitProcess := by
    rcases (run_origins ht).written event hmem with hreturned | ⟨-, hunknown⟩
    · obtain ⟨pre, entry, mid, ret, post, tid, frame, hstops, hentered, -, -, hat⟩ := hreturned
      intro direction
      cases direction with
      | «in» =>
        rw [← hprocess entry (by rw [hstops]; simp)]
        exact .entry hstops hentered
      | out =>
        rw [← hprocess ret (by rw [hstops]; simp)]
        have hret : rlimitStops = pre ++ entry :: mid ++ ret :: post :=
          hstops.trans (List.append_assoc pre (entry :: mid) (ret :: post)).symm
        exact .ret hret hat (by rw [SyscallEvent.Succeeded, hvalue.1]; rfl)
    · rw [hvalue.1] at hunknown
      cases hunknown
  rcases List.mem_pair.mp hevent with hpair | hpair
  · obtain ⟨arg, harg, hshown, -⟩ := struct_arg_shown ht event hmem 1 rlimitSpec .in rlimitProcess
      rlimitMembers (hasStruct_setrlimit (Prod.mk.inj hpair).1) (hlooks .in) hpoints
    exact ⟨arg, harg, hshown⟩
  · obtain ⟨arg, harg, hshown, -⟩ := struct_arg_shown ht event hmem 1 rlimitSpec .out rlimitProcess
      rlimitMembers (hasStruct_getrlimit (Prod.mk.inj hpair).1) (hlooks .out) hpoints
    exact ⟨arg, harg, hshown⟩

end Tracer

end StraceMacos
