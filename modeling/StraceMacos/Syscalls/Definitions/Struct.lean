import StraceMacos.Syscalls.Definitions.Base

/-!
# Structure decoders

`StructParamBase` of `definitions/__init__.py`: a structure is copied from memory and its members
are shown one by one, through a formatter where the class names one.
-/

namespace StraceMacos

open CStruct

/-- A field formatter, by the kind of the raw values that it is written for; the flag is
`no_abbrev`. -/
inductive Formatter where
  | onInt (format : Int → Bool → String)
  | onPtr (format : Option Nat → Bool → String)
  | onBytes (format : Bytes → Bool → String)

def Formatter.kind : Formatter → Kind
  | .onInt _ => .int
  | .onPtr _ => .voidPtr
  | .onBytes _ => .chars

/-- Calling a formatter; it raises on a value of another kind. -/
def Formatter.apply (formatter : Formatter) (value : CVal) (noAbbrev : Bool) :
    Except PyError String :=
  match formatter, value with
  | .onInt format, .int v => .ok (format v noAbbrev)
  | .onPtr format, .voidPtr p => .ok (format p noAbbrev)
  | .onBytes format, .chars bs => .ok (format bs noAbbrev)
  | _, _ => .error .typeError

/-- A raw field value as it stands in the result dictionary. -/
def rawFieldVal : CVal → FieldVal
  | .int v => .int v
  | .voidPtr none => .none
  | .voidPtr (some a) => .int a
  | v => .object v

/-- Whether a member of the given kind may be shown through this formatter; only numbers and
pointers are shown without one. -/
def showable (formatter : Option Formatter) (kind : Kind) : Bool :=
  match formatter with
  | some formatter => formatter.kind == kind
  | none => kind == .int || kind == .voidPtr

/-- The class variables of a structure decoder: the fields of `struct_type`, `excluded_fields` and
`field_formatters`. Every formatter stands at a field of its own kind. -/
structure StructSpec where
  fields : List Field
  excluded : List String := []
  formatters : List (String × Formatter) := []
  formatters_kind : ∀ f ∈ fields, f.name ∉ excluded →
    showable (formatters.lookup f.name) f.type.kind = true

namespace StructSpec

/-- One field of the result, in the order of the members. -/
def formatField (spec : StructSpec) (noAbbrev : Bool) (name : String) (value : CVal) :
    Except PyError FieldVal :=
  match spec.formatters.lookup name with
  | some formatter => (formatter.apply value noAbbrev).map FieldVal.str
  | none => .ok (rawFieldVal value)

/-- The loop over the members that builds the result dictionary. -/
def formatFields (spec : StructSpec) (noAbbrev : Bool) :
    List (Field × CVal) → Except PyError Fields
  | [] => .ok []
  | (f, value) :: rest =>
    if f.name ∈ spec.excluded then spec.formatFields noAbbrev rest
    else do
      let formattedValue ← spec.formatField noAbbrev f.name value
      let result ← spec.formatFields noAbbrev rest
      return (f.name, formattedValue) :: result

end StructSpec

/-- `_read_struct`: the members of the structure at `address`. -/
def readStruct (process : Process) (address : Nat) (fields : List Field) :
    Option (List (Field × CVal)) :=
  (process.readData address (CStruct.structSize fields)).map (loadAll process.byteOrder fields)

/-- `StructParamBase.decode_struct` -/
def StructSpec.decodeStruct (spec : StructSpec) (process : Process) (address : Nat)
    (noAbbrev : Bool) : Except PyError (Option Fields) :=
  match readStruct process address spec.fields with
  | none => .ok none
  | some values => (spec.formatFields noAbbrev values).map some

/-- `StructParamBase.decode`, for a given `decode_struct`; an empty dictionary is falsy. -/
def decodeStructParam (decodeStruct : Process → Nat → Bool → Except PyError (Option Fields))
    (direction : ParamDirection) (ctx : DecodeContext) : Decoded :=
  directed direction ctx <| do
    match ← decodeStruct ctx.process ctx.rawValue ctx.noAbbrev with
    | some (f :: fs) => return some (.struct (f :: fs))
    | _ => return some (.pointer ctx.rawValue)

/-- `_format_pointer` -/
def formatPointer (address : Nat) : String :=
  if address = 0 then "NULL" else Text.hex0x address

/-! ## Structure decoders do not raise -/

theorem Formatter.apply_ok {formatter : Formatter} {value : CVal} (noAbbrev : Bool)
    (h : formatter.kind = value.kind) : ∃ s, formatter.apply value noAbbrev = .ok s := by
  cases formatter <;> cases value <;> simp_all [Formatter.apply, Formatter.kind, CVal.kind]

theorem StructSpec.formatFields_ok (spec : StructSpec) (noAbbrev : Bool)
    (values : List (Field × CVal))
    (h : ∀ fv ∈ values, fv.1 ∈ spec.fields ∧ fv.2.kind = fv.1.type.kind) :
    ∃ fs, spec.formatFields noAbbrev values = .ok fs := by
  induction values with
  | nil => exact ⟨[], rfl⟩
  | cons fv rest ih =>
    obtain ⟨f, value⟩ := fv
    obtain ⟨fs, hfs⟩ := ih fun fv hfv => h fv (List.mem_cons_of_mem _ hfv)
    obtain ⟨hf, hkind⟩ := h (f, value) List.mem_cons_self
    unfold formatFields
    by_cases hex : f.name ∈ spec.excluded
    · exact ⟨fs, by rw [if_pos hex, hfs]⟩
    · have hspec := spec.formatters_kind f hf hex
      rw [if_neg hex]
      cases hl : spec.formatters.lookup f.name with
      | none =>
        exact ⟨_, by simp only [formatField, hl, hfs]; rfl⟩
      | some formatter =>
        have hk : formatter.kind = f.type.kind := by simpa [hl, showable] using hspec
        obtain ⟨s, hs⟩ := Formatter.apply_ok noAbbrev (hk.trans hkind.symm)
        exact ⟨_, by simp only [formatField, hl, hs, hfs]; rfl⟩

/-- **A structure decoder returns normally**, whatever the memory holds. -/
theorem StructSpec.decodeStruct_ok (spec : StructSpec) (process : Process) (address : Nat)
    (noAbbrev : Bool) : ∃ r, spec.decodeStruct process address noAbbrev = .ok r := by
  unfold decodeStruct
  cases hr : readStruct process address spec.fields with
  | none => exact ⟨none, rfl⟩
  | some values =>
    unfold readStruct at hr
    obtain ⟨data, -, rfl⟩ := Option.map_eq_some_iff.mp hr
    have hvals : ∀ fv ∈ loadAll process.byteOrder spec.fields data,
        fv.1 ∈ spec.fields ∧ fv.2.kind = fv.1.type.kind := by
      intro fv hfv
      refine ⟨?_, kind_of_mem_loadAll hfv⟩
      rw [← loadAll_map_fst process.byteOrder spec.fields data]
      exact List.mem_map_of_mem hfv
    obtain ⟨fs, hfs⟩ := spec.formatFields_ok noAbbrev _ hvals
    exact ⟨some fs, by simp only [hfs]; rfl⟩

/-- A directed decoder that looks at the argument does what its body does. -/
theorem directed_of_active {direction : ParamDirection} {ctx : DecodeContext}
    (h : direction.active ctx) (body : Decoded) : directed direction ctx body = body := by
  obtain ⟨hdirection, hne⟩ := h
  unfold directed
  cases hentry : ctx.atEntry <;> rw [hentry] at hdirection <;> simp_all

theorem decodeStructParam_of_active
    {decodeStruct : Process → Nat → Bool → Except PyError (Option Fields)}
    {direction : ParamDirection} {ctx : DecodeContext} (h : direction.active ctx)
    {f : String × FieldVal} {fs : Fields}
    (hdecode : decodeStruct ctx.process ctx.rawValue ctx.noAbbrev = .ok (some (f :: fs))) :
    decodeStructParam decodeStruct direction ctx = .ok (some (.struct (f :: fs))) := by
  rw [decodeStructParam, directed_of_active h, hdecode]
  rfl

/-- A directed decoder raises exactly when its body does and it looks at the argument. -/
theorem directed_ok_iff {direction : ParamDirection} {ctx : DecodeContext} {body : Decoded} :
    (∃ r, directed direction ctx body = .ok r) ↔
      (direction.active ctx → ∃ r, body = .ok r) := by
  unfold directed ParamDirection.active
  cases ctx.atEntry <;> cases direction <;> by_cases h0 : ctx.rawValue = 0 <;> simp [h0]

theorem decodeStructParam_ok {decodeStruct : Process → Nat → Bool → Except PyError (Option Fields)}
    (h : ∀ p a n, ∃ r, decodeStruct p a n = .ok r) (direction : ParamDirection)
    (ctx : DecodeContext) : ∃ r, decodeStructParam decodeStruct direction ctx = .ok r := by
  unfold decodeStructParam
  rw [directed_ok_iff]
  rintro -
  obtain ⟨r, hr⟩ := h ctx.process ctx.rawValue ctx.noAbbrev
  rw [hr]
  rcases r with _ | _ | ⟨f, fs⟩ <;> exact ⟨_, rfl⟩

theorem decodeBuffer_ok (sizeArgIndex : Nat) (direction : ParamDirection) (ctx : DecodeContext) :
    ∃ r, decodeBuffer sizeArgIndex direction ctx = .ok r := by
  unfold decodeBuffer
  rw [directed_ok_iff]
  rintro -
  cases ctx.allArgs.vals[sizeArgIndex]? with
  | none => exact ⟨_, rfl⟩
  | some sizeValue =>
    simp only
    split_ifs <;> (try split) <;> exact ⟨_, rfl⟩

end StraceMacos
