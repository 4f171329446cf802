import StraceMacos.Library.Bytes

/-!
# C structures in memory

Layout of C structures with natural alignment, and loading their members from a copy of their
bytes. A loaded `void *` is `none` when it is null, as foreign-function libraries present it; a
`char` array ends at its first NUL.
-/

namespace CStruct

/-- The type of a structure member. -/
inductive CType where
  /-- An integer of `size` bytes. -/
  | int (size : Nat) (signed : Bool)
  /-- A `void *`. -/
  | voidPtr
  /-- A `char[n]`. -/
  | chars (n : Nat)
  /-- An array of `n` integers of `size` bytes. -/
  | array (size : Nat) (signed : Bool) (n : Nat)
  /-- An embedded structure of the given size and alignment. -/
  | struct (size align : Nat)
  deriving DecidableEq, Repr

/-- The value of a structure member. -/
inductive CVal where
  | int (v : Int)
  | voidPtr (v : Option Nat)
  | chars (bs : Bytes)
  | array (vs : List Int)
  | struct (bs : Bytes)
  deriving DecidableEq, Repr

/-- The kind of values a member has. -/
inductive Kind where
  | int
  | voidPtr
  | chars
  | array
  | struct
  deriving DecidableEq, Repr

def CType.kind : CType → Kind
  | .int .. => .int
  | .voidPtr => .voidPtr
  | .chars _ => .chars
  | .array .. => .array
  | .struct .. => .struct

def CVal.kind : CVal → Kind
  | .int _ => .int
  | .voidPtr _ => .voidPtr
  | .chars _ => .chars
  | .array _ => .array
  | .struct _ => .struct

def CType.size : CType → Nat
  | .int size _ => size
  | .voidPtr => 8
  | .chars n => n
  | .array size _ n => size * n
  | .struct size _ => size

def CType.align : CType → Nat
  | .int size _ => size
  | .voidPtr => 8
  | .chars _ => 1
  | .array size _ _ => size
  | .struct _ align => align

/-- A member: its name and type. -/
structure Field where
  name : String
  type : CType
  deriving DecidableEq, Repr

abbrev i16 : CType := .int 2 true
abbrev i32 : CType := .int 4 true
abbrev i64 : CType := .int 8 true
abbrev u8 : CType := .int 1 false
abbrev u16 : CType := .int 2 false
abbrev u32 : CType := .int 4 false
abbrev u64 : CType := .int 8 false

/-- `n` rounded up to a multiple of `a`. -/
def alignUp (a n : Nat) : Nat :=
  (n + a - 1) / a * a

/-- The members with their offsets, the first one at the next aligned offset from `off`. -/
def offsets : Nat → List Field → List (Nat × Field)
  | _, [] => []
  | off, f :: fs =>
    let start := alignUp f.type.align off
    (start, f) :: offsets (start + f.type.size) fs

/-- The end of the last member laid out from `off`. -/
def endOffset : Nat → List Field → Nat
  | off, [] => off
  | off, f :: fs => endOffset (alignUp f.type.align off + f.type.size) fs

/-- The alignment of a structure: that of its strictest member. -/
def structAlign (fs : List Field) : Nat :=
  fs.foldl (fun a f => max a f.type.align) 1

/-- The size of a structure, padded to its alignment. -/
def structSize (fs : List Field) : Nat :=
  alignUp (structAlign fs) (endOffset 0 fs)

/-- The type of a member that is itself a structure. -/
def nested (fs : List Field) : CType :=
  .struct (structSize fs) (structAlign fs)

/-- The integer with the given bytes, signed or not. -/
def loadInt (order : ByteOrder) (signed : Bool) (bs : Bytes) : Int :=
  if signed then Bytes.toInt order bs else (Bytes.toNat order bs : Int)

/-- The member of type `t` with the given bytes. -/
def load (order : ByteOrder) (t : CType) (bs : Bytes) : CVal :=
  match t with
  | .int _ signed => .int (loadInt order signed bs)
  | .voidPtr =>
    let a := Bytes.toNat order bs
    .voidPtr (if a = 0 then none else some a)
  | .chars _ => .chars bs.untilNul
  | .array size signed n =>
    .array ((List.range n).map fun i =>
      loadInt order signed (bs.slice (i * size) ((i + 1) * size)))
  | .struct .. => .struct bs

/-- All members of a structure, in the order of their declaration. -/
def loadAll (order : ByteOrder) (fs : List Field) (bs : Bytes) : List (Field × CVal) :=
  (offsets 0 fs).map fun (off, f) =>
    (f, load order f.type (bs.slice off (off + f.type.size)))

@[simp] theorem load_kind (order : ByteOrder) (t : CType) (bs : Bytes) :
    (load order t bs).kind = t.kind := by
  cases t <;> rfl

theorem kind_of_mem_loadAll {order : ByteOrder} {fs : List Field} {bs : Bytes} {f : Field}
    {v : CVal} (h : (f, v) ∈ loadAll order fs bs) : v.kind = f.type.kind := by
  simp only [loadAll, List.mem_map, Prod.mk.injEq] at h
  obtain ⟨⟨off, g⟩, -, rfl, rfl⟩ := h
  exact load_kind ..

theorem offsets_map_snd (off : Nat) (fs : List Field) : (offsets off fs).map Prod.snd = fs := by
  induction fs generalizing off with
  | nil => rfl
  | cons f fs ih => simp [offsets, ih]

/-- Every member is loaded, once and in order. -/
theorem loadAll_map_fst (order : ByteOrder) (fs : List Field) (bs : Bytes) :
    (loadAll order fs bs).map Prod.fst = fs := by
  unfold loadAll
  rw [List.map_map]
  exact offsets_map_snd 0 fs

/-- The integer of the member called `name`, 0 if there is none. -/
def getInt (vs : List (Field × CVal)) (name : String) : Int :=
  match vs.find? fun fv => fv.1.name == name with
  | some (_, .int v) => v
  | _ => 0

/-- The pointer of the member called `name`. -/
def getPtr (vs : List (Field × CVal)) (name : String) : Option Nat :=
  match vs.find? fun fv => fv.1.name == name with
  | some (_, .voidPtr v) => v
  | _ => none

end CStruct
