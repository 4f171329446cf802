import Mathlib.Data.List.Forall2
import StraceMacos.Library.CImage

/-!
# Values in C structures

How the values of the members are stored: integers in two's complement, null and other pointers,
`char` arrays that a NUL may end early, arrays and embedded structures. What is loaded from the
image of a structure are the values that were stored, whatever stands in the padding and behind the
end of a string.
-/

namespace Bytes

/-- The bytes of an integer in two's complement. -/
def ofInt (order : ByteOrder) (size : Nat) (v : Int) : Bytes :=
  ofNat order size (v % ((256 ^ size : Nat) : Int)).toNat

variable {order : ByteOrder} {size : Nat} {v : Int}

@[simp] theorem length_ofInt : (ofInt order size v).length = size :=
  length_ofNat _ _

theorem toNat_ofInt :
    (toNat order (ofInt order size v) : Int) = v % ((256 ^ size : Nat) : Int) := by
  have hpos : ((256 ^ size : Nat) : Int) ≠ 0 := by
    have := Nat.pow_pos (n := size) (by omega : 0 < 256)
    omega
  have hnonneg := Int.emod_nonneg v hpos
  have hlt := Int.emod_lt v hpos
  rw [ofInt, toNat_ofNat (by omega)]
  omega

end Bytes

namespace CStruct

variable {order : ByteOrder}

/-- The values of an integer type. -/
def InRange (size : Nat) (signed : Bool) (v : Int) : Prop :=
  if signed then -((256 ^ size : Nat) : Int) ≤ 2 * v ∧ 2 * v < ((256 ^ size : Nat) : Int)
  else 0 ≤ v ∧ v < ((256 ^ size : Nat) : Int)

instance (size : Nat) (signed : Bool) (v : Int) : Decidable (InRange size signed v) := by
  unfold InRange
  infer_instance

theorem loadInt_ofInt {size : Nat} {signed : Bool} {v : Int} (h : InRange size signed v) :
    loadInt order signed (Bytes.ofInt order size v) = v := by
  have hnat := @Bytes.toNat_ofInt order size v
  cases signed with
  | false =>
    obtain ⟨hnonneg, hlt⟩ : 0 ≤ v ∧ v < ((256 ^ size : Nat) : Int) := h
    rw [Int.emod_eq_of_lt hnonneg hlt] at hnat
    exact hnat
  | true =>
    obtain ⟨hlow, hhigh⟩ :
        -((256 ^ size : Nat) : Int) ≤ 2 * v ∧ 2 * v < ((256 ^ size : Nat) : Int) := h
    show Bytes.toInt order (Bytes.ofInt order size v) = v
    rw [Bytes.toInt, Bytes.length_ofInt, Bytes.toSigned]
    by_cases hv : 0 ≤ v
    · rw [Int.emod_eq_of_lt hv (by omega)] at hnat
      rw [if_pos (by omega)]
      exact hnat
    · have hmod : v % ((256 ^ size : Nat) : Int) = v + ((256 ^ size : Nat) : Int) := by
        rw [← Int.add_emod_right, Int.emod_eq_of_lt (by omega) (by omega)]
      rw [hmod] at hnat
      rw [if_neg (by omega)]
      omega

/-- `Stores order t v part`: the bytes of a member of type `t` that has the value `v`. -/
inductive Stores (order : ByteOrder) : CType → CVal → Bytes → Prop where
  | int {size : Nat} {signed : Bool} {v : Int} (h : InRange size signed v) :
      Stores order (.int size signed) (.int v) (Bytes.ofInt order size v)
  | null : Stores order .voidPtr (.voidPtr none) (Bytes.ofNat order 8 0)
  | ptr {a : Nat} (hpos : 0 < a) (hlt : a < 256 ^ 8) :
      Stores order .voidPtr (.voidPtr (some a)) (Bytes.ofNat order 8 a)
  /-- A string that fills its array. -/
  | charsFull {bs : Bytes} (hnul : 0 ∉ bs) : Stores order (.chars bs.length) (.chars bs) bs
  /-- A string that a NUL ends, with anything behind it. -/
  | charsEnded {n : Nat} {bs behind : Bytes} (hnul : 0 ∉ bs)
      (hsize : bs.length + 1 + behind.length = n) :
      Stores order (.chars n) (.chars bs) (bs ++ 0 :: behind)
  | array {size : Nat} {signed : Bool} {vs : List Int} (h : ∀ v ∈ vs, InRange size signed v) :
      Stores order (.array size signed vs.length) (.array vs)
        (vs.map (Bytes.ofInt order size)).flatten
  | struct {align : Nat} {bs : Bytes} : Stores order (.struct bs.length align) (.struct bs) bs

theorem untilNul_of_not_mem {bs : Bytes} (h : 0 ∉ bs) : Bytes.untilNul bs = bs :=
  List.takeWhile_eq_self_iff.mpr fun b hb => by
    rw [bne_iff_ne]
    rintro rfl
    exact h hb

theorem untilNul_append_nul {bs behind : Bytes} (h : 0 ∉ bs) :
    Bytes.untilNul (bs ++ 0 :: behind) = bs := by
  have hall : ∀ b ∈ bs, (b != 0) = true := fun b hb => by
    rw [bne_iff_ne]
    rintro rfl
    exact h hb
  rw [Bytes.untilNul, List.takeWhile_append_of_pos hall, List.takeWhile_cons_of_neg (by decide),
    List.append_nil]

/-- **What was stored is loaded.** -/
theorem Stores.load {t : CType} {v : CVal} {part : Bytes} (h : Stores order t v part) :
    CStruct.load order t part = v := by
  cases h with
  | int h => exact congrArg CVal.int (loadInt_ofInt h)
  | null =>
    have hzero : Bytes.toNat order (Bytes.ofNat order 8 0) = 0 := Bytes.toNat_ofNat (by omega)
    simp [CStruct.load, hzero]
  | ptr hpos hlt => simp [CStruct.load, Bytes.toNat_ofNat hlt, Nat.pos_iff_ne_zero.mp hpos]
  | charsFull hnul => exact congrArg CVal.chars (untilNul_of_not_mem hnul)
  | charsEnded hnul hsize => exact congrArg CVal.chars (untilNul_append_nul hnul)
  | @array size signed vs h =>
    have hslices := @slices_flatten (vs.map (Bytes.ofInt order size)) size
      (List.forall_mem_map.mpr fun v _ => Bytes.length_ofInt)
    rw [List.length_map] at hslices
    have hloads := congrArg (List.map (loadInt order signed)) hslices
    rw [List.map_map, List.map_map] at hloads
    refine congrArg CVal.array (hloads.trans ?_)
    exact (List.map_congr_left fun v hv => loadInt_ofInt (h v hv)).trans (List.map_id vs)
  | struct => rfl

/-- The bytes of a structure with the given members. -/
def Image (order : ByteOrder) (members : List (Field × CVal)) (data : Bytes) : Prop :=
  ∃ parts, List.Forall₂ (fun m part => Stores order m.1.type m.2 part) members parts ∧
    Lays 0 (members.map Prod.fst) parts data

/-- **Every member of a structure is loaded from its image with its value.** -/
theorem Image.loadAll {members : List (Field × CVal)} {data : Bytes}
    (h : Image order members data) :
    CStruct.loadAll order (members.map Prod.fst) data = members := by
  obtain ⟨parts, hparts, hlays⟩ := h
  rw [loadAll_of_lays hlays]
  clear hlays
  induction hparts with
  | nil => rfl
  | @cons m part members parts hpart _ ih =>
    rw [List.map_cons, loadParts, List.zipWith_cons_cons, hpart.load]
    exact congrArg (List.cons m) ih

end CStruct
