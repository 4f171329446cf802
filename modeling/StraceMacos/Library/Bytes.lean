import Mathlib.Data.List.DropRight
import StraceMacos.Library.Text

/-!
# Byte strings

Integers in little- and big-endian byte order, two's complement, and UTF-8 decoding. The decoder
reports, for every ill-formed part of its input, one failure for each maximal prefix of a
well-formed sequence; a strict reader rejects such input, a lenient one shows U+FFFD for each.
-/

/-- A string of bytes. -/
abbrev Bytes := List UInt8

/-- The order of the bytes of an integer in memory. -/
inductive ByteOrder where
  | little
  | big
  deriving DecidableEq, Repr

namespace Bytes

/-- The unsigned integer with the given little-endian bytes. -/
def toNatLE : Bytes → Nat
  | [] => 0
  | b :: bs => b.toNat + 256 * toNatLE bs

/-- The unsigned integer with the given bytes in the given order. -/
def toNat : ByteOrder → Bytes → Nat
  | .little, bs => toNatLE bs
  | .big, bs => toNatLE bs.reverse

/-- The two's complement reading of an unsigned integer of `n` bytes. -/
def toSigned (n v : Nat) : Int :=
  if 2 * v < 256 ^ n then (v : Int) else (v : Int) - ((256 ^ n : Nat) : Int)

/-- The signed integer with the given bytes in the given order. -/
def toInt (order : ByteOrder) (bs : Bytes) : Int :=
  toSigned bs.length (toNat order bs)

/-- The bytes from `start` up to `stop`. -/
def slice (bs : Bytes) (start stop : Nat) : Bytes :=
  (bs.drop start).take (stop - start)

/-- The bytes before the first NUL, all of them if there is none. -/
def untilNul (bs : Bytes) : Bytes :=
  bs.takeWhile (· != 0)

/-- Two lower-case hexadecimal digits for each byte. -/
def hex (bs : Bytes) : String :=
  Text.join "" (bs.map fun b => Text.padLeft 2 '0' (Text.hex b.toNat))

theorem slice_take {bs : Bytes} {start stop n : Nat} (h : stop ≤ n) :
    slice (bs.take n) start stop = bs.slice start stop := by
  unfold slice
  rw [List.drop_take, List.take_take, Nat.min_eq_left (by omega)]

/-! ## Integers are determined by their bytes -/

theorem toNatLE_lt (bs : Bytes) : toNatLE bs < 256 ^ bs.length := by
  induction bs with
  | nil => simp [toNatLE]
  | cons b bs ih =>
    have hb := b.toNat_lt
    rw [toNatLE, List.length_cons, Nat.pow_succ]
    omega

theorem toNatLE_inj {a b : Bytes} (hlen : a.length = b.length) (h : toNatLE a = toNatLE b) :
    a = b := by
  induction a generalizing b with
  | nil => simpa using hlen.symm
  | cons x a ih =>
    obtain ⟨y, b, rfl⟩ := List.exists_cons_of_length_eq_add_one hlen.symm
    have hx := x.toNat_lt
    have hy := y.toNat_lt
    rw [toNatLE, toNatLE] at h
    have hxy : x = y := UInt8.toNat_inj.mp (by omega)
    rw [hxy, ih (by simpa using hlen) (by omega)]

theorem toSigned_inj {n v w : Nat} (hv : v < 256 ^ n) (hw : w < 256 ^ n)
    (h : toSigned n v = toSigned n w) : v = w := by
  unfold toSigned at h
  split_ifs at h <;> omega

theorem toInt_little_inj {a b : Bytes} (hlen : a.length = b.length)
    (h : toInt .little a = toInt .little b) : a = b := by
  unfold toInt at h
  rw [← hlen] at h
  exact toNatLE_inj hlen (toSigned_inj (toNatLE_lt a) (hlen ▸ toNatLE_lt b) h)

/-! ## UTF-8 -/

/-- A byte that continues a sequence, between `lo` and `hi`. -/
def isCont (lo hi : Nat) (b : UInt8) : Bool :=
  lo ≤ b.toNat && b.toNat ≤ hi

/-- The allowed range of the second byte of a sequence and the number of bytes of the sequence,
for its first byte; `none` for a byte that begins no sequence of several bytes. -/
def leadByte (b : UInt8) : Option (Nat × Nat × Nat) :=
  let n := b.toNat
  if 0xC2 ≤ n ∧ n ≤ 0xDF then some (0x80, 0xBF, 2)
  else if n = 0xE0 then some (0xA0, 0xBF, 3)
  else if n = 0xED then some (0x80, 0x9F, 3)
  else if 0xE1 ≤ n ∧ n ≤ 0xEF then some (0x80, 0xBF, 3)
  else if n = 0xF0 then some (0x90, 0xBF, 4)
  else if n = 0xF4 then some (0x80, 0x8F, 4)
  else if 0xF1 ≤ n ∧ n ≤ 0xF3 then some (0x80, 0xBF, 4)
  else none

/-- The continuation bytes at the front of `bs` that the sequence can use, at most `n` of them:
the first one between `lo` and `hi`, the others any continuation byte. -/
def contBytes (lo hi : Nat) : Nat → Bytes → Bytes
  | 0, _ => []
  | _ + 1, [] => []
  | n + 1, b :: bs => if isCont lo hi b then b :: contBytes 0x80 0xBF n bs else []

/-- The code point of the first byte `b` of a sequence of `n` bytes and its continuation. -/
def codePoint (b : UInt8) (n : Nat) (cont : Bytes) : Nat :=
  cont.foldl (fun acc c => acc * 64 + c.toNat % 64) (b.toNat % 2 ^ (7 - n))

/-- The character at the front of `b :: bs` and the number of bytes of `bs` it uses; `none` for an
ill-formed part, which is as long as the well-formed sequence it could have begun. -/
def decodeChar (b : UInt8) (bs : Bytes) : Option Char × Nat :=
  if b.toNat < 0x80 then (some (Char.ofNat b.toNat), 0)
  else match leadByte b with
    | none => (none, 0)
    | some (lo, hi, n) =>
      let cont := contBytes lo hi (n - 1) bs
      if cont.length = n - 1 then (some (Char.ofNat (codePoint b n cont)), n - 1)
      else (none, cont.length)

/-- The characters of a byte string, `none` for each ill-formed part; the first `skip` bytes belong
to the character before. -/
def utf8Chars : Nat → Bytes → List (Option Char)
  | _, [] => []
  | skip + 1, _ :: bs => utf8Chars skip bs
  | 0, b :: bs => (decodeChar b bs).1 :: utf8Chars (decodeChar b bs).2 bs

/-- Strict decoding: `none` for ill-formed input. -/
def decodeUtf8 (bs : Bytes) : Option String :=
  ((utf8Chars 0 bs).mapM id).map String.ofList

/-- Lenient decoding: U+FFFD for each ill-formed part. -/
def decodeUtf8Replace (bs : Bytes) : String :=
  String.ofList ((utf8Chars 0 bs).map (·.getD (Char.ofNat 0xFFFD)))

/-- Bytes have no empty text. -/
theorem isEmpty_of_decodeUtf8 {b : UInt8} {bs : Bytes} {s : String}
    (h : decodeUtf8 (b :: bs) = some s) : s.isEmpty = false := by
  obtain ⟨cs, hcs, rfl⟩ := Option.map_eq_some_iff.mp h
  rw [utf8Chars, List.mapM_cons] at hcs
  obtain ⟨c, -, hrest⟩ := Option.bind_eq_some_iff.mp hcs
  obtain ⟨rest, -, hcons⟩ := Option.bind_eq_some_iff.mp hrest
  obtain rfl : c :: rest = cs := Option.some.inj hcons
  simp

example : decodeUtf8Replace [0x61, 0xE2, 0x82, 0xAC, 0xF0, 0x9F, 0x41] = "a€\uFFFDA" := by
  decide +kernel

/-! ## Literal notation -/

/-- One byte inside a bytes literal that is delimited by `quote`. -/
def reprByte (quote : Char) (b : UInt8) : String :=
  let n := b.toNat
  if n = 0x5C then "\\\\"
  else if n = quote.toNat then String.ofList ['\\', quote]
  else if n = 0x09 then "\\t"
  else if n = 0x0A then "\\n"
  else if n = 0x0D then "\\r"
  else if n < 0x20 ∨ 0x7F ≤ n then "\\x" ++ Text.padLeft 2 '0' (Text.hex n)
  else String.ofList [Char.ofNat n]

/-- The bytes literal that denotes `bs`: between apostrophes, or between double quotes when only
apostrophes occur in it. -/
def repr (bs : Bytes) : String :=
  let quote := if bs.contains 0x27 ∧ ¬ bs.contains 0x22 then '"' else Char.ofNat 0x27
  let delim := String.ofList [quote]
  "b" ++ delim ++ Text.join "" (bs.map (reprByte quote)) ++ delim

end Bytes
