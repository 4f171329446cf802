import StraceMacos.Library.Text
import Mathlib.Data.List.Sort

/-!
# Tables of symbolic names

A dictionary of the symbol modules maps the values of C constants to their names; the decoders look
single values up in it or collect the names of the bits that are set.
-/

namespace StraceMacos

/-- Constants with their names, in the order of the source. -/
abbrev SymbolTable := List (Int × String)

namespace SymbolTable

/-- `[name for bit, name in table.items() if value & bit]` -/
def names (table : SymbolTable) (value : Int) : List String :=
  (table.filter fun (bit, _) => Text.band value bit ≠ 0).map Prod.snd

/-- The same under the additional condition `bit > 0`. -/
def positiveNames (table : SymbolTable) (value : Int) : List String :=
  (table.filter fun (bit, _) => 0 < bit ∧ Text.band value bit ≠ 0).map Prod.snd

/-- `value` with the bits of all its named flags cleared. -/
def unnamed (table : SymbolTable) (value : Int) : Int :=
  (table.filter fun (bit, _) => Text.band value bit ≠ 0).foldl
    (fun remaining (bit, _) => Text.bandNot remaining bit) value

/-- `sorted(table.items())`; the keys of a table are distinct. -/
def sorted (table : SymbolTable) : SymbolTable :=
  table.insertionSort fun a b => a.1 ≤ b.1

/-- `table.get(value, default)` -/
def get (table : SymbolTable) (value : Int) (default : String) : String :=
  (table.lookup value).getD default

end SymbolTable

/-- `"|".join(flags) if flags else default` -/
def joinOr (flags : List String) (default : String) : String :=
  if flags.isEmpty then default else Text.join "|" flags

/-- `hex(value)` -/
def hexInt (value : Int) : String :=
  match value with
  | .ofNat n => Text.hex0x n
  | .negSucc n => "-" ++ Text.hex0x (n + 1)

/-- `f"0x{value:x}"`, where a minus sign follows the prefix -/
def hexFormat (value : Int) : String :=
  "0x" ++ Text.signedNumeral 16 value

end StraceMacos
