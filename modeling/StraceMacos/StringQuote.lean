import StraceMacos.Library.Bytes

/-!
# Quoting of buffer data

`string_quote.py`: printable ASCII is shown as it is, some special characters by their usual
escapes, and everything else in octal.
-/

namespace StraceMacos

/-- `_ESCAPE_MAP` -/
def escapeMap : List (Nat × String) :=
  [(0x22, "\\\""), (0x5C, "\\\\"), (0x09, "\\t"), (0x0A, "\\n"), (0x0D, "\\r"), (0x0B, "\\v"),
    (0x0C, "\\f")]

def isPrintable (c : Nat) : Bool :=
  0x20 ≤ c && c < 0x7F

/-- `_escape_byte` -/
def escapeByte (byte : UInt8) (nextByte : Option UInt8) : String :=
  let n := byte.toNat
  match escapeMap.lookup n with
  | some escape => escape
  | none =>
    if isPrintable n then String.ofList [Char.ofNat n]
    else match nextByte with
      -- three digits when an octal digit follows, so that it is not read as part of the escape
      | some next =>
        if 48 ≤ next.toNat ∧ next.toNat ≤ 55 then "\\" ++ Text.padLeft 3 '0' (Text.oct n)
        else "\\" ++ Text.oct n
      | none => "\\" ++ Text.oct n

/-- The escaped bytes of a buffer, each with its successor as the next byte. -/
def escapeBytes : Bytes → List String
  | [] => []
  | b :: bs => escapeByte b bs.head? :: escapeBytes bs

def quoteString (data : Bytes) (maxLength : Nat) : String :=
  if data.isEmpty then ""
  else
    let displayData := data.take maxLength
    let suffix := if data.length > maxLength then "..." else ""
    Text.join "" (escapeBytes displayData) ++ suffix

example : quoteString [0x61, 0x00, 0x31, 0x01, 0x22] 4 = "a\\0001\\1..." := by decide +kernel

end StraceMacos
