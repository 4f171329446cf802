import StraceMacos.StringQuote
import StraceMacos.Library.CStruct

/-!
# Typed arguments

`syscalls/args.py`: the decoded form of a syscall argument and its text.
-/

namespace StraceMacos

/-- A value inside a dictionary of a list of structures. -/
inductive Scalar where
  | str (s : String)
  | int (i : Int)
  deriving DecidableEq, Repr

/-- The dictionary of one structure of a list. -/
abbrev ItemFields := List (String × Scalar)

/-- A field value of a decoded structure. `none` is a null `void *`, and `object` any other loaded
member that reaches the dictionary without a formatter. -/
inductive FieldVal where
  | str (s : String)
  | int (i : Int)
  | none
  | list (items : List ItemFields)
  | object (v : CStruct.CVal)
  deriving DecidableEq, Repr

/-- The result dictionary of `decode_struct`. -/
abbrev Fields := List (String × FieldVal)

/-- An element of the list of a `StructArrayArg`. -/
inductive StructItem where
  | text (s : String)
  | fields (d : ItemFields)
  deriving DecidableEq, Repr

/-- A decoded argument, one constructor for each class. -/
inductive SyscallArg where
  | int (value : Int) (symbolic : Option String)
  | unsigned (value : Nat)
  | pointer (address : Nat)
  | string (value : String)
  | fileDescriptor (fd : Int)
  | flags (value : Nat) (symbolic : Option String)
  | struct (fields : Fields)
  | buffer (data : Bytes) (address : Nat) (maxDisplay : Nat)
  | stringArray (strings : List String)
  | structArray (items : List StructItem)
  | unknown
  | skip
  | uuid (uuidStr : String)
  | intPtr (value : Int)
  deriving DecidableEq, Repr

/-- `symbolic or default`: an empty text counts as absent. -/
def symbolicOr (symbolic : Option String) (default : String) : String :=
  match symbolic with
  | some s => if s.isEmpty then default else s
  | none => default

/-- A string between double quotes, with backslashes and double quotes escaped. -/
def quoted (s : String) : String :=
  "\"" ++ Text.replaceChar '"' "\\\"" (Text.replaceChar '\\' "\\\\" s) ++ "\""

/-- `key=value` of a structure in a list; strings other than the markers stand in quotes. -/
def formatItemField (key : String) : Scalar → String
  | .str v => if v = "?" ∨ v = "NULL" then key ++ "=" ++ v else key ++ "=\"" ++ v ++ "\""
  | .int v => key ++ "=" ++ toString v

def formatItem (d : ItemFields) : String :=
  "\x7b" ++ Text.join ", " (d.map fun (k, v) => formatItemField k v) ++ "\x7d"

/-- `StructArg._format_list` -/
def formatList (items : List ItemFields) : String :=
  if items.isEmpty then "[]" else "[" ++ Text.join ", " (items.map formatItem) ++ "]"

/-- The text of a field value in an f-string. -/
def FieldVal.toStr : FieldVal → String
  | .str s => s
  | .int i => toString i
  | .none => "None"
  | .list items => formatList items
  | .object (.chars bs) => Bytes.repr bs
  | .object _ => "<object>"

/-- `BufferArg.format_buffer` -/
def formatBuffer (data : Bytes) (maxDisplay : Nat) : String :=
  quoteString data maxDisplay

def StructItem.toStr : StructItem → String
  | .text s => s
  | .fields d => formatItem d

/-- `__str__` -/
def SyscallArg.toStr : SyscallArg → String
  | .int value symbolic => symbolicOr symbolic (toString value)
  | .unsigned value => toString value
  | .pointer address => Text.hex0x address
  | .string value => quoted value
  | .fileDescriptor fd => toString fd
  | .flags value symbolic => symbolicOr symbolic (Text.hex0x value)
  | .struct fields =>
    if fields.isEmpty then "\x7b\x7d"
    else "\x7b" ++ Text.join ", " (fields.map fun (k, v) => k ++ "=" ++ v.toStr) ++ "\x7d"
  | .buffer data _ maxDisplay => "\"" ++ formatBuffer data maxDisplay ++ "\""
  | .stringArray strings =>
    if strings.isEmpty then "[]" else "[" ++ Text.join ", " (strings.map quoted) ++ "]"
  | .structArray items =>
    if items.isEmpty then "[]" else "[" ++ Text.join ", " (items.map StructItem.toStr) ++ "]"
  | .unknown => "?"
  | .skip => ""
  | .uuid uuidStr => uuidStr
  | .intPtr value => "[" ++ toString value ++ "]"

def SyscallArg.isSkip : SyscallArg → Bool
  | .skip => true
  | _ => false

end StraceMacos
