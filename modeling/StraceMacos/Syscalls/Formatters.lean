import StraceMacos.Library.Dict
import StraceMacos.Syscalls.Definitions.Base
import Mathlib.Data.List.Sort
import Mathlib.Algebra.BigOperators.Group.List.Basic

/-!
# Events and output formatters

`syscalls/formatters.py`. The percentage of the summary is a floating-point number: its text is a
parameter of the table.
-/

namespace StraceMacos

/-- A captured syscall event. `serial` is the identity of the event object: the number of event
objects made before it. -/
structure SyscallEvent where
  pid : Nat
  syscallName : String
  args : List SyscallArg
  returnValue : ReturnValue
  timestamp : Nat
  rawArgs : PyList
  serial : Nat
  deriving DecidableEq, Repr

/-- The text of a return value. -/
def ReturnValue.toStr : ReturnValue → String
  | .int v => toString v
  | .str s => s

/-- `isinstance(return_value, int) and return_value < 0` -/
def ReturnValue.isNegative (value : ReturnValue) : Bool :=
  value.int?.any (· < 0)

/-! ## JSON -/

/-- A JSON value, before `json.dumps`. -/
inductive JsonArg where
  | str (s : String)
  | int (i : Int)
  | strings (l : List String)
  | ints (l : List Int)
  | fields (d : Fields)
  | items (l : List StructItem)
  deriving DecidableEq, Repr

/-- `_format_symbolic_or_value` -/
def formatSymbolicOrValue (symbolic : Option String) (value : Int) : JsonArg :=
  match symbolic with
  | some s => if s.isEmpty then .int value else .str s
  | none => .int value

/-- `_format_arg_for_json`; `none` for an argument that is skipped. -/
def formatArgForJson (arg : SyscallArg) : Option JsonArg :=
  match arg with
  | .skip => none
  | .struct fields => some (.fields fields)
  | .stringArray strings => some (.strings strings)
  | .structArray items => some (.items items)
  | .intPtr value => some (.ints [value])
  | .fileDescriptor fd => some (.int fd)
  | .int value symbolic => some (formatSymbolicOrValue symbolic value)
  | .flags value symbolic => some (formatSymbolicOrValue symbolic value)
  | .string value => some (.str value)
  | .unsigned value => some (.int value)
  | .pointer address => some (.str (Text.hex0x address))
  | .buffer .. | .unknown | .uuid _ => some (.str arg.toStr)

/-- The object that `JSONFormatter.format` dumps. -/
structure JsonEvent where
  syscall : String
  args : List JsonArg
  return_ : ReturnValue
  pid : Nat
  timestamp : Nat
  deriving DecidableEq, Repr

/-- `JSONFormatter.format` -/
def formatJson (event : SyscallEvent) : JsonEvent where
  syscall := event.syscallName
  args := event.args.filterMap formatArgForJson
  return_ := event.returnValue
  pid := event.pid
  timestamp := event.timestamp

/-! ## Text -/

/-- `TextFormatter.format` -/
def formatText (event : SyscallEvent) : String :=
  let argsStr := Text.join ", " ((event.args.filter (! ·.isSkip)).map SyscallArg.toStr)
  event.syscallName ++ "(" ++ argsStr ++ ") = " ++ event.returnValue.toStr

/-- The colour codes of `ColorTextFormatter`. -/
structure Colors where
  reset : String
  syscall : String
  string : String
  number : String
  pointer : String
  fd : String
  returnOk : String
  returnErr : String
  punctuation : String
  deriving DecidableEq, Repr

def ansiColors : Colors where
  reset := "\x1b[0m"
  syscall := "\x1b[1;36m"
  string := "\x1b[0;33m"
  number := "\x1b[0;35m"
  pointer := "\x1b[0;34m"
  fd := "\x1b[0;32m"
  returnOk := "\x1b[1;32m"
  returnErr := "\x1b[1;31m"
  punctuation := "\x1b[0;37m"

/-- An argument in the colour of its type. -/
def Colors.formatArg (colors : Colors) (arg : SyscallArg) : String :=
  match arg with
  | .string _ => colors.string ++ arg.toStr ++ colors.reset
  | .pointer _ => colors.pointer ++ arg.toStr ++ colors.reset
  | .fileDescriptor _ => colors.fd ++ arg.toStr ++ colors.reset
  | .int .. | .unsigned _ => colors.number ++ arg.toStr ++ colors.reset
  | _ => arg.toStr

/-- The colour of a return value. -/
def Colors.ofReturn (colors : Colors) : ReturnValue → String
  | .str _ => colors.returnOk
  | .int v => if v < 0 then colors.returnErr else colors.returnOk

/-- The part of a coloured line before the return value. -/
def Colors.formatCall (colors : Colors) (event : SyscallEvent) : String :=
  let argsStr := Text.join (colors.punctuation ++ "," ++ colors.reset ++ " ")
    ((event.args.filter (! ·.isSkip)).map colors.formatArg)
  colors.syscall ++ event.syscallName ++ colors.reset ++
    colors.punctuation ++ "(" ++ colors.reset ++ argsStr ++
    colors.punctuation ++ ")" ++ colors.reset ++ " " ++
    colors.punctuation ++ "=" ++ colors.reset ++ " "

/-- `ColorTextFormatter.format`, for given colour codes -/
def Colors.format (colors : Colors) (event : SyscallEvent) : String :=
  colors.formatCall event ++ colors.ofReturn event.returnValue ++ event.returnValue.toStr ++
    colors.reset

/-- The formatter that `_open_output` chooses. -/
inductive OutputFormat where
  | json
  | text
  | color
  deriving DecidableEq, Repr

/-- A line of output. -/
inductive OutputLine where
  | text (s : String)
  | json (event : JsonEvent)
  deriving DecidableEq, Repr

/-- `self.formatter.format(event)` -/
def OutputFormat.format : OutputFormat → SyscallEvent → OutputLine
  | json, event => .json (formatJson event)
  | text, event => .text (formatText event)
  | color, event => .text (ansiColors.format event)

/-! ## Summary -/

/-- The counters of one syscall name. -/
structure Stats where
  count : Nat
  errors : Nat
  deriving DecidableEq, Repr

/-- `SummaryFormatter.stats` -/
abbrev SummaryStats := Dict String Stats

/-- `SummaryFormatter.add_event` -/
def addEvent (stats : SummaryStats) (event : SyscallEvent) : SummaryStats :=
  let entry := (stats.get event.syscallName).getD ⟨0, 0⟩
  stats.set event.syscallName
    ⟨entry.count + 1, entry.errors + if event.returnValue.isNegative then 1 else 0⟩

/-- A row of the summary table. -/
structure SummaryRow where
  calls : Nat
  errors : Nat
  syscall : String
  deriving DecidableEq, Repr

/-- The rows of the table, sorted by name. -/
def summaryRows (stats : SummaryStats) : List SummaryRow :=
  (stats.keys.insertionSort (· ≤ ·)).map fun name =>
    let entry := (stats.get name).getD ⟨0, 0⟩
    ⟨entry.count, entry.errors, name⟩

/-- `total_calls` -/
def totalCalls (stats : SummaryStats) : Nat :=
  (stats.values.map Stats.count).sum

/-- One line of the table; `percent` is the text of `{percent:6.2f}` for a count and the total. -/
def formatRow (percent : Nat → Nat → String) (total : Nat) (row : SummaryRow) : String :=
  let errorsStr := if 0 < row.errors then toString row.errors else ""
  percent row.calls total ++ " " ++ Text.padLeft 10 ' ' (toString row.calls) ++ " " ++
    Text.padLeft 10 ' ' errorsStr ++ " " ++ row.syscall

/-- `SummaryFormatter.format` -/
def formatSummary (percent : Nat → Nat → String) (stats : SummaryStats) : String :=
  if stats.entries.isEmpty then "No syscalls captured.\n"
  else
    let rule := String.ofList (List.replicate 50 '-')
    let total := totalCalls stats
    Text.join "\n" (["% time     calls      errors syscall", rule] ++
      (summaryRows stats).map (formatRow percent total) ++
      [rule, "100.00 " ++ Text.padLeft 10 ' ' (toString total) ++ "             total", ""])

end StraceMacos
