import StraceMacos.Library.Json
import StraceMacos.Tracer

/-!
# JSON Lines

`json.dumps` of the object that `JSONFormatter.format` builds, and the lines that the tracer prints.
The text of a time is that of a floating-point number, a parameter of the lines.
-/

namespace StraceMacos

def Scalar.toJson : Scalar → Json.Value
  | .str s => .str s
  | .int i => .num (.ofInt i)

/-- A dictionary of a list of structures. -/
def itemToJson (d : ItemFields) : Json.Value :=
  .obj (d.map fun e => (e.1, e.2.toJson))

/-- A field value. `json.dumps` raises on bytes and on other objects of `ctypes`. -/
def FieldVal.toJson : FieldVal → Except PyError Json.Value
  | .str s => .ok (.str s)
  | .int i => .ok (.num (.ofInt i))
  | .none => .ok .null
  | .list items => .ok (.arr (items.map itemToJson))
  | .object _ => .error .typeError

/-- The members of a decoded structure. -/
def fieldsToJson (fields : Fields) : Except PyError (List (String × Json.Value)) :=
  fields.mapM fun e => e.2.toJson.map fun v => (e.1, v)

def StructItem.toJson : StructItem → Json.Value
  | .text s => .str s
  | .fields d => itemToJson d

def JsonArg.toJson : JsonArg → Except PyError Json.Value
  | .str s => .ok (.str s)
  | .int i => .ok (.num (.ofInt i))
  | .strings l => .ok (.arr (l.map .str))
  | .ints l => .ok (.arr (l.map fun i => .num (.ofInt i)))
  | .fields d => (fieldsToJson d).map .obj
  | .items l => .ok (.arr (l.map StructItem.toJson))

def ReturnValue.toJson : ReturnValue → Json.Value
  | .str s => .str s
  | .int i => .num (.ofInt i)

namespace JsonEvent

variable (timeText : Nat → Json.Number)

/-- The dictionary `data`. -/
def toJson (event : JsonEvent) : Except PyError Json.Value :=
  (event.args.mapM JsonArg.toJson).map fun args =>
    .obj [("syscall", .str event.syscall), ("args", .arr args), ("return", event.return_.toJson),
      ("pid", .num (.ofInt event.pid)), ("timestamp", .num (timeText event.timestamp))]

/-- `json.dumps(data)` -/
def dumps (event : JsonEvent) : Except PyError String :=
  (event.toJson timeText).map fun v => String.ofList v.dump

end JsonEvent

/-- `print(line, file=self.output_handle)` -/
def OutputLine.print (timeText : Nat → Json.Number) : OutputLine → Except PyError String
  | .text s => .ok (s ++ "\n")
  | .json event => (event.dumps timeText).map fun line => line ++ "\n"

/-- What the tracer has printed of the events; the summary at the end is printed without another
newline and is not among the lines. -/
def Tracer.printed (timeText : Nat → Json.Number) (t : Tracer) : Except PyError String :=
  (t.output.mapM (OutputLine.print timeText)).map (Text.join "")

end StraceMacos
