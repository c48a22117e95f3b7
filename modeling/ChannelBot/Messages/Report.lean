/-
What a message can show of a fault: its wording, the name of its class, what it was made of, the
parts that its class has, and the fault that it was raised for.
-/
import ChannelBot.Fault

namespace ChannelBot

/-- A fault as messages show it. -/
structure Report where
  name : String
  message : String
  /-- What the fault was made of. -/
  content : List Value
  /-- The parts of its own. -/
  fields : List (String × Value)
  /-- The parts that all faults of its class have. -/
  slots : List (String × Value)
  deriving Repr

namespace Report

/-- Values in round brackets, a single one with a comma if `isTuple`. -/
def inBrackets (isTuple : Bool) : List Value → String
  | [v] => "(" ++ v.inner ++ (if isTuple then ",)" else ")")
  | vs => "(" ++ String.intercalate ", " (vs.map Value.inner) ++ ")"

/-- A fault in its quoted form: the name of its class with what it was made of. -/
def quoted (r : Report) : String := r.name ++ inBrackets false r.content

/-- A fault with a wording and nothing else. -/
def plain (name message : String) : Report := ⟨name, message, [.str message], [], []⟩

end Report

namespace Fault

/-- What a fault was made of. -/
def content : Fault → List Value
  | .timeout => []
  | .shape (.noKey key) | .script (.shape (.noKey key)) => [.str key]
  | .shape (.noNumberKey n) | .script (.shape (.noNumberKey n)) => [.int n]
  | .template (.unknownField name) => [.str name]
  | .template (.noNumberKey n) => [.int n]
  | f => [.str f.message]

/-- The parts that a fault has of its own. -/
def fields : Fault → List (String × Value)
  | .script (.unterminated p) => [("position", .int p)]
  | .script (.missingArgument i) => [("index", .int i)]
  | .script (.invalidVariable t) => [("token", .str t)]
  | .script (.unknownAction n) => [("name", .str n)]
  | .store f => [("status", .int f.status), ("detail", .str f.reason)]
  | .json source (.broken p n) =>
    [("msg", .str (JsonFault.problemText p)), ("doc", .str source), ("pos", .int n),
     ("lineno", .int (JsonFault.line source n)), ("colno", .int (JsonFault.column source n))]
  | _ => []

/-- The name of the part that a value was found not to have. -/
def missingPart? : Fault → Option String
  | .shape (.noOperation _ name) | .script (.shape (.noOperation _ name)) => some name
  | .template (.noPart _ name) | .template (.noClassPart _ name) => some name
  | _ => none

/-- The parts that all faults of a fault's class have. -/
def slots (f : Fault) : List (String × Value) :=
  match f, f.missingPart? with
  | .timeout, _ =>
    ["errno", "strerror", "filename", "filename2"].map fun name => (name, Value.null)
  | _, some name => [("name", .str name)]
  | _, none => []

/-- A fault as messages show it. -/
def report (f : Fault) : Report := ⟨f.name, f.message, f.content, f.fields, f.slots⟩

/-- The fault that a fault was raised for, if there is one. -/
def origin? : Fault → Option Report
  | .store f => f.origin.map fun
    | .line words => .plain "ClientError" words
    | .value reason => .plain "ValueError" reason
  | .transport (.refused words) => some (.plain "RuntimeError" words)
  | _ => none

end Fault

end ChannelBot
