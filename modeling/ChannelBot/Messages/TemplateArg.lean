/-
What the fields of a message template stand for: a value, or the fault that a message reports.
A field may name parts and items of it, which are values again, rows of values, or classes.
-/
import ChannelBot.Messages.Figures
import ChannelBot.Messages.Report

namespace ChannelBot

/-- What a field stands for. -/
inductive TemplateArg where
  | value (v : Value)
  /-- A fault, and the one that it was raised for, if there is one. -/
  | fault (r : Report) (origin : Option Report)
  | row (items : List Value)
  | kind (name : String)
  deriving Repr

namespace TemplateArg

/-- A text. -/
def text (s : String) : TemplateArg := .value (.str s)

/-- The fault that a message reports. -/
def ofFault (f : Fault) : TemplateArg := .fault f.report f.origin?

/-- The name of the class of an argument. -/
def className : TemplateArg → String
  | .value v => v.shape.name
  | .fault r _ => r.name
  | .row _ => "tuple"
  | .kind _ => "type"

/-- The plain text of an argument. -/
def plain : TemplateArg → String
  | .value v => v.display
  | .fault r _ => r.message
  | .row items => Report.inBrackets true items
  | .kind name => s!"<class '{name}'>"

/-- The quoted form of an argument: a text in quotes, a fault with the name of its class. -/
def quoted : TemplateArg → String
  | .value v => v.inner
  | .fault r _ => r.quoted
  | a => a.plain

/-- A character of a quoted form, by its number if it is not ASCII. -/
def asciiChar (c : Char) : List Char :=
  if c.toNat < 0x80 then [c]
  else if c.toNat < 0x100 then '\\' :: 'x' :: Text.hexDigits 2 c.toNat
  else if c.toNat < 0x10000 then '\\' :: 'u' :: Text.hexDigits 4 c.toNat
  else '\\' :: 'U' :: Text.hexDigits 8 c.toNat

/-- The quoted form in ASCII alone. -/
def asciiQuoted (a : TemplateArg) : String := .ofList (a.quoted.toList.flatMap asciiChar)

/-! ## Parts -/

/-- What the class of texts says about itself. -/
def textHelp : String :=
  "str(object='') -> str\nstr(bytes_or_buffer[, encoding[, errors]]) -> str\n\n" ++
  "Create a new string object from the given object. If encoding or\n" ++
  "errors is specified, then the object must expose a data buffer\n" ++
  "that will be decoded using the given encoding and error handler.\n" ++
  "Otherwise, returns the result of object.__str__() (if defined)\n" ++
  "or repr(object).\nencoding defaults to sys.getdefaultencoding().\n" ++
  "errors defaults to 'strict'."

/-- What classes of faults say about themselves. -/
def faultHelp : List (String × String) :=
  [("KeyError", "Mapping key not found."),
   ("IndexError", "Sequence index out of range."),
   ("AttributeError", "Attribute not found."),
   ("TypeError", "Inappropriate argument type."),
   ("ValueError", "Inappropriate argument value (of correct type)."),
   ("OverflowError", "Result too large to be represented."),
   ("TimeoutError", "Timeout expired."),
   ("RuntimeError", "Unspecified run-time error.")]

/-- An integer as a fraction and as a complex number. -/
def integerPart? (n : Int) : String → Option Int
  | "real" | "numerator" => some n
  | "imag" => some 0
  | "denominator" => some 1
  | _ => none

/-- A named part of a fault. -/
def faultPart? (r : Report) (origin : Option Report) (name : String) : Option TemplateArg :=
  let raisedFor : TemplateArg := match origin with
    | some o => .fault o none
    | none => .value .null
  match (r.fields ++ r.slots).find? (·.1 == name), name with
  | some (_, v), _ => some (.value v)
  | none, "args" => some (.row r.content)
  | none, "__dict__" => some (.value (.obj r.fields))
  | none, "__cause__" | none, "__context__" => some raisedFor
  | none, "__suppress_context__" => some (.value (.bool origin.isSome))
  | none, "__doc__" => some (.value (Value.ofText? (faultHelp.lookup r.name)))
  | none, _ => none

/-- A named part of an argument. -/
def part (a : TemplateArg) (name : String) : Except TemplateFault TemplateArg :=
  let found : Option TemplateArg :=
    if name == "__class__" then some (.kind a.className)
    else match a with
      | .value (.str _) => if name == "__doc__" then some (.text textHelp) else none
      | .value (.int n) => (integerPart? n name).map fun n => .value (.int n)
      | .value (.bool b) =>
        (integerPart? (if b then 1 else 0) name).map fun n => .value (.int n)
      | .value _ | .row _ => none
      | .fault r origin => faultPart? r origin name
      | .kind n => if name == "__name__" || name == "__qualname__" then some (.text n) else none
  match found, a with
  | some b, _ => .ok b
  | none, .kind n => .error (.noClassPart n name)
  | none, a => .error (.noPart a.className name)

/-! ## Items -/

/-- An item of a row of things, by its number. -/
def itemOf (shape : String) (items : List TemplateArg) (index : Option Nat) :
    Except TemplateFault TemplateArg :=
  match index with
  | none => .error (.noKey shape)
  | some n => match items[n]? with
    | some a => .ok a
    | none => .error (.noItem shape)

/-- An item of an argument, by its number or by a name. -/
def item (a : TemplateArg) (key : List Char) : Except TemplateFault TemplateArg := do
  let index ← match ← Template.Layout.takeNumber key with
    | (some n, []) => pure (some n)
    | _ => pure none
  match a with
  | .value (.str s) => itemOf a.className (s.toList.map fun c => .text c.toString) index
  | .value (.list items) | .row items => itemOf a.className (items.map .value) index
  | .value (.obj fields) =>
    match index, Value.lookup? (.ofList key) fields with
    | some n, _ => .error (.noNumberKey n)
    | none, some v => return .value v
    | none, none => .error (.unknownField (.ofList key))
  | .kind n => .error (.noClassItems n)
  | a => .error (.noItems a.className)

/-! ## Layouts -/

/-- An argument in a layout. Without one it shows as its plain text. -/
def layOut (layout : String) (a : TemplateArg) : Except TemplateFault String :=
  if layout.isEmpty then .ok a.plain
  else match a with
    | .value (.str s) => Template.layOutText layout s
    | .value (.int n) => Template.layOutInteger a.className layout n
    | .value (.bool b) => Template.layOutInteger a.className layout (if b then 1 else 0)
    | a => .error (.noLayout a.className)

end TemplateArg

end ChannelBot
