/-
Message templates: text with named fields in braces. A field may name a part of its value, ask
for the quoted form of it (`!r`) and, after a colon, for a layout, which may have fields of its
own. Doubled braces are text.
-/
import ChannelBot.Messages.TemplateArg

namespace ChannelBot

namespace Template

/-- Whether a character begins a part of a value. -/
def startsPart (c : Char) : Bool := c == '.' || c == '['

/-- The part of a value that a field names after its name; the number bounds its length. -/
def walk : Nat → List Char → TemplateArg → Except TemplateFault TemplateArg
  | 0, _, a | _ + 1, [], a => .ok a
  | fuel + 1, '.' :: r, a => do
    let name := r.takeWhile (!startsPart ·)
    if name.isEmpty then refuse "Empty attribute in format string"
    walk fuel (r.dropWhile (!startsPart ·)) (← a.part (.ofList name))
  | fuel + 1, '[' :: r, a => do
    let key := r.takeWhile (· != ']')
    if key.isEmpty then refuse "Empty attribute in format string"
    walk fuel (r.dropWhile (· != ']') |>.drop 1) (← a.item key)
  | _ + 1, _ :: _, _ => refuse "Only '.' or '[' may follow ']' in format field specifier"

/-- The value of a field, by its name and parts. -/
def value (args : List (String × TemplateArg)) (field : List Char) :
    Except TemplateFault TemplateArg := do
  let base := field.takeWhile (!startsPart ·)
  if base.isEmpty then .error (.positional 0)
  match ← Layout.takeNumber base with
  | (some n, []) => .error (.positional n)
  | _ =>
    match args.find? (·.1 == String.ofList base) with
    | none => .error (.unknownField (.ofList base))
    | some (_, a) => walk (field.length + 1) (field.dropWhile (!startsPart ·)) a

/-- The mark of a form in the words of a refusal: itself if it is printable ASCII, else its
number. -/
def formMark (c : Char) : String :=
  if c.toNat == 127 then "\\x7f" else Layout.mark c

/-- A value in the form that a field asks for. -/
def inForm (a : TemplateArg) : Option Char → Except TemplateFault TemplateArg
  | none => .ok a
  | some 'r' => .ok (.text a.quoted)
  | some 's' => .ok (.text a.plain)
  | some 'a' => .ok (.text a.asciiQuoted)
  | some c => refuse ("Unknown conversion specifier " ++ formMark c)

/-- The name of a field with its parts, and what follows it; brackets hide the marks that end
it. -/
def fieldName : (hidden : Bool) → List Char → List Char × List Char
  | _, [] => ([], [])
  | hidden, c :: r =>
    if !hidden && (c == '}' || c == ':' || c == '!' || c == '{') then ([], c :: r)
    else
      let (name, rest) := fieldName (if hidden then c != ']' else c == '[') r
      (c :: name, rest)

/-- The layout up to the brace that closes its field, and the text after it; the number counts
the braces that are open inside. -/
def layoutTail : Nat → List Char → Except TemplateFault (List Char × List Char)
  | _, [] => refuse "unmatched '\x7b' in format spec"
  | 0, '}' :: r => .ok ([], r)
  | depth, c :: r => do
    let depth := if c == '{' then depth + 1 else if c == '}' then depth - 1 else depth
    let (layout, rest) ← layoutTail depth r
    return (c :: layout, rest)

/-- What follows the name of a field up to its closing brace: the form asked for, the layout,
and the text after the brace. -/
def fieldTail (s : List Char) : Except TemplateFault (Option Char × List Char × List Char) := do
  match s with
  | '}' :: rest => return (none, [], rest)
  | ':' :: r =>
    let (layout, rest) ← layoutTail 0 r
    return (none, layout, rest)
  | ['!'] => refuse "end of string while looking for conversion specifier"
  | '!' :: c :: '}' :: rest => return (some c, [], rest)
  | '!' :: c :: ':' :: r =>
    let (layout, rest) ← layoutTail 0 r
    return (some c, layout, rest)
  | ['!', _] => refuse "unmatched '\x7b' in format spec"
  | '!' :: _ => refuse "expected ':' after conversion specifier"
  | '{' :: _ => refuse "unexpected '\x7b' in field name"
  | _ => refuse "expected '\x7d' before end of string"

/-- Fills in a template from left to right, layouts with fields by `expand`; the number bounds
the template's length. -/
def fillWith (expand : List Char → Except TemplateFault (List Char))
    (args : List (String × TemplateArg)) : Nat → List Char → Except TemplateFault (List Char)
  | 0, _ | _ + 1, [] => .ok []
  | fuel + 1, '{' :: '{' :: r => do return '{' :: (← fillWith expand args fuel r)
  | fuel + 1, '}' :: '}' :: r => do return '}' :: (← fillWith expand args fuel r)
  | _ + 1, '}' :: _ => refuse "Single '\x7d' encountered in format string"
  | _ + 1, ['{'] => refuse "Single '\x7b' encountered in format string"
  | fuel + 1, '{' :: r => do
    let (name, tail) := fieldName false r
    let (form, layout, rest) ← fieldTail tail
    let a ← inForm (← value args name) form
    let layout ← if layout.contains '{' then expand layout else pure layout
    let text ← a.layOut (.ofList layout)
    return text.toList ++ (← fillWith expand args fuel rest)
  | fuel + 1, c :: r => do return c :: (← fillWith expand args fuel r)

/-- Fills in a layout; its own layouts have no fields. -/
def fillLayout (args : List (String × TemplateArg)) (s : List Char) :
    Except TemplateFault (List Char) :=
  fillWith (fun _ => refuse "Max string recursion exceeded") args (s.length + 1) s

/-- Fills in a template. -/
def fill (template : String) (args : List (String × TemplateArg)) : Except TemplateFault String :=
  (fillWith (fillLayout args) args (template.length + 1) template.toList).map .ofList

end Template

end ChannelBot
