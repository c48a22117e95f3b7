/-
What tags say about parts of a document. A text without tag and without quotes gets its tag from
its form: it may be null, a truth value, a number or a moment.
-/
import ChannelBot.Text.Digit

namespace ChannelBot.Yaml

/-- What a part of a document stands for. -/
inductive Tag where
  | null
  | truth
  | integer
  | real
  | moment
  | text
  | list
  | mapping
  /-- A key whose value's fields belong to the mapping. -/
  | merge
  /-- A key for the value that stands for the whole mapping. -/
  | whole
  /-- Octets, written to base 64. -/
  | octets
  /-- A list of mappings with one field each. -/
  | fields
  /-- A mapping of which only the keys count. -/
  | keys
  | unknown
  deriving Repr, DecidableEq

namespace Tag

/-- What the handle `!!` stands for. -/
def lead : String := "tag:yaml.org,2002:"

/-- The tags by the ends of their full names. -/
def names : List (String × Tag) :=
  [("null", .null), ("bool", .truth), ("int", .integer), ("float", .real), ("timestamp", .moment),
   ("str", .text), ("seq", .list), ("map", .mapping), ("merge", .merge), ("value", .whole),
   ("binary", .octets), ("omap", .fields), ("pairs", .fields), ("set", .keys)]

/-- The tag with a full name. -/
def ofName (name : String) : Tag :=
  ((names.find? fun (n, _) => lead ++ n == name).map (·.2)).getD .unknown

end Tag

/-! ## The forms of texts -/

/-- Whether a text is of digits and underscores, a digit in front. -/
def isDigitRow (s : List Char) : Bool :=
  s.head?.any Text.isAsciiDigit && s.all fun c => Text.isAsciiDigit c || c == '_'

/-- Whether a text is empty or an exponent with its sign. -/
def isExponent : List Char → Bool
  | [] => true
  | e :: sign :: ds =>
    (e == 'e' || e == 'E') && (sign == '+' || sign == '-') && !ds.isEmpty &&
      ds.all Text.isAsciiDigit
  | _ => false

/-- A text without the sign in front. -/
def unsigned : List Char → List Char
  | '+' :: r => r
  | '-' :: r => r
  | s => s

/-- A text cut at every mark. -/
def cutAt (mark : Char) : List Char → List (List Char)
  | [] => [[]]
  | c :: r =>
    match cutAt mark r with
    | first :: rest => if c == mark then [] :: first :: rest else (c :: first) :: rest
    | [] => [[c]]

/-- Whether a text is a part of a number to base sixty: at most two digits below sixty. -/
def isSixtieth : List Char → Bool
  | [c] => Text.isAsciiDigit c
  | [c, d] => '0' ≤ c && c ≤ '5' && Text.isAsciiDigit d
  | _ => false

/-- Whether the parts of a text are a number to base sixty; there are at least two. -/
def isSexagesimal : List (List Char) → Bool
  | first :: part :: rest => isDigitRow first && (part :: rest).all isSixtieth
  | _ => false

/-- Whether a text without sign has the form of an integer. -/
def isNatural : List Char → Bool
  | ['0'] => true
  | '0' :: 'b' :: r => !r.isEmpty && r.all fun c => c == '0' || c == '1' || c == '_'
  | '0' :: 'x' :: r =>
    !r.isEmpty && r.all fun c =>
      Text.isAsciiDigit c || ('a' ≤ c && c ≤ 'f') || ('A' ≤ c && c ≤ 'F') || c == '_'
  | '0' :: r => r.all fun c => ('0' ≤ c && c ≤ '7') || c == '_'
  | s => isDigitRow s || isSexagesimal (cutAt ':' s)

/-- A text cut at its first mark; nothing if it has none. -/
def cutOnce? (mark : Char) (s : List Char) : Option (List Char × List Char) :=
  match s.dropWhile (· != mark) with
  | _ :: r => some (s.takeWhile (· != mark), r)
  | [] => none

/-- Whether a text has the form of a real number. -/
def isReal (s : List Char) : Bool :=
  let body := unsigned s
  [".inf", ".Inf", ".INF"].contains (String.ofList body) ||
  [".nan", ".NaN", ".NAN"].contains (String.ofList s) ||
  match cutOnce? '.' body with
  | none => false
  | some (whole, after) =>
    let isMark := fun c => c == 'e' || c == 'E'
    let fraction := after.takeWhile (!isMark ·)
    let isPlain := fraction.all fun c => Text.isAsciiDigit c || c == '_'
    if whole.isEmpty then
      body == s && isDigitRow fraction && isExponent (after.dropWhile (!isMark ·))
    else
      (isDigitRow whole && isPlain && isExponent (after.dropWhile (!isMark ·))) ||
      (isSexagesimal (cutAt ':' whole) && after.all fun c => Text.isAsciiDigit c || c == '_')

/-- A date and, if there is one, a time of day with its offset in written form. -/
structure MomentText where
  year : List Char
  month : List Char
  day : List Char
  time : Option (List Char × List Char × List Char × List Char)
  /-- The offset: nothing if there is none, and no sign for universal time. -/
  offset : Option (Option (Char × List Char × List Char))
  deriving Repr, DecidableEq

/-- Digits from the front, at least and at most so many, and the text after them. -/
def takeDigits? (least most : Nat) (s : List Char) : Option (List Char × List Char) :=
  let ds := (s.takeWhile Text.isAsciiDigit).take most
  if least ≤ ds.length then some (ds, s.drop ds.length) else none

/-- The text after a mark. -/
def afterMark? (mark : Char) : List Char → Option (List Char)
  | c :: r => if c == mark then some r else none
  | [] => none

/-- The offset that a whole text writes, after blanks. -/
def offsetText? (s : List Char) : Option (Option (Option (Char × List Char × List Char))) :=
  if s.isEmpty then some none
  else match s.dropWhile fun c => c == ' ' || c == '\t' with
    | ['Z'] => some (some none)
    | sign :: r => do
      if sign != '+' && sign != '-' then none
      let (hours, r) ← takeDigits? 1 2 r
      match r with
      | [] => return some (some (sign, hours, []))
      | ':' :: r =>
        let (minutes, r) ← takeDigits? 2 2 r
        if r.isEmpty then return some (some (sign, hours, minutes)) else none
      | _ => none
    | [] => none

/-- The time of day after a date: a mark or blanks come before it. -/
def afterDate? (s : List Char) : Option (List Char) :=
  match s with
  | 'T' :: r | 't' :: r => some r
  | c :: _ =>
    if c == ' ' || c == '\t' then some (s.dropWhile fun c => c == ' ' || c == '\t') else none
  | [] => none

/-- The parts of a text of the form of a moment. -/
def momentText? (s : List Char) : Option MomentText := do
  let (year, r) ← takeDigits? 4 4 s
  let (month, r) ← takeDigits? 1 2 (← afterMark? '-' r)
  let (day, r) ← takeDigits? 1 2 (← afterMark? '-' r)
  if r.isEmpty then return ⟨year, month, day, none, none⟩
  let (hour, r) ← takeDigits? 1 2 (← afterDate? r)
  let (minute, r) ← takeDigits? 2 2 (← afterMark? ':' r)
  let (second, r) ← takeDigits? 2 2 (← afterMark? ':' r)
  let (fraction, r) := match r with
    | '.' :: r => (r.takeWhile Text.isAsciiDigit, r.dropWhile Text.isAsciiDigit)
    | r => ([], r)
  let offset ← offsetText? r
  return ⟨year, month, day, some (hour, minute, second, fraction), offset⟩

/-- Whether a text has the form of a moment; a date alone needs two digits for month and day. -/
def isMoment (s : List Char) : Bool :=
  match momentText? s with
  | some m => m.time.isSome || (m.month.length == 2 && m.day.length == 2)
  | none => false

/-- A text without a line feed at its end. -/
def withoutLastBreak (s : List Char) : List Char :=
  if s.getLast? == some '\n' && s.length != 1 then s.dropLast else s

/-- What a text without tag and quotes stands for, by its form. -/
def Tag.ofText (text : String) : Tag :=
  let s := withoutLastBreak text.toList
  let word := String.ofList s
  if ["", "~", "null", "Null", "NULL"].contains word then .null
  else if ["true", "True", "TRUE", "yes", "Yes", "YES", "on", "On", "ON", "false", "False", "FALSE",
      "no", "No", "NO", "off", "Off", "OFF"].contains word then .truth
  else if isReal s then .real
  else if isNatural (unsigned s) then .integer
  else if word == "<<" then .merge
  else if word == "=" then .whole
  else if isMoment s then .moment
  else if ["!", "&", "*"].contains word then .unknown
  else .text

end ChannelBot.Yaml
