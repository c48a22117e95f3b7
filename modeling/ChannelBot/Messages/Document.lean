/-
The fields that the document of a messages file gives. Most documents are mappings. A document
that counts as nothing gives no fields, and a list gives one for each of its pairs.
-/
import ChannelBot.Yaml.Datum

namespace ChannelBot.Messages

open Yaml (Datum refuse)

/-- A number as a datum. -/
def number (n : Nat) : Datum := .plain (.int n)

/-- A character as a datum. -/
def character (c : Char) : Datum := .plain (.str (.ofList [c]))

/-- The two parts of a pair: a list of two, a text or octets of that length, or two keys. -/
def pair : Datum → Except Yaml.Fault (Datum × Datum)
  | .plain (.str s) => match s.toList with
    | [c, d] => .ok (character c, character d)
    | _ => refuse (.content .value)
  | .list [k, d] => if k.isKey then .ok (k, d) else refuse (.content .type)
  | .mapping [(k, _), (l, _)] | .keys [k, l] => .ok (k, l)
  | .octets [m, n] => .ok (number m, number n)
  | .list _ | .mapping _ | .keys _ | .octets _ => refuse (.content .value)
  | .plain _ | .moment _ => refuse (.content .type)

/-- The fields that pairs give; the last pair with a key counts. -/
def ofPairs (ds : List Datum) : Except Yaml.Fault (List (Datum × Datum)) :=
  ds.foldlM (fun done d => do
    let (k, e) ← pair d
    return Datum.put k e done) []

/-- The fields that a document gives. -/
def fields (d : Datum) : Except Yaml.Fault (List (Datum × Datum)) :=
  if !d.holds then .ok []
  else match d with
    | .mapping fields => .ok fields
    | .list items | .keys items => ofPairs items
    | .plain (.str s) => ofPairs (s.toList.map character)
    | .plain _ | .moment _ | .octets _ => refuse (.content .type)

/-- Whether a field says something: a key that is no text does so only with a value. -/
def saysSomething : Datum × Datum → Bool
  | (.plain (.str _), _) => true
  | (_, .plain .null) => false
  | _ => true

/-- The fields that the text of a messages file gives, as JSON. -/
def readDocument (source : String) : Except Yaml.Fault (List (String × Value)) := do
  match Datum.fields? ((← fields (← Datum.ofText? source)).filter saysSomething) with
  | some fields => return fields
  | none => refuse (.content .type)

end ChannelBot.Messages
