/-
The language service: it detects the language of a text and puts it into another one.
-/
import ChannelBot.Provider.Exchange
import ChannelBot.Text.Percent

namespace ChannelBot.Languages

/-- The address of the service where none is configured. -/
def defaultBase : String := "http://127.0.0.1:5000"

/-- The address of the service, without slashes at the end. -/
def base (configured : Option String) : String :=
  Text.dropTrailing '/' ((Option.filter (!·.isEmpty) configured).getD defaultBase)

/-- The question for a text. -/
def request (base text : String) : HttpRequest where
  method := "GET"
  url := base ++ "/" ++ Percent.encode text

/-- A text that was put into another language, with both languages, as the answer gives them. -/
structure Phrase where
  source : Value
  target : Value
  text : Value
  deriving Repr

/-- A phrase in one line. -/
def Phrase.line (p : Phrase) : String :=
  p.source.display ++ " -> " ++ p.target.display ++ ": " ++ p.text.display

/-- A field that an answer must have. -/
def needField (key : String) (data : Value) : Except Fault Value :=
  match data.field? key with
  | some v => .ok v
  | none => .error (.provider (.reported .languages ("missing field " ++ Text.quoted key)))

/-- Reads an answer. -/
def decode (o : HttpOutcome) : Except Fault Phrase := do
  let (status, data) ← Exchange.read .languages o
  match data with
  | .obj _ =>
    if status ≥ 400 then
      throw (.provider (.reported .languages s!"translation service returned {status}"))
    return ⟨← needField "src" data, ← needField "dest" data, ← needField "text" data⟩
  | _ => throw (.provider (.reported .languages s!"translation service returned {status}"))

end ChannelBot.Languages
