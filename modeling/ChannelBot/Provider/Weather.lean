/-
The weather service: a report for a place, in one line of text.
-/
import ChannelBot.Fault
import ChannelBot.Provider.Exchange

namespace ChannelBot.Weather

/-- The address of the service. -/
def url : String := "https://api.openweathermap.org/data/2.5/weather"

/-- The question for a place. -/
def request (apiKey : String) (location : Value) : HttpRequest where
  method := "GET"
  url := url
  query := [("q", location), ("appid", .str apiKey), ("units", .str "metric")]

/-- The weather at a place: a temperature, and what the answer gives for the rest, texts or not. -/
structure Report where
  place : Value
  country : Value
  celsius : Float
  description : Value
  deriving Repr

/-- A report in one line. -/
def Report.text (r : Report) : String :=
  r.place.display ++ ", " ++ r.country.display ++ ": " ++ Number.generalText r.celsius ++ "°C, " ++
    r.description.display

/-- A report in the fields of an answer. -/
def readReport (data : Value) : Except ShapeFault Report := do
  let conditions := ((data.field? "weather").getD .null).orElse (.list [.obj []])
  let place ← data.member "name"
  let country ← (((data.field? "sys").getD .null).orElse (.obj [])).get "country"
  let celsius ← (← (← data.member "main").member "temp").toReal
  let condition ← conditions.first
  let description ← match condition with
    | .obj fields => pure ((Value.lookup? "description" fields).getD (.str ""))
    | v => throw (.noOperation v.shape "get")
  return ⟨place, country.orElse (.str "?"), celsius, description⟩

/-- Reads the answer for a place. A fault of a missing field, a wrong type or a wrong value
makes the answer malformed; any other one is passed on. -/
def decode (location : Value) (o : HttpOutcome) : Except Fault Report := do
  let (status, data) ← Exchange.read .weather o
  match data with
  | .obj fields =>
    let code := ((Value.lookup? "cod" fields).getD (.int status)).display
    if code == "404" then throw (.provider (.unknownPlace location.display))
    if code != "200" then
      let message := (data.field? "message").getD .null
      throw (.provider (.reported .weather (message.orElse (.str ("code " ++ code))).display))
    match readReport data with
    | .ok r => return r
    | .error f =>
      match f.kind with
      | .key | .type | .value => throw (.provider (.malformed .weather f))
      | _ => throw (.shape f)
  | _ => throw (.provider (.reported .weather s!"unexpected response ({status})"))

end ChannelBot.Weather
