/-
What comes of the answers of the music service. An outcome that is not garbled is a fault of the service or
tells what its player holds (`Plays`). What was played last never goes astray after that; what plays now and new
tokens do at a number that is infinite, and the list that plays now at a part that is used as an object and is
none.
-/
import ChannelBot.Proofs.Provider.Exchange
import ChannelBot.Provider.Spotify

namespace ChannelBot.Spotify

open Exchange (Says Garbled)

variable {α : Type} {o : HttpOutcome} {p v : Value} {kinds : List FaultKind}

/-- An outcome tells what the player holds: the fields of an object without an error, or nothing. -/
inductive Plays (o : HttpOutcome) : Value → Prop
  | fields {status : Int} {fields : List (String × Value)} (said : Says o status (.obj fields))
    (quiet : Value.lookup? "error" fields = none) (fine : status < 400) : Plays o (.obj fields)
  | nothing {status : Int} {v : Value} (said : Says o status v) (other : ¬ v.IsObject) (fine : status < 400) :
    Plays o .null

/-- The wording of an error. -/
def wording : Value → Value
  | .obj fields => (Value.lookup? "message" fields).getD .null
  | v => v

/-- The object that a value is, or nothing. -/
def held : Value → Value
  | .obj fields => .obj fields
  | _ => .null

/-- What is made of what an outcome says. -/
def content (status : Int) (v : Value) : Except Fault Value :=
  match v.field? "error" with
  | some error => .error (.provider (.reported .spotify (wording error).display))
  | none =>
    if status ≥ 400 then .error (.provider (.reported .spotify s!"spotify returned {status}")) else .ok (held v)

/-- A value is read if it is something, and a fault of one of these classes makes it a malformed one. -/
def reading (kinds : List FaultKind) (read : Value → Except ShapeFault String) (v : Value) :
    Except Fault (Option String) :=
  if v.holds then (judge .spotify kinds (read v)).map some else pure none

/-- How long a track is. -/
def duration (track : List (String × Value)) : Value := ((Value.lookup? "duration_ms" track).getD .null).orElse (.int 0)

/-- The faults that make what plays now a malformed answer. -/
def foreseen : List FaultKind := [.attribute, .key, .type, .value]

/-- What the player holds of a track. -/
def item (p : Value) : Value := (p.field? "item").getD .null

/-- What the player says about where its track comes from. -/
def source (p : Value) : Value := (p.field? "context").getD .null

/-- What a source says about its addresses. -/
def addresses (fields : List (String × Value)) : Value := (Value.lookup? "external_urls" fields).getD .null

/-- What is made of what the player holds. -/
def list (p : Value) : Except Fault Value := do
  let urls ← (((source p).orElse (.obj [])).get "external_urls").mapError .shape
  ((urls.orElse (.obj [])).get "spotify").mapError .shape

/-- How long a granted token lasts. -/
def lasting (fields : List (String × Value)) : Value := (Value.lookup? "expires_in" fields).getD (.int 3600)

/-- A grant has every part from the fields of an answer. -/
structure Grants (fields : List (String × Value)) (g : Grant) : Prop where
  access : Value.lookup? "access_token" fields = some g.accessToken
  lasting : (lasting fields).toInteger = .ok g.expiresIn
  refresh : g.refreshToken = (Value.lookup? "refresh_token" fields).getD .null

/-- What is made of what an outcome says. -/
def grant (status : Int) : Value → Except Fault Grant
  | .obj fields =>
    match Value.lookup? "access_token" fields with
    | some token =>
      if status ≥ 400 then .error (.provider (.reported .spotify
        s!"token refresh failed ({status}): {(decodeGrant.description fields).display}"))
      else do
        let seconds ← judge .spotify [.type, .value] (lasting fields).toInteger
        return ⟨token, seconds, (Value.lookup? "refresh_token" fields).getD .null⟩
    | none => .error (.provider (.reported .spotify
        s!"token refresh failed ({status}): {(decodeGrant.description fields).display}"))
  | v => .error (.provider (.reported .spotify s!"token refresh failed ({status}): {v.display}"))

end ChannelBot.Spotify
