/-
What the outcome of a request to a provider says. It says a status and a value (`Says`), or the line to the
provider failed, which is the provider's own fault, or it is `Garbled`: it says that it is JSON, and is not.
That alone goes astray where outcomes are read (`failsBy_read_iff`). Who reads on `Settles` with a provider if
what comes of it is a result as it should be or a fault of that provider.
-/
import ChannelBot.Proofs.Value.Access
import ChannelBot.Provider.Exchange

namespace ChannelBot

/-- The provider whose fault it is. -/
def ProviderFault.provider : ProviderFault → Provider
  | .unknownPlace _ => .weather
  | .reported p _ | .malformed p _ => p

/-- A fault that is not one of this provider. -/
def Fault.Astray (p : Provider) (f : Fault) : Prop := ∀ cause, f = .provider cause → cause.provider ≠ p

/-- A fault of another provider. -/
def Fault.OfAnother (p : Provider) (f : Fault) : Prop := ∃ cause, f = .provider cause ∧ cause.provider ≠ p

/-- Such a fault is never one of this provider. -/
def Spares (p : Provider) (P : Fault → Prop) : Prop :=
  ∀ cause : ProviderFault, cause.provider = p → ¬ P (.provider cause)

variable {α : Type} {p : Provider} {x : Except Fault α} {good : α → Prop}

@[simp] theorem astray_shape (cause : ShapeFault) : (Fault.shape cause).Astray p := fun _ => Fault.noConfusion

@[simp] theorem astray_json (source : String) (cause : JsonFault) : (Fault.json source cause).Astray p :=
  fun _ => Fault.noConfusion

@[simp] theorem not_ofAnother_shape (cause : ShapeFault) : ¬ (Fault.shape cause).OfAnother p := by
  simp [Fault.OfAnother]

@[simp] theorem not_ofAnother_json (source : String) (cause : JsonFault) : ¬ (Fault.json source cause).OfAnother p := by
  simp [Fault.OfAnother]

/-- What is made of taking an answer apart: a fault of one of these classes makes it a malformed one. -/
def judge (p : Provider) (kinds : List FaultKind) : Except ShapeFault α → Except Fault α
  | .ok a => .ok a
  | .error f => if f.kind ∈ kinds then .error (.provider (.malformed p f)) else .error (.shape f)

section Judge

variable {kinds : List FaultKind} {y : Except ShapeFault α}

end Judge

namespace Exchange

/-- An answer says that it is JSON. -/
def IsJson (r : HttpResponse) : Prop := holdsText "json".toList r.contentType.toList = true

/-- An answer says a value: nothing with status 204, what it is as JSON if it says that it is JSON, and else a
text. -/
inductive Content (r : HttpResponse) : Value → Prop
  | nothing (h : r.status = 204) : Content r .null
  | json {v : Value} (h : r.status ≠ 204) (hjson : IsJson r) (hread : Json.read r.body = .ok v) : Content r v
  | text (h : r.status ≠ 204) (htext : ¬ IsJson r) : Content r (.str r.body)

/-- An outcome says a status and a value. -/
def Says (o : HttpOutcome) (status : Int) (v : Value) : Prop :=
  ∃ r, o = .answered r ∧ r.status = status ∧ Content r v

/-- An outcome is an answer that says it is JSON, and is not. -/
def Garbled (o : HttpOutcome) : Prop :=
  ∃ r, o = .answered r ∧ r.status ≠ 204 ∧ IsJson r ∧ ∃ e, Json.read r.body = .error e

variable {o : HttpOutcome} {status : Int} {v : Value}

end Exchange

end ChannelBot
