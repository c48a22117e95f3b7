/-
Whether two values are the same: of one kind, with the same content, the fields of objects in
the same order.
-/
import ChannelBot.Value.Basic

namespace ChannelBot.Value

mutual

/-- Decides whether two values are the same. -/
def decideEq : (v w : Value) → Decidable (v = w)
  | .null, w => match w with
    | .null => isTrue rfl
    | .bool _ | .int _ | .real _ | .str _ | .list _ | .obj _ => isFalse nofun
  | .bool b, w => match w with
    | .bool c => if h : b = c then isTrue (h ▸ rfl) else isFalse (h ∘ Value.bool.inj)
    | .null | .int _ | .real _ | .str _ | .list _ | .obj _ => isFalse nofun
  | .int m, w => match w with
    | .int n => if h : m = n then isTrue (h ▸ rfl) else isFalse (h ∘ Value.int.inj)
    | .null | .bool _ | .real _ | .str _ | .list _ | .obj _ => isFalse nofun
  | .real x, w => match w with
    | .real y => if h : x = y then isTrue (h ▸ rfl) else isFalse (h ∘ Value.real.inj)
    | .null | .bool _ | .int _ | .str _ | .list _ | .obj _ => isFalse nofun
  | .str s, w => match w with
    | .str t => if h : s = t then isTrue (h ▸ rfl) else isFalse (h ∘ Value.str.inj)
    | .null | .bool _ | .int _ | .real _ | .list _ | .obj _ => isFalse nofun
  | .list xs, w => match w with
    | .list ys => match decideEqItems xs ys with
      | isTrue h => isTrue (h ▸ rfl)
      | isFalse h => isFalse (h ∘ Value.list.inj)
    | .null | .bool _ | .int _ | .real _ | .str _ | .obj _ => isFalse nofun
  | .obj fs, w => match w with
    | .obj gs => match decideEqFields fs gs with
      | isTrue h => isTrue (h ▸ rfl)
      | isFalse h => isFalse (h ∘ Value.obj.inj)
    | .null | .bool _ | .int _ | .real _ | .str _ | .list _ => isFalse nofun

/-- Decides whether two lists hold the same values. -/
def decideEqItems : (xs ys : List Value) → Decidable (xs = ys)
  | [], [] => isTrue rfl
  | [], _ :: _ | _ :: _, [] => isFalse nofun
  | x :: xs, y :: ys => match decideEq x y, decideEqItems xs ys with
    | isTrue h, isTrue k => isTrue (h ▸ k ▸ rfl)
    | isFalse h, _ => isFalse fun e => h (List.cons.inj e).1
    | _, isFalse k => isFalse fun e => k (List.cons.inj e).2

/-- Decides whether two objects have the same fields. -/
def decideEqFields : (fs gs : List (String × Value)) → Decidable (fs = gs)
  | [], [] => isTrue rfl
  | [], _ :: _ | _ :: _, [] => isFalse nofun
  | (k, v) :: fs, (l, w) :: gs =>
    if e : k = l then match decideEq v w, decideEqFields fs gs with
      | isTrue h, isTrue i => isTrue (e ▸ h ▸ i ▸ rfl)
      | isFalse h, _ => isFalse fun q => h (Prod.mk.inj (List.cons.inj q).1).2
      | _, isFalse i => isFalse fun q => i (List.cons.inj q).2
    else isFalse fun q => e (Prod.mk.inj (List.cons.inj q).1).1

end

instance : DecidableEq Value := decideEq

end ChannelBot.Value
