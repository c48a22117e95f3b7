/-
What a call can change about a script. A body is taken apart before any value is put in
(`compile_iff`), so two calls of one body compile to programs of the same shape (`shape_eq`): they
differ only in the values that stand for variables, and those are put in as they are (`Fills`).
Whether a body compiles at all depends on how many arguments the call has, and not on what they
are (`fault_congr`).
-/
import Mathlib.Data.List.Forall2
import ChannelBot.Proofs.Script.Compile

namespace ChannelBot.Script

variable {call call' : Call} {token body : String} {segments : List Segment} {program program' : List Step}

/-! ## Tokens -/

/-- What stands for a token in a call: the token itself, or what the variable that it names has for
value, unchanged. -/
inductive Fills (call : Call) : String → Value → Prop
  | literal {token : String} (h : token.toList.head? ≠ some '$') : Fills call token (.str token)
  | all : Fills call "$$" (.str (Text.unwords call.args))
  | caller : Fills call "$user" call.caller
  | argument {digits : List Char} {index : Nat} {arg : String} (hdigits : isIndex digits)
    (hindex : Number.ofDigits digits = .ok index) (harg : call.args[index]? = some arg) :
    Fills call (.ofList ('$' :: digits)) (.str arg)

theorem eq_variable (h : token.toList.head? = some '$') : ∃ name, token = .ofList ('$' :: name) := by
  cases htoken : token.toList with
  | nil =>
    rw [htoken] at h
    cases h
  | cons c name =>
    rw [htoken] at h
    cases h
    exact ⟨name, by rw [← htoken, String.ofList_toList]⟩

theorem resolveToken_literal (h : token.toList.head? ≠ some '$') : resolveToken call token = .ok (.str token) := by
  rw [resolveToken, beq_false_of_ne h]
  rfl

theorem resolveToken_variable (call : Call) (name : List Char) :
    resolveToken call (.ofList ('$' :: name)) =
      if name == ['$'] then .ok (.str (Text.unwords call.args))
      else if name == "user".toList then .ok call.caller
      else if isIndex name then
        match Number.ofDigits name with
        | .error _ => .error (.shape (.tooManyDigits name.length))
        | .ok index =>
          match call.args[index]? with
          | some arg => .ok (.str arg)
          | none => .error (.missingArgument index)
      else .error (.invalidVariable (.ofList ('$' :: name))) := by
  simp only [resolveToken, resolveVariable, String.toList_ofList]
  exact if_pos rfl

theorem isIndex_other {digits : List Char} (h : isIndex digits) : digits ≠ ['$'] ∧ digits ≠ "user".toList := by
  constructor <;> (rintro rfl; exact absurd h (by decide))

/-- A token has exactly the values that can stand for it. -/
theorem resolveToken_ok {v : Value} : resolveToken call token = .ok v ↔ Fills call token v := by
  constructor
  · intro h
    by_cases hhead : token.toList.head? = some '$'
    · obtain ⟨name, rfl⟩ := eq_variable hhead
      rw [resolveToken_variable] at h
      split at h
      · rename_i hname
        cases eq_of_beq hname
        cases h
        exact .all
      · split at h
        · rename_i hname
          cases eq_of_beq hname
          cases h
          exact .caller
        · split at h
          · rename_i hdigits
            split at h
            · cases h
            · rename_i index hindex
              split at h
              · rename_i arg harg
                cases h
                exact .argument hdigits hindex harg
              · cases h
          · cases h
    · rw [resolveToken_literal hhead] at h
      cases h
      exact .literal hhead
  · intro h
    cases h with
    | literal h => exact resolveToken_literal h
    | all => exact resolveToken_variable call ['$']
    | caller => exact resolveToken_variable call "user".toList
    | argument hdigits hindex harg =>
      obtain ⟨hall, hcaller⟩ := isIndex_other hdigits
      rw [resolveToken_variable, if_neg (mt eq_of_beq hall), if_neg (mt eq_of_beq hcaller), if_pos hdigits]
      simp only [hindex, harg]

/-- Of the arguments it only matters for a fault how many there are. -/
theorem tokenFault?_variable (call : Call) (name : List Char) :
    tokenFault? call (.ofList ('$' :: name)) =
      if name == ['$'] then none
      else if name == "user".toList then none
      else if isIndex name then
        match Number.ofDigits name with
        | .error _ => some (.shape (.tooManyDigits name.length))
        | .ok index => if index < call.args.length then none else some (.missingArgument index)
      else some (.invalidVariable (.ofList ('$' :: name))) := by
  rw [tokenFault?, resolveToken_variable]
  by_cases hall : name == ['$']
  · rw [if_pos hall, if_pos hall]
  · rw [if_neg hall, if_neg hall]
    by_cases hcaller : name == "user".toList
    · rw [if_pos hcaller, if_pos hcaller]
    · rw [if_neg hcaller, if_neg hcaller]
      by_cases hdigits : isIndex name
      · rw [if_pos hdigits, if_pos hdigits]
        cases Number.ofDigits name with
        | error e => rfl
        | ok index =>
          dsimp only
          by_cases hindex : index < call.args.length
          · rw [if_pos hindex, List.getElem?_eq_getElem hindex]
          · rw [if_neg hindex, List.getElem?_eq_none (Nat.le_of_not_lt hindex)]
      · rw [if_neg hdigits, if_neg hdigits]

theorem tokenFault?_congr (h : call.args.length = call'.args.length) (token : String) :
    tokenFault? call token = tokenFault? call' token := by
  by_cases hhead : token.toList.head? = some '$'
  · obtain ⟨name, rfl⟩ := eq_variable hhead
    rw [tokenFault?_variable, tokenFault?_variable, h]
  · rw [tokenFault?, tokenFault?, resolveToken_literal hhead, resolveToken_literal hhead]

/-! ## Programs -/

/-- What a segment can become in a call. Text and the name of an action stay as they are. -/
inductive Compiles (call : Call) : Segment → Step → Prop
  | literal (text : String) : Compiles call (.literal text) (.emit text)
  | block (action : String) {tokens : List String} {args : List Value} (position : Nat)
    (h : List.Forall₂ (Fills call) tokens args) : Compiles call (.block action tokens position) (.invoke action args)

/-- A traversal succeeds if it does at every element. -/
theorem mapM_ok {α β ε : Type} {f : α → Except ε β} {xs : List α} {ys : List β} :
    xs.mapM f = .ok ys ↔ List.Forall₂ (fun x y => f x = .ok y) xs ys := by
  induction xs generalizing ys with
  | nil => cases ys <;> simp [pure, Except.pure]
  | cons x xs ih =>
    rw [List.mapM_cons, List.forall₂_cons_left_iff]
    cases hx : f x with
    | error e => simp [bind, Except.bind]
    | ok y =>
      cases hxs : xs.mapM f with
      | error e => simp [bind, Except.bind, ← ih, hxs]
      | ok ys' => simp [bind, Except.bind, pure, Except.pure, ← ih, hxs, eq_comm]

theorem resolve_ok {segment : Segment} {step : Step} : resolve call segment = .ok step ↔ Compiles call segment step := by
  constructor
  · intro h
    cases segment with
    | literal text =>
      cases h
      exact .literal text
    | block action tokens position =>
      rw [resolve] at h
      cases hargs : tokens.mapM (resolveToken call) with
      | error e =>
        rw [hargs] at h
        cases h
      | ok args =>
        rw [hargs] at h
        cases h
        exact .block action position ((mapM_ok.mp hargs).imp fun _ _ => resolveToken_ok.mp)
  · intro h
    cases h with
    | literal text => rfl
    | block action position hargs => rw [resolve, mapM_ok.mpr (hargs.imp fun _ _ => resolveToken_ok.mpr)]; rfl

/-- Values are put in after a body has been taken apart, segment by segment. -/
theorem compile_iff :
    compile body call = .ok program ↔
      ∃ segments, parse body = .ok segments ∧ List.Forall₂ (Compiles call) segments program := by
  rw [compile]
  cases parse body with
  | error e => simp [bind, Except.bind]
  | ok segments =>
    have hmapM : segments.mapM (resolve call) = .ok program ↔ List.Forall₂ (Compiles call) segments program := by
      rw [mapM_ok]
      exact ⟨(·.imp fun _ _ => resolve_ok.mp), (·.imp fun _ _ => resolve_ok.mpr)⟩
    simpa [bind, Except.bind] using hmapM

/-- What a step is but for the values of its arguments. -/
inductive Shape where
  | text (text : String)
  | call (action : String) (arguments : Nat)
  deriving Repr, DecidableEq

/-- The shape of a step. -/
def Step.shape : Step → Shape
  | .emit text => .text text
  | .invoke action args => .call action args.length

/-- The shape that a segment has in all calls. -/
def Segment.shape : Segment → Shape
  | .literal text => .text text
  | .block action tokens _ => .call action tokens.length

theorem Compiles.shape {segment : Segment} {step : Step} (h : Compiles call segment step) :
    step.shape = segment.shape := by
  cases h with
  | literal text => rfl
  | block action position hargs => rw [Step.shape, Segment.shape, hargs.length_eq]

theorem shapes_eq (h : List.Forall₂ (Compiles call) segments program) :
    program.map Step.shape = segments.map Segment.shape := by
  induction h with
  | nil => rfl
  | cons hstep _ ih => rw [List.map_cons, List.map_cons, hstep.shape, ih]

/-- Two calls give a body the same shape. -/
theorem shape_eq (h : compile body call = .ok program) (h' : compile body call' = .ok program') :
    program.map Step.shape = program'.map Step.shape := by
  obtain ⟨segments, hparse, hsteps⟩ := compile_iff.mp h
  obtain ⟨segments', hparse', hsteps'⟩ := compile_iff.mp h'
  cases hparse.symm.trans hparse'
  rw [shapes_eq hsteps, shapes_eq hsteps']

/-- Whether a body compiles, and why not, depends on the number of arguments only. -/
theorem fault_congr (h : call.args.length = call'.args.length) (e : Fault) :
    compile body call = .error e ↔ compile body call' = .error e := by
  obtain ⟨ps, hcut⟩ := exists_cut 0 body.toList
  rw [compile_eq hcut, compile_eq hcut, funext (tokenFault?_congr h)]
  cases ps.findSome? Piece.fault? with
  | some e' => rfl
  | none => cases (ps.flatMap Piece.tokens).findSome? (tokenFault? call') <;> simp

end ChannelBot.Script
