/-
Nothing that a caller types and nothing that an action answers is read as script. The program of a
body is fixed before the first action runs; running it calls the actions in it (`called_program`)
and puts their answers between its texts as they are (`joined_put`). With what compiling keeps from
the call, this is `substitution_is_inert`.
-/
import ChannelBot.Proofs.Router.Gate
import ChannelBot.Proofs.Router.Interpret
import ChannelBot.Proofs.Script.Substitution

namespace ChannelBot

/-- The action that a step runs, with its arguments. -/
def Script.Step.invocation? : Script.Step → Option (String × List Value)
  | .emit _ => none
  | .invoke action args => some (action, args)

namespace Router

open Dialogue
open Script (Call Piece Cut Segment Step Compiles compile nonempty?)

variable {channel body : String} {call : Call} {ps : List Piece} {program : List Step}

/-- The texts of a program with what was answered to its actions in between. -/
def woven : List Step → List Value → List String
  | .emit text :: rest, values => text :: woven rest values
  | .invoke .. :: rest, v :: values => said v :: woven rest values
  | _, _ => []

/-- The program that pieces make in a call. -/
def programOf (call : Call) (ps : List Piece) : List Step := (ps.flatMap Piece.segments).map (Segment.step call)

theorem programOf_text (s : List Char) : programOf call (.text s :: ps) =
    if s = [] then programOf call ps else .emit (.ofList s) :: programOf call ps := by
  rw [programOf, List.flatMap_cons, List.map_append, Piece.segments, Script.withLiteral]
  by_cases hs : s = []
  · subst hs
    rfl
  · have hempty : s.isEmpty = false := by simpa using hs
    rw [if_neg hs, hempty]
    rfl

theorem programOf_block {inside action : List Char} {tokens : List (List Char)} {position : Nat}
    (h : Chars.words inside = action :: tokens) : programOf call (.block inside position :: ps) =
      .invoke (.ofList action) ((tokens.map .ofList).map (Script.tokenValue call)) :: programOf call ps := by
  rw [programOf, List.flatMap_cons, List.map_append, Piece.segments, h]
  rfl

/-- What a program calls are the blocks of the pieces that it was made of. -/
theorem invocations_programOf (hok : ∀ p ∈ ps, p.fault? = none) :
    (programOf call ps).filterMap Step.invocation? = ps.filterMap (Piece.invocation? call) := by
  induction ps with
  | nil => rfl
  | cons p ps ih =>
    rw [List.forall_mem_cons] at hok
    cases p with
    | text s =>
      rw [programOf_text, List.filterMap_cons_none rfl, ← ih hok.2]
      split <;> rfl
    | unclosed inside position => exact absurd hok.1 (Option.some_ne_none _)
    | block inside position =>
      obtain ⟨action, tokens, hwords⟩ := List.exists_cons_of_ne_nil fun h => by
        rw [Piece.fault?, if_pos h] at hok
        cases hok.1
      have hblock : (Piece.block inside position).invocation? call =
          some (.ofList action, (tokens.map .ofList).map (Script.tokenValue call)) := by
        rw [Piece.invocation?, hwords]
      rw [programOf_block hwords, List.filterMap_cons_some hblock, ← ih hok.2]
      rfl

/-- A program puts out what its pieces do. -/
theorem joined_put (hok : ∀ p ∈ ps, p.fault? = none) (values : List Value) :
    String.join (woven (programOf call ps) values) = String.join ((put ps values).map said) := by
  induction ps generalizing values with
  | nil => cases values <;> rfl
  | cons p ps ih =>
    rw [List.forall_mem_cons] at hok
    cases p with
    | text s =>
      rw [programOf_text, put, List.map_cons, String.join_cons, ← ih hok.2]
      by_cases hs : s = []
      · subst hs
        exact String.empty_append.symm
      · rw [if_neg hs, woven, String.join_cons]
        rfl
    | unclosed inside position => exact absurd hok.1 (Option.some_ne_none _)
    | block inside position =>
      obtain ⟨action, tokens, hwords⟩ := List.exists_cons_of_ne_nil fun h => by
        rw [Piece.fault?, if_pos h] at hok
        cases hok.1
      rw [programOf_block hwords]
      cases values with
      | nil => rfl
      | cons v values => rw [woven, put, String.join_cons, List.map_cons, String.join_cons, ih hok.2]

/-- Running a body that compiles calls the actions of its program, whatever they answer, and joins
the answers and the texts of the program. -/
theorem runs_program {turns : List (Turn surroundings)} {x : Except Fault (Option String)}
    (hprogram : compile body call = .ok program) (h : Runs (running channel body call).outcome turns x) :
    ∃ answers, Called channel (program.filterMap Step.invocation?) turns answers ∧
      match answers with
      | .error e => x = .error e
      | .ok values => (∀ v ∈ values, IsText v) → x = .ok (nonempty? (String.join (woven program values))) := by
  obtain ⟨ps, hcut⟩ := Script.exists_cut 0 body.toList
  have hruns := runs_running hcut h
  rw [Script.compile_eq hcut] at hprogram
  cases hfault : ps.findSome? Piece.fault? with
  | some e =>
    rw [hfault] at hprogram
    cases hprogram
  | none =>
    cases htoken : (ps.flatMap Piece.tokens).findSome? (Script.tokenFault? call) with
    | some e =>
      simp only [hfault, htoken] at hprogram
      cases hprogram
    | none =>
      simp only [hfault, htoken] at hprogram hruns
      obtain rfl : programOf call ps = program := Except.ok.inj hprogram
      have hok : ∀ p ∈ ps, p.fault? = none := List.findSome?_eq_none_iff.mp hfault
      obtain ⟨answers, hcalled, rfl⟩ := hruns
      refine ⟨answers, by rwa [invocations_programOf hok], ?_⟩
      cases answers with
      | error e => rfl
      | ok values =>
        intro htexts
        rw [joined_put hok, ← ending_texts (put_texts htexts ps)]
        rfl

/-- **What callers type and what actions answer is never read as script.** A body is taken apart
before any value is put in, and what stands for a token is the token itself or, unchanged, the
value that it names; so two calls of a body give programs that differ in the values of arguments
only, and of the arguments of a call it is only their number on which it depends whether there is a
program. The actions that run are those of the program, in order, whatever they answer, and their
answers come out as they are. -/
theorem substitution_is_inert (body : String) (call call' : Call) :
    (∀ program, compile body call = .ok program ↔
      ∃ segments, Script.parse body = .ok segments ∧ List.Forall₂ (Compiles call) segments program) ∧
    (∀ program program', compile body call = .ok program → compile body call' = .ok program' →
      program.map Step.shape = program'.map Step.shape) ∧
    (call.args.length = call'.args.length → ∀ e, compile body call = .error e ↔ compile body call' = .error e) ∧
    ∀ (w : World surroundings) (channel : String) (program : List Step), compile body call = .ok program →
      let run := hold w [] (running channel body call).outcome
      ∃ answers, Called channel (program.filterMap Step.invocation?) run.1 answers ∧
        match answers with
        | .error e => run.2 = .error e
        | .ok values => (∀ v ∈ values, IsText v) → run.2 = .ok (nonempty? (String.join (woven program values))) :=
  ⟨fun _ => Script.compile_iff, fun _ _ => Script.shape_eq, Script.fault_congr,
    fun w _ _ hprogram => runs_program hprogram (runs_hold w [] _)⟩

/-- The quiet world, but for the actions, which all answer this. -/
def saying (text : String) : World surroundings
  | _, .act .. => .ok (.str text)
  | past, q => quiet past q

/-- A caller who tries to smuggle a block in. -/
def tricky : Call := ⟨["{ban $user}", "$$"], .str "\x7d\x7bban"⟩

/-- Neither what the caller smuggles in nor what the actions answer is run. -/
theorem substitution_is_inert_tricky :
    let body := "{say $0 $$ $user} and {say x}"
    let program : List Step :=
      [.invoke "say" [.str "{ban $user}", .str "{ban $user} $$", .str "\x7d\x7bban"], .emit " and ", .invoke "say" [.str "x"]]
    let run := hold (saying "{ban $0}") [] (running "chan" body tricky).outcome
    compile body tricky = .ok program ∧
      (∃ program', compile body ⟨["a", "b"], .str "eve"⟩ = .ok program' ∧
        program'.map Step.shape = [.call "say" 3, .text " and ", .call "say" 1]) ∧
      compile "{say $2}" tricky = .error (.missingArgument 2) ∧
      compile "{say $2}" ⟨["a", "b"], .str "eve"⟩ = .error (.missingArgument 2) ∧
      run.1.length = 2 ∧ run.2 = .ok (some "{ban $0} and {ban $0}") := by
  intro body program run
  have hprogram : compile body tricky = .ok program := by decide +kernel
  have htame : compile body ⟨["a", "b"], .str "eve"⟩ =
      .ok [.invoke "say" [.str "a", .str "a b", .str "eve"], .emit " and ", .invoke "say" [.str "x"]] := by
    decide +kernel
  have hmissing : compile "{say $2}" tricky = .error (.missingArgument 2) := by decide +kernel
  have hturns : run.1 =
      answered "chan" (program.filterMap Step.invocation?) [.str "{ban $0}", .str "{ban $0}"] := by
    rw [show run = hold _ _ _ from rfl, running_eq, hprogram]
    rfl
  obtain ⟨-, hshape, -, hruns⟩ := substitution_is_inert body tricky ⟨["a", "b"], .str "eve"⟩
  obtain ⟨-, -, hfault, -⟩ := substitution_is_inert "{say $2}" tricky ⟨["a", "b"], .str "eve"⟩
  refine ⟨hprogram, ⟨_, htame, (hshape _ _ hprogram htame).symm⟩, hmissing, (hfault rfl _).mp hmissing,
    by rw [hturns]; rfl, ?_⟩
  obtain ⟨answers, hcalled, hend⟩ := hruns (saying "{ban $0}") "chan" program hprogram
  rw [show (hold _ _ _).1 = _ from hturns] at hcalled
  cases hcalled with
  | next _ v hcalled =>
    cases hcalled with
    | next _ v' hcalled =>
      cases hcalled
      refine hend fun v hv => .inr ⟨"{ban $0}", ?_⟩
      simpa using hv

end Router

end ChannelBot
