/-
Running a body calls its blocks in order, or none at all. If a piece of the body is faulty, or a
token has no value, nothing is called. Otherwise the blocks are called one after the other until
one fails (`runs_runSteps`), and what they and the text around them put out is joined
(`interpret_in_order`).
-/
import ChannelBot.Proofs.Dialogue.Runs
import ChannelBot.Proofs.Script.Compile
import ChannelBot.Router.Route

namespace ChannelBot.Router

open Dialogue
open Script (Piece Cut Segment runSteps joined nonempty? tokenFault? interpret)

variable {channel : String} {call : Script.Call} {ps : List Piece} {turns : List (Turn surroundings)}

/-! ## What is put out -/

/-- What pieces put out, with the answers to their blocks. -/
def put : List Piece → List Value → List Value
  | .text s :: ps, values => .str (.ofList s) :: put ps values
  | .block .. :: ps, v :: values => v :: put ps values
  | _, _ => []

/-- The text that an answer adds. -/
def said : Value → String
  | .str s => s
  | _ => ""

/-- A text or nothing, as actions answer. -/
def IsText (v : Value) : Prop := v = .null ∨ ∃ s, v = .str s

/-- The result of a body whose blocks were all answered. -/
def ending (pieces : List Value) : Except Fault (Option String) :=
  match joined pieces with
  | .ok text => .ok (nonempty? text)
  | .error e => .error (.script e)

theorem texts_filter {values : List Value} (h : ∀ v ∈ values, IsText v) (index : Nat) :
    ∃ texts, Value.texts index (values.filter (·.holds)) = .ok texts ∧
      String.join texts = String.join (values.map said) := by
  induction values generalizing index with
  | nil => exact ⟨[], rfl, rfl⟩
  | cons v rest ih =>
    rw [List.forall_mem_cons] at h
    rcases h.1 with rfl | ⟨s, rfl⟩
    · obtain ⟨texts, htexts, hjoin⟩ := ih h.2 index
      refine ⟨texts, htexts, ?_⟩
      rw [List.map_cons, String.join_cons, hjoin]
      exact (String.empty_append).symm
    · by_cases hs : s = ""
      · subst hs
        obtain ⟨texts, htexts, hjoin⟩ := ih h.2 index
        refine ⟨texts, htexts, ?_⟩
        rw [List.map_cons, String.join_cons, hjoin]
        exact (String.empty_append).symm
      · obtain ⟨texts, htexts, hjoin⟩ := ih h.2 (index + 1)
        refine ⟨s :: texts, ?_, ?_⟩
        · have hholds : (Value.str s).holds = true := by simp [Value.holds, hs]
          rw [List.filter_cons_of_pos hholds, Value.texts, htexts]
          rfl
        · rw [List.map_cons, String.join_cons, String.join_cons, hjoin]
          rfl

/-- Texts are joined, and what is absent or empty adds nothing. -/
theorem ending_texts {values : List Value} (h : ∀ v ∈ values, IsText v) :
    ending (values.filter (·.holds)) = .ok (nonempty? (String.join (values.map said))) := by
  obtain ⟨texts, htexts, hjoin⟩ := texts_filter h 0
  rw [ending, joined, htexts]
  simp only [hjoin]

theorem put_texts {values : List Value} (h : ∀ v ∈ values, IsText v) (ps : List Piece) :
    ∀ v ∈ put ps values, IsText v := by
  fun_induction put ps values with
  | case1 values s ps ih =>
    rw [List.forall_mem_cons]
    exact ⟨.inr ⟨_, rfl⟩, ih h⟩
  | case2 inside position ps v values ih =>
    rw [List.forall_mem_cons] at h ⊢
    exact ⟨h.1, ih h.2⟩
  | case3 => exact fun _ hmem => absurd hmem List.not_mem_nil

/-! ## Steps -/

/-- Blocks are called one after another until one fails, with the answers that came, or the fault. -/
inductive Called (channel : String) :
    List (String × List Value) → List (Turn surroundings) → Except Fault (List Value) → Prop
  | none : Called channel [] [] (.ok [])
  | failed (b : String × List Value) (rest : List (String × List Value)) (e : Fault) :
    Called channel (b :: rest) [⟨.act b.1 b.2 channel, .error e⟩] (.error e)
  | next (b : String × List Value) (v : Value) {rest : List (String × List Value)}
    {turns : List (Turn surroundings)} {answers : Except Fault (List Value)} (h : Called channel rest turns answers) :
    Called channel (b :: rest) (⟨.act b.1 b.2 channel, .ok v⟩ :: turns) (answers.map (v :: ·))

/-- Calls of these blocks, each answered by a value. -/
def answered (channel : String) (blocks : List (String × List Value)) (values : List Value) :
    List (Turn surroundings) :=
  List.zipWith (fun b v => ⟨.act b.1 b.2 channel, .ok v⟩) blocks values

/-- Either all blocks were called and answered, or those before one that failed, and that one last. -/
theorem Called.cases {blocks : List (String × List Value)} {answers : Except Fault (List Value)}
    (h : Called channel blocks turns answers) :
    (∃ values, values.length = blocks.length ∧ turns = answered channel blocks values ∧ answers = .ok values) ∨
      ∃ before b after values e, blocks = before ++ b :: after ∧ values.length = before.length ∧
        turns = answered channel before values ++ [⟨.act b.1 b.2 channel, .error e⟩] ∧ answers = .error e := by
  induction h with
  | none => exact .inl ⟨[], rfl, rfl, rfl⟩
  | failed b rest e => exact .inr ⟨[], b, rest, [], e, rfl, rfl, rfl, rfl⟩
  | next b v _ ih =>
    rcases ih with ⟨values, hlength, rfl, rfl⟩ | ⟨before, b', after, values, e, rfl, hlength, rfl, rfl⟩
    · exact .inl ⟨v :: values, congrArg (· + 1) hlength, rfl, rfl⟩
    · exact .inr ⟨b :: before, b', after, v :: values, e, rfl, congrArg (· + 1) hlength, rfl, rfl⟩

variable {rest : List Script.Step} {x : Except Fault (List Value)}

theorem runs_act {action : String} {args : List Value} {x : Except Fault Value} :
    Runs (act channel action args).outcome turns x ↔ turns = [⟨.act action args channel, x⟩] := runs_query

theorem runs_emit {text : String} :
    Runs (runSteps (act channel) (.emit text :: rest)).outcome turns x ↔
      ∃ y, Runs (runSteps (act channel) rest).outcome turns y ∧ x = y.map (.str text :: ·) := Attempt.runs_bind_pure

theorem runs_invoke {action : String} {args : List Value} :
    Runs (runSteps (act channel) (.invoke action args :: rest)).outcome turns x ↔
      (∃ v later y, turns = ⟨.act action args channel, .ok v⟩ :: later ∧
        Runs (runSteps (act channel) rest).outcome later y ∧
        x = y.map fun pieces => if v.holds then v :: pieces else pieces) ∨
      ∃ e, turns = [⟨.act action args channel, .error e⟩] ∧ x = .error e := by
  rw [runSteps, Attempt.runs_bind]
  constructor
  · intro h
    rcases h with ⟨first, later, v, rfl, hact, hlater⟩ | ⟨e, hact, rfl⟩
    · obtain ⟨y, hy, rfl⟩ := Attempt.runs_bind_pure.mp hlater
      rw [runs_act.mp hact]
      exact .inl ⟨v, later, y, rfl, hy, rfl⟩
    · exact .inr ⟨e, runs_act.mp hact, rfl⟩
  · intro h
    rcases h with ⟨v, later, y, rfl, hy, rfl⟩ | ⟨e, rfl, rfl⟩
    · exact .inl ⟨_, later, v, rfl, runs_act.mpr rfl, Attempt.runs_bind_pure.mpr ⟨y, hy, rfl⟩⟩
    · exact .inr ⟨e, runs_act.mpr rfl, rfl⟩

/-- The steps of pieces without faults call the blocks among them in order. -/
theorem runs_runSteps (hok : ∀ p ∈ ps, p.fault? = none)
    (h : Runs (runSteps (act channel) ((ps.flatMap Piece.segments).map (Segment.step call))).outcome turns x) :
    ∃ answers, Called channel (ps.filterMap (Piece.invocation? call)) turns answers ∧
      x = answers.map fun values => (put ps values).filter (·.holds) := by
  induction ps generalizing turns x with
  | nil =>
    obtain ⟨rfl, rfl⟩ := Attempt.runs_pure.mp h
    exact ⟨.ok [], .none, rfl⟩
  | cons p ps ih =>
    rw [List.forall_mem_cons] at hok
    rw [List.flatMap_cons, List.map_append] at h
    cases p with
    | text s =>
      rw [Piece.segments, Script.withLiteral] at h
      by_cases hs : s = []
      · subst hs
        exact ih hok.2 h
      · have hempty : s.isEmpty = false := by simpa using hs
        have hholds : (Value.str (.ofList s)).holds = true := by simp [Value.holds, hs]
        rw [hempty] at h
        obtain ⟨y, hy, rfl⟩ := runs_emit.mp h
        obtain ⟨answers, hcalled, rfl⟩ := ih hok.2 hy
        refine ⟨answers, hcalled, ?_⟩
        cases answers with
        | error e => rfl
        | ok values =>
          simp only [Except.map, put, List.filter_cons_of_pos hholds]
    | unclosed inside position => exact absurd hok.1 (Option.some_ne_none _)
    | block inside position =>
      cases hwords : Chars.words inside with
      | nil =>
        have hfault := hok.1
        rw [Piece.fault?, if_pos hwords] at hfault
        cases hfault
      | cons action tokens =>
        have hblock : (Piece.block inside position).invocation? call =
            some (.ofList action, (tokens.map .ofList).map (Script.tokenValue call)) := by
          rw [Piece.invocation?, hwords]
        rw [List.filterMap_cons_some hblock]
        rw [Piece.segments, hwords] at h
        rcases runs_invoke.mp h with ⟨v, later, y, rfl, hy, rfl⟩ | ⟨e, rfl, rfl⟩
        · obtain ⟨answers, hcalled, rfl⟩ := ih hok.2 hy
          refine ⟨_, .next _ v hcalled, ?_⟩
          cases answers with
          | error e => rfl
          | ok values =>
            simp only [Except.map, put, List.filter_cons]
        · exact ⟨_, .failed _ _ e, rfl⟩

/-! ## Whole bodies -/

/-- A body that is run with the actions of the registry. -/
def running (channel body : String) (call : Script.Call) : Routing (Option String) :=
  interpret (fun e => throw (.script e)) (act channel) (.str body) call

theorem running_eq (channel body : String) (call : Script.Call) :
    running channel body call = match Script.compile body call with
      | .error e => .fail (.script e)
      | .ok steps => runSteps (act channel) steps >>= fun pieces => .ofExcept (ending pieces) := by
  rw [running, interpret, Script.bodyText]
  show (match Script.compile body call with
    | .error e => _
    | .ok steps => _) = _
  cases Script.compile body call with
  | error e => rfl
  | ok steps =>
    refine congrArg (runSteps (act channel) steps >>= ·) (funext fun pieces => ?_)
    rw [ending]
    cases joined pieces <;> rfl

/-- What happens when a body is run that is cut into these pieces. -/
theorem runs_running {body : String} (hcut : Cut 0 body.toList ps) {x : Except Fault (Option String)}
    (h : Runs (running channel body call).outcome turns x) :
    match ps.findSome? Piece.fault? with
    | some e => (turns, x) = ([], .error (.script e))
    | none =>
      match (ps.flatMap Piece.tokens).findSome? (tokenFault? call) with
      | some e => (turns, x) = ([], .error (.script e))
      | none => ∃ answers, Called channel (ps.filterMap (Piece.invocation? call)) turns answers ∧
        x = answers.bind fun values => ending ((put ps values).filter (·.holds)) := by
  rw [running_eq, Script.compile_eq hcut] at h
  cases hfault : ps.findSome? Piece.fault? with
  | some e =>
    rw [hfault] at h
    obtain ⟨rfl, rfl⟩ := Attempt.runs_fail.mp h
    rfl
  | none =>
    rw [hfault] at h
    cases htoken : (ps.flatMap Piece.tokens).findSome? (tokenFault? call) with
    | some e =>
      simp only [htoken] at h
      obtain ⟨rfl, rfl⟩ := Attempt.runs_fail.mp h
      rfl
    | none =>
      simp only [htoken] at h
      have hok : ∀ p ∈ ps, p.fault? = none := List.findSome?_eq_none_iff.mp hfault
      rcases Attempt.runs_bind.mp h with ⟨first, rest, pieces, rfl, hsteps, hend⟩ | ⟨e, hsteps, rfl⟩
      · obtain ⟨answers, hcalled, hpieces⟩ := runs_runSteps hok hsteps
        obtain ⟨rfl, rfl⟩ := Attempt.runs_ofExcept.mp hend
        rw [List.append_nil]
        refine ⟨answers, hcalled, ?_⟩
        cases answers with
        | error e => cases hpieces
        | ok values =>
          cases hpieces
          rfl
      · obtain ⟨answers, hcalled, hpieces⟩ := runs_runSteps hok hsteps
        refine ⟨answers, hcalled, ?_⟩
        cases answers with
        | error e' =>
          cases hpieces
          rfl
        | ok values => cases hpieces

/-- **A body is run in order or not at all**, whatever the registry answers. If a piece of it is
faulty, or else if a token has no value, nothing is called and that is the result. Otherwise its
blocks are called in order, each once, up to the first that fails, whose fault is the result; if
none fails, the result is the text of literals and answers, if there is any. -/
theorem interpret_in_order (w : World surroundings) (channel body : String) (call : Script.Call) :
    let run := hold w [] (running channel body call).outcome
    ∃ ps, Cut 0 body.toList ps ∧
      match ps.findSome? Piece.fault? with
      | some e => run = ([], .error (.script e))
      | none =>
        match (ps.flatMap Piece.tokens).findSome? (tokenFault? call) with
        | some e => run = ([], .error (.script e))
        | none =>
          (∃ values, values.length = (ps.filterMap (Piece.invocation? call)).length ∧
            run = (answered channel (ps.filterMap (Piece.invocation? call)) values,
              ending ((put ps values).filter (·.holds))) ∧
            ((∀ v ∈ values, IsText v) → run.2 = .ok (nonempty? (String.join ((put ps values).map said))))) ∨
          ∃ before b after values e, ps.filterMap (Piece.invocation? call) = before ++ b :: after ∧
            values.length = before.length ∧
            run = (answered channel before values ++ [⟨.act b.1 b.2 channel, .error e⟩], .error e) := by
  intro run
  obtain ⟨ps, hcut⟩ := Script.exists_cut 0 body.toList
  refine ⟨ps, hcut, ?_⟩
  have hruns := runs_running hcut (runs_hold w [] (running channel body call).outcome)
  split
  · rename_i e hfault
    rw [hfault] at hruns
    exact hruns
  · rename_i hfault
    rw [hfault] at hruns
    dsimp only at hruns
    split
    · rename_i e htoken
      rw [htoken] at hruns
      exact hruns
    · rename_i htoken
      rw [htoken] at hruns
      obtain ⟨answers, hcalled, hx⟩ := hruns
      rcases hcalled.cases with ⟨values, hlength, hturns, rfl⟩ |
        ⟨before, b, after, values, e, hblocks, hlength, hturns, rfl⟩
      · refine .inl ⟨values, hlength, Prod.ext hturns hx, fun htexts => ?_⟩
        rw [← ending_texts (put_texts htexts ps)]
        exact hx
      · exact .inr ⟨before, b, after, values, e, hblocks, hlength, Prod.ext hturns hx⟩

end ChannelBot.Router
