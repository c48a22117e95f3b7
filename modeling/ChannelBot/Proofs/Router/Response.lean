/-
The response to a line of chat. With the default messages, and a store that answers or says that it
failed, routing ends with a result, and the result says what went out: one message with its text, or
none (`responds_as_told`). What a command does sends nothing by itself; the answer is the last turn of all.
-/
import ChannelBot.Proofs.Router.Asks

namespace ChannelBot.Router

open Dialogue

variable {line channel caller trigger : String} {badges : List String} {heard : Option Heard} {gate : Gate}
  {turns : List (Turn surroundings)} {r : Rules} {α β : Type}

/-! ## What goes out -/

/-- The messages that were sent. -/
def sent (turns : List (Turn surroundings)) : List Outgoing :=
  turns.filterMap fun
    | ⟨.enqueue m, _⟩ => some m
    | _ => none

theorem sent_append (first rest : List (Turn surroundings)) : sent (first ++ rest) = sent first ++ sent rest :=
  List.filterMap_append

theorem sent_eq_nil (h : ∀ t ∈ turns, t.query.IsQuiet) : sent turns = [] := by
  refine List.filterMap_eq_nil_iff.mpr fun t ht => ?_
  have hquiet := h t ht
  rcases t with ⟨_ | _ | _ | _ | m | _ | _ | _, answer⟩
  case enqueue => exact absurd rfl (hquiet m)
  all_goals rfl

/-- Whether the channel is told of an outcome. -/
def Outcome.isTold : Outcome → Bool
  | .denied | .replied | .error => true
  | .ignored | .unknown | .silent => false

/-- What went out is what a result says: its text, once, if the channel is told of its outcome, and
otherwise nothing. -/
def Result.Tells (channel : String) (heard : Option Heard) (turns : List (Turn surroundings)) (result : Result) : Prop :=
  if result.outcome.isTold then ∃ text, result.text = some text ∧ sent turns = [answerIn channel text heard]
  else result.text = none ∧ sent turns = []

theorem Result.Tells.one {result : Result} {text : Value} (htold : result.outcome.isTold = true)
    (htext : result.text = some text) :
    result.Tells channel heard [⟨.enqueue (answerIn channel text heard), ()⟩] := by
  rw [Tells, if_pos htold]
  exact ⟨text, htext, rfl⟩

/-- What was asked without a message before changes nothing. -/
theorem Result.Tells.after {first rest : List (Turn surroundings)} {result : Result}
    (h : result.Tells channel heard rest) (hfirst : ∀ t ∈ first, t.query.IsQuiet) :
    result.Tells channel heard (first ++ rest) := by
  rwa [Tells, sent_append, sent_eq_nil hfirst, List.nil_append]

/-! ## The default messages -/

/-- How the default message of a fault begins. -/
def faultLead : Fault → String
  | .store _ | .transport _ => "error: "
  | _ => "Execution error: "

theorem text_executionError (f : Fault) :
    Messages.defaults.text .executionError [("error", .ofFault f)] = .ok ("Execution error: " ++ f.message) := by
  have hfilled : Messages.defaults.text .executionError [("error", .ofFault f)] =
      .ok (.ofList ("Execution error: ".toList ++ (f.message.toList ++ []))) := rfl
  rw [hfilled, List.append_nil, ← String.toList_append, String.ofList_toList]

theorem text_storeError (f : Fault) :
    Messages.defaults.text .storeError [("error", .ofFault f)] = .ok ("error: " ++ f.message) := by
  have hfilled : Messages.defaults.text .storeError [("error", .ofFault f)] =
      .ok (.ofList ("error: ".toList ++ (f.message.toList ++ []))) := rfl
  rw [hfilled, List.append_nil, ← String.toList_append, String.ofList_toList]

theorem text_permissionDenied :
    Messages.defaults.text .permissionDenied [] = .ok Message.permissionDenied.default := rfl

/-- The default messages tell of any fault. -/
theorem text_fault (f : Fault) :
    Messages.defaults.text (faultMessage f) [("error", .ofFault f)] = .ok (faultLead f ++ f.message) := by
  cases f with
  | store | transport => exact text_storeError _
  | _ => exact text_executionError _

theorem holds_fault (f : Fault) : (Value.str (faultLead f ++ f.message)).holds = true := by
  cases f <;> simp [Value.holds, faultLead]

/-! ## Commands -/

/-- The answer of a command, if it counts as something. -/
def finish (c : Command) (channel : String) (heard : Option Heard) (outcome : Outcome) (text : Value) :
    Routing Result := do
  if !text.holds then return ⟨.silent, none, some c⟩
  respond channel text heard
  return ⟨outcome, some text, some c⟩

/-- What a command that was run is answered with. -/
def conclude (r : Rules) (c : Command) (channel : String) (heard : Option Heard) : Except Fault Value → Routing Result
  | .ok text => finish c channel heard .replied text
  | .error f => r.faultText (faultMessage f) f >>= finish c channel heard .error

theorem run_eq (r : Rules) (c : Command) (l : Line) (channel caller : String) (heard : Option Heard) :
    run r c l channel caller heard =
      Attempt.sure (execute r c l channel (.str caller)).outcome >>= conclude r c channel heard := by
  rw [run]
  refine congrArg (Attempt.sure _ >>= ·) (funext fun x => ?_)
  cases x <;> rfl

/-- An answer that counts as nothing is not sent, and any other one once. -/
theorem runs_finish {c : Command} {outcome : Outcome} {text : Value} {b : Except Fault Result} :
    Runs (finish c channel heard outcome text).outcome turns b ↔
      if text.holds then
        turns = [⟨.enqueue (answerIn channel text heard), ()⟩] ∧ b = .ok ⟨outcome, some text, some c⟩
      else turns = [] ∧ b = .ok ⟨.silent, none, some c⟩ := by
  unfold finish
  cases text.holds with
  | false => exact Attempt.runs_pure
  | true =>
    constructor
    · intro h
      rcases Attempt.runs_bind.mp h with ⟨_, rest, _, rfl, hsent, hrest⟩ | ⟨_, hfailed, -⟩
      · obtain ⟨rfl, -⟩ := runs_respond.mp hsent
        obtain ⟨rfl, rfl⟩ := Attempt.runs_pure.mp hrest
        exact ⟨rfl, rfl⟩
      · cases (runs_respond.mp hfailed).2
    · rintro ⟨rfl, rfl⟩
      exact Attempt.runs_bind.mpr (.inl
        ⟨_, [], (), rfl, runs_respond.mpr ⟨rfl, rfl⟩, Attempt.runs_pure.mpr ⟨rfl, rfl⟩⟩)

/-- With the default messages, a command that was run has one answer or none. -/
theorem runs_conclude {c : Command} {x : Except Fault Value} {b : Except Fault Result}
    (h : Runs (conclude ⟨gate, .defaults⟩ c channel heard x).outcome turns b) :
    ∃ result, b = .ok result ∧ result.outcome ≠ .unknown ∧ result.Tells channel heard turns := by
  have hfinish : ∃ outcome text, outcome.isTold = true ∧
      Runs (finish c channel heard outcome text).outcome turns b := by
    cases x with
    | ok text => exact ⟨.replied, text, rfl, h⟩
    | error f =>
      rw [conclude, Rules.faultText, Rules.text, text_fault] at h
      exact ⟨.error, _, rfl, h⟩
  obtain ⟨outcome, text, htold, hruns⟩ := hfinish
  have hend := runs_finish.mp hruns
  split at hend
  · obtain ⟨rfl, rfl⟩ := hend
    refine ⟨_, rfl, fun hunknown => ?_, ?_⟩
    · rw [show outcome = .unknown from hunknown] at htold
      cases htold
    · exact .one htold rfl
  · obtain ⟨rfl, rfl⟩ := hend
    exact ⟨_, rfl, Outcome.noConfusion, rfl, rfl⟩

/-! ## The whole line -/

/-- An answer as routing may expect it. The sigil of a channel is a text; where the store gives no sigil
or no command, it says so. -/
def IsProper : Turn surroundings → Prop
  | ⟨.sigil _, known⟩ => ∀ v, known = some v → ∃ s, v = .str s
  | ⟨.store (.sigilOf _), answer⟩ => (∃ s, answer = .ok (.str s)) ∨ ∃ cause, answer = .error (.store cause)
  | ⟨.store (.command ..), answer⟩ => ∀ f, answer = .error f → ∃ cause, f = .store cause
  | _ => True

/-- The sigil of a channel is a text. -/
theorem loadSigil_text {b : Except Fault Value} (h : Runs (loadSigil channel).outcome turns b)
    (hproper : ∀ t ∈ turns, IsProper t) : ∃ s, b = .ok (.str s) := by
  rw [loadSigil, Attempt.runs_sure_bind] at h
  obtain ⟨first, rest, known, rfl, hknown, hrest⟩ := h
  rw [runs_query.mp hknown] at hproper
  cases hf : known.filter (·.holds) with
  | some v =>
    simp only [hf, Attempt.runs_pure] at hrest
    have hsigil : IsProper ⟨.sigil channel, known⟩ := hproper _ (by simp)
    obtain ⟨s, rfl⟩ := hsigil v (Option.eq_some_of_filter_eq_some hf)
    exact ⟨s, hrest.2⟩
  | none =>
    simp only [hf, Attempt.runs_sure_bind, runs_askStore] at hrest
    obtain ⟨_, last, answer, rfl, rfl, hlast⟩ := hrest
    rcases hproper ⟨.store (.sigilOf channel), answer⟩ (by simp) with ⟨s, rfl⟩ | ⟨cause, rfl⟩
    · obtain ⟨_, _, _, -, -, hend⟩ := Attempt.runs_sure_bind.mp hlast
      exact ⟨s, (Attempt.runs_pure.mp hend).2⟩
    · exact ⟨defaultSigil, (Attempt.runs_pure.mp hlast).2⟩

theorem read_text (s line : String) : ∃ l?, Line.read (.str s) line = .ok l? := by
  rw [Line.read]
  split <;> exact ⟨_, rfl⟩

theorem judge_none {sigil : Value} (h : Line.read sigil line = .ok none) :
    judge r line channel caller badges heard sigil = pure { outcome := .ignored } := by
  rw [judge, h]
  rfl

theorem judge_some {sigil : Value} {l : Line} (h : Line.read sigil line = .ok (some l)) :
    judge r line channel caller badges heard sigil =
      Attempt.sure (resolve l.trigger channel).outcome >>= settle r l channel caller badges heard := by
  rw [judge, h]
  rfl

/-- No command was found exactly if none is built in and the store answered that there is none. -/
theorem found_none_iff {first second rest : List (Turn surroundings)} {found : Except Fault (Option Command)}
    (hfirst : ∀ t ∈ first, t.query.IsReading channel none)
    (hsecond : Runs (resolve trigger channel).outcome second found) :
    found = .ok none ↔
      Command.builtin? trigger = none ∧ answerTo? trigger channel (first ++ (second ++ rest)) = some (.ok none) := by
  rcases runs_resolve.mp hsecond with ⟨c, hbuiltin, rfl, rfl⟩ | ⟨hnone, rfl⟩
  · simp [hbuiltin]
  · rw [answerTo?_append hfirst]
    simp [hnone, answerTo?]

/-- Whatever the store says of the command, there is one answer or none. Only if there is no such command,
the outcome is that it is unknown. -/
theorem runs_settle {l : Line} {found : Except Fault (Option Command)} {b : Except Fault Result}
    (h : Runs (settle ⟨gate, .defaults⟩ l channel caller badges heard found).outcome turns b)
    (hproper : ∀ f, found = .error f → ∃ cause, f = .store cause) :
    ∃ result, b = .ok result ∧ (result.outcome = .unknown ↔ found = .ok none) ∧ result.Tells channel heard turns := by
  rcases found with f | (_ | c)
  · obtain ⟨cause, rfl⟩ := hproper f rfl
    simp only [settle, Rules.faultText] at h
    rw [runs_tell] at h
    dsimp only at h
    rw [text_storeError] at h
    obtain ⟨rfl, rfl⟩ := h
    exact ⟨_, rfl, by simp, .one rfl rfl⟩
  · obtain ⟨rfl, rfl⟩ := Attempt.runs_pure.mp h
    exact ⟨_, rfl, by simp, rfl, rfl⟩
  · cases hgate : gate.allows c.permission badges caller with
    | false =>
      have hdenied := (settle_denied hgate).mp h
      dsimp only at hdenied
      rw [text_permissionDenied] at hdenied
      obtain ⟨rfl, rfl⟩ := hdenied
      exact ⟨_, rfl, by simp, .one rfl rfl⟩
    | true =>
      have hrun : Runs (run ⟨gate, .defaults⟩ c l channel caller heard).outcome turns b := by
        rwa [settle, if_pos hgate] at h
      rw [run_eq] at hrun
      obtain ⟨first, rest, x, rfl, hfirst, hrest⟩ := Attempt.runs_sure_bind.mp hrun
      obtain ⟨result, rfl, hknown, htells⟩ := runs_conclude hrest
      exact ⟨result, rfl, by simp [hknown], htells.after fun t ht => (hfirst.asks (asks_execute ..) t ht).isQuiet⟩

/-- **A line gets the response that its outcome says.** With the default messages, and if the sigil of
the channel is a text and the store gives a command or says that it failed, routing ends with a result,
whatever else fails. One message goes out, with the text of the result, if the channel is to be told of
the outcome; otherwise none does, and the result has no text. The outcome is that the command is unknown
exactly if a command was typed that is not built in, and the store answered that there is none. -/
theorem responds_as_told (w : World surroundings) (gate : Gate) (line channel caller : String) (badges : List String)
    (heard : Option Heard) :
    let run := hold w [] (route ⟨gate, .defaults⟩ line channel caller badges heard).outcome
    (∀ t ∈ run.1, IsProper t) →
      ∃ result, run.2 = .ok result ∧ result.Tells channel heard run.1 ∧
        (result.outcome = .unknown ↔
          ∃ l, typed? w line channel = some l ∧ Command.builtin? l.trigger = none ∧
            answerTo? l.trigger channel run.1 = some (.ok none)) := by
  intro run hproper
  obtain ⟨first, sigil, hfirst⟩ : ∃ first sigil, hold w [] (loadSigil channel).outcome = (first, sigil) := ⟨_, _, rfl⟩
  have hreads : Runs (loadSigil channel).outcome first sigil := by
    have hruns := runs_hold w [] (loadSigil channel).outcome
    rwa [hfirst] at hruns
  have hfirstQuiet : ∀ t ∈ first, t.query.IsQuiet := fun t ht => (runs_loadSigil hreads none t ht).isQuiet
  obtain ⟨rest, hturns⟩ : ∃ rest, run.1 = first ++ rest := by
    rw [show run = _ from congrArg (fun x => hold w [] x.outcome) (route_eq ..), Attempt.outcome_bind, hold_bind, hfirst]
    exact ⟨_, rfl⟩
  rw [hturns] at hproper
  obtain ⟨s, rfl⟩ := loadSigil_text hreads fun t ht => hproper t (List.mem_append_left _ ht)
  have hrest := Attempt.hold_bind_ok hfirst (judge ⟨gate, .defaults⟩ line channel caller badges heard)
  rw [← route_eq] at hrest
  obtain ⟨l?, hread⟩ := read_text s line
  have htyped : typed? w line channel = l? := by simp only [typed?, hfirst, hread]
  have hjudge := runs_hold w ([] ++ first) (judge ⟨gate, .defaults⟩ line channel caller badges heard (.str s)).outcome
  rw [← congrArg Prod.snd hrest, ← List.append_cancel_left (hturns.symm.trans (congrArg Prod.fst hrest))] at hjudge
  rw [hturns, htyped]
  cases l? with
  | none =>
    rw [judge_none hread] at hjudge
    obtain ⟨rfl, hresult⟩ := Attempt.runs_pure.mp hjudge
    refine ⟨_, hresult, Result.Tells.after ⟨rfl, rfl⟩ hfirstQuiet, by simp⟩
  | some l =>
    rw [judge_some hread] at hjudge
    obtain ⟨second, last, found, rfl, hsecond, hlast⟩ := Attempt.runs_sure_bind.mp hjudge
    have hsecondQuiet : ∀ t ∈ second, t.query.IsQuiet := fun t ht => (resolve_reads hsecond t ht).isQuiet
    have hfound : ∀ f, found = .error f → ∃ cause, f = .store cause := by
      rintro f rfl
      rcases runs_resolve.mp hsecond with ⟨c, -, -, hc⟩ | ⟨-, rfl⟩
      · cases hc
      · have hanswer : IsProper ⟨.store (.command l.trigger channel), .error f⟩ :=
          hproper _ (List.mem_append_right _ (List.mem_append_left _ (List.mem_singleton.mpr rfl)))
        exact hanswer f rfl
    obtain ⟨result, hresult, hunknown, htells⟩ := runs_settle hlast hfound
    refine ⟨result, hresult, (htells.after hsecondQuiet).after hfirstQuiet, hunknown.trans ?_⟩
    rw [found_none_iff (runs_loadSigil hreads none) hsecond]
    constructor
    · intro h
      exact ⟨l, rfl, h⟩
    · rintro ⟨_, ⟨⟩, h⟩
      exact h

/-- A world in which the store is down. -/
def down : World surroundings
  | _, .store q => (.error (.store ⟨503, "down", none⟩) : storeAnswer q)
  | _, .act .. => .ok .null
  | _, .join _ | _, .part _ => .ok ()
  | _, .sigil _ => none
  | _, .enqueue _ | _, .keepSigil .. | _, .dropSigil _ => ()

/-- While the store is down, a line that calls a stored command is answered once, and says so. -/
theorem responds_as_told_down :
    let heard : Heard := ⟨some "7", some "chan"⟩
    let run := hold down [] (route ⟨.ofConfigured none, .defaults⟩ "!hello" "chan" "viewer" [] (some heard)).outcome
    (∀ t ∈ run.1, IsProper t) ∧ run.2 = .ok ⟨.error, some (.str "error: down"), none⟩ ∧
      sent run.1 = [.reply (.str "error: down") heard] := by
  intro heard run
  have hrun : run = ([⟨.sigil "chan", none⟩, ⟨.store (.sigilOf "chan"), .error (.store ⟨503, "down", none⟩)⟩,
      ⟨.store (.command "hello" "chan"), .error (.store ⟨503, "down", none⟩)⟩,
      ⟨.enqueue (.reply (.str "error: down") heard), ()⟩], .ok ⟨.error, some (.str "error: down"), none⟩) := rfl
  have hproper : ∀ t ∈ run.1, IsProper t := by
    rw [hrun]
    refine List.forall_mem_cons.mpr ⟨(fun _ h => nomatch h), ?_⟩
    refine List.forall_mem_cons.mpr ⟨.inr ⟨_, rfl⟩, ?_⟩
    refine List.forall_mem_cons.mpr ⟨fun f hf => ⟨_, (Except.error.inj hf).symm⟩, ?_⟩
    exact List.forall_mem_cons.mpr ⟨trivial, fun _ h => nomatch h⟩
  obtain ⟨result, hresult, htells, -⟩ :=
    responds_as_told down (.ofConfigured none) "!hello" "chan" "viewer" [] (some heard) hproper
  have hend : run.2 = .ok ⟨.error, some (.str "error: down"), none⟩ := by rw [hrun]
  obtain rfl := Except.ok.inj (hresult.symm.trans hend)
  obtain ⟨_, ⟨⟩, hsent⟩ := htells
  exact ⟨hproper, hend, hsent⟩

end ChannelBot.Router
