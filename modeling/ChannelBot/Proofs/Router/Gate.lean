/-
The gate comes before every effect. Until a line of chat has called a command, routing only reads
(`runs_loadSigil`, `runs_resolve`); what a command does happens after the gate has let the call
through, and a call that is refused is answered by one message and has no other effect
(`effects_are_allowed`).
-/
import ChannelBot.Proofs.Dialogue.Runs
import ChannelBot.Router.Route

namespace ChannelBot.Router

open Dialogue

variable {r : Rules} {line channel caller trigger : String} {badges : List String} {heard : Option Heard}
  {turns : List (Turn surroundings)}

/-! ## The stages of routing -/

/-- The message that answers in a channel. -/
def answerIn (channel : String) (text : Value) : Option Heard → Outgoing
  | some heard => .reply text heard
  | none => .say channel text

/-- What becomes of a call once its command was looked for. -/
def settle (r : Rules) (l : Line) (channel caller : String) (badges : List String) (heard : Option Heard) :
    Except Fault (Option Command) → Routing Result
  | .error (.store f) => do
    let text ← r.faultText .storeError (.store f)
    respond channel text heard
    return { outcome := .error, text := some text }
  | .error f => .fail f
  | .ok none => return { outcome := .unknown }
  | .ok (some c) =>
    if r.gate.allows c.permission badges caller then run r c l channel caller heard
    else do
      let text ← r.text .permissionDenied []
      respond channel text heard
      return ⟨.denied, some text, some c⟩

/-- What becomes of a line under a sigil. -/
def judge (r : Rules) (line channel caller : String) (badges : List String) (heard : Option Heard) (sigil : Value) :
    Routing Result := do
  match ← Attempt.ofExcept ((Line.read sigil line).mapError .shape) with
  | none => return { outcome := .ignored }
  | some l =>
    let found ← Attempt.sure (resolve l.trigger channel).outcome
    settle r l channel caller badges heard found

theorem route_eq (r : Rules) (line channel caller : String) (badges : List String) (heard : Option Heard) :
    route r line channel caller badges heard = loadSigil channel >>= judge r line channel caller badges heard := rfl

/-! ## What the stages ask -/

/-- A question that is asked to find out what a line calls: the sigil of its channel, and the command
under the trigger that was typed. -/
def Query.IsReading (channel : String) (typed : Option Line) : Query → Prop
  | .sigil c => c = channel
  | .keepSigil c _ => c = channel
  | .store q => q = .sigilOf channel ∨ ∃ l, typed = some l ∧ q = .command l.trigger channel
  | _ => False

/-- An effect: neither such a question nor a message. -/
def Query.IsEffect (channel : String) (typed : Option Line) (q : Query) : Prop :=
  ¬ q.IsReading channel typed ∧ ∀ m, q ≠ .enqueue m

theorem runs_askStore {q : StoreQuery} {b : Except Fault q.Result} :
    Runs (askStore q).outcome turns b ↔ turns = [⟨.store q, b⟩] := runs_query

/-- The sigil of a channel is found by reading. -/
theorem runs_loadSigil {b : Except Fault Value} (h : Runs (loadSigil channel).outcome turns b) (typed : Option Line) :
    ∀ t ∈ turns, t.query.IsReading channel typed := by
  rw [loadSigil, Attempt.runs_sure_bind] at h
  obtain ⟨first, rest, known, rfl, hknown, hrest⟩ := h
  rw [runs_query.mp hknown]
  cases hf : known.filter (·.holds) with
  | some s =>
    simp only [hf, Attempt.runs_pure] at hrest
    obtain ⟨rfl, -⟩ := hrest
    simp [Query.IsReading]
  | none =>
    simp only [hf, Attempt.runs_sure_bind, runs_askStore] at hrest
    obtain ⟨_, last, s, rfl, rfl, hlast⟩ := hrest
    rcases s with f | s
    · cases f <;> simp_all [Query.IsReading]
    · rw [Attempt.runs_sure_bind] at hlast
      obtain ⟨kept, _, _, rfl, hkept, hend⟩ := hlast
      obtain ⟨rfl, -⟩ := Attempt.runs_pure.mp hend
      rw [runs_query.mp hkept]
      simp [Query.IsReading]

/-- A trigger calls the built-in command of its name, or else what the store has under it. -/
theorem runs_resolve {b : Except Fault (Option Command)} :
    Runs (resolve trigger channel).outcome turns b ↔
      (∃ c, Command.builtin? trigger = some c ∧ turns = [] ∧ b = .ok (some c)) ∨
        (Command.builtin? trigger = none ∧ turns = [⟨.store (.command trigger channel), b⟩]) := by
  rw [resolve]
  cases hb : Command.builtin? trigger with
  | some c => simp
  | none =>
    simp only [reduceCtorEq, false_and, exists_false, true_and, false_or]
    exact runs_askStore

theorem runs_respond {text : Value} {b : Except Fault Unit} :
    Runs (respond channel text heard).outcome turns b ↔
      turns = [⟨.enqueue (answerIn channel text heard), ()⟩] ∧ b = .ok () := by
  have hrespond : respond channel text heard = enqueue (answerIn channel text heard) := by
    cases heard <;> rfl
  rw [hrespond, enqueue, Attempt.runs_sure]
  constructor
  · intro h
    obtain ⟨a, ha, rfl⟩ := h
    exact ⟨runs_query.mp ha, rfl⟩
  · intro h
    obtain ⟨rfl, rfl⟩ := h
    exact ⟨(), runs_query.mpr rfl, rfl⟩

/-- A message of the catalogue goes out once, unless its template cannot be filled. -/
theorem runs_tell {m : Message} {args : List (String × TemplateArg)} {finish : Value → Result}
    {b : Except Fault Result} :
    Runs (do
      let text ← r.text m args
      respond channel text heard
      return finish text : Routing Result).outcome turns b ↔
      match r.messages.text m args with
      | .ok text => turns = [⟨.enqueue (answerIn channel (.str text) heard), ()⟩] ∧ b = .ok (finish (.str text))
      | .error f => turns = [] ∧ b = .error f := by
  rw [Attempt.runs_bind, Rules.text]
  simp only [Attempt.runs_ofExcept]
  cases r.messages.text m args with
  | error f =>
    constructor
    · intro h
      rcases h with ⟨_, _, _, -, ⟨-, hok⟩, -⟩ | ⟨f', ⟨rfl, herror⟩, rfl⟩
      · cases hok
      · cases herror
        exact ⟨rfl, rfl⟩
    · intro h
      obtain ⟨rfl, rfl⟩ := h
      exact .inr ⟨f, ⟨rfl, rfl⟩, rfl⟩
  | ok text =>
    constructor
    · intro h
      rcases h with ⟨_, rest, value, rfl, ⟨rfl, hvalue⟩, hrest⟩ | ⟨_, ⟨-, herror⟩, -⟩
      · cases hvalue
        obtain (⟨_, last, _, rfl, hsent, hlast⟩ | ⟨_, hfailed, -⟩) := Attempt.runs_bind.mp hrest
        · obtain ⟨rfl, -⟩ := runs_respond.mp hsent
          obtain ⟨rfl, rfl⟩ := Attempt.runs_pure.mp hlast
          exact ⟨rfl, rfl⟩
        · cases (runs_respond.mp hfailed).2
      · cases herror
    · intro h
      obtain ⟨rfl, rfl⟩ := h
      refine .inl ⟨[], _, .str text, rfl, ⟨rfl, rfl⟩, Attempt.runs_bind.mpr (.inl ?_)⟩
      exact ⟨_, [], (), rfl, runs_respond.mpr ⟨rfl, rfl⟩, Attempt.runs_pure.mpr ⟨rfl, rfl⟩⟩

/-! ## What was called -/

/-- The first answer of the store to the question for a trigger. -/
def answerTo? (trigger channel : String) : List (Turn surroundings) → Option (Except Fault (Option Command))
  | [] => none
  | ⟨.store (.command t c), answer⟩ :: rest =>
    if t = trigger ∧ c = channel then some answer else answerTo? trigger channel rest
  | _ :: rest => answerTo? trigger channel rest

/-- The command that a trigger calls, as far as was asked: the built-in one of that name, whatever
the store holds under it, or else the stored one. -/
def called? (trigger channel : String) (turns : List (Turn surroundings)) : Option Command :=
  match Command.builtin? trigger with
  | some c => some c
  | none => match answerTo? trigger channel turns with
    | some (.ok c) => c
    | _ => none

/-- The call that a line is in a world: under the sigil that the channel has there. -/
def typed? (w : World surroundings) (line channel : String) : Option Line :=
  match (hold w [] (loadSigil channel).outcome).2 with
  | .ok sigil => match Line.read sigil line with
    | .ok l => l
    | .error _ => none
  | .error _ => none

/-- Questions for the sigil are not for a trigger. -/
theorem answerTo?_append {first : List (Turn surroundings)} (h : ∀ t ∈ first, t.query.IsReading channel none)
    (rest : List (Turn surroundings)) : answerTo? trigger channel (first ++ rest) = answerTo? trigger channel rest := by
  induction first with
  | nil => rfl
  | cons t ts ih =>
    rw [List.forall_mem_cons] at h
    have htail := ih h.2
    obtain ⟨q, answer⟩ := t
    have hread := h.1
    rw [List.cons_append]
    cases q with
    | store q =>
      rcases hread with rfl | ⟨l, hnone, -⟩
      · exact htail
      · cases hnone
    | _ => exact htail

/-- After the sigil, the command that was found is the one that was called. -/
theorem called?_eq {first second rest : List (Turn surroundings)} {found : Except Fault (Option Command)}
    (hfirst : ∀ t ∈ first, t.query.IsReading channel none)
    (hsecond : Runs (resolve trigger channel).outcome second found) :
    called? trigger channel (first ++ (second ++ rest)) = found.toOption.join := by
  rcases runs_resolve.mp hsecond with ⟨c, hbuiltin, rfl, rfl⟩ | ⟨hnone, rfl⟩
  · simp only [called?, hbuiltin]
    rfl
  · have hanswer : answerTo? trigger channel (first ++ ([⟨.store (.command trigger channel), found⟩] ++ rest)) =
        some found := by
      rw [answerTo?_append hfirst]
      simp [answerTo?]
    simp only [called?, hnone, hanswer]
    cases found <;> rfl

/-! ## What follows the question for the command -/

/-- A call that is refused is answered by one message. -/
theorem settle_denied {l : Line} {c : Command} {b : Except Fault Result}
    (hdenied : r.gate.allows c.permission badges caller = false) :
    Runs (settle r l channel caller badges heard (.ok (some c))).outcome turns b ↔
      match r.messages.text .permissionDenied [] with
      | .ok text =>
        turns = [⟨.enqueue (answerIn channel (.str text) heard), ()⟩] ∧ b = .ok ⟨.denied, some (.str text), some c⟩
      | .error f => turns = [] ∧ b = .error f := by
  simp only [settle, hdenied, Bool.false_eq_true, if_false]
  exact runs_tell

/-- Only a call that the gate lets through has effects. -/
theorem settle_allowed {l : Line} {found : Except Fault (Option Command)} {b : Except Fault Result}
    (h : Runs (settle r l channel caller badges heard found).outcome turns b) {t : Turn surroundings} (ht : t ∈ turns)
    (heffect : ∀ m, t.query ≠ .enqueue m) :
    ∃ c, found = .ok (some c) ∧ r.gate.allows c.permission badges caller = true := by
  rcases found with f | (_ | c)
  · cases f with
    | store f =>
      have htell := runs_tell.mp h
      split at htell
      · rw [htell.1, List.mem_singleton] at ht
        exact absurd (congrArg Turn.query ht) (heffect _)
      · rw [htell.1] at ht
        cases ht
    | _ =>
      obtain ⟨rfl, -⟩ := Attempt.runs_fail.mp h
      cases ht
  · obtain ⟨rfl, -⟩ := Attempt.runs_pure.mp h
    cases ht
  · refine ⟨c, rfl, ?_⟩
    cases hgate : r.gate.allows c.permission badges caller with
    | true => rfl
    | false =>
      have hdenied := (settle_denied hgate).mp h
      split at hdenied
      · rw [hdenied.1, List.mem_singleton] at ht
        exact absurd (congrArg Turn.query ht) (heffect _)
      · rw [hdenied.1] at ht
        cases ht

/-! ## The whole line -/

/-- A line that calls nothing asks no more than the sigil; what else is asked comes from the call. -/
theorem runs_judge {sigil : Value} {b : Except Fault Result}
    (h : Runs (judge r line channel caller badges heard sigil).outcome turns b) :
    (turns = [] ∧ ∀ l, Line.read sigil line ≠ .ok (some l)) ∨
      ∃ l second found rest, Line.read sigil line = .ok (some l) ∧ turns = second ++ rest ∧
        Runs (resolve l.trigger channel).outcome second found ∧
        Runs (settle r l channel caller badges heard found).outcome rest b := by
  rw [judge, Attempt.runs_bind] at h
  simp only [Attempt.runs_ofExcept] at h
  rcases h with ⟨_, rest, l?, rfl, ⟨rfl, hread⟩, hrest⟩ | ⟨f, ⟨rfl, hread⟩, rfl⟩
  · cases hline : Line.read sigil line with
    | error f =>
      rw [hline] at hread
      cases hread
    | ok l? =>
      rw [hline] at hread
      cases hread
      cases l? with
      | none =>
        obtain ⟨rfl, -⟩ := Attempt.runs_pure.mp hrest
        refine .inl ⟨rfl, fun l hline => ?_⟩
        cases hline
      | some l =>
        obtain ⟨second, rest, found, rfl, hsecond, hrest⟩ := Attempt.runs_sure_bind.mp hrest
        exact .inr ⟨l, second, found, rest, rfl, rfl, hsecond, hrest⟩
  · refine .inl ⟨rfl, fun l hline => ?_⟩
    rw [hline] at hread
    cases hread

/-- How a line is routed in a world: the sigil is read, then the command is looked for, and then comes
what the call does. -/
theorem route_cases (w : World surroundings) (r : Rules) (line channel caller : String) (badges : List String)
    (heard : Option Heard) :
    let run := hold w [] (route r line channel caller badges heard).outcome
    ∃ first, (∀ typed, ∀ t ∈ first, t.query.IsReading channel typed) ∧
      ((typed? w line channel = none ∧ run.1 = first) ∨
        ∃ l second found rest, typed? w line channel = some l ∧ run.1 = first ++ (second ++ rest) ∧
          Runs (resolve l.trigger channel).outcome second found ∧
          Runs (settle r l channel caller badges heard found).outcome rest run.2) := by
  intro run
  obtain ⟨first, s, hfirst⟩ : ∃ first s, hold w [] (loadSigil channel).outcome = (first, s) := ⟨_, _, rfl⟩
  have hreads : Runs (loadSigil channel).outcome first s := by
    have hruns := runs_hold w [] (loadSigil channel).outcome
    rwa [hfirst] at hruns
  refine ⟨first, fun typed => runs_loadSigil hreads typed, ?_⟩
  cases s with
  | error e =>
    have hrun : run = (first, .error e) := by
      rw [← Attempt.hold_bind_error hfirst, ← route_eq]
    refine .inl ⟨?_, congrArg Prod.fst hrun⟩
    simp only [typed?, hfirst]
  | ok sigil =>
    have hrun := Attempt.hold_bind_ok hfirst (judge r line channel caller badges heard)
    rw [← route_eq] at hrun
    have hjudge := runs_hold w ([] ++ first) (judge r line channel caller badges heard sigil).outcome
    rw [← congrArg Prod.snd hrun] at hjudge
    have hturns := congrArg Prod.fst hrun
    rcases runs_judge hjudge with ⟨hnone, hline⟩ | ⟨l, second, found, rest, hline, hlast, hsecond, hrest⟩
    · rw [hnone, List.append_nil] at hturns
      refine .inl ⟨?_, hturns⟩
      simp only [typed?, hfirst]
      cases hread : Line.read sigil line with
      | error f => rfl
      | ok l? => cases l? with
        | none => rfl
        | some l => exact absurd hread (hline l)
    · rw [hlast] at hturns
      refine .inr ⟨l, second, found, rest, ?_, hturns, hsecond, hrest⟩
      simp only [typed?, hfirst, hline]

theorem mem_or_after {α : Type} {xs ys before after : List α} {a : α} (h : xs ++ ys = before ++ a :: after) :
    a ∈ xs ∨ ∃ between, before = xs ++ between ∧ ys = between ++ a :: after := by
  rcases List.append_eq_append_iff.mp h with ⟨between, hbefore, hys⟩ | ⟨between, hxs, hafter⟩
  · exact .inr ⟨between, hbefore, hys⟩
  · cases between with
    | nil =>
      rw [List.append_nil] at hxs
      exact .inr ⟨[], by rw [hxs, List.append_nil], hafter.symm⟩
    | cons b between =>
      rw [List.cons_append] at hafter
      obtain ⟨rfl, -⟩ := List.cons.inj hafter
      exact .inl (hxs ▸ List.mem_append_right _ List.mem_cons_self)

/-- Looking for the command is reading. -/
theorem resolve_reads {l : Line} {found : Except Fault (Option Command)}
    (h : Runs (resolve l.trigger channel).outcome turns found) :
    ∀ t ∈ turns, t.query.IsReading channel (some l) := by
  rcases runs_resolve.mp h with ⟨c, -, rfl, -⟩ | ⟨-, rfl⟩
  · simp
  · simp [Query.IsReading]

/-- **The gate comes before every effect**, whatever the store and the registry answer. Before an
effect the typed trigger has called a command that the gate allows to this caller. A call that is
refused has one effect, the message that says so (or none, if its template cannot be filled). -/
theorem effects_are_allowed (w : World surroundings) (r : Rules) (line channel caller : String)
    (badges : List String) (heard : Option Heard) :
    let run := hold w [] (route r line channel caller badges heard).outcome
    let typed := typed? w line channel
    (∀ before t after, run.1 = before ++ t :: after → t.query.IsEffect channel typed →
      ∃ l c, typed = some l ∧ called? l.trigger channel before = some c ∧
        r.gate.allows c.permission badges caller = true) ∧
    ∀ l c, typed = some l → called? l.trigger channel run.1 = some c →
      r.gate.allows c.permission badges caller = false →
      ∃ readings, (∀ t ∈ readings, t.query.IsReading channel typed) ∧
        match r.messages.text .permissionDenied [] with
        | .ok text => run = (readings ++ [⟨.enqueue (answerIn channel (.str text) heard), ()⟩],
          .ok ⟨.denied, some (.str text), some c⟩)
        | .error f => run = (readings, .error f) := by
  intro run typed
  obtain ⟨first, hfirst, ⟨htyped, hrun⟩ | ⟨l, second, found, rest, htyped, hrun, hsecond, hrest⟩⟩ :=
    route_cases w r line channel caller badges heard
  · refine ⟨fun before t after hsplit heffect => ?_, fun l c hl => ?_⟩
    · have hmem : t ∈ first := by
        rw [← hrun]
        exact hsplit ▸ List.mem_append_right _ List.mem_cons_self
      exact absurd (hfirst typed t hmem) heffect.1
    · rw [show typed = none from htyped] at hl
      cases hl
  · have hreads : ∀ t ∈ first ++ second, t.query.IsReading channel typed := by
      intro t ht
      rw [show typed = some l from htyped]
      rcases List.mem_append.mp ht with ht | ht
      · exact hfirst _ t ht
      · exact resolve_reads hsecond t ht
    refine ⟨fun before t after hsplit heffect => ?_, fun l' c hl hcalled hdenied => ?_⟩
    · have hparts : (first ++ second) ++ rest = before ++ t :: after := by
        rw [← hsplit, List.append_assoc]
        exact hrun.symm
      rcases mem_or_after hparts with hmem | ⟨between, rfl, hafter⟩
      · exact absurd (hreads t hmem) heffect.1
      · have hmem : t ∈ rest := by
          rw [hafter]
          exact List.mem_append_right _ List.mem_cons_self
        obtain ⟨c, rfl, hallowed⟩ := settle_allowed hrest hmem heffect.2
        refine ⟨l, c, htyped, ?_, hallowed⟩
        rw [List.append_assoc]
        exact called?_eq (hfirst none) hsecond
    · have hl' : l = l' := Option.some.inj (htyped.symm.trans hl)
      subst hl'
      rw [show run.1 = _ from hrun, called?_eq (hfirst none) hsecond] at hcalled
      have hfound : found = .ok (some c) := by
        rcases found with f | c'
        · cases hcalled
        · exact congrArg Except.ok hcalled
      rw [hfound] at hrest
      have hanswer := (settle_denied hdenied).mp hrest
      refine ⟨first ++ second, hreads, ?_⟩
      split at hanswer
      · refine Prod.ext ?_ hanswer.2
        rw [show run.1 = _ from hrun, hanswer.1, List.append_assoc]
      · refine Prod.ext ?_ hanswer.2
        rw [show run.1 = _ from hrun, hanswer.1, List.append_nil]

/-- A world in which every store is down and every action silent. -/
def quiet : World surroundings
  | _, .store q => (.error .timeout : storeAnswer q)
  | _, .act .. => .ok .null
  | _, .join _ | _, .part _ => .ok ()
  | _, .sigil _ => some (.str "!")
  | _, .enqueue _ | _, .keepSigil .. | _, .dropSigil _ => ()

/-- A viewer cannot make the bot join a channel. -/
theorem join_is_refused :
    let r : Rules := ⟨.ofConfigured (some "owner"), .defaults⟩
    ∃ readings, (∀ t ∈ readings, t.query.IsReading "chan" (some ⟨"join", ["x"], "x"⟩)) ∧
      hold quiet [] (route r "!join x" "chan" "viewer" ["moderator"] none).outcome =
        (readings ++ [⟨.enqueue (.say "chan" (.str "you do not have the permissions to use this command!")), ()⟩],
          .ok ⟨.denied, some (.str "you do not have the permissions to use this command!"),
            some ⟨.str "join", "", .superUser, .str "", .join⟩⟩) := by
  intro r
  have htyped : typed? quiet "!join x" "chan" = some ⟨"join", ["x"], "x"⟩ := by decide
  have hcalled : ∀ turns, called? "join" "chan" turns = some ⟨.str "join", "", .superUser, .str "", .join⟩ := by
    intro turns
    have hbuiltin : Command.builtin? "join" = some ⟨.str "join", "", .superUser, .str "", .join⟩ := by decide
    simp only [called?, hbuiltin]
  have hdenied : r.gate.allows .superUser ["moderator"] "viewer" = false := by decide
  have htext : r.messages.text .permissionDenied [] = .ok "you do not have the permissions to use this command!" := rfl
  have hrefused := (effects_are_allowed quiet r "!join x" "chan" "viewer" ["moderator"] none).2 _ _ htyped
    (hcalled _) hdenied
  rw [htyped, htext] at hrefused
  exact hrefused

end ChannelBot.Router
