/-
What hits and guards ask, and in which order. As long as the store answers with success, a deed
goes one course (`Deed.Course`), which is fixed but for what the store answers; a part of a deed is
a part of that course (`Deed.course`).
-/
import ChannelBot.Action.Builtin
import ChannelBot.Proofs.Dialogue.Interleaving

namespace ChannelBot.Action

open Dialogue

variable {channel : String} {turns : List (Turn surroundings)}

/-! ## Success at the store -/

/-- A question to the store was answered with success. -/
def Granted : Turn surroundings → Prop
  | ⟨.store _, answer⟩ => ∃ v, answer = .ok v
  | _ => True

theorem exists_granted (q : Query) : ∃ answer : Answer q, Granted ⟨q, answer⟩ := by
  cases q with
  | store q => cases q <;> first
    | exact ⟨.ok Value.null, Value.null, rfl⟩
    | exact ⟨.ok (none : Option Command), none, rfl⟩
    | exact ⟨.ok false, false, rfl⟩
  | web r => exact ⟨.timedOut, trivial⟩
  | commercial channel seconds => exact ⟨.ok (), trivial⟩
  | enqueue m => exact ⟨(), trivial⟩
  | pause duration => exact ⟨(), trivial⟩

/-- What has begun can end, with success at the store. -/
theorem exists_runs {α : Type} (x : Dialogue surroundings α) :
    ∃ turns a, Runs x turns a ∧ ∀ t ∈ turns, Granted t := by
  induction x with
  | done a => exact ⟨[], a, .done a, fun _ h => absurd h List.not_mem_nil⟩
  | ask q next ih =>
    obtain ⟨answer, hanswer⟩ := exists_granted q
    obtain ⟨turns, a, hruns, hgranted⟩ := ih answer
    exact ⟨_, a, .ask answer hruns, List.forall_mem_cons.mpr ⟨hanswer, hgranted⟩⟩

section Runs

variable {α : Type} {b : Except Fault α}

/-- The store answers, or the action ends with its fault. -/
theorem runs_askStore {q : StoreQuery} {f : q.Result → Attempt surroundings α} :
    Runs (askStore q >>= f).outcome turns b ↔
      (∃ v rest, turns = ⟨.store q, .ok v⟩ :: rest ∧ Runs (f v).outcome rest b) ∨
        ∃ e, turns = [⟨.store q, .error e⟩] ∧ b = .error e := by
  rw [Attempt.runs_bind]
  constructor
  · rintro (⟨first, rest, v, rfl, hask, hrest⟩ | ⟨e, hask, rfl⟩)
    · obtain rfl := runs_query.mp hask
      exact .inl ⟨v, rest, rfl, hrest⟩
    · exact .inr ⟨e, runs_query.mp hask, rfl⟩
  · rintro (⟨v, rest, rfl, hrest⟩ | ⟨e, rfl, rfl⟩)
    · exact .inl ⟨_, rest, v, rfl, runs_query.mpr rfl, hrest⟩
    · exact .inr ⟨e, runs_query.mpr rfl, rfl⟩

theorem runs_store {q : StoreQuery} {f : q.Result → Attempt surroundings α}
    (h : Runs (askStore q >>= f).outcome turns b) (hgranted : ∀ t ∈ turns, Granted t) :
    ∃ v rest, turns = ⟨.store q, .ok v⟩ :: rest ∧ Runs (f v).outcome rest b ∧ ∀ t ∈ rest, Granted t := by
  rcases runs_askStore.mp h with ⟨v, rest, rfl, hrest⟩ | ⟨e, rfl, rfl⟩
  · exact ⟨v, rest, rfl, hrest, (List.forall_mem_cons.mp hgranted).2⟩
  · obtain ⟨v, hv⟩ := (List.forall_mem_cons.mp hgranted).1
    cases hv

theorem runs_asked {q : Query} {f : Answer q → Attempt surroundings α}
    (h : Runs (Attempt.sure (query (I := surroundings) q) >>= f).outcome turns b) (hgranted : ∀ t ∈ turns, Granted t) :
    ∃ answer rest, turns = ⟨q, answer⟩ :: rest ∧ Runs (f answer).outcome rest b ∧ ∀ t ∈ rest, Granted t := by
  obtain ⟨answer, rest, rfl, hrest⟩ := Attempt.runs_query_bind.mp h
  exact ⟨answer, rest, rfl, hrest, (List.forall_mem_cons.mp hgranted).2⟩

end Runs

/-! ## Hits and guards -/

/-- All turns of a hit: the hit is opened, the guard looked for and used up, and then the user is
silenced if there was none. -/
def hitTurns (channel user : String) (opened : Value) (guarded : Bool) (closed : Value) : List (Turn surroundings) :=
  [⟨.store (.addTarget channel user), .ok opened⟩,
   ⟨.enqueue (sayText channel ("Timing out " ++ user ++ " in " ++ toString hitDelay ++ " seconds...")), ()⟩,
   ⟨.pause (hitDelay * Moment.second), ()⟩,
   ⟨.store (.isProtected channel user), .ok guarded⟩,
   ⟨.store (.setProtection channel user false (.bool true)), .ok closed⟩] ++
  if guarded then [] else [⟨.enqueue (.raw channel (.str (timeoutOrder user hitSeconds))), ()⟩]

/-- What a hit answers. -/
def hitAnswer (user : String) (guarded : Bool) : Value :=
  if guarded then .null else .str (user ++ " timed out for " ++ toString (hitSeconds / 60) ++ " minutes!")

/-- All turns of a guard. -/
def guardTurns (channel user : String) (set : Value) : List (Turn surroundings) :=
  [⟨.store (.setProtection channel user true .null), .ok set⟩,
   ⟨.enqueue (sayText channel (user ++ " has been guarded!")), ()⟩]

/-- A hit with success at the store takes all its turns. -/
theorem runs_hitman {user : String} {rest : List Value} {x : Except Fault Value}
    (h : Runs (hitman (.str user :: rest) channel).outcome turns x) (hgranted : ∀ t ∈ turns, Granted t) :
    ∃ opened guarded closed, turns = hitTurns channel user opened guarded closed ∧ x = .ok (hitAnswer user guarded) := by
  obtain ⟨opened, turns₁, rfl, h, hgranted⟩ := @runs_store _ _ _ (.addTarget channel user) _ h hgranted
  obtain ⟨⟨⟩, turns₂, rfl, h, hgranted⟩ := @runs_asked _ _ _ (.enqueue _) _ h hgranted
  obtain ⟨⟨⟩, turns₃, rfl, h, hgranted⟩ := @runs_asked _ _ _ (.pause _) _ h hgranted
  obtain ⟨guarded, turns₄, rfl, h, hgranted⟩ := @runs_store _ _ _ (.isProtected channel user) _ h hgranted
  obtain ⟨closed, turns₅, rfl, h, hlast⟩ := runs_store h hgranted
  refine ⟨opened, guarded, closed, ?_⟩
  obtain rfl | rfl := Bool.eq_false_or_eq_true guarded
  · obtain ⟨rfl, rfl⟩ := Attempt.runs_pure.mp h
    exact ⟨rfl, rfl⟩
  · obtain ⟨⟨⟩, turns₆, rfl, h, -⟩ := @runs_asked _ _ _ (.enqueue _) _ h hlast
    obtain ⟨rfl, rfl⟩ := Attempt.runs_pure.mp h
    exact ⟨rfl, rfl⟩

/-- So does a guard. -/
theorem runs_bodyguard {user : String} {rest : List Value} {x : Except Fault Value}
    (h : Runs (bodyguard (.str user :: rest) channel).outcome turns x) (hgranted : ∀ t ∈ turns, Granted t) :
    ∃ set, turns = guardTurns channel user set ∧ x = .ok .null := by
  obtain ⟨set, turns₁, rfl, h, hgranted⟩ := @runs_store _ _ _ (.setProtection channel user true .null) _ h hgranted
  obtain ⟨⟨⟩, turns₂, rfl, h, -⟩ := @runs_asked _ _ _ (.enqueue _) _ h hgranted
  obtain ⟨rfl, rfl⟩ := Attempt.runs_pure.mp h
  exact ⟨set, rfl, rfl⟩

/-! ## Deeds -/

/-- A hit on a user or a guard over one, each with what else was typed. -/
inductive Deed where
  | hit (user : String) (rest : List Value)
  | guard (user : String) (rest : List Value)

namespace Deed

/-- The user whom a deed is about. -/
def user : Deed → String
  | .hit user _ | .guard user _ => user

/-- The action that does a deed. -/
def program (channel : String) : Deed → Dialogue surroundings (Except Fault Value)
  | .hit user rest => (hitman (.str user :: rest) channel).outcome
  | .guard user rest => (bodyguard (.str user :: rest) channel).outcome

/-- The course of a deed, and what is answered in the end. -/
inductive Course (channel : String) : Deed → List (Turn surroundings) → Value → Prop
  | hit (user : String) (rest : List Value) (opened : Value) (guarded : Bool) (closed : Value) :
    Course channel (.hit user rest) (hitTurns channel user opened guarded closed) (hitAnswer user guarded)
  | guard (user : String) (rest : List Value) (set : Value) :
    Course channel (.guard user rest) (guardTurns channel user set) .null

variable {d : Deed} {y : Dialogue surroundings (Except Fault Value)}

theorem course_of_runs {b : Except Fault Value} (h : Runs (d.program channel) turns b)
    (hgranted : ∀ t ∈ turns, Granted t) : ∃ v, b = .ok v ∧ d.Course channel turns v := by
  cases d with
  | hit user rest =>
    obtain ⟨opened, guarded, closed, rfl, rfl⟩ := runs_hitman h hgranted
    exact ⟨_, rfl, .hit user rest opened guarded closed⟩
  | guard user rest =>
    obtain ⟨set, rfl, rfl⟩ := runs_bodyguard h hgranted
    exact ⟨_, rfl, .guard user rest set⟩

/-- A deed that has begun with success at the store is on its course: there is a rest of it that
makes a whole. -/
theorem course (h : Leads (d.program channel) turns y) (hgranted : ∀ t ∈ turns, Granted t) :
    ∃ rest v, Runs y rest (.ok v) ∧ d.Course channel (turns ++ rest) v := by
  obtain ⟨rest, b, hrest, hgranted'⟩ := exists_runs y
  obtain ⟨v, rfl, hcourse⟩ := course_of_runs (h.runs hrest) fun t ht =>
    (List.mem_append.mp ht).elim (hgranted t) (hgranted' t)
  exact ⟨rest, v, hrest, hcourse⟩

end Deed

/-- What deeds ask: the four questions about targets, and what is not for the store. -/
inductive Deed.Asks (channel user : String) : Query → Prop
  | opens : Asks channel user (.store (.addTarget channel user))
  | looks : Asks channel user (.store (.isProtected channel user))
  | guards : Asks channel user (.store (.setProtection channel user true .null))
  | resets : Asks channel user (.store (.setProtection channel user false (.bool true)))
  | tells (m : Outgoing) : Asks channel user (.enqueue m)
  | waits (duration : Nat) : Asks channel user (.pause duration)

theorem Deed.Course.asks {d : Deed} {v : Value} (h : d.Course channel turns v) :
    ∀ t ∈ turns, Deed.Asks channel d.user t.query := by
  cases h with
  | hit user rest opened guarded closed =>
    intro t ht
    rcases List.mem_append.mp ht with ht | ht
    · simp only [List.mem_cons, List.not_mem_nil, or_false] at ht
      rcases ht with rfl | rfl | rfl | rfl | rfl
      · exact .opens
      · exact .tells _
      · exact .waits _
      · exact .looks
      · exact .resets
    · split at ht
      · exact absurd ht List.not_mem_nil
      · rw [List.mem_singleton] at ht
        subst ht
        exact .tells _
  | guard user rest set =>
    intro t ht
    simp only [guardTurns, List.mem_cons, List.not_mem_nil, or_false] at ht
    rcases ht with rfl | rfl
    · exact .guards
    · exact .tells _

end ChannelBot.Action
