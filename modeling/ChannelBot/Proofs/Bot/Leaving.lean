/-
What becomes of the channels when a bot stops. It leaves them one after the other, and a subscription that cannot
be deleted ends that: the channels after it are not left (`plays_leaveAll_done`). So all channels are left just if
no deletion fails but that of the last one (`stopping_leaves_all_iff`).
-/
import ChannelBot.Bot.Lifecycle
import ChannelBot.Proofs.Bot.Channels
import ChannelBot.Proofs.Store.Faults

namespace ChannelBot.Bot

open Dialogue

/-! ## Subscriptions to delete -/

/-- The subscription of a channel, if it is known under an id. -/
def Memory.subscription? (m : Memory) (login : String) : Option String :=
  (m.subscriptions.lookup login).filter (· ≠ "")

/-- The channel has a subscription whose deletion fails. -/
def Memory.IsStuck (m : Memory) (fails : String → Prop) (login : String) : Prop :=
  (m.subscription? login).isSome ∧ fails login

/-- The subscriptions whose deletion was asked for. -/
def deletions (turns : List (Turn surroundings)) : List String :=
  turns.filterMap fun t => match t.query with
    | .unsubscribe id => some id
    | _ => none

/-- The channel was forgotten, and then the deletion of its subscription was answered like this. -/
def Deletes (login : String) (answer : Except String Unit) (turns : List (Turn surroundings)) : Prop :=
  ∃ before m id after,
    turns = before ++ ⟨.memory (Memory.leave login), m⟩ :: ⟨.unsubscribe id, answer⟩ :: after

/-- The deletions that fail are those of these channels. -/
def FailsFor (fails : String → Prop) (turns : List (Turn surroundings)) : Prop :=
  ∀ login answer, Deletes login answer turns → ((∃ words, answer = .error words) ↔ fails login)

/-- All channels are left, and the deletion of each subscription was asked for once. -/
def LeavesAll (m : Memory) (turns : List (Turn surroundings)) (m' : Memory) : Prop :=
  m'.channelIds = [] ∧ m'.subscriptions = [] ∧ deletions turns = (keys m.channelIds).filterMap m.subscription?

section Leave

variable {m m' : Memory} {login : String} {logins : List String} {turns : List (Turn surroundings)}
  {r : Except Fault Unit} {fails : String → Prop}

theorem deletions_append (first rest : List (Turn surroundings)) :
    deletions (first ++ rest) = deletions first ++ deletions rest := List.filterMap_append

theorem FailsFor.right {rest : List (Turn surroundings)} (first : List (Turn surroundings))
    (h : FailsFor fails (first ++ rest)) : FailsFor fails rest := by
  rintro login answer ⟨before, m, id, after, rfl⟩
  exact h login answer ⟨first ++ before, m, id, after, by rw [List.append_assoc]⟩

theorem FailsFor.left {first rest : List (Turn surroundings)} (h : FailsFor fails (first ++ rest)) :
    FailsFor fails first := by
  rintro login answer ⟨before, m, id, after, rfl⟩
  exact h login answer ⟨before, m, id, after ++ rest, by simp⟩

theorem Memory.subscription?_leave {k : String} (h : k ≠ login) :
    (m.leave login).subscription? k = m.subscription? k := by
  rw [subscription?, subscription?, Memory.leave, lookup_forget_ne h]

/-- A channel is forgotten first; then its subscription is deleted, if it has one. -/
theorem plays_leave_done (h : Plays sharing m (leave login).outcome turns m' (.done r)) :
    m' = m.leave login ∧
      (m.subscription? login = none ∧ turns = [⟨.memory (Memory.leave login), m⟩] ∧ r = .ok () ∨
        ∃ id answer, m.subscription? login = some id ∧
          turns = [⟨.memory (Memory.leave login), m⟩, ⟨.unsubscribe id, answer⟩] ∧
          r = answer.mapError fun words => .transport (.refused words)) := by
  obtain ⟨m₁, before, rest, rfl, ⟨rfl, rfl⟩, hrest⟩ := plays_asked (.memory (Memory.leave login)) h
  rw [Memory.subscription?]
  cases hlookup : before.subscriptions.lookup login with
  | none =>
    rw [hlookup] at hrest
    obtain ⟨rfl, rfl, rfl⟩ := Attempt.plays_pure_done.mp hrest
    exact ⟨rfl, .inl ⟨rfl, rfl, rfl⟩⟩
  | some id =>
    rw [hlookup] at hrest
    dsimp only at hrest
    split at hrest
    · rename_i hempty
      obtain ⟨rfl, rfl, rfl⟩ := Attempt.plays_pure_done.mp hrest
      exact ⟨rfl, .inl ⟨by simpa using hempty, rfl, rfl⟩⟩
    · rename_i hid
      rw [platform] at hrest
      obtain ⟨m₂, answer, rest, rfl, rfl, hdone⟩ := plays_asked (.unsubscribe id) hrest
      have hsome : Option.filter (· ≠ "") (some id) = some id := by simpa using hid
      cases answer with
      | ok done =>
        obtain ⟨rfl, rfl, rfl⟩ := Attempt.plays_pure_done.mp hdone
        exact ⟨rfl, .inr ⟨id, .ok (), hsome, rfl, rfl⟩⟩
      | error words =>
        obtain ⟨rfl, rfl, rfl⟩ := Attempt.plays_fail_done.mp hdone
        exact ⟨rfl, .inr ⟨id, .error words, hsome, rfl, rfl⟩⟩

/-- Leaving a channel fails just if it is stuck. -/
theorem plays_leave_settles (h : Plays sharing m (leave login).outcome turns m' (.done r))
    (hfails : FailsFor fails turns) : m' = m.leave login ∧ deletions turns = (m.subscription? login).toList ∧
      (r = .ok () ∧ ¬ m.IsStuck fails login ∨
        ∃ words, r = .error (.transport (.refused words)) ∧ m.IsStuck fails login) := by
  obtain ⟨rfl, ⟨hnone, rfl, rfl⟩ | ⟨id, answer, hsome, rfl, rfl⟩⟩ := plays_leave_done h
  · rw [Memory.IsStuck, hnone]
    exact ⟨rfl, rfl, .inl ⟨rfl, nofun⟩⟩
  · have hanswer := hfails login answer ⟨[], m, id, [], rfl⟩
    rw [Memory.IsStuck, hsome]
    cases answer with
    | ok done => exact ⟨rfl, rfl, .inl ⟨rfl, fun hstuck => nomatch hanswer.mpr hstuck.2⟩⟩
    | error words => exact ⟨rfl, rfl, .inr ⟨words, rfl, rfl, hanswer.mp ⟨words, rfl⟩⟩⟩

/-! ## One after the other -/

/-- All of these channels. -/
def Memory.leaveEach (m : Memory) (logins : List String) : Memory := logins.foldl (fun m login => m.leave login) m

theorem Memory.keys_leaveEach (m : Memory) (logins : List String) :
    keys (m.leaveEach logins).channelIds = (keys m.channelIds).filter (· ∉ logins) := by
  induction logins generalizing m with
  | nil => simp [leaveEach]
  | cons login rest ih =>
    rw [leaveEach, List.foldl_cons, ← leaveEach, ih, Memory.leave, keys_forget, List.filter_filter]
    refine List.filter_congr fun k _ => ?_
    by_cases hk : k = login <;> simp [hk]

theorem Memory.InStep.leaveEach (h : m.InStep) (logins : List String) : (m.leaveEach logins).InStep := by
  induction logins generalizing m with
  | nil => exact h
  | cons login rest ih => exact ih (h.leave login)

/-- The first deletion that fails ends it; what is left until then is left as it should be. -/
theorem plays_leaveAll_done (hnodup : logins.Nodup) (h : Plays sharing m (leaveAll logins).outcome turns m' (.done r))
    (hfails : FailsFor fails turns) : ∃ left rest, logins = left ++ rest ∧ m' = m.leaveEach left ∧
      deletions turns = left.filterMap m.subscription? ∧
      (rest = [] ∧ r = .ok () ∧ (∀ login ∈ left, ¬ m.IsStuck fails login) ∨
        ∃ before last words, left = before ++ [last] ∧ r = .error (.transport (.refused words)) ∧
          m.IsStuck fails last ∧ ∀ login ∈ before, ¬ m.IsStuck fails login) := by
  induction logins generalizing m turns with
  | nil =>
    obtain ⟨rfl, rfl, rfl⟩ := Attempt.plays_pure_done.mp h
    exact ⟨[], [], rfl, rfl, rfl, .inl ⟨rfl, rfl, nofun⟩⟩
  | cons login others ih =>
    obtain ⟨hfresh, hothers⟩ := List.nodup_cons.mp hnodup
    rcases Attempt.plays_bind_done.mp h with ⟨first, later, _, m₁, rfl, hleave, hlater⟩ | ⟨e, hleave, rfl⟩
    · obtain ⟨rfl, hdeleted, ⟨-, hfree⟩ | ⟨words, hr, -⟩⟩ := plays_leave_settles hleave hfails.left
      · obtain ⟨left, rest, rfl, rfl, hdeletions, hends⟩ := ih hothers hlater (hfails.right _)
        -- the channels after this one are not touched by leaving it
        have hsame : ∀ k ∈ left, (m.leave login).subscription? k = m.subscription? k := fun k hk =>
          Memory.subscription?_leave fun hlogin => hfresh (List.mem_append_left _ (hlogin ▸ hk))
        have hstuck : ∀ k ∈ left, (m.leave login).IsStuck fails k ↔ m.IsStuck fails k := fun k hk => by
          rw [Memory.IsStuck, Memory.IsStuck, hsame k hk]
        refine ⟨login :: left, rest, rfl, rfl, ?_, ?_⟩
        · rw [deletions_append, hdeleted, hdeletions, List.filterMap_congr hsame]
          cases hlogin : m.subscription? login <;> simp [hlogin]
        · rcases hends with ⟨rfl, rfl, hleft⟩ | ⟨before, last, words, rfl, rfl, hlast, hbefore⟩
          · refine .inl ⟨rfl, rfl, List.forall_mem_cons.mpr ⟨hfree, fun k hk => ?_⟩⟩
            rw [← hstuck k hk]
            exact hleft k hk
          · refine .inr ⟨login :: before, last, words, rfl, rfl, (hstuck last (by simp)).mp hlast,
              List.forall_mem_cons.mpr ⟨hfree, fun k hk => ?_⟩⟩
            rw [← hstuck k (List.mem_append_left _ hk)]
            exact hbefore k hk
      · cases hr
    · obtain ⟨rfl, hdeleted, ⟨hr, -⟩ | ⟨words, hr, hstuck⟩⟩ := plays_leave_settles hleave hfails
      · cases hr
      · cases hr
        refine ⟨[login], others, rfl, rfl, ?_, .inr ⟨[], login, words, rfl, rfl, hstuck, nofun⟩⟩
        rw [hdeleted]
        cases hlogin : m.subscription? login <;> simp [hlogin]

/-! ## Stopping -/

/-- All but the last channel can be left without failing. -/
def Memory.CanLeave (m : Memory) (fails : String → Prop) : Prop :=
  ∀ login ∈ (keys m.channelIds).dropLast, ¬ m.IsStuck fails login

/-- Of channels of which some were left, none is left over just if there were no others. -/
theorem leavesAll_iff {left rest : List String} (hm : m.InStep) (hkeys : keys m.channelIds = left ++ rest)
    (hdeletions : deletions turns = left.filterMap m.subscription?) :
    LeavesAll m turns (m.leaveEach left) ↔ rest = [] := by
  have hstays : keys (m.leaveEach left).channelIds = rest := by
    have hnodup := hm.once
    rw [hkeys] at hnodup
    rw [Memory.keys_leaveEach, hkeys, List.filter_append, List.filter_eq_nil_iff.mpr fun k hk => by simpa using hk,
      List.nil_append, List.filter_eq_self]
    intro k hk
    simpa using fun hleft => (List.nodup_append.mp hnodup).2.2 k hleft k hk rfl
  constructor
  · rintro ⟨hchannels, -, -⟩
    rw [← hstays, hchannels, keys, List.map_nil]
  · rintro rfl
    have hsubscriptions : keys (m.leaveEach left).subscriptions = [] := by
      refine List.eq_nil_iff_forall_not_mem.mpr fun k hk => ?_
      rw [← (hm.leaveEach left).same, hstays] at hk
      cases hk
    refine ⟨List.map_eq_nil_iff.mp hstays, List.map_eq_nil_iff.mp hsubscriptions, ?_⟩
    rw [hdeletions, hkeys, List.append_nil]

theorem plays_stopServices_done (hm : m.InStep) (h : Plays sharing m stopServices.outcome turns m' (.done r))
    (hfails : FailsFor fails turns) :
    (r = .ok () ∨ ∃ words, r = .error (.transport (.refused words))) ∧ (LeavesAll m turns m' ↔ m.CanLeave fails) := by
  obtain ⟨_, _, _, rfl, rfl, hstream⟩ := plays_asked .stopStream h
  obtain ⟨_, _, _, rfl, rfl, hrefreshing⟩ := plays_asked .stopRefreshing hstream
  obtain ⟨m, _, later, rfl, ⟨rfl, rfl⟩, hleave⟩ := plays_asked (.memory id) hrefreshing
  obtain ⟨left, rest, hkeys, rfl, hdeletions, hends⟩ :=
    plays_leaveAll_done hm.once hleave (hfails.right [_, _, _])
  refine ⟨?_, ?_⟩
  · rcases hends with ⟨-, rfl, -⟩ | ⟨_, _, words, -, rfl, -⟩
    · exact .inl rfl
    · exact .inr ⟨words, rfl⟩
  · have hleft : LeavesAll m (⟨.stopStream, ()⟩ :: ⟨.stopRefreshing, ()⟩ :: ⟨.memory id, m⟩ :: later)
        (m.leaveEach left) ↔ rest = [] := leavesAll_iff hm hkeys hdeletions
    rw [hleft, Memory.CanLeave, hkeys]
    rcases hends with ⟨rfl, -, hfree⟩ | ⟨before, last, words, rfl, -, hstuck, hfree⟩
    · refine iff_of_true rfl fun login hlogin => ?_
      rw [List.append_nil] at hlogin
      exact hfree login (List.dropLast_subset _ hlogin)
    · constructor
      · rintro rfl login hlogin
        rw [List.append_nil, List.dropLast_concat] at hlogin
        exact hfree login hlogin
      · intro hall
        by_contra hrest
        refine hall last ?_ hstuck
        rw [List.dropLast_append_of_ne_nil hrest]
        simp

section Congr

variable {m₁ : Memory} (hchannels : m₁.channelIds = m.channelIds) (hsubscriptions : m₁.subscriptions = m.subscriptions)

include hsubscriptions in
theorem subscription?_congr : m₁.subscription? = m.subscription? := by
  funext login
  rw [Memory.subscription?, Memory.subscription?, hsubscriptions]

include hchannels hsubscriptions

theorem leavesAll_congr : LeavesAll m₁ turns m' ↔ LeavesAll m turns m' := by
  rw [LeavesAll, LeavesAll, hchannels, subscription?_congr hsubscriptions]

theorem canLeave_congr : m₁.CanLeave fails ↔ m.CanLeave fails := by
  simp only [Memory.CanLeave, Memory.IsStuck, hchannels, subscription?_congr hsubscriptions]

end Congr

/-- Turns that delete nothing do not matter. -/
theorem leavesAll_append {first rest : List (Turn surroundings)} (hrest : deletions rest = []) :
    LeavesAll m (first ++ rest) m' ↔ LeavesAll m first m' := by
  rw [LeavesAll, LeavesAll, deletions_append, hrest, List.append_nil]

theorem plays_shutdown_done (hm : m.InStep) (h : Plays sharing m shutdown.outcome turns m' (.done r))
    (hfails : FailsFor fails turns) : r = .ok () ∧ (LeavesAll m turns m' ↔ m.CanLeave fails) := by
  obtain ⟨first, rest, y, m₁, rfl, hstop, hrest⟩ := Attempt.plays_sure_bind_done.mp h
  obtain ⟨hy, hleaves⟩ := plays_stopServices_done hm hstop hfails.left
  have hend : rest = [⟨.stopOutbound, ()⟩] ∧ m' = m₁ ∧ r = .ok () := by
    have hasked : ∃ m₂ answer later, rest = ⟨.stopOutbound, answer⟩ :: later ∧ m₂ = m₁ ∧
        Plays sharing m₂ (pure () : Program Unit).outcome later m' (.done r) := by
      rcases hy with rfl | ⟨words, rfl⟩ <;>
        exact plays_asked .stopOutbound hrest
    obtain ⟨_, _, later, rfl, rfl, hdone⟩ := hasked
    obtain ⟨rfl, rfl, rfl⟩ := Attempt.plays_pure_done.mp hdone
    exact ⟨rfl, rfl, rfl⟩
  obtain ⟨rfl, rfl, rfl⟩ := hend
  rw [leavesAll_append rfl]
  exact ⟨rfl, hleaves⟩

/-- The console is told once, and only a fault that is not one of the store comes back. -/
theorem plays_tell_done {level message event : String} {details : List (String × Value)}
    (h : Plays sharing m (tell level message event details).outcome turns m' (.done r)) :
    ∃ answer, turns = [⟨.store (Notice.query ⟨level, message, event, details⟩), answer⟩] ∧ m' = m ∧
      r = Notice.heard answer := by
  let q : Query := .store (Notice.query ⟨level, message, event, details⟩)
  obtain ⟨m₁, answer, rest, rfl, hserve, hheard⟩ := plays_asked q h
  obtain ⟨rfl, rfl, rfl⟩ := Attempt.plays_ofExcept_done.mp hheard
  exact ⟨answer, rfl, hserve, rfl⟩

/-- What the console is told when the bot is disabled. -/
def disableNotice : Notice := ⟨"info", "Disabling bot", "lifecycle", []⟩

theorem plays_disable_done {enabled : Value} (hm : m.InStep) (hother : m.enabled.same enabled = false)
    (hdisabled : enabled.holds = false) (h : Plays sharing m (updateEnabled enabled).outcome turns m' (.done r))
    (hfails : FailsFor fails turns) (hheard : ∀ f, ⟨.store disableNotice.query, .error f⟩ ∈ turns → ¬ f.IsForeign) :
    (r = .ok () ∨ ∃ words, r = .error (.transport (.refused words))) ∧ (LeavesAll m turns m' ↔ m.CanLeave fails) := by
  obtain ⟨m₁, before, _, rfl, hlooked, h₁⟩ := plays_asked (.memory id) h
  obtain ⟨rfl, rfl⟩ : before = m ∧ m₁ = m := hlooked
  rw [hother, if_neg Bool.false_ne_true] at h₁
  obtain ⟨m₂, looked, _, rfl, hchanged, h₂⟩ := plays_asked (.memory _) h₁
  obtain ⟨m₃, _, rest, rfl, hawaited, h₃⟩ := plays_asked .awaitReady h₂
  obtain rfl : m₃ = m₂ := hawaited
  rw [hdisabled, if_neg Bool.false_ne_true] at h₃
  -- the console does not keep the bot from stopping
  have hstop : ∃ answer later, rest = ⟨.store disableNotice.query, answer⟩ :: later ∧
      Plays sharing m₃ stopServices.outcome later m' (.done r) := by
    rcases Attempt.plays_bind_done.mp h₃ with ⟨first, later, _, m₄, rfl, htold, hstop⟩ | ⟨e, htold, -⟩
    · obtain ⟨answer, rfl, rfl, -⟩ := plays_tell_done htold
      exact ⟨answer, later, rfl, hstop⟩
    · obtain ⟨answer, rfl, rfl, he⟩ := plays_tell_done htold
      obtain ⟨rfl, hforeign⟩ := Notice.heard_error_iff.mp he.symm
      exact absurd hforeign (hheard e (by simp [disableNotice]))
  obtain ⟨answer, later, rfl, hstop⟩ := hstop
  obtain ⟨hchannels, hsubscriptions⟩ : m₃.channelIds = m₁.channelIds ∧ m₃.subscriptions = m₁.subscriptions := by
    rw [hchanged.2]
    exact ⟨rfl, rfl⟩
  have hsettles := plays_stopServices_done (hm.congr hchannels hsubscriptions) hstop
    (hfails.right [_, _, _, _])
  rw [leavesAll_congr hchannels hsubscriptions, canLeave_congr hchannels hsubscriptions] at hsettles
  exact hsettles

end Leave

/-- **A bot that stops leaves all its channels just if no deletion fails but the last one.** Whatever channels are
joined, and for whichever of them the deletion of the subscription fails: after the services were stopped, the bot
was shut down or it was disabled, no channel is joined any more, and the deletion of each subscription was asked for
once, if and only if none of the channels before the last one has a subscription whose deletion fails. Stopping
and disabling end well or with the failure of a deletion, shutting down ends well. -/
theorem stopping_leaves_all_iff {fails : String → Prop} {m m' : Memory} {turns : List (Turn surroundings)}
    {r : Except Fault Unit} (hm : m.InStep) (hfails : FailsFor fails turns) :
    (Plays sharing m stopServices.outcome turns m' (.done r) →
      (r = .ok () ∨ ∃ words, r = .error (.transport (.refused words))) ∧
        (LeavesAll m turns m' ↔ m.CanLeave fails)) ∧
    (Plays sharing m shutdown.outcome turns m' (.done r) →
      r = .ok () ∧ (LeavesAll m turns m' ↔ m.CanLeave fails)) ∧
    ∀ enabled : Value, enabled.holds = false → m.enabled.same enabled = false →
      (∀ f, ⟨.store disableNotice.query, .error f⟩ ∈ turns → ¬ f.IsForeign) →
      Plays sharing m (updateEnabled enabled).outcome turns m' (.done r) →
      (r = .ok () ∨ ∃ words, r = .error (.transport (.refused words))) ∧
        (LeavesAll m turns m' ↔ m.CanLeave fails) :=
  ⟨fun h => plays_stopServices_done hm h hfails, fun h => plays_shutdown_done hm h hfails,
    fun _ hdisabled hother hheard h => plays_disable_done hm hother hdisabled h hfails hheard⟩

/-- A bot in two channels. -/
def inTwo : Memory :=
  { joined with
    channelIds := [("chan", "7"), ("bob", "11")]
    subscriptions := [("chan", "sub-1"), ("bob", "sub-2")] }

theorem inTwo_inStep : inTwo.InStep :=
  ⟨fun _ => Iff.rfl, by decide, by decide⟩

theorem Memory.leave_injective {login k : String} (h : Memory.leave login = Memory.leave k) : login = k := by
  by_contra hne
  have hkept : login ∈ keys ((inTwo.enter login "" "").leave k).channelIds :=
    mem_keys_forget.mpr ⟨mem_keys_assign.mpr (.inl rfl), hne⟩
  rw [← h, Memory.leave, mem_keys_forget] at hkept
  exact hkept.2 rfl

theorem deletes_cons_iff {login : String} {answer : Except String Unit} {t : Turn surroundings}
    {rest : List (Turn surroundings)} : Deletes login answer (t :: rest) ↔
      (∃ m id after, t = ⟨.memory (Memory.leave login), m⟩ ∧ rest = ⟨.unsubscribe id, answer⟩ :: after) ∨
        Deletes login answer rest := by
  constructor
  · rintro ⟨before, m, id, after, h⟩
    cases before with
    | nil =>
      obtain ⟨rfl, rfl⟩ := List.cons.inj h
      exact .inl ⟨m, id, after, rfl, rfl⟩
    | cons first before =>
      obtain ⟨rfl, rfl⟩ := List.cons.inj h
      exact .inr ⟨before, m, id, after, rfl⟩
  · rintro (⟨m, id, after, rfl, rfl⟩ | ⟨before, m, id, after, rfl⟩)
    · exact ⟨[], m, id, after, rfl⟩
    · exact ⟨t :: before, m, id, after, rfl⟩

/-- A channel and the deletion of its subscription, in front of other turns. -/
theorem FailsFor.leave {fails : String → Prop} {login id : String} {m : Memory} {answer : Except String Unit}
    {rest : List (Turn surroundings)} (hrest : FailsFor fails rest)
    (h : (∃ words, answer = .error words) ↔ fails login) :
    FailsFor fails (⟨.memory (Memory.leave login), m⟩ :: ⟨.unsubscribe id, answer⟩ :: rest) := by
  intro k answer' hk
  rcases deletes_cons_iff.mp hk with ⟨_, _, _, hturn, hnext⟩ | hk
  · obtain ⟨hanswer, -⟩ := List.cons.inj hnext
    have hleave := congrArg Turn.query hturn
    cases hanswer
    rw [← Memory.leave_injective (Query.memory.inj hleave)]
    exact h
  · rcases deletes_cons_iff.mp hk with ⟨_, _, _, hturn, -⟩ | hk
    · cases hturn
    · exact hrest k answer' hk

/-- How the bot begins to stop. -/
theorem FailsFor.stop {fails : String → Prop} {m : Memory} {f : Memory → Memory} {before : Memory}
    {rest : List (Turn surroundings)} (h : FailsFor fails (⟨.memory f, before⟩ :: rest)) :
    FailsFor fails (⟨.stopStream, ()⟩ :: ⟨.stopRefreshing, ()⟩ :: ⟨.memory id, m⟩ :: ⟨.memory f, before⟩ :: rest) := by
  intro k answer hk
  rcases deletes_cons_iff.mp hk with ⟨_, _, _, hturn, -⟩ | hk
  · cases hturn
  · rcases deletes_cons_iff.mp hk with ⟨_, _, _, hturn, -⟩ | hk
    · cases hturn
    · rcases deletes_cons_iff.mp hk with ⟨_, _, _, -, hnext⟩ | hk
      · cases hnext
      · exact h k answer hk

theorem failsFor_nil (fails : String → Prop) : FailsFor fails [] := by
  rintro login answer ⟨before, m, id, after, h⟩
  simp at h

/-- If the deletion of the last subscription fails, the bot has left both of its channels. -/
theorem stopping_leaves_all_iff_last : ∃ turns m',
    Plays sharing inTwo stopServices.outcome turns m' (.done (.error (.transport (.refused "down")))) ∧
      FailsFor (· = "bob") turns ∧ LeavesAll inTwo turns m' := by
  let turns : List (Turn surroundings) := [⟨.stopStream, ()⟩, ⟨.stopRefreshing, ()⟩, ⟨.memory id, inTwo⟩,
    ⟨.memory (Memory.leave "chan"), inTwo⟩, ⟨.unsubscribe "sub-1", .ok ()⟩,
    ⟨.memory (Memory.leave "bob"), inTwo.leave "chan"⟩, ⟨.unsubscribe "sub-2", .error "down"⟩]
  have hplays : Plays sharing inTwo stopServices.outcome turns ((inTwo.leave "chan").leave "bob")
      (.done (.error (.transport (.refused "down")))) :=
    .ask rfl (.ask rfl (.ask ⟨rfl, rfl⟩ (.ask ⟨rfl, rfl⟩ (.ask rfl (.ask ⟨rfl, rfl⟩ (.ask rfl (.here ..)))))))
  have hfails : FailsFor (· = "bob") turns := .stop (.leave (.leave (failsFor_nil _) (by simp)) (by simp))
  have hcan : inTwo.CanLeave (· = "bob") := by
    intro login hlogin hstuck
    obtain rfl := hstuck.2
    exact absurd hlogin (by decide)
  exact ⟨turns, _, hplays, hfails, ((stopping_leaves_all_iff inTwo_inStep hfails).1 hplays).2.mpr hcan⟩

/-- If the deletion of the first subscription fails, the bot stays in the other channel, and nobody asks for the
deletion of its subscription. -/
theorem failing_deletion_strands : inTwo.InStep ∧ ∃ turns m',
    Plays sharing inTwo stopServices.outcome turns m' (.done (.error (.transport (.refused "down")))) ∧
      FailsFor (· = "chan") turns ∧ m'.channelIds = [("bob", "11")] ∧ "sub-2" ∉ deletions turns ∧
      ¬ LeavesAll inTwo turns m' := by
  refine ⟨inTwo_inStep, [⟨.stopStream, ()⟩, ⟨.stopRefreshing, ()⟩, ⟨.memory id, inTwo⟩,
    ⟨.memory (Memory.leave "chan"), inTwo⟩, ⟨.unsubscribe "sub-1", .error "down"⟩], inTwo.leave "chan",
    .ask rfl (.ask rfl (.ask ⟨rfl, rfl⟩ (.ask ⟨rfl, rfl⟩ (.ask rfl (.here ..))))),
    .stop (.leave (failsFor_nil _) (by simp)), rfl, by decide, ?_⟩
  rintro ⟨hchannels, -⟩
  cases hchannels

end ChannelBot.Bot
