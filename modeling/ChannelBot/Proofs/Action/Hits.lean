/-
Hits and guards at the same time. Any number of hits and guards in a channel take turns at the
store (`sharing`), each store question being one turn. A deed goes its course whatever the others
do (`Deed.course`), and whether a guard stands over a user is up to the turns taken so far: one was
set, and no hit on the user has used it up since (`Held`). So a guard that comes in time is
honoured, and once (`guards_are_honoured_once`).
-/
import ChannelBot.Proofs.Action.Course
import ChannelBot.Proofs.Store.Targets

namespace ChannelBot.Action

open ChannelBot.Bot (Stage)
open Dialogue
open Server.Route (IsName)

variable {channel : String}

/-! ## The store -/

/-- The bot changes, but not the flags of a channel. -/
structure Calm (channel : String) (s s' : Stage) : Prop where
  serves : s.Serves channel → s'.Serves channel
  flags : ∀ user, s'.target? channel user = s.target? channel user

/-- A question to the store goes there and nowhere else; what else is asked may change all but the
flags. -/
def Served (channel : String) (s : Stage) : (q : Query) → Stage → Answer q → Prop
  | .store q, s', answer => s.askStore q = (s', answer)
  | _, s', _ => Calm channel s s'

theorem Calm.refl (channel : String) (s : Stage) : Calm channel s s := ⟨id, fun _ => rfl⟩

/-- Whatever is asked is answered. -/
theorem exists_served (channel : String) (s : Stage) (q : Query) : ∃ s' answer, Served channel s q s' answer := by
  cases q with
  | store q => exact ⟨_, _, rfl⟩
  | web r => exact ⟨s, .timedOut, .refl channel s⟩
  | enqueue m => exact ⟨s, (), .refl channel s⟩
  | pause duration => exact ⟨s, (), .refl channel s⟩
  | commercial target seconds => exact ⟨s, .ok (), .refl channel s⟩

/-- A bot whose actions share the flags of a channel, which nobody else writes. -/
def sharing (channel : String) : Shared surroundings Stage := ⟨Served channel, Calm channel⟩

/-- A question sets the flags of a user like this, in whatever case the name is written. -/
def Query.Sets (channel user : String) (guarded : Bool) (completed : Value) (q : Query) : Prop :=
  ∃ v, Text.lower v = Text.lower user ∧ q = .store (.setProtection channel v guarded completed)

/-- A question sets a guard over a user. -/
def Query.Guards (channel user : String) : Query → Prop := Query.Sets channel user true .null

/-- A question uses up the guard over a user. -/
def Query.Resets (channel user : String) : Query → Prop := Query.Sets channel user false (.bool true)

theorem sets_iff {user v : String} {guarded guarded' : Bool} {completed completed' : Value} :
    (Query.store (.setProtection channel v guarded completed)).Sets channel user guarded' completed' ↔
      Text.lower user = Text.lower v ∧ guarded = guarded' ∧ completed = completed' := by
  constructor
  · intro h
    obtain ⟨w, hw, heq⟩ := h
    cases heq
    exact ⟨hw.symm, rfl, rfl⟩
  · intro h
    obtain ⟨hv, rfl, rfl⟩ := h
    exact ⟨v, hv.symm, rfl⟩

section Step

variable {s s' : Stage} {q : Query} {answer : Answer q} {v : String}

theorem guarded_iff_of_flags
    (hflags : ∀ user, (s'.target? channel user).any (·.guarded) = (s.target? channel user).any (·.guarded))
    (hsets : ∀ user guarded completed, ¬ q.Sets channel user guarded completed) (user : String) :
    s'.Guarded channel user ↔ q.Guards channel user ∨ s.Guarded channel user ∧ ¬ q.Resets channel user := by
  rw [Stage.Guarded, Stage.Guarded, hflags]
  simp [Query.Guards, Query.Resets, hsets]

/-- What a question of a deed does: it is answered with success, and a guard stands over a user
afterwards if the question sets one, or one stood there and the question does not use it up. -/
theorem served_deed (hc : IsName channel) (hv : IsName v) (hs : s.Serves channel) (hq : Deed.Asks channel v q)
    (h : Served channel s q s' answer) :
    s'.Serves channel ∧ Granted ⟨q, answer⟩ ∧
      ∀ user, s'.Guarded channel user ↔ q.Guards channel user ∨ s.Guarded channel user ∧ ¬ q.Resets channel user := by
  cases hq with
  | opens =>
    obtain ⟨hanswer, hserves, hflags⟩ := Stage.addTarget_ok hs hc hv
    rw [show s.askStore _ = _ from h] at hanswer hserves hflags
    refine ⟨hserves, hanswer, guarded_iff_of_flags (fun user => ?_) (by simp [Query.Sets])⟩
    rw [hflags]
    split
    · rename_i huser
      rw [Stage.target?_congr huser]
      cases s.target? channel v <;> rfl
    · rfl
  | looks =>
    obtain ⟨hanswer, hledger, hconnected⟩ := Stage.ask_target hs.connected hc hv
    rw [show s.askStore _ = _ from h] at hanswer hledger hconnected
    refine ⟨⟨hconnected, by rw [hledger]; exact hs.registered⟩, ⟨_, hanswer⟩,
      guarded_iff_of_flags (fun user => ?_) (by simp [Query.Sets])⟩
    rw [Stage.target?_of_ledger hledger]
  | guards =>
    obtain ⟨hanswer, hserves, hflags⟩ := Stage.setTarget_ok hs hc hv true none
    rw [show s.askStore (.flagging channel v true none) = _ from h] at hanswer hserves hflags
    refine ⟨hserves, hanswer, fun user => ?_⟩
    rw [Stage.Guarded, hflags, Query.Guards, Query.Resets, sets_iff, sets_iff]
    by_cases huser : Text.lower user = Text.lower v <;> simp [huser, Stage.Guarded]
  | resets =>
    obtain ⟨hanswer, hserves, hflags⟩ := Stage.setTarget_ok hs hc hv false (some true)
    rw [show s.askStore (.flagging channel v false (some true)) = _ from h] at hanswer hserves hflags
    refine ⟨hserves, hanswer, fun user => ?_⟩
    rw [Stage.Guarded, hflags, Query.Guards, Query.Resets, sets_iff, sets_iff]
    by_cases huser : Text.lower user = Text.lower v <;> simp [huser, Stage.Guarded]
  | tells | waits =>
    have hcalm : Calm channel s s' := h
    exact ⟨hcalm.serves hs, trivial,
      guarded_iff_of_flags (fun user => by rw [hcalm.flags]) (by simp [Query.Sets])⟩

end Step

/-! ## All orders -/

/-- A guard came over a user, and no hit on the user has used it up since. -/
def Held (channel user : String) (log : List (Nat × Turn surroundings)) : Prop :=
  ∃ earlier t later, log = earlier ++ t :: later ∧ t.2.query.Guards channel user ∧
    ∀ t' ∈ later, ¬ t'.2.query.Resets channel user

section Orders

variable {user : String} {log : List (Nat × Turn surroundings)} {s₀ s : Stage} {deeds : List Deed}
  {threads : List (Dialogue surroundings (Except Fault Value))} {i : Nat} {d : Deed}

theorem not_held_nil : ¬ Held channel user [] := not_since_nil

theorem held_snoc {t : Nat × Turn surroundings} :
    Held channel user (log ++ [t]) ↔
      t.2.query.Guards channel user ∨ Held channel user log ∧ ¬ t.2.query.Resets channel user := since_snoc

/-- Each deed is on its course, and has its answer once it is through. -/
theorem on_course (h : Interleaved (sharing channel) s₀ (deeds.map (Deed.program channel)) log s threads)
    (hgranted : ∀ t ∈ log, Granted t.2) (hd : deeds[i]? = some d) :
    ∃ whole v, d.Course channel whole v ∧ turnsOf i log <+: whole ∧
      ∀ x, threads[i]? = some (.done x) → turnsOf i log = whole ∧ x = .ok v := by
  obtain ⟨y, hy, hleads⟩ := h.leads (i := i) (x := d.program channel) (by rw [List.getElem?_map, hd]; rfl)
  obtain ⟨rest, v, hrest, hcourse⟩ := d.course hleads fun t ht => hgranted _ (mem_turnsOf ht)
  refine ⟨_, v, hcourse, List.prefix_append _ _, fun x hx => ?_⟩
  obtain rfl : y = .done x := Option.some.inj (hy.symm.trans hx)
  obtain ⟨rfl, hv⟩ := runs_done.mp hrest
  exact ⟨(List.append_nil _).symm, hv.symm⟩

/-- A deed that is not through can go on. -/
theorem not_stuck (h : Interleaved (sharing channel) s₀ (deeds.map (Deed.program channel)) log s threads)
    (hd : deeds[i]? = some d) :
    (∃ x, threads[i]? = some (.done x)) ∨
      ∃ q next s' answer, threads[i]? = some (.ask q next) ∧ (sharing channel).serve s q s' answer := by
  obtain ⟨y, hy, -⟩ := h.leads (i := i) (x := d.program channel) (by rw [List.getElem?_map, hd]; rfl)
  cases y with
  | done x => exact .inl ⟨x, hy⟩
  | ask q next =>
    obtain ⟨s', answer, hserve⟩ := exists_served channel s q
    exact .inr ⟨q, next, s', answer, hy, hserve⟩

/-- What is asked next is a question of a deed. -/
theorem asks_next (h : Interleaved (sharing channel) s₀ (deeds.map (Deed.program channel)) log s threads)
    (hgranted : ∀ t ∈ log, Granted t.2) {q : Query} {next : Answer q → Dialogue surroundings (Except Fault Value)}
    (hi : threads[i]? = some (.ask q next)) : ∃ d ∈ deeds, Deed.Asks channel d.user q := by
  have hlt : i < deeds.length := by
    have hlength := h.length_eq
    rw [List.length_map] at hlength
    exact hlength ▸ (List.getElem?_eq_some_iff.mp hi).1
  obtain ⟨y, hy, hleads⟩ := h.leads (i := i) (x := deeds[i].program channel) (by
    rw [List.getElem?_map, List.getElem?_eq_getElem hlt]
    rfl)
  obtain rfl : y = .ask q next := Option.some.inj (hy.symm.trans hi)
  obtain ⟨rest, v, hrest, hcourse⟩ := deeds[i].course hleads fun t ht => hgranted _ (mem_turnsOf ht)
  obtain ⟨answer, rest', rfl, -⟩ := runs_ask.mp hrest
  exact ⟨deeds[i], List.getElem_mem hlt, hcourse.asks _ (List.mem_append_right _ List.mem_cons_self)⟩

/-- What holds in whatever order turns were taken. -/
structure Kept (channel : String) (log : List (Nat × Turn surroundings)) (s : Stage) : Prop where
  serves : s.Serves channel
  granted : ∀ t ∈ log, Granted t.2
  guarded : ∀ user, s.Guarded channel user ↔ Held channel user log

/-- How deeds in a channel begin: all names can be segments of a path, the store has the channel,
and there is no guard yet. -/
structure Opening (channel : String) (deeds : List Deed) (s₀ : Stage) : Prop where
  channel_name : IsName channel
  user_names : ∀ d ∈ deeds, IsName d.user
  serves : s₀.Serves channel
  free : ∀ user, ¬ s₀.Guarded channel user

theorem kept (hstart : Opening channel deeds s₀)
    (h : Interleaved (sharing channel) s₀ (deeds.map (Deed.program channel)) log s threads) : Kept channel log s := by
  induction h with
  | start =>
    exact ⟨hstart.serves, fun _ h => absurd h List.not_mem_nil,
      fun user => iff_of_false (hstart.free user) not_held_nil⟩
  | turn h hi hserve ih =>
    obtain ⟨d, hd, hasks⟩ := asks_next h ih.granted hi
    obtain ⟨hserves, hgranted, hguarded⟩ := served_deed hstart.channel_name (hstart.user_names d hd) ih.serves hasks hserve
    refine ⟨hserves, List.forall_mem_append.mpr ⟨ih.granted, ?_⟩, fun user => ?_⟩
    · exact fun t ht => List.mem_singleton.mp ht ▸ hgranted
    · rw [hguarded, ih.guarded, held_snoc]
  | drift _ hcalm ih =>
    have hcalm : Calm channel _ _ := hcalm
    refine ⟨hcalm.serves ih.serves, ih.granted, fun user => ?_⟩
    rw [Stage.Guarded, hcalm.flags]
    exact ih.guarded user

/-- Who looks for a guard is told whether the turns taken before left one. -/
theorem look_tells (hstart : Opening channel deeds s₀) {before after : List (Nat × Turn surroundings)} {guarded : Bool}
    (h : Interleaved (sharing channel) s₀ (deeds.map (Deed.program channel))
      (before ++ (i, ⟨.store (.isProtected channel user), .ok guarded⟩) :: after) s threads) (hu : IsName user) :
    guarded = true ↔ Held channel user before := by
  obtain ⟨s₁, threads₁, next, s₂, h₁, -, hserve⟩ := h.cut
  have hkept := kept hstart h₁
  have hanswer := (Stage.ask_target hkept.serves.connected hstart.channel_name hu).1
  rw [show s₁.askStore _ = _ from hserve] at hanswer
  rw [← hkept.guarded, Stage.Guarded, Except.ok.inj hanswer]

/-- Right after a hit has used up a guard there is none, and the hit is completed. -/
theorem reset_clears (hstart : Opening channel deeds s₀) {before : List (Nat × Turn surroundings)}
    {answer : Answer (.store (.setProtection channel user false (.bool true)))}
    (h : Interleaved (sharing channel) s₀ (deeds.map (Deed.program channel))
      (before ++ [(i, ⟨.store (.setProtection channel user false (.bool true)), answer⟩)]) s threads)
    (hu : IsName user) : s.target? channel user = some ⟨false, true⟩ := by
  refine h.last (fun s₁ s₂ threads₁ h₁ hserve => ?_) fun s₁ s₂ hcalm hflags => (hcalm.flags user).trans hflags
  have hkept := kept hstart h₁
  obtain ⟨-, -, hflags⟩ := Stage.setTarget_ok hkept.serves hstart.channel_name hu false (some true)
  rw [show s₁.askStore (.flagging channel user false (some true)) = _ from hserve] at hflags
  exact (hflags user).trans (if_pos rfl)

/-- **A guard that comes in time is honoured, and once.** Hits and guards in a channel, any number
of them on users in any case, take turns in any order. A hit finds its user guarded exactly if a
guard came over the user and no hit on it has used it up since. Then it silences nobody and answers
nothing, else it silences the user once and tells so; in both cases it uses up the guard once,
after it looked and before it silences. No deed gets stuck. -/
theorem guards_are_honoured_once (hstart : Opening channel deeds s₀)
    (h : Interleaved (sharing channel) s₀ (deeds.map (Deed.program channel)) log s threads) :
    (∀ i user rest, deeds[i]? = some (.hit user rest) →
      (∃ opened guarded closed, turnsOf i log <+: hitTurns channel user opened guarded closed ∧
        ∀ x, threads[i]? = some (.done x) →
          turnsOf i log = hitTurns channel user opened guarded closed ∧ x = .ok (hitAnswer user guarded)) ∧
      (∀ before guarded after, log = before ++ (i, ⟨.store (.isProtected channel user), .ok guarded⟩) :: after →
        (guarded = true ↔ Held channel user before)) ∧
      (∀ before answer, log = before ++ [(i, ⟨.store (.setProtection channel user false (.bool true)), answer⟩)] →
        s.target? channel user = some ⟨false, true⟩)) ∧
    (∀ i user rest, deeds[i]? = some (.guard user rest) →
      ∃ set, turnsOf i log <+: guardTurns channel user set ∧
        ∀ x, threads[i]? = some (.done x) → turnsOf i log = guardTurns channel user set ∧ x = .ok .null) ∧
    ∀ (i : Nat) (d : Deed), deeds[i]? = some d → (∃ x, threads[i]? = some (.done x)) ∨
      ∃ q next s' answer, threads[i]? = some (.ask q next) ∧ (sharing channel).serve s q s' answer := by
  have hgranted := (kept hstart h).granted
  refine ⟨fun i user rest hi => ⟨?_, ?_, ?_⟩, fun i user rest hi => ?_, fun i d => not_stuck h⟩
  · obtain ⟨whole, v, hcourse, hprefix, hdone⟩ := on_course h hgranted hi
    cases hcourse with
    | hit _ _ opened guarded closed => exact ⟨opened, guarded, closed, hprefix, hdone⟩
  · rintro before guarded after rfl
    exact look_tells hstart h (hstart.user_names _ (List.mem_of_getElem? hi))
  · rintro before answer rfl
    exact reset_clears hstart h (hstart.user_names _ (List.mem_of_getElem? hi))
  · obtain ⟨whole, v, hcourse, hprefix, hdone⟩ := on_course h hgranted hi
    cases hcourse with
    | guard _ _ set => exact ⟨set, hprefix, hdone⟩

end Orders

/-- Whatever a deed asks the store next is answered with success. -/
theorem granted_next {s : Stage} {q : StoreQuery} {v : String} (hc : IsName channel) (hv : IsName v)
    (hs : s.Serves channel) (hq : Deed.Asks channel v (.store q)) :
    ∃ s' answer, s.askStore q = (s', .ok answer) ∧ s'.Serves channel := by
  obtain ⟨hserves, ⟨answer, hanswer⟩, -⟩ := @served_deed channel s (s.askStore q).1 (.store q) (s.askStore q).2 v hc hv hs
    hq rfl
  exact ⟨_, answer, Prod.ext rfl hanswer, hserves⟩

/-- A guard can come while a hit waits. -/
theorem exists_guard_in_time {s₀ : Stage} {user other : String}
    (hstart : Opening channel [.hit user [], .guard other []] s₀) :
    ∃ opened set guarded s threads, Interleaved (sharing channel) s₀
      ([Deed.hit user [], .guard other []].map (Deed.program channel))
      [(0, ⟨.store (.addTarget channel user), .ok opened⟩),
       (0, ⟨.enqueue (sayText channel ("Timing out " ++ user ++ " in " ++ toString hitDelay ++ " seconds...")), ()⟩),
       (1, ⟨.store (.setProtection channel other true .null), .ok set⟩),
       (0, ⟨.pause (hitDelay * Moment.second), ()⟩),
       (0, ⟨.store (.isProtected channel user), .ok guarded⟩)] s threads := by
  have hhit : IsName user := hstart.user_names (.hit user []) (by simp)
  have hguard : IsName other := hstart.user_names (.guard other []) (by simp)
  obtain ⟨s₁, opened, hask₁, hs₁⟩ := granted_next hstart.channel_name hhit hstart.serves .opens
  obtain ⟨s₂, set, hask₂, hs₂⟩ := granted_next hstart.channel_name hguard hs₁ .guards
  obtain ⟨s₃, guarded, hask₃, -⟩ := granted_next hstart.channel_name hhit hs₂ .looks
  have h₀ : Interleaved (sharing channel) s₀ ([Deed.hit user [], .guard other []].map (Deed.program channel)) [] s₀
    [(Deed.hit user []).program channel, (Deed.guard other []).program channel] := .start
  have h₁ := h₀.turn (i := 0) rfl (show Served channel s₀ (.store (.addTarget channel user)) s₁ (.ok opened) from hask₁)
  have h₂ := @Interleaved.turn surroundings _ _ _ _ _ _ _ s₁ _ 0 (.enqueue _) _ () h₁ rfl (.refl channel s₁)
  have h₃ := h₂.turn (i := 1) rfl
    (show Served channel s₁ (.store (.setProtection channel other true .null)) s₂ (.ok set) from hask₂)
  have h₄ := @Interleaved.turn surroundings _ _ _ _ _ _ _ s₂ _ 0 (.pause _) _ () h₃ rfl (.refl channel s₂)
  have h₅ := h₄.turn (i := 0) rfl
    (show Served channel s₂ (.store (.isProtected channel user)) s₃ (.ok guarded) from hask₃)
  exact ⟨opened, set, guarded, s₃, _, h₅⟩

/-- A guard over a user whose name is written in other letters is found. -/
theorem guards_are_honoured_once_in_time :
    let deeds : List Deed := [.hit "Bob" [], .guard "bOB" []]
    Opening "chan" deeds Stage.registered ∧
      ∃ before s threads, Interleaved (sharing "chan") Stage.registered (deeds.map (Deed.program "chan"))
        (before ++ [(0, ⟨.store (.isProtected "chan" "Bob"), .ok true⟩)]) s threads := by
  intro deeds
  obtain ⟨hconnected, hregistered⟩ := Stage.registered_connected
  have hstart : Opening "chan" deeds Stage.registered := by
    refine ⟨by decide, by decide, ⟨hconnected, _, hregistered⟩, fun user => ?_⟩
    rw [Stage.Guarded, Stage.target?, hregistered, Option.bind_some, Std.ExtTreeMap.getElem?_empty]
    exact Bool.false_ne_true
  obtain ⟨opened, set, guarded, s, threads, h⟩ := exists_guard_in_time hstart
  have hfound := ((guards_are_honoured_once hstart h).1 0 "Bob" [] rfl).2.1
    [(0, ⟨.store (.addTarget "chan" "Bob"), .ok opened⟩), (0, ⟨.enqueue _, ()⟩),
      (1, ⟨.store (.setProtection "chan" "bOB" true .null), .ok set⟩), (0, ⟨.pause _, ()⟩)] guarded [] rfl
  have hheld : guarded = true := by
    refine hfound.mpr ⟨[_, _], _, [_], rfl, sets_iff.mpr ⟨by decide, rfl, rfl⟩, fun t ht => ?_⟩
    obtain rfl := List.mem_singleton.mp ht
    simp [Query.Resets, Query.Sets]
  rw [hheld] at h
  exact ⟨hstart, [_, _, _, _], s, threads, h⟩

end ChannelBot.Action
