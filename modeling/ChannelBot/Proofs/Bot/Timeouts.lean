/-
Time-outs on their way from a hit to the platform. A hit puts its order into the queue as a line of chat
(`runs_hitmanFor_raw`), and the delivery takes that line apart again at its white space (`Carried`). User
and duration are read back just if the user is one word (`readTimeout_order_iff`); of what a body can pass to
a hit, only all arguments joined may be something else (`fills_isWord_iff`). No other message makes the
platform silence anyone (`asks_deliver`).
-/
import ChannelBot.Bot.Delivery
import ChannelBot.Proofs.Action.Course
import ChannelBot.Proofs.Line.Spelling
import ChannelBot.Proofs.Number.Written
import ChannelBot.Proofs.Script.Substitution
import ChannelBot.Proofs.Server.Settings

namespace ChannelBot

open Dialogue

/-! ## What a body passes -/

namespace Script

/-- What stands for a token in a call of words is a word, but for all arguments together: they are one just if
there is one of them. -/
theorem fills_isWord_iff {call : Call} {token user : String} (htoken : Text.IsWord token)
    (hargs : ∀ a ∈ call.args, Text.IsWord a) (hcaller : ∀ login, call.caller = .str login → Text.IsWord login)
    (h : Fills call token (.str user)) : Text.IsWord user ↔ (token = "$$" → call.args.length = 1) := by
  generalize hv : Value.str user = v at h
  cases h with
  | literal hliteral =>
    cases hv
    refine iff_of_true htoken ?_
    rintro rfl
    exact absurd rfl hliteral
  | all =>
    cases hv
    rw [Text.isWord_iff, Text.words_unwords hargs]
    constructor
    · intro hone _
      rw [hone]
      rfl
    · intro hone
      obtain ⟨a, ha⟩ := List.length_eq_one_iff.mp (hone rfl)
      rw [ha]
      exact congrArg (fun joined => [joined]) (String.intercalate_singleton (s := " ")).symm
  | caller => exact iff_of_true (hcaller user hv.symm) fun h => absurd h (by decide)
  | argument hdigits hindex harg =>
    cases hv
    refine iff_of_true (hargs user (List.mem_of_getElem? harg)) fun hall => ?_
    have hlist := congrArg String.toList hall
    rw [String.toList_ofList] at hlist
    exact absurd (List.cons.inj hlist).2 (isIndex_other hdigits).1

end Script

/-! ## The order of a hit -/

namespace Action

variable {channel user : String} {seconds : Int} {rest : List Value} {turns : List (Turn surroundings)}
  {x : Except Fault Value}

/-- A hit puts one order into the queue at most: for its channel, user and duration. Then it says that the user
was timed out, for so many minutes as the duration has. -/
theorem runs_hitmanFor_raw (h : Runs (hitmanFor seconds (.str user :: rest) channel).outcome turns x)
    {place : String} {order : Value} (hmem : Query.enqueue (.raw place order) ∈ (turns.map (·.query) : List Query)) :
    place = channel ∧ order = .str (timeoutOrder user seconds) ∧
      x = .ok (.str (user ++ " timed out for " ++ toString (seconds / 60) ++ " minutes!")) := by
  rcases (runs_askStore (q := .addTarget channel user)).mp h with ⟨opened, turns₁, rfl, hopened⟩ | ⟨e, rfl, -⟩
  · obtain ⟨⟨⟩, turns₂, rfl, htold⟩ := (Attempt.runs_query_bind (I := surroundings) (q := .enqueue _)).mp hopened
    obtain ⟨⟨⟩, turns₃, rfl, hwaited⟩ := (Attempt.runs_query_bind (I := surroundings) (q := .pause _)).mp htold
    rcases (runs_askStore (q := .isProtected channel user)).mp hwaited with ⟨guarded, turns₄, rfl, hread⟩ | ⟨e, rfl, -⟩
    · rcases runs_askStore.mp hread with ⟨closed, turns₅, rfl, hclosed⟩ | ⟨e, rfl, -⟩
      · cases guarded with
        | true =>
          obtain ⟨rfl, -⟩ := Attempt.runs_pure.mp hclosed
          simp [sayText] at hmem
        | false =>
          obtain ⟨⟨⟩, turns₆, rfl, hdone⟩ := (Attempt.runs_query_bind (I := surroundings) (q := .enqueue _)).mp hclosed
          obtain ⟨rfl, rfl⟩ := Attempt.runs_pure.mp hdone
          simp only [sayText, List.map_cons, List.map_nil, List.mem_cons, List.not_mem_nil, Query.enqueue.injEq,
            Outgoing.raw.injEq, reduceCtorEq, false_or, or_false] at hmem
          exact ⟨hmem.1, hmem.2, rfl⟩
      · simp [sayText] at hmem
    · simp [sayText] at hmem
  · simp at hmem

/-- A hit on a user who is not guarded does so, with success at the store. -/
theorem runs_hitmanFor_unguarded (seconds : Int) (user channel : String) (rest : List Value) (opened closed : Value) :
    Runs (hitmanFor seconds (.str user :: rest) channel).outcome
      [⟨.store (.addTarget channel user), .ok opened⟩,
       ⟨.enqueue (sayText channel ("Timing out " ++ user ++ " in " ++ toString hitDelay ++ " seconds...")), ()⟩,
       ⟨.pause (hitDelay * Moment.second), ()⟩,
       ⟨.store (.isProtected channel user), .ok false⟩,
       ⟨.store (.setProtection channel user false (.bool true)), .ok closed⟩,
       ⟨.enqueue (.raw channel (.str (timeoutOrder user seconds))), ()⟩]
      (.ok (.str (user ++ " timed out for " ++ toString (seconds / 60) ++ " minutes!"))) :=
  .ask _ (.ask _ (.ask _ (.ask _ (.ask _ (.ask _ (.done _))))))

end Action

namespace Bot

open ChannelBot.Action (timeoutOrder)
open Attempt (Asks asks_pure asks_fail asks_ofExcept asks_sure asks_query)

variable {channel login order user : String} {seconds : Int}

/-- The words of an order are its first one, those of the user, and the duration. -/
theorem words_timeoutOrder (user : String) (seconds : Int) :
    Text.words (timeoutOrder user seconds) = "/timeout" :: (Text.words user ++ [toString seconds]) := by
  have hblank : Chars.isBlank ' ' = true := by decide
  have hnumber : Text.words (toString seconds) = [toString seconds] :=
    Text.IsWord.words_eq (Number.isWord_toString seconds)
  have hfirst : Text.words "/timeout" = ["/timeout"] := by decide
  have horder : timeoutOrder user seconds =
      "/timeout" ++ .ofList [' '] ++ user ++ .ofList [' '] ++ toString seconds := rfl
  rw [horder, Text.words_append_blank hblank, Text.words_append_blank hblank, hfirst, hnumber]
  rfl

/-- An order is read back as its user and duration just if the user is one word, and the duration no longer than
a number may be. -/
theorem readTimeout_order_iff : readTimeout (timeoutOrder user seconds) = .ok (user, seconds) ↔
    Text.IsWord user ∧ seconds.natAbs < 10 ^ Number.digitLimit := by
  have hwords := words_timeoutOrder user seconds
  have hread := Number.readInt_toString seconds
  rw [readTimeout, hwords]
  cases huser : Text.words user with
  | nil =>
    have hnone : ¬ Text.IsWord user := fun hword => by
      rw [hword.words_eq] at huser
      cases huser
    simp only [List.nil_append, Except.ok.injEq, Prod.mk.injEq]
    refine iff_of_false ?_ fun h => hnone h.1
    rintro ⟨rfl, -⟩
    exact hnone (Number.isWord_toString seconds)
  | cons first others =>
    have hfirst : Text.IsWord first := Text.isWord_of_mem_words (huser ▸ List.mem_cons_self)
    cases others with
    | nil =>
      simp only [List.cons_append, List.nil_append]
      by_cases hfits : seconds.natAbs < 10 ^ Number.digitLimit
      · rw [if_pos hfits] at hread
        simp only [hread, Except.ok.injEq, Prod.mk.injEq, and_true, hfits]
        constructor
        · rintro rfl
          exact hfirst
        · intro hword
          rw [hword.words_eq] at huser
          exact (List.cons.inj huser).1.symm
      · rw [if_neg hfits] at hread
        simp only [hread, hfits, and_false, reduceCtorEq]
    | cons second others =>
      have hnone : ¬ Text.IsWord user := fun hword => by
        rw [hword.words_eq] at huser
        cases huser
      refine iff_of_false (fun h => hnone ?_) fun h => hnone h.1
      simp only [List.cons_append] at h
      split at h
      · rw [Except.ok.injEq, Prod.mk.injEq] at h
        exact h.1 ▸ hfirst
      · cases h

/-! ## Questions to the platform -/

theorem runs_posed {q : Query} {turns : List (Turn surroundings)} {z : Except Fault (Answer q)} :
    Runs (ask q).outcome turns z ↔ ∃ answer, turns = [⟨q, answer⟩] ∧ z = .ok answer := by
  rw [ask, Attempt.runs_sure]
  exact exists_congr fun answer => and_congr_left fun _ => runs_query

/-- What is asked of the platform is answered, and a good end is a good answer. -/
theorem exists_of_runs_platform {α : Type} {x : Program (Except String α)} {turns : List (Turn surroundings)}
    {y : Except Fault α} (h : Runs (platform x).outcome turns y) :
    ∃ z, Runs x.outcome turns z ∧ ∀ a, y = .ok a → z = .ok (.ok a) := by
  rcases Attempt.runs_bind.mp h with ⟨first, rest, answer, rfl, hx, hrest⟩ | ⟨f, hx, rfl⟩
  · cases answer with
    | ok a =>
      obtain ⟨rfl, rfl⟩ := Attempt.runs_pure.mp hrest
      rw [List.append_nil]
      exact ⟨_, hx, fun b hb => by rw [Except.ok.inj hb]⟩
    | error words =>
      obtain ⟨rfl, rfl⟩ := Attempt.runs_fail.mp hrest
      rw [List.append_nil]
      exact ⟨_, hx, fun b hb => by cases hb⟩
  · exact ⟨_, hx, fun b hb => by cases hb⟩

/-! ## Users -/

theorem lookup_assign {α : Type} (key : String) (a : α) (entries : List (String × α)) (k : String) :
    (assign key a entries).lookup k = if k = key then some a else entries.lookup k := by
  induction entries with
  | nil => rw [assign, Server.Settings.lookup_cons_eq]
  | cons entry rest ih =>
    obtain ⟨k', b⟩ := entry
    rw [assign]
    by_cases hkey : k' = key
    · rw [if_pos (beq_iff_eq.mpr hkey), Server.Settings.lookup_cons_eq, Server.Settings.lookup_cons_eq, hkey]
      by_cases hk : k = key <;> simp [hk]
    · rw [if_neg (by simpa using hkey), Server.Settings.lookup_cons_eq, Server.Settings.lookup_cons_eq, ih]
      by_cases hk : k = k'
      · rw [if_pos hk, if_pos hk, if_neg fun h => hkey (hk.symm.trans h)]
      · rw [if_neg hk, if_neg hk]

/-- What is noted down of users is what was known, or comes from one of them. -/
theorem lookup_noted {users : List User} {known : List (String × String)} {name id : String}
    (h : (users.foldl (fun found u => assign (Text.lower u.name) u.id found) known).lookup name = some id) :
    known.lookup name = some id ∨ ∃ u ∈ users, Text.lower u.name = name ∧ u.id = id := by
  induction users generalizing known with
  | nil => exact .inl h
  | cons u rest ih =>
    rcases ih h with hknown | ⟨v, hv, hname⟩
    · rw [lookup_assign] at hknown
      split at hknown
      · rename_i hname
        exact .inr ⟨u, List.mem_cons_self, hname.symm, Option.some.inj hknown⟩
      · exact .inl hknown
    · exact .inr ⟨v, List.mem_cons_of_mem u hv, hname⟩

/-- The id of a user is that of the joined channel of that name, or that of a user whom the platform knows by it. -/
def Named (login uid : String) (turns : List (Turn surroundings)) : Prop :=
  (∃ m : Memory, ⟨.memory id, m⟩ ∈ turns ∧ m.channelIds.lookup (Text.lower login) = some uid) ∨
    ∃ users : List User, ⟨.usersNamed [Text.lower login], .ok users⟩ ∈ turns ∧
      ∃ u ∈ users, Text.lower u.name = Text.lower login ∧ u.id = uid

/-- One login is looked up among the joined channels first, then on the platform. -/
theorem resolveUserIds_one (login : String) : resolveUserIds [login] = (remember >>= fun m =>
    match m.channelIds.lookup (Text.lower login) with
    | some i => pure [(Text.lower login, i)]
    | none => platform (ask (.usersNamed [Text.lower login])) >>= fun users : List User =>
      pure (users.foldl (fun found u => assign (Text.lower u.name) u.id found) [])) := by
  rw [resolveUserIds]
  congr 1
  funext m
  dsimp only
  generalize hknown : ([login].map Text.lower).foldl _ _ = known
  rw [List.map_singleton, List.foldl_cons, List.foldl_nil] at hknown
  cases hm : m.channelIds.lookup (Text.lower login) with
  | some i =>
    obtain rfl : [(Text.lower login, i)] = known := by rw [← hknown, hm]; rfl
    rw [if_pos (by simp)]
  | none =>
    obtain rfl : [] = known := by rw [← hknown, hm]
    rfl

theorem runs_userId {login uid : String} {turns : List (Turn surroundings)}
    (h : Runs (userId login).outcome turns (.ok uid)) : Named login uid turns := by
  rcases Attempt.runs_bind.mp h with ⟨first, rest, ids, rfl, hids, hrest⟩ | ⟨f, -, hf⟩
  · have hlookup : ids.lookup (Text.lower login) = some uid := by
      split at hrest
      · split at hrest
        · cases (Attempt.runs_fail.mp hrest).2
        · rename_i hfound _
          rw [hfound, Except.ok.inj (Attempt.runs_pure.mp hrest).2]
      · cases (Attempt.runs_fail.mp hrest).2
    rw [resolveUserIds_one] at hids
    obtain ⟨m, later, rfl, hlater⟩ := (Attempt.runs_query_bind (I := surroundings) (q := .memory id)).mp hids
    cases hm : m.channelIds.lookup (Text.lower login) with
    | some i =>
      rw [hm] at hlater
      obtain ⟨-, hknown⟩ := Attempt.runs_pure.mp hlater
      rw [Except.ok.inj hknown, List.lookup_cons_self] at hlookup
      exact .inl ⟨m, by simp, hm.trans hlookup⟩
    | none =>
      rw [hm] at hlater
      rcases Attempt.runs_bind.mp hlater with ⟨asked, after, users, rfl, hasked, hafter⟩ | ⟨f, -, hf⟩
      · obtain ⟨-, hnoted⟩ := Attempt.runs_pure.mp hafter
        obtain ⟨z, hz, hgood⟩ := exists_of_runs_platform hasked
        obtain ⟨answer, rfl, rfl⟩ := runs_posed.mp hz
        obtain rfl := Except.ok.inj (hgood users rfl)
        rw [Except.ok.inj hnoted] at hlookup
        rcases lookup_noted hlookup with hnone | hu
        · cases hnone
        · exact .inr ⟨users, by simp, hu⟩
      · cases hf
  · cases hf

/-! ## The delivery -/

/-- A question that silences nobody. -/
def Query.Spares (q : Query) : Prop := ∀ channelId login userId seconds, q ≠ .silence channelId login userId seconds

section Asks

variable {P : Query → Prop}

theorem asks_tell (hstore : ∀ q, P (.store q)) (level message event : String) (details : List (String × Value)) :
    Asks P (tell level message event details) :=
  (asks_sure (asks_query (hstore _))).bind fun _ => asks_ofExcept _

theorem asks_platform {α : Type} {x : Program (Except String α)} (h : Asks P x) : Asks P (platform x) := by
  refine h.bind fun answer => ?_
  cases answer with
  | ok a => exact asks_pure a
  | error words => exact asks_fail _

theorem asks_ask {q : Query} (h : P q) : Asks P (ask q) := asks_sure (asks_query h)

theorem asks_userId (hmemory : P (.memory id)) (husers : ∀ logins, P (.usersNamed logins)) (login : String) :
    Asks P (userId login) := by
  refine Asks.bind (Asks.bind (asks_ask hmemory) fun m => ?_) fun ids => ?_
  · dsimp only
    split
    · exact asks_pure _
    · exact (asks_platform (asks_ask (husers _))).bind fun users => asks_pure _
  · split
    · split
      · exact asks_fail _
      · exact asks_pure _
    · exact asks_fail _

end Asks

theorem asks_tell_spares (level message event : String) (details : List (String × Value)) :
    Asks Query.Spares (tell level message event details) :=
  asks_tell (fun _ _ _ _ _ h => by cases h) ..

theorem asks_userId_spares (login : String) : Asks Query.Spares (userId login) :=
  asks_userId (fun _ _ _ _ h => by cases h) (fun _ _ _ _ _ h => by cases h) login

theorem asks_channelId (login : String) : Asks Query.Spares (channelId login) := by
  refine Asks.bind (asks_ask fun _ _ _ _ h => by cases h) fun m => ?_
  split
  · split
    · exact asks_userId_spares login
    · exact asks_pure _
  · exact asks_userId_spares login

theorem asks_sendText (channelId login : String) (text : Value) (replyTo : Option String) :
    Asks Query.Spares (sendText channelId login text replyTo) := by
  refine Asks.bind (asks_ask fun _ _ _ _ h => by cases h) fun answer => ?_
  cases answer with
  | ok a => exact asks_tell_spares ..
  | error words => exact (asks_tell_spares ..).bind fun _ => asks_fail _

/-- A message that is a line of chat and orders a time-out. -/
def OrdersTimeout (m : Outgoing) : Prop :=
  ∃ channel order, m = .raw channel (.str order) ∧ Text.startsWith timeoutLead order

/-- No message but an order makes the platform silence anyone. -/
theorem asks_deliver {m : Outgoing} (h : ¬ OrdersTimeout m) : Asks Query.Spares (deliver m) := by
  refine (asks_channelId _).bind fun id => ?_
  cases m with
  | say channel text => exact asks_sendText ..
  | reply text heard => exact asks_sendText ..
  | raw channel text =>
    cases text with
    | str order =>
      have hlead : ¬ Text.startsWith timeoutLead order = true := fun hlead => h ⟨channel, order, rfl, hlead⟩
      show Asks Query.Spares (if Text.startsWith timeoutLead order then _ else _ : Program Unit)
      rw [if_neg hlead]
      exact asks_sendText ..
    | _ => exact asks_fail _

/-- How the delivery of an order goes: the channel has no id, the order cannot be read, the platform does not know
the user that was read, or it is asked to silence that user in that channel for the time that was read, once. -/
inductive Carried (login order : String) : List (Turn surroundings) → Except Fault Unit → Prop
  | nowhere {found : List (Turn surroundings)} {f : Fault} (hplace : Runs (channelId login).outcome found (.error f))
    (hspared : ∀ t ∈ found, t.query.Spares) : Carried login order found (.error f)
  | unread {found : List (Turn surroundings)} {f : Fault} {place : String}
    (hplace : Runs (channelId login).outcome found (.ok place)) (hread : readTimeout order = .error f)
    (hspared : ∀ t ∈ found, t.query.Spares) : Carried login order found (.error f)
  | unknown {found asked : List (Turn surroundings)} {f : Fault} {place user : String} {seconds : Int}
    (hplace : Runs (channelId login).outcome found (.ok place)) (hread : readTimeout order = .ok (user, seconds))
    (huser : Runs (userId user).outcome asked (.error f)) (hspared : ∀ t ∈ found ++ asked, t.query.Spares) :
    Carried login order (found ++ asked) (.error f)
  | silenced {found asked after : List (Turn surroundings)} {place user uid : String} {seconds : Int}
    (hplace : Runs (channelId login).outcome found (.ok place)) (hread : readTimeout order = .ok (user, seconds))
    (huser : Runs (userId user).outcome asked (.ok uid)) (hnamed : Named user uid asked) (answer : Except String Unit)
    (hspared : ∀ t ∈ found ++ (asked ++ after), t.query.Spares) (x : Except Fault Unit) :
    Carried login order (found ++ (asked ++ ⟨.silence place login uid seconds, answer⟩ :: after)) x

theorem deliver_order (hlead : Text.startsWith timeoutLead order = true) : deliver (.raw channel (.str order)) =
    (channelId (Text.lower channel) >>= fun place => silence place (Text.lower channel) order) := by
  have hdeliver : deliver (.raw channel (.str order)) = (channelId (Text.lower channel) >>= fun place =>
      if Text.startsWith timeoutLead order then silence place (Text.lower channel) order
      else sendText place (Text.lower channel) (.str order) none) := rfl
  rw [hdeliver]
  simp only [hlead, if_true]

/-- An order is carried out or lost on the way. -/
theorem carried_of_runs {turns : List (Turn surroundings)} {x : Except Fault Unit}
    (hlead : Text.startsWith timeoutLead order = true)
    (h : Runs (deliver (.raw channel (.str order))).outcome turns x) : Carried (Text.lower channel) order turns x := by
  rw [deliver_order hlead] at h
  rcases Attempt.runs_bind.mp h with ⟨found, rest, place, rfl, hplace, hrest⟩ | ⟨f, hplace, rfl⟩
  · have hfound := hplace.asks (asks_channelId _)
    rw [silence] at hrest
    cases hread : readTimeout order with
    | error f =>
      rw [hread] at hrest
      obtain ⟨rfl, rfl⟩ := Attempt.runs_fail.mp hrest
      rw [List.append_nil]
      exact .unread hplace hread hfound
    | ok target =>
      obtain ⟨user, seconds⟩ := target
      rw [hread, Attempt.ofExcept_ok_bind] at hrest
      rcases Attempt.runs_bind.mp hrest with ⟨asked, later, uid, rfl, huser, hlater⟩ | ⟨f, huser, rfl⟩
      · have hasked := huser.asks (asks_userId_spares user)
        -- The platform's own failure ends the delivery; otherwise the console is told.
        obtain ⟨answer, after, rfl, hafter⟩ : ∃ answer after,
            later = ⟨.silence place (Text.lower channel) uid seconds, answer⟩ :: after ∧
              ∀ t ∈ after, t.query.Spares := by
          rcases Attempt.runs_bind.mp hlater with
            ⟨silenced, after, answered, rfl, hsilenced, hafter⟩ | ⟨f, hsilenced, rfl⟩
          · obtain ⟨z, hz, -⟩ := exists_of_runs_platform hsilenced
            obtain ⟨answer, rfl, -⟩ := runs_posed.mp hz
            exact ⟨answer, after, rfl, hafter.asks (asks_tell_spares ..)⟩
          · obtain ⟨z, hz, -⟩ := exists_of_runs_platform hsilenced
            obtain ⟨answer, rfl, -⟩ := runs_posed.mp hz
            exact ⟨answer, [], rfl, fun _ ht => absurd ht List.not_mem_nil⟩
        refine .silenced hplace hread huser (runs_userId huser) answer ?_ x
        simp only [List.forall_mem_append]
        exact ⟨hfound, hasked, hafter⟩
      · exact .unknown hplace hread huser (List.forall_mem_append.mpr ⟨hfound, huser.asks (asks_userId_spares user)⟩)
  · exact .nowhere hplace (hplace.asks (asks_channelId _))

/-- In a bot that has joined the channel, and the user's too, the platform is asked at once. -/
theorem runs_deliver_joined {m : Memory} {place user uid words : String}
    (hlead : Text.startsWith timeoutLead order = true) (hread : readTimeout order = .ok (user, seconds))
    (hplace : m.channelIds.lookup (Text.lower channel) = some place) (hplace' : place ≠ "")
    (huser : m.channelIds.lookup (Text.lower user) = some uid) (huser' : uid ≠ "") :
    Runs (deliver (.raw channel (.str order))).outcome
      [⟨.memory id, m⟩, ⟨.memory id, m⟩, ⟨.silence place (Text.lower channel) uid seconds, .error words⟩]
      (.error (.transport (.refused words))) := by
  have hchannel : Runs (channelId (Text.lower channel)).outcome [⟨.memory id, m⟩] (.ok place) := by
    refine (Attempt.runs_query_bind (I := surroundings) (q := .memory id)).mpr ⟨m, [], rfl, ?_⟩
    rw [hplace]
    dsimp only
    rw [if_neg (by simpa using hplace')]
    exact Attempt.runs_pure.mpr ⟨rfl, rfl⟩
  have hids : Runs (resolveUserIds [user]).outcome [⟨.memory id, m⟩] (.ok [(Text.lower user, uid)]) := by
    rw [resolveUserIds_one]
    refine (Attempt.runs_query_bind (I := surroundings) (q := .memory id)).mpr ⟨m, [], rfl, ?_⟩
    rw [huser]
    exact Attempt.runs_pure.mpr ⟨rfl, rfl⟩
  have hid : Runs (userId user).outcome ([⟨.memory id, m⟩] ++ []) (.ok uid) := by
    refine (Attempt.runs_bind_after_ok hids).mpr ?_
    rw [List.lookup_cons_self]
    dsimp only
    rw [if_neg (by simpa using huser')]
    exact Attempt.runs_pure.mpr ⟨rfl, rfl⟩
  have hasked : Runs (platform (ask (.silence place (Text.lower channel) uid seconds))).outcome
      [⟨.silence place (Text.lower channel) uid seconds, .error words⟩] (.error (.transport (.refused words))) :=
    (Attempt.runs_query_bind (I := surroundings) (q := .silence place (Text.lower channel) uid seconds)).mpr
      ⟨.error words, [], rfl, Attempt.runs_fail.mpr ⟨rfl, rfl⟩⟩
  rw [deliver_order hlead]
  refine (Attempt.runs_bind_after_ok hchannel).mpr ?_
  rw [silence, hread, Attempt.ofExcept_ok_bind]
  refine (Attempt.runs_bind_after_ok hid).mpr ?_
  exact Attempt.runs_bind.mpr (.inr ⟨_, hasked, rfl⟩)

/-- **A hit is carried out as it was ordered if its user is one word.** Every order that a hit puts into the queue
is for its channel, user and duration; the minutes that chat is told of make the duration if they are whole. The
order is read back just if the user is one word, which of what a body passes only all arguments together may fail
to be, and the duration not too long. Whatever is read, that user is silenced once and for that time if channel and
user are known; no message but an order makes the platform silence anyone. -/
theorem hits_are_carried_out_iff (user : String) (seconds : Int) (channel : String) :
    (∀ (rest : List Value) (turns : List (Turn Action.surroundings)) (x : Except Fault Value),
      Runs (Action.hitmanFor seconds (.str user :: rest) channel).outcome turns x →
        ∀ place order, Action.Query.enqueue (.raw place order) ∈ (turns.map (·.query) : List Action.Query) →
          place = channel ∧ order = .str (timeoutOrder user seconds) ∧
            ∃ minutes : Int, x = .ok (.str (user ++ " timed out for " ++ toString minutes ++ " minutes!")) ∧
              (minutes * 60 = seconds ↔ 60 ∣ seconds)) ∧
      (readTimeout (timeoutOrder user seconds) = .ok (user, seconds) ↔
        Text.IsWord user ∧ seconds.natAbs < 10 ^ Number.digitLimit) ∧
      (∀ (call : Script.Call) (token : String), Text.IsWord token → (∀ a ∈ call.args, Text.IsWord a) →
        (∀ login, call.caller = .str login → Text.IsWord login) →
        Script.resolveToken call token = .ok (.str user) →
          (Text.IsWord user ↔ (token = "$$" → call.args.length = 1))) ∧
      (∀ (turns : List (Turn surroundings)) (x : Except Fault Unit),
        Runs (deliver (.raw channel (.str (timeoutOrder user seconds)))).outcome turns x →
          Carried (Text.lower channel) (timeoutOrder user seconds) turns x) ∧
      ∀ (m : Outgoing) (turns : List (Turn surroundings)) (x : Except Fault Unit),
        Runs (deliver m).outcome turns x → ¬ OrdersTimeout m → ∀ t ∈ turns, t.query.Spares := by
  have hlead : Text.startsWith timeoutLead (timeoutOrder user seconds) = true := by
    rw [Text.startsWith, timeoutOrder, String.toList_append, String.toList_append, String.toList_append,
      List.isPrefixOf_iff_prefix, List.append_assoc, List.append_assoc]
    exact List.prefix_append _ _
  refine ⟨?_, readTimeout_order_iff, ?_, fun turns x => carried_of_runs hlead, ?_⟩
  · intro rest turns x h place order hmem
    obtain ⟨hplace, horder, hx⟩ := Action.runs_hitmanFor_raw h hmem
    exact ⟨hplace, horder, seconds / 60, hx, by omega⟩
  · intro call token htoken hargs hcaller hvalue
    exact Script.fills_isWord_iff htoken hargs hcaller (Script.resolveToken_ok.mp hvalue)
  · intro m turns x h hm
    exact h.asks (asks_deliver hm)

/-- A bot that has joined the channels of `chan` and `bob`. -/
def joined : Memory where
  login := .str "cmdbot"
  botId := "1"
  token := .null
  refreshToken := .null
  scopes := []
  enabled := .bool true
  channelIds := [("chan", "7"), ("bob", "11")]

/-- The platform is asked to silence `bob`, and refuses. -/
def silenceBob (seconds : Int) : List (Turn surroundings) :=
  [⟨.memory id, joined⟩, ⟨.memory id, joined⟩, ⟨.silence "7" "chan" "11" seconds, .error "no"⟩]

theorem runs_silenceBob {order : String} (hlead : Text.startsWith timeoutLead order = true)
    (hread : readTimeout order = .ok ("bob", seconds)) :
    Runs (deliver (.raw "chan" (.str order))).outcome (silenceBob seconds) (.error (.transport (.refused "no"))) := by
  have hchan : Text.lower "chan" = "chan" := by decide
  have hbob : Text.lower "bob" = "bob" := by decide
  have hruns : Runs (deliver (.raw "chan" (.str order))).outcome
      [⟨.memory id, joined⟩, ⟨.memory id, joined⟩, ⟨.silence "7" (Text.lower "chan") "11" seconds, .error "no"⟩]
      (.error (.transport (.refused "no"))) :=
    runs_deliver_joined hlead hread (by rw [hchan]; rfl) (by decide) (by rw [hbob]; rfl) (by decide)
  rwa [hchan] at hruns

/-- A hit of ten minutes on `bob` is announced as such, and carried out. -/
theorem hits_are_carried_out_bob :
    (∃ minutes : Int, Value.str ("bob timed out for " ++ toString minutes ++ " minutes!") =
        .str "bob timed out for 10 minutes!" ∧ minutes * 60 = 600) ∧
      readTimeout (timeoutOrder "bob" 600) = .ok ("bob", 600) ∧
      Carried "chan" (timeoutOrder "bob" 600) (silenceBob 600) (.error (.transport (.refused "no"))) := by
  obtain ⟨hhit, hread, -, hcarried, -⟩ := hits_are_carried_out_iff "bob" 600 "chan"
  obtain ⟨-, -, minutes, hsaid, hminutes⟩ := hhit [] _ _
    (Action.runs_hitmanFor_unguarded 600 "bob" "chan" [] .null .null) "chan" (.str (timeoutOrder "bob" 600)) (by simp)
  have hfits : (600 : Int).natAbs < 10 ^ Number.digitLimit :=
    Nat.lt_of_lt_of_le (by decide : 600 < 10 ^ 3) (Nat.pow_le_pow_right (by decide) (by decide))
  have hbob := hread.mpr ⟨by decide, hfits⟩
  have hchan : Text.lower "chan" = "chan" := by decide
  rw [hchan] at hcarried
  refine ⟨⟨minutes, ?_, hminutes.mpr (by decide)⟩, hbob, hcarried _ _ (runs_silenceBob (by decide) hbob)⟩
  exact (Except.ok.inj hsaid).symm

/-- A hit of ten minutes on a user called `bob 5` silences `bob`, for five seconds. -/
theorem joined_words_hit_another :
    Runs (deliver (.raw "chan" (.str (timeoutOrder "bob 5" 600)))).outcome (silenceBob 5)
      (.error (.transport (.refused "no"))) :=
  runs_silenceBob (by decide) (by decide)

end Bot

end ChannelBot
