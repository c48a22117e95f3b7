/-
Topics and the redemptions on them. A bot that connects to the event stream asks for the ids of the channels it is in
(`Bot.Stage.lookUp`), and listens to one topic for each id. The id at the end of such a topic leads back to the login
that the id was found for (`lookup_knownIds`, `Frame.topicId_channelTopic`), so what is redeemed on a topic is handled
in the channel that it was made for (`subscribed_topics_are_attributed`).
-/
import ChannelBot.Proofs.Bot.Channels
import ChannelBot.Proofs.Stream.Redemptions
import ChannelBot.Proofs.Text.LowerTwice
import ChannelBot.Proofs.Text.Order

namespace ChannelBot

open Dialogue

namespace Stream

/-! ## Logins and ids -/

theorem nodup_eraseDups (texts : List String) : texts.eraseDups.Nodup := by
  induction hlength : texts.length using Nat.strong_induction_on generalizing texts with
  | _ n ih =>
    cases texts with
    | nil => simp
    | cons text rest =>
      rw [List.eraseDups_cons, List.nodup_cons]
      subst hlength
      refine ⟨?_, ih _ (Nat.lt_succ_of_le (List.length_filter_le _ _)) _ rfl⟩
      simp [List.mem_eraseDups]

/-- The logins to look up are the joined ones in lower case, an empty one apart. -/
theorem mem_loginsToResolve {joined : List String} {login : String} :
    login ∈ loginsToResolve joined ↔ ∃ l ∈ joined, l ≠ "" ∧ Text.lower l = login := by
  rw [loginsToResolve, Text.sorted, (Text.sortedOn_perm _ _).mem_iff, List.mem_eraseDups]
  simp [and_assoc]

theorem nodup_loginsToResolve (joined : List String) : (loginsToResolve joined).Nodup :=
  (Text.sortedOn_perm _ _).nodup_iff.mpr (nodup_eraseDups _)

theorem lower_loginsToResolve (joined : List String) :
    (loginsToResolve joined).map Text.lower = loginsToResolve joined := by
  refine (List.map_congr_left fun login h => ?_).trans (List.map_id _)
  obtain ⟨l, -, -, rfl⟩ := mem_loginsToResolve.mp h
  exact Text.lower_lower l

/-- What a lookup finds for joined logins: some of those that are looked up, each once, and for each of them an id
of its own, with no dot in it. -/
structure Assigns (joined : List String) (ids : List (String × String)) : Prop where
  asked : ∀ e ∈ ids, e.1 ∈ loginsToResolve joined
  once : (ids.map Prod.fst).Nodup
  apart : (ids.map Prod.snd).Nodup
  dotless : ∀ e ∈ ids, '.' ∉ e.2.toList

variable {joined : List String} {ids : List (String × String)} {login id : String}

theorem Assigns.ne_empty (h : Assigns joined ids) (hmem : (login, id) ∈ ids) : login ≠ "" := by
  obtain ⟨l, -, hl, hlow⟩ := mem_loginsToResolve.mp (h.asked _ hmem)
  rintro rfl
  exact hl (Text.lower_eq_empty_iff.mp hlow)

/-- Where no two logins have one id, each id is known with its login. -/
theorem knownIds_eq (h : (ids.map Prod.snd).Nodup) : knownIds ids = ids.map Prod.swap := by
  suffices hfold : ∀ known : List (String × String), (known.map Prod.fst ++ ids.map Prod.snd).Nodup →
      ids.foldl (fun known e =>
        if known.any (·.1 == e.2) then known.map fun k => if k.1 == e.2 then e.swap else k
        else known ++ [e.swap]) known = known ++ ids.map Prod.swap from hfold [] h
  clear h
  induction ids with
  | nil => simp
  | cons e rest ih =>
    intro known h
    have hfresh : known.any (·.1 == e.2) = false := by
      rw [List.any_eq_false]
      intro k hk hid
      have hdisjoint := (List.nodup_append.mp h).2.2
      exact hdisjoint k.1 (List.mem_map_of_mem hk) e.2 List.mem_cons_self (beq_iff_eq.mp hid)
    rw [List.foldl_cons]
    simp only [hfresh, Bool.false_eq_true, if_false]
    rw [ih]
    · simp
    · simpa using h

/-- An id leads back to the login that it was found for. -/
theorem lookup_knownIds (h : (ids.map Prod.snd).Nodup) (hmem : (login, id) ∈ ids) :
    (knownIds ids).lookup id = some login := by
  rw [knownIds_eq h]
  induction ids with
  | nil => cases hmem
  | cons e rest ih =>
    obtain ⟨hfresh, hrest⟩ := List.nodup_cons.mp h
    rw [List.map_cons, Server.Settings.lookup_cons_eq]
    rcases List.mem_cons.mp hmem with rfl | hmem
    · exact if_pos rfl
    · have hother : id ≠ e.2 := fun heq => hfresh (heq ▸ List.mem_map_of_mem hmem)
      exact (if_neg hother).trans (ih hrest hmem)

/-! ## Topics -/

theorem Frame.topicId_channelTopic (h : '.' ∉ id.toList) : topicId (channelTopic id) = id := by
  have hdotless : ∀ c ∈ id.toList.reverse, (c != '.') = true := by
    intro c hc
    rw [bne_iff_ne]
    rintro rfl
    exact h (List.mem_reverse.mp hc)
  have htopic : (channelTopic id).toList.reverse = id.toList.reverse ++ '.' :: redemptionTopics.toList.reverse := by
    simp [channelTopic]
  rw [topicId, htopic, List.takeWhile_append_of_pos hdotless, List.takeWhile_cons_of_neg (by decide), List.append_nil,
    List.reverse_reverse, String.ofList_toList]

theorem startsWith_channelTopic (id : String) : Text.startsWith redemptionTopics (channelTopic id) = true := by
  rw [Text.startsWith, channelTopic, String.toList_append, String.toList_append, List.append_assoc,
    List.isPrefixOf_iff_prefix]
  exact List.prefix_append _ _

theorem channelTopic_injective : Function.Injective channelTopic := by
  intro i j h
  simpa [channelTopic, ← String.toList_inj] using h

/-- There is one topic for each id. -/
theorem topicsOf_perm (h : (ids.map Prod.snd).Nodup) :
    (topicsOf (knownIds ids)).Perm ((ids.map Prod.snd).map channelTopic) := by
  rw [topicsOf, knownIds_eq h, List.map_map]
  exact (Text.sortedOn_perm _ (ids.map Prod.snd)).map channelTopic

theorem nodup_topicsOf (h : (ids.map Prod.snd).Nodup) : (topicsOf (knownIds ids)).Nodup := by
  refine (topicsOf_perm h).nodup_iff.mpr ?_
  exact List.pairwise_map.mpr (h.imp fun hne heq => hne (channelTopic_injective heq))

theorem pairwise_topicsOf (h : (ids.map Prod.snd).Nodup) (hdotless : ∀ e ∈ ids, '.' ∉ e.2.toList) :
    (topicsOf (knownIds ids)).Pairwise fun t t' => Frame.topicId t ≤ Frame.topicId t' := by
  have hmem : ∀ i ∈ Text.sorted ((knownIds ids).map Prod.fst), Frame.topicId (channelTopic i) = i := by
    intro i hi
    rw [Text.sorted, (Text.sortedOn_perm _ _).mem_iff, knownIds_eq h, List.map_map] at hi
    obtain ⟨e, he, rfl⟩ := List.mem_map.mp hi
    exact Frame.topicId_channelTopic (hdotless e he)
  rw [topicsOf, List.pairwise_map]
  refine (Text.pairwise_sortedOn _ _).imp_of_mem fun {i j} hi hj hle => ?_
  rw [hmem i hi, hmem j hj]
  exact hle

/-! ## Messages that report redemptions -/

namespace Frame

/-- A message of the type that reports redemptions. -/
def Redeems (message : Value) : Prop :=
  ∃ fields, message = .obj fields ∧ Value.lookup? "type" fields = some (.str redemptionType)

/-- The details of the redemption that a message reports, empty ones if it tells of none. -/
def Reports (message details : Value) : Prop :=
  ∃ fields data, message = .obj fields ∧ Value.lookup? "type" fields = some (.str redemptionType) ∧
    ((Value.lookup? "data" fields).getD .null).orElse (.obj []) = .obj data ∧
    ((Value.lookup? "redemption" data).getD .null).orElse (.obj []) = details

/-- A message reports something if it is of that type, and its data are an object or count as nothing. -/
theorem reports_iff {message : Value} : (∃ details, Reports message details) ↔
    Redeems message ∧ ∀ fields, message = .obj fields → ((Value.lookup? "data" fields).getD .null).Fielded := by
  constructor
  · rintro ⟨details, fields, data, rfl, htype, hdata, -⟩
    refine ⟨⟨fields, rfl, htype⟩, fun fields' heq => ?_⟩
    obtain rfl := Value.obj.inj heq
    exact Value.orElse_isObject_iff.mp ⟨data, hdata⟩
  · rintro ⟨⟨fields, rfl, htype⟩, hfielded⟩
    obtain ⟨data, hdata⟩ := Value.orElse_isObject_iff.mpr (hfielded fields rfl)
    exact ⟨_, fields, data, rfl, htype, hdata, rfl⟩

theorem Reports.redeems {message details : Value} (h : Reports message details) : Redeems message :=
  (reports_iff.mp ⟨details, h⟩).1

/-- A message on a topic of the family asks for just the redemption that it reports. -/
theorem ofMessage_redemption_iff {topic message details : Value} {id : String} :
    ofMessage topic message = .ok (.redemption id details) ↔
      ∃ t, topic = .str t ∧ Text.startsWith redemptionTopics t = true ∧ topicId t = id ∧ Reports message details := by
  constructor
  · intro h
    have hstraight : ¬ Crooked topic message := fun hcrooked => by
      obtain ⟨e, -, he⟩ := ofMessage_crooked hcrooked
      cases h.symm.trans he
    cases htext : topic.text? with
    | none => exact absurd (.topic message htext) hstraight
    | some t =>
      obtain rfl := Value.text?_eq_some_iff.mp htext
      by_cases ht : Text.startsWith redemptionTopics t = true
      · by_cases hmessage : message.IsObject
        · obtain ⟨fields, rfl⟩ := hmessage
          rw [ofMessage_obj ht] at h
          split at h
          · rename_i htype
            obtain ⟨found, hfound, heq⟩ := map_eq_ok_iff.mp h
            obtain ⟨data, hdata, rfl⟩ := Value.get_eq_ok_iff.mp hfound
            obtain ⟨hid, hdetails⟩ := Frame.redemption.inj heq
            exact ⟨t, rfl, ht, hid, fields, data, rfl, htype, hdata, hdetails⟩
          · cases h
        · exact absurd (.message ht hmessage) hstraight
      · rw [ofMessage_otherTopic ht] at h
        cases h
  · rintro ⟨t, rfl, ht, rfl, fields, data, rfl, htype, hdata, rfl⟩
    rw [ofMessage_obj ht, if_pos htype, hdata]
    rfl

/-- A frame asks for a redemption just if it carries a message that reports it, on a topic of the family. -/
theorem read_redemption_iff {text id : String} {details : Value} : read text = .ok (.redemption id details) ↔
    ∃ topic message, Carries text (.str topic) message ∧ Text.startsWith redemptionTopics topic = true ∧
      topicId topic = id ∧ Reports message details := by
  constructor
  · intro h
    by_cases hcarries : ∃ topic message, Carries text topic message
    · obtain ⟨topic, message, hcarries⟩ := hcarries
      rw [read_carried hcarries] at h
      obtain ⟨t, rfl, hasked⟩ := ofMessage_redemption_iff.mp h
      exact ⟨t, message, hcarries, hasked⟩
    · rcases read_uncarried fun topic message hc => hcarries ⟨topic, message, hc⟩ with hread | ⟨-, hread⟩ <;>
        cases hread.symm.trans h
  · rintro ⟨topic, message, hcarries, hasked⟩
    rw [read_carried hcarries]
    exact ofMessage_redemption_iff.mpr ⟨topic, rfl, hasked⟩

end Frame

end Stream

/-! ## The channel of a redemption -/

namespace Redemption

/-- A question that is about this channel, and is not which one it is. -/
def Query.IsIn (login : String) : Query → Prop
  | .login _ => False
  | .action _ channel => channel = login
  | .run _ _ channel _ => channel = login
  | .say channel _ => channel = login

variable {known : List (String × String)} {channelId login : String} {details : Value}
  {turns : List (Turn surroundings)} {a : Except Fault Unit} {o : Order}

/-- In a channel that is known, all that is asked is about it. -/
theorem Course.isIn (h : Course o turns a) (hknown : filled? (o.known.lookup o.channelId) = some login) :
    ∀ t ∈ turns, t.query.IsIn login := by
  have haction : ∀ title channel, .action title channel ∈ turns.map Turn.query → channel = login := by
    intro title channel hmem
    rcases ((h.action_iff title channel).mp hmem).2.2 with hchannel | ⟨hnone, -⟩
    · exact Option.some.inj (hchannel.symm.trans hknown)
    · cases hnone.symm.trans hknown
  have hrun : ∀ body args channel caller, .run body args channel caller ∈ turns.map Turn.query → channel = login := by
    intro body args channel caller hmem
    exact haction o.title channel (List.mem_map_of_mem ((h.run_iff body args channel caller).mp hmem).1)
  intro t ht
  have hmem : t.query ∈ turns.map Turn.query := List.mem_map_of_mem ht
  cases hquery : t.query with
  | login i =>
    rw [hquery] at hmem
    cases ((h.login_iff i).mp hmem).2.2.symm.trans hknown
  | action title channel =>
    rw [hquery] at hmem
    exact haction title channel hmem
  | run body args channel caller =>
    rw [hquery] at hmem
    exact hrun body args channel caller hmem
  | say channel text =>
    rw [hquery] at hmem
    obtain ⟨⟨body, args, hran⟩, -⟩ := (h.say_iff channel text).mp hmem
    exact hrun body args channel o.user (List.mem_map_of_mem hran)

theorem runs_handle_isIn (hknown : filled? (known.lookup channelId) = some login)
    (h : Runs (handle known channelId details).outcome turns a) : ∀ t ∈ turns, t.query.IsIn login := by
  by_cases hreadable : Readable details
  · obtain ⟨fields, reward, title, user, rfl, tells⟩ := readable_iff_tells.mp hreadable
    rw [handle_tells known channelId tells] at h
    exact (runs_settle_course (o := ⟨known, channelId, .obj reward, .obj fields, title, user⟩) h).isIn hknown
  · obtain ⟨e, -, heq⟩ := handle_unreadable known channelId hreadable
    rw [heq] at h
    obtain ⟨rfl, -⟩ := Attempt.runs_fail.mp h
    exact List.forall_mem_nil _

theorem filled?_some (h : login ≠ "") : filled? (some login) = some login :=
  if_neg (mt String.isEmpty_iff.mp h)

end Redemption

/-! ## The lookup of a bot -/

namespace Bot

/-- The platform answers with users of the names that it was asked for. -/
def Faithful (t : Turn surroundings) : Prop :=
  ∀ names users, t = ⟨.usersNamed names, .ok users⟩ → ∀ u ∈ users, Text.lower u.name ∈ names

/-- What notes something down, and keeps each login once, does so for one thing after the other. -/
theorem nodup_keys_foldl {β : Type} {note : List (String × String) → β → List (String × String)}
    (hnote : ∀ found b, (keys found).Nodup → (keys (note found b)).Nodup) (items : List β)
    {found : List (String × String)} (h : (keys found).Nodup) : (keys (items.foldl note found)).Nodup := by
  induction items generalizing found with
  | nil => exact h
  | cons b rest ih => exact ih (hnote found b h)

/-- If all logins that are noted down are of a kind, then so are all in the end. -/
theorem mem_keys_foldl {β : Type} {note : List (String × String) → β → List (String × String)} {P : String → Prop}
    {items : List β} (hnote : ∀ found, ∀ b ∈ items, ∀ k ∈ keys (note found b), k ∈ keys found ∨ P k)
    {found : List (String × String)} (h : ∀ k ∈ keys found, P k) : ∀ k ∈ keys (items.foldl note found), P k := by
  induction items generalizing found with
  | nil => exact h
  | cons b rest ih =>
    refine ih (fun found b' hb' => hnote found b' (List.mem_cons_of_mem b hb')) fun k hk => ?_
    exact (hnote found b List.mem_cons_self k hk).elim (h k) id

/-- A lookup finds some of the logins that it is for, in lower case and each once. -/
theorem runs_resolveUserIds {logins : List String} {turns : List (Turn surroundings)} {ids : List (String × String)}
    (h : Runs (resolveUserIds logins).outcome turns (.ok ids)) (hfaithful : ∀ t ∈ turns, Faithful t) :
    (keys ids).Nodup ∧ ∀ login ∈ keys ids, login ∈ logins.map Text.lower := by
  rw [resolveUserIds] at h
  obtain ⟨m, rest, rfl, hrest⟩ := (Attempt.runs_query_bind (I := surroundings) (q := .memory id)).mp h
  dsimp only at hrest
  generalize hknown : (logins.map Text.lower).foldl _ _ = known at hrest
  have hnodup : (keys known).Nodup := by
    rw [← hknown]
    refine nodup_keys_foldl (fun found login h => ?_) _ List.nodup_nil
    split
    · exact nodup_keys_assign h
    · exact h
  have hasked : ∀ login ∈ keys known, login ∈ logins.map Text.lower := by
    rw [← hknown]
    refine mem_keys_foldl (fun found login hlogin k hk => ?_) (List.forall_mem_nil _)
    split at hk
    · rcases mem_keys_assign.mp hk with rfl | hk
      · exact .inr hlogin
      · exact .inl hk
    · exact .inl hk
  generalize hmissing : (logins.map Text.lower).filter _ = missing at hrest
  split at hrest
  · obtain rfl := Except.ok.inj (Attempt.runs_pure.mp hrest).2
    exact ⟨hnodup, hasked⟩
  · rcases Attempt.runs_bind.mp hrest with ⟨first, later, users, rfl, hplatform, hlater⟩ | ⟨e, -, he⟩
    · obtain rfl := Except.ok.inj (Attempt.runs_pure.mp hlater).2
      obtain ⟨z, hz, hgood⟩ := exists_of_runs_platform hplatform
      obtain ⟨answer, rfl, rfl⟩ := runs_posed.mp hz
      obtain rfl := Except.ok.inj (hgood users rfl)
      refine ⟨nodup_keys_foldl (fun found u h => nodup_keys_assign h) users hnodup,
        mem_keys_foldl (fun found u hu k hk => ?_) hasked⟩
      rcases mem_keys_assign.mp hk with rfl | hk
      · have hname := hfaithful ⟨.usersNamed missing, .ok users⟩ (by simp) missing users rfl u hu
        rw [← hmissing] at hname
        exact .inr (List.mem_filter.mp hname).1
      · exact .inl hk
    · cases he

namespace Stage

variable {s s' : Stage} {ids : List (String × String)}

/-- The platform of a closed world is faithful. -/
theorem answer?_faithful {q : Query} {answer : Answer q} (h : s.answer? q = some (s', answer)) :
    Faithful ⟨q, answer⟩ := by
  rintro names users ⟨⟩ u hu
  have hanswer := congrArg Prod.snd (Option.some.inj h)
  rw [unlessFailing] at hanswer
  split at hanswer
  · cases hanswer
  · obtain rfl := Except.ok.inj hanswer
    obtain ⟨name, hname, hu⟩ := List.mem_flatMap.mp hu
    rw [beq_iff_eq.mp (List.mem_filter.mp hu).2]
    exact hname

/-- What a program that need not wait does is one of its runs. -/
theorem runs_performNow {α : Type} {x : Dialogue surroundings α} {a : α} (h : s.performNow x = (s', some a)) :
    ∃ turns, Runs x turns a ∧ ∀ t ∈ turns, Faithful t := by
  induction x generalizing s with
  | done b =>
    obtain rfl := Option.some.inj (Prod.mk.inj h).2
    exact ⟨[], .done b, List.forall_mem_nil _⟩
  | ask q next ih =>
    rw [performNow] at h
    split at h
    · rename_i answered answer hanswer
      obtain ⟨turns, hruns, hfaithful⟩ := ih answer h
      exact ⟨_, .ask answer hruns, List.forall_mem_cons.mpr ⟨answer?_faithful hanswer, hfaithful⟩⟩
    · cases (Prod.mk.inj h).2

/-- What a bot finds out about the channels that it is in when it connects to the event stream. -/
def lookUp (s : Stage) : Stage × Option (Except Fault (List (String × String))) :=
  let s := { s with stream := s.stream.resolving }
  let logins := Stream.loginsToResolve (keys s.memory.channelIds)
  let lookup : Program (List (String × String)) := if logins.isEmpty then pure [] else resolveUserIds logins
  s.performNow lookup.outcome

/-- It is about some of the logins of the channels, each once. -/
theorem lookUp_asked (h : s.lookUp = (s', some (.ok ids))) :
    (keys ids).Nodup ∧ ∀ e ∈ ids, e.1 ∈ Stream.loginsToResolve (keys s.memory.channelIds) := by
  obtain ⟨turns, hruns, hfaithful⟩ := runs_performNow h
  split at hruns
  · obtain rfl := Except.ok.inj (Attempt.runs_pure.mp hruns).2
    exact ⟨List.nodup_nil, List.forall_mem_nil _⟩
  · obtain ⟨hnodup, hasked⟩ := runs_resolveUserIds hruns hfaithful
    rw [Stream.lower_loginsToResolve] at hasked
    exact ⟨hnodup, fun e he => hasked e.1 (List.mem_map_of_mem he)⟩

/-- So a bot finds what it listens to with its channels, if the platform gives each of them an id of its own. -/
theorem lookUp_assigns (h : s.lookUp = (s', some (.ok ids))) (hapart : (ids.map Prod.snd).Nodup)
    (hdotless : ∀ e ∈ ids, '.' ∉ e.2.toList) : Stream.Assigns (keys s.memory.channelIds) ids :=
  ⟨(lookUp_asked h).2, (lookUp_asked h).1, hapart, hdotless⟩

/-- A bot listens to the topics of the ids that it found, if there are any and the stream can be reached. -/
def listen (s : Stage) (ids : List (String × String)) : Stage :=
  let s := { s with stream := s.stream.resolved ids }
  if s.stream.topics.isEmpty then { s with stream := s.stream.ended s.now }
  else if s.streamDown then { s.record .refused with stream := s.stream.ended s.now }
  else
    let n := s.nonces + 1
    let request := Stream.listenRequest s.stream.topics s.memory.token ("nonce-" ++ toString n)
    { (s.record .connected).record (.listens request) with
      nonces := n
      stream := s.stream.opened s.now }

theorem connect_of_lookUp (h : s.lookUp = (s', some (.ok ids))) : s.connect = s'.listen ids := by
  unfold connect
  dsimp only
  split
  next answered found hanswer =>
    obtain ⟨rfl, hfound⟩ := Prod.mk.inj (h.symm.trans hanswer)
    obtain rfl := Except.ok.inj (Option.some.inj hfound)
    rfl
  next hother hanswer => exact absurd (Prod.mk.inj (hanswer.symm.trans h)).2 (hother ids)

/-- From then on each id is known with its login, and the topics are those of the ids. -/
theorem listen_stream (s : Stage) (ids : List (String × String)) :
    (s.listen ids).stream.known = Stream.knownIds ids ∧
      (s.listen ids).stream.topics = Stream.topicsOf (Stream.knownIds ids) := by
  unfold listen
  dsimp only
  split
  · exact ⟨rfl, rfl⟩
  · split <;> exact ⟨rfl, rfl⟩

/-- The request to listen names the topics. -/
theorem listen_request (htopics : Stream.topicsOf (Stream.knownIds ids) ≠ []) (hup : s.streamDown = false) :
    ∃ nonce, (s.now, .listens (Stream.listenRequest (Stream.topicsOf (Stream.knownIds ids)) s.memory.token nonce)) ∈
      (s.listen ids).records := by
  have hsome : ¬ (Stream.topicsOf (Stream.knownIds ids)).isEmpty = true := mt List.isEmpty_iff.mp htopics
  have hreached : ¬ s.streamDown = true := Bool.eq_false_iff.mp hup
  refine ⟨"nonce-" ++ toString (s.nonces + 1), ?_⟩
  unfold listen
  dsimp only [Stream.Client.resolved]
  rw [if_neg hsome, if_neg hreached]
  exact List.mem_append_right _ (List.mem_singleton_self _)

/-- The stage with the handling of one more redemption on its way. -/
def spawn (s : Stage) (channelId : String) (details : Value) : Stage :=
  s.resume [⟨true, do
    let _ ← (redeem s.setup s.stream.known channelId details).outcome
    return .nothing⟩]

variable {text id : String} {details : Value}

theorem receive_redemption (h : Stream.Frame.read text = .ok (.redemption id details)) :
    s.receive text = (s.spawn id details).settle := by
  rw [receive, h]
  rfl

/-- Any other frame is passed over, or closes the connection. -/
theorem receive_other (h : ∀ id details, Stream.Frame.read text ≠ .ok (.redemption id details)) :
    s.receive text = s.settle ∨ s.receive text = s.closeStream.settle := by
  rw [receive]
  split
  · exact .inl rfl
  · exact .inr rfl
  · rename_i id details hread
    exact absurd hread (h id details)
  · exact .inr rfl

end Stage

end Bot

/-! ## Subscribed topics are attributed -/

namespace Stream

open Redemption

/-- **What is redeemed on a subscribed topic is handled in the channel of that topic.** Let a lookup give joined
logins ids of their own with no dot in them. The logins that are looked up are the joined ones in lower case, each
once. The topics are those of the ids, each once and in the order of the ids. A bot whose own lookup gives these ids
has found them for channels that it is in, and asks to listen to just these topics. A frame that reports a redemption
on one of them starts one handling of just that redemption, for the id of that topic, and all that the handling asks
is about the login that the id was found for. A frame whose message has a topic outside the family, or another type,
starts none. -/
theorem subscribed_topics_are_attributed {joined : List String} {ids : List (String × String)}
    (h : Assigns joined ids) :
    (loginsToResolve joined).Nodup ∧
    (∀ login, login ∈ loginsToResolve joined ↔ ∃ l ∈ joined, l ≠ "" ∧ Text.lower l = login) ∧
    (topicsOf (knownIds ids)).Nodup ∧
    (topicsOf (knownIds ids)).Pairwise (fun t t' => Frame.topicId t ≤ Frame.topicId t') ∧
    (topicsOf (knownIds ids)).Perm ((ids.map Prod.snd).map channelTopic) ∧
    (∀ s s' : Bot.Stage, s.lookUp = (s', some (.ok ids)) → Assigns (Bot.keys s.memory.channelIds) ids ∧
      s.connect.stream.known = knownIds ids ∧ s.connect.stream.topics = topicsOf (knownIds ids) ∧
      (ids ≠ [] → s'.streamDown = false → ∃ nonce,
        (s'.now, .listens (listenRequest (topicsOf (knownIds ids)) s'.memory.token nonce)) ∈ s.connect.records)) ∧
    (∀ login id, (login, id) ∈ ids → ∀ text message details, Frame.Carries text (.str (channelTopic id)) message →
      Frame.Reports message details →
      (∀ s : Bot.Stage, s.receive text = (s.spawn id details).settle) ∧
      ∀ turns a, Runs (handle (knownIds ids) id details).outcome turns a → ∀ t ∈ turns, t.query.IsIn login) ∧
    ∀ text, (∀ topic message, Frame.Carries text (.str topic) message →
        ¬ Text.startsWith redemptionTopics topic = true ∨ ¬ Frame.Redeems message) →
      ∀ s : Bot.Stage, s.receive text = s.settle ∨ s.receive text = s.closeStream.settle := by
  refine ⟨nodup_loginsToResolve joined, fun login => mem_loginsToResolve, nodup_topicsOf h.apart,
    pairwise_topicsOf h.apart h.dotless, topicsOf_perm h.apart, fun s s' hlookUp => ?_,
    fun login id hmem text message details hcarries hreports => ⟨fun s => ?_, fun turns a hruns => ?_⟩,
    fun text hother s => ?_⟩
  · rw [Bot.Stage.connect_of_lookUp hlookUp]
    obtain ⟨hknown, htopics⟩ := s'.listen_stream ids
    refine ⟨Bot.Stage.lookUp_assigns hlookUp h.apart h.dotless, hknown, htopics,
      fun hsome hup => Bot.Stage.listen_request (fun hnone => hsome ?_) hup⟩
    have hperm := topicsOf_perm h.apart
    rw [hnone, List.nil_perm, List.map_eq_nil_iff, List.map_eq_nil_iff] at hperm
    exact hperm
  · exact Bot.Stage.receive_redemption (Frame.read_redemption_iff.mpr ⟨channelTopic id, message, hcarries,
      startsWith_channelTopic id, Frame.topicId_channelTopic (h.dotless _ hmem), hreports⟩)
  · refine runs_handle_isIn ?_ hruns
    rw [lookup_knownIds h.apart hmem]
    exact filled?_some (h.ne_empty hmem)
  · refine Bot.Stage.receive_other fun id details hread => ?_
    obtain ⟨topic, message, hcarries, htopic, -, hreports⟩ := Frame.read_redemption_iff.mp hread
    rcases hother topic message hcarries with hno | hno
    · exact hno htopic
    · exact hno hreports.redeems

/-- The message that reports a redemption. -/
def redeemed (details : Value) : Value :=
  .obj [("type", .str "reward-redeemed"), ("data", .obj [("redemption", details)])]

theorem carries_redeemed (topic : String) :
    Frame.Carries (Frame.written (.str topic) (redeemed someRedemption)) (.str topic) (redeemed someRedemption) :=
  Frame.carries_written (by simp [Value.IsPlain])
    (by simp [redeemed, someRedemption, Value.IsPlain, Value.FieldsPlain])

theorem reports_redeemed : Frame.Reports (redeemed someRedemption) someRedemption := ⟨_, _, rfl, rfl, rfl, rfl⟩

/-- Two channels, one of them joined twice, and a redemption in it. -/
theorem subscribed_topics_are_attributed_twice :
    let joined := ["Chan", "", "OTHER", "chan"]
    let ids := [("chan", "42"), ("other", "7")]
    let frame := Frame.written (.str (channelTopic "42")) (redeemed someRedemption)
    Assigns joined ids ∧ (topicsOf (knownIds ids)).Nodup ∧
      Frame.Carries frame (.str (channelTopic "42")) (redeemed someRedemption) ∧
      Frame.Reports (redeemed someRedemption) someRedemption ∧
      ∀ s : Bot.Stage, s.receive frame = (s.spawn "42" someRedemption).settle := by
  intro joined ids frame
  have hlow : Text.lower "chan" = "chan" ∧ Text.lower "OTHER" = "other" := by decide
  have hassigns : Assigns joined ids := by
    refine ⟨?_, by decide, by decide, by decide⟩
    simp [joined, ids, mem_loginsToResolve, hlow]
  have hcarries := carries_redeemed (channelTopic "42")
  obtain ⟨-, -, hnodup, -, -, -, hfound, -⟩ := subscribed_topics_are_attributed hassigns
  exact ⟨hassigns, hnodup, hcarries, reports_redeemed,
    (hfound "chan" "42" List.mem_cons_self frame _ _ hcarries reports_redeemed).1⟩

/-- A topic that only begins like those of the family starts a redemption, for the channel of its last part; and a
redemption that is reported in a text on a topic of the family starts none. -/
theorem similar_topic_redeems :
    (∀ id, "community-points-channel-v12.42" ≠ channelTopic id) ∧
      Frame.read (Frame.written (.str "community-points-channel-v12.42") (redeemed someRedemption)) =
        .ok (.redemption "42" someRedemption) ∧
      ∃ e, Frame.read (Frame.written (.str (channelTopic "42"))
        (.obj [("type", .str "reward-redeemed"), ("data", .str "x")])) = .error e := by
  have htopic : Text.startsWith redemptionTopics "community-points-channel-v12.42" = true := by decide
  have hid : Frame.topicId "community-points-channel-v12.42" = "42" := by decide
  refine ⟨fun id h => ?_, Frame.read_redemption_iff.mpr ⟨_, _, carries_redeemed _, htopic, hid, reports_redeemed⟩,
    Frame.read_error_iff.mpr ⟨_, _, Frame.carries_written ?_ ?_, .data (startsWith_channelTopic "42") rfl ?_⟩⟩
  · rw [← String.toList_inj, channelTopic, String.toList_append, String.toList_append] at h
    exact absurd (congrArg (·[27]?) h) (by simp [redemptionTopics])
  · simp [Value.IsPlain]
  · simp [Value.IsPlain, Value.FieldsPlain]
  · rintro (hnone | ⟨fields, hobj⟩)
    · cases hnone
    · cases hobj

end Stream

end ChannelBot
