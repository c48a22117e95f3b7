/-
Frames of any shape. A frame carries a message if it is an object with a topic and a text that reads as the
message (`Frame.Carries`); what carries none is passed over. Reading is at fault exactly if the message is
crooked (`Frame.read_error_iff`): the shapes further inside are not looked at before they are used. Handling a
redemption ends well exactly if what it says of reward and user can be read (`Redemption.ends_well_iff`),
however the lookup, the store and the action answer.
-/
import ChannelBot.Bot.Stage
import ChannelBot.Proofs.Dialogue.Runs
import ChannelBot.Proofs.Value.Access
import ChannelBot.Proofs.Value.Json

namespace ChannelBot

/-! ## Redemptions -/

namespace Redemption

open Dialogue

/-- What a redemption says can be read: it is an object, and so are its reward and its user, if it has them. -/
def Readable (details : Value) : Prop :=
  ∃ fields, details = .obj fields ∧ ((Value.lookup? "reward" fields).getD .null).Fielded ∧
    ((Value.lookup? "user" fields).getD .null).Fielded

/-- Chat takes what is said. -/
def Accepted : Turn surroundings → Prop
  | ⟨.say .., answer⟩ => answer = .ok ()
  | _ => True

/-- A world in which chat takes whatever is said. -/
theorem accepted_follows {w : World surroundings} (hw : ∀ past channel text, w past (.say channel text) = .ok ())
    {past turns : List (Turn surroundings)} (h : Follows w past turns) : ∀ t ∈ turns, Accepted t := by
  induction h with
  | nil past => simp
  | @cons past rest t ht _ ih =>
    refine List.forall_mem_cons.mpr ⟨?_, ih⟩
    obtain ⟨q, answer⟩ := t
    cases q with
    | say channel text => exact ht.trans (hw past channel text)
    | _ => trivial

/-- The part of the handling that is left when reward and user are read. -/
def settle (known : List (String × String)) (channelId : String) (reward details title user : Value) :
    Attempt surroundings Unit :=
  if title.holds then do
    match ← Attempt.sure (answer known channelId reward details title user).outcome with
    | .ok (some (channel, text)) => say channel text
    | _ => return
  else pure ()

variable {known : List (String × String)} {channelId : String} {details : Value} {turns : List (Turn surroundings)}

theorem handle_readable (known : List (String × String)) (channelId : String) (h : Readable details) :
    ∃ reward title user, handle known channelId details = settle known channelId reward details title user := by
  obtain ⟨fields, rfl, hreward, huser⟩ := h
  obtain ⟨reward, hreward⟩ := Value.orElse_isObject_iff.mpr hreward
  obtain ⟨user, huser⟩ := Value.orElse_isObject_iff.mpr huser
  refine ⟨.obj reward, (Value.lookup? "title" reward).getD .null,
    ((Value.lookup? "login" user).getD .null).orElse (.str ""), ?_⟩
  simp only [handle, Value.get_obj, mapError_ok, Attempt.ofExcept_ok_bind, hreward, huser]
  rfl

/-- A redemption that cannot be read is given up before anything is asked. -/
theorem handle_unreadable (known : List (String × String)) (channelId : String) (h : ¬ Readable details) :
    ∃ e : ShapeFault, e.kind = .attribute ∧ handle known channelId details = Attempt.fail (.shape e) := by
  by_cases hdetails : details.IsObject
  · obtain ⟨fields, rfl⟩ := hdetails
    simp only [handle, Value.get_obj, mapError_ok, Attempt.ofExcept_ok_bind]
    by_cases hreward : ((Value.lookup? "reward" fields).getD .null).Fielded
    · have huser : ¬ ((Value.lookup? "user" fields).getD .null).Fielded := fun huser => h ⟨fields, rfl, hreward, huser⟩
      obtain ⟨reward, hreward⟩ := Value.orElse_isObject_iff.mpr hreward
      rw [← Value.orElse_isObject_iff] at huser
      obtain ⟨e, hkind, hlogin⟩ := Value.get_of_not_isObject huser "login"
      refine ⟨e, hkind, ?_⟩
      rw [hreward, hlogin]
      rfl
    · rw [← Value.orElse_isObject_iff] at hreward
      obtain ⟨e, hkind, htitle⟩ := Value.get_of_not_isObject hreward "title"
      refine ⟨e, hkind, ?_⟩
      rw [htitle]
      rfl
  · obtain ⟨e, hkind, hreward⟩ := Value.get_of_not_isObject hdetails "reward"
    refine ⟨e, hkind, ?_⟩
    rw [handle, hreward]
    rfl

theorem runs_settle {reward title user : Value} {a : Except Fault Unit}
    (h : Runs (settle known channelId reward details title user).outcome turns a) (htaken : ∀ t ∈ turns, Accepted t) :
    a = .ok () := by
  rw [settle] at h
  split at h
  · obtain ⟨first, rest, x, rfl, -, hsaid⟩ := Attempt.runs_sure_bind.mp h
    split at hsaid
    · obtain rfl := runs_query.mp hsaid
      exact htaken ⟨.say _ _, a⟩ (List.mem_append_right _ (List.mem_singleton_self _))
    · exact (Attempt.runs_pure.mp hsaid).2
  · exact (Attempt.runs_pure.mp h).2

/-- Handling a redemption ends well if and only if it can be read, provided that chat takes what is said. -/
theorem ends_well_iff {a : Except Fault Unit} (h : Runs (handle known channelId details).outcome turns a)
    (htaken : ∀ t ∈ turns, Accepted t) : a = .ok () ↔ Readable details := by
  by_cases hreadable : Readable details
  · obtain ⟨reward, title, user, heq⟩ := handle_readable known channelId hreadable
    rw [heq] at h
    simp only [runs_settle h htaken, hreadable]
  · obtain ⟨e, -, heq⟩ := handle_unreadable known channelId hreadable
    rw [heq] at h
    obtain ⟨-, rfl⟩ := Attempt.runs_fail.mp h
    simp [hreadable]

end Redemption

/-! ## Reading frames -/

namespace Stream.Frame

/-- The text of a frame carries a message on a topic. -/
def Carries (text : String) (topic message : Value) : Prop :=
  ∃ fields data inner, Json.read text = .ok (.obj fields) ∧ Value.lookup? "type" fields = some (.str "MESSAGE") ∧
    Value.lookup? "data" fields = some (.obj data) ∧ Value.lookup? "topic" data = some topic ∧
    Value.lookup? "message" data = some (.str inner) ∧ Json.read inner = .ok message

/-- A message whose shape is not looked at before it is used: its topic is no text; or the topic is one of
redemptions, and the message is no object, or reports a redemption in what counts as something and is no
object. -/
inductive Crooked : Value → Value → Prop
  | topic {topic : Value} (message : Value) (h : topic.text? = none) : Crooked topic message
  | message {topic : String} {message : Value} (ht : Text.startsWith redemptionTopics topic = true)
    (h : ¬ message.IsObject) : Crooked (.str topic) message
  | data {topic : String} {fields : List (String × Value)} (ht : Text.startsWith redemptionTopics topic = true)
    (htype : Value.lookup? "type" fields = some (.str redemptionType))
    (h : ¬ ((Value.lookup? "data" fields).getD .null).Fielded) : Crooked (.str topic) (.obj fields)

theorem message?_eq_some_iff {fields : List (String × Value)} {topic message : Value} :
    message? (.obj fields) = some (topic, message) ↔
      ∃ data inner, Value.lookup? "data" fields = some (.obj data) ∧ Value.lookup? "topic" data = some topic ∧
        Value.lookup? "message" data = some (.str inner) ∧ Json.read inner = .ok message := by
  constructor
  · intro h
    rw [message?] at h
    split at h
    · cases h
    · rename_i data hdata
      split at h
      · rename_i t inner htopic hmessage
        split at h
        · rename_i m hread
          obtain ⟨rfl, rfl⟩ := Prod.mk.inj (Option.some.inj h)
          obtain ⟨_, hobj, hdata⟩ := Value.member_eq_ok_iff.mp hdata
          obtain rfl := Value.obj.inj hobj
          obtain ⟨data, rfl, hfound⟩ := Value.member_eq_ok_iff.mp htopic
          obtain ⟨_, hobj, hmessage⟩ := Value.member_eq_ok_iff.mp hmessage
          obtain rfl := Value.obj.inj hobj
          exact ⟨data, inner, hdata, hfound, hmessage, hread⟩
        · cases h
      · cases h
  · rintro ⟨data, inner, hdata, htopic, hmessage, hread⟩
    simp only [message?, Value.member, hdata, htopic, hmessage, hread]

theorem ofMessage_otherTopic {topic : String} (ht : ¬ Text.startsWith redemptionTopics topic = true) (message : Value) :
    ofMessage (.str topic) message = .ok .nothing := by
  rw [ofMessage, if_neg ht]
  rfl

/-- An object as a message on a topic of redemptions. -/
theorem ofMessage_obj {topic : String} (ht : Text.startsWith redemptionTopics topic = true)
    (fields : List (String × Value)) :
    ofMessage (.str topic) (.obj fields) =
      if Value.lookup? "type" fields = some (.str redemptionType) then
        ((((Value.lookup? "data" fields).getD .null).orElse (.obj [])).get "redemption").map fun details =>
          .redemption (topicId topic) (details.orElse (.obj []))
      else .ok .nothing := by
  have htype : (((Value.lookup? "type" fields).getD .null).text? == some redemptionType) = true ↔
      Value.lookup? "type" fields = some (.str redemptionType) := by
    rw [beq_iff_eq, Value.text?_eq_some_iff]
    cases Value.lookup? "type" fields <;> simp
  rw [ofMessage, if_pos ht]
  show (if _ then _ else _) = _
  simp only [htype]
  rfl

/-- A crooked message is a fault of the one kind that reading it does not expect. -/
theorem ofMessage_crooked {topic message : Value} (h : Crooked topic message) :
    ∃ e : ShapeFault, e.kind = .attribute ∧ ofMessage topic message = .error e := by
  cases h with
  | topic message h =>
    refine ⟨.noOperation topic.shape "startswith", rfl, ?_⟩
    cases topic with
    | str s => cases h
    | _ => rfl
  | message ht h =>
    obtain ⟨e, hkind, htype⟩ := Value.get_of_not_isObject h "type"
    refine ⟨e, hkind, ?_⟩
    rw [ofMessage, if_pos ht, htype]
    rfl
  | data ht htype h =>
    rw [← Value.orElse_isObject_iff] at h
    obtain ⟨e, hkind, hdetails⟩ := Value.get_of_not_isObject h "redemption"
    refine ⟨e, hkind, ?_⟩
    rw [ofMessage_obj ht, if_pos htype, hdetails]
    rfl

/-- Any other message is read, and asks for a redemption or for nothing. -/
theorem ofMessage_straight {topic message : Value} (h : ¬ Crooked topic message) :
    ofMessage topic message = .ok .nothing ∨ ∃ id details, ofMessage topic message = .ok (.redemption id details) := by
  cases htext : topic.text? with
  | none => exact absurd (.topic message htext) h
  | some s =>
    obtain rfl := Value.text?_eq_some_iff.mp htext
    by_cases ht : Text.startsWith redemptionTopics s = true
    · by_cases hmessage : message.IsObject
      · obtain ⟨fields, rfl⟩ := hmessage
        rw [ofMessage_obj ht]
        by_cases htype : Value.lookup? "type" fields = some (.str redemptionType)
        · rw [if_pos htype]
          by_cases hdata : ((Value.lookup? "data" fields).getD .null).Fielded
          · obtain ⟨data, hdata⟩ := Value.orElse_isObject_iff.mpr hdata
            rw [hdata]
            exact .inr ⟨_, _, rfl⟩
          · exact absurd (.data ht htype hdata) h
        · exact .inl (if_neg htype)
      · exact absurd (.message ht hmessage) h
    · exact .inl (ofMessage_otherTopic ht message)

theorem read_carried {text : String} {topic message : Value} (h : Carries text topic message) :
    read text = ofMessage topic message := by
  obtain ⟨fields, data, inner, htext, htype, hdata, htopic, hmessage, hinner⟩ := h
  simp only [read, htext, htype, message?_eq_some_iff.mpr ⟨data, inner, hdata, htopic, hmessage, hinner⟩]

/-- The text of a frame asks for a new connection. -/
def AsksReconnect (text : String) : Prop :=
  ∃ fields, Json.read text = .ok (.obj fields) ∧ Value.lookup? "type" fields = some (.str "RECONNECT")

/-- A frame that carries no message is passed over, unless it asks for a new connection. -/
theorem read_uncarried {text : String} (h : ∀ topic message, ¬ Carries text topic message) :
    read text = .ok .nothing ∨ AsksReconnect text ∧ read text = .ok .reconnect := by
  rw [read]
  split
  · rename_i fields htext
    split
    · rename_i htype
      exact .inr ⟨⟨fields, htext, htype⟩, rfl⟩
    · rename_i htype
      split
      · rename_i topic message hmessage
        obtain ⟨data, inner, hdata, htopic, hmessage, hinner⟩ := message?_eq_some_iff.mp hmessage
        exact absurd ⟨fields, data, inner, htext, htype, hdata, htopic, hmessage, hinner⟩ (h topic message)
      · exact .inl rfl
    · exact .inl rfl
  · exact .inl rfl

/-- The text of a frame carries a crooked message. -/
def IsCrooked (text : String) : Prop := ∃ topic message, Carries text topic message ∧ Crooked topic message

theorem read_crooked {text : String} (h : IsCrooked text) :
    ∃ e : ShapeFault, e.kind = .attribute ∧ read text = .error e := by
  obtain ⟨topic, message, hcarries, hcrooked⟩ := h
  obtain ⟨e, hkind, he⟩ := ofMessage_crooked hcrooked
  exact ⟨e, hkind, (read_carried hcarries).trans he⟩

/-- All that a frame can ask for, if it is not crooked. -/
theorem read_straight {text : String} (h : ¬ IsCrooked text) :
    read text = .ok .nothing ∨ (∃ id details, read text = .ok (.redemption id details)) ∨
      AsksReconnect text ∧ read text = .ok .reconnect := by
  by_cases hcarries : ∃ topic message, Carries text topic message
  · obtain ⟨topic, message, hcarries⟩ := hcarries
    have hstraight : ¬ Crooked topic message := fun hcrooked => h ⟨topic, message, hcarries, hcrooked⟩
    rw [read_carried hcarries]
    exact (ofMessage_straight hstraight).imp_right .inl
  · exact (read_uncarried fun topic message hcarries' => hcarries ⟨topic, message, hcarries'⟩).imp_right .inr

/-- Reading is at fault if and only if the frame is crooked. -/
theorem read_error_iff {text : String} : (∃ e, read text = .error e) ↔ IsCrooked text := by
  constructor
  · rintro ⟨e, he⟩
    refine Classical.byContradiction fun h => ?_
    rcases read_straight h with hread | ⟨_, _, hread⟩ | ⟨-, hread⟩ <;> rw [hread] at he <;> cases he
  · intro h
    obtain ⟨e, -, he⟩ := read_crooked h
    exact ⟨e, he⟩

/-- The text of a frame with a message, as the stream writes it. -/
def written (topic message : Value) : String :=
  (Value.obj [("type", .str "MESSAGE"),
    ("data", .obj [("topic", topic), ("message", .str (message.write Value.compact))])]).write Value.compact

theorem carries_written {topic message : Value} (ht : topic.IsPlain) (hm : message.IsPlain) :
    Carries (written topic message) topic message := by
  refine ⟨_, _, _, Json.read_write Json.separates_compact ?_, rfl, rfl, rfl, rfl, Json.read_write Json.separates_compact hm⟩
  simp [Value.IsPlain, Value.FieldsPlain, ht]

end Stream.Frame

/-! ## The stream -/

namespace Stream

open Dialogue Redemption

/-- **Exactly crooked frames break the stream.** Whatever the text of a frame is, reading it is at fault if and
only if it carries a crooked message, and then the connection ends; any other frame is dropped or starts the
handling of a redemption, unless it asks for a new connection. The handling ends well, however its questions
are answered, if and only if the redemption can be read; otherwise it is given up before anything is asked. -/
theorem frames_are_survived_unless_crooked (text : String) :
    ((∃ e, Frame.read text = .error e) ↔ Frame.IsCrooked text) ∧
    (∀ e, Frame.read text = .error e → e.kind = .attribute) ∧
    (∀ s : Bot.Stage, Frame.IsCrooked text → s.receive text = s.closeStream.settle) ∧
    (∀ s : Bot.Stage, ¬ Frame.IsCrooked text → ¬ Frame.AsksReconnect text →
      s.receive text = s.settle ∨ ∃ program, s.receive text = (s.resume [⟨true, program⟩]).settle) ∧
    ∀ id details known, Frame.read text = .ok (.redemption id details) →
      (∀ turns a, Runs (handle known id details).outcome turns a → (∀ t ∈ turns, Accepted t) →
        (a = .ok () ↔ Readable details)) ∧
      (¬ Readable details →
        ∃ e : ShapeFault, e.kind = .attribute ∧ handle known id details = Attempt.fail (.shape e)) := by
  refine ⟨Frame.read_error_iff, fun e he => ?_, fun s hcrooked => ?_, fun s hstraight hstays => ?_,
    fun id details known _ => ⟨fun turns a hruns htaken => ends_well_iff hruns htaken,
      handle_unreadable known id⟩⟩
  · obtain ⟨e', hkind, he'⟩ := Frame.read_crooked (Frame.read_error_iff.mp ⟨e, he⟩)
    obtain rfl := Except.error.inj (he.symm.trans he')
    exact hkind
  · obtain ⟨e, -, he⟩ := Frame.read_crooked hcrooked
    rw [Bot.Stage.receive, he]
  · rcases Frame.read_straight hstraight with hread | ⟨id, details, hread⟩ | ⟨hasks, -⟩
    · left
      rw [Bot.Stage.receive, hread]
    · right
      rw [Bot.Stage.receive, hread]
      exact ⟨_, rfl⟩
    · exact absurd hasks hstays

/-- A world that knows one channel, where every reward has an action that says its own text. -/
def obliging : World surroundings
  | _, .login _ => .ok (some "chan")
  | _, .action .. => .ok (.str "thanks")
  | _, .run body .. => .ok body
  | _, .say .. => .ok ()

/-- A redemption by nobody in particular. -/
def someRedemption : Value := .obj [("reward", .obj [("title", .str "hug")]), ("user", .null)]

/-- The frame that reports it. -/
def someFrame : String :=
  Frame.written (.str "community-points-channel-v1.7")
    (.obj [("type", .str "reward-redeemed"), ("data", .obj [("redemption", someRedemption)])])

/-- A redemption that can be read is handled to its end. -/
theorem frames_are_survived_unless_crooked_hug :
    ¬ Frame.IsCrooked someFrame ∧ ¬ Frame.AsksReconnect someFrame ∧
      Frame.read someFrame = .ok (.redemption "7" someRedemption) ∧ Readable someRedemption ∧
      (hold obliging [] (handle [] "7" someRedemption).outcome).2 = .ok () := by
  obtain ⟨hfaults, -, -, -, hends⟩ := frames_are_survived_unless_crooked someFrame
  have hcarries : Frame.Carries someFrame _ _ :=
    Frame.carries_written (by simp [Value.IsPlain]) (by simp [Value.IsPlain, Value.FieldsPlain, someRedemption])
  have hread : Frame.read someFrame = .ok (.redemption "7" someRedemption) := by
    have htopic : Text.startsWith redemptionTopics "community-points-channel-v1.7" = true := by decide
    have hid : Frame.topicId "community-points-channel-v1.7" = "7" := by decide
    rw [Frame.read_carried hcarries, Frame.ofMessage_obj htopic, hid]
    exact if_pos rfl
  have hreadable : Readable someRedemption := ⟨_, rfl, .inr ⟨_, rfl⟩, .inl rfl⟩
  refine ⟨fun h => ?_, ?_, hread, hreadable, ?_⟩
  · obtain ⟨e, he⟩ := hfaults.mpr h
    rw [hread] at he
    cases he
  · rintro ⟨fields, htext, htype⟩
    obtain ⟨fields', _, _, htext', htype', -⟩ := hcarries
    obtain rfl := Value.obj.inj (Except.ok.inj (htext.symm.trans htext'))
    exact absurd (htype'.symm.trans htype) (by decide)
  · have htaken := accepted_follows (fun _ _ _ => rfl) (follows_hold obliging [] (handle [] "7" someRedemption).outcome)
    exact ((hends _ _ [] hread).1 _ _ (runs_hold obliging [] _) htaken).mpr hreadable

/-- A frame whose topic is null ends the connection, and a redemption that is a list ends its handling. -/
theorem null_topic_breaks :
    (∃ e, Frame.read (Frame.written .null (.obj [])) = .error e) ∧
      handle [] "7" (.list [.int 1]) = Attempt.fail (.shape (.noOperation .list "get")) := by
  have hcarries : Frame.Carries (Frame.written .null (.obj [])) .null (.obj []) :=
    Frame.carries_written (by simp [Value.IsPlain]) (by simp [Value.IsPlain, Value.FieldsPlain])
  exact ⟨Frame.read_error_iff.mpr ⟨_, _, hcarries, .topic _ rfl⟩, rfl⟩

end Stream

end ChannelBot
