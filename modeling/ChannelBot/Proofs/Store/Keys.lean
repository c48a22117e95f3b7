/-
Commands and redemptions as the bot sees them through the store. Under names that can be segments
of a path, asking tells exactly what is stored (`ask_command`, `ask_redeem`), what was added is
found again, and what was deleted is not (`keys_agree`). A slash in a name breaks this: what was
added under such a name is stored, but is not found (`slash_is_lost`).
-/
import ChannelBot.Proofs.Store.Exchange

namespace ChannelBot

/-! ## Answers to questions -/

namespace StoreQuery

open Server (commandValue redeemValue CommandContent)

theorem ofValue_name (p : Permission) : Permission.ofValue (.str p.name) = .ok p := by
  cases p <;> rfl

theorem decode_command {trigger channel : String} (k : CommandContent) :
    (command trigger channel).decode
        (.answered ⟨200, "application/json", (commandValue trigger k).write Value.compact⟩) =
      .ok (some ⟨.str trigger, channel, k.permission, .str k.body, .custom⟩) := by
  have hplain : (commandValue trigger k).IsPlain := Server.isPlain_newCommand trigger k.body k.permission.name
  have hread : readCommand channel (commandValue trigger k) =
      .ok (some ⟨.str trigger, channel, k.permission, .str k.body, .custom⟩) := by
    have hlevel := ofValue_name k.permission
    simp [readCommand, commandValue, Value.lookup?, Value.member, hlevel, Except.mapError]
    rfl
  rw [decode, content_ok _ hplain]
  exact hread

theorem decode_redeem {title channel : String} (action : String) :
    (redeem title channel).decode
        (.answered ⟨200, "application/json", (redeemValue title action).write Value.compact⟩) = .ok (.str action) := by
  have hplain : (redeemValue title action).IsPlain := Server.isPlain_newRedeem title action
  rw [decode, content_ok _ hplain]
  rfl

theorem isMissing_refused (q : StoreRequest) {r : HttpResponse} (h : r.status = 404) :
    content q (.answered r) = .error (.store ⟨404, reason q r, none⟩) := by
  rw [content_refused q (by rw [h]; decide), h]

theorem not_refused {q : StoreRequest} {r : HttpResponse} {v : Value} (h : content q (.answered r) = .ok v) :
    r.status < 400 := by
  rcases Int.lt_or_le r.status 400 with hlt | hle
  · exact hlt
  · rw [content_refused q hle] at h
    cases h

theorem decode_command_missing {trigger channel : String} {r : HttpResponse} (h : r.status = 404) :
    (command trigger channel).decode (.answered r) = .ok none := by
  rw [decode, isMissing_refused _ h]
  rfl

theorem decode_redeem_missing {title channel : String} {r : HttpResponse} (h : r.status = 404) :
    (redeem title channel).decode (.answered r) = .ok .null := by
  rw [decode, isMissing_refused _ h]
  rfl

end StoreQuery

/-! ## Questions about commands and redemptions -/

namespace Bot.Stage

open Server (Call CommandContent Ledger)
open Server.Route (IsName)

variable {s : Stage} {channel : String}

/-- The command of a channel under a trigger, as it is stored. -/
def command? (s : Stage) (channel trigger : String) : Option CommandContent :=
  s.ledger[ChannelName.normalize channel]?.bind (·.commands[trigger]?)

/-- The action of a channel under a title, as it is stored. -/
def redeem? (s : Stage) (channel title : String) : Option String :=
  s.ledger[ChannelName.normalize channel]?.bind (·.redeems[title]?)

theorem names_pair {a b : String} (ha : IsName a) (hb : IsName b) : ∀ n ∈ [a, b], IsName n := by
  simp only [List.forall_mem_cons, List.not_mem_nil, false_implies, implies_true, and_true]
  exact ⟨ha, hb⟩

/-- Asking for a command tells what is stored, and changes nothing. -/
theorem ask_command (hs : s.Connected) {trigger : String} (hc : IsName channel) (ht : IsName trigger) :
    (s.askStore (.command trigger channel)).2 =
        .ok ((s.command? channel trigger).map fun k => ⟨.str trigger, channel, k.permission, .str k.body, .custom⟩) ∧
      (s.askStore (.command trigger channel)).1.ledger = s.ledger ∧
      (s.askStore (.command trigger channel)).1.Connected := by
  have hasks : (StoreQuery.command trigger channel).sent.Asks (.showCommand channel trigger) :=
    StoreQuery.asks (names_pair hc ht) rfl rfl trivial
  have henter : ∀ m : Ledger, (Call.showCommand channel trigger).enter m = m.withRecord channel fun _ r =>
      m.withEntry "command not found" (fun k => (m, .ok (Server.commandValue trigger k))) r.commands[trigger]? :=
    fun _ => rfl
  exact ask_entry hs hasks henter
    (fun k? => .ok (k?.map fun k => ⟨.str trigger, channel, k.permission, .str k.body, .custom⟩))
    (fun _ => StoreQuery.decode_command_missing) StoreQuery.decode_command

/-- Asking for the action of a redemption tells what is stored, and changes nothing. -/
theorem ask_redeem (hs : s.Connected) {title : String} (hc : IsName channel) (ht : IsName title) :
    (s.askStore (.redeem title channel)).2 = .ok (Value.ofText? (s.redeem? channel title)) ∧
      (s.askStore (.redeem title channel)).1.ledger = s.ledger ∧
      (s.askStore (.redeem title channel)).1.Connected := by
  have hasks : (StoreQuery.redeem title channel).sent.Asks (.showRedeem channel title) :=
    StoreQuery.asks (names_pair hc ht) rfl rfl trivial
  have henter : ∀ m : Ledger, (Call.showRedeem channel title).enter m = m.withRecord channel fun _ r =>
      m.withEntry "redeem not found" (fun action => (m, .ok (Server.redeemValue title action))) r.redeems[title]? :=
    fun _ => rfl
  exact ask_entry hs hasks henter (fun action? => .ok (Value.ofText? action?))
    (fun _ => StoreQuery.decode_redeem_missing) StoreQuery.decode_redeem

theorem get_insert {s₁ : Stage} {m : Ledger} {name : String} {r : Server.ChannelRecord}
    (h : s₁.ledger = m.insert name r) : s₁.ledger[name]? = some r := by
  rw [h]
  exact Std.ExtTreeMap.getElem?_insert_self

/-! ## Additions -/

theorem name_single {a : String} (ha : IsName a) : ∀ n ∈ [a], IsName n := by
  simp only [List.forall_mem_cons, List.not_mem_nil, false_implies, implies_true, and_true]
  exact ha

/-- The question with which a command is added. -/
def adding (trigger body channel level : String) : StoreQuery :=
  .addCommand (.str trigger) (.str body) channel (.str level)

/-- The question with which a redemption is added. -/
def addingRedeem (title action channel : String) : StoreQuery := .addRedeem (.str title) (.str action) channel

theorem adding_refused {trigger body level : String} (r : HttpResponse) (v : Value)
    (h : (adding trigger body channel level).decode (.answered r) = .ok v) : r.status < 400 :=
  StoreQuery.not_refused (q := (adding trigger body channel level).request) h

theorem addingRedeem_refused {title action : String} (r : HttpResponse) (v : Value)
    (h : (addingRedeem title action channel).decode (.answered r) = .ok v) : r.status < 400 :=
  StoreQuery.not_refused (q := (addingRedeem title action channel).request) h

theorem adding_asks (hc : IsName channel) {trigger body level : String} {p : Server.NewCommand}
    (hcheck : (Server.Content.value (.obj (Server.newCommandFields trigger body level))).check Server.NewCommand.read =
      .valid p) : (adding trigger body channel level).sent.Asks (.addCommand channel p) := by
  have hcontent := @StoreQuery.content_payload (adding trigger body channel level) _ rfl
    (Server.isPlain_newCommand trigger body level) rfl
  exact StoreQuery.asks (name_single hc) rfl hcontent hcheck

/-- A command is added if it is well formed, its channel is registered and its trigger is free. -/
theorem addCommand_ok (hs : s.Connected) (hc : IsName channel) {trigger body : String} (p : Permission)
    (ht : trigger ≠ "") (hb : body ≠ "") {r : Server.ChannelRecord}
    (hr : s.ledger[ChannelName.normalize channel]? = some r) (hfree : trigger ∉ r.commands) :
    (∃ v, (s.askStore (adding trigger body channel p.name)).2 = .ok v) ∧
      (s.askStore (adding trigger body channel p.name)).1.ledger =
        s.ledger.insert (ChannelName.normalize channel) { r with commands := r.commands.insert trigger ⟨body, p⟩ } ∧
      (s.askStore (adding trigger body channel p.name)).1.Connected := by
  have hasks := adding_asks hc (p := ⟨trigger, body, p⟩) (Server.Content.check_newCommand.mpr ⟨ht, hb, rfl, rfl, rfl⟩)
  have henter : (Call.addCommand channel ⟨trigger, body, p⟩).enter s.ledger =
      (s.ledger.insert (ChannelName.normalize channel) { r with commands := r.commands.insert trigger ⟨body, p⟩ },
        .ok (Server.commandValue trigger ⟨body, p⟩)) := by
    simp only [Call.enter, Ledger.withRecord, hr, hfree, if_false]
  obtain ⟨hanswer, hrest⟩ := askStore_call hs hasks henter
  refine ⟨⟨Server.commandValue trigger ⟨body, p⟩, hanswer.trans ?_⟩, hrest⟩
  exact StoreQuery.content_ok (adding trigger body channel p.name).request
    (Server.isPlain_newCommand trigger body p.name)

/-- Only such a command is added. -/
theorem addCommand_inv (hs : s.Connected) (hc : IsName channel) {trigger body level : String} {v : Value}
    (h : (s.askStore (adding trigger body channel level)).2 = .ok v) :
    ∃ p : Permission, ∃ r, p.name = level ∧ trigger ≠ "" ∧ body ≠ "" ∧
      s.ledger[ChannelName.normalize channel]? = some r ∧ trigger ∉ r.commands := by
  have hcontent := @StoreQuery.content_payload (adding trigger body channel level) _ rfl
    (Server.isPlain_newCommand trigger body level) rfl
  obtain ⟨p, hcheck⟩ := askStore_valid (q := adding trigger body channel level) hs (name_single hc) adding_refused
    hcontent (fun _ => rfl) h
  obtain ⟨ht, hb, htrigger, -, hlevel⟩ := Server.Content.check_newCommand.mp hcheck
  have hasks := adding_asks hc hcheck
  cases hr : s.ledger[ChannelName.normalize channel]? with
  | none =>
    have henter : (Call.addCommand channel p).enter s.ledger = (s.ledger, .missing "channel not found") := by
      simp only [Call.enter, Ledger.withRecord, hr]
    exact absurd (askStore_status hs hasks adding_refused henter h) (by decide)
  | some r =>
    refine ⟨p.permission, r, hlevel, ht, hb, rfl, fun htaken => ?_⟩
    have henter : (Call.addCommand channel p).enter s.ledger = (s.ledger, .taken "command already exists") := by
      simp only [Call.enter, Ledger.withRecord, hr, htrigger, htaken, if_true]
    exact absurd (askStore_status hs hasks adding_refused henter h) (by decide)

theorem addingRedeem_asks (hc : IsName channel) {title action : String} {p : Server.NewRedeem}
    (hcheck : (Server.Content.value (.obj (Server.newRedeemFields title action))).check Server.NewRedeem.read =
      .valid p) : (addingRedeem title action channel).sent.Asks (.addRedeem channel p) := by
  have hcontent := @StoreQuery.content_payload (addingRedeem title action channel) _ rfl
    (Server.isPlain_newRedeem title action) rfl
  exact StoreQuery.asks (name_single hc) rfl hcontent hcheck

/-- A redemption is added if it is well formed, its channel is registered and its title is free. -/
theorem addRedeem_ok (hs : s.Connected) (hc : IsName channel) {title action : String} (ht : title ≠ "")
    (ha : action ≠ "") {r : Server.ChannelRecord} (hr : s.ledger[ChannelName.normalize channel]? = some r)
    (hfree : title ∉ r.redeems) :
    (∃ v, (s.askStore (addingRedeem title action channel)).2 = .ok v) ∧
      (s.askStore (addingRedeem title action channel)).1.ledger =
        s.ledger.insert (ChannelName.normalize channel) { r with redeems := r.redeems.insert title action } ∧
      (s.askStore (addingRedeem title action channel)).1.Connected := by
  have hasks := addingRedeem_asks hc (Server.Content.check_newRedeem.mpr ⟨ht, ha, rfl⟩)
  have henter : (Call.addRedeem channel ⟨title, action⟩).enter s.ledger =
      (s.ledger.insert (ChannelName.normalize channel) { r with redeems := r.redeems.insert title action },
        .ok (Server.redeemValue title action)) := by
    simp only [Call.enter, Ledger.withRecord, hr, hfree, if_false]
  obtain ⟨hanswer, hrest⟩ := askStore_call hs hasks henter
  refine ⟨⟨Server.redeemValue title action, hanswer.trans ?_⟩, hrest⟩
  exact StoreQuery.content_ok (addingRedeem title action channel).request (Server.isPlain_newRedeem title action)

/-- Only such a redemption is added. -/
theorem addRedeem_inv (hs : s.Connected) (hc : IsName channel) {title action : String} {v : Value}
    (h : (s.askStore (addingRedeem title action channel)).2 = .ok v) :
    ∃ r, title ≠ "" ∧ action ≠ "" ∧ s.ledger[ChannelName.normalize channel]? = some r ∧ title ∉ r.redeems := by
  have hcontent := @StoreQuery.content_payload (addingRedeem title action channel) _ rfl
    (Server.isPlain_newRedeem title action) rfl
  obtain ⟨p, hcheck⟩ := askStore_valid (q := addingRedeem title action channel) hs (name_single hc)
    addingRedeem_refused hcontent (fun _ => rfl) h
  obtain ⟨ht, ha, rfl⟩ := Server.Content.check_newRedeem.mp hcheck
  have hasks := addingRedeem_asks hc hcheck
  cases hr : s.ledger[ChannelName.normalize channel]? with
  | none =>
    have henter : (Call.addRedeem channel ⟨title, action⟩).enter s.ledger =
        (s.ledger, .missing "channel not found") := by
      simp only [Call.enter, Ledger.withRecord, hr]
    exact absurd (askStore_status hs hasks addingRedeem_refused henter h) (by decide)
  | some r =>
    refine ⟨r, ht, ha, rfl, fun htaken => ?_⟩
    have henter : (Call.addRedeem channel ⟨title, action⟩).enter s.ledger =
        (s.ledger, .taken "redeem already exists") := by
      simp only [Call.enter, Ledger.withRecord, hr, htaken, if_true]
    exact absurd (askStore_status hs hasks addingRedeem_refused henter h) (by decide)

/-! ## Deletions -/

theorem content_done (q : StoreRequest) :
    StoreQuery.content q (.answered ⟨200, "application/json",
      (Value.obj [("success", .bool true)]).write Value.compact⟩) = .ok (.obj [("success", .bool true)]) :=
  StoreQuery.content_ok q (by simp [Value.IsPlain, Value.FieldsPlain])

/-- A command that is stored can be deleted. -/
theorem deleteCommand_ok (hs : s.Connected) {trigger : String} (hc : IsName channel) (ht : IsName trigger)
    {r : Server.ChannelRecord} (hr : s.ledger[ChannelName.normalize channel]? = some r) {k : CommandContent}
    (hk : r.commands[trigger]? = some k) :
    (∃ v, (s.askStore (.deleteCommand trigger channel)).2 = .ok v) ∧
      (s.askStore (.deleteCommand trigger channel)).1.ledger =
        s.ledger.insert (ChannelName.normalize channel) { r with commands := r.commands.erase trigger } ∧
      (s.askStore (.deleteCommand trigger channel)).1.Connected := by
  have hasks : (StoreQuery.deleteCommand trigger channel).sent.Asks (.removeCommand channel trigger) :=
    StoreQuery.asks (names_pair hc ht) rfl rfl trivial
  have henter : (Call.removeCommand channel trigger).enter s.ledger =
      (s.ledger.insert (ChannelName.normalize channel) { r with commands := r.commands.erase trigger }, .done) := by
    simp only [Call.enter, Ledger.withRecord, hr, hk, Ledger.withEntry]
  obtain ⟨hanswer, hrest⟩ := askStore_call hs hasks henter
  exact ⟨⟨_, hanswer.trans (content_done (StoreQuery.deleteCommand trigger channel).request)⟩, hrest⟩

/-- A redemption that is stored can be deleted. -/
theorem deleteRedeem_ok (hs : s.Connected) {title : String} (hc : IsName channel) (ht : IsName title)
    {r : Server.ChannelRecord} (hr : s.ledger[ChannelName.normalize channel]? = some r) {action : String}
    (ha : r.redeems[title]? = some action) :
    (∃ v, (s.askStore (.deleteRedeem title channel)).2 = .ok v) ∧
      (s.askStore (.deleteRedeem title channel)).1.ledger =
        s.ledger.insert (ChannelName.normalize channel) { r with redeems := r.redeems.erase title } ∧
      (s.askStore (.deleteRedeem title channel)).1.Connected := by
  have hasks : (StoreQuery.deleteRedeem title channel).sent.Asks (.removeRedeem channel title) :=
    StoreQuery.asks (names_pair hc ht) rfl rfl trivial
  have henter : (Call.removeRedeem channel title).enter s.ledger =
      (s.ledger.insert (ChannelName.normalize channel) { r with redeems := r.redeems.erase title }, .done) := by
    simp only [Call.enter, Ledger.withRecord, hr, ha, Ledger.withEntry]
  obtain ⟨hanswer, hrest⟩ := askStore_call hs hasks henter
  exact ⟨⟨_, hanswer.trans (content_done (StoreQuery.deleteRedeem title channel).request)⟩, hrest⟩

/-! ## A channel to try -/

/-- A bot beside a backend that has just started. -/
def fresh : Stage where
  setup := ⟨⟨.ofConfigured none, .defaults⟩, {}⟩
  memory := ⟨.str "cmdbot", "1", .str "tok", .str "ref", [], .bool true, false, [], [], false, []⟩
  outbound := { limit := queueLimit, delay := sendDelay }

/-- The same after the bot has registered a channel. -/
def registered : Stage := (fresh.askStore (.addChannel (.str "chan") .null)).1

theorem fresh_connected : fresh.Connected := ⟨.start rfl, rfl⟩

theorem registered_connected :
    registered.Connected ∧ registered.ledger[ChannelName.normalize "chan"]? = some { sigil := "!" } := by
  have hplain : (Value.obj [("channel_name", .str "chan")]).IsPlain := by simp [Value.IsPlain, Value.FieldsPlain]
  have hcontent := @StoreQuery.content_payload (.addChannel (.str "chan") .null) _ rfl hplain rfl
  have hcheck : (Server.Content.value (.obj [("channel_name", .str "chan")])).check Server.NewChannel.read =
      .valid ⟨"chan", "!"⟩ := Server.Content.check_newChannel (by decide)
  have hasks : (StoreQuery.addChannel (.str "chan") .null).sent.Asks (.addChannel ⟨"chan", "!"⟩) :=
    StoreQuery.asks (fun _ hn => absurd hn List.not_mem_nil) rfl hcontent hcheck
  have hempty : fresh.ledger = ∅ := rfl
  have henter : (Call.addChannel ⟨"chan", "!"⟩).enter fresh.ledger =
      ((∅ : Ledger).insert (ChannelName.normalize "chan") { sigil := "!" },
        .ok (Ledger.channelValue (ChannelName.normalize "chan") "!")) := by
    simp only [Call.enter, hempty, Std.ExtTreeMap.not_mem_empty, if_false]
  obtain ⟨-, hledger, hconnected⟩ := askStore_call fresh_connected hasks henter
  exact ⟨hconnected, get_insert hledger⟩

/-! ## Agreement -/

/-- **Under names without slashes the bot and the store agree on every key.** A question reaches the
endpoint that is meant exactly if its names are not empty and hold no slashes. Under such names the
bot is told exactly what is stored; what it was able to add it finds, and can delete. -/
theorem keys_agree (q : StoreQuery) (s : Stage) (channel trigger title : String) :
    (∀ r : Server.Request, r.method = q.request.method → r.target = q.request.path →
      ((Server.Route.choices r.path).lookup r.method = some q.endpoint ↔ ∀ n ∈ q.endpoint.names, IsName n)) ∧
    (s.Connected → IsName channel → IsName trigger →
      (s.askStore (.command trigger channel)).2 =
        .ok ((s.command? channel trigger).map fun k => ⟨.str trigger, channel, k.permission, .str k.body, .custom⟩) ∧
      ∀ body level v, (s.askStore (adding trigger body channel level)).2 = .ok v →
        let s₁ := (s.askStore (adding trigger body channel level)).1
        let s₂ := (s₁.askStore (.deleteCommand trigger channel)).1
        (∃ p : Permission, p.name = level ∧
          (s₁.askStore (.command trigger channel)).2 = .ok (some ⟨.str trigger, channel, p, .str body, .custom⟩)) ∧
        (∃ w, (s₁.askStore (.deleteCommand trigger channel)).2 = .ok w) ∧
        (s₂.askStore (.command trigger channel)).2 = .ok none) ∧
    (s.Connected → IsName channel → IsName title →
      (s.askStore (.redeem title channel)).2 = .ok (Value.ofText? (s.redeem? channel title)) ∧
      ∀ action v, (s.askStore (addingRedeem title action channel)).2 = .ok v →
        let s₁ := (s.askStore (addingRedeem title action channel)).1
        let s₂ := (s₁.askStore (.deleteRedeem title channel)).1
        (s₁.askStore (.redeem title channel)).2 = .ok (.str action) ∧
        (∃ w, (s₁.askStore (.deleteRedeem title channel)).2 = .ok w) ∧
        (s₂.askStore (.redeem title channel)).2 = .ok .null) := by
  refine ⟨fun r => StoreQuery.reaches_iff, ?_, ?_⟩
  · intro hs hc ht
    refine ⟨(ask_command hs hc ht).1, fun body level v hv => ?_⟩
    obtain ⟨p, r, rfl, htrigger, hbody, hr, hfree⟩ := addCommand_inv hs hc hv
    obtain ⟨-, hledger, hs₁⟩ := addCommand_ok hs hc p htrigger hbody hr hfree
    have hr₁ := get_insert hledger
    have hk₁ : (r.commands.insert trigger ⟨body, p⟩)[trigger]? = some ⟨body, p⟩ := Std.ExtTreeMap.getElem?_insert_self
    obtain ⟨hdeleted, hledger₂, hs₂⟩ := deleteCommand_ok hs₁ hc ht hr₁ hk₁
    have hr₂ := get_insert hledger₂
    refine ⟨⟨p, rfl, ?_⟩, hdeleted, ?_⟩
    · rw [(ask_command hs₁ hc ht).1, command?, hr₁, Option.bind_some, hk₁]
      rfl
    · rw [(ask_command hs₂ hc ht).1, command?, hr₂, Option.bind_some, Std.ExtTreeMap.getElem?_erase_self]
      rfl
  · intro hs hc ht
    refine ⟨(ask_redeem hs hc ht).1, fun action v hv => ?_⟩
    obtain ⟨r, htitle, haction, hr, hfree⟩ := addRedeem_inv hs hc hv
    obtain ⟨-, hledger, hs₁⟩ := addRedeem_ok hs hc htitle haction hr hfree
    have hr₁ := get_insert hledger
    have ha₁ : (r.redeems.insert title action)[title]? = some action := Std.ExtTreeMap.getElem?_insert_self
    obtain ⟨hdeleted, hledger₂, hs₂⟩ := deleteRedeem_ok hs₁ hc ht hr₁ ha₁
    have hr₂ := get_insert hledger₂
    refine ⟨?_, hdeleted, ?_⟩
    · rw [(ask_redeem hs₁ hc ht).1, redeem?, hr₁, Option.bind_some, ha₁]
      rfl
    · rw [(ask_redeem hs₂ hc ht).1, redeem?, hr₂, Option.bind_some, Std.ExtTreeMap.getElem?_erase_self]
      rfl

/-- The theorem at a trigger and a title. -/
theorem keys_agree_registered :
    registered.Connected ∧ IsName "chan" ∧ IsName "a b%" ∧
      (∃ v, (registered.askStore (adding "a b%" "hi" "chan" Permission.everyone.name)).2 = .ok v) ∧
      (((registered.askStore (adding "a b%" "hi" "chan" Permission.everyone.name)).1.askStore
          (.command "a b%" "chan")).2 =
        .ok (some ⟨.str "a b%", "chan", .everyone, .str "hi", .custom⟩)) ∧
      (∃ v, (registered.askStore (addingRedeem "a b%" "hi" "chan")).2 = .ok v) ∧
      (((registered.askStore (addingRedeem "a b%" "hi" "chan")).1.askStore (.redeem "a b%" "chan")).2 =
        .ok (.str "hi")) := by
  obtain ⟨hs, hr⟩ := registered_connected
  have hc : IsName "chan" := by decide
  have ht : IsName "a b%" := by decide
  obtain ⟨⟨v, hv⟩, -⟩ := addCommand_ok hs hc .everyone (by decide : "a b%" ≠ "") (by decide : "hi" ≠ "") hr
    Std.ExtTreeMap.not_mem_empty
  obtain ⟨⟨w, hw⟩, -⟩ := addRedeem_ok hs hc (by decide : "a b%" ≠ "") (by decide : "hi" ≠ "") hr
    Std.ExtTreeMap.not_mem_empty
  obtain ⟨-, hcommands, hredeems⟩ := keys_agree (.command "a b%" "chan") registered "chan" "a b%" "a b%"
  obtain ⟨⟨p, hp, hfound⟩, -⟩ := (hcommands hs hc ht).2 "hi" Permission.everyone.name v hv
  refine ⟨hs, hc, ht, ⟨v, hv⟩, ?_, ⟨w, hw⟩, ((hredeems hs hc ht).2 "hi" w hw).1⟩
  cases p <;> first
    | exact hfound
    | exact absurd hp (by decide)

/-! ## Slashes -/

/-- Nothing is found under a trigger with a slash inside. -/
theorem ask_slash {s : Stage} (hs : s.Connected) : (s.askStore (.command "a/b" "chan")).2 = .ok none := by
  have hpath : (StoreQuery.command "a/b" "chan").sent.path = "/channels/chan/commands/a/b" :=
    (StoreQuery.path_eq rfl).trans (by decide)
  have hchoices : Server.Route.choices "/channels/chan/commands/a/b" = [] := by decide
  have helsewhere : Server.Route.elsewhere? "/channels/chan/commands/a/b" = none := by decide
  have hhandle : s.backend.handle s.moment [] (StoreQuery.command "a/b" "chan").sent =
      (s.backend, { response := .missing "Not Found" }) := by
    unfold Server.Backend.handle
    rw [hpath, hchoices, helsewhere]
  rw [askStore_eq hs.clear hhandle fun _ => Server.Body.noConfusion]
  exact @StoreQuery.decode_command_missing _ _ (Server.Response.missing "Not Found").http rfl

/-- A command under a trigger with a slash is added and stored, and yet the bot does not find it. -/
theorem slash_is_lost :
    let s := (registered.askStore (adding "a/b" "hi" "chan" Permission.everyone.name)).1
    registered.Connected ∧ (∃ v, (registered.askStore (adding "a/b" "hi" "chan" Permission.everyone.name)).2 = .ok v) ∧
      s.command? "chan" "a/b" = some ⟨"hi", .everyone⟩ ∧ (s.askStore (.command "a/b" "chan")).2 = .ok none := by
  obtain ⟨hs, hr⟩ := registered_connected
  have hc : IsName "chan" := by decide
  obtain ⟨hadded, hledger, hs'⟩ := addCommand_ok hs hc .everyone (by decide : "a/b" ≠ "") (by decide : "hi" ≠ "") hr
    Std.ExtTreeMap.not_mem_empty
  refine ⟨hs, hadded, ?_, ask_slash hs'⟩
  rw [command?, get_insert hledger]
  exact Std.ExtTreeMap.getElem?_insert_self

end Bot.Stage

end ChannelBot
