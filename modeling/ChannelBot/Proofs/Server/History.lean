/-
Every call on sound tables does to their ledger what it does to any ledger, with the same answer
(`Call.act_ledger`), so a whole history of requests, from empty tables on, is answered as the
ledger answers it (`history_keeps_ledger`).
-/
import ChannelBot.Proofs.Server.Content
import ChannelBot.Proofs.Server.Ledger

namespace ChannelBot.Server

open Std (ExtTreeMap)

/-! ## One call -/

/-- Tables and an answer stand for a ledger and the same answer. -/
def Agrees (x : Tables × Response) (y : Ledger × Response) : Prop := x.1.ledger = y.1 ∧ x.2 = y.2

namespace Tables

variable {t : Tables}

theorem Sound.withChannel_agrees (h : t.Sound) (name : String) {use : ChannelRow → Tables × Response}
    {enter : String → ChannelRecord → Ledger × Response}
    (huse : ∀ c, t.row? (ChannelName.normalize name) = some c →
      Agrees (use c) (enter (ChannelName.normalize name) (t.record c))) :
    Agrees (t.withChannel name use) (t.ledger.withRecord name enter) := by
  rw [h.withChannel_eq, Ledger.withRecord, getElem?_ledger]
  cases hrow : t.row? (ChannelName.normalize name) with
  | none => exact ⟨rfl, rfl⟩
  | some c => exact huse c hrow

theorem Sound.writeTarget_agrees (h : t.Sound) {name : String} {c : ChannelRow} (hc : t.row? name = some c)
    (user : String) (change : TargetFlags → TargetFlags) :
    Agrees (t.writeTarget c.id user change)
      (t.ledger.putTarget name (t.record c) (Text.lower user)
        (change (((t.record c).targets[Text.lower user]?).getD ⟨false, false⟩))) := by
  rw [h.writeTarget_eq, Ledger.putTarget, record, OwnedRow.getElem?_toMap]
  cases hget : OwnedRow.get? c.id (Text.lower user) t.targets with
  | some f =>
    refine ⟨?_, rfl⟩
    rw [Option.getD_some, ← OwnedRow.toMap_update hget]
    exact h.ledger_setTargets hc fun owner key ho => OwnedRow.get?_update_other ho _ key _ t.targets
  | none =>
    refine ⟨?_, rfl⟩
    rw [Option.getD_none, ← OwnedRow.toMap_append_single hget]
    exact h.ledger_setTargets hc fun owner key ho => OwnedRow.get?_append_other ho key t.targets

end Tables

/-- A call does to the ledger of sound tables what it does to any ledger. -/
theorem Call.act_ledger {t : Tables} (h : t.Sound) (c : Call) : Agrees (c.act t) (c.enter t.ledger) := by
  cases c with
  | listChannels =>
    refine ⟨rfl, ?_⟩
    rw [act, enter, Tables.listChannels, ← h.sorted_channels, List.map_map]
    rfl
  | addChannel p =>
    simp only [act, enter, h.addChannel_eq, Tables.mem_ledger]
    cases hrow : t.row? (ChannelName.normalize p.name) with
    | some c => exact ⟨rfl, rfl⟩
    | none => exact ⟨h.ledger_appendChannel (Tables.nextId_not_mem t) hrow, rfl⟩
  | showChannel n =>
    refine h.withChannel_agrees n fun c hc => ⟨rfl, ?_⟩
    rw [← (Tables.row?_mem hc).2]
    rfl
  | changeSigil n s =>
    refine h.withChannel_agrees n fun c hc => ⟨h.ledger_setSigil hc s, ?_⟩
    rw [← (Tables.row?_mem hc).2]
    rfl
  | removeChannel n => exact h.withChannel_agrees n fun c hc => ⟨h.ledger_eraseChannel hc, rfl⟩
  | listCommands n =>
    refine h.withChannel_agrees n fun c _ => ⟨rfl, ?_⟩
    rw [Tables.sorted_keys h.commands]
    rfl
  | addCommand n p =>
    refine h.withChannel_agrees n fun c hc => ?_
    simp only [OwnedRow.insert?_eq, Tables.record, OwnedRow.mem_toMap]
    cases hget : OwnedRow.get? c.id p.trigger t.commands with
    | some _ => exact ⟨rfl, rfl⟩
    | none =>
      refine ⟨?_, rfl⟩
      simp only [Option.isSome_none, Bool.false_eq_true, if_false, ← OwnedRow.toMap_append_single hget]
      exact h.ledger_setCommands hc fun owner key ho => OwnedRow.get?_append_other ho key t.commands
  | showCommand n k =>
    rw [act, Tables.showCommand, h.withCommand_eq]
    refine h.withChannel_agrees n fun c _ => ?_
    rw [Tables.record, OwnedRow.getElem?_toMap]
    cases OwnedRow.get? c.id k t.commands <;> exact ⟨rfl, rfl⟩
  | removeCommand n k =>
    rw [act, Tables.removeCommand, h.withCommand_eq]
    refine h.withChannel_agrees n fun c hc => ?_
    rw [Tables.record, OwnedRow.getElem?_toMap, ← OwnedRow.toMap_erase]
    cases OwnedRow.get? c.id k t.commands with
    | none => exact ⟨rfl, rfl⟩
    | some _ =>
      exact ⟨h.ledger_setCommands hc fun owner key ho => OwnedRow.get?_erase_other ho k key t.commands, rfl⟩
  | addRedeem n p =>
    refine h.withChannel_agrees n fun c hc => ?_
    simp only [OwnedRow.insert?_eq, Tables.record, OwnedRow.mem_toMap]
    cases hget : OwnedRow.get? c.id p.title t.redeems with
    | some _ => exact ⟨rfl, rfl⟩
    | none =>
      refine ⟨?_, rfl⟩
      simp only [Option.isSome_none, Bool.false_eq_true, if_false, ← OwnedRow.toMap_append_single hget]
      exact h.ledger_setRedeems hc fun owner key ho => OwnedRow.get?_append_other ho key t.redeems
  | showRedeem n k =>
    rw [act, Tables.showRedeem, h.withRedeem_eq]
    refine h.withChannel_agrees n fun c _ => ?_
    rw [Tables.record, OwnedRow.getElem?_toMap]
    cases OwnedRow.get? c.id k t.redeems <;> exact ⟨rfl, rfl⟩
  | removeRedeem n k =>
    rw [act, Tables.removeRedeem, h.withRedeem_eq]
    refine h.withChannel_agrees n fun c hc => ?_
    rw [Tables.record, OwnedRow.getElem?_toMap, ← OwnedRow.toMap_erase]
    cases OwnedRow.get? c.id k t.redeems with
    | none => exact ⟨rfl, rfl⟩
    | some _ =>
      exact ⟨h.ledger_setRedeems hc fun owner key ho => OwnedRow.get?_erase_other ho k key t.redeems, rfl⟩
  | addTarget n u => exact h.withChannel_agrees n fun c hc => h.writeTarget_agrees hc u _
  | showTarget n u =>
    rw [act, h.showTarget_eq]
    refine h.withChannel_agrees n fun c _ => ?_
    rw [Tables.record, OwnedRow.getElem?_toMap]
    cases OwnedRow.get? c.id (Text.lower u) t.targets <;> exact ⟨rfl, rfl⟩
  | changeTarget n u p => exact h.withChannel_agrees n fun c hc => h.writeTarget_agrees hc u _

/-! ## What a call does to a ledger -/

namespace Ledger

variable {m : Ledger} {x : Ledger × Response}

/-- An answer of the three kinds that calls have; only the record under this name may have changed. -/
structure Orderly (m : Ledger) (name : Option String) (x : Ledger × Response) : Prop where
  status : x.2.status ∈ [200, 404, 409]
  others : ∀ n, name ≠ some n → x.1[n]? = m[n]?

theorem Orderly.same {name : Option String} {r : Response} (h : r.status ∈ [200, 404, 409]) :
    m.Orderly name (m, r) := ⟨h, fun _ _ => rfl⟩

theorem Orderly.insert (name : String) (r : ChannelRecord) (v : Value) :
    m.Orderly (some name) (m.insert name r, .ok v) := by
  refine ⟨List.mem_cons_self, fun n hn => ?_⟩
  show (m.insert name r)[n]? = m[n]?
  rw [ExtTreeMap.getElem?_insert, if_neg]
  simpa using hn

theorem Orderly.erase (name : String) : m.Orderly (some name) (m.erase name, .done) := by
  refine ⟨List.mem_cons_self, fun n hn => ?_⟩
  show (m.erase name)[n]? = m[n]?
  rw [ExtTreeMap.getElem?_erase, if_neg]
  simpa using hn

theorem Orderly.missing {name : Option String} (reason : String) : m.Orderly name (m, .missing reason) :=
  .same (by simp [Response.missing, Response.refusal])

theorem Orderly.taken {name : Option String} (reason : String) : m.Orderly name (m, .taken reason) :=
  .same (by simp [Response.taken, Response.refusal])

theorem Orderly.withRecord {channel : String} {use : String → ChannelRecord → Ledger × Response}
    (huse : ∀ r, m.Orderly (some (ChannelName.normalize channel)) (use (ChannelName.normalize channel) r)) :
    m.Orderly (some (ChannelName.normalize channel)) (m.withRecord channel use) := by
  rw [Ledger.withRecord]
  cases m[ChannelName.normalize channel]? with
  | none => exact .missing _
  | some r => exact huse r

theorem Orderly.withEntry {α : Type} {name : Option String} {missing : String} {use : α → Ledger × Response}
    (huse : ∀ a, m.Orderly name (use a)) (o : Option α) : m.Orderly name (m.withEntry missing use o) := by
  cases o with
  | none => exact .missing _
  | some a => exact huse a

end Ledger

open Ledger in
theorem Call.enter_orderly (m : Ledger) (c : Call) : m.Orderly c.channel? (c.enter m) := by
  cases c with
  | listChannels => exact .same List.mem_cons_self
  | addChannel p =>
    simp only [enter, channel?]
    split
    · exact .taken _
    · exact .insert _ _ _
  | showChannel n | listCommands n =>
    rw [enter, channel?]
    exact .withRecord fun _ => .same List.mem_cons_self
  | changeSigil n s =>
    rw [enter, channel?]
    exact .withRecord fun _ => .insert _ _ _
  | removeChannel n =>
    rw [enter, channel?]
    exact .withRecord fun _ => .erase _
  | addCommand n p | addRedeem n p =>
    simp only [enter, channel?]
    refine .withRecord fun r => ?_
    split
    · exact .taken _
    · exact .insert _ _ _
  | showCommand n k | showRedeem n k | showTarget n u =>
    rw [enter, channel?]
    exact .withRecord fun r => .withEntry (fun _ => .same List.mem_cons_self) _
  | removeCommand n k | removeRedeem n k =>
    rw [enter, channel?]
    exact .withRecord fun r => .withEntry (fun _ => .insert _ _ _) _
  | addTarget n u | changeTarget n u p =>
    rw [enter, channel?]
    exact .withRecord fun r => .insert _ _ _

/-! ## Histories -/

/-- A request on its way to the backend: when it comes, and what those answer whom the backend may ask. -/
structure Delivery where
  now : Moment
  answers : List HttpOutcome
  request : Request

/-- What a backend answers to a request. -/
def Backend.answer (b : Backend) (d : Delivery) : Response := (b.handle d.now d.answers d.request).2.response

/-- What a backend answers to requests one after another, and what it holds then. -/
def Backend.answerAll (b : Backend) : List Delivery → Backend × List Response
  | [] => (b, [])
  | d :: rest =>
    let first := b.handle d.now d.answers d.request
    let others := first.1.answerAll rest
    (others.1, first.2.response :: others.2)

/-- What calls one after another do to a ledger, and their answers. -/
def Ledger.enterAll (m : Ledger) : List Call → Ledger × List Response
  | [] => (m, [])
  | c :: rest =>
    let first := c.enter m
    let others := Ledger.enterAll first.1 rest
    (others.1, first.2 :: others.2)

theorem Backend.answerAll_cons (b : Backend) (d : Delivery) (rest : List Delivery) :
    b.answerAll (d :: rest) =
      (((b.handle d.now d.answers d.request).1.answerAll rest).1,
        (b.handle d.now d.answers d.request).2.response ::
          ((b.handle d.now d.answers d.request).1.answerAll rest).2) := rfl

theorem Ledger.enterAll_cons (m : Ledger) (c : Call) (rest : List Call) :
    m.enterAll (c :: rest) =
      ((Ledger.enterAll (c.enter m).1 rest).1, (c.enter m).2 :: (Ledger.enterAll (c.enter m).1 rest).2) := rfl

/-- What one step of a history is like. -/
structure Step (c : Call) (b b' : Backend) (r : Response) : Prop where
  /-- Success, nothing there, or something there already. -/
  status : r.status ∈ [200, 404, 409]
  refused : r.status ≠ 200 → b' = b
  others : ∀ n, c.channel? ≠ some n → b'.tables.ledger[n]? = b.tables.ledger[n]?
  channels : c = .listChannels → ∃ shown : List (String × String), shown.Pairwise (fun e f => e.1 < f.1) ∧
    r = .ok (.list (shown.map fun e => Ledger.channelValue e.1 e.2))
  commands : ∀ n, c = .listCommands n → r.status = 200 →
    ∃ triggers : List String, triggers.Pairwise (· < ·) ∧ r = .ok (.list (triggers.map .str))

theorem Call.enter_listChannels (m : Ledger) :
    ∃ shown : List (String × String), shown.Pairwise (fun e f => e.1 < f.1) ∧
      (Call.listChannels.enter m).2 = .ok (.list (shown.map fun e => Ledger.channelValue e.1 e.2)) := by
  refine ⟨m.toList.map fun e => (e.1, e.2.sigil), List.pairwise_map.mpr (Tables.toList_ascending m), ?_⟩
  rw [List.map_map]
  rfl

theorem Call.enter_listCommands {m : Ledger} {n : String}
    (hok : ((Call.listCommands n).enter m).2.status = 200) :
    ∃ triggers : List String, triggers.Pairwise (· < ·) ∧
      ((Call.listCommands n).enter m).2 = .ok (.list (triggers.map .str)) := by
  rw [enter, Ledger.withRecord] at hok ⊢
  cases hr : m[ChannelName.normalize n]? with
  | none =>
    rw [hr] at hok
    cases hok
  | some r => exact ⟨r.commands.keys, Tables.keys_ascending _, rfl⟩

namespace Backend

variable {b : Backend} {d : Delivery} {c : Call}

theorem handle_tables (h : d.request.Asks c) :
    (b.handle d.now d.answers d.request).1.tables = (c.act b.tables).1 ∧
      (b.handle d.now d.answers d.request).2.response = (c.act b.tables).2 := by
  rw [b.handle_call d.now d.answers h]
  exact ⟨rfl, rfl⟩

/-- A call is a step of the ledger. -/
theorem handle_step (hs : b.tables.Sound) (h : d.request.Asks c) :
    Step c b (b.handle d.now d.answers d.request).1 (b.handle d.now d.answers d.request).2.response := by
  obtain ⟨hledger, hanswer⟩ := c.act_ledger hs
  have horderly := c.enter_orderly b.tables.ledger
  rw [b.handle_call d.now d.answers h]
  refine ⟨?_, fun hstatus => ?_, fun n hn => ?_, ?_, ?_⟩
  · show (c.act b.tables).2.status ∈ _
    rw [hanswer]
    exact horderly.status
  · have htables := c.act_refused b.tables hstatus
    show { b with tables := (c.act b.tables).1 } = b
    rw [htables]
  · show (c.act b.tables).1.ledger[n]? = _
    rw [hledger]
    exact horderly.others n hn
  · intro heq
    subst heq
    show ∃ shown : List (String × String), _ ∧ (Call.listChannels.act b.tables).2 = _
    rw [hanswer]
    exact Call.enter_listChannels _
  · rintro n rfl hok
    show ∃ triggers : List String, _ ∧ ((Call.listCommands n).act b.tables).2 = _
    rw [hanswer]
    exact Call.enter_listCommands (hanswer ▸ hok)

/-- A run of calls is a run of the ledger, and ends with sound tables. -/
theorem answerAll_agrees {b : Backend} (hs : b.tables.Sound) {history : List (Delivery × Call)}
    (hasks : ∀ e ∈ history, e.1.request.Asks e.2) :
    (b.answerAll (history.map (·.1))).1.tables.Sound ∧
      (b.answerAll (history.map (·.1))).1.tables.ledger =
        (b.tables.ledger.enterAll (history.map (·.2))).1 ∧
      (b.answerAll (history.map (·.1))).2 = (b.tables.ledger.enterAll (history.map (·.2))).2 := by
  induction history generalizing b with
  | nil => exact ⟨hs, rfl, rfl⟩
  | cons e rest ih =>
    obtain ⟨d, c⟩ := e
    have hfirst : d.request.Asks c := hasks (d, c) List.mem_cons_self
    obtain ⟨htables, hresponse⟩ := handle_tables (b := b) hfirst
    obtain ⟨hledger, hanswer⟩ := c.act_ledger hs
    have hs' : (b.handle d.now d.answers d.request).1.tables.Sound := by
      rw [htables]
      exact c.act_sound hs
    obtain ⟨ihs, ihledger, ihanswers⟩ := ih hs' fun e he => hasks e (List.mem_cons_of_mem _ he)
    rw [htables, hledger] at ihledger ihanswers
    rw [List.map_cons, List.map_cons, answerAll_cons, Ledger.enterAll_cons, hresponse, hanswer, ihanswers]
    exact ⟨ihs, ihledger, rfl⟩

end Backend

/-- **A backend that starts without rows answers every history of calls as the ledger does**, and
each step of it is orderly: a refused call changes nothing, no call touches another channel or
fails, and listings ascend. -/
theorem history_keeps_ledger {b : Backend} (hb : b.tables = {}) {history : List (Delivery × Call)}
    (hasks : ∀ e ∈ history, e.1.request.Asks e.2) :
    (b.answerAll (history.map (·.1))).2 = (Ledger.enterAll ∅ (history.map (·.2))).2 ∧
      (b.answerAll (history.map (·.1))).1.tables.ledger = (Ledger.enterAll ∅ (history.map (·.2))).1 ∧
      ∀ before d c after, history = before ++ (d, c) :: after →
        let b₁ := (b.answerAll (before.map (·.1))).1
        let x := b₁.handle d.now d.answers d.request
        Step c b₁ x.1 x.2.response := by
  have hs : b.tables.Sound := by
    rw [hb]
    exact .empty
  have hledger : b.tables.ledger = ∅ := by
    rw [hb]
    rfl
  obtain ⟨-, hfinal, hanswers⟩ := b.answerAll_agrees hs hasks
  rw [hledger] at hfinal hanswers
  refine ⟨hanswers, hfinal, ?_⟩
  intro before d c after heq
  subst heq
  have hbefore := b.answerAll_agrees hs fun e he => hasks e (List.mem_append_left _ he)
  exact Backend.handle_step hbefore.1 (hasks (d, c) (List.mem_append_right _ List.mem_cons_self))

/-! ## A channel registered twice -/

/-- A request to register a channel. -/
def registration (name : String) : Request where
  method := "POST"
  target := "/channels"
  token := some adminToken
  body := some ((Value.obj [("channel_name", .str name)]).write Value.spaced)

theorem registration_path (name : String) : (registration name).path = "/channels" := by
  have hdecode : Percent.decode (.ofList ("/channels".toList.takeWhile (· != '?'))) = "/channels" := by decide
  exact hdecode

theorem registration_asks {name : String} (h : name ≠ "") :
    (registration name).Asks (.addChannel ⟨name, defaultSigil⟩) where
  routed := by
    have hchoices : (Route.choices "/channels").lookup "POST" = some .addChannel := by decide
    rw [registration_path]
    exact hchoices
  allowed _ := rfl
  said := by
    have hplain : (Value.obj [("channel_name", .str name)]).IsPlain := by simp [Value.IsPlain, Value.FieldsPlain]
    have hcontent : (registration name).content .addChannel = .value (.obj [("channel_name", .str name)]) := by
      have htakes : Endpoint.addChannel.takesContent = true := rfl
      rw [Request.content, if_pos htakes, registration]
      exact Content.read_write Json.separates_spaced hplain
    have hcheck := Content.check_newChannel h
    rw [← hcontent] at hcheck
    exact hcheck

/-- A channel is registered once, in whatever case its name is written. -/
theorem history_registers_once :
    let history : List (Delivery × Call) :=
      [(⟨⟨0⟩, [], registration "Chan"⟩, .addChannel ⟨"Chan", defaultSigil⟩),
        (⟨⟨1⟩, [], registration "#chan"⟩, .addChannel ⟨"#chan", defaultSigil⟩)]
    (∀ e ∈ history, e.1.request.Asks e.2) ∧
      (({} : Backend).answerAll (history.map (·.1))).2 =
        [.ok (Ledger.channelValue "chan" defaultSigil), .taken "channel already exists"] := by
  intro history
  have hasks : ∀ e ∈ history, e.1.request.Asks e.2 := by
    simp only [history, List.forall_mem_cons, List.not_mem_nil, false_implies, implies_true, and_true]
    exact ⟨registration_asks (by decide), registration_asks (by decide)⟩
  refine ⟨hasks, (history_keeps_ledger rfl hasks).1.trans ?_⟩
  have hfirst : ChannelName.normalize "Chan" = "chan" := by decide
  have hsecond : ChannelName.normalize "#chan" = "chan" := by decide
  simp [history, Ledger.enterAll, Call.enter, hfirst, hsecond]

end ChannelBot.Server
