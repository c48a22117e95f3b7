/-
A question to a store that can be reached, from the bot to the backend and back. If the request
asks for a call, then the backend holds afterwards what the call makes of its ledger, and the bot
reads the answer that the call gives (`askStore_call`).
-/
import ChannelBot.Bot.Stage
import ChannelBot.Proofs.Server.Address
import ChannelBot.Proofs.Server.Content
import ChannelBot.Proofs.Server.History
import ChannelBot.Proofs.Server.Reachable

namespace ChannelBot

/-! ## Requests -/

namespace StoreQuery

open Server (Call Content Request)

/-- The request that a question becomes. -/
def sent (q : StoreQuery) : Request where
  method := q.request.method
  target := q.request.path
  token := some Server.adminToken
  body := q.request.payload.map (·.write Value.spaced)
  origin := Bot.Stage.backendAddress

/-- The body of a question with a payload says the payload. -/
theorem content_payload {q : StoreQuery} {fields : List (String × Value)}
    (hpayload : q.request.payload = some (.obj fields)) (hplain : (Value.obj fields).IsPlain)
    (htakes : q.endpoint.takesContent = true) : q.sent.content q.endpoint = .value (.obj fields) := by
  rw [Request.content, if_pos htakes, sent, hpayload]
  exact Content.read_write Json.separates_spaced hplain

/-- A question whose names are single segments asks for the call at its endpoint. -/
theorem asks {q : StoreQuery} {c : Call} {k : Content} (hnames : ∀ n ∈ q.endpoint.names, Server.Route.IsName n)
    (hendpoint : c.endpoint = q.endpoint) (hcontent : q.sent.content q.endpoint = k) (hsaid : c.Said k) :
    q.sent.Asks c where
  routed := by
    rw [hendpoint]
    exact (q.reaches_iff rfl rfl).mpr hnames
  allowed _ := rfl
  said := by
    rw [hendpoint, hcontent]
    exact hsaid

/-! ## Answers -/

/-- What the bot makes of a value that the store answers. -/
theorem content_ok (q : StoreRequest) {v : Value} (hv : v.IsPlain) :
    content q (.answered ⟨200, "application/json", v.write Value.compact⟩) = .ok v := by
  have hjson : Text.startsWith "application/json" "application/json" = true := by decide
  simp only [content, hjson, if_true, Json.read_write Json.separates_compact hv]
  rfl

/-- A refusal becomes a fault with its status. -/
theorem content_refused (q : StoreRequest) {r : HttpResponse} (h : 400 ≤ r.status) :
    content q (.answered r) = .error (.store ⟨r.status, reason q r, none⟩) := if_pos h

end StoreQuery

/-! ## Exchanges -/

namespace Bot.Stage

open Server (Call Ledger)

/-- The store can be reached: no trouble is ahead, and the backend is one that exists. -/
structure Connected (s : Stage) : Prop where
  reachable : s.backend.Reachable
  clear : s.troubles = []

/-- What the store holds. -/
def ledger (s : Stage) : Ledger := s.backend.tables.ledger

variable {s : Stage} {q : StoreQuery}

theorem send_eq (s : Stage) {r : Server.Request} (htoken : r.token = some Server.adminToken)
    (horigin : r.origin = backendAddress) {b : Server.Backend} {reply : Server.Reply}
    (hx : s.backend.handle s.moment [] r = (b, reply)) (hbody : ∀ location, reply.response.body ≠ .redirect location)
    (fuel : Nat) :
    s.send r.method r.target r.body (fuel + 1) = ({ s with backend := b }, .answered reply.response.http) := by
  obtain ⟨method, target, token, body, origin⟩ := r
  dsimp only at htoken horigin
  subst htoken horigin
  unfold send
  rw [hx]
  dsimp only
  split
  · rename_i location hlocation
    exact absurd hlocation (hbody location)
  · rfl

theorem askStore_eq (hclear : s.troubles = []) {b : Server.Backend} {reply : Server.Reply}
    (hx : s.backend.handle s.moment [] q.sent = (b, reply))
    (hbody : ∀ location, reply.response.body ≠ .redirect location) :
    s.askStore q = ({ s with backend := b }, q.decode (.answered reply.response.http)) := by
  have hmeet : meet q.sent.method (backendAddress ++ q.sent.target) s.troubles = none := by
    rw [hclear]
    rfl
  have hsend := s.send_eq rfl rfl hx hbody 4
  unfold askStore
  unfold StoreQuery.sent at hmeet hsend
  simp only [hmeet, hsend]

/-- A request that asks for a call is answered as the ledger answers the call. -/
theorem askStore_call (hs : s.Connected) {c : Call} (hasks : q.sent.Asks c) {status : Nat} {v : Value}
    {m : Ledger} (henter : c.enter s.ledger = (m, ⟨status, .json v⟩)) :
    (s.askStore q).2 = q.decode (.answered ⟨status, "application/json", v.write Value.compact⟩) ∧
      (s.askStore q).1.ledger = m ∧ (s.askStore q).1.Connected := by
  obtain ⟨hledger, hresponse⟩ := c.act_ledger hs.reachable.sound
  obtain ⟨b, reply, hx, htables, hreply⟩ : ∃ b reply, s.backend.handle s.moment [] q.sent = (b, reply) ∧
      b.tables = (c.act s.backend.tables).1 ∧ reply.response = (c.act s.backend.tables).2 :=
    ⟨_, _, s.backend.handle_call s.moment [] hasks, rfl, rfl⟩
  rw [ledger] at henter
  rw [henter] at hledger hresponse
  have hjson : reply.response = ⟨status, .json v⟩ := hreply.trans hresponse
  have hreachable := hs.reachable.handle s.moment [] q.sent
  rw [hx] at hreachable
  rw [askStore_eq hs.clear hx (fun _ => by rw [hjson]; exact Server.Body.noConfusion), hjson]
  refine ⟨rfl, ?_, hreachable, hs.clear⟩
  show b.tables.ledger = _
  rw [htables, hledger]

/-- A request that breaks rules is refused, and changes nothing. -/
theorem askStore_invalid (hs : s.Connected) (hnames : ∀ n ∈ q.endpoint.names, Server.Route.IsName n)
    (hread : q.sent.content q.endpoint ≠ .broken ∧ q.sent.content q.endpoint ≠ .unreadable)
    {vs : List Server.Violation}
    (hserve : s.backend.serve s.moment [] q.sent (q.sent.content q.endpoint) q.endpoint =
      (s.backend, { response := .ofViolations vs })) :
    ∃ r : HttpResponse, 400 ≤ r.status ∧ (s.askStore q).2 = q.decode (.answered r) := by
  have hhandle := s.backend.handle_eq_serve s.moment [] ((q.reaches_iff rfl rfl).mpr hnames) (fun _ => rfl) hread
  rw [hserve] at hhandle
  have hstatus : 400 ≤ (Server.Response.ofViolations vs).http.status ∧
      ∀ location, (Server.Response.ofViolations vs).body ≠ .redirect location := by
    rw [Server.Response.ofViolations]
    split
    · exact ⟨(by decide : (400 : Int) ≤ 422), fun _ => Server.Body.noConfusion⟩
    · exact ⟨(by decide : (400 : Int) ≤ 500), fun _ => Server.Body.noConfusion⟩
  refine ⟨(Server.Response.ofViolations vs).http, hstatus.1, ?_⟩
  rw [askStore_eq hs.clear hhandle hstatus.2]

/-- A question about an entry of a record tells what is stored, and changes nothing. -/
theorem ask_entry (hs : s.Connected) {c : Call} (hasks : q.sent.Asks c) {α : Type} {channel reason : String}
    {stored? : Server.ChannelRecord → Option α} {shown : α → Value}
    (henter : ∀ m : Ledger, c.enter m =
      m.withRecord channel fun _ r => m.withEntry reason (fun a => (m, .ok (shown a))) (stored? r))
    (told : Option α → Except Fault q.Result)
    (hmissing : ∀ r : HttpResponse, r.status = 404 → q.decode (.answered r) = told none)
    (hfound : ∀ a, q.decode (.answered ⟨200, "application/json", (shown a).write Value.compact⟩) = told (some a)) :
    (s.askStore q).2 = told (s.ledger[ChannelName.normalize channel]?.bind stored?) ∧
      (s.askStore q).1.ledger = s.ledger ∧ (s.askStore q).1.Connected := by
  have hcall := henter s.ledger
  rw [Ledger.withRecord] at hcall
  cases hr : s.ledger[ChannelName.normalize channel]? with
  | none =>
    rw [hr] at hcall
    obtain ⟨hanswer, hrest⟩ := askStore_call hs hasks hcall
    exact ⟨hanswer.trans (hmissing _ rfl), hrest⟩
  | some r =>
    rw [hr] at hcall
    rw [Option.bind_some]
    cases ha : stored? r with
    | none =>
      simp only [ha, Ledger.withEntry] at hcall
      obtain ⟨hanswer, hrest⟩ := askStore_call hs hasks hcall
      exact ⟨hanswer.trans (hmissing _ rfl), hrest⟩
    | some a =>
      simp only [ha, Ledger.withEntry] at hcall
      obtain ⟨hanswer, hrest⟩ := askStore_call hs hasks hcall
      exact ⟨hanswer.trans (hfound a), hrest⟩

/-- Where refusals are faults, a success says that the ledger did not refuse. -/
theorem askStore_status (hs : s.Connected) {c : Call} (hasks : q.sent.Asks c)
    (hrefused : ∀ r v, q.decode (.answered r) = .ok v → r.status < 400) {status : Nat} {v : Value} {m : Ledger}
    (henter : c.enter s.ledger = (m, ⟨status, .json v⟩)) {w : q.Result} (h : (s.askStore q).2 = .ok w) :
    status < 400 := by
  have hlt := hrefused _ _ ((askStore_call hs hasks henter).1.symm.trans h)
  exact Int.ofNat_lt.mp hlt

/-- Where refusals are faults, a success says that the payload was valid. -/
theorem askStore_valid (hs : s.Connected) (hnames : ∀ n ∈ q.endpoint.names, Server.Route.IsName n)
    (hrefused : ∀ r v, q.decode (.answered r) = .ok v → r.status < 400) {fields : List (String × Value)}
    (hcontent : q.sent.content q.endpoint = .value (.obj fields)) {α : Type}
    {read : List (String × Value) → Server.Checked α} {use : α → Server.Backend × Server.Reply}
    (hserve : ∀ k, s.backend.serve s.moment [] q.sent k q.endpoint = s.backend.checked (k.check read) use)
    {w : q.Result} (h : (s.askStore q).2 = .ok w) :
    ∃ a, (Server.Content.value (.obj fields)).check read = .valid a := by
  cases hcheck : (Server.Content.value (.obj fields)).check read with
  | valid a => exact ⟨a, rfl⟩
  | invalid vs =>
    have hanswer := hserve (q.sent.content q.endpoint)
    rw [hcontent, hcheck] at hanswer
    rw [← hcontent] at hanswer
    obtain ⟨r, hstatus, hdecode⟩ := askStore_invalid hs hnames (by rw [hcontent]; exact ⟨Server.Content.noConfusion, Server.Content.noConfusion⟩) hanswer
    have hlt := hrefused r w (hdecode.symm.trans h)
    omega

end Bot.Stage

end ChannelBot
