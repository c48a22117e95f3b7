/-
Where a request goes. Either it is answered on the spot, the same whatever the backend holds, or it
is served at the endpoint of its address, with the token if one is needed (`Request.dispatch`).
Without the token that is an endpoint that only reads, a start of an authorization or a callback
(`Endpoint.open_cases`), and a callback does nothing unless it brings a code and a state text
(`Request.callback_cases`).
-/
import ChannelBot.Proofs.Server.Call

namespace ChannelBot.Server

/-- The endpoint that a request goes to. -/
def Request.endpoint? (r : Request) : Option Endpoint := (Route.choices r.path).lookup r.method

/-- Where a request goes depends on its method and its target only. -/
theorem Request.endpoint?_congr {r r' : Request} (hmethod : r'.method = r.method) (htarget : r'.target = r.target) :
    r'.endpoint? = r.endpoint? := by
  rw [endpoint?, endpoint?, path, path, hmethod, htarget]

/-- At an endpoint a request is answered on the spot if its content cannot be read or the token is wrong. -/
theorem Request.stopped {r : Request} {e : Endpoint} (now : Moment) (answers : List HttpOutcome)
    (h : ¬ ((e.isGuarded = true → r.token = some adminToken) ∧ r.content e ≠ .broken ∧ r.content e ≠ .unreadable)) :
    ∃ response, ∀ b : Backend, b.serveGuarded now answers r e = (b, { response := response }) := by
  cases hcontent : r.content e with
  | broken =>
    refine ⟨.invalid [⟨[.field "body"], .json, .obj []⟩], fun b => ?_⟩
    rw [content] at hcontent
    simp only [Backend.serveGuarded, hcontent]
  | unreadable =>
    refine ⟨.refusal 400 "There was an error parsing the body", fun b => ?_⟩
    rw [content] at hcontent
    simp only [Backend.serveGuarded, hcontent]
  | none | value v =>
    have hallowed : ¬ (e.isGuarded = true → r.token = some adminToken) := by
      intro hallowed
      rw [hcontent] at h
      exact h ⟨hallowed, Content.noConfusion, Content.noConfusion⟩
    have hrefused : (e.isGuarded && r.token != some adminToken) = true := by simpa [bne_iff_ne] using hallowed
    refine ⟨.refusal 401 "invalid admin token", fun b => ?_⟩
    rw [content] at hcontent
    simp only [Backend.serveGuarded, hcontent, hrefused, if_true]

/-- A request is answered on the spot, or it is served where it goes. -/
theorem Request.dispatch (r : Request) (now : Moment) (answers : List HttpOutcome) :
    (∃ response, ∀ b : Backend, b.handle now answers r = (b, { response := response })) ∨
    ∃ e, r.endpoint? = some e ∧ (e.isGuarded = true → r.token = some adminToken) ∧
      ∀ b : Backend, b.handle now answers r = b.serve now answers r (r.content e) e := by
  cases hrouted : r.endpoint? with
  | none =>
    refine .inl ?_
    rw [endpoint?] at hrouted
    cases hchoices : Route.choices r.path with
    | nil =>
      refine ⟨(({} : Backend).handle now answers r).2.response, fun b => ?_⟩
      unfold Backend.handle
      rw [hchoices]
    | cons c cs =>
      refine ⟨.refusal 405 "Method Not Allowed", fun b => ?_⟩
      unfold Backend.handle
      rw [hchoices] at hrouted ⊢
      simp only [hrouted]
  | some e =>
    rw [endpoint?] at hrouted
    by_cases hserved : (e.isGuarded = true → r.token = some adminToken) ∧ r.content e ≠ .broken ∧
        r.content e ≠ .unreadable
    · exact .inr ⟨e, rfl, hserved.1, fun b => b.handle_eq_serve now answers hrouted hserved.1 hserved.2⟩
    · obtain ⟨response, hstopped⟩ := stopped now answers hserved
      refine .inl ⟨response, fun b => ?_⟩
      rw [← hstopped b]
      unfold Backend.handle
      split
      next hnone =>
        rw [hnone] at hrouted
        cases hrouted
      next => rw [hrouted]

/-- What reads no content is served at once to who may ask for it. -/
theorem Backend.handle_plain (b : Backend) (now : Moment) (answers : List HttpOutcome) {r : Request} {e : Endpoint}
    (hrouted : r.endpoint? = some e) (hallowed : e.isGuarded = true → r.token = some adminToken)
    (hplain : e.takesContent = false) : b.handle now answers r = b.serve now answers r .none e := by
  have hcontent : r.content e = .none := by
    rw [Request.content, hplain]
    rfl
  have hread : r.content e ≠ .broken ∧ r.content e ≠ .unreadable := by
    rw [hcontent]
    exact ⟨Content.noConfusion, Content.noConfusion⟩
  rw [Request.endpoint?] at hrouted
  rw [b.handle_eq_serve now answers hrouted hallowed hread, hcontent]

/-- What is open to all and reads no content is served at once. -/
theorem Backend.handle_open (b : Backend) (now : Moment) (answers : List HttpOutcome) {r : Request} {e : Endpoint}
    (hrouted : r.endpoint? = some e) (hopen : e.isGuarded = false) (hplain : e.takesContent = false) :
    b.handle now answers r = b.serve now answers r .none e :=
  b.handle_plain now answers hrouted (fun h => absurd (hopen.symm.trans h) Bool.false_ne_true) hplain

/-- A content that says what is asked for can be read. -/
theorem Content.readable_of_check {α : Type} {read : List (String × Value) → Checked α} {k : Content} {a : α}
    (h : k.check read = .valid a) : k ≠ .broken ∧ k ≠ .unreadable := by
  constructor <;> rintro rfl <;> cases h

/-- What says what is asked for at its endpoint is served there to who may ask for it. -/
theorem Backend.handle_said (b : Backend) (now : Moment) (answers : List HttpOutcome) {r : Request} {e : Endpoint}
    {α : Type} {read : List (String × Value) → Checked α} {a : α} (hrouted : r.endpoint? = some e)
    (hallowed : r.token = some adminToken) (hsaid : (r.content e).check read = .valid a) :
    b.handle now answers r = b.serve now answers r (r.content e) e := by
  rw [Request.endpoint?] at hrouted
  exact b.handle_eq_serve now answers hrouted (fun _ => hallowed) (Content.readable_of_check hsaid)

/-! ## Without the token -/

/-- Whether an endpoint, open to all, only reads. -/
def Endpoint.IsReading : Endpoint → Prop
  | .front | .health | .commandsPage _ | .listChannels | .showChannel _ | .listCommands _ | .showCommand ..
  | .showRedeem .. | .showTarget .. => True
  | _ => False

/-- The authorizations that there are. -/
inductive Flow where
  | bot
  | music
  deriving Repr, DecidableEq

/-- Where an authorization comes back to. -/
def Flow.callback : Flow → Endpoint
  | .bot => .botCallback
  | .music => .musicCallback

theorem Flow.callback_inj {f g : Flow} (h : f.callback = g.callback) : f = g := by
  cases f <;> cases g <;> first | rfl | cases h

/-- The authorization that a purpose belongs to. -/
def Purpose.flow : Purpose → Flow
  | .bot => .bot
  | .music _ => .music

theorem Endpoint.open_cases {e : Endpoint} (h : ¬ e.isGuarded = true) :
    e.IsReading ∨ (e = .startBot ∨ ∃ channel, e = .startMusic channel) ∨ ∃ f : Flow, e = f.callback := by
  cases e with
  | front | health | commandsPage | listChannels | showChannel | listCommands | showCommand | showRedeem
  | showTarget => exact .inl trivial
  | startBot => exact .inr (.inl (.inl rfl))
  | startMusic channel => exact .inr (.inl (.inr ⟨channel, rfl⟩))
  | botCallback => exact .inr (.inr ⟨.bot, rfl⟩)
  | musicCallback => exact .inr (.inr ⟨.music, rfl⟩)
  | _ => exact absurd rfl h

/-! ## Callbacks -/

/-- A request brings a code and a state text. -/
structure Request.Brings (r : Request) (code state : String) : Prop where
  code : r.parameter? "code" = some code
  state : r.parameter? "state" = some state

theorem Response.ofViolations_status (violations : List Violation) : (ofViolations violations).status ≠ 200 := by
  rw [ofViolations]
  split
  · exact (by decide : 422 ≠ 200)
  · exact (by decide : 500 ≠ 200)

/-- A callback goes on exactly with the code and the state text that the request brings. -/
theorem Request.callback_cases (r : Request) :
    ((∀ code state, ¬ r.Brings code state) ∧
      ∃ response : Response, response.status ≠ 200 ∧
        ∀ (b : Backend) use, b.callback r use = (b, { response := response })) ∨
    ∃ code state, r.Brings code state ∧ ∀ (b : Backend) use, b.callback r use = use code state := by
  have hfound : ∀ {name value}, r.parameter? name = some value → r.parameter name = .valid value := by
    intro name value h
    rw [parameter, h]
    rfl
  have hlacking : ∀ {name}, r.parameter? name = none → ∃ violations, r.parameter name = .invalid violations := by
    intro name h
    rw [parameter, h]
    exact ⟨_, rfl⟩
  cases hcode : r.parameter? "code" with
  | none =>
    have hnone : ∀ code state, ¬ r.Brings code state := fun _ _ h => nomatch hcode.symm.trans h.code
    obtain ⟨vs, hvs⟩ := hlacking hcode
    refine .inl ⟨hnone, ?_⟩
    cases hstate : r.parameter? "state" with
    | none =>
      obtain ⟨ws, hws⟩ := hlacking hstate
      refine ⟨.ofViolations (vs ++ ws), Response.ofViolations_status _, fun b use => ?_⟩
      rw [Backend.callback, hvs, hws]
      rfl
    | some state =>
      refine ⟨.ofViolations vs, Response.ofViolations_status _, fun b use => ?_⟩
      rw [Backend.callback, hvs, hfound hstate]
      rfl
  | some code =>
    cases hstate : r.parameter? "state" with
    | none =>
      have hnone : ∀ code state, ¬ r.Brings code state := fun _ _ h => nomatch hstate.symm.trans h.state
      obtain ⟨ws, hws⟩ := hlacking hstate
      refine .inl ⟨hnone, .ofViolations ws, Response.ofViolations_status _, fun b use => ?_⟩
      rw [Backend.callback, hfound hcode, hws]
      rfl
    | some state =>
      refine .inr ⟨code, state, ⟨hcode, hstate⟩, fun b use => ?_⟩
      rw [Backend.callback, hfound hcode, hfound hstate]
      rfl

end ChannelBot.Server
