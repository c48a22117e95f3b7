/-
The calls about channels, commands, redemptions and targets as one type: what each does to the
tables (`Call.act`), under which address it is asked for (`Call.endpoint`), and what the body of
such a request has to say (`Call.Said`). The backend answers a request for a call by letting the
call act on the tables (`Backend.handle_call`). Every call keeps the tables sound
(`Call.act_sound`), and a call that is refused leaves them as they are (`Call.act_refused`).
-/
import ChannelBot.Proofs.Server.Sound
import ChannelBot.Server.Handle

namespace ChannelBot.Server

/-- A call about channels and what belongs to them. -/
inductive Call where
  | listChannels
  | addChannel (p : NewChannel)
  | showChannel (channel : String)
  | changeSigil (channel sigil : String)
  | removeChannel (channel : String)
  | listCommands (channel : String)
  | addCommand (channel : String) (p : NewCommand)
  | showCommand (channel trigger : String)
  | removeCommand (channel trigger : String)
  | addRedeem (channel : String) (p : NewRedeem)
  | showRedeem (channel title : String)
  | removeRedeem (channel title : String)
  | addTarget (channel user : String)
  | showTarget (channel user : String)
  | changeTarget (channel user : String) (p : TargetChange)
  deriving Repr, DecidableEq

namespace Call

/-- What a call does to the tables, and its answer. -/
def act : Call → Tables → Tables × Response
  | .listChannels, t => (t, t.listChannels)
  | .addChannel p, t => t.addChannel p
  | .showChannel c, t => t.showChannel c
  | .changeSigil c s, t => t.changeSigil c s
  | .removeChannel c, t => t.removeChannel c
  | .listCommands c, t => t.listCommands c
  | .addCommand c p, t => t.addCommand c p
  | .showCommand c k, t => t.showCommand c k
  | .removeCommand c k, t => t.removeCommand c k
  | .addRedeem c p, t => t.addRedeem c p
  | .showRedeem c k, t => t.showRedeem c k
  | .removeRedeem c k, t => t.removeRedeem c k
  | .addTarget c u, t => t.addTarget c u
  | .showTarget c u, t => t.showTarget c u
  | .changeTarget c u p, t => t.changeTarget c u p

/-- The endpoint at which a call is asked for. -/
def endpoint : Call → Endpoint
  | .listChannels => .listChannels
  | .addChannel _ => .addChannel
  | .showChannel c => .showChannel c
  | .changeSigil c _ => .changeSigil c
  | .removeChannel c => .removeChannel c
  | .listCommands c => .listCommands c
  | .addCommand c _ => .addCommand c
  | .showCommand c k => .showCommand c k
  | .removeCommand c k => .removeCommand c k
  | .addRedeem c _ => .addRedeem c
  | .showRedeem c k => .showRedeem c k
  | .removeRedeem c k => .removeRedeem c k
  | .addTarget c u => .addTarget c u
  | .showTarget c u => .showTarget c u
  | .changeTarget c u _ => .changeTarget c u

/-- The body of a request is valid and says what the call needs to know. -/
def Said : Call → Content → Prop
  | .addChannel p, k => k.check NewChannel.read = .valid p
  | .changeSigil _ s, k => k.check readSigil = .valid s
  | .addCommand _ p, k => k.check NewCommand.read = .valid p
  | .addRedeem _ p, k => k.check NewRedeem.read = .valid p
  | .changeTarget _ _ p, k => k.check TargetChange.read = .valid p
  | _, _ => True

/-- The channel that a call is about, under its normal name. -/
def channel? : Call → Option String
  | .listChannels => none
  | .addChannel p => some (ChannelName.normalize p.name)
  | .showChannel c | .changeSigil c _ | .removeChannel c | .listCommands c | .addCommand c _
  | .showCommand c _ | .removeCommand c _ | .addRedeem c _ | .showRedeem c _ | .removeRedeem c _
  | .addTarget c _ | .showTarget c _ | .changeTarget c _ _ => some (ChannelName.normalize c)

end Call

/-! ## Requests for calls -/

/-- What the body of a request says at an endpoint. -/
def Request.content (r : Request) (e : Endpoint) : Content :=
  if e.takesContent then Content.read r.body else .none

/-- A request asks for a call: it goes to the call's address, carries the token where one is
needed, and its body says what the call needs to know. -/
structure Request.Asks (r : Request) (c : Call) : Prop where
  routed : (Route.choices r.path).lookup r.method = some c.endpoint
  allowed : c.endpoint.isGuarded = true → r.token = some adminToken
  said : c.Said (r.content c.endpoint)

/-- A request with the token, if one is needed, and without a broken body is served at its address. -/
theorem Backend.handle_eq_serve (b : Backend) (now : Moment) (answers : List HttpOutcome) {r : Request}
    {e : Endpoint} (hrouted : (Route.choices r.path).lookup r.method = some e)
    (hallowed : e.isGuarded = true → r.token = some adminToken)
    (hread : r.content e ≠ .broken ∧ r.content e ≠ .unreadable) :
    b.handle now answers r = b.serve now answers r (r.content e) e := by
  have htoken : (e.isGuarded && r.token != some adminToken) = false := by
    cases hg : e.isGuarded with
    | false => rfl
    | true => simp [hallowed hg]
  have hserve : b.serveGuarded now answers r e = b.serve now answers r (r.content e) e := by
    cases hk : r.content e with
    | broken => exact absurd hk hread.1
    | unreadable => exact absurd hk hread.2
    | none | value v =>
      rw [Request.content] at hk
      simp only [serveGuarded, hk, htoken, Bool.false_eq_true, if_false]
  unfold handle
  split
  · rename_i hnone
    rw [hnone] at hrouted
    cases hrouted
  · rw [hrouted]
    exact hserve

theorem Backend.serve_call (b : Backend) (now : Moment) (answers : List HttpOutcome) (r : Request)
    {content : Content} {c : Call} (h : c.Said content) :
    b.serve now answers r content c.endpoint = replying (b.onTables c.act) := by
  cases c <;> first
    | rfl
    | (simp only [Call.Said] at h; simp only [Call.endpoint, serve, h, checked]; rfl)

/-- A body that is no JSON says nothing that a call needs. -/
theorem Call.Said.readable {c : Call} {content : Content} (h : c.Said content)
    (htakes : c.endpoint.takesContent = true) : content ≠ .broken ∧ content ≠ .unreadable := by
  cases c <;> simp only [Call.endpoint, Endpoint.takesContent, reduceCtorEq] at htakes <;>
    constructor <;> rintro rfl <;> cases h

theorem Request.Asks.readable {r : Request} {c : Call} (h : r.Asks c) :
    r.content c.endpoint ≠ .broken ∧ r.content c.endpoint ≠ .unreadable := by
  by_cases htakes : c.endpoint.takesContent = true
  · exact h.said.readable htakes
  · rw [content, if_neg htakes]
    exact ⟨Content.noConfusion, Content.noConfusion⟩

/-- The backend answers a request for a call by letting the call act on the tables. -/
theorem Backend.handle_call (b : Backend) (now : Moment) (answers : List HttpOutcome) {r : Request}
    {c : Call} (h : r.Asks c) : b.handle now answers r = replying (b.onTables c.act) := by
  rw [b.handle_eq_serve now answers h.routed h.allowed h.readable]
  exact b.serve_call now answers r h.said

/-! ## Calls keep the tables sound -/

namespace Tables

variable {t : Tables}

theorem Sound.withChannel (h : t.Sound) (name : String) {use : ChannelRow → Tables × Response}
    (huse : ∀ c, c.id ∈ t.ids → (use c).1.Sound) : (t.withChannel name use).1.Sound := by
  rw [h.withChannel_eq]
  cases hrow : t.row? (ChannelName.normalize name) with
  | none => exact h
  | some c => exact huse c (row?_id_mem hrow)

theorem Sound.withCommand (h : t.Sound) (name trigger : String)
    {use : OwnedRow CommandContent → Tables × Response} (huse : ∀ r, (use r).1.Sound) :
    (t.withCommand name trigger use).1.Sound := by
  rw [h.withCommand_eq]
  refine h.withChannel name fun c _ => ?_
  cases OwnedRow.get? c.id trigger t.commands with
  | none => exact h
  | some k => exact huse _

theorem Sound.withRedeem (h : t.Sound) (name title : String)
    {use : OwnedRow String → Tables × Response} (huse : ∀ r, (use r).1.Sound) :
    (t.withRedeem name title use).1.Sound := by
  rw [h.withRedeem_eq]
  refine h.withChannel name fun c _ => ?_
  cases OwnedRow.get? c.id title t.redeems with
  | none => exact h
  | some k => exact huse _

theorem Sound.writeTarget (h : t.Sound) {owner : Nat} (ho : owner ∈ t.ids) (user : String)
    (change : TargetFlags → TargetFlags) : (t.writeTarget owner user change).1.Sound := by
  rw [h.writeTarget_eq]
  cases hget : OwnedRow.get? owner (Text.lower user) t.targets with
  | some f =>
    refine h.setTargets (h.targets.update _ _ _) fun r hr => ?_
    obtain ⟨s, hs, rfl⟩ := List.mem_map.mp hr
    split <;> exact h.users s hs
  | none =>
    refine h.setTargets (h.targets.append_single hget ho) fun r hr => ?_
    rcases List.mem_append.mp hr with hr | hr
    · exact h.users r hr
    · rw [List.mem_singleton.mp hr]
      exact folded_lower user

end Tables

/-- Every call keeps the tables sound. -/
theorem Call.act_sound {t : Tables} (h : t.Sound) (c : Call) : (c.act t).1.Sound := by
  cases c with
  | listChannels => exact h
  | addChannel p =>
    rw [act, h.addChannel_eq]
    cases hrow : t.row? (ChannelName.normalize p.name) with
    | some _ => exact h
    | none => exact h.appendChannel (Tables.nextId_not_mem t) hrow (folded_normalize p.name)
  | showChannel n | listCommands n => exact h.withChannel n fun _ _ => h
  | changeSigil n s => exact h.withChannel n fun c _ => h.setSigil c.id s
  | removeChannel n => exact h.withChannel n fun c _ => h.eraseChannel c.id
  | addCommand n p =>
    refine h.withChannel n fun c hc => ?_
    simp only [OwnedRow.insert?_eq]
    cases hget : OwnedRow.get? c.id p.trigger t.commands with
    | some _ => exact h
    | none => exact h.setCommands (h.commands.append_single hget hc)
  | showCommand n k => exact h.withCommand n k fun _ => h
  | removeCommand n k => exact h.withCommand n k fun r => h.setCommands (h.commands.erase r.owner r.key)
  | addRedeem n p =>
    refine h.withChannel n fun c hc => ?_
    simp only [OwnedRow.insert?_eq]
    cases hget : OwnedRow.get? c.id p.title t.redeems with
    | some _ => exact h
    | none => exact h.setRedeems (h.redeems.append_single hget hc)
  | showRedeem n k => exact h.withRedeem n k fun _ => h
  | removeRedeem n k => exact h.withRedeem n k fun r => h.setRedeems (h.redeems.erase r.owner r.key)
  | addTarget n u => exact h.withChannel n fun c hc => h.writeTarget hc u _
  | showTarget n u =>
    rw [act, h.showTarget_eq]
    refine h.withChannel n fun c _ => ?_
    cases OwnedRow.get? c.id (Text.lower u) t.targets <;> exact h
  | changeTarget n u p => exact h.withChannel n fun c hc => h.writeTarget hc u _

/-! ## Refusals change nothing -/

namespace Tables

variable {t : Tables}

/-- Unless the answer is a success, the tables are still what they were. -/
def Unchanged (t : Tables) (x : Tables × Response) : Prop := x.2.status ≠ 200 → x.1 = t

theorem Unchanged.refused (t : Tables) (r : Response) : t.Unchanged (t, r) := fun _ => rfl

theorem Unchanged.answered {t' : Tables} (v : Value) : t.Unchanged (t', .ok v) := fun h => absurd rfl h

theorem Unchanged.withOne {α : Type} {missing : String} {use : α → Tables × Response} {s : Search α}
    (huse : ∀ a, t.Unchanged (use a)) : t.Unchanged (t.withOne missing use s) := by
  cases s with
  | found a => exact huse a
  | absent | ambiguous => exact .refused t _

theorem Unchanged.writeTarget (t : Tables) (owner : Nat) (user : String) (change : TargetFlags → TargetFlags) :
    t.Unchanged (t.writeTarget owner user change) := by
  rw [Tables.writeTarget]
  split
  · exact .answered _
  · dsimp only
    split
    · exact .answered _
    · exact .refused t _
  · exact .refused t _

end Tables

open Tables in
/-- A call that is refused leaves the tables as they are. -/
theorem Call.act_refused (t : Tables) (c : Call) : t.Unchanged (c.act t) := by
  cases c with
  | listChannels => exact .refused t _
  | addChannel p =>
    rw [act, Tables.addChannel]
    split
    · split
      · exact .answered _
      · exact .refused t _
    · exact .refused t _
    · exact .refused t _
  | showChannel n | listCommands n => exact .withOne fun _ => .refused t _
  | changeSigil n s | removeChannel n => exact .withOne fun _ => .answered _
  | addCommand n p =>
    refine .withOne fun c => ?_
    dsimp only
    split
    · exact .answered _
    · exact .refused t _
  | addRedeem n p =>
    refine .withOne fun c => ?_
    split
    · exact .answered _
    · exact .refused t _
  | showCommand n k | showRedeem n k | showTarget n u => exact .withOne fun _ => .withOne fun _ => .refused t _
  | removeCommand n k | removeRedeem n k => exact .withOne fun _ => .withOne fun _ => .answered _
  | addTarget n u => exact .withOne fun c => .writeTarget t c.id u _
  | changeTarget n u p => exact .withOne fun c => .writeTarget t c.id u _

end ChannelBot.Server
