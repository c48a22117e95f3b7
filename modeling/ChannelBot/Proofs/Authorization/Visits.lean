/-
Requests as visits to a backend, and what a visit does about state texts. It has one issued if it
starts an authorization and is sent away with a text (`Visit.Issues`); it spends one if it brings it
to a callback that is ready to look at it (`Visit.Spends`). After a visit an authorization is pending
if it was and the visit did not drop it, or if the visit added it (`Visit.pending_iff`).
-/
import ChannelBot.Proofs.Authorization.StateText
import ChannelBot.Proofs.Server.History
import ChannelBot.Proofs.Server.Reachable

namespace ChannelBot.Server

/-- A request with what the backend held when it came. -/
structure Visit where
  held : Backend
  delivery : Delivery

namespace Visit

def now (v : Visit) : Moment := v.delivery.now

def request (v : Visit) : Request := v.delivery.request

def outcome (v : Visit) : Backend × Reply := v.held.handle v.now v.delivery.answers v.request

theorem outcome_eq (v : Visit) : v.outcome = v.held.handle v.now v.delivery.answers v.request := rfl

-- so that comparing what two visits leave never runs their requests
attribute [irreducible] outcome

/-- What the backend holds after it. -/
def left (v : Visit) : Backend := v.outcome.1

def reply (v : Visit) : Reply := v.outcome.2

/-- It brings a state text, and a code, to the callback of an authorization. -/
def Presents (v : Visit) (f : Flow) (state : String) : Prop :=
  v.request.endpoint? = some f.callback ∧ ∃ code, v.request.Brings code state

/-- It brings a state text to a callback that is ready to look at it. -/
def Spends (v : Visit) (f : Flow) (state : String) : Prop := v.Presents f state ∧ Authorization.Ready v.held f

/-- It starts an authorization for this purpose, and is sent away with this state text. -/
def Issues (v : Visit) (state : String) (p : Purpose) : Prop :=
  v.request.endpoint?.bind Endpoint.purpose? = some p ∧ v.reply.response.carried? = some state

/-- It has an authorization forgotten: it spends its state text, or it has another one issued when this
one is too old. -/
def Drops (v : Visit) (e : PendingState) : Prop :=
  (∃ f, v.Spends f e.state) ∨ (∃ state p, v.Issues state p) ∧ e.IsStale v.now

/-- It begins an authorization. -/
def Adds (v : Visit) (e : PendingState) : Prop := v.Issues e.state e.purpose ∧ e.created = v.now

variable {v : Visit}

theorem Spends.unique {f g : Flow} {state state' : String} (h : v.Spends f state) (h' : v.Spends g state') :
    f = g ∧ state = state' := by
  obtain ⟨⟨hrouted, code, hbrings⟩, -⟩ := h
  obtain ⟨⟨hrouted', code', hbrings'⟩, -⟩ := h'
  have hcallback := Option.some.inj (hrouted.symm.trans hrouted')
  exact ⟨Flow.callback_inj hcallback, Option.some.inj (hbrings.state.symm.trans hbrings'.state)⟩

theorem Issues.unique {state state' : String} {p q : Purpose} (h : v.Issues state p) (h' : v.Issues state' q) :
    state = state' ∧ p = q :=
  ⟨Option.some.inj (h.2.symm.trans h'.2), Option.some.inj (h.1.symm.trans h'.1)⟩

theorem Issues.not_callback {state : String} {p : Purpose} (h : v.Issues state p) (f : Flow) :
    v.request.endpoint? ≠ some f.callback := by
  intro hrouted
  have hpurpose := h.1
  rw [hrouted, Option.bind_some, f.purpose?_callback] at hpurpose
  cases hpurpose

theorem Issues.not_spends {state state' : String} {p : Purpose} {f : Flow} (h : v.Issues state p) :
    ¬ v.Spends f state' := fun hspends => h.not_callback f hspends.1.1

/-- What a visit that brings a state text to a callback comes to. -/
theorem Presents.comes_back {f : Flow} {state : String} (h : v.Presents f state) :
    ∃ code, v.outcome =
      Authorization.comeBack v.held v.now v.request.origin v.delivery.answers code state f := by
  obtain ⟨hrouted, code, hbrings⟩ := h
  rw [outcome_eq, Authorization.handle_callback v.held v.now v.delivery.answers hrouted]
  rcases v.request.callback_cases with ⟨hnot, -⟩ | ⟨code', state', hbrings', hcallback⟩
  · exact absurd hbrings (hnot code state)
  · obtain rfl := Option.some.inj (hbrings.state.symm.trans hbrings'.state)
    exact ⟨code', hcallback _ _⟩

/-- All that a visit can do about state texts: nothing, have one issued or spend one. -/
inductive Course (v : Visit) : Prop
  | idle (kept : v.held.PendingKept v.left) (issues : ∀ state p, ¬ v.Issues state p)
    (spends : ∀ f state, ¬ v.Spends f state)
  | issue {p : Purpose} (issues : v.Issues (stateText v.held.issued) p) (issued : v.held.Issued v.left v.now p)
  | spend {f : Flow} {state : String} (spends : v.Spends f state) (spent : v.held.Spent v.left state)

/-- A start is issued the next state text, or nothing happens. -/
theorem course_of_start {e : Endpoint} {p : Purpose} (hrouted : v.request.endpoint? = some e)
    (hpurpose : e.purpose? = some p) (h : v.held.tables.Sound) : v.Course := by
  have hbound : v.request.endpoint?.bind Endpoint.purpose? = some p := by rw [hrouted]; exact hpurpose
  have hbegan : Authorization.Began v.held v.now p v.left v.reply.response := by
    rw [left, reply, outcome_eq]
    cases e with
    | startBot =>
      cases hpurpose
      rw [v.held.handle_open v.now v.delivery.answers hrouted rfl rfl]
      exact Authorization.startBot_began v.held v.now v.request.origin
    | startMusic channel =>
      cases hpurpose
      rw [v.held.handle_open v.now v.delivery.answers hrouted rfl rfl]
      exact Authorization.startMusic_began h v.now v.request.origin channel
    | _ => cases hpurpose
  rcases hbegan with ⟨hkept, hnone⟩ | ⟨hissued, hcarried⟩
  · refine .idle hkept (fun state q hissues => ?_) fun f state hspends => ?_
    · rw [hissues.2] at hnone
      cases hnone
    · rw [← Option.some.inj (hspends.1.1.symm.trans hrouted), f.purpose?_callback] at hpurpose
      cases hpurpose
  · exact .issue ⟨hbound, hcarried⟩ hissued

/-- A visit to a callback spends the state text that it brings, unless the callback is not ready. -/
theorem course_of_callback {f : Flow} (hrouted : v.request.endpoint? = some f.callback) : v.Course := by
  have hissues : ∀ state p, ¬ v.Issues state p := fun state p h => h.not_callback f hrouted
  have hflow : ∀ {g state}, v.Presents g state → g = f :=
    fun h => Flow.callback_inj (Option.some.inj (h.1.symm.trans hrouted))
  by_cases hbrings : ∃ state, v.Presents f state
  · obtain ⟨state, hpresents⟩ := hbrings
    obtain ⟨code, houtcome⟩ := hpresents.comes_back
    by_cases hready : Authorization.Ready v.held f
    · refine .spend ⟨hpresents, hready⟩ ?_
      rw [left, houtcome]
      exact Authorization.comeBack_spent hready v.now v.request.origin v.delivery.answers code state
    · refine .idle ?_ hissues fun g state' h => ?_
      · rw [left, houtcome]
        exact Authorization.comeBack_kept hready v.now v.request.origin v.delivery.answers code state
      · rw [hflow h.1] at h
        exact hready h.2
  · refine .idle ?_ hissues fun g state h => ?_
    · rw [left, outcome_eq, Authorization.handle_callback v.held v.now v.delivery.answers hrouted]
      rcases v.request.callback_cases with ⟨-, response, -, hspot⟩ | ⟨code, state, hcode, -⟩
      · rw [hspot]
        exact .refl v.held
      · exact absurd ⟨state, hrouted, code, hcode⟩ hbrings
    · have hpresents := h.1
      rw [hflow hpresents] at hpresents
      exact hbrings ⟨state, hpresents⟩

theorem course (v : Visit) (h : v.held.tables.Sound) : v.Course := by
  by_cases hcallback : ∃ f : Flow, v.request.endpoint? = some f.callback
  · obtain ⟨f, hrouted⟩ := hcallback
    exact course_of_callback hrouted
  cases hpurpose : v.request.endpoint?.bind Endpoint.purpose? with
  | some p =>
    obtain ⟨e, hrouted, hp⟩ := Option.bind_eq_some_iff.mp hpurpose
    exact course_of_start hrouted hp h
  | none =>
    refine .idle ?_ (fun state p hissues => ?_) fun f state hspends => hcallback ⟨f, hspends.1.1⟩
    · rw [left, outcome_eq]
      rcases v.request.dispatch v.now v.delivery.answers with ⟨response, hspot⟩ | ⟨e, hrouted, -, hserve⟩
      · rw [hspot]
        exact .refl v.held
      · rw [hserve]
        rw [hrouted] at hpurpose
        exact Backend.serve_kept (fun f heq => hcallback ⟨f, heq ▸ hrouted⟩) hpurpose _ _ _ _ _
    · rw [hissues.1] at hpurpose
      cases hpurpose

/-! ## What is pending after a visit -/

theorem not_isStale {e : PendingState} {now : Moment} :
    now.micros ≤ e.created.micros + Authorization.lifetime * Moment.second ↔ ¬ e.IsStale now := Nat.not_lt.symm

/-- **An authorization is pending after a visit** if it was before and the visit did not drop it, or if
the visit began it. -/
theorem pending_iff (h : v.held.tables.Sound) (e : PendingState) :
    e ∈ v.left.pending ↔ e ∈ v.held.pending ∧ ¬ v.Drops e ∨ v.Adds e := by
  cases v.course h with
  | idle kept issues spends =>
    have hdrops : ¬ v.Drops e := by
      rintro (⟨f, hspends⟩ | ⟨⟨state, p, hissues⟩, -⟩)
      · exact spends f _ hspends
      · exact issues state p hissues
    have hadds : ¬ v.Adds e := fun hadds => issues _ _ hadds.1
    rw [kept.pending]
    exact ⟨fun he => .inl ⟨he, hdrops⟩, fun he => he.elim And.left fun hnew => absurd hnew hadds⟩
  | @issue p issues issued =>
    have hdrops : v.Drops e ↔ e.IsStale v.now :=
      ⟨fun hdrops => hdrops.elim (fun ⟨_, hspends⟩ => absurd hspends issues.not_spends) And.right,
        fun hstale => .inr ⟨⟨_, _, issues⟩, hstale⟩⟩
    have hadds : v.Adds e ↔ e = ⟨stateText v.held.issued, p, v.now⟩ := by
      constructor
      · rintro ⟨hissues, hcreated⟩
        obtain ⟨hstate, hpurpose⟩ := hissues.unique issues
        rw [← hstate, ← hpurpose, ← hcreated]
      · rintro rfl
        exact ⟨issues, rfl⟩
    rw [issued.pending, hdrops, hadds, List.mem_append, List.mem_singleton, List.mem_filter, decide_eq_true_iff,
      not_isStale]
  | @spend f state spends spent =>
    have hdrops : v.Drops e ↔ e.state = state := by
      constructor
      · rintro (⟨g, hspends⟩ | ⟨⟨state', p, hissues⟩, -⟩)
        · exact (hspends.unique spends).2
        · exact absurd spends hissues.not_spends
      · rintro rfl
        exact .inl ⟨f, spends⟩
    have hadds : ¬ v.Adds e := fun hadds => hadds.1.not_spends spends
    rw [spent.pending, hdrops, List.mem_filter, bne_iff_ne]
    exact ⟨.inl, fun he => he.elim id fun hnew => absurd hnew hadds⟩

/-- A state text that is issued has the next number, and the number after it is the next then. -/
theorem Issues.numbered {state : String} {p : Purpose} (hissues : v.Issues state p) (h : v.held.tables.Sound) :
    state = stateText v.held.issued ∧ v.left.issued = v.held.issued + 1 := by
  cases v.course h with
  | idle _ issues _ => exact absurd hissues (issues state p)
  | issue issues issued => exact ⟨(hissues.unique issues).1, issued.issued⟩
  | spend spends _ => exact absurd spends hissues.not_spends

/-- If a text was given out then the answer carries it. -/
theorem issues_of_issued (h : v.held.tables.Sound) {p : Purpose} {n : Nat}
    (hasks : v.request.endpoint?.bind Endpoint.purpose? = some p) (hheld : v.held.issued = n)
    (hleft : v.left.issued = n + 1) : v.Issues (stateText n) p := by
  cases v.course h with
  | idle kept => exact absurd (kept.issued.symm.trans hleft) (by omega)
  | issue issues _ => exact ⟨hasks, hheld ▸ issues.2⟩
  | spend _ spent => exact absurd (spent.issued.symm.trans hleft) (by omega)

theorem left_sound (h : v.held.tables.Sound) : v.left.tables.Sound := by
  rw [left, outcome_eq]
  exact Backend.handle_sound h v.now v.delivery.answers v.request

theorem issued_le (h : v.held.tables.Sound) : v.held.issued ≤ v.left.issued := by
  cases v.course h with
  | idle kept => exact Nat.le_of_eq kept.issued.symm
  | issue _ issued =>
    rw [issued.issued]
    exact Nat.le_succ _
  | spend _ spent => exact Nat.le_of_eq spent.issued.symm

end Visit

end ChannelBot.Server
