/-
Visits one after another. No state text is issued twice (`Run.issues_once`). An authorization is
pending at a visit if one of the visits before it began it and none since then dropped it
(`Run.pending_iff`), so a text that was issued is good at a callback if it is of that authorization and
its authorization was not dropped (`Run.awaits_iff`).
-/
import ChannelBot.Proofs.Authorization.Visits

namespace ChannelBot.Server

/-- Visits one after another. In between the settings, the bot's account and the log may change, but
neither the tables nor the pending states. -/
inductive Run : Backend → List Visit → Prop
  | done {b : Backend} : Run b []
  | visit {b : Backend} {v : Visit} {rest : List Visit} (tables : v.held.tables = b.tables)
    (kept : b.PendingKept v.held) (later : Run v.left rest) : Run b (v :: rest)

namespace Run

variable {b : Backend} {visits before after : List Visit} {v : Visit}

/-- A request that comes to what the others left. -/
theorem follow {d : Delivery} (later : Run (⟨b, d⟩ : Visit).left visits) : Run b (⟨b, d⟩ :: visits) :=
  .visit rfl (.refl b) later

theorem suffix (h : Run b (before ++ v :: after)) : Run v.left after := by
  induction before generalizing b with
  | nil =>
    cases h with
    | visit _ _ later => exact later
  | cons x xs ih =>
    cases h with
    | visit _ _ later => exact ih later

theorem sound (hs : b.tables.Sound) (h : Run b visits) : ∀ v ∈ visits, v.held.tables.Sound := by
  induction h with
  | done => exact fun _ hv => nomatch hv
  | @visit b v rest tables kept later ih =>
    have hheld : v.held.tables.Sound := tables ▸ hs
    have hleft := Visit.left_sound hheld
    intro w hw
    rcases List.mem_cons.mp hw with rfl | hw
    · exact hheld
    · exact ih hleft w hw

/-- The number of texts given out never goes down. -/
theorem issued_le (hs : b.tables.Sound) (h : Run b visits) : ∀ v ∈ visits, b.issued ≤ v.held.issued := by
  induction h with
  | done => exact fun _ hv => nomatch hv
  | @visit b v rest tables kept later ih =>
    have hheld : v.held.tables.Sound := tables ▸ hs
    have hleft := Visit.left_sound hheld
    have hfirst := kept.issued
    have hstep := Visit.issued_le hheld
    intro w hw
    rcases List.mem_cons.mp hw with rfl | hw
    · omega
    · have hlater := ih hleft w hw
      omega

/-- A state text that was issued is not issued again. -/
theorem issues_once (hs : b.tables.Sound) (h : Run b visits) :
    visits.Pairwise fun y z => ∀ state p q, y.Issues state p → ¬ z.Issues state q := by
  have hsound := sound hs h
  induction h with
  | done => exact .nil
  | @visit b v rest tables kept later ih =>
    have hleft := Visit.left_sound (hsound v List.mem_cons_self)
    refine .cons (fun z hz state p q hissues hagain => ?_) (ih hleft fun w hw => hsound w (List.mem_cons_of_mem v hw))
    obtain ⟨hstate, hnext⟩ := hissues.numbered (hsound v List.mem_cons_self)
    obtain ⟨hstate', -⟩ := hagain.numbered (hsound z (List.mem_cons_of_mem v hz))
    have hnumber := stateText_injective (hstate.symm.trans hstate')
    have hlater := issued_le hleft later z hz
    omega

theorem issuer_unique (hs : b.tables.Sound) (h : Run b visits) {y z : Visit} (hy : y ∈ visits) (hz : z ∈ visits)
    {state : String} {p q : Purpose} (hissues : y.Issues state p) (hagain : z.Issues state q) : y = z := by
  have honce := issues_once hs h
  clear h
  induction honce with
  | nil => cases hy
  | @cons x xs hx _ ih =>
    rcases List.mem_cons.mp hy with hyx | hy <;> rcases List.mem_cons.mp hz with hzx | hz
    · exact hyx.trans hzx.symm
    · exact absurd hagain (hx z hz state p q (hyx ▸ hissues))
    · exact absurd hissues (hx y hy state q p (hzx ▸ hagain))
    · exact ih hy hz

end Run

/-- One of the visits began an authorization, and none after it dropped it. -/
def Visit.Remains (e : PendingState) (visits : List Visit) : Prop :=
  ∃ older y newer, visits = older ++ y :: newer ∧ y.Adds e ∧ ∀ x ∈ newer, ¬ x.Drops e

theorem Visit.remains_cons {e : PendingState} {x : Visit} {xs : List Visit} :
    Remains e (x :: xs) ↔ (x.Adds e ∧ ∀ z ∈ xs, ¬ z.Drops e) ∨ Remains e xs := by
  constructor
  · rintro ⟨older, y, newer, heq, hadds, hkept⟩
    cases older with
    | nil =>
      obtain ⟨rfl, rfl⟩ := List.cons.inj heq
      exact .inl ⟨hadds, hkept⟩
    | cons o os => exact .inr ⟨os, y, newer, (List.cons.inj heq).2, hadds, hkept⟩
  · rintro (⟨hadds, hkept⟩ | ⟨older, y, newer, rfl, hadds, hkept⟩)
    · exact ⟨[], x, xs, rfl, hadds, hkept⟩
    · exact ⟨x :: older, y, newer, rfl, hadds, hkept⟩

namespace Run

variable {b : Backend} {visits before after : List Visit} {v : Visit}

/-- **What is pending at a visit** was pending at first or was begun since, and no visit dropped it. -/
theorem pending_iff (hs : b.tables.Sound) (h : Run b (before ++ v :: after)) (e : PendingState) :
    e ∈ v.held.pending ↔ (e ∈ b.pending ∧ ∀ x ∈ before, ¬ x.Drops e) ∨ Visit.Remains e before := by
  induction before generalizing b with
  | nil =>
    cases h with
    | visit _ kept _ =>
      have hnone : ¬ Visit.Remains e [] := by
        rintro ⟨older, y, newer, heq, -⟩
        exact absurd heq.symm (List.append_ne_nil_of_right_ne_nil older (List.cons_ne_nil y newer))
      rw [kept.pending]
      exact ⟨fun he => .inl ⟨he, fun _ hx => nomatch hx⟩, fun he => he.elim And.left fun hr => absurd hr hnone⟩
  | cons x xs ih =>
    cases h with
    | visit tables kept later =>
      have hheld : x.held.tables.Sound := tables ▸ hs
      have hleft := Visit.left_sound hheld
      rw [ih hleft later, Visit.pending_iff hheld, Visit.remains_cons, kept.pending, List.forall_mem_cons]
      tauto

/-- What is pending was begun before, if nothing was pending at first. -/
theorem begun (hs : b.tables.Sound) (hp : b.pending = []) (h : Run b (before ++ v :: after)) {e : PendingState}
    (he : e ∈ v.held.pending) : ∃ y ∈ before, y.Adds e := by
  rcases (pending_iff hs h e).mp he with ⟨hfirst, -⟩ | ⟨older, y, newer, rfl, hadds, -⟩
  · rw [hp] at hfirst
    cases hfirst
  · exact ⟨y, List.mem_append_right older List.mem_cons_self, hadds⟩

/-- What is pending under a text is what the visit began that the text was issued at. -/
theorem pending_eq (hs : b.tables.Sound) (hp : b.pending = []) (h : Run b (before ++ v :: after)) {e : PendingState}
    (he : e ∈ v.held.pending) {y : Visit} (hy : y ∈ before) {p : Purpose} (hissues : y.Issues e.state p) :
    e = ⟨e.state, p, y.now⟩ := by
  obtain ⟨z, hz, hadds, hcreated⟩ := begun hs hp h he
  obtain rfl := issuer_unique hs h (List.mem_append_left _ hy) (List.mem_append_left _ hz) hissues hadds
  rw [(hissues.unique hadds).2, ← hcreated]

/-- A state text is good at a callback if an authorization of its kind is pending under it. -/
theorem awaits_iff_pending (hs : b.tables.Sound) (hp : b.pending = []) (h : Run b (before ++ v :: after)) {f : Flow}
    {state : String} :
    Authorization.Awaits v.held f state ↔ ∃ e ∈ v.held.pending, e.state = state ∧ e.purpose.flow = f := by
  constructor
  · rintro ⟨p, hp, hflow⟩
    obtain ⟨e, he, hstate, rfl⟩ := Authorization.redeem_purpose hp
    exact ⟨e, he, hstate, hflow⟩
  · rintro ⟨e, he, rfl, hflow⟩
    cases hfind : v.held.pending.find? (·.state == e.state) with
    | none => exact absurd (beq_self_eq_true e.state) (List.find?_eq_none.mp hfind e he)
    | some e' =>
      have he' := List.mem_of_find?_eq_some hfind
      have hstate : e'.state = e.state := by simpa using List.find?_some hfind
      obtain ⟨y, hy, hadds, -⟩ := begun hs hp h he
      have heq : e' = e := by
        rw [pending_eq hs hp h he hy hadds, pending_eq hs hp h he' hy (hstate ▸ hadds), hstate]
      refine ⟨e.purpose, ?_, hflow⟩
      rw [Authorization.redeem, hfind, heq]
      rfl

/-- **A state text that was issued is good** at the callback of its own authorization, as long as no
visit has spent it, or had another one issued when it was too old. -/
theorem awaits_iff (hs : b.tables.Sound) (hp : b.pending = []) {older newer : List Visit} {y : Visit}
    (h : Run b (older ++ y :: newer ++ v :: after)) {state : String} {p : Purpose} (hy : y.Issues state p) {f : Flow} :
    Authorization.Awaits v.held f state ↔ p.flow = f ∧ ∀ x ∈ newer, ¬ x.Drops ⟨state, p, y.now⟩ := by
  have hbefore : y ∈ older ++ y :: newer := List.mem_append_right older List.mem_cons_self
  have hmem : y ∈ older ++ y :: newer ++ v :: after := List.mem_append_left _ hbefore
  have hsound := sound hs h y hmem
  have hadds : y.Adds ⟨state, p, y.now⟩ := ⟨hy, rfl⟩
  have hsince : Run y.left (newer ++ v :: after) := by
    rw [List.append_assoc] at h
    exact suffix h
  have honce : ¬ Visit.Remains ⟨state, p, y.now⟩ newer := by
    rintro ⟨os, z, ns, rfl, hagain, -⟩
    have hpairs := (List.pairwise_append.mp (List.pairwise_append.mp (issues_once hs h)).1).2.1
    exact (List.pairwise_cons.mp hpairs).1 z (List.mem_append_right os List.mem_cons_self) _ _ _ hy hagain.1
  have hpending := pending_iff (Visit.left_sound hsound) hsince ⟨state, p, y.now⟩
  rw [awaits_iff_pending hs hp h]
  constructor
  · rintro ⟨e, he, rfl, hflow⟩
    have heq := pending_eq hs hp h he hbefore hy
    rw [heq] at he hflow
    exact ⟨hflow, ((hpending.mp he).resolve_right honce).2⟩
  · rintro ⟨hflow, hkept⟩
    have hleft := (Visit.pending_iff hsound _).mpr (.inr hadds)
    exact ⟨_, hpending.mpr (.inl ⟨hleft, hkept⟩), rfl, hflow⟩

end Run

end ChannelBot.Server
