/-
Refresh tokens that the provider replaces. A loop asks with the latest refresh token that was granted
and that the store took (`Rounds.refreshToken_eq`), so a token that the store did not take is lost
(`untaken_token_is_lost`), and the loop asks with the latest one that was granted exactly if none is
(`asks_with_latest_taken`).
-/
import Mathlib.Data.List.Induction
import ChannelBot.Proofs.Refresh.Rounds
import ChannelBot.Value.Equal

namespace ChannelBot.Refresh

open Dialogue

variable {s s' : State} {turns : List (Turn surroundings)} {rounds : List (List (Turn surroundings))}

/-- The refresh token that the grant of a round carries, if there is a grant that carries one. -/
def rotated? (turns : List (Turn surroundings)) : Option Value :=
  turns.findSome? fun
    | ⟨.grant _, .ok g⟩ => if g.refreshToken.holds then some g.refreshToken else none
    | _ => none

/-- Whether the store took something in a round. -/
def isTaken (turns : List (Turn surroundings)) : Bool :=
  turns.any fun
    | ⟨.store _, .ok _⟩ => true
    | _ => false

/-- The refresh token that was granted last, or the first one if none was. -/
def lastGranted (first : Value) (rounds : List (List (Turn surroundings))) : Value :=
  (rounds.filterMap rotated?).getLast?.getD first

/-- The refresh token that was granted last and taken by the store, or the first one if none was. -/
def lastTaken (first : Value) (rounds : List (List (Turn surroundings))) : Value :=
  lastGranted first (rounds.filter isTaken)

/-! ## After one more round -/

variable {first token : Value}

@[simp] theorem lastGranted_nil : lastGranted first [] = first := rfl

@[simp] theorem lastTaken_nil : lastTaken first [] = first := rfl

theorem lastGranted_snoc : lastGranted first (rounds ++ [turns]) = (rotated? turns).getD (lastGranted first rounds) := by
  rw [lastGranted, List.filterMap_append]
  cases hrotated : rotated? turns with
  | none => simp [lastGranted, hrotated]
  | some token => simp [hrotated]

theorem lastTaken_snoc :
    lastTaken first (rounds ++ [turns]) =
      if isTaken turns then (rotated? turns).getD (lastTaken first rounds) else lastTaken first rounds := by
  rw [lastTaken, List.filter_append]
  cases htaken : isTaken turns with
  | true => simp [htaken, lastGranted_snoc, lastTaken]
  | false => simp [htaken, lastTaken]

/-! ## What a loop asks with -/

/-- Whether the provider or the store fails in a round, with a fault. -/
def Fails (turns : List (Turn surroundings)) (f : Fault) : Prop :=
  (∃ token, ⟨.grant token, .error f⟩ ∈ turns) ∨ ∃ q, ⟨.store q, .error f⟩ ∈ turns

/-- A round ends with a fault, which is that of the provider or the store if one of them failed, or the store took
the grant and the loop takes it over. -/
theorem Course.ends {x : State × Except Fault Int} (h : Course s turns x) :
    (isTaken turns = false ∧ ∃ f, x = afterFault s f ∧ ∀ f', Fails turns f' → f' = f) ∨
      (isTaken turns = true ∧ (∀ f, ¬ Fails turns f) ∧
        ∃ g now expiry channel answer, x = (s.accept g expiry, .ok (wait g)) ∧
          now.addSeconds? g.expiresIn = some expiry ∧ s.channel.addressPart = .ok channel ∧
          turns = [⟨.grant s.refreshToken, .ok g⟩, ⟨.now, now⟩, ⟨.store (update channel g expiry), .ok answer⟩]) := by
  cases h with
  | refused f =>
    refine .inl ⟨rfl, f, rfl, fun f' hf' => ?_⟩
    rcases hf' with ⟨token, hmem⟩ | ⟨q, hmem⟩
    · cases List.mem_singleton.mp hmem
      rfl
    · cases List.mem_singleton.mp hmem
  | endless | unaddressed => exact .inl ⟨rfl, _, rfl, by simp [Fails]⟩
  | unstored g now f => exact .inl ⟨rfl, f, rfl, by simp [Fails]⟩
  | stored g now answer hexpiry hchannel =>
    exact .inr ⟨rfl, by simp [Fails], g, now, _, _, answer, rfl, hexpiry, hchannel, rfl⟩

/-- A round that the store took leaves the token that was granted, if one was; any other round leaves
the token that it began with. -/
theorem Course.refreshToken_eq {result : Except Fault Int} (h : Course s turns (s', result)) :
    s'.refreshToken = if isTaken turns then (rotated? turns).getD s.refreshToken else s.refreshToken := by
  cases h with
  | refused | endless | unaddressed | unstored => rfl
  | stored g now v h hchannel =>
    cases hholds : g.refreshToken.holds <;>
      simp [State.accept, Value.orElse, isTaken, rotated?, hholds]

/-- A round asks for a grant once, first, and with the token of its state. -/
theorem Course.asks {x : State × Except Fault Int} (h : Course s turns x) :
    ∃ answer rest, turns = ⟨.grant s.refreshToken, answer⟩ :: rest ∧
      ∀ t ∈ rest, ∀ token, t.query ≠ .grant token := by
  cases h <;> exact ⟨_, _, rfl, by simp⟩

/-- A loop holds the token that was granted last and taken by the store. -/
theorem Rounds.refreshToken_eq (h : Rounds s rounds s') : s'.refreshToken = lastTaken s.refreshToken rounds := by
  induction h with
  | start => rfl
  | next h hruns ih => rw [lastTaken_snoc, (runs_once.mp hruns).refreshToken_eq, ih]

/-- No token is lost exactly if the store took the grant that carried the latest one, or the loop held that very token. -/
theorem lastTaken_eq_lastGranted_iff :
    lastTaken first rounds = lastGranted first rounds ↔
      ∀ earlier granting later token, rounds = earlier ++ granting :: later → rotated? granting = some token →
        (∀ x ∈ later, rotated? x = none) → isTaken granting ∨ token = lastTaken first earlier := by
  induction rounds using List.reverseRecOn with
  | nil => simp
  | append_singleton rounds turns ih =>
    rw [lastTaken_snoc, lastGranted_snoc]
    cases hrotated : rotated? turns with
    | none =>
      rw [Option.getD_none, Option.getD_none, ite_self, ih]
      constructor
      · intro h earlier granting later token hall hgranting hlater
        rcases snoc_eq_append_cons_iff.mp hall with ⟨-, -, rfl⟩ | ⟨between, rfl, hrounds⟩
        · cases hrotated.symm.trans hgranting
        · exact h earlier granting between token hrounds hgranting fun x hx => hlater x (by simp [hx])
      · intro h earlier granting later token hall hgranting hlater
        refine h earlier granting (later ++ [turns]) token (by simp [hall]) hgranting fun x hx => ?_
        rcases List.mem_append.mp hx with hx | hx
        · exact hlater x hx
        · rw [List.mem_singleton.mp hx, hrotated]
    | some token =>
      rw [Option.getD_some, Option.getD_some]
      constructor
      · intro h earlier granting later token' hall hgranting hlater
        rcases snoc_eq_append_cons_iff.mp hall with ⟨rfl, rfl, rfl⟩ | ⟨between, rfl, -⟩
        · obtain rfl := Option.some.inj (hrotated.symm.trans hgranting)
          cases htaken : isTaken turns with
          | true => exact .inl rfl
          | false =>
            rw [htaken, if_neg Bool.false_ne_true] at h
            exact .inr h.symm
        · cases hrotated.symm.trans (hlater turns (by simp))
      · intro h
        rcases h rounds turns [] token rfl hrotated (by simp) with htaken | rfl
        · rw [if_pos htaken]
        · rw [ite_self]

/-- **A loop asks with the latest refresh token that the store took.** Every round asks for one grant,
with the latest token that was granted and that the store took, or with the token that the loop began
with. That is the latest token that was granted exactly if the store took the grant that carried it
(or the loop held that very token before). -/
theorem asks_with_latest_taken (h : Rounds s rounds s') {before after : List (List (Turn surroundings))}
    (hround : rounds = before ++ turns :: after) :
    let sent := lastTaken s.refreshToken before
    (∃ answer rest, turns = ⟨.grant sent, answer⟩ :: rest ∧ ∀ t ∈ rest, ∀ token, t.query ≠ .grant token) ∧
      (sent = lastGranted s.refreshToken before ↔
        ∀ earlier granting later token, before = earlier ++ granting :: later → rotated? granting = some token →
          (∀ x ∈ later, rotated? x = none) → isTaken granting ∨ token = lastTaken s.refreshToken earlier) := by
  intro sent
  subst hround
  obtain ⟨s₁, x, hbefore, hcourse⟩ := h.cut
  refine ⟨?_, lastTaken_eq_lastGranted_iff⟩
  rw [show sent = s₁.refreshToken from hbefore.refreshToken_eq.symm]
  exact hcourse.asks

/-- A round that asks with one token and is granted another one, for an hour, and the answer of the
store to that. -/
def rotation (asked new : String) (answer : Except Fault Value) : List (Turn surroundings) :=
  let g : Spotify.Grant := ⟨.str "access", 3600, .str new⟩
  [⟨.grant (.str asked), .ok g⟩, ⟨.now, (⟨0⟩ : Moment)⟩,
   ⟨.store (update "chan" g ⟨3600 * Moment.second⟩), answer⟩]

/-- A round in which the provider does not answer in time. -/
def silence (asked : String) : List (Turn surroundings) := [⟨.grant (.str asked), .error .timeout⟩]

/-- The store takes the second token and not the third, so the third round asks with the second. -/
theorem asks_with_latest_taken_again :
    let s : State := { channel := .str "chan", refreshToken := .str "r1" }
    let before := [rotation "r1" "r2" (.ok .null), rotation "r2" "r3" (.error .timeout)]
    (∃ s', Rounds s (before ++ [silence "r2"]) s') ∧
      lastTaken s.refreshToken before = .str "r2" ∧ lastGranted s.refreshToken before = .str "r3" ∧
      ∃ answer rest, silence "r2" = ⟨.grant (lastTaken s.refreshToken before), answer⟩ :: rest := by
  intro s before
  have hexpiry : (⟨0⟩ : Moment).addSeconds? 3600 = some ⟨3600 * Moment.second⟩ := by decide
  have hchannel : s.channel.addressPart = .ok "chan" := rfl
  have hrounds : Rounds s (before ++ [silence "r2"]) _ :=
    .next (.next (.next .start
      (runs_once.mpr (.stored ⟨.str "access", 3600, .str "r2"⟩ ⟨0⟩ Value.null hexpiry hchannel)))
      (runs_once.mpr (.unstored ⟨.str "access", 3600, .str "r3"⟩ ⟨0⟩ .timeout hexpiry hchannel)))
      (runs_once.mpr (.refused .timeout))
  obtain ⟨answer, rest, hsent, -⟩ := (asks_with_latest_taken hrounds rfl).1
  exact ⟨⟨_, hrounds⟩, by decide, by decide, answer, rest, hsent⟩

/-- A token that the store does not take is lost: the next round asks with the one before. -/
theorem untaken_token_is_lost :
    let s : State := { channel := .str "chan", refreshToken := .str "r1" }
    let before := [rotation "r1" "r2" (.error (.store ⟨500, "db locked", none⟩))]
    (∃ s', Rounds s (before ++ [silence "r1"]) s') ∧ lastGranted s.refreshToken before = .str "r2" := by
  intro s before
  have hexpiry : (⟨0⟩ : Moment).addSeconds? 3600 = some ⟨3600 * Moment.second⟩ := by decide
  have hchannel : s.channel.addressPart = .ok "chan" := rfl
  have hrounds : Rounds s (before ++ [silence "r1"]) _ :=
    .next (.next .start
      (runs_once.mpr (.unstored ⟨.str "access", 3600, .str "r2"⟩ ⟨0⟩ _ hexpiry hchannel)))
      (runs_once.mpr (.refused .timeout))
  exact ⟨⟨_, hrounds⟩, by decide⟩

end ChannelBot.Refresh
