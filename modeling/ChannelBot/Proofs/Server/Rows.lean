/-
Rows that belong to channels, seen as a finite map: `OwnedRow.get?` reads the content under a
channel and a key, and what each change of the rows does to every reading is one equation.
Where rows are told apart by channel and key (`OwnedRow.Sound`), a search finds at most one, so
it never is ambiguous.
-/
import Mathlib.Data.List.Nodup
import ChannelBot.Server.Tables

namespace ChannelBot.Server

variable {α β : Type}

/-! ## Searches -/

/-- The result of a search that finds at most one row. -/
def Search.ofOption : Option α → Search α
  | some a => .found a
  | none => .absent

/-- At most one row matches, so the search is its first match. -/
theorem Search.of_filter {p : α → Bool} {rows : List α}
    (h : rows.Pairwise fun a b => ¬ (p a = true ∧ p b = true)) :
    Search.of (rows.filter p) = .ofOption (rows.find? p) := by
  induction rows with
  | nil => rfl
  | cons a rest ih =>
    rw [List.pairwise_cons] at h
    obtain ⟨ha, hrest⟩ := h
    by_cases hp : p a = true
    · have hnone : rest.filter p = [] := by
        rw [List.filter_eq_nil_iff]
        exact fun b hb hpb => ha b hb ⟨hp, hpb⟩
      simp [hp, hnone, Search.of, Search.ofOption]
    · simp [hp, ih hrest]

/-- Rows with distinct keys match a key at most once. -/
theorem pairwise_not_both {κ : Type} {key : α → κ} {rows : List α} (h : (rows.map key).Nodup)
    {p : α → Bool} {k : κ} (hp : ∀ a, p a = true → key a = k) :
    rows.Pairwise fun a b => ¬ (p a = true ∧ p b = true) := by
  rw [List.Nodup, List.pairwise_map] at h
  exact h.imp fun hne hboth => hne ((hp _ hboth.1).trans (hp _ hboth.2).symm)

namespace OwnedRow

/-! ## Readings -/

/-- The content of a channel's row under a key. -/
def get? (owner : Nat) (key : String) (rows : List (OwnedRow α)) : Option α :=
  (rows.find? (isAt owner key)).map (·.content)

theorem isAt_iff {owner : Nat} {key : String} {r : OwnedRow α} :
    isAt owner key r = true ↔ r.owner = owner ∧ r.key = key := by simp [isAt]

@[simp] theorem get?_nil (owner : Nat) (key : String) : get? owner key ([] : List (OwnedRow α)) = none := rfl

theorem get?_cons (owner : Nat) (key : String) (r : OwnedRow α) (rows : List (OwnedRow α)) :
    get? owner key (r :: rows) =
      if r.owner = owner ∧ r.key = key then some r.content else get? owner key rows := by
  unfold get?
  by_cases h : isAt owner key r = true
  · rw [List.find?_cons_of_pos h, if_pos (isAt_iff.mp h)]
    rfl
  · rw [List.find?_cons_of_neg h, if_neg (mt isAt_iff.mpr h)]

theorem get?_append_single (owner : Nat) (key : String) (r : OwnedRow α) (rows : List (OwnedRow α)) :
    get? owner key (rows ++ [r]) =
      (get? owner key rows).or (if r.owner = owner ∧ r.key = key then some r.content else none) := by
  induction rows with
  | nil => rw [List.nil_append, get?_cons]; simp
  | cons s rest ih =>
    simp only [List.cons_append, get?_cons, ih]
    split <;> simp

theorem get?_eq_none_iff {owner : Nat} {key : String} {rows : List (OwnedRow α)} :
    get? owner key rows = none ↔ ∀ r ∈ rows, ¬ (r.owner = owner ∧ r.key = key) := by
  simp only [get?, Option.map_eq_none_iff, List.find?_eq_none, isAt_iff]

/-! ## Changes -/

theorem insert?_eq (r : OwnedRow α) (rows : List (OwnedRow α)) :
    insert? r rows = if (get? r.owner r.key rows).isSome then none else some (rows ++ [r]) := by
  have hany : rows.any (isAt r.owner r.key) = (get? r.owner r.key rows).isSome := by
    rw [Bool.eq_iff_iff, List.any_eq_true, get?, Option.isSome_map, List.find?_isSome]
  simp [insert?, hany]

/-- Rows kept or dropped by channel and key alone. -/
theorem get?_filter (keep : Nat → String → Bool) (owner : Nat) (key : String) (rows : List (OwnedRow α)) :
    get? owner key (rows.filter fun r => keep r.owner r.key) =
      if keep owner key then get? owner key rows else none := by
  induction rows with
  | nil => simp
  | cons r rest ih =>
    by_cases hr : r.owner = owner ∧ r.key = key
    · obtain ⟨rfl, rfl⟩ := hr
      by_cases hk : keep r.owner r.key = true
      · simp [hk, get?_cons]
      · simpa [hk, get?_cons] using ih
    · by_cases hk : keep r.owner r.key = true
      · simpa [hk, get?_cons, hr] using ih
      · simpa [hk, get?_cons, hr] using ih

theorem get?_erase (owner owner' : Nat) (key key' : String) (rows : List (OwnedRow α)) :
    get? owner' key' (erase owner key rows) =
      if owner' = owner ∧ key' = key then none else get? owner' key' rows := by
  have h := get?_filter (fun o k => !(o == owner && k == key)) owner' key' rows
  simp only [Bool.not_eq_true', Bool.and_eq_false_imp, beq_iff_eq, beq_eq_false_iff_ne] at h
  rw [show erase owner key rows = rows.filter fun r => !(r.owner == owner && r.key == key) from rfl, h]
  by_cases hk : owner' = owner ∧ key' = key
  · rw [if_neg fun hn => hn hk.1 hk.2, if_pos hk]
  · rw [if_pos fun ho hkey => hk ⟨ho, hkey⟩, if_neg hk]

theorem get?_withoutOwner (owner owner' : Nat) (key : String) (rows : List (OwnedRow α)) :
    get? owner' key (withoutOwner owner rows) =
      if owner' = owner then none else get? owner' key rows := by
  have h := get?_filter (fun o _ => o != owner) owner' key rows
  rw [withoutOwner, h]
  by_cases ho : owner' = owner <;> simp [ho]

theorem get?_update (owner owner' : Nat) (key key' : String) (content : α) (rows : List (OwnedRow α)) :
    get? owner' key' (update owner key content rows) =
      if owner' = owner ∧ key' = key then (get? owner' key' rows).map fun _ => content
      else get? owner' key' rows := by
  induction rows with
  | nil => simp [update]
  | cons r rest ih =>
    rw [update] at ih ⊢
    rw [List.map_cons, get?_cons, get?_cons, ih]
    by_cases hr : r.owner = owner' ∧ r.key = key'
    · obtain ⟨rfl, rfl⟩ := hr
      by_cases hk : r.owner = owner ∧ r.key = key
      · simp [isAt, hk]
      · simp [isAt, hk]
    · by_cases hat : isAt owner key r = true <;> simp [hat, hr]

/-! ## Frames -/

theorem get?_append_other {owner : Nat} {r : OwnedRow α} (ho : owner ≠ r.owner) (key : String)
    (rows : List (OwnedRow α)) : get? owner key (rows ++ [r]) = get? owner key rows := by
  rw [get?_append_single, if_neg fun hk => ho hk.1.symm, Option.or_none]

theorem get?_erase_other {owner owner' : Nat} (ho : owner' ≠ owner) (key key' : String)
    (rows : List (OwnedRow α)) : get? owner' key' (erase owner key rows) = get? owner' key' rows := by
  rw [get?_erase, if_neg fun hk => ho hk.1]

theorem get?_update_other {owner owner' : Nat} (ho : owner' ≠ owner) (key key' : String) (content : α)
    (rows : List (OwnedRow α)) : get? owner' key' (update owner key content rows) = get? owner' key' rows := by
  rw [get?_update, if_neg fun hk => ho hk.1]

/-! ## Rows told apart -/

/-- Rows told apart by channel and key, all of them of channels that exist. -/
structure Sound (ids : List Nat) (rows : List (OwnedRow α)) : Prop where
  unique : (rows.map fun r => (r.owner, r.key)).Nodup
  owned : ∀ r ∈ rows, r.owner ∈ ids

theorem find?_isAt (owner : Nat) (key : String) (rows : List (OwnedRow α)) :
    rows.find? (isAt owner key) = (get? owner key rows).map fun c => ⟨owner, key, c⟩ := by
  rw [get?]
  cases h : rows.find? (isAt owner key) with
  | none => rfl
  | some r =>
    obtain ⟨rfl, rfl⟩ := isAt_iff.mp (List.find?_some h)
    rfl

/-- A search among sound rows reads the map. -/
theorem Sound.find_eq {ids : List Nat} {rows : List (OwnedRow α)} (h : Sound ids rows)
    (owner : Nat) (key : String) :
    find owner key rows = .ofOption ((get? owner key rows).map fun c => ⟨owner, key, c⟩) := by
  rw [find, ← find?_isAt]
  refine Search.of_filter (pairwise_not_both h.unique (k := (owner, key)) fun r hr => ?_)
  obtain ⟨rfl, rfl⟩ := isAt_iff.mp hr
  rfl

theorem Sound.get?_of_not_mem {ids : List Nat} {rows : List (OwnedRow α)} (h : Sound ids rows)
    {owner : Nat} (ho : owner ∉ ids) (key : String) : get? owner key rows = none :=
  get?_eq_none_iff.mpr fun r hr hk => ho (hk.1 ▸ h.owned r hr)

theorem Sound.nil {ids : List Nat} : Sound ids ([] : List (OwnedRow α)) := ⟨List.nodup_nil, by simp⟩

theorem Sound.mono {ids ids' : List Nat} {rows : List (OwnedRow α)} (h : Sound ids rows)
    (hsub : ids ⊆ ids') : Sound ids' rows := ⟨h.unique, fun r hr => hsub (h.owned r hr)⟩

theorem Sound.sublist {ids : List Nat} {rows rows' : List (OwnedRow α)} (h : Sound ids rows)
    (hsub : rows'.Sublist rows) : Sound ids rows' :=
  ⟨h.unique.sublist (hsub.map _), fun r hr => h.owned r (hsub.subset hr)⟩

theorem Sound.append_single {ids : List Nat} {rows : List (OwnedRow α)} (h : Sound ids rows)
    {r : OwnedRow α} (hnone : get? r.owner r.key rows = none) (ho : r.owner ∈ ids) :
    Sound ids (rows ++ [r]) := by
  constructor
  · rw [List.map_append, List.map_singleton, List.nodup_append]
    refine ⟨h.unique, List.nodup_singleton _, ?_⟩
    intro a ha b hb heq
    subst heq
    obtain ⟨s, hs, hsa⟩ := List.mem_map.mp ha
    rw [List.mem_singleton] at hb
    rw [hb, Prod.mk.injEq] at hsa
    exact get?_eq_none_iff.mp hnone s hs hsa
  · intro s hs
    rcases List.mem_append.mp hs with hs | hs
    · exact h.owned s hs
    · rw [List.mem_singleton.mp hs]
      exact ho

theorem Sound.erase {ids : List Nat} {rows : List (OwnedRow α)} (h : Sound ids rows)
    (owner : Nat) (key : String) : Sound ids (OwnedRow.erase owner key rows) :=
  h.sublist List.filter_sublist

theorem Sound.update {ids : List Nat} {rows : List (OwnedRow α)} (h : Sound ids rows)
    (owner : Nat) (key : String) (content : α) : Sound ids (OwnedRow.update owner key content rows) := by
  have hkey : ∀ r : OwnedRow α, (if isAt owner key r then { r with content := content } else r).owner = r.owner ∧
      (if isAt owner key r then { r with content := content } else r).key = r.key := by
    intro r
    split <;> exact ⟨rfl, rfl⟩
  constructor
  · rw [OwnedRow.update, List.map_map]
    have hmap : (fun r : OwnedRow α => (r.owner, r.key)) ∘
        (fun r => if isAt owner key r then { r with content := content } else r) =
        fun r => (r.owner, r.key) := by
      funext r
      simp only [Function.comp_apply, (hkey r).1, (hkey r).2]
    rw [hmap]
    exact h.unique
  · intro r hr
    obtain ⟨s, hs, rfl⟩ := List.mem_map.mp hr
    rw [(hkey s).1]
    exact h.owned s hs

/-- Dropping a channel's rows leaves those of the other channels. -/
theorem Sound.withoutOwner {ids ids' : List Nat} {rows : List (OwnedRow α)} (h : Sound ids rows)
    {owner : Nat} (hids : ∀ i ∈ ids, i ≠ owner → i ∈ ids') : Sound ids' (OwnedRow.withoutOwner owner rows) := by
  refine ⟨h.unique.sublist (List.filter_sublist.map _), fun r hr => ?_⟩
  obtain ⟨hmem, hne⟩ := List.mem_filter.mp hr
  exact hids _ (h.owned r hmem) (by simpa using hne)

end OwnedRow

end ChannelBot.Server
