/-
Lists of scopes. What is kept of a list are its trimmed entries, each at its first place
(`isNormal_normalize`). They are kept in one text and read as its words: those are the kept entries just if
each of them is one word (`shown_eq_normalize_iff`), and a list that was read is read again as it is just if
nothing occurs in it twice (`shown_shown_iff`).
-/
import ChannelBot.Proofs.Text.Words
import ChannelBot.Server.Normal

namespace ChannelBot.Scope

variable {s : String} {seen entries scopes : List String}

/-! ## First occurrences -/

theorem mem_distinct : s ∈ distinct seen entries ↔ s ∈ entries ∧ s ∉ seen := by
  induction entries generalizing seen with
  | nil => simp [distinct]
  | cons e rest ih =>
    rw [distinct]
    split
    next he =>
      rw [List.contains_iff_mem] at he
      rw [ih, List.mem_cons]
      constructor
      · exact fun ⟨hmem, hfresh⟩ => ⟨.inr hmem, hfresh⟩
      · rintro ⟨rfl | hmem, hfresh⟩
        · exact absurd he hfresh
        · exact ⟨hmem, hfresh⟩
    next he =>
      rw [List.contains_iff_mem] at he
      rw [List.mem_cons, ih, List.mem_cons, List.mem_cons, not_or]
      constructor
      · rintro (rfl | ⟨hmem, -, hfresh⟩)
        · exact ⟨.inl rfl, he⟩
        · exact ⟨.inr hmem, hfresh⟩
      · rintro ⟨rfl | hmem, hfresh⟩
        · exact .inl rfl
        · by_cases hse : s = e
          · exact .inl hse
          · exact .inr ⟨hmem, hse, hfresh⟩

theorem nodup_distinct (seen entries : List String) : (distinct seen entries).Nodup := by
  induction entries generalizing seen with
  | nil => exact List.nodup_nil
  | cons e rest ih =>
    rw [distinct]
    split
    · exact ih seen
    · exact List.nodup_cons.mpr ⟨fun hmem => (mem_distinct.mp hmem).2 List.mem_cons_self, ih _⟩

/-- The first occurrences stay in order. -/
theorem pairwise_distinct (seen entries : List String) :
    (distinct seen entries).Pairwise fun s t => entries.idxOf s < entries.idxOf t := by
  induction entries generalizing seen with
  | nil => exact .nil
  | cons e rest ih =>
    have hlater : ∀ seen, e ∈ seen →
        (distinct seen rest).Pairwise fun s t => (e :: rest).idxOf s < (e :: rest).idxOf t := by
      intro seen he
      refine (ih seen).imp_of_mem fun {s t} hs ht hlt => ?_
      have hne : ∀ {u}, u ∈ distinct seen rest → e ≠ u := fun hu heq => (mem_distinct.mp hu).2 (heq ▸ he)
      rw [List.idxOf_cons_ne _ (hne hs), List.idxOf_cons_ne _ (hne ht)]
      exact Nat.succ_lt_succ hlt
    rw [distinct]
    split
    next he => exact hlater seen (List.contains_iff_mem.mp he)
    next =>
      refine List.pairwise_cons.mpr ⟨fun t ht => ?_, hlater _ List.mem_cons_self⟩
      have hne : e ≠ t := fun heq => (mem_distinct.mp ht).2 (heq ▸ List.mem_cons_self)
      rw [List.idxOf_cons_self, List.idxOf_cons_ne _ hne]
      exact Nat.succ_pos _

/-- Where nothing occurs twice, every occurrence is the first. -/
theorem distinct_eq_self (hnodup : entries.Nodup) (hfresh : ∀ s ∈ entries, s ∉ seen) :
    distinct seen entries = entries := by
  induction entries generalizing seen with
  | nil => rfl
  | cons e rest ih =>
    obtain ⟨he, hrest⟩ := List.nodup_cons.mp hnodup
    rw [distinct, if_neg (by simpa using hfresh e List.mem_cons_self)]
    refine congrArg _ (ih hrest fun s hs hseen => ?_)
    rcases List.mem_cons.mp hseen with rfl | hseen
    · exact he hs
    · exact hfresh s (List.mem_cons_of_mem e hs) hseen

/-! ## Lists as they are kept -/

/-- The entries of a list that are not blank, trimmed. -/
def filled (scopes : List String) : List String := (scopes.map Text.trim).filter (!·.isEmpty)

/-- A list has the filled entries of another, each once and in the order of their first occurrences. -/
structure IsNormal (scopes kept : List String) : Prop where
  mem : ∀ s, s ∈ kept ↔ s ≠ "" ∧ ∃ e ∈ scopes, Text.trim e = s
  nodup : kept.Nodup
  order : kept.Pairwise fun s t => (filled scopes).idxOf s < (filled scopes).idxOf t

theorem mem_filled : s ∈ filled scopes ↔ s ≠ "" ∧ ∃ e ∈ scopes, Text.trim e = s := by
  rw [filled, List.mem_filter, List.mem_map]
  simp [and_comm]

theorem mem_normalize : s ∈ normalize scopes ↔ s ≠ "" ∧ ∃ e ∈ scopes, Text.trim e = s := by
  rw [normalize, mem_distinct, ← filled, mem_filled]
  exact and_iff_left List.not_mem_nil

/-- What is kept of a list are its entries, each at its first place. -/
theorem isNormal_normalize (scopes : List String) : IsNormal scopes (normalize scopes) :=
  ⟨fun _ => mem_normalize, nodup_distinct _ _, pairwise_distinct _ _⟩

theorem normalize_ne_nil (h : ∃ e ∈ scopes, Text.trim e ≠ "") : normalize scopes ≠ [] := by
  obtain ⟨e, he, hne⟩ := h
  exact List.ne_nil_of_mem (mem_normalize.mpr ⟨hne, e, he, rfl⟩)

/-- Words that do not repeat are kept as they are. -/
theorem normalize_words (hwords : ∀ s ∈ scopes, Text.IsWord s) (hnodup : scopes.Nodup) :
    normalize scopes = scopes := by
  have htrim : ∀ s ∈ scopes, Text.trim s = s := fun s hs => Text.IsWord.trim_eq (hwords s hs)
  have hfilled : ∀ s ∈ scopes, (!s.isEmpty) = true := fun s hs => by
    have hne : s ≠ "" := fun hempty => (hwords s hs).ne_nil (by rw [hempty]; rfl)
    simpa using hne
  rw [normalize, List.map_congr_left htrim, List.map_id', List.filter_eq_self.mpr hfilled]
  exact distinct_eq_self hnodup fun _ _ => List.not_mem_nil

/-! ## Lists as they are shown -/

/-- What is shown of a list that was kept in one text. -/
def shown (scopes : List String) : List String := Text.words (Text.unwords (normalize scopes))

/-- What is shown are the words of the kept entries. -/
theorem shown_eq (scopes : List String) : shown scopes = (normalize scopes).flatMap Text.words :=
  Text.words_unwords_eq _

theorem isWord_of_mem_shown (h : s ∈ shown scopes) : Text.IsWord s := Text.isWord_of_mem_words h

/-- The kept entries are shown just if no entry has white space inside. -/
theorem shown_eq_normalize_iff : shown scopes = normalize scopes ↔ ∀ e ∈ scopes, (Text.words e).length ≤ 1 := by
  constructor
  · intro h e he
    by_cases hempty : Text.trim e = ""
    · exact Text.words_length_le_one_iff.mpr (.inl hempty)
    · have hmem : Text.trim e ∈ normalize scopes := mem_normalize.mpr ⟨hempty, e, he, rfl⟩
      rw [← h] at hmem
      exact Text.words_length_le_one_iff.mpr (.inr (isWord_of_mem_shown hmem))
  · intro h
    refine Text.words_unwords fun s hs => ?_
    obtain ⟨hne, e, he, rfl⟩ := mem_normalize.mp hs
    exact (Text.words_length_le_one_iff.mp (h e he)).resolve_left hne

/-- A list of words is shown as what is kept of it. -/
theorem shown_of_words (h : ∀ s ∈ scopes, Text.IsWord s) : shown scopes = normalize scopes :=
  shown_eq_normalize_iff.mpr fun s hs => by
    rw [(h s hs).words_eq]
    exact Nat.le_refl 1

/-- A list that was shown is shown again just if nothing occurs twice in it. -/
theorem shown_shown_iff : shown (shown scopes) = shown scopes ↔ (shown scopes).Nodup := by
  rw [shown_of_words fun _ => isWord_of_mem_shown]
  constructor
  · intro h
    rw [← h]
    exact nodup_distinct _ _
  · exact normalize_words fun _ => isWord_of_mem_shown

end ChannelBot.Scope
