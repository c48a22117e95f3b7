/-
Lower case twice is lower case once (`lower_lower`): no range of the table leads into a range, and the
characters that have a rule of their own are led to by none. White space is in no range and is led to by
none, so lower case leaves it where it is (`lowerAt_ends`, `trimEnd_lowerFrom`).
-/
import ChannelBot.Proofs.Text.Blank
import ChannelBot.Proofs.Text.Lower

namespace ChannelBot

namespace Case

open Chars (isBlank)

/-- A range of the table holds a character, and leads to another; a code point that there is not counts as zero. -/
structure Leads (e : Nat × Nat × Nat × Int) (c d : Char) : Prop where
  low : e.1 ≤ c.toNat
  high : c.toNat ≤ e.2.1
  step : (c.toNat - e.1) % e.2.2.1 = 0
  shifted : (d.toNat : Int) = c.toNat + e.2.2.2 ∨ d.toNat = 0

/-- The form of an ASCII character, of one in the table, and of any other one. -/
theorem lowerChar_cases (c : Char) :
    (c.toNat < 128 ∧ lowerChar c = c.toLower) ∨ (∃ e ∈ lowerRanges, Leads e c (lowerChar c)) ∨ lowerChar c = c := by
  unfold lowerChar
  split
  · rename_i h
    exact .inl ⟨h, rfl⟩
  split
  · rename_i first last step shift hfind
    have hmem := List.mem_of_find?_eq_some hfind
    have habove := List.all_eq_true.mp lowerRanges_above _ hmem
    have hrange := List.find?_some hfind
    simp only [Bool.and_eq_true, decide_eq_true_eq, beq_iff_eq] at hrange habove
    refine .inr (.inl ⟨_, hmem, hrange.1.1, hrange.1.2, hrange.2, ?_⟩)
    refine (toNat_ofNat_or (c.toNat + shift).toNat).imp (fun hnat => ?_) id
    rw [hnat]
    exact Int.toNat_of_nonneg (by omega)
  · exact .inr (.inr rfl)

/-- White space as ranges of code points. -/
def blankRanges : List (Nat × Nat) :=
  [(9, 13), (28, 32), (0x85, 0x85), (0xa0, 0xa0), (0x1680, 0x1680), (0x2000, 0x200a), (0x2028, 0x2029),
   (0x202f, 0x202f), (0x205f, 0x205f), (0x3000, 0x3000)]

theorem isBlank_iff {c : Char} : isBlank c = true ↔ ∃ r ∈ blankRanges, r.1 ≤ c.toNat ∧ c.toNat ≤ r.2 := by
  simp only [isBlank, blankRanges, Bool.or_eq_true, Bool.and_eq_true, decide_eq_true_eq, beq_iff_eq, List.mem_cons,
    List.not_mem_nil, or_false, exists_eq_or_imp, exists_eq_left]
  omega

/-- Characters from `low` to `high` are not in a range: the one ends before the other begins, or they take turns. -/
def apart (low high step : Nat) (e : Nat × Nat × Nat × Int) : Bool :=
  high.blt e.1 || e.2.1.blt low || (e.2.2.1 == 2 && (step == 2 || low == high) && (low + e.1) % 2 == 1)

/-- What a range leads to is in no range. -/
theorem lowerRanges_apart : lowerRanges.all (fun e =>
    lowerRanges.all (apart (e.1 + e.2.2.2).toNat (e.2.1 + e.2.2.2).toNat e.2.2.1)) = true := by decide +kernel

/-- No range has white space, or leads to some, or to the one other letter that has a rule of its own. -/
theorem lowerRanges_inked : lowerRanges.all (fun e => (blankRanges ++ [(0x130, 0x130)]).all fun r =>
    (r.2 < e.1 || e.2.1 < r.1) && ((r.2 : Int) < e.1 + e.2.2.2 || (e.2.1 : Int) + e.2.2.2 < r.1)) = true := by
  decide +kernel

variable {e e' : Nat × Nat × Nat × Int} {c d : Char}

theorem Leads.not_mem {r : Nat × Nat} (he : e ∈ lowerRanges) (h : Leads e c d)
    (hr : r ∈ blankRanges ++ [(0x130, 0x130)]) :
    ¬ (r.1 ≤ c.toNat ∧ c.toNat ≤ r.2) ∧ ¬ (r.1 ≤ d.toNat ∧ d.toNat ≤ r.2) := by
  have hinked := List.all_eq_true.mp (List.all_eq_true.mp lowerRanges_inked e he) r hr
  have hpositive : ∀ r ∈ blankRanges ++ [(0x130, 0x130)], 0 < r.1 := by decide
  have hr' := hpositive r hr
  obtain ⟨hlo, hhi, -, hshift⟩ := h
  simp only [Bool.and_eq_true, Bool.or_eq_true, decide_eq_true_eq] at hinked
  omega

theorem Leads.above (he : e ∈ lowerRanges) (h : Leads e c d) : 90 < d.toNat ∨ d.toNat = 0 := by
  have habove := List.all_eq_true.mp lowerRanges_above e he
  simp only [decide_eq_true_eq] at habove
  obtain ⟨hlo, -, -, hshift⟩ := h
  omega

theorem Leads.not_leads (he : e ∈ lowerRanges) (he' : e' ∈ lowerRanges) (h : Leads e c d) (hd : d.toNat ≠ 0) :
    ¬ (e'.1 ≤ d.toNat ∧ d.toNat ≤ e'.2.1 ∧ (d.toNat - e'.1) % e'.2.2.1 = 0) := by
  have hapart := List.all_eq_true.mp (List.all_eq_true.mp lowerRanges_apart e he) e' he'
  obtain ⟨hlo, hhi, hstep, hshift⟩ := h
  rintro ⟨hlo', hhi', hstep'⟩
  have habove := List.all_eq_true.mp lowerRanges_above e he
  simp only [apart, Bool.and_eq_true, Bool.or_eq_true, Nat.blt_eq, beq_iff_eq] at hapart
  simp only [decide_eq_true_eq] at habove
  rcases hapart with (hbefore | hafter) | ⟨⟨htwo, hkind⟩, hodd⟩
  · omega
  · omega
  · rw [htwo] at hstep'
    rcases hkind with hkind | hkind
    · rw [hkind] at hstep
      omega
    · omega

theorem isBlank_toLower (c : Char) : isBlank c.toLower = isBlank c := by
  by_cases h : 65 ≤ c.toNat ∧ c.toNat ≤ 90
  · exact of_capitals (P := fun c => isBlank c.toLower = isBlank c) (by decide) h
  · rw [toLower_of_toNat (by omega)]

/-- Lower case leaves white space where it is, and makes no more of it. -/
theorem isBlank_lowerChar (c : Char) : isBlank (lowerChar c) = isBlank c := by
  rcases lowerChar_cases c with ⟨-, h⟩ | ⟨e, he, h⟩ | h
  · rw [h, isBlank_toLower]
  · have hinked : ∀ r ∈ blankRanges, _ := fun r hr => h.not_mem he (List.mem_append_left _ hr)
    have hc : isBlank c = false := Bool.eq_false_iff.mpr fun hblank =>
      let ⟨r, hr, hrange⟩ := isBlank_iff.mp hblank
      (hinked r hr).1 hrange
    have hd : isBlank (lowerChar c) = false := Bool.eq_false_iff.mpr fun hblank =>
      let ⟨r, hr, hrange⟩ := isBlank_iff.mp hblank
      (hinked r hr).2 hrange
    rw [hc, hd]
  · rw [h]

/-- A character that lower case leaves as it is. -/
structure IsLow (c : Char) : Prop where
  self : lowerChar c = c
  sigma : c ≠ 'Σ'
  dotted : c ≠ 'İ'

theorem lowerChar_of_not_mem (hc : ¬ (65 ≤ c.toNat ∧ c.toNat ≤ 90))
    (h : ∀ e ∈ lowerRanges, ¬ (e.1 ≤ c.toNat ∧ c.toNat ≤ e.2.1 ∧ (c.toNat - e.1) % e.2.2.1 = 0)) : lowerChar c = c := by
  unfold lowerChar
  split
  · exact toLower_of_toNat (by omega)
  split
  · rename_i first last step shift hfind
    have hrange := List.find?_some hfind
    simp only [Bool.and_eq_true, decide_eq_true_eq, beq_iff_eq] at hrange
    exact absurd ⟨hrange.1.1, hrange.1.2, hrange.2⟩ (h _ (List.mem_of_find?_eq_some hfind))
  · rfl

theorem isLow_lowerChar (hsigma : c ≠ 'Σ') (hdotted : c ≠ 'İ') : IsLow (lowerChar c) := by
  have hnat : ∀ {d e : Char}, d.toNat ≠ e.toNat → d ≠ e := fun h heq => h (congrArg Char.toNat heq)
  rcases lowerChar_cases c with ⟨hc, h⟩ | ⟨e, he, h⟩ | h
  · rw [h]
    have hlow : c.toLower.toNat < 128 := by
      by_cases hcapital : 65 ≤ c.toNat ∧ c.toNat ≤ 90
      · exact of_capitals (P := fun c => c.toLower.toNat < 128) (by decide) hcapital
      · rwa [toLower_of_toNat (by omega)]
    exact ⟨by rw [lowerChar, if_pos hlow, toLower_toLower], hnat (by simp; omega), hnat (by simp; omega)⟩
  · by_cases hzero : (lowerChar c).toNat = 0
    · rw [show lowerChar c = '\x00' from Char.toNat_inj.mp hzero]
      exact ⟨by decide, by decide, by decide⟩
    · have hapart : ∀ e' ∈ lowerRanges, _ := fun e' he' => h.not_leads he he' hzero
      have habove := h.above he
      refine ⟨lowerChar_of_not_mem (by omega) hapart, ?_, ?_⟩
      · intro heq
        exact hapart (0x3a3, 0x3ab, 1, 32) (by decide) (by rw [heq]; decide)
      · intro heq
        exact (h.not_mem he (r := (0x130, 0x130)) (by decide)).2 (by rw [heq]; decide)
  · rw [h]
    exact ⟨h, hsigma, hdotted⟩

/-! ## Texts -/

theorem isLow_of_mem_lowerAt {behind : Bool} {rest : List Char} (h : d ∈ lowerAt behind c rest) : IsLow d := by
  unfold lowerAt at h
  split at h
  · split at h <;> rw [List.mem_singleton] at h <;> subst h <;> exact ⟨by decide, by decide, by decide⟩
  rename_i hsigma
  split at h
  · rcases List.mem_pair.mp h with rfl | rfl <;> exact ⟨by decide, by decide, by decide⟩
  · rename_i hdotted
    rw [List.mem_singleton] at h
    subst h
    exact isLow_lowerChar (by simpa using hsigma) (by simpa using hdotted)

theorem isLow_of_mem_lowerFrom {s : List Char} {behind : Bool} (h : d ∈ lowerFrom behind s) : IsLow d := by
  induction s generalizing behind with
  | nil => cases h
  | cons c rest ih =>
    rcases List.mem_append.mp h with h | h
    · exact isLow_of_mem_lowerAt h
    · exact ih h

/-- A text in lower case stays what it is. -/
theorem lowerFrom_of_isLow {s : List Char} (h : ∀ c ∈ s, IsLow c) (behind : Bool) : lowerFrom behind s = s := by
  induction s generalizing behind with
  | nil => rfl
  | cons c rest ih =>
    obtain ⟨hself, hsigma, hdotted⟩ := h c List.mem_cons_self
    have hat : lowerAt behind c rest = [c] := by
      rw [lowerAt, if_neg (by simpa using hsigma), if_neg (by simpa using hdotted), hself]
    rw [lowerFrom, hat, ih fun d hd => h d (List.mem_cons_of_mem c hd)]
    rfl

theorem lowerChar_eq_hash_iff : lowerChar c = '#' ↔ c = '#' := by
  constructor
  · intro hhash
    rcases lowerChar_cases c with ⟨-, h⟩ | ⟨e, he, h⟩ | h
    · by_cases hcapital : 65 ≤ c.toNat ∧ c.toNat ≤ 90
      · have hother : c.toLower ≠ '#' := of_capitals (P := fun c => c.toLower ≠ '#') (by decide) hcapital
        exact absurd (h.symm.trans hhash) hother
      · rwa [h, toLower_of_toNat (by omega)] at hhash
    · have habove := h.above he
      rw [hhash] at habove
      exact absurd habove (by decide)
    · rwa [h] at hhash
  · rintro rfl
    decide

/-- The form of a character starts with white space, or with a number sign, just if the character is that, and it
ends with white space just if the character is white space. -/
theorem lowerAt_ends (behind : Bool) (c : Char) (rest : List Char) :
    (∃ d tail, lowerAt behind c rest = d :: tail ∧ isBlank d = isBlank c ∧ (d = '#' ↔ c = '#')) ∧
      ∃ lead d, lowerAt behind c rest = lead ++ [d] ∧ isBlank d = isBlank c := by
  unfold lowerAt
  split
  · rename_i hsigma
    obtain rfl : c = 'Σ' := by simpa using hsigma
    split <;> exact ⟨⟨_, [], rfl, by decide, by decide⟩, [], _, rfl, by decide⟩
  split
  · rename_i hdotted
    obtain rfl : c = 'İ' := by simpa using hdotted
    exact ⟨⟨'i', ['\u0307'], rfl, by decide, by decide⟩, ['i'], '\u0307', rfl, by decide⟩
  · exact ⟨⟨_, [], rfl, isBlank_lowerChar c, lowerChar_eq_hash_iff⟩, [], _, rfl, isBlank_lowerChar c⟩

/-- The end of a text is put into lower case on its own. -/
theorem lowerFrom_append (s t : List Char) (behind : Bool) :
    ∃ lead behind', lowerFrom behind (s ++ t) = lead ++ lowerFrom behind' t := by
  induction s generalizing behind with
  | nil => exact ⟨[], behind, rfl⟩
  | cons c rest ih =>
    obtain ⟨lead, behind', hlead⟩ := ih (if isIgnorable c then behind else isCased c)
    exact ⟨lowerAt behind c (rest ++ t) ++ lead, behind', by rw [List.cons_append, lowerFrom, hlead, List.append_assoc]⟩

/-- A text that has no white space at its end has none there in lower case. -/
theorem trimEnd_lowerFrom {s : List Char} (h : Chars.trimEnd s = s) (behind : Bool) :
    Chars.trimEnd (lowerFrom behind s) = lowerFrom behind s := by
  rcases s.eq_nil_or_concat with rfl | ⟨r, c, rfl⟩
  · rfl
  · rw [List.concat_eq_append] at h ⊢
    obtain ⟨lead, behind', hlead⟩ := lowerFrom_append r [c] behind
    obtain ⟨-, front, d, hend, hblank⟩ := lowerAt_ends behind' c []
    have hc : isBlank c = false := Chars.trimEnd_append_singleton_iff.mp h
    rw [hlead, lowerFrom, lowerFrom, List.append_nil, hend, ← List.append_assoc]
    exact Chars.trimEnd_append_singleton_iff.mpr (hblank.trans hc)

end Case

namespace Text

/-- A text of characters that stand in a text in lower case stays what it is. -/
theorem lower_eq_self {s t : String} (h : s.toList ⊆ (lower t).toList) : lower s = s := by
  have hlow : ∀ c ∈ s.toList, Case.IsLow c := fun c hc => by
    have hmem := h hc
    rw [lower, String.toList_ofList] at hmem
    exact Case.isLow_of_mem_lowerFrom hmem
  rw [lower, Case.lowerFrom_of_isLow hlow, String.ofList_toList]

/-- Lower case of a text in lower case is that text. -/
theorem lower_lower (s : String) : lower (lower s) = lower s := lower_eq_self (t := s) fun _ hc => hc

theorem lower_eq_empty_iff {s : String} : lower s = "" ↔ s = "" := by
  rw [lower, ← String.toList_inj, String.toList_ofList, ← String.toList_inj]
  show Case.lowerFrom false s.toList = [] ↔ s.toList = []
  cases s.toList with
  | nil => simp [Case.lowerFrom]
  | cons c rest =>
    obtain ⟨⟨d, tail, hat, -⟩, -⟩ := Case.lowerAt_ends false c rest
    simp [Case.lowerFrom, hat]

end Text

end ChannelBot
