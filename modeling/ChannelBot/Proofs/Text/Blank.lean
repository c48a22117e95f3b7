/-
Cuts along white space. A text opens with a word if it is blanks, the word, and what follows it;
that is what the first word is (`firstWord?_eq_some_iff`), and the words of a text are that one and
the words of the rest (`Opens.words_eq`). Trimming leaves the one middle part that has no blank at
its ends (`trim_eq_iff`).
-/
import Mathlib.Data.List.DropRight
import ChannelBot.Text.Blank

namespace ChannelBot.Chars

variable {s w rest lead tail middle : List Char} {c : Char}

/-- Nothing but white space. -/
def IsGap (s : List Char) : Prop := ∀ c ∈ s, isBlank c = true

/-- A word: some characters, none of them white space. -/
structure IsWord (w : List Char) : Prop where
  ne_nil : w ≠ []
  inked : ∀ c ∈ w, isBlank c = false

/-- A text opens with a word, and goes on with the rest at its next word. -/
structure Opens (s w rest : List Char) : Prop where
  word : IsWord w
  begins : trimStart rest = rest
  cut : ∃ lead gap, IsGap lead ∧ IsGap gap ∧ (gap = [] → rest = []) ∧ s = lead ++ (w ++ (gap ++ rest))

/-! ## The start of a text -/

theorem trimStart_cons_blank (h : isBlank c = true) : trimStart (c :: s) = trimStart s := List.dropWhile_cons_of_pos h

theorem trimStart_cons_inked (h : isBlank c = false) : trimStart (c :: s) = c :: s :=
  List.dropWhile_cons_of_neg (by simp [h])

theorem trimStart_gap_append (h : IsGap lead) (s : List Char) : trimStart (lead ++ s) = trimStart s :=
  List.dropWhile_append_of_pos h

theorem trimStart_eq_nil_iff : trimStart s = [] ↔ IsGap s := List.dropWhile_eq_nil_iff

theorem trimStart_trimStart (s : List Char) : trimStart (trimStart s) = trimStart s := List.dropWhile_idempotent _ _

/-- A text is its blanks at the start and what trimming them leaves. -/
theorem exists_gap_trimStart (s : List Char) : ∃ lead, IsGap lead ∧ s = lead ++ trimStart s :=
  ⟨s.takeWhile isBlank, fun _ hc => List.mem_takeWhile_imp hc, List.takeWhile_append_dropWhile.symm⟩

/-- A text that keeps its start is empty or starts with ink. -/
theorem trimStart_eq_self_iff : trimStart s = s ↔ ∀ c r, s = c :: r → isBlank c = false := by
  cases s with
  | nil => simp [trimStart]
  | cons c r =>
    cases hc : isBlank c with
    | true =>
      rw [trimStart_cons_blank hc]
      constructor
      · intro h
        have hle := List.length_dropWhile_le isBlank r
        rw [show r.dropWhile isBlank = c :: r from h, List.length_cons] at hle
        omega
      · intro h
        rw [h c r rfl] at hc
        cases hc
    | false =>
      rw [trimStart_cons_inked hc]
      constructor
      · rintro - _ _ ⟨rfl, rfl⟩
        exact hc
      · exact fun _ => rfl

theorem IsWord.trimStart_append (h : IsWord w) (s : List Char) : trimStart (w ++ s) = w ++ s := by
  obtain ⟨c, r, rfl⟩ := List.exists_cons_of_ne_nil h.ne_nil
  exact trimStart_cons_inked (h.inked c List.mem_cons_self)

/-! ## The end of a text -/

theorem trimEnd_eq_reverse (s : List Char) : trimEnd s = (trimStart s.reverse).reverse := rfl

theorem isGap_reverse : IsGap s.reverse ↔ IsGap s := by simp [IsGap]

theorem trimEnd_append_gap (h : IsGap tail) (s : List Char) : trimEnd (s ++ tail) = trimEnd s := by
  rw [trimEnd_eq_reverse, List.reverse_append, trimStart_gap_append (isGap_reverse.mpr h), trimEnd_eq_reverse]

theorem trimEnd_trimEnd (s : List Char) : trimEnd (trimEnd s) = trimEnd s := List.rdropWhile_idempotent _ _

/-- A text is what trimming its end leaves and the blanks that were there. -/
theorem exists_gap_trimEnd (s : List Char) : ∃ tail, IsGap tail ∧ s = trimEnd s ++ tail := by
  obtain ⟨lead, hlead, hs⟩ := exists_gap_trimStart s.reverse
  refine ⟨lead.reverse, isGap_reverse.mpr hlead, ?_⟩
  rw [trimEnd_eq_reverse, ← List.reverse_append, ← hs, List.reverse_reverse]

/-- Only the part behind ink is trimmed. -/
theorem trimEnd_append_of_ne_nil (h : trimEnd rest ≠ []) (s : List Char) : trimEnd (s ++ rest) = s ++ trimEnd rest := by
  have hrev : trimStart rest.reverse ≠ [] := by
    rwa [trimEnd_eq_reverse, Ne, List.reverse_eq_nil_iff] at h
  rw [trimEnd_eq_reverse, List.reverse_append, trimStart, List.dropWhile_append,
    if_neg (by simpa [trimStart] using hrev), trimEnd_eq_reverse, List.reverse_append, List.reverse_reverse, trimStart]

/-- The end of a text that keeps its end keeps it too. -/
theorem trimEnd_right (h : trimEnd (s ++ rest) = s ++ rest) : trimEnd rest = rest := by
  by_cases hrest : trimEnd rest = []
  · obtain ⟨tail, htail, heq⟩ := exists_gap_trimEnd rest
    rw [hrest, List.nil_append] at heq
    subst heq
    rw [trimEnd_append_gap htail] at h
    obtain ⟨gap, -, hs⟩ := exists_gap_trimEnd s
    have hlength := congrArg List.length (h.symm.trans (List.append_nil _).symm)
    have hshort := congrArg List.length hs
    rw [hrest]
    refine (List.length_eq_zero_iff.mp ?_).symm
    simp only [List.length_append, List.length_nil] at hlength hshort
    omega
  · rw [trimEnd_append_of_ne_nil hrest] at h
    exact List.append_cancel_left h

/-- A text keeps its end if it ends with ink. -/
theorem trimEnd_append_singleton_iff : trimEnd (s ++ [c]) = s ++ [c] ↔ isBlank c = false := by
  have hreverse : (s ++ [c]).reverse = c :: s.reverse := by rw [List.reverse_append, List.reverse_singleton]; rfl
  rw [trimEnd_eq_reverse, ← List.reverse_inj, List.reverse_reverse, hreverse, trimStart_eq_self_iff]
  constructor
  · exact fun h => h c _ rfl
  · rintro h _ _ ⟨rfl, rfl⟩
    exact h

theorem IsWord.trimEnd_eq (h : IsWord w) : trimEnd w = w := by
  have hrev : IsWord w.reverse := ⟨by simpa using h.ne_nil, by simpa using h.inked⟩
  rw [trimEnd_eq_reverse, ← List.append_nil w.reverse, hrev.trimStart_append, List.append_nil, List.reverse_reverse]

/-- What stands behind a word is trimmed on its own. -/
theorem IsWord.trimEnd_append (h : IsWord w) (s : List Char) : trimEnd (w ++ s) = w ++ trimEnd s := by
  by_cases hs : trimEnd s = []
  · obtain ⟨tail, htail, heq⟩ := exists_gap_trimEnd s
    rw [hs, List.nil_append] at heq
    rw [hs, heq, trimEnd_append_gap htail, h.trimEnd_eq, List.append_nil]
  · exact trimEnd_append_of_ne_nil hs w

/-! ## Both ends -/

/-- Trimming leaves the middle of a text that stands between blanks and has none at its ends. -/
theorem trim_eq_iff : trim s = middle ↔
    trimStart middle = middle ∧ trimEnd middle = middle ∧
      ∃ lead tail, IsGap lead ∧ IsGap tail ∧ s = lead ++ (middle ++ tail) := by
  constructor
  · rintro rfl
    obtain ⟨lead, hlead, hs⟩ := exists_gap_trimStart s
    obtain ⟨tail, htail, hstart⟩ := exists_gap_trimEnd (trimStart s)
    refine ⟨?_, trimEnd_trimEnd _, lead, tail, hlead, htail, by rw [trim, ← hstart, ← hs]⟩
    refine trimStart_eq_self_iff.mpr fun c r hcons => ?_
    rw [show trimEnd (trimStart s) = c :: r from hcons] at hstart
    exact trimStart_eq_self_iff.mp (trimStart_trimStart s) c (r ++ tail) hstart
  · rintro ⟨hstart, hend, lead, tail, hlead, htail, rfl⟩
    rw [trim, trimStart_gap_append hlead]
    by_cases hnil : middle = []
    · subst hnil
      rw [List.nil_append, trimStart_eq_nil_iff.mpr htail]
      rfl
    · obtain ⟨c, r, rfl⟩ := List.exists_cons_of_ne_nil hnil
      rw [List.cons_append, trimStart_cons_inked (trimStart_eq_self_iff.mp hstart c r rfl), ← List.cons_append,
        trimEnd_append_gap htail, hend]

theorem trimStart_trim (s : List Char) : trimStart (trim s) = trim s := (trim_eq_iff.mp rfl).1

theorem trimEnd_trim (s : List Char) : trimEnd (trim s) = trim s := trimEnd_trimEnd _

/-- Trimming drops characters at the start, then at the end. -/
theorem trim_sublist (s : List Char) : (trim s).Sublist (trimStart s) := by
  obtain ⟨tail, -, hstart⟩ := exists_gap_trimEnd (trimStart s)
  have hprefix : trim s <+: trimStart s := ⟨tail, hstart.symm⟩
  exact hprefix.sublist

/-- It does not matter which end is trimmed first. -/
theorem trimStart_trimEnd (s : List Char) : trimStart (trimEnd s) = trim s := by
  obtain ⟨tail, htail, hs⟩ := exists_gap_trimEnd s
  obtain ⟨lead, hlead, hend⟩ := exists_gap_trimStart (trimEnd s)
  refine (trim_eq_iff.mpr ⟨trimStart_trimStart _, ?_, lead, tail, hlead, htail, ?_⟩).symm
  · by_cases hnil : trimStart (trimEnd s) = []
    · rw [hnil]
      rfl
    · have hidem := trimEnd_trimEnd s
      rw [hend] at hidem
      by_cases hinner : trimEnd (trimStart (trimEnd s)) = []
      · obtain ⟨gap, hgap, heq⟩ := exists_gap_trimEnd (trimStart (trimEnd s))
        rw [hinner, List.nil_append] at heq
        rw [← heq] at hgap
        exact absurd ((trimStart_trimStart (trimEnd s)).symm.trans (trimStart_eq_nil_iff.mpr hgap)) hnil
      · rw [trimEnd_append_of_ne_nil hinner] at hidem
        exact List.append_cancel_left hidem
  · rw [← List.append_assoc, ← hend]
    exact hs

/-! ## The first word -/

theorem Opens.trimStart_eq (h : Opens s w rest) :
    ∃ gap, IsGap gap ∧ (gap = [] → rest = []) ∧ trimStart s = w ++ (gap ++ rest) := by
  obtain ⟨lead, gap, hlead, hgap, hnil, rfl⟩ := h.cut
  exact ⟨gap, hgap, hnil, by rw [trimStart_gap_append hlead, h.word.trimStart_append]⟩

/-- Up to the first blank there is the word. -/
theorem IsWord.cut_at_gap (hw : IsWord w) {gap : List Char} (hgap : IsGap gap) (hrest : gap = [] → rest = []) :
    (w ++ (gap ++ rest)).takeWhile (!isBlank ·) = w ∧ (w ++ (gap ++ rest)).dropWhile (!isBlank ·) = gap ++ rest := by
  have hinked : ∀ c ∈ w, (!isBlank c) = true := fun c hc => by simp [hw.inked c hc]
  rw [List.takeWhile_append_of_pos hinked, List.dropWhile_append_of_pos hinked]
  cases gap with
  | nil => simp [hrest rfl]
  | cons c gap =>
    simp [hgap c List.mem_cons_self]

/-- The first word of a text, with the rest, is the word that the text opens with. -/
theorem firstWord?_eq_some_iff : firstWord? s = some (w, rest) ↔ Opens s w rest := by
  constructor
  · intro h
    cases hs : trimStart s with
    | nil => simp [firstWord?, hs] at h
    | cons c r =>
      simp only [firstWord?, hs, Option.some.injEq, Prod.mk.injEq] at h
      obtain ⟨rfl, rfl⟩ := h
      have hc : isBlank c = false := trimStart_eq_self_iff.mp (trimStart_trimStart s) c r hs
      obtain ⟨lead, hlead, heq⟩ := exists_gap_trimStart s
      obtain ⟨gap, hgap, hgapEq⟩ := exists_gap_trimStart ((c :: r).dropWhile (!isBlank ·))
      refine ⟨⟨by simp [hc], fun d hd => by simpa using List.mem_takeWhile_imp hd⟩, trimStart_trimStart _,
        lead, gap, hlead, hgap, ?_, ?_⟩
      · rintro rfl
        rw [List.nil_append] at hgapEq
        -- Without a blank in between, nothing stopped the word.
        cases hd : (c :: r).dropWhile (!isBlank ·) with
        | nil => rfl
        | cons d r' =>
          have hink : isBlank d = false := trimStart_eq_self_iff.mp hgapEq.symm d r' hd
          have hstop := List.head?_dropWhile_not (!isBlank ·) (c :: r)
          rw [hd] at hstop
          simp [hink] at hstop
      · rw [← hgapEq, List.takeWhile_append_dropWhile, ← hs]
        exact heq
  · intro h
    obtain ⟨gap, hgap, hnil, hstart⟩ := h.trimStart_eq
    obtain ⟨htake, hdrop⟩ := h.word.cut_at_gap hgap hnil
    obtain ⟨c, r, hcons⟩ := List.exists_cons_of_ne_nil (List.append_ne_nil_of_left_ne_nil h.word.ne_nil (gap ++ rest))
    rw [hcons] at hstart htake hdrop
    simp only [firstWord?, hstart, htake, hdrop, trimStart_gap_append hgap, h.begins]

theorem firstWord?_eq_none_iff : firstWord? s = none ↔ IsGap s := by
  rw [← trimStart_eq_nil_iff, firstWord?]
  cases trimStart s <;> simp

/-! ## All words -/

theorem words_cons_blank (h : isBlank c = true) (s : List Char) : words (c :: s) = words s := by
  rw [words.eq_def]
  simp [h]

theorem words_singleton (hc : isBlank c = false) : words [c] = [[c]] := by
  rw [words.eq_def]
  simp only [hc, Bool.false_eq_true, if_false]

/-- A character before a blank is a word, if it is none itself. -/
theorem words_cons_before_blank {d : Char} (hc : isBlank c = false) (hd : isBlank d = true) (s : List Char) :
    words (c :: d :: s) = [c] :: words (d :: s) := by
  rw [words.eq_def]
  simp only [hc, hd, Bool.false_eq_true, if_false, if_true]

/-- Before a word, a character that is no blank belongs to it. -/
theorem words_cons_before_word {d : Char} {ws : List (List Char)} (hc : isBlank c = false) (hd : isBlank d = false)
    (h : words (d :: s) = w :: ws) : words (c :: d :: s) = (c :: w) :: ws := by
  rw [words.eq_def]
  simp only [hc, hd, Bool.false_eq_true, if_false, h]

theorem words_gap_append (h : IsGap lead) (s : List Char) : words (lead ++ s) = words s := by
  induction lead with
  | nil => rfl
  | cons c lead ih =>
    rw [List.cons_append, words_cons_blank (h c List.mem_cons_self), ih fun d hd => h d (List.mem_cons_of_mem c hd)]

theorem words_gap (h : IsGap s) : words s = [] := by
  have hwords := words_gap_append h []
  rwa [List.append_nil] at hwords

/-- A word ends where a blank or the end follows it. -/
theorem IsWord.words_append (hw : IsWord w) {gap : List Char} (hgap : IsGap gap) (hrest : gap = [] → rest = []) :
    words (w ++ (gap ++ rest)) = w :: words rest := by
  obtain ⟨hne, hinked⟩ := hw
  induction w with
  | nil => exact absurd rfl hne
  | cons c w ih =>
    have hc : isBlank c = false := hinked c List.mem_cons_self
    cases w with
    | nil =>
      cases gap with
      | nil =>
        rw [hrest rfl]
        exact words_singleton hc
      | cons d gap =>
        have hd : isBlank d = true := hgap d List.mem_cons_self
        have hgaps : words (d :: gap ++ rest) = words rest := words_gap_append hgap rest
        rw [← hgaps]
        exact words_cons_before_blank hc hd (gap ++ rest)
    | cons d w =>
      have hd : isBlank d = false := hinked d (by simp)
      exact words_cons_before_word hc hd (ih (List.cons_ne_nil d w) fun e he => hinked e (List.mem_cons_of_mem c he))

/-- The words of a text are the one that it opens with and those of the rest. -/
theorem Opens.words_eq (h : Opens s w rest) : words s = w :: words rest := by
  obtain ⟨lead, gap, hlead, hgap, hnil, rfl⟩ := h.cut
  rw [words_gap_append hlead, h.word.words_append hgap hnil]

/-- A text opens with a word, or there is nothing in it. -/
theorem gap_or_opens (s : List Char) : IsGap s ∨ ∃ w rest, Opens s w rest := by
  cases h : firstWord? s with
  | none => exact .inl (firstWord?_eq_none_iff.mp h)
  | some cut => exact .inr ⟨cut.1, cut.2, firstWord?_eq_some_iff.mp h⟩

theorem Opens.length_lt (h : Opens s w rest) : rest.length < s.length := by
  obtain ⟨lead, gap, -, -, -, rfl⟩ := h.cut
  have hpos := List.length_pos_iff.mpr h.word.ne_nil
  simp only [List.length_append]
  omega

/-- What holds of white space, and of a text if it holds of what comes behind the word that it opens with, holds
of every text. -/
@[elab_as_elim]
theorem opens_induction {P : List Char → Prop} (gap : ∀ s, IsGap s → P s)
    (opens : ∀ s w rest, Opens s w rest → P rest → P s) (s : List Char) : P s := by
  induction hn : s.length using Nat.strong_induction_on generalizing s with
  | _ n ih =>
    subst hn
    rcases gap_or_opens s with hs | ⟨w, rest, hopens⟩
    · exact gap s hs
    · exact opens s w rest hopens (ih rest.length hopens.length_lt rest rfl)

/-- Blanks at the end add no word. -/
theorem words_append_gap (h : IsGap tail) (s : List Char) : words (s ++ tail) = words s := by
  induction s using opens_induction with
  | gap s hs => rw [words_gap_append hs, words_gap hs, words_gap h]
  | opens s w rest hopens ih =>
    rw [hopens.words_eq, ← ih]
    obtain ⟨lead, gap, hlead, hgap, hnil, rfl⟩ := hopens.cut
    by_cases hempty : gap = []
    · rw [hempty, hnil hempty, List.nil_append, List.append_nil, List.nil_append, List.append_assoc,
        words_gap_append hlead, ← List.append_nil tail, hopens.word.words_append h fun _ => rfl, List.append_nil,
        words_gap h]
      rfl
    · rw [List.append_assoc, List.append_assoc, List.append_assoc, words_gap_append hlead,
        hopens.word.words_append hgap fun hgapNil => absurd hgapNil hempty]

/-- The words before a blank and those behind it are read apart. -/
theorem words_append_blank (h : isBlank c = true) (s t : List Char) : words (s ++ c :: t) = words s ++ words t := by
  induction s using opens_induction with
  | gap s hs =>
    rw [words_gap_append hs, words_gap hs, words_cons_blank h]
    rfl
  | opens s w rest hopens ih =>
    rw [hopens.words_eq, List.cons_append, ← ih]
    obtain ⟨lead, gap, hlead, hgap, hnil, rfl⟩ := hopens.cut
    by_cases hempty : gap = []
    · have hone : IsGap [c] := by simpa [IsGap] using h
      rw [hempty, hnil hempty, List.nil_append, List.append_nil, List.nil_append, List.append_assoc,
        words_gap_append hlead, words_cons_blank h]
      exact hopens.word.words_append hone (List.cons_ne_nil c []).elim
    · rw [List.append_assoc, List.append_assoc, List.append_assoc, words_gap_append hlead,
        hopens.word.words_append hgap fun hgapNil => absurd hgapNil hempty]

theorem IsWord.words_eq (h : IsWord w) : words w = [w] := by
  have hwords : words (w ++ ([] ++ [])) = w :: words [] :=
    h.words_append (fun _ hc => absurd hc List.not_mem_nil) fun _ => rfl
  rwa [List.append_nil, List.append_nil] at hwords

theorem isWord_of_mem_words (h : w ∈ words s) : IsWord w := by
  induction s using opens_induction with
  | gap s hs =>
    rw [words_gap hs] at h
    cases h
  | opens s v rest hopens ih =>
    rw [hopens.words_eq] at h
    rcases List.mem_cons.mp h with rfl | hrest
    · exact hopens.word
    · exact ih hrest

/-- A word of a text has no other characters than the text. -/
theorem subset_of_mem_words (h : w ∈ words s) : w ⊆ s := by
  induction s using opens_induction with
  | gap s hs =>
    rw [words_gap hs] at h
    cases h
  | opens s v rest hopens ih =>
    rw [hopens.words_eq] at h
    obtain ⟨lead, gap, -, -, -, hcut⟩ := hopens.cut
    rcases List.mem_cons.mp h with rfl | hrest
    · rw [hcut]
      exact fun c hc => by simp [hc]
    · have hsub := ih hrest
      rw [hcut]
      exact fun c hc => by simp [hsub hc]

/-- Trimming keeps the words. -/
theorem words_trim (s : List Char) : words (trim s) = words s := by
  obtain ⟨-, -, lead, tail, hlead, htail, hs⟩ := trim_eq_iff.mp (rfl : trim s = trim s)
  rw [hs, words_gap_append hlead, words_append_gap htail, ← hs]

theorem IsWord.trim_eq (h : IsWord w) : trim w = w := by
  have hstart := h.trimStart_append []
  rw [List.append_nil] at hstart
  rw [trim, hstart, h.trimEnd_eq]

/-- A text has at most one word if there is nothing else once it is trimmed. -/
theorem words_length_le_one_iff : (words s).length ≤ 1 ↔ trim s = [] ∨ IsWord (trim s) := by
  rw [← words_trim]
  constructor
  · intro hlength
    rcases gap_or_opens (trim s) with hgap | ⟨w, rest, hopens⟩
    · exact .inl ((trimStart_trim s).symm.trans (trimStart_eq_nil_iff.mpr hgap))
    · rw [hopens.words_eq, List.length_cons] at hlength
      have hrest : IsGap rest := by
        rcases gap_or_opens rest with hgap | ⟨v, later, hlater⟩
        · exact hgap
        · rw [hlater.words_eq, List.length_cons] at hlength
          omega
      obtain ⟨lead, gap, hlead, hgap, -, hcut⟩ := hopens.cut
      have htail : IsGap (gap ++ rest) := fun c hc => (List.mem_append.mp hc).elim (hgap c) (hrest c)
      -- The trimmed text is the word, with white space that is trimmed.
      have hword : trim (trim s) = w := by
        have htrim := trim_eq_iff.mp hopens.word.trim_eq
        exact trim_eq_iff.mpr ⟨htrim.1, htrim.2.1, lead, gap ++ rest, hlead, htail, hcut⟩
      rw [trim, trimStart_trim, trimEnd_trim] at hword
      exact .inr (hword ▸ hopens.word)
  · rintro (hnil | hword)
    · rw [hnil]
      exact Nat.zero_le 1
    · rw [hword.words_eq]
      exact Nat.le_refl 1

end ChannelBot.Chars
