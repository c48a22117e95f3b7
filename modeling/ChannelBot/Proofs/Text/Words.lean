/-
The words of a text. A text opens with one word in one way (`Opens.unique`), and the words of a text are that
one and those of the rest; so a text splits into its words and into no others (`splits_iff`). Words that are
joined by blanks are read back (`words_unwords`).
-/
import ChannelBot.Proofs.Text.Blank

namespace ChannelBot.Text

variable {s w rest : String}

/-- Some characters, none of them white space. -/
def IsWord (w : String) : Prop := Chars.IsWord w.toList

/-- A text opens with a word, perhaps behind white space, and goes on with the rest at its next word. -/
def Opens (s w rest : String) : Prop := Chars.Opens s.toList w.toList rest.toList

/-- A text is these words, with white space between any two of them and perhaps around them. -/
inductive Splits : String → List String → Prop
  | none {s : String} (hs : Chars.IsGap s.toList) : Splits s []
  | word {lead w gap rest : String} {ws : List String} (hlead : Chars.IsGap lead.toList) (hword : IsWord w)
    (hgap : Chars.IsGap gap.toList) (hbound : gap = "" → rest = "") (h : Splits rest ws) :
    Splits (lead ++ w ++ gap ++ rest) (w :: ws)

/-- Whether the first character of a text is white space. -/
def beginsBlank (s : String) : Bool := s.toList.head?.any Chars.isBlank

/-- Whether the last character of a text is white space. -/
def endsBlank (s : String) : Bool := s.toList.getLast?.any Chars.isBlank

instance : Decidable (IsWord w) :=
  decidable_of_iff (w.toList ≠ [] ∧ w.toList.all (fun c => !Chars.isBlank c) = true)
    ⟨fun h => ⟨h.1, by simpa using h.2⟩, fun h => ⟨h.1, by simpa using h.2⟩⟩

theorem firstWord?_eq_some_iff : firstWord? s = some (w, rest) ↔ Opens s w rest := by
  rw [Opens, ← Chars.firstWord?_eq_some_iff, firstWord?, Option.map_eq_some_iff]
  constructor
  · rintro ⟨⟨w', rest'⟩, hfirst, heq⟩
    obtain ⟨rfl, rfl⟩ := Prod.mk.inj heq
    rwa [String.toList_ofList, String.toList_ofList]
  · intro h
    exact ⟨_, h, by simp only [String.ofList_toList]⟩

theorem firstWord?_eq_none_iff : firstWord? s = none ↔ Chars.IsGap s.toList := by
  rw [firstWord?, Option.map_eq_none_iff, Chars.firstWord?_eq_none_iff]

/-- The words of a text are the one that it opens with and those of the rest. -/
theorem Opens.words_eq (h : Opens s w rest) : words s = w :: words rest := by
  rw [words, Chars.Opens.words_eq h, List.map_cons, String.ofList_toList, words]

/-- A text opens with one word in one way. -/
theorem Opens.unique (h : Opens s w rest) {w' rest' : String} (h' : Opens s w' rest') : w' = w ∧ rest' = rest := by
  have heq := (firstWord?_eq_some_iff.mpr h').symm.trans (firstWord?_eq_some_iff.mpr h)
  exact Prod.mk.inj (Option.some.inj heq)

theorem words_trim (s : String) : words (trim s) = words s := by
  rw [words, trim, String.toList_ofList, Chars.words_trim, words]

theorem toList_trim (s : String) : (trim s).toList = Chars.trim s.toList := String.toList_ofList

theorem IsWord.trim_eq (h : IsWord w) : trim w = w := by
  rw [trim, Chars.IsWord.trim_eq h, String.ofList_toList]

theorem trimEnd_of_trim (h : trim s = s) : Chars.trimEnd s.toList = s.toList := by
  rw [← h, toList_trim, Chars.trimEnd_trim]

/-- What a text without white space at its end goes on with is trimmed. -/
theorem Opens.trim_rest (h : Opens s w rest) (hs : Chars.trimEnd s.toList = s.toList) : trim rest = rest := by
  obtain ⟨lead, gap, -, -, -, hcut⟩ := h.cut
  rw [hcut, ← List.append_assoc, ← List.append_assoc] at hs
  rw [trim, Chars.trim, h.begins, Chars.trimEnd_right hs, String.ofList_toList]

/-- A text has at most one word if there is nothing else once it is trimmed. -/
theorem words_length_le_one_iff : (words s).length ≤ 1 ↔ trim s = "" ∨ IsWord (trim s) := by
  rw [words, List.length_map, Chars.words_length_le_one_iff, IsWord, toList_trim, ← String.toList_inj, toList_trim]
  rfl

/-- A text opens with a word if it is white space, the word, and what comes behind it, up to the next word. -/
theorem opens_iff : Opens s w rest ↔ IsWord w ∧ Chars.trimStart rest.toList = rest.toList ∧
    ∃ lead gap : String, s = lead ++ w ++ gap ++ rest ∧ Chars.IsGap lead.toList ∧ Chars.IsGap gap.toList ∧
      (gap = "" → rest = "") := by
  constructor
  · rintro ⟨hword, hbegins, lead, gap, hlead, hgap, hbound, hcut⟩
    refine ⟨hword, hbegins, .ofList lead, .ofList gap, ?_, by simpa using hlead, by simpa using hgap, ?_⟩
    · simp [← String.toList_inj, hcut]
    · simpa using hbound
  · rintro ⟨hword, hbegins, lead, gap, rfl, hlead, hgap, hbound⟩
    exact ⟨hword, hbegins, lead.toList, gap.toList, hlead, hgap, by simpa using hbound, by simp⟩

/-- **A text splits into its words**, and into nothing else. -/
theorem splits_iff {ws : List String} : Splits s ws ↔ words s = ws := by
  constructor
  · intro h
    induction h with
    | none hs => rw [words, Chars.words_gap hs, List.map_nil]
    | @word lead w gap rest ws hlead hword hgap hbound h ih =>
      have hrest : gap.toList = [] → rest.toList = [] := by simpa using hbound
      have hline : (lead ++ w ++ gap ++ rest).toList = lead.toList ++ (w.toList ++ (gap.toList ++ rest.toList)) := by
        simp
      rw [words, hline, Chars.words_gap_append hlead, Chars.IsWord.words_append hword hgap hrest, List.map_cons,
        String.ofList_toList, ← words, ih]
  · rintro rfl
    have hchars : ∀ cs : List Char, Splits (.ofList cs) ((Chars.words cs).map .ofList) := by
      intro cs
      induction cs using Chars.opens_induction with
      | gap cs hcs =>
        rw [Chars.words_gap hcs]
        exact .none (by rwa [String.toList_ofList])
      | opens cs w rest hopens ih =>
        obtain ⟨lead, gap, hlead, hgap, hbound, hcut⟩ := hopens.cut
        have hword : IsWord (.ofList w) := by rw [IsWord, String.toList_ofList]; exact hopens.word
        have hline : String.ofList cs = .ofList lead ++ .ofList w ++ .ofList gap ++ .ofList rest := by
          simp [← String.toList_inj, hcut]
        rw [hopens.words_eq, List.map_cons, hline]
        exact .word (by simpa using hlead) hword (by simpa using hgap) (by simpa using hbound) ih
    simpa [words] using hchars s.toList

/-- A text is trimmed if there is no white space at its ends. -/
theorem trim_eq_self_iff : trim s = s ↔ beginsBlank s = false ∧ endsBlank s = false := by
  have hstart : ∀ cs : List Char, Chars.trimStart cs = cs ↔ cs.head?.any Chars.isBlank = false := by
    intro cs
    rw [Chars.trimStart_eq_self_iff]
    cases cs <;> simp
  have hend : Chars.trimEnd s.toList = s.toList ↔ endsBlank s = false := by
    rw [Chars.trimEnd_eq_reverse, List.reverse_eq_iff, hstart, List.head?_reverse, endsBlank]
  rw [← String.toList_inj, toList_trim, Chars.trim_eq_iff, hstart, hend, beginsBlank]
  simp only [and_congr_right_iff, and_iff_left_iff_imp]
  exact fun _ _ => ⟨[], [], by simp [Chars.IsGap], by simp [Chars.IsGap], by simp⟩

theorem beginsBlank_append (h : s ≠ "") (t : String) : beginsBlank (s ++ t) = beginsBlank s := by
  obtain ⟨c, cs, hs⟩ := List.exists_cons_of_ne_nil (l := s.toList) (by simpa using h)
  rw [beginsBlank, beginsBlank, String.toList_append, hs, List.cons_append, List.head?_cons, List.head?_cons]

theorem endsBlank_append {t : String} (h : t ≠ "") (s : String) : endsBlank (s ++ t) = endsBlank t := by
  rw [endsBlank, endsBlank, String.toList_append, List.getLast?_append_of_ne_nil _ (by simpa using h)]

/-! ## Words that are joined -/

theorem words_append_blank {c : Char} (h : Chars.isBlank c = true) (s t : String) :
    words (s ++ .ofList [c] ++ t) = words s ++ words t := by
  rw [words, words, words, String.toList_append, String.toList_append, String.toList_ofList, List.append_assoc,
    ← List.map_append]
  exact congrArg _ (Chars.words_append_blank h s.toList t.toList)

theorem IsWord.words_eq {w : String} (h : IsWord w) : words w = [w] := by
  rw [words, Chars.IsWord.words_eq h, List.map_singleton, String.ofList_toList]

theorem isWord_of_mem_words {s w : String} (h : w ∈ words s) : IsWord w := by
  obtain ⟨v, hv, rfl⟩ := List.mem_map.mp h
  rw [IsWord, String.toList_ofList]
  exact Chars.isWord_of_mem_words hv

/-- A text that is its own only word is a word. -/
theorem isWord_iff {w : String} : IsWord w ↔ words w = [w] :=
  ⟨IsWord.words_eq, fun h => isWord_of_mem_words (s := w) (h ▸ List.mem_singleton_self w)⟩

theorem unwords_cons_cons (w v : String) (rest : List String) :
    unwords (w :: v :: rest) = w ++ .ofList [' '] ++ unwords (v :: rest) := String.intercalate_cons_cons

theorem unwords_ne_empty {w : String} (h : w ≠ "") (rest : List String) : unwords (w :: rest) ≠ "" := by
  cases rest with
  | nil => exact h
  | cons v rest =>
    intro hempty
    rw [unwords_cons_cons, ← String.toList_inj, String.toList_append, String.toList_append] at hempty
    exact absurd (List.append_eq_nil_iff.mp (List.append_eq_nil_iff.mp hempty).1).2 (by simp)

/-- Texts that are joined have the words of each. -/
theorem words_unwords_eq (ws : List String) : words (unwords ws) = ws.flatMap words := by
  induction ws with
  | nil => rfl
  | cons w rest ih =>
    cases rest with
    | nil => exact (List.append_nil _).symm
    | cons v rest =>
      rw [unwords_cons_cons, words_append_blank (by decide), ih]
      rfl

/-- Words that are joined by blanks are the words of what they make. -/
theorem words_unwords {ws : List String} (h : ∀ w ∈ ws, IsWord w) : words (unwords ws) = ws := by
  rw [words_unwords_eq]
  induction ws with
  | nil => rfl
  | cons w rest ih =>
    rw [List.forall_mem_cons] at h
    rw [List.flatMap_cons, h.1.words_eq, ih h.2]
    rfl

/-- Joining adds no other characters than spaces. -/
theorem mem_unwords {c : Char} {ws : List String} (h : c ∈ (unwords ws).toList) :
    c = ' ' ∨ ∃ w ∈ ws, c ∈ w.toList := by
  induction ws with
  | nil => cases h
  | cons w rest ih =>
    cases rest with
    | nil => exact .inr ⟨w, List.mem_singleton_self w, h⟩
    | cons v rest =>
      rw [unwords_cons_cons, String.toList_append, String.toList_append, List.mem_append, List.mem_append,
        String.toList_ofList, List.mem_singleton] at h
      rcases h with (hw | hspace) | hrest
      · exact .inr ⟨w, List.mem_cons_self, hw⟩
      · exact .inl hspace
      · exact (ih hrest).imp_right fun ⟨u, hu, hc⟩ => ⟨u, List.mem_cons_of_mem w hu, hc⟩

end ChannelBot.Text
