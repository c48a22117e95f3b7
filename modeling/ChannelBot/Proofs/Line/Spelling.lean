/-
How a line of chat spells a call. The trimmed line is the sigil, then the trigger, and then the rest,
with white space as it comes in between; that is what a line is read as, and nothing else
(`parse?_eq_some_iff`). A sigil that begins with white space starts no trimmed line
(`parse?_of_beginsBlank`); under any other one, what is written with it is read back (`parse?_written`).
-/
import ChannelBot.Line
import ChannelBot.Proofs.Text.Words

namespace ChannelBot

namespace Line

open Text (IsWord Opens beginsBlank trim words)

variable {sigil raw trigger rest : String} {l : Line}

/-- The trimmed line is the sigil, the trigger, and the rest, with white space as it comes around the
trigger. -/
def Spells (sigil raw trigger rest : String) : Prop :=
  sigil ≠ "" ∧ ∃ tail, trim raw = sigil ++ tail ∧ Opens tail trigger rest

/-- The rest of a line is trimmed. -/
theorem Spells.trim_rest (h : Spells sigil raw trigger rest) : trim rest = rest := by
  obtain ⟨-, tail, htail, hopens⟩ := h
  refine hopens.trim_rest (Chars.trimEnd_right (s := sigil.toList) ?_)
  rw [← String.toList_append, ← htail, Text.toList_trim, Chars.trimEnd_trim]

theorem afterLead?_eq_some_iff {lead s tail : String} : Text.afterLead? lead s = some tail ↔ s = lead ++ tail := by
  rw [Text.afterLead?, Text.startsWith, ← String.toList_inj, String.toList_append]
  constructor
  · intro h
    split at h
    · rename_i hlead
      obtain ⟨t, ht⟩ := List.isPrefixOf_iff_prefix.mp hlead
      rw [← ht, List.drop_left] at h
      rw [← Option.some.inj h, String.toList_ofList, ht]
    · cases h
  · intro h
    rw [h, if_pos (List.isPrefixOf_iff_prefix.mpr (List.prefix_append _ _)), List.drop_left, String.ofList_toList]

/-- **A line is read as the call that it spells**, and as nothing else: the trigger is the first word
behind the sigil, the rest is what follows up to the end of the trimmed line, and the arguments are the
words of the rest. -/
theorem parse?_eq_some_iff : parse? sigil raw = some l ↔ Spells sigil raw l.trigger l.rest ∧ l.args = words l.rest := by
  rw [parse?]
  constructor
  · intro h
    split at h
    · cases h
    · rename_i hsigil
      split at h
      · cases h
      · rename_i tail htail
        split at h
        · cases h
        · rename_i trigger after hfirst
          have hspells : Spells sigil raw trigger after :=
            ⟨by simpa using hsigil, tail, afterLead?_eq_some_iff.mp htail, Text.firstWord?_eq_some_iff.mp hfirst⟩
          rw [hspells.trim_rest] at h
          obtain rfl := Option.some.inj h
          exact ⟨hspells, rfl⟩
  · rintro ⟨hspells, hargs⟩
    have hrest := hspells.trim_rest
    obtain ⟨hsigil, tail, htrim, hopens⟩ := hspells
    obtain ⟨trigger, args, rest⟩ := l
    dsimp only at hopens hargs hrest
    rw [if_neg (by simpa using hsigil), afterLead?_eq_some_iff.mpr htrim]
    dsimp only
    rw [Text.firstWord?_eq_some_iff.mpr hopens]
    dsimp only
    rw [hrest, hargs]

theorem read_eq_some_iff {sigil : Value} :
    read sigil raw = .ok (some l) ↔ ∃ s, sigil = .str s ∧ parse? s raw = some l := by
  cases sigil with
  | str s =>
    by_cases hs : s = ""
    · subst hs
      simp [read, Value.holds, parse?]
    · simp [read, Value.holds, hs]
  | _ =>
    unfold read
    split <;> simp

/-- No trimmed line starts with a sigil that begins with white space. -/
theorem parse?_of_beginsBlank (h : beginsBlank sigil = true) (raw : String) : parse? sigil raw = none := by
  cases hl : parse? sigil raw with
  | none => rfl
  | some l =>
    obtain ⟨⟨-, tail, htrim, -⟩, -⟩ := parse?_eq_some_iff.mp hl
    have hstart := Chars.trimStart_trim raw.toList
    rw [← Text.toList_trim, htrim, String.toList_append] at hstart
    rw [beginsBlank] at h
    cases hsigil : sigil.toList with
    | nil => simp [hsigil] at h
    | cons c r =>
      rw [hsigil, List.cons_append] at hstart
      have hink := Chars.trimStart_eq_self_iff.mp hstart c (r ++ tail.toList) rfl
      simp [hsigil, hink] at h

/-- Under a sigil that begins otherwise, what is written behind sigil and trigger is read back. -/
theorem parse?_written (hsigil : sigil ≠ "") (hink : beginsBlank sigil = false) (hword : IsWord trigger) (text : String) :
    parse? sigil (sigil ++ trigger ++ " " ++ text) = some ⟨trigger, words text, trim text⟩ := by
  obtain ⟨c, r, hcons⟩ := List.exists_cons_of_ne_nil (l := sigil.toList) (by simpa using hsigil)
  have hc : Chars.isBlank c = false := by simpa [beginsBlank, hcons] using hink
  -- The line keeps its start; its end is trimmed behind the trigger.
  have htrim : trim (sigil ++ trigger ++ " " ++ text) =
      sigil ++ .ofList (trigger.toList ++ Chars.trimEnd (' ' :: text.toList)) := by
    have hend := hword.trimEnd_append (' ' :: text.toList)
    have hne : Chars.trimEnd (trigger.toList ++ ' ' :: text.toList) ≠ [] := by
      rw [hend]
      exact List.append_ne_nil_of_left_ne_nil hword.ne_nil _
    have hline : (sigil ++ trigger ++ " " ++ text).toList = sigil.toList ++ (trigger.toList ++ ' ' :: text.toList) := by
      simp
    rw [← String.toList_inj, Text.toList_trim, hline, String.toList_append, String.toList_ofList, Chars.trim, hcons,
      List.cons_append, Chars.trimStart_cons_inked hc, ← List.cons_append, Chars.trimEnd_append_of_ne_nil hne, hend]
  obtain ⟨gap, hgap, hrest⟩ := Chars.exists_gap_trimStart (Chars.trimEnd (' ' :: text.toList))
  have hsame : Chars.trim (' ' :: text.toList) = Chars.trim text.toList := by
    rw [Chars.trim, Chars.trimStart_cons_blank (by decide), Chars.trim]
  rw [Chars.trimStart_trimEnd, hsame] at hrest
  refine parse?_eq_some_iff.mpr ⟨⟨hsigil, _, htrim, hword, ?_, [], gap, ?_, hgap, ?_, ?_⟩, (Text.words_trim text).symm⟩
  · rw [Text.toList_trim, Chars.trimStart_trim]
  · exact fun _ hc => absurd hc List.not_mem_nil
  · rintro rfl
    rw [List.nil_append] at hrest
    rw [Text.toList_trim]
    -- What is left of the blank behind the trigger and the text starts with that blank, or is nothing.
    cases hnil : Chars.trim text.toList with
    | nil => rfl
    | cons d r' =>
      obtain ⟨tail, -, hcut⟩ := Chars.exists_gap_trimEnd (' ' :: text.toList)
      rw [hrest, hnil, List.cons_append] at hcut
      have hink := Chars.trimStart_eq_self_iff.mp (Chars.trimStart_trim text.toList) d r' hnil
      rw [← List.head_eq_of_cons_eq hcut] at hink
      exact absurd hink (by decide)
  · rw [String.toList_ofList, Text.toList_trim, ← hrest, List.nil_append]

end Line

end ChannelBot
