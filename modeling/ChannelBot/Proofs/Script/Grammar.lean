/-
The grammar of bodies as a whole. A body is text, then blocks with the text behind each of them, and last
perhaps a brace that is never closed (`Division`). Every body divides in one way, and what parsing makes
of it is said by its division alone: the segments in order, or the fault of the first block that has one
(`parse_follows_division`).
-/
import ChannelBot.Proofs.Script.Pieces
import ChannelBot.Proofs.Text.Blank

namespace ChannelBot.Script

/-- A body divided at its braces: the text in front, the blocks with the text behind each, and what
follows a brace that is never closed. -/
structure Division where
  lead : List Char
  blocks : List (List Char × List Char)
  unclosed : Option (List Char)
  deriving Repr, DecidableEq

namespace Division

/-- The text that is divided. -/
def text (d : Division) : List Char :=
  d.lead ++ (d.blocks.flatMap fun (inside, after) => '{' :: (inside ++ '}' :: after)) ++
    (d.unclosed.map ('{' :: ·)).getD []

/-- No text has an opening brace in it, and nothing inside of a block a closing one. -/
structure IsFlat (d : Division) : Prop where
  lead : '{' ∉ d.lead
  inside : ∀ p ∈ d.blocks, '}' ∉ p.1
  after : ∀ p ∈ d.blocks, '{' ∉ p.2
  unclosed : ∀ u, d.unclosed = some u → '}' ∉ u

/-- How many characters stand before the brace of a block; before the brace that is never closed, if it
is the number of all blocks. -/
def offset (d : Division) (i : Nat) : Nat := (text ⟨d.lead, d.blocks.take i, none⟩).length

/-- Something inside of each block is no white space. -/
def IsInked (blocks : List (List Char × List Char)) : Prop := ∀ p ∈ blocks, ∃ c ∈ p.1, Chars.isBlank c = false

instance (blocks : List (List Char × List Char)) : Decidable (IsInked blocks) :=
  have : DecidablePred fun p : List Char × List Char => ∃ c ∈ p.1, Chars.isBlank c = false :=
    fun p => List.decidableBEx _ p.1
  List.decidableBAll _ blocks

/-- What the division stands for: the texts that are not empty, and the words of each block with the
offset of its brace. -/
def segments (d : Division) : List Segment :=
  (Piece.text d.lead).segments ++
    (d.blocks.mapIdx fun i p => (Piece.block p.1 (d.offset i)).segments ++ (Piece.text p.2).segments).flatten

variable {lead inside after u : List Char} {blocks rest : List (List Char × List Char)} {unclosed : Option (List Char)}

/-! ## One block after the other -/

theorem text_nil (lead : List Char) : text ⟨lead, [], none⟩ = lead := by simp [text]

theorem text_unclosed (lead u : List Char) : text ⟨lead, [], some u⟩ = lead ++ '{' :: u := by simp [text]

theorem text_cons (lead inside after : List Char) (rest : List (List Char × List Char))
    (unclosed : Option (List Char)) :
    text ⟨lead, (inside, after) :: rest, unclosed⟩ =
      lead ++ '{' :: (inside ++ '}' :: text ⟨after, rest, unclosed⟩) := by simp [text]

theorem offset_zero (d : Division) : d.offset 0 = d.lead.length := by simp [offset, text]

theorem offset_succ (lead inside after : List Char) (rest : List (List Char × List Char))
    (unclosed : Option (List Char)) (i : Nat) :
    offset ⟨lead, (inside, after) :: rest, unclosed⟩ (i + 1) =
      lead.length + inside.length + 2 + offset ⟨after, rest, unclosed⟩ i := by
  rw [offset, offset, List.take_succ_cons, text_cons]
  simp only [List.length_append, List.length_cons]
  omega

/-- At the offset of a block, or of the brace that is never closed, there is an opening brace. -/
theorem getElem?_offset {d : Division} {i : Nat} (h : i < d.blocks.length ∨ i = d.blocks.length ∧ d.unclosed ≠ none) :
    d.text[d.offset i]? = some '{' := by
  obtain ⟨lead, blocks, unclosed⟩ := d
  dsimp only at h
  induction blocks generalizing lead i with
  | nil =>
    obtain ⟨rfl, hopen⟩ : i = 0 ∧ unclosed ≠ none := by simpa using h
    obtain ⟨u, rfl⟩ := Option.ne_none_iff_exists'.mp hopen
    rw [text_unclosed, offset_zero, List.getElem?_append_right (Nat.le_refl _), Nat.sub_self]
    rfl
  | cons p rest ih =>
    obtain ⟨inside, after⟩ := p
    rw [text_cons]
    cases i with
    | zero =>
      rw [offset_zero, List.getElem?_append_right (Nat.le_refl _), Nat.sub_self]
      rfl
    | succ i =>
      have hlater : i < rest.length ∨ i = rest.length ∧ unclosed ≠ none := by simpa using h
      have hskip : lead ++ '{' :: (inside ++ '}' :: text ⟨after, rest, unclosed⟩) =
          (lead ++ '{' :: (inside ++ ['}'])) ++ text ⟨after, rest, unclosed⟩ := by simp
      have hlength : (lead ++ '{' :: (inside ++ ['}'])).length = lead.length + inside.length + 2 := by
        simp only [List.length_append, List.length_cons, List.length_nil]
        omega
      rw [hskip, offset_succ, ← hlength, List.getElem?_append_right (Nat.le_add_right _ _), Nat.add_sub_cancel_left]
      exact ih after hlater

theorem IsFlat.tail (h : IsFlat ⟨lead, (inside, after) :: rest, unclosed⟩) : IsFlat ⟨after, rest, unclosed⟩ where
  lead := h.after _ List.mem_cons_self
  inside := fun p hp => h.inside p (List.mem_cons_of_mem _ hp)
  after := fun p hp => h.after p (List.mem_cons_of_mem _ hp)
  unclosed := h.unclosed

theorem IsFlat.cons (hlead : '{' ∉ lead) (hinside : '}' ∉ inside) (h : IsFlat ⟨after, rest, unclosed⟩) :
    IsFlat ⟨lead, (inside, after) :: rest, unclosed⟩ where
  lead := hlead
  inside := List.forall_mem_cons.mpr ⟨hinside, h.inside⟩
  after := List.forall_mem_cons.mpr ⟨h.lead, h.after⟩
  unclosed := h.unclosed

/-! ## The pieces of a division -/

/-- The pieces that a division has at an offset. -/
def pieces (n : Nat) (lead : List Char) : List (List Char × List Char) → Option (List Char) → List Piece
  | [], none => [.text lead]
  | [], some u => [.text lead, .unclosed u (n + lead.length)]
  | (inside, after) :: rest, unclosed =>
    .text lead :: .block inside (n + lead.length) :: pieces (n + lead.length + inside.length + 2) after rest unclosed

theorem cut (n : Nat) (h : IsFlat ⟨lead, blocks, unclosed⟩) :
    Cut n (text ⟨lead, blocks, unclosed⟩) (pieces n lead blocks unclosed) := by
  induction blocks generalizing n lead with
  | nil =>
    cases unclosed with
    | none =>
      rw [text_nil]
      exact .text h.lead
    | some u =>
      rw [text_unclosed]
      exact .unclosed h.lead (h.unclosed u rfl)
  | cons p rest ih =>
    rw [text_cons]
    exact .block h.lead (h.inside p List.mem_cons_self) (ih _ h.tail)

/-- The pieces tell what is divided. -/
theorem pieces_inj {n : Nat} {lead' : List Char} {blocks' : List (List Char × List Char)}
    {unclosed' : Option (List Char)}
    (h : pieces n lead blocks unclosed = pieces n lead' blocks' unclosed') :
    lead = lead' ∧ blocks = blocks' ∧ unclosed = unclosed' := by
  induction blocks generalizing n lead lead' blocks' with
  | nil =>
    cases blocks' with
    | nil => cases unclosed <;> cases unclosed' <;> simp_all [pieces]
    | cons p' rest' => cases unclosed <;> simp [pieces] at h
  | cons p rest ih =>
    cases blocks' with
    | nil => cases unclosed' <;> simp [pieces] at h
    | cons p' rest' =>
      obtain ⟨inside, after⟩ := p
      obtain ⟨inside', after'⟩ := p'
      simp only [pieces, List.cons.injEq, Piece.text.injEq, Piece.block.injEq] at h
      obtain ⟨rfl, ⟨rfl, -⟩, hrest⟩ := h
      obtain ⟨rfl, rfl, rfl⟩ := ih hrest
      exact ⟨rfl, rfl, rfl⟩

/-- What can be cut can be divided. -/
theorem exists_of_cut {n : Nat} {s : List Char} {ps : List Piece} (h : Cut n s ps) :
    ∃ d : Division, d.IsFlat ∧ d.text = s := by
  induction h with
  | @text n s hopen =>
    exact ⟨⟨s, [], none⟩, ⟨hopen, by simp, by simp, by simp⟩, text_nil s⟩
  | @unclosed n text inside htext hinside =>
    refine ⟨⟨text, [], some inside⟩, ⟨htext, by simp, by simp, ?_⟩, text_unclosed text inside⟩
    rintro u ⟨⟩
    exact hinside
  | @block n text inside rest ps htext hinside _ ih =>
    obtain ⟨⟨after, blocks, unclosed⟩, hflat, rfl⟩ := ih
    exact ⟨⟨text, (inside, after) :: blocks, unclosed⟩, .cons htext hinside hflat, text_cons ..⟩

/-- A body divides in one way. -/
theorem IsFlat.unique {d d' : Division} (h : d.IsFlat) (h' : d'.IsFlat) (heq : d.text = d'.text) : d = d' := by
  obtain ⟨lead, blocks, unclosed⟩ := d
  obtain ⟨lead', blocks', unclosed'⟩ := d'
  have hcut := cut 0 h
  rw [heq] at hcut
  obtain ⟨rfl, rfl, rfl⟩ := pieces_inj (hcut.unique (cut 0 h'))
  rfl

/-! ## What the pieces stand for -/

theorem words_eq_nil_iff : Chars.words inside = [] ↔ ¬ ∃ c ∈ inside, Chars.isBlank c = false := by
  have hgap : (¬ ∃ c ∈ inside, Chars.isBlank c = false) ↔ Chars.IsGap inside := by simp [Chars.IsGap]
  rw [hgap]
  refine ⟨fun hwords => ?_, Chars.words_gap⟩
  rcases Chars.gap_or_opens inside with h | ⟨w, rest, hopens⟩
  · exact h
  · rw [hopens.words_eq] at hwords
    cases hwords

theorem segments_pieces (n : Nat) : (pieces n lead blocks unclosed).flatMap Piece.segments =
    (Piece.text lead).segments ++ (blocks.mapIdx fun i p =>
      (Piece.block p.1 (n + offset ⟨lead, blocks, unclosed⟩ i)).segments ++ (Piece.text p.2).segments).flatten := by
  induction blocks generalizing n lead with
  | nil => cases unclosed <;> simp [pieces, Piece.segments]
  | cons p rest ih =>
    obtain ⟨inside, after⟩ := p
    simp only [pieces, List.flatMap_cons, ih, List.mapIdx_cons, List.flatten_cons, offset_zero, offset_succ,
      List.append_assoc, Nat.add_assoc]

/-- Blocks that are not blank have no fault, so the first one is the brace that is never closed. -/
theorem fault_inked (n : Nat) (h : IsInked blocks) : (pieces n lead blocks unclosed).findSome? Piece.fault? =
    unclosed.map fun _ => .unterminated (n + offset ⟨lead, blocks, unclosed⟩ blocks.length) := by
  induction blocks generalizing n lead with
  | nil =>
    rw [List.length_nil, offset_zero]
    cases unclosed <;> rfl
  | cons p rest ih =>
    obtain ⟨inside, after⟩ := p
    rw [IsInked, List.forall_mem_cons] at h
    have hwords : Chars.words inside ≠ [] := mt words_eq_nil_iff.mp (not_not_intro h.1)
    simp only [pieces, List.findSome?_cons, Piece.fault?, if_neg hwords, ih _ h.2, List.length_cons, offset_succ,
      Nat.add_assoc]

/-- Behind blocks that are not blank, a blank one is the first fault. -/
theorem fault_blank (n : Nat) {i : Nat} (hi : blocks[i]? = some (inside, after))
    (hblank : ¬ ∃ c ∈ inside, Chars.isBlank c = false) (h : IsInked (blocks.take i)) :
    (pieces n lead blocks unclosed).findSome? Piece.fault? =
      some (.emptyBlock (n + offset ⟨lead, blocks, unclosed⟩ i)) := by
  induction blocks generalizing n lead i with
  | nil => simp at hi
  | cons p rest ih =>
    obtain ⟨inside', after'⟩ := p
    cases i with
    | zero =>
      obtain ⟨⟩ := Option.some.inj hi
      simp only [pieces, List.findSome?_cons, Piece.fault?, if_pos (words_eq_nil_iff.mpr hblank), offset_zero]
    | succ i =>
      rw [List.take_succ_cons, IsInked, List.forall_mem_cons] at h
      have hwords : Chars.words inside' ≠ [] := mt words_eq_nil_iff.mp (not_not_intro h.1)
      simp only [pieces, List.findSome?_cons, Piece.fault?, if_neg hwords, ih _ hi h.2, offset_succ, Nat.add_assoc]

/-- What parsing makes of a body, by its division. -/
theorem IsFlat.parse {d : Division} (h : d.IsFlat) {body : String} (htext : d.text = body.toList) :
    Script.parse body = match (pieces 0 d.lead d.blocks d.unclosed).findSome? Piece.fault? with
      | some e => .error e
      | none => .ok d.segments := by
  have hcut := cut 0 h
  rw [Script.parse, ← htext, hcut.parse, segments_pieces]
  simp only [Nat.zero_add]
  rfl

end Division

/-! ## The grammar -/

/-- **Parsing accepts its grammar, and nothing else.** Every body divides in exactly one way, and its blocks
have their braces at their offsets. If no block of it is blank and none is left open, parsing gives its
segments; else it fails for the first block that is at fault, which is the first blank one, or the one that is
left open if none is blank. -/
theorem parse_follows_division (body : String) :
    ∃ d : Division, (d.IsFlat ∧ d.text = body.toList ∧ ∀ d' : Division, d'.IsFlat → d'.text = body.toList → d' = d) ∧
      (∀ i, i < d.blocks.length ∨ i = d.blocks.length ∧ d.unclosed ≠ none → body.toList[d.offset i]? = some '{') ∧
      (Division.IsInked d.blocks → d.unclosed = none → parse body = .ok d.segments) ∧
      (∀ i inside after, d.blocks[i]? = some (inside, after) → (¬ ∃ c ∈ inside, Chars.isBlank c = false) →
        Division.IsInked (d.blocks.take i) → parse body = .error (.emptyBlock (d.offset i))) ∧
      ∀ u, Division.IsInked d.blocks → d.unclosed = some u →
        parse body = .error (.unterminated (d.offset d.blocks.length)) := by
  obtain ⟨ps, hps⟩ := exists_cut 0 body.toList
  obtain ⟨d, hflat, htext⟩ := Division.exists_of_cut hps
  have hparse := hflat.parse htext
  refine ⟨d, ⟨hflat, htext, fun d' hflat' htext' => hflat'.unique hflat (htext'.trans htext.symm)⟩, ?_, ?_, ?_, ?_⟩
  · intro i hi
    rw [← htext]
    exact Division.getElem?_offset hi
  · intro hinked hclosed
    rw [hparse, Division.fault_inked 0 hinked, hclosed]
    rfl
  · intro i inside after hi hblank hinked
    rw [hparse, Division.fault_blank 0 hi hblank hinked, Nat.zero_add]
  · intro u hinked hopen
    rw [hparse, Division.fault_inked 0 hinked, hopen, Option.map_some, Nat.zero_add]
    rfl

/-- A brace inside of a block belongs to a token, one behind it is text; of two faults the first counts. -/
theorem parse_follows_division_braces :
    let nested : Division := ⟨"Hi ".toList, [("weather\t\x7b0 ".toList, "\x7d!".toList)], none⟩
    let faulty : Division := ⟨[], [("a".toList, []), ("\u00a0 ".toList, "b".toList)], some "c".toList⟩
    (nested.IsFlat ∧ nested.text = "Hi \x7bweather\t\x7b0 \x7d\x7d!".toList ∧ Division.IsInked nested.blocks ∧
      parse "Hi \x7bweather\t\x7b0 \x7d\x7d!" = .ok [.literal "Hi ", .block "weather" ["\x7b0"] 3, .literal "\x7d!"]) ∧
    faulty.IsFlat ∧ faulty.text = "\x7ba\x7d\x7b\u00a0 \x7db\x7bc".toList ∧
      faulty.blocks[1]? = some ("\u00a0 ".toList, "b".toList) ∧
      parse "\x7ba\x7d\x7b\u00a0 \x7db\x7bc" = .error (.emptyBlock 3) := by
  intro nested faulty
  have hnested : nested.IsFlat := ⟨by decide, by decide, by decide, nofun⟩
  have hfaulty : faulty.IsFlat := by
    refine ⟨by decide, by decide, by decide, ?_⟩
    rintro u ⟨⟩
    decide
  have hinked : Division.IsInked nested.blocks := by decide
  refine ⟨⟨hnested, by decide, hinked, ?_⟩, hfaulty, by decide, by decide, ?_⟩
  · obtain ⟨d, ⟨-, -, hunique⟩, -, hok, -⟩ := parse_follows_division "Hi \x7bweather\t\x7b0 \x7d\x7d!"
    obtain rfl := hunique nested hnested (by decide)
    exact hok hinked rfl
  · obtain ⟨d, ⟨-, -, hunique⟩, -, -, hblank, -⟩ := parse_follows_division "\x7ba\x7d\x7b\u00a0 \x7db\x7bc"
    obtain rfl := hunique faulty hfaulty (by decide)
    exact hblank 1 _ _ rfl (Division.words_eq_nil_iff.mp (by decide)) (by decide)

end ChannelBot.Script
