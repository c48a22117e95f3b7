/-
Bodies written and parsed. What parsing gives is in normal form (`canonical_of_parse`), and segments in
normal form are given back when they are written and parsed (`parse_write`). Both rest on what parsing
makes of two bodies put together: the segments of the first, then those of the second further on, with
the text that meets in the middle as one (`parse_append`).
-/
import Mathlib.Data.List.Chain
import ChannelBot.Proofs.Script.Pieces
import ChannelBot.Proofs.Text.Words

namespace ChannelBot.Script

/-! ## Segments as they are written -/

namespace Segment

/-- A segment as it is written: a block as its tokens in braces, with single spaces between them. -/
def written : Segment → List Char
  | .literal text => text.toList
  | .block action tokens _ => '{' :: ((Text.unwords (action :: tokens)).toList ++ ['}'])

/-- The segment, with its brace at an offset. -/
def placedAt (n : Nat) : Segment → Segment
  | .literal text => .literal text
  | .block action tokens _ => .block action tokens n

/-- The segment, so many characters further on. -/
def shift (n : Nat) : Segment → Segment
  | .literal text => .literal text
  | .block action tokens position => .block action tokens (n + position)

/-- Whether a segment is text. -/
def IsLiteral : Segment → Prop
  | .literal _ => True
  | .block .. => False

/-- At most one of two segments is text. -/
def Apart (s t : Segment) : Prop := ¬ (s.IsLiteral ∧ t.IsLiteral)

/-- A text that is not empty and opens no block, or a block of words that do not close it. -/
def IsCanonical : Segment → Prop
  | .literal text => text ≠ "" ∧ '{' ∉ text.toList
  | .block action tokens _ => ∀ token ∈ action :: tokens, Text.IsWord token ∧ '}' ∉ token.toList

end Segment

/-- A body as it is written. -/
def write (segments : List Segment) : String := .ofList (segments.flatMap Segment.written)

/-- The segments, each block with the offset of its brace in what is written. -/
def placed (segments : List Segment) : List Segment :=
  segments.mapIdx fun i s => s.placedAt (write (segments.take i)).length

/-- Segments as parsing gives them: each in its form, and no text next to another. -/
structure IsCanonical (segments : List Segment) : Prop where
  each : ∀ s ∈ segments, s.IsCanonical
  apart : segments.IsChain Segment.Apart

instance : (s : Segment) → Decidable s.IsLiteral
  | .literal _ => inferInstanceAs (Decidable True)
  | .block .. => inferInstanceAs (Decidable False)

instance (s t : Segment) : Decidable (s.Apart t) := inferInstanceAs (Decidable (¬ (s.IsLiteral ∧ t.IsLiteral)))

instance : (s : Segment) → Decidable s.IsCanonical
  | .literal text => inferInstanceAs (Decidable (text ≠ "" ∧ '{' ∉ text.toList))
  | .block action tokens _ =>
    inferInstanceAs (Decidable (∀ token ∈ action :: tokens, Text.IsWord token ∧ '}' ∉ token.toList))

instance (segments : List Segment) : Decidable (IsCanonical segments) :=
  decidable_of_iff ((∀ s ∈ segments, s.IsCanonical) ∧ segments.IsChain Segment.Apart)
    ⟨fun h => ⟨h.1, h.2⟩, fun h => ⟨h.each, h.apart⟩⟩

/-- Segments put together; the text at the end of the first and the text at the start of the second are one. -/
def join : List Segment → List Segment → List Segment
  | [], ys => ys
  | [.literal s], .literal t :: ys => .literal (s ++ t) :: ys
  | x :: xs, ys => x :: join xs ys

/-- The fault, so many characters further on. -/
def Fault.shift (n : Nat) : Fault → Fault
  | .emptyBlock position => .emptyBlock (n + position)
  | .unterminated position => .unterminated (n + position)
  | e => e

/-- What parsing gives, so many characters further on. -/
def shifted (n : Nat) : Except Fault (List Segment) → Except Fault (List Segment)
  | .error e => .error (e.shift n)
  | .ok segments => .ok (segments.map (Segment.shift n))

variable {a action : String} {tokens : List String} {n position : Nat} {xs ys segments : List Segment}

/-! ## Putting segments together -/

theorem join_block (xs ys : List Segment) :
    join (.block action tokens position :: xs) ys = .block action tokens position :: join xs ys := by
  simp only [join]

theorem join_cons_cons (x y : Segment) (xs ys : List Segment) : join (x :: y :: xs) ys = x :: join (y :: xs) ys := by
  simp only [join]

/-- Unless both are text, a segment is put in front. -/
theorem join_singleton {x : Segment} (h : ∀ y ∈ ys.head?, x.Apart y) : join [x] ys = x :: ys := by
  cases x with
  | block action tokens position => rfl
  | literal text =>
    match ys with
    | [] | .block .. :: _ => rfl
    | .literal text' :: _ => exact absurd ⟨trivial, trivial⟩ (h (.literal text') rfl)

/-- What comes behind text and a block comes behind the block. -/
theorem join_withLiteral_block (text : List Char) (xs ys : List Segment) :
    join (withLiteral text (.block action tokens position :: xs)) ys =
      withLiteral text (.block action tokens position :: join xs ys) := by
  rw [withLiteral, withLiteral]
  split
  · exact join_block xs ys
  · rw [join_cons_cons, join_block]

/-- Two texts that meet are one. -/
theorem withLiteral_append_text (s t : List Char) {rest : List Segment} (h : ∀ y ∈ rest.head?, ¬ y.IsLiteral) :
    withLiteral (s ++ t) rest = join (withLiteral s []) (withLiteral t rest) := by
  match s, t with
  | [], t => rfl
  | c :: s, [] =>
    rw [List.append_nil]
    exact (join_singleton fun y hy hboth => h y hy hboth.2).symm
  | c :: s, d :: t =>
    show Segment.literal (.ofList (c :: s ++ d :: t)) :: rest =
      Segment.literal (.ofList (c :: s) ++ .ofList (d :: t)) :: rest
    rw [String.ofList_append]

/-! ## Further on -/

theorem shift_withLiteral (n : Nat) (text : List Char) (segments : List Segment) :
    (withLiteral text segments).map (Segment.shift n) = withLiteral text (segments.map (Segment.shift n)) := by
  rw [withLiteral, withLiteral]
  split <;> rfl

/-- A body that starts further on is parsed in the same way, further on. -/
theorem parseFrom_add (m n : Nat) (s : List Char) : parseFrom (m + n) s = shifted m (parseFrom n s) := by
  obtain ⟨ps, hcut⟩ := exists_cut n s
  induction hcut with
  | text hopen =>
    rw [parseFrom_text hopen, parseFrom_text hopen, shifted, shift_withLiteral]
    rfl
  | unclosed htext hinside =>
    rw [parseFrom_unclosed htext hinside, parseFrom_unclosed htext hinside, Nat.add_assoc]
    rfl
  | @block n text inside rest ps htext hinside hrest ih =>
    rw [parseFrom_block htext hinside, parseFrom_block htext hinside]
    cases Chars.words inside with
    | nil =>
      dsimp only
      rw [Nat.add_assoc]
      rfl
    | cons action tokens =>
      dsimp only
      rw [Nat.add_assoc m n, Nat.add_assoc m, Nat.add_assoc m, ih]
      cases parseFrom (n + text.length + inside.length + 2) rest with
      | error e => rfl
      | ok segments =>
        exact congrArg Except.ok
          (shift_withLiteral m text (.block (.ofList action) (tokens.map .ofList) (n + text.length) :: segments)).symm

/-- If a body with a block is parsed, the block has a word, what follows is parsed, and both come behind the
text. -/
theorem parseFrom_block_ok {text inside rest : List Char} (htext : '{' ∉ text) (hinside : '}' ∉ inside)
    (h : parseFrom n (text ++ '{' :: (inside ++ '}' :: rest)) = .ok segments) :
    ∃ w ws later, Chars.words inside = w :: ws ∧ parseFrom (n + text.length + inside.length + 2) rest = .ok later ∧
      segments = withLiteral text (.block (.ofList w) (ws.map .ofList) (n + text.length) :: later) := by
  rw [parseFrom_block htext hinside] at h
  cases hwords : Chars.words inside with
  | nil =>
    rw [hwords] at h
    cases h
  | cons w ws =>
    rw [hwords] at h
    cases hparsed : parseFrom (n + text.length + inside.length + 2) rest with
    | error e =>
      rw [hparsed] at h
      cases h
    | ok later =>
      rw [hparsed] at h
      exact ⟨w, ws, later, rfl, rfl, (Except.ok.inj h).symm⟩

/-- What is parsed of two bodies put together, the first of which is in order. -/
theorem parseFrom_append {s : List Char} (h : parseFrom n s = .ok xs) (t : List Char) :
    parseFrom n (s ++ t) = (parseFrom (n + s.length) t).map (join xs) := by
  obtain ⟨ps, hcut⟩ := exists_cut n s
  induction hcut generalizing xs with
  | @text n s hs =>
    obtain rfl := Except.ok.inj ((parseFrom_text hs).symm.trans h)
    obtain ⟨qs, hcut'⟩ := exists_cut (n + s.length) t
    -- The text goes on with what the second body begins with.
    cases hcut' with
    | text ht =>
      rw [parseFrom_text (mt List.mem_append.mp (not_or.mpr ⟨hs, ht⟩)), parseFrom_text ht,
        withLiteral_append_text s t (by simp)]
      rfl
    | @unclosed _ text inside htext hinside =>
      rw [← List.append_assoc, parseFrom_unclosed (mt List.mem_append.mp (not_or.mpr ⟨hs, htext⟩)) hinside,
        parseFrom_unclosed htext hinside, List.length_append, Nat.add_assoc]
      rfl
    | @block _ text inside rest _ htext hinside _ =>
      rw [← List.append_assoc, parseFrom_block (mt List.mem_append.mp (not_or.mpr ⟨hs, htext⟩)) hinside,
        parseFrom_block htext hinside, List.length_append, ← Nat.add_assoc]
      cases Chars.words inside with
      | nil => rfl
      | cons action tokens =>
        dsimp only
        cases parseFrom (n + s.length + text.length + inside.length + 2) rest with
        | error e => rfl
        | ok segments => exact congrArg Except.ok (withLiteral_append_text s text (by simp [Segment.IsLiteral]))
  | unclosed htext hinside =>
    rw [parseFrom_unclosed htext hinside] at h
    cases h
  | @block n text inside rest ps htext hinside hrest ih =>
    have hbody : text ++ '{' :: (inside ++ '}' :: rest) ++ t = text ++ '{' :: (inside ++ '}' :: (rest ++ t)) := by simp
    have hlength : n + (text ++ '{' :: (inside ++ '}' :: rest)).length =
        n + text.length + inside.length + 2 + rest.length := by
      simp only [List.length_append, List.length_cons]
      omega
    obtain ⟨w, ws, segments, hwords, hparsed, rfl⟩ := parseFrom_block_ok htext hinside h
    rw [hbody, hlength, parseFrom_block htext hinside, hwords]
    dsimp only
    rw [ih hparsed]
    cases parseFrom (n + text.length + inside.length + 2 + rest.length) t with
    | error e => rfl
    | ok ys => exact congrArg Except.ok (join_withLiteral_block text segments ys).symm

/-- **Bodies put together** are parsed to the segments of the first and those of the second, further on. -/
theorem parse_append {a : String} (h : parse a = .ok xs) (b : String) :
    parse (a ++ b) = (shifted a.length (parse b)).map (join xs) := by
  rw [parse, String.toList_append, parseFrom_append h, Nat.zero_add, ← Nat.add_zero a.toList.length, parseFrom_add,
    String.length_toList]
  rfl

/-! ## What is parsed is in normal form -/

theorem IsCanonical.nil : IsCanonical [] := ⟨by simp, .nil⟩

theorem IsCanonical.cons {s : Segment} (hs : s.IsCanonical) (h : IsCanonical segments)
    (hapart : ∀ t ∈ segments.head?, s.Apart t) : IsCanonical (s :: segments) :=
  ⟨List.forall_mem_cons.mpr ⟨hs, h.each⟩, h.apart.cons hapart⟩

theorem IsCanonical.withLiteral {text : List Char} (htext : '{' ∉ text) (h : IsCanonical segments)
    (hhead : ∀ t ∈ segments.head?, ¬ t.IsLiteral) : IsCanonical (withLiteral text segments) := by
  rw [Script.withLiteral]
  split
  · exact h
  next hne =>
    have hliteral : (Segment.literal (.ofList text)).IsCanonical := by
      refine ⟨fun hempty => hne ?_, by rwa [String.toList_ofList]⟩
      rw [← String.toList_inj, String.toList_ofList] at hempty
      rw [hempty]
      rfl
    exact h.cons hliteral fun t ht hboth => hhead t ht hboth.2

/-- The words of what stands inside of a block make a segment. -/
theorem canonical_block {inside : List Char} {w : List Char} {ws : List (List Char)} (hinside : '}' ∉ inside)
    (h : Chars.words inside = w :: ws) (position : Nat) :
    (Segment.block (.ofList w) (ws.map .ofList) position).IsCanonical := by
  intro token htoken
  rw [← List.map_cons, ← h] at htoken
  obtain ⟨v, hv, rfl⟩ := List.mem_map.mp htoken
  rw [Text.IsWord, String.toList_ofList]
  exact ⟨Chars.isWord_of_mem_words hv, fun hc => hinside (Chars.subset_of_mem_words hv hc)⟩

theorem canonical_of_parseFrom {s : List Char} (h : parseFrom n s = .ok segments) : IsCanonical segments := by
  obtain ⟨ps, hcut⟩ := exists_cut n s
  induction hcut generalizing segments with
  | text hopen =>
    obtain rfl := Except.ok.inj ((parseFrom_text hopen).symm.trans h)
    exact .withLiteral hopen .nil (by simp)
  | unclosed htext hinside =>
    rw [parseFrom_unclosed htext hinside] at h
    cases h
  | @block n text inside rest ps htext hinside hrest ih =>
    obtain ⟨w, ws, later, hwords, hparsed, rfl⟩ := parseFrom_block_ok htext hinside h
    have hblock := (ih hparsed).cons (canonical_block hinside hwords (n + text.length)) fun _ _ hboth => hboth.1
    exact .withLiteral htext hblock (by simp [Segment.IsLiteral])

/-- What parsing gives is in normal form. -/
theorem canonical_of_parse {body : String} (h : parse body = .ok segments) : IsCanonical segments :=
  canonical_of_parseFrom h

/-! ## What is written is parsed -/

theorem write_cons (s : Segment) (segments : List Segment) :
    write (s :: segments) = .ofList s.written ++ write segments := by
  rw [write, List.flatMap_cons, String.ofList_append, write]

theorem shift_placedAt (m n : Nat) (s : Segment) : (s.placedAt n).shift m = s.placedAt (m + n) := by cases s <;> rfl

theorem isLiteral_placedAt {s : Segment} : (s.placedAt n).IsLiteral ↔ s.IsLiteral := by cases s <;> rfl

theorem placed_cons (s : Segment) (segments : List Segment) :
    placed (s :: segments) = s.placedAt 0 :: (placed segments).map (Segment.shift s.written.length) := by
  rw [placed, List.mapIdx_cons, placed]
  refine congrArg _ (List.ext_getElem? fun i => ?_)
  rw [List.getElem?_map, List.getElem?_mapIdx, List.getElem?_mapIdx, Option.map_map]
  refine congrArg (Option.map · segments[i]?) (funext fun t => ?_)
  rw [Function.comp_apply, shift_placedAt, List.take_succ_cons, write_cons, String.length_append, String.length_ofList]

/-- A segment in its form is parsed to itself. -/
theorem parse_written {s : Segment} (h : s.IsCanonical) : parse (.ofList s.written) = .ok [s.placedAt 0] := by
  rw [parse, String.toList_ofList]
  cases s with
  | literal text =>
    have hne : ¬ text.toList.isEmpty = true := by simpa using h.1
    rw [Segment.written, parseFrom_text h.2, withLiteral, if_neg hne, String.ofList_toList, Segment.placedAt]
  | block action tokens position =>
    have hinside : '}' ∉ (Text.unwords (action :: tokens)).toList := by
      intro hmem
      rcases Text.mem_unwords hmem with hspace | ⟨w, hw, hc⟩
      · exact absurd hspace (by decide)
      · exact (h w hw).2 hc
    have hwords := Text.words_unwords fun w hw => (h w hw).1
    rw [Text.words] at hwords
    have hparse := parseFrom_block (n := 0) List.not_mem_nil hinside []
    rw [List.nil_append] at hparse
    rw [Segment.written, hparse]
    cases hcut : Chars.words (Text.unwords (action :: tokens)).toList with
    | nil =>
      rw [hcut] at hwords
      cases hwords
    | cons w ws =>
      rw [hcut, List.map_cons] at hwords
      obtain ⟨rfl, rfl⟩ := List.cons.inj hwords
      dsimp only
      rw [parseFrom_text (by simp)]
      rfl

/-- **Segments in normal form are given back** when they are written and parsed, with their offsets. -/
theorem parse_write (h : IsCanonical segments) : parse (write segments) = .ok (placed segments) := by
  induction segments with
  | nil => exact parseFrom_text List.not_mem_nil
  | cons s rest ih =>
    obtain ⟨hapart, hchain⟩ := List.isChain_cons.mp h.apart
    have hrest := ih ⟨(List.forall_mem_cons.mp h.each).2, hchain⟩
    rw [write_cons, parse_append (parse_written (h.each s List.mem_cons_self)), hrest, String.length_ofList,
      placed_cons]
    refine congrArg Except.ok (join_singleton fun y hy => ?_)
    cases rest with
    | nil => cases hy
    | cons t rest =>
      rw [placed_cons, List.map_cons, shift_placedAt] at hy
      obtain rfl := Option.some.inj hy
      rw [Segment.Apart, isLiteral_placedAt, isLiteral_placedAt]
      exact hapart t rfl

/-- **Writing and parsing are inverse.** Segments in normal form that are written are parsed back, each block with
the offset of its brace, and what is parsed is in normal form. If a body is parsed, then with another one behind it
that one is parsed as it is alone, only further on, and its segments come behind those of the first, as one where
text meets text; its fault is the fault of both. -/
theorem written_bodies_are_parsed_back :
    (∀ segments, IsCanonical segments → parse (write segments) = .ok (placed segments)) ∧
    (∀ body segments, parse body = .ok segments → IsCanonical segments) ∧
    ∀ a b segments, parse a = .ok segments →
      (parse (a ++ b) = match parse b with
        | .ok later => .ok (join segments (later.map (Segment.shift a.length)))
        | .error e => .error (e.shift a.length)) ∧
      ((∃ e, parse (a ++ b) = .error e) ↔ ∃ e, parse b = .error e) := by
  refine ⟨fun _ => parse_write, fun _ _ => canonical_of_parse, fun a b segments h => ?_⟩
  rw [parse_append h]
  cases parse b with
  | error e => exact ⟨rfl, iff_of_true ⟨_, rfl⟩ ⟨_, rfl⟩⟩
  | ok later => exact ⟨rfl, iff_of_false (fun ⟨_, he⟩ => nomatch he) fun ⟨_, he⟩ => nomatch he⟩

/-- A closing brace in text, an opening one in a token, and text that meets text. -/
theorem written_bodies_are_parsed_back_mixed :
    let segments : List Segment := [.literal "\x7d ", .block "ping" ["\x7bx", "$0"] 7, .literal "!"]
    let placed : List Segment := [.literal "\x7d ", .block "ping" ["\x7bx", "$0"] 2, .literal "!"]
    IsCanonical segments ∧ parse "\x7d \x7bping \x7bx $0\x7d!" = .ok placed ∧
      parse "?\x7bpong\x7d" = .ok [.literal "?", .block "pong" [] 1] ∧
      parse "\x7d \x7bping \x7bx $0\x7d!?\x7bpong\x7d" =
        .ok [.literal "\x7d ", .block "ping" ["\x7bx", "$0"] 2, .literal "!?", .block "pong" [] 16] := by
  intro segments placed
  have hcanonical : IsCanonical segments := by decide
  obtain ⟨hwrite, -, happend⟩ := written_bodies_are_parsed_back
  have hwritten : write segments = "\x7d \x7bping \x7bx $0\x7d!" ∧ Script.placed segments = placed := by decide +kernel
  have hfirst := hwrite segments hcanonical
  rw [hwritten.1, hwritten.2] at hfirst
  have hsecond : parse "?\x7bpong\x7d" = .ok [.literal "?", .block "pong" [] 1] :=
    hwrite [.literal "?", .block "pong" [] 0] (by decide)
  have hboth := (happend "\x7d \x7bping \x7bx $0\x7d!" "?\x7bpong\x7d" placed hfirst).1
  rw [hsecond] at hboth
  exact ⟨hcanonical, hfirst, hsecond, hboth⟩

end ChannelBot.Script
