/-
Markup as a reader takes it: tags, and the characters of texts between them (`Markup.tokens`). A part that
ends in a text is read the same whatever comes behind it (`tokens_append`), and where no bracket opens there
are characters only (`tokens_of_text`). In the characters, references stand for other ones
(`Markup.unescape`).
-/
import Mathlib.Data.List.Basic

namespace ChannelBot.Markup

/-! ## Reading -/

/-- What a reader finds: a tag, by what stands between its brackets, or a character of a text. -/
inductive Token where
  | tag (inside : String)
  | char (c : Char)
  deriving Repr, DecidableEq

/-- Where a reader is: in a text, or in a tag, of which it has read a part. In quotes a bracket does not
end the tag. -/
inductive Place where
  | text
  | tag (seen : List Char) (quote : Option Char)
  deriving Repr, DecidableEq

namespace Place

/-- Where the next character takes a reader, and what it has found then. -/
def step : Place → Char → Place × List Token
  | .text, c => if c = '<' then (.tag [] none, []) else (.text, [.char c])
  | .tag seen none, c =>
    if c = '>' then (.text, [.tag (.ofList seen)])
    else (.tag (seen ++ [c]) (if c = '"' ∨ c = '\'' then some c else none), [])
  | .tag seen (some q), c => (.tag (seen ++ [c]) (if c = q then none else some q), [])

/-- Where a reader is after some characters. -/
def after : Place → List Char → Place
  | p, [] => p
  | p, c :: cs => (p.step c).1.after cs

/-- What a reader finds in some characters. -/
def tokens : Place → List Char → List Token
  | _, [] => []
  | p, c :: cs => (p.step c).2 ++ (p.step c).1.tokens cs

theorem after_append (p : Place) (cs ds : List Char) : p.after (cs ++ ds) = (p.after cs).after ds := by
  induction cs generalizing p with
  | nil => rfl
  | cons c cs ih => exact ih _

theorem tokens_append (p : Place) (cs ds : List Char) :
    p.tokens (cs ++ ds) = p.tokens cs ++ (p.after cs).tokens ds := by
  induction cs generalizing p with
  | nil => rfl
  | cons c cs ih => rw [List.cons_append, tokens, ih, tokens, List.append_assoc, after]

/-- Where no bracket opens a reader stays in the text. -/
theorem read_text {cs : List Char} (h : '<' ∉ cs) :
    Place.text.after cs = .text ∧ Place.text.tokens cs = cs.map .char := by
  induction cs with
  | nil => exact ⟨rfl, rfl⟩
  | cons c cs ih =>
    have hc : c ≠ '<' := fun he => h (he ▸ List.mem_cons_self)
    obtain ⟨hafter, htokens⟩ := ih fun hmem => h (List.mem_cons_of_mem _ hmem)
    simp [after, tokens, step, hc, hafter, htokens]

/-- Inside of a tag without quotes nothing but a bracket ends it. -/
theorem read_inside {inside : List Char} (h : ∀ c ∈ inside, c ≠ '>' ∧ c ≠ '"' ∧ c ≠ '\'') (seen : List Char) :
    (Place.tag seen none).after inside = .tag (seen ++ inside) none ∧ (Place.tag seen none).tokens inside = [] := by
  induction inside generalizing seen with
  | nil => simp [after, tokens]
  | cons c cs ih =>
    obtain ⟨hclose, hdouble, hsingle⟩ := h c List.mem_cons_self
    obtain ⟨hafter, htokens⟩ := ih (fun d hd => h d (List.mem_cons_of_mem _ hd)) (seen ++ [c])
    simp [after, tokens, step, hclose, hdouble, hsingle, hafter, htokens]

end Place

/-- What a reader finds in a page. -/
def tokens (page : String) : List Token := Place.text.tokens page.toList

/-- Nothing is open at the end of a part of a page. -/
def IsWhole (part : String) : Prop := Place.text.after part.toList = .text

instance (part : String) : Decidable (IsWhole part) := inferInstanceAs (Decidable (_ = _))

variable {a b : String}

theorem tokens_append (h : IsWhole a) (b : String) : tokens (a ++ b) = tokens a ++ tokens b := by
  rw [tokens, String.toList_append, Place.tokens_append, h]
  rfl

theorem IsWhole.append (ha : IsWhole a) (hb : IsWhole b) : IsWhole (a ++ b) := by
  rw [IsWhole, String.toList_append, Place.after_append, ha]
  exact hb

theorem tokens_cons {inside : String} (h : IsWhole a ∧ tokens a = [.tag inside]) (b : String) :
    tokens (a ++ b) = .tag inside :: tokens b := by
  rw [tokens_append h.1, h.2]
  rfl

/-- Parts that are whole are read one after another. -/
theorem read_join {parts : List String} (h : ∀ part ∈ parts, IsWhole part) :
    IsWhole (String.join parts) ∧ tokens (String.join parts) = parts.flatMap tokens := by
  induction parts with
  | nil => exact ⟨rfl, rfl⟩
  | cons part parts ih =>
    obtain ⟨hwhole, htokens⟩ := ih fun p hp => h p (List.mem_cons_of_mem _ hp)
    have hpart := h part List.mem_cons_self
    rw [String.join_cons, List.flatMap_cons, tokens_append hpart, htokens]
    exact ⟨hpart.append hwhole, rfl⟩

/-- The tokens of a text. -/
def chars (text : String) : List Token := text.toList.map .char

theorem IsWhole.of_text (h : '<' ∉ a.toList) : IsWhole a := (Place.read_text h).1

theorem tokens_of_text (h : '<' ∉ a.toList) : tokens a = chars a := (Place.read_text h).2

/-- Parts that are spelled out are read by their characters. -/
theorem IsWhole.of_chars {cs : List Char} (h : Place.text.after cs = .text) : IsWhole (String.ofList cs) := by
  rwa [IsWhole, String.toList_ofList]

theorem tokens_ofList (cs : List Char) : tokens (String.ofList cs) = Place.text.tokens cs := by
  rw [tokens, String.toList_ofList]

/-- Nothing in a tag but its closing bracket ends it. -/
def IsPlain (inside : String) : Prop := ∀ c ∈ inside.toList, c ≠ '>' ∧ c ≠ '"' ∧ c ≠ '\''

instance (inside : String) : Decidable (IsPlain inside) := List.decidableBAll _ inside.toList

/-- A tag is read as one. -/
theorem read_tag {inside : String} (h : IsPlain inside) :
    IsWhole ("<" ++ inside ++ ">") ∧ tokens ("<" ++ inside ++ ">") = [.tag inside] := by
  have hlist : ("<" ++ inside ++ ">").toList = '<' :: (inside.toList ++ ['>']) := by
    rw [String.toList_append, String.toList_append]
    rfl
  obtain ⟨hafter, htokens⟩ := Place.read_inside h []
  have hinside : Place.text.step '<' = (.tag [] none, []) := rfl
  constructor
  · rw [IsWhole, hlist, Place.after, hinside, Place.after_append, hafter]
    rfl
  · rw [tokens, hlist, Place.tokens, hinside, Place.tokens_append, htokens, hafter]
    simp [Place.tokens, Place.step]

/-! ## Tags and texts -/

/-- What stands between the brackets of a tag. -/
def Token.tag? : Token → Option String
  | .tag inside => some inside
  | .char _ => none

/-- A character of a text. -/
def Token.char? : Token → Option Char
  | .tag _ => none
  | .char c => some c

/-- The structure of a page: its tags. -/
def tags (page : String) : List String := (tokens page).filterMap Token.tag?

theorem filterMap_tokens (page : String) : (tokens page).filterMap Token.tag? = tags page := by rw [tags]

/-- The texts among some tokens, as they are written. -/
def written (ts : List Token) : String := .ofList (ts.filterMap Token.char?)

@[simp] theorem tags_cons (inside : String) (ts : List Token) :
    (.tag inside :: ts).filterMap Token.tag? = inside :: ts.filterMap Token.tag? :=
  List.filterMap_cons_some (f := Token.tag?) rfl

@[simp] theorem tags_chars (text : String) : (chars text).filterMap Token.tag? = [] := by
  simp [chars, Token.tag?]

@[simp] theorem written_chars (text : String) : written (chars text) = text := by
  simp [written, chars, List.filterMap_map, Function.comp_def, Token.char?]

theorem tags_ofList (cs : List Char) : tags (String.ofList cs) = (Place.text.tokens cs).filterMap Token.tag? := by
  rw [tags, tokens_ofList]

/-- A tag is found just if it is among the tags. -/
theorem mem_tags {name : String} {ts : List Token} : name ∈ ts.filterMap Token.tag? ↔ .tag name ∈ ts := by
  rw [List.mem_filterMap]
  constructor
  · rintro ⟨t, ht, heq⟩
    cases t with
    | tag inside =>
      cases heq
      exact ht
    | char => cases heq
  · exact fun h => ⟨.tag name, h, rfl⟩

theorem tag_not_mem {name page : String} (h : name ∉ tags page) : .tag name ∉ tokens page := mt mem_tags.mpr h

theorem tag_not_mem_chars (inside text : String) : .tag inside ∉ chars text := by simp [chars]

theorem tags_append (h : IsWhole a) (b : String) : tags (a ++ b) = tags a ++ tags b := by
  rw [tags, tokens_append h, List.filterMap_append]
  rfl

theorem tags_of_text (h : '<' ∉ a.toList) : tags a = [] := by rw [tags, tokens_of_text h, tags_chars]

/-! ## Elements -/

/-- The tokens in each element of a name, from its opening tag up to the next closing one. -/
def elements (name : String) : List Token → List (List Token)
  | [] => []
  | t :: ts =>
    if t = .tag name then ts.takeWhile (· ≠ .tag ("/" ++ name)) :: elements name ts else elements name ts

theorem elements_other {name : String} {t : Token} (h : t ≠ .tag name) (ts : List Token) :
    elements name (t :: ts) = elements name ts := if_neg h

theorem elements_skip {name : String} {ts : List Token} (h : .tag name ∉ ts) (us : List Token) :
    elements name (ts ++ us) = elements name us := by
  induction ts with
  | nil => rfl
  | cons t ts ih =>
    have ht : t ≠ .tag name := fun he => h (he ▸ List.mem_cons_self)
    rw [List.cons_append, elements_other ht, ih fun hmem => h (List.mem_cons_of_mem _ hmem)]

theorem elements_none {name : String} {ts : List Token} (h : .tag name ∉ ts) : elements name ts = [] := by
  have hskip := elements_skip h []
  rwa [List.append_nil] at hskip

/-- An element that holds no other of its name comes first, then those behind it. -/
theorem elements_cons {name : String} {inner : List Token} (hopens : .tag name ∉ inner)
    (hcloses : .tag ("/" ++ name) ∉ inner) (hname : "/" ++ name ≠ name) (us : List Token) :
    elements name (.tag name :: (inner ++ .tag ("/" ++ name) :: us)) = inner :: elements name us := by
  have hinner : ∀ t ∈ inner, decide (t ≠ .tag ("/" ++ name)) = true :=
    fun t ht => decide_eq_true fun he => hcloses (he ▸ ht)
  have hclosing : (Token.tag ("/" ++ name)) ≠ .tag name := fun he => hname (Token.tag.inj he)
  rw [elements, if_pos rfl, elements_skip hopens, elements_other hclosing, List.takeWhile_append_of_pos hinner,
    List.takeWhile_cons_of_neg (by simp), List.append_nil]

/-! ## References -/

/-- The references under which the characters with a meaning in markup are written. -/
def reserved : List (String × Char) := [("amp", '&'), ("lt", '<'), ("gt", '>'), ("quot", '"'), ("#x27", '\'')]

/-- Nothing in the name of a reference ends it or begins another one or a tag. -/
def IsReference (name : String) : Prop := ∀ c ∈ name.toList, c ≠ ';' ∧ c ≠ '&' ∧ c ≠ '<'

instance (name : String) : Decidable (IsReference name) := List.decidableBAll _ name.toList

theorem reserved_names : ∀ e ∈ reserved, IsReference e.1 := by decide +kernel

/-- The name of the reference at the beginning of a text behind its ampersand. -/
def reference? (cs : List Char) : Option String :=
  let name := cs.takeWhile fun c => c ≠ ';' && c ≠ '&'
  if cs[name.length]? = some ';' then some (.ofList name) else none

variable (stands : String → Option String)

/-- The characters of a text, the first ones skipped, with references in place of what they stand for.
An ampersand that begins no reference is itself. -/
def unescapeFrom : Nat → List Char → List Char
  | _, [] => []
  | skip + 1, _ :: cs => unescapeFrom skip cs
  | 0, c :: cs =>
    match if c = '&' then (reference? cs).bind fun name => (stands name).map (name, ·) else none with
    | some (name, text) => text.toList ++ unescapeFrom (name.length + 1) cs
    | none => c :: unescapeFrom 0 cs

/-- A text without its references, for any table of what they stand for. -/
def unescape (text : String) : String := .ofList (unescapeFrom stands 0 text.toList)

/-- A table of references has the reserved characters. -/
def KnowsReserved : Prop := ∀ e ∈ reserved, stands e.1 = some (String.singleton e.2)

variable {stands}

theorem reference?_name {name : String} (h : IsReference name) (cs : List Char) :
    reference? (name.toList ++ ';' :: cs) = some name := by
  have hinside : ∀ c ∈ name.toList, (c ≠ ';' && c ≠ '&') = true := fun c hc => by simpa using ⟨(h c hc).1, (h c hc).2.1⟩
  have htaken : (name.toList ++ ';' :: cs).takeWhile (fun c => c ≠ ';' && c ≠ '&') = name.toList := by
    rw [List.takeWhile_append_of_pos hinside, List.takeWhile_cons_of_neg (by simp), List.append_nil]
  simp only [reference?, htaken]
  simp

theorem unescapeFrom_skip (skipped cs : List Char) :
    unescapeFrom stands skipped.length (skipped ++ cs) = unescapeFrom stands 0 cs := by
  induction skipped with
  | nil => rfl
  | cons c skipped ih => exact ih

/-- A character that is no ampersand is itself. -/
theorem unescapeFrom_char {c : Char} (h : c ≠ '&') (cs : List Char) :
    unescapeFrom stands 0 (c :: cs) = c :: unescapeFrom stands 0 cs := by
  rw [unescapeFrom, if_neg h]

/-- A reference is what it stands for. -/
theorem unescapeFrom_reference {name text : String} (hname : IsReference name)
    (h : stands name = some text) (cs : List Char) :
    unescapeFrom stands 0 ('&' :: (name.toList ++ ';' :: cs)) = text.toList ++ unescapeFrom stands 0 cs := by
  have hskip : unescapeFrom stands (name.length + 1) (name.toList ++ ';' :: cs) = unescapeFrom stands 0 cs := by
    have hall : unescapeFrom stands (name.toList ++ [';']).length (name.toList ++ [';'] ++ cs) =
        unescapeFrom stands 0 cs := unescapeFrom_skip _ _
    rwa [List.length_append, String.length_toList, List.append_assoc] at hall
  rw [unescapeFrom, if_pos rfl, reference?_name hname, Option.bind_some, h, Option.map_some]
  show text.toList ++ unescapeFrom stands (name.length + 1) (name.toList ++ ';' :: cs) = _
  rw [hskip]

/-! ## Elements and tables as they are meant -/

/-- The texts in the elements of a name. -/
def texts (stands : String → Option String) (name : String) (ts : List Token) : List String :=
  (elements name ts).map fun inner => unescape stands (written inner)

/-- The cells of a page's tables, row by row. A row of headings has no cells, so it is none. -/
def rows (stands : String → Option String) (page : String) : List (List String) :=
  ((elements "tr" (tokens page)).map (texts stands "td")).filter (· ≠ [])

end ChannelBot.Markup
