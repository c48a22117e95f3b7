/-
The pages as markup. Texts from outside are escaped once: no bracket of theirs opens a tag (`escape_opens_none`),
and a reader who follows references has them back (`unescape_escape`). So the tags of a page are those of its kind
(`Kind.tags`, `Is.tags_eq`) whatever stands in it, its texts are read back (`texts_said`), and the cells of the table
of commands are the rows that it was made of (`rows_commands`).
-/
import ChannelBot.Proofs.Text.Markup
import ChannelBot.Server.Page

namespace ChannelBot.Server.Page

open Markup

/-! ## Escaped texts -/

/-- A character stands for itself, or a reference does. -/
theorem escapeChar_cases (c : Char) :
    (escapeChar c = [c] ∧ c ≠ '&' ∧ c ≠ '<') ∨
      ∃ name, (name, c) ∈ reserved ∧ escapeChar c = '&' :: (name.toList ++ [';']) := by
  rw [escapeChar]
  split_ifs with hamp hlt hgt hquot hapos
  · exact .inr ⟨"amp", by simp [reserved, beq_iff_eq.mp hamp], by decide +kernel⟩
  · exact .inr ⟨"lt", by simp [reserved, beq_iff_eq.mp hlt], by decide +kernel⟩
  · exact .inr ⟨"gt", by simp [reserved, beq_iff_eq.mp hgt], by decide +kernel⟩
  · exact .inr ⟨"quot", by simp [reserved, beq_iff_eq.mp hquot], by decide +kernel⟩
  · exact .inr ⟨"#x27", by simp [reserved, beq_iff_eq.mp hapos], by decide +kernel⟩
  · exact .inl ⟨rfl, by simpa using hamp, by simpa using hlt⟩

/-- An escaped text opens no tag. -/
theorem escape_opens_none (text : String) : '<' ∉ (escape text).toList := by
  rw [escape, String.toList_ofList, List.mem_flatMap]
  rintro ⟨c, -, hmem⟩
  rcases escapeChar_cases c with ⟨hself, -, hopen⟩ | ⟨name, hname, hreference⟩
  · rw [hself, List.mem_singleton] at hmem
    exact hopen hmem.symm
  · rw [hreference, List.mem_cons, List.mem_append, List.mem_singleton] at hmem
    rcases hmem with hamp | hinside | hend
    · exact absurd hamp (by decide)
    · exact (reserved_names _ hname '<' hinside).2.2 rfl
    · exact absurd hend (by decide)

variable {stands : String → Option String}

/-- An escaped text is read back, whatever else the references stand for. -/
theorem unescape_escape (h : KnowsReserved stands) (text : String) : unescape stands (escape text) = text := by
  have hlist : ∀ cs : List Char, unescapeFrom stands 0 (cs.flatMap escapeChar) = cs := by
    intro cs
    induction cs with
    | nil => rfl
    | cons c cs ih =>
      rw [List.flatMap_cons]
      rcases escapeChar_cases c with ⟨hself, hamp, -⟩ | ⟨name, hname, hreference⟩
      · rw [hself, List.singleton_append, unescapeFrom_char hamp, ih]
      · have hstands : stands name = some (String.singleton c) := h _ hname
        rw [hreference, List.cons_append, List.append_assoc, List.singleton_append,
          unescapeFrom_reference (reserved_names _ hname) hstands, ih, String.toList_singleton, List.singleton_append]
  rw [unescape, escape, String.toList_ofList, hlist, String.ofList_toList]

theorem whole_escape (text : String) : IsWhole (escape text) := .of_text (escape_opens_none text)

theorem tokens_escape (text : String) : tokens (escape text) = chars (escape text) :=
  tokens_of_text (escape_opens_none text)

/-! ## Elements -/

/-- An element is read as its tags around what it holds. -/
theorem read_element {tag content : String} (htag : IsPlain tag) (hcontent : IsWhole content) :
    IsWhole (element tag content) ∧
      tokens (element tag content) = .tag tag :: (tokens content ++ [.tag ("/" ++ tag)]) := by
  have hslash : IsPlain "/" := by decide
  have hclosing : IsPlain ("/" ++ tag) := by
    intro c hc
    rw [String.toList_append, List.mem_append] at hc
    exact hc.elim (hslash c) (htag c)
  have heq : element tag content = ("<" ++ tag ++ ">") ++ (content ++ ("<" ++ ("/" ++ tag) ++ ">")) := by
    simp only [element, String.append_assoc]
    rfl
  obtain ⟨hopened, hopen⟩ := read_tag htag
  obtain ⟨hclosed, hclose⟩ := read_tag hclosing
  rw [heq, tokens_append hopened, tokens_append hcontent, hopen, hclose]
  exact ⟨hopened.append (hcontent.append hclosed), rfl⟩

theorem read_paragraph (text : String) : IsWhole (paragraph text) ∧
    tokens (paragraph text) = .tag "p" :: (chars (escape text) ++ [.tag "/p"]) := by
  have hread := read_element (by decide : IsPlain "p") (whole_escape text)
  rwa [tokens_escape] at hread

/-- What is read of a cell. -/
def cellTokens (cell : String) : List Token := .tag "td" :: (chars (escape cell) ++ [.tag "/td"])

/-- What is read of a row. -/
def rowTokens (cells : List String) : List Token := .tag "tr" :: (cells.flatMap cellTokens ++ [.tag "/tr"])

theorem read_row (cells : List String) : IsWhole (row cells) ∧ tokens (row cells) = rowTokens cells := by
  have hcell : ∀ cell,
      IsWhole (element "td" (escape cell)) ∧ tokens (element "td" (escape cell)) = cellTokens cell := by
    intro cell
    have hread := read_element (by decide : IsPlain "td") (whole_escape cell)
    rwa [tokens_escape] at hread
  have hparts : ∀ part ∈ cells.map fun cell => element "td" (escape cell), IsWhole part := by
    intro part hpart
    obtain ⟨cell, -, rfl⟩ := List.mem_map.mp hpart
    exact (hcell cell).1
  obtain ⟨hjoined, hjoin⟩ := read_join hparts
  have hcells : (cells.map fun cell => element "td" (escape cell)).flatMap tokens = cells.flatMap cellTokens := by
    rw [List.flatMap_map]
    exact List.flatMap_congr fun cell _ => (hcell cell).2
  have hread := read_element (by decide : IsPlain "tr") hjoined
  rwa [hjoin, hcells] at hread

/-! ## The table of commands -/

/-- The row of headings of the table of commands. -/
def headings : String := "<tr><th>Command</th><th>Action</th><th>Permission</th></tr>"

/-- What is read in the row of headings. -/
def headingTokens : List Token :=
  ["Command", "Action", "Permission"].flatMap fun heading => .tag "th" :: (chars heading ++ [.tag "/th"])

theorem read_headings :
    IsWhole headings ∧ tokens headings = .tag "tr" :: (headingTokens ++ [.tag "/tr"]) :=
  ⟨.of_chars (by decide +kernel), (tokens_ofList _).trans rfl⟩

theorem tags_headings : headingTokens.filterMap Token.tag? = ["th", "/th", "th", "/th", "th", "/th"] := by
  decide +kernel

/-- What is read of the table of commands. -/
def tableTokens (rows : List (List String)) : List Token :=
  .tag "table" :: (.tag "tr" :: (headingTokens ++ .tag "/tr" :: rows.flatMap rowTokens) ++ [.tag "/table"])

theorem read_table (rows : List (List String)) :
    IsWhole (element "table" (headings ++ String.join (rows.map row))) ∧
      tokens (element "table" (headings ++ String.join (rows.map row))) = tableTokens rows := by
  obtain ⟨hheaded, hhead⟩ := read_headings
  have hparts : ∀ part ∈ rows.map row, IsWhole part := by
    intro part hpart
    obtain ⟨cells, -, rfl⟩ := List.mem_map.mp hpart
    exact (read_row cells).1
  obtain ⟨hjoined, hjoin⟩ := read_join hparts
  have hrows : (rows.map row).flatMap tokens = rows.flatMap rowTokens := by
    rw [List.flatMap_map]
    exact List.flatMap_congr fun cells _ => (read_row cells).2
  obtain ⟨hwhole, hread⟩ := read_element (by decide : IsPlain "table") (hheaded.append hjoined)
  refine ⟨hwhole, ?_⟩
  rw [hread, tokens_append hheaded, hhead, hjoin, hrows, tableTokens]
  simp only [List.cons_append, List.append_assoc, List.nil_append]
  rfl

/-- What a listing without commands says. -/
def noCommands : String := "<p>No custom commands.</p>"

theorem read_noCommands : IsWhole noCommands ∧ tags noCommands = ["p", "/p"] :=
  ⟨.of_chars (by decide +kernel), (tags_ofList _).trans (by decide +kernel)⟩

theorem commands_nil (channel : String) :
    Page.commands channel [] = layout ("Commands for " ++ channel) noCommands := by
  rw [Page.commands, List.isEmpty_nil, if_pos rfl, noCommands]

theorem commands_cons (channel : String) (cells : List String) (rest : List (List String)) :
    Page.commands channel (cells :: rest) =
      layout ("Commands for " ++ channel) (element "table" (headings ++ String.join ((cells :: rest).map row))) := by
  rw [Page.commands, List.isEmpty_cons, if_neg Bool.false_ne_true, headings]

/-! ## The layout -/

/-- The part of a page before its title. -/
def lead : String := "<!DOCTYPE html>\n<html lang=\"en\">\n  <head>\n    <meta charset=\"utf-8\" />\n    "

/-- How a page looks. -/
def bodyStyle : String := "\n    <style>\n      body \x7b font-family: sans-serif; margin: 2rem; \x7d\n"

/-- How a table looks. -/
def tableStyle : String := "      table \x7b border-collapse: collapse; \x7d\n"

/-- How the cells of a table look. -/
def cellStyle : String := "      td, th \x7b border: 1px solid #ccc; padding: 0.3rem 0.6rem; text-align: left; \x7d\n"

/-- The part of a page between how it looks and its heading. -/
def beforeHeading : String := "    </style>\n  </head>\n  <body>\n    "

/-- The part of a page between its title and its heading. -/
def style : String := bodyStyle ++ (tableStyle ++ (cellStyle ++ beforeHeading))

/-- The part of a page after its body. -/
def closing : String := "\n  </body>\n</html>\n"

theorem layout_eq (title body : String) : layout title body =
    lead ++ ("<title>" ++ (escape title ++ ("</title>" ++ (style ++ ("<h1>" ++ (escape title ++ ("</h1>" ++
      ("\n    " ++ (body ++ closing))))))))) := by
  have hlead : lead ++ "<title>" =
      "<!DOCTYPE html>\n<html lang=\"en\">\n  <head>\n    <meta charset=\"utf-8\" />\n    <title>" :=
    String.ofList_append.symm
  have hstyle : "</title>" ++ bodyStyle =
      "</title>\n    <style>\n      body \x7b font-family: sans-serif; margin: 2rem; \x7d\n" :=
    String.ofList_append.symm
  have hheading : beforeHeading ++ "<h1>" = "    </style>\n  </head>\n  <body>\n    <h1>" := String.ofList_append.symm
  have hunder : "</h1>" ++ "\n    " = "</h1>\n    " := String.ofList_append.symm
  have hparts : layout title body =
      lead ++ "<title>" ++ escape title ++ ("</title>" ++ bodyStyle) ++ tableStyle ++ cellStyle ++
        (beforeHeading ++ "<h1>") ++ escape title ++ ("</h1>" ++ "\n    ") ++ body ++ closing := by
    rw [hlead, hstyle, hheading, hunder]
    rfl
  rw [hparts, style]
  simp only [String.append_assoc, -String.reduceAppend]

theorem read_style : IsWhole style ∧ tags style = ["style", "/style", "/head", "body"] := by
  have hbody : IsWhole bodyStyle := .of_chars (by decide +kernel)
  have htable : IsWhole tableStyle := .of_chars (by decide +kernel)
  have hcell : IsWhole cellStyle := .of_chars (by decide +kernel)
  have hbefore : IsWhole beforeHeading := .of_chars (by decide +kernel)
  refine ⟨hbody.append (htable.append (hcell.append hbefore)), ?_⟩
  have hbodyTags : tags bodyStyle = ["style"] := (tags_ofList _).trans (by decide +kernel)
  have htableTags : tags tableStyle = [] := (tags_ofList _).trans (by decide +kernel)
  have hcellTags : tags cellStyle = [] := (tags_ofList _).trans (by decide +kernel)
  have hbeforeTags : tags beforeHeading = ["/style", "/head", "body"] := (tags_ofList _).trans (by decide +kernel)
  rw [style, tags_append hbody, tags_append htable, tags_append hcell, hbodyTags, htableTags, hcellTags, hbeforeTags]
  rfl

/-- What is read of a page under its heading. -/
def underHeading (body : String) : List Token := tokens "\n    " ++ (tokens body ++ tokens closing)

/-- What is read of a page under its title. -/
def underTitle (title body : String) : List Token :=
  tokens style ++ .tag "h1" :: (chars (escape title) ++ .tag "/h1" :: underHeading body)

theorem tokens_layout (title : String) {body : String} (hbody : IsWhole body) : tokens (layout title body) =
    tokens lead ++ .tag "title" :: (chars (escape title) ++ .tag "/title" :: underTitle title body) := by
  have hlead : IsWhole lead := .of_chars (by decide +kernel)
  have hopen : IsWhole "<title>" ∧ tokens "<title>" = [.tag "title"] := by decide +kernel
  have hclose : IsWhole "</title>" ∧ tokens "</title>" = [.tag "/title"] := by decide +kernel
  have hhead : IsWhole "<h1>" ∧ tokens "<h1>" = [.tag "h1"] := by decide +kernel
  have hend : IsWhole "</h1>" ∧ tokens "</h1>" = [.tag "/h1"] := by decide +kernel
  have hblank : IsWhole "\n    " := .of_chars (by decide +kernel)
  rw [layout_eq, tokens_append hlead, tokens_cons hopen, tokens_append (whole_escape title), tokens_cons hclose,
    tokens_append read_style.1, tokens_cons hhead, tokens_append (whole_escape title), tokens_cons hend,
    tokens_append hblank, tokens_append hbody, tokens_escape, underTitle, underHeading]

/-- The tags of a page before its body. -/
def headTags : List String :=
  ["!DOCTYPE html", "html lang=\"en\"", "head", "meta charset=\"utf-8\" /", "title", "/title", "style", "/style",
    "/head", "body", "h1", "/h1"]

theorem tags_lead : tags lead = ["!DOCTYPE html", "html lang=\"en\"", "head", "meta charset=\"utf-8\" /"] :=
  (tags_ofList _).trans (by decide +kernel)

theorem tags_blank : tags "\n    " = [] := (tags_ofList _).trans (by decide +kernel)

theorem tags_closing : tags closing = ["/body", "/html"] := (tags_ofList _).trans (by decide +kernel)

/-- The tags of a page around those of its body. -/
def frame (body : List String) : List String := headTags ++ (body ++ ["/body", "/html"])

theorem tags_underHeading (body : String) :
    (underHeading body).filterMap Token.tag? = tags body ++ ["/body", "/html"] := by
  simp only [underHeading, List.filterMap_append, filterMap_tokens, tags_blank, tags_closing, List.nil_append]

/-- A title has no part in the tags of a page. -/
theorem tags_underTitle (title body : String) : (underTitle title body).filterMap Token.tag? =
    "style" :: "/style" :: "/head" :: "body" :: "h1" :: "/h1" :: (tags body ++ ["/body", "/html"]) := by
  simp only [underTitle, List.filterMap_append, tags_cons, tags_chars, filterMap_tokens, read_style.2,
    tags_underHeading, List.nil_append, List.cons_append]

theorem tags_layout (title : String) {body : String} (hbody : IsWhole body) :
    tags (layout title body) = frame (tags body) := by
  rw [tags, tokens_layout title hbody]
  simp only [List.filterMap_append, tags_cons, tags_chars, filterMap_tokens, tags_lead, tags_underTitle,
    List.nil_append, List.cons_append, frame, headTags]

/-! ## Kinds of pages -/

/-- Which page a page is, and how many commands it lists. -/
inductive Kind where
  | front
  | unknownChannel
  | commands (count : Nat)
  | failed
  | authorized
  | connected
  deriving Repr, DecidableEq

/-- The tags of a listed command. -/
def rowTags : List String := ["tr", "td", "/td", "td", "/td", "td", "/td", "/tr"]

/-- The tags in the body of a page. -/
def Kind.bodyTags : Kind → List String
  | .front => ["p", "code", "/code", "code", "/code", "/p"]
  | .commands (n + 1) =>
    ["table", "tr", "th", "/th", "th", "/th", "th", "/th", "/tr"] ++ (List.replicate (n + 1) rowTags).flatten ++
      ["/table"]
  | .commands 0 | .unknownChannel | .failed | .authorized | .connected => ["p", "/p"]

/-- The tags of a page. -/
def Kind.tags (kind : Kind) : List String := frame kind.bodyTags

/-- A page is of a kind; what stands in it is any text. Three cells show a command. -/
inductive Is : Kind → String → Prop
  | front : Is .front Page.front
  | unknownChannel (name : String) : Is .unknownChannel (Page.unknownChannel name)
  | commands (channel : String) {rows : List (List String)} (three : ∀ cells ∈ rows, cells.length = 3) :
    Is (.commands rows.length) (Page.commands channel rows)
  | failed (reason : String) : Is .failed (Page.failed reason)
  | authorized (name : String) : Is .authorized (Page.authorized name)
  | connected (channel : String) : Is .connected (Page.connected channel)

theorem tags_paragraph (text : String) : tags (paragraph text) = ["p", "/p"] := by
  rw [tags, (read_paragraph text).2]
  simp

theorem tags_rowTokens {cells : List String} (h : cells.length = 3) :
    (rowTokens cells).filterMap Token.tag? = rowTags := by
  match cells, h with
  | [_, _, _], _ => simp [rowTokens, cellTokens, rowTags]

theorem tags_rows {rows : List (List String)} (h : ∀ cells ∈ rows, cells.length = 3) :
    (rows.flatMap rowTokens).filterMap Token.tag? = (List.replicate rows.length rowTags).flatten := by
  induction rows with
  | nil => rfl
  | cons cells rows ih =>
    rw [List.flatMap_cons, List.filterMap_append, tags_rowTokens (h cells List.mem_cons_self),
      ih fun c hc => h c (List.mem_cons_of_mem _ hc), List.length_cons, List.replicate_succ, List.flatten_cons]

/-- What the front page says. -/
theorem tags_front : tags Page.front = Kind.front.tags := by
  have hfirst : IsWhole "<p>Open <code>/commands/&lt;channel&gt;</code> to list a channel's commands " :=
    .of_chars (by decide +kernel)
  have hsecond : IsWhole "or <code>/auth</code> to authorize the bot account.</p>" := .of_chars (by decide +kernel)
  have hfirstTags : tags "<p>Open <code>/commands/&lt;channel&gt;</code> to list a channel's commands " =
      ["p", "code", "/code"] := (tags_ofList _).trans (by decide +kernel)
  have hsecondTags : tags "or <code>/auth</code> to authorize the bot account.</p>" = ["code", "/code", "/p"] :=
    (tags_ofList _).trans (by decide +kernel)
  rw [Page.front, tags_layout _ (hfirst.append hsecond), tags_append hfirst, hfirstTags, hsecondTags]
  rfl

theorem tags_commands (channel : String) {rows : List (List String)} (three : ∀ cells ∈ rows, cells.length = 3) :
    tags (Page.commands channel rows) = (Kind.commands rows.length).tags := by
  cases rows with
  | nil =>
    rw [commands_nil, tags_layout _ read_noCommands.1, read_noCommands.2]
    rfl
  | cons cells rest =>
    have hrows := tags_rows three
    obtain ⟨hwhole, htokens⟩ := read_table (cells :: rest)
    rw [commands_cons, tags_layout _ hwhole, tags, htokens, tableTokens, Kind.tags]
    simp only [List.filterMap_append, tags_cons, tags_headings, hrows, List.filterMap_nil, List.cons_append]
    rfl

/-- The tags of a page are those of its kind. -/
theorem Is.tags_eq {kind : Kind} {html : String} (h : Is kind html) : tags html = kind.tags := by
  have hpage : ∀ title text, tags (layout title (paragraph text)) = frame ["p", "/p"] := by
    intro title text
    rw [tags_layout title (read_paragraph text).1, tags_paragraph]
  cases h with
  | front => exact tags_front
  | commands channel three => exact tags_commands channel three
  | unknownChannel | failed | authorized | connected => exact hpage _ _

/-! ## What is read back -/

/-- Elements of which the frame of a page has none are those of its body. -/
theorem elements_layout {name : String} (hname : name ∉ headTags) (title : String) {body : String}
    (hbody : IsWhole body) :
    elements name (tokens (layout title body)) = elements name (tokens body ++ tokens closing) := by
  have hother : ∀ tag ∈ headTags, Token.tag tag ≠ .tag name := fun tag htag he => hname (Token.tag.inj he ▸ htag)
  have hpart : ∀ part, tags part ⊆ headTags → .tag name ∉ tokens part :=
    fun part hsub => tag_not_mem fun hmem => hname (hsub hmem)
  have hlead := hpart lead (by rw [tags_lead]; decide +kernel)
  have hstyle := hpart style (by rw [read_style.2]; decide +kernel)
  have hblank := hpart "\n    " (by rw [tags_blank]; exact List.nil_subset _)
  have hchars : .tag name ∉ chars (escape title) := tag_not_mem_chars _ _
  rw [tokens_layout title hbody, elements_skip hlead, elements_other (hother "title" (by decide +kernel)),
    elements_skip hchars, elements_other (hother "/title" (by decide +kernel)), underTitle, elements_skip hstyle,
    elements_other (hother "h1" (by decide +kernel)), elements_skip hchars,
    elements_other (hother "/h1" (by decide +kernel)), underHeading, elements_skip hblank]

/-- An element of text is read back, before those behind it. -/
theorem texts_cons (h : KnowsReserved stands) {name : String} (hname : "/" ++ name ≠ name) (text : String)
    (us : List Token) :
    texts stands name (.tag name :: (chars (escape text) ++ .tag ("/" ++ name) :: us)) =
      text :: texts stands name us := by
  rw [texts, elements_cons (tag_not_mem_chars _ _) (tag_not_mem_chars _ _) hname, List.map_cons, written_chars,
    unescape_escape h, texts]

/-- An element of text is all that is read if there is no other of its name. -/
theorem texts_single (h : KnowsReserved stands) {name : String} (hname : "/" ++ name ≠ name) (text : String)
    {us : List Token} (hus : .tag name ∉ us) :
    texts stands name (.tag name :: (chars (escape text) ++ .tag ("/" ++ name) :: us)) = [text] := by
  rw [texts_cons h hname, texts, elements_none hus, List.map_nil]

/-- The title of a page is read back. -/
theorem texts_title (h : KnowsReserved stands) (title : String) {body : String} (hbody : IsWhole body)
    (hnone : "title" ∉ tags body) : texts stands "title" (tokens (layout title body)) = [title] := by
  have hlead : .tag "title" ∉ tokens lead := tag_not_mem (by rw [tags_lead]; decide +kernel)
  have hunder : .tag "title" ∉ underTitle title body := by
    rw [← mem_tags, tags_underTitle]
    simpa using hnone
  rw [tokens_layout title hbody, texts, elements_skip hlead]
  exact texts_single h (by decide +kernel) title hunder

/-- The heading of a page is its title again. -/
theorem texts_heading (h : KnowsReserved stands) (title : String) {body : String} (hbody : IsWhole body)
    (hnone : "h1" ∉ tags body) : texts stands "h1" (tokens (layout title body)) = [title] := by
  have hlead : .tag "h1" ∉ tokens lead := tag_not_mem (by rw [tags_lead]; decide +kernel)
  have hstyle : .tag "h1" ∉ tokens style := tag_not_mem (by rw [read_style.2]; decide +kernel)
  have hunder : .tag "h1" ∉ underHeading body := by
    rw [← mem_tags, tags_underHeading]
    simpa using hnone
  rw [tokens_layout title hbody, texts, elements_skip hlead, elements_other (by decide +kernel),
    elements_skip (tag_not_mem_chars _ _), elements_other (by decide +kernel), underTitle, elements_skip hstyle]
  exact texts_single h (by decide +kernel) title hunder

/-- The paragraph of a page that says a text is read back. -/
theorem texts_paragraph (h : KnowsReserved stands) (title text : String) :
    texts stands "p" (tokens (layout title (paragraph text))) = [text] := by
  have hclosing : .tag "p" ∉ tokens closing := tag_not_mem (by rw [tags_closing]; decide +kernel)
  have hbody : elements "p" (tokens (layout title (paragraph text))) =
      elements "p" (.tag "p" :: (chars (escape text) ++ .tag ("/" ++ "p") :: tokens closing)) := by
    rw [elements_layout (by decide +kernel) title (read_paragraph text).1, (read_paragraph text).2]
    generalize tokens closing = behind
    simp only [List.cons_append, List.append_assoc, List.nil_append]
    rfl
  have htext := texts_single h (by decide +kernel) text hclosing
  rwa [texts, ← hbody] at htext

/-- A page that says a text says that text, under a title and a heading that are read back too: each of them is
escaped once. -/
theorem texts_said (h : KnowsReserved stands) (title text : String) :
    let page := tokens (layout title (paragraph text))
    texts stands "title" page = [title] ∧ texts stands "h1" page = [title] ∧ texts stands "p" page = [text] := by
  have hwhole := (read_paragraph text).1
  refine ⟨texts_title h title hwhole ?_, texts_heading h title hwhole ?_, texts_paragraph h title text⟩ <;>
    rw [tags_paragraph] <;> decide +kernel

theorem cells_untagged {tag : String} (htag : tag ≠ "td") (hclose : tag ≠ "/td") (cells : List String) :
    .tag tag ∉ cells.flatMap cellTokens := by
  intro hmem
  obtain ⟨cell, -, hcell⟩ := List.mem_flatMap.mp hmem
  simp [cellTokens, chars, htag, hclose] at hcell

/-- The cells of a row are read back. -/
theorem texts_cells (h : KnowsReserved stands) (cells : List String) :
    texts stands "td" (cells.flatMap cellTokens) = cells := by
  induction cells with
  | nil => rfl
  | cons cell cells ih =>
    have hshape : (cell :: cells).flatMap cellTokens =
        .tag "td" :: (chars (escape cell) ++ .tag ("/" ++ "td") :: cells.flatMap cellTokens) := by
      simp [cellTokens]
    rw [hshape, texts_cons h (by decide), ih]

/-- The rows of a table of commands, and what comes behind them. -/
theorem elements_rows (rows : List (List String)) (us : List Token) :
    elements "tr" (rows.flatMap rowTokens ++ us) = rows.map (·.flatMap cellTokens) ++ elements "tr" us := by
  induction rows with
  | nil => rfl
  | cons cells rows ih =>
    have hshape : (cells :: rows).flatMap rowTokens ++ us =
        .tag "tr" :: (cells.flatMap cellTokens ++ .tag ("/" ++ "tr") :: (rows.flatMap rowTokens ++ us)) := by
      simp [rowTokens]
    rw [hshape, elements_cons (cells_untagged (by decide) (by decide) cells)
      (cells_untagged (by decide) (by decide) cells) (by decide), ih]
    rfl

/-- The rows in a table of commands come after the row of headings. -/
theorem elements_table {us : List Token} (hus : .tag "tr" ∉ us) (rows : List (List String)) :
    elements "tr" (tableTokens rows ++ us) = headingTokens :: rows.map (·.flatMap cellTokens) := by
  have hheadings : ∀ {tag}, tag ∉ ["th", "/th", "th", "/th", "th", "/th"] → .tag tag ∉ headingTokens :=
    fun hnot => mt mem_tags.mpr (by rwa [tags_headings])
  have hshape : tableTokens rows ++ us = .tag "table" :: .tag "tr" ::
      (headingTokens ++ .tag ("/" ++ "tr") :: (rows.flatMap rowTokens ++ .tag "/table" :: us)) := by
    rw [tableTokens]
    simp
  have hbehind : .tag "tr" ∉ Token.tag "/table" :: us := by simpa using hus
  rw [hshape, elements_other (by decide +kernel), elements_cons (hheadings (by decide +kernel))
    (hheadings (by decide +kernel)) (by decide +kernel), elements_rows, elements_none hbehind, List.append_nil]

/-- The table of a page of commands is what it was made of. -/
theorem rows_commands (h : KnowsReserved stands) (channel : String) {rows : List (List String)} (hfilled : [] ∉ rows) :
    Markup.rows stands (Page.commands channel rows) = rows := by
  have hclosing : .tag "tr" ∉ tokens closing := tag_not_mem (by rw [tags_closing]; decide +kernel)
  have hframe : "tr" ∉ headTags := by decide +kernel
  cases rows with
  | nil =>
    have hnone : .tag "tr" ∉ tokens noCommands := tag_not_mem (by rw [read_noCommands.2]; decide +kernel)
    rw [Markup.rows, commands_nil, elements_layout hframe _ read_noCommands.1, elements_skip hnone,
      elements_none hclosing]
    rfl
  | cons cells rest =>
    obtain ⟨hwhole, htokens⟩ := read_table (cells :: rest)
    rw [Markup.rows, commands_cons, elements_layout hframe _ hwhole, htokens, elements_table hclosing]
    have hheadings : texts stands "td" headingTokens = [] := by
      rw [texts, elements_none (mt mem_tags.mpr (by rw [tags_headings]; decide +kernel)), List.map_nil]
    have hcells : (cells :: rest).map (texts stands "td" ∘ (·.flatMap cellTokens)) = cells :: rest := by
      refine List.map_id'' (fun row => ?_) _
      exact texts_cells h row
    rw [List.map_cons, hheadings, List.filter_cons_of_neg (by simp), List.map_map, hcells]
    exact List.filter_eq_self.mpr fun row hrow => decide_eq_true fun hnil => hfilled (hnil ▸ hrow)

end ChannelBot.Server.Page
