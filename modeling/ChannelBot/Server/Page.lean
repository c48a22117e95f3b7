/-
The pages that the backend serves. Texts from outside are escaped where they stand.
-/

namespace ChannelBot.Server.Page

/-- A character inside a page. -/
def escapeChar (c : Char) : List Char :=
  if c == '&' then "&amp;".toList
  else if c == '<' then "&lt;".toList
  else if c == '>' then "&gt;".toList
  else if c == '"' then "&quot;".toList
  else if c == '\'' then "&#x27;".toList
  else [c]

/-- A text inside a page. -/
def escape (s : String) : String := .ofList (s.toList.flatMap escapeChar)

/-- A page with a title, which is also its heading, and a body of markup. -/
def layout (title body : String) : String :=
  "<!DOCTYPE html>\n<html lang=\"en\">\n  <head>\n    <meta charset=\"utf-8\" />\n    <title>" ++
    escape title ++
    "</title>\n    <style>\n      body \x7b font-family: sans-serif; margin: 2rem; \x7d\n" ++
    "      table \x7b border-collapse: collapse; \x7d\n" ++
    "      td, th \x7b border: 1px solid #ccc; padding: 0.3rem 0.6rem; text-align: left; \x7d\n" ++
    "    </style>\n  </head>\n  <body>\n    <h1>" ++ escape title ++ "</h1>\n    " ++ body ++
    "\n  </body>\n</html>\n"

/-- Markup in an element without attributes. -/
def element (tag content : String) : String := "<" ++ tag ++ ">" ++ content ++ "</" ++ tag ++ ">"

/-- A paragraph of text. -/
def paragraph (text : String) : String := element "p" (escape text)

/-- A row of a table, with escaped cells. -/
def row (cells : List String) : String :=
  element "tr" (String.join (cells.map fun c => element "td" (escape c)))

/-- The front page. -/
def front : String :=
  layout "Command bot"
    ("<p>Open <code>/commands/&lt;channel&gt;</code> to list a channel's commands " ++
      "or <code>/auth</code> to authorize the bot account.</p>")

/-- The page for a channel that is not registered. -/
def unknownChannel (name : String) : String :=
  layout "Unknown channel" (paragraph (name ++ " is not registered."))

/-- The page that lists the commands of a channel, one row of cells for each. -/
def commands (channel : String) (rows : List (List String)) : String :=
  layout ("Commands for " ++ channel) <|
    if rows.isEmpty then "<p>No custom commands.</p>"
    else element "table"
      ("<tr><th>Command</th><th>Action</th><th>Permission</th></tr>" ++ String.join (rows.map row))

/-- The page after an authorization that failed. -/
def failed (reason : String) : String := layout "Authorization failed" (paragraph reason)

/-- The page after the bot account has been authorized. -/
def authorized (name : String) : String :=
  layout "Authorized" (paragraph ("Hello " ++ name ++ ", the bot is now authorized."))

/-- The page after a channel's music account has been authorized. -/
def connected (channel : String) : String :=
  layout "Spotify connected" (paragraph ("Spotify is now connected for " ++ channel ++ "."))

end ChannelBot.Server.Page
