/-
The addresses that the backend answers at. A path is decoded as a whole and then cut at its
slashes, so an encoded slash separates too; names in it are single segments that are not empty.
-/
import ChannelBot.Text.Percent

namespace ChannelBot.Server

/-- The things that the backend does, with the names that its paths give. -/
inductive Endpoint where
  | front
  | health
  | commandsPage (channel : String)
  | showProfile
  | changeProfile
  | changeTokens
  | pushLog
  | showLog
  | streamLog
  | listChannels
  | addChannel
  | showChannel (channel : String)
  | removeChannel (channel : String)
  | changeSigil (channel : String)
  | listCommands (channel : String)
  | addCommand (channel : String)
  | showCommand (channel trigger : String)
  | removeCommand (channel trigger : String)
  | addRedeem (channel : String)
  | showRedeem (channel title : String)
  | removeRedeem (channel title : String)
  | addTarget (channel user : String)
  | showTarget (channel user : String)
  | changeTarget (channel user : String)
  | showCredential (channel : String)
  | changeCredential (channel : String)
  | listRefreshTokens
  | startBot
  | botCallback
  | startMusic (channel : String)
  | musicCallback
  deriving Repr, DecidableEq

namespace Endpoint

/-- Whether only the holder of the token may use it. -/
def isGuarded : Endpoint → Bool
  | .front | .health | .commandsPage _ => false
  | .listChannels | .showChannel _ | .listCommands _ | .showCommand .. | .showRedeem ..
  | .showTarget .. => false
  | .startBot | .botCallback | .startMusic _ | .musicCallback => false
  | _ => true

/-- Whether it reads the body of the request. -/
def takesContent : Endpoint → Bool
  | .changeProfile | .changeTokens | .pushLog | .addChannel | .changeSigil _ | .addCommand _
  | .addRedeem _ | .changeTarget .. | .changeCredential _ => true
  | _ => false

end Endpoint

namespace Route

/-- The pieces of a text between separators. -/
def pieces (separator : Char) : List Char → List (List Char)
  | [] => [[]]
  | c :: rest =>
    if c == separator then [] :: pieces separator rest
    else match pieces separator rest with
      | p :: ps => (c :: p) :: ps
      | [] => [[c]]

/-- The segments of a decoded path that starts with a slash. -/
def segments (path : String) : List String := ((pieces '/' path.toList).drop 1).map .ofList

/-- What is done below a channel, by method. -/
def belowChannel (channel : String) : List String → List (String × Endpoint)
  | ["prefix"] => [("PUT", .changeSigil channel)]
  | ["commands"] => [("GET", .listCommands channel), ("POST", .addCommand channel)]
  | ["redeems"] => [("POST", .addRedeem channel)]
  | ["spotify"] => [("GET", .showCredential channel)]
  | ["spotify", "token"] => [("PUT", .changeCredential channel)]
  | [kind, name] =>
    if name.isEmpty then []
    else if kind == "commands" then
      [("GET", .showCommand channel name), ("DELETE", .removeCommand channel name)]
    else if kind == "redeems" then
      [("GET", .showRedeem channel name), ("DELETE", .removeRedeem channel name)]
    else if kind == "hitman" then
      [("POST", .addTarget channel name), ("GET", .showTarget channel name),
       ("PUT", .changeTarget channel name)]
    else []
  | _ => []

/-- What is done at an address, by method. -/
def atSegments : List String → List (String × Endpoint)
  | [""] => [("GET", .front)]
  | ["system", "health"] => [("GET", .health)]
  | ["commands", channel] => if channel.isEmpty then [] else [("GET", .commandsPage channel)]
  | ["bot", "config"] => [("GET", .showProfile), ("PUT", .changeProfile)]
  | ["bot", "config", "tokens"] => [("POST", .changeTokens)]
  | ["bot", "logs"] => [("POST", .pushLog), ("GET", .showLog)]
  | ["bot", "logs", "stream"] => [("GET", .streamLog)]
  | ["channels"] => [("GET", .listChannels), ("POST", .addChannel)]
  | ["channels", channel] =>
    if channel.isEmpty then []
    else [("GET", .showChannel channel), ("DELETE", .removeChannel channel)]
  | "channels" :: channel :: rest => if channel.isEmpty then [] else belowChannel channel rest
  | ["spotify", "refresh_tokens"] => [("GET", .listRefreshTokens)]
  | ["spotify", "callback"] => [("GET", .musicCallback)]
  | ["spotify", "auth", channel] => if channel.isEmpty then [] else [("GET", .startMusic channel)]
  | ["auth"] => [("GET", .startBot)]
  | ["auth", "callback"] => [("GET", .botCallback)]
  | _ => []

/-- What is done at a decoded path, by method. A line feed at the very end of a path counts only
where it is part of a name. -/
def choices (path : String) : List (String × Endpoint) :=
  match atSegments (segments path) with
  | [] => match path.toList.reverse with
    | '\n' :: rest => atSegments (segments (.ofList rest.reverse))
    | _ => []
  | found => found

/-- The path with its final slashes dropped, or with one added if it has none. -/
def slashed (path : String) : String :=
  match path.toList.reverse with
  | '/' :: rest => .ofList (rest.dropWhile (· == '/')).reverse
  | _ => path ++ "/"

/-- Another path under which there is something, where a path has nothing. -/
def elsewhere? (path : String) : Option String :=
  let other := slashed path
  if path == "/" || (choices other).isEmpty then none else some other

/-- A character that stands for itself in a written address. -/
def isAddressChar (c : Char) : Bool :=
  Percent.isPlain c || ":/%#?=@[]!$&'()*+,;".toList.contains c

/-- An address as it is written; escapes that it has are kept. -/
def written (address : String) : String :=
  .ofList (address.toList.flatMap fun c =>
    if isAddressChar c then [c] else (Utf8.encodeChar c).flatMap Percent.escapeByte)

end Route

end ChannelBot.Server
