/-
What the service makes of a configuration, and what it tells the console. The service finds the
account missing, disabled or enabled.
-/
import ChannelBot.Service.Account
import ChannelBot.Store.Console

namespace ChannelBot.Service

/-- What the service makes of a configuration. -/
inductive Finding where
  | missing (reason : String)
  | disabled
  | enabled (account : Account)
  deriving Repr, DecidableEq

namespace Finding

/-- What there is to be found in a configuration. -/
def of : Except String Account → Finding
  | .error reason => .missing reason
  | .ok a =>
    if !a.token.holds then .missing "missing access_token"
    else if a.enabled then .enabled a else .disabled

end Finding

/-- Why a bot is stopped. -/
inductive Reason where
  | missing
  | disabled
  | replaced
  deriving Repr, DecidableEq

/-- The name of a reason. -/
def Reason.name : Reason → String
  | .missing => "missing_credentials"
  | .disabled => "disabled"
  | .replaced => "restarting"

/-- What the service tells of. -/
inductive News where
  | missing (reason : String)
  | resolved
  | disabled
  | enabled
  | connecting (login : Value)
  | stopped (reason : Reason)
  | stopFailed (f : Fault)
  | fetchFailed (f : StoreFault)
  | applyFailed (f : Fault)
  deriving Repr, DecidableEq

/-- How news are told. -/
def News.notice : News → Notice
  | .missing reason =>
    ⟨"error", "Bot credentials are unavailable; idling worker (" ++ reason ++ ")", "startup",
      [("error", .str reason)]⟩
  | .resolved => ⟨"info", "Bot credentials resolved", "startup", []⟩
  | .disabled => ⟨"info", "Bot disabled in backend; idling", "lifecycle", []⟩
  | .enabled => ⟨"info", "Bot enabled in backend", "lifecycle", []⟩
  | .connecting login => ⟨"info", "Connecting bot as " ++ login.display, "lifecycle", []⟩
  | .stopped reason => ⟨"info", "Bot stopped (" ++ reason.name ++ ")", "lifecycle", []⟩
  | .stopFailed f => ⟨"error", "Error while stopping bot: " ++ f.message, "lifecycle", []⟩
  | .fetchFailed f => ⟨"error", "Failed to fetch bot configuration: " ++ f.reason, "config", []⟩
  | .applyFailed f => ⟨"error", "Failed to apply bot configuration: " ++ f.message, "config", []⟩

end ChannelBot.Service
