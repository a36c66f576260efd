import ClusterLifecycle.ApiServer.Exchange
import ClusterLifecycle.Installer.Command
import ClusterLifecycle.Program

/-!
# Effects of the operator

All that the operator does outside itself: it exchanges messages with the API server, runs commands
of the package installer, and downloads indexes of repositories.
-/

namespace ClusterLifecycle.Operator

/-- Something that the operator does outside itself. -/
inductive Effect where
  /-- Sends a request to the API server. -/
  | exchange (request : ApiServer.Request)
  /-- Runs a command. -/
  | execute (command : Installer.Command)
  /-- Fetches a text from the web. -/
  | download (url : String)
deriving DecidableEq

/-- What comes back from outside; a download gives a text, or says why there is none. -/
abbrev outside : Interface where
  Request := Effect
  Answer
    | .exchange _ => ApiServer.Reply
    | .execute _ => Installer.Ending
    | .download _ => Except String String

/-- A program with effects that may fail. -/
abbrev Operation := ExceptT Failure (Program outside)

/-- Sends a request and reads the reply. -/
def exchange {α : Type} (request : Except ApiFault ApiServer.Request)
    (decode : JsonNode → Option α) : Program outside (Except ApiFault α) :=
  match request with
  | .error fault => .done (.error fault)
  | .ok r => .ask (Effect.exchange r) fun reply => .done (reply.read decode)

/-- Runs a command. -/
def execute (c : Installer.Command) : Program outside Installer.Ending :=
  if c.isWellFormed then Program.request (ι := outside) (Effect.execute c)
  else .done (.notStarted "nul byte found in provided data")

/-- Fetches a text from the web. -/
def download (url : String) : Program outside (Except String String) :=
  Program.request (ι := outside) (Effect.download url)

end ClusterLifecycle.Operator
