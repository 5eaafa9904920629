import PortMapping.CommandLine
import PortMapping.Firewall.Memory
import PortMapping.Firewall.Script
import PortMapping.Logging
import PortMapping.Rehearsal.Session
import PortMapping.Startup

/-!
# A run of the program

The program reads its configuration, and unless it is only to check it, starts
the gateway and serves clients until a signal ends it.  An error is reported with
everything beneath it.  Runs are rehearsed on a machine where no time passes: its
clients send their requests one after another, and then the signal comes.
-/

namespace PortMapping

/-- A signal that ends the program. -/
inductive Signal where
  | interrupt
  | terminate
  | hangup
  deriving DecidableEq, Repr

namespace Signal

/-- The name of a signal in messages. -/
def name : Signal → String
  | .interrupt => "SIGINT"
  | .terminate => "SIGTERM"
  | .hangup => "SIGHUP"

end Signal

/-- Report an error: what was tried, and the chain of causes, numbered when there
is more than one.  Further lines of a cause are aligned with its first. -/
def report (context : String) (causes : List String) : String :=
  let aligned (margin : String) (cause : String) : String :=
    ("\n" ++ margin).intercalate (cause.splitOn "\n")
  let entries :=
    match causes with
    | [cause] => ["    " ++ aligned "    " cause]
    | _ => causes.zipIdx.map fun entry =>
        "    " ++ toString entry.2 ++ ": " ++ aligned "       " entry.1
  let beneath := if causes.isEmpty then "" else "\n\nCaused by:\n" ++ "\n".intercalate entries
  "Error: " ++ context ++ beneath ++ "\n"

/-- What clients do to a running program, and the signal that ends it. -/
structure Visit where
  /-- Requests in order, each with its client. -/
  requests : List (IpAddress × Octets) := []
  /-- Where the requests are sent. -/
  destination : Endpoint := .v4 ⟨Host.loopbackAddress, serverPort⟩
  signal : Signal := .terminate

/-- What a run of the program leaves behind. -/
structure Outcome where
  exit : Nat
  output : String := ""
  errorOutput : String := ""
  /-- The records printed by the logging policy. -/
  log : List LogRecord := []
  replies : List (Option Octets) := []

/-- How serving clients ended. -/
structure Served where
  replies : List (Option Octets)
  outcome : Except GatewayError Unit

namespace Served

/-- Serving that ended before any request. -/
def failed (error : GatewayError) : Served := ⟨[], .error error⟩

end Served

/-- The replies to requests in order, with the daemon after them. -/
structure Conversation (β : Type) where
  replies : List (Option Octets)
  daemon : Daemon β AddressTable

section

variable {β : Type} [Backend β]

/-- Serve requests in order, each sent to one destination.  Fails when a client
cannot send, or sends where nobody listens. -/
def serveRequests (host : Host) (destination : Endpoint) (daemon : Daemon β AddressTable) :
    List (IpAddress × Octets) → Except IoFailure (Logged (Conversation β))
  | [] => .ok (pure { replies := [], daemon })
  | (client, payload) :: later => do
      let peer ← host.send client destination
      if daemon.endpoints.any (Host.receives destination) then
        let received := daemon.receive payload peer
        let served ← serveRequests host destination received.value.daemon later
        return {
          value := { served.value with replies := received.value.reply :: served.value.replies }
          log := received.log ++ served.log }
      else throw Host.nothingArrived

/-- Put records in front of those of a computation. -/
def after (log : List LogRecord) (served : Logged Served) : Logged Served :=
  { served with log := log ++ served.log }

/-- Start the gateway, serve requests, and end on the signal. -/
def serve (host : Host) (backend : β) (configuration : Configuration) (ports : PortSource)
    (visit : Visit) : Except IoFailure (Logged Served) :=
  let prepared := prepare backend host.addressTable configuration ports 0
  match prepared.value with
  | .error error => .ok (after prepared.log (pure (.failed error)))
  | .ok started =>
      let listening := host.listenAll [] started.endpoints
      match listening.value, host.openFeeds with
      | .error error, _ => .ok (after (prepared.log ++ listening.log) (pure (.failed error)))
      | .ok _, .error error =>
          .ok (after (prepared.log ++ listening.log) (pure (.failed error)))
      | .ok endpoints, .ok _ =>
          let checked := started.server.checkInterface 0
          let log := prepared.log ++ listening.log ++ [⟨.info, "startup"⟩] ++ checked.log
          match checked.value.result with
          | .error error => .ok (after log (pure (.failed error)))
          | .ok _ => do
              let served ← serveRequests host visit.destination
                { server := checked.value.server, endpoints, now := 0 } visit.requests
              let finished := served.value.daemon.finish
              return {
                value := ⟨served.value.replies, .ok ()⟩
                log := log ++ served.log ++
                  [⟨.info, "exiting on signal " ++ visit.signal.name⟩] ++ finished.log }

end

/-- Serve with the packet filter that a configuration names. -/
def serveConfigured (host : Host) (configuration : Configuration) (ports : PortSource)
    (visit : Visit) : Except IoFailure (Logged Served) :=
  match configuration.firewall.backend with
  | .nft =>
      let program : FilterProgram := { installed := host.filterInstalled }
      let filter : ScriptFilter := { table := configuration.firewall.table, program }
      serve host filter configuration ports visit
  | .memory => serve host MemoryFilter.empty configuration ports visit

/-- Run the gateway and report how it ended. -/
def runGateway (host : Host) (configuration : Configuration) (policy : LogPolicy)
    (ports : PortSource) (visit : Visit) : Except IoFailure Outcome := do
  let served ← serveConfigured host configuration ports visit
  let log := policy.printed served.log
  match served.value.outcome with
  | .ok _ => return { exit := 0, log, replies := served.value.replies }
  | .error error =>
      return { exit := 1, errorOutput := report "natpmpd failed" error.chain, log }

/-- A run of the program on a machine with files, an environment and arguments, given a
reader of configurations. -/
def runProgram {ε : Type} [ToString ε] (host : Host)
    (readFile : String → Except IoFailure Octets)
    (reader : String → Except ε Configuration) (environment : Option String)
    (arguments : List String) (ports : PortSource) (visit : Visit) : Except IoFailure Outcome :=
  match CommandLine.parse arguments with
  | .usageError => .ok { exit := 2 }
  | .help => .ok { exit := 0, output := CommandLine.helpText }
  | .version => .ok { exit := 0, output := CommandLine.versionText }
  | .run options =>
      let file := options.configurationFile
      match Configuration.load reader (readFile file) with
      | .error error =>
          .ok { exit := 1, errorOutput := report ("unable to load " ++ file) error.chain }
      | .ok configuration =>
          if options.checkOnly then .ok { exit := 0, output := "configuration ok\n" }
          else
            let settings :=
              if options.verbose then configuration.log.verbose else configuration.log
            runGateway host configuration (LogPolicy.choose (some settings) environment) ports visit

end PortMapping
