import CatalogFeed.Bus.Hub
import CatalogFeed.CommandLine.Options
import CatalogFeed.Config.Load
import CatalogFeed.Kafka.Session
import CatalogFeed.Replay
import CatalogFeed.Seed
import CatalogFeed.Text.Stamp

/-!
# CommandLine/Run — one run of the program

A run loads the configuration and the snapshot, replays the events, and reports.  With `--dry-run`
it publishes to a broker in memory and prints what was delivered; without, it publishes to a cluster
that it cannot reach.  `run` is a function of the arguments, the files and the environment.
-/

namespace CatalogFeed.CommandLine

open Replay (Summary)

/-- Why a run fails, with the path of the file at fault. -/
inductive Failure where
  | config (path : String)
  | snapshotUnreadable (path : String)
  | snapshotMalformed (path : String)
  | events (path : String)
  deriving DecidableEq, Repr

/-- The text of a failure. -/
def Failure.message : Failure → String
  | .config path => "failed to load configuration from " ++ Text.quoted path
  | .snapshotUnreadable path => "failed to read catalog snapshot " ++ Text.quoted path
  | .snapshotMalformed path => "invalid catalog snapshot " ++ Text.quoted path
  | .events path => "failed to read events from " ++ Text.quoted path

/-- How a run ends. -/
inductive Outcome where
  | help
  | usage
  | failed (failure : Failure)
  | finished (delivered : List Bus.Delivered) (summary : Summary)

/-- A run: how it ends, and what it logged. -/
structure Run where
  outcome : Outcome
  entries : List LogEntry := []

/-- The surroundings of a run: the content of the files there are, the environment, and the formats
of configuration files besides those that are read here. -/
structure Surroundings where
  read : String → Option ByteArray
  environment : List (String × String)
  /-- The format of the configuration file at a path. -/
  otherFormat? : String → Option FileFormat := fun _ => none

/-! ## Reading -/

/-- The format of a configuration file, by the ending of its name. -/
def formatOf? (s : Surroundings) (path : String) : Option FileFormat :=
  if path.endsWith ".toml" then some .toml
  else if path.endsWith ".json" then some .json
  else s.otherFormat? path

/-- Loads the configuration. -/
def loadConfig (s : Surroundings) (path : String) : Except Failure Config :=
  match formatOf? s path, (s.read path).bind String.fromUTF8? with
  | some format, some text =>
    match Config.load format (some text) s.environment with
    | .ok config => .ok config
    | .error _ => .error (.config path)
  | _, _ => .error (.config path)

/-- Loads the snapshot, if one is given. -/
def loadSnapshot (s : Surroundings) : Option String → Except Failure Catalog.Snapshot
  | none => .ok {}
  | some path =>
    match (s.read path).bind String.fromUTF8? with
    | none => .error (.snapshotUnreadable path)
    | some text =>
      match parseAs Catalog.Snapshot text with
      | .ok snapshot => .ok snapshot
      | .error _ => .error (.snapshotMalformed path)

/-- Loads the catalog: the snapshot, if one is given, with the properties of the host filled in. -/
def loadCatalog (s : Surroundings) (c : Config) (path : Option String) :
    Except Failure Catalog.Store :=
  (loadSnapshot s path).map c.seed

/-! ## Replaying -/

/-- The entries at the start of a run. -/
def startEntries (o : Options) : List LogEntry :=
  [.info "Starting catalog-notify",
    .info ("Loading configuration from " ++ Text.quoted o.config)]

/-- The entry that sums the configuration up. -/
def configEntry (o : Options) (c : Config) : LogEntry :=
  .info "Configuration summary"
    [("brokers", .text (Text.quotedList c.broker.brokers)),
      ("transactional_id", .text c.broker.transactionalId),
      ("connection_factory", .text c.directory.connectionFactory), ("dry_run", .flag o.dryRun)]

/-- The journal of a run that has its configuration. -/
def startJournal (o : Options) (c : Config) : Journal := ⟨0, startEntries o ++ [configEntry o c]⟩

/-- The entry of a start without session. -/
def unavailableEntry : LogEntry :=
  .warn "Message bus unavailable at startup, will retry on first publish"

/-- Starts a feed, replays the events, and shuts it down. -/
def replayEvents {β : Type} (f : Feed Catalog.Store β) (o : Options) (events : Option ByteArray)
    (s : Feed.State Catalog.Store β) : Except Error Summary × Feed.State Catalog.Store β :=
  let (started, s) := f.start s
  let s := if started then s else Feed.note unavailableEntry s
  let (result, s) := f.replayFile o.events events s
  (result, f.shutdown s)

/-- How a run ends, given what the replay gave and what was delivered. -/
def conclude (o : Options) (result : Except Error Summary) (delivered : List Bus.Delivered) :
    Outcome :=
  match result with
  | .ok summary => .finished delivered summary
  | .error _ => .failed (.events o.events)

/-- Replays the events on the configured bus. -/
def publishEvents (o : Options) (c : Config) (catalog : Catalog.Store)
    (events : Option ByteArray) (journal : Journal) : Run :=
  if o.dryRun then
    let f : Feed Catalog.Store Bus.Hub := ⟨c.publisher, Catalog.Store.service, Bus.Hub.service⟩
    let (result, s) := replayEvents f o events ⟨catalog, ⟨c.directoryOf, {}⟩, {}, journal⟩
    ⟨conclude o result s.bus.broker.delivered, s.journal.entries⟩
  else
    let f : Feed Catalog.Store Bus.Directory :=
      ⟨c.publisher, Catalog.Store.service, Kafka.unreachable⟩
    let (result, s) := replayEvents f o events ⟨catalog, c.directoryOf, {}, journal⟩
    ⟨conclude o result [], s.journal.entries⟩

/-- A run with options. -/
def runWith (o : Options) (s : Surroundings) : Run :=
  match loadConfig s o.config with
  | .error failure => ⟨.failed failure, startEntries o⟩
  | .ok config =>
    let journal := startJournal o config
    match loadCatalog s config o.catalog with
    | .error failure => ⟨.failed failure, journal.entries⟩
    | .ok catalog => publishEvents o config catalog (s.read o.events) journal

/-- A run of the program. -/
def run (arguments : List String) (s : Surroundings) : Run :=
  match Options.ofArguments arguments with
  | .error .help => ⟨.help, []⟩
  | .error .usage => ⟨.usage, []⟩
  | .ok o => runWith o s

/-! ## Printing -/

/-- A delivered message on one line, without its time: topic, tag and body. -/
def entryText (d : Bus.Delivered) : String :=
  d.topic ++ "\t" ++ (d.message.property? eventProperty).getD "" ++ "\t" ++ d.message.encodeBody

/-- A delivered message on one line; `time` is when it was committed, in nanoseconds since the start
of 1970. -/
def deliveredLine (time : Nat) (d : Bus.Delivered) : String :=
  Text.stamp time ++ "\t" ++ entryText d

/-- The line that sums a replay up. -/
def summaryLine (s : Summary) : String :=
  "events: " ++ toString s.total ++ ", delivered: " ++ toString s.delivered ++ ", ignored: " ++
    toString s.ignored ++ ", suppressed: " ++ toString s.suppressed ++ ", failed: " ++
    toString s.failed ++ ", errors: " ++ toString s.errors

namespace Outcome

/-- The exit code. -/
def exitCode : Outcome → UInt8
  | .help => 0
  | .usage => 2
  | .failed _ => 1
  | .finished _ _ => 0

/-- What is printed, if the messages were committed at these times, by the clock on the wall. -/
def output (times : Nat → Nat) : Outcome → List String
  | .help => helpLines
  | .finished delivered summary =>
    (delivered.mapIdx fun i d => deliveredLine (times i) d) ++ [summaryLine summary]
  | _ => []

/-- What is printed on the error stream after the log. -/
def complaint : Outcome → List String
  | .failed failure => ["Error: " ++ failure.message]
  | .usage => ["error: invalid arguments", "", "For more information, try '--help'."]
  | _ => []

end Outcome
end CatalogFeed.CommandLine
