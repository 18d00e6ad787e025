/-!
# CommandLine/Options — what the program is called with

Three options take a file, three are switches; each may be given once.  Short switches may be
joined, and a value may be joined to its option.
-/

namespace CatalogFeed.CommandLine

/-- What the program is asked to do. -/
structure Options where
  config : String
  catalog : Option String
  events : String
  dryRun : Bool
  jsonLogs : Bool
  verbose : Bool
  deriving DecidableEq, Repr

/-- An option that takes a file. -/
inductive Slot where
  | config
  | catalog
  | events
  deriving DecidableEq, Repr

/-- An option without value. -/
inductive Switch where
  | dryRun
  | jsonLogs
  | verbose
  deriving DecidableEq, Repr

/-- What an option with a name is. -/
inductive Known where
  | slot (slot : Slot)
  | switch (switch : Switch)
  | help
  deriving DecidableEq, Repr

/-- The options by their long names. -/
def longNames : List (String × Known) :=
  [("config", .slot .config), ("catalog", .slot .catalog), ("events", .slot .events),
    ("dry-run", .switch .dryRun), ("json-logs", .switch .jsonLogs), ("verbose", .switch .verbose),
    ("help", .help)]

/-- The options by their short names. -/
def shortNames : List (Char × Known) :=
  [('c', .slot .config), ('e', .slot .events), ('j', .switch .jsonLogs), ('v', .switch .verbose),
    ('h', .help)]

/-- Why there are no options. -/
inductive Refusal where
  /-- The user asks for help. -/
  | help
  /-- The arguments are not understood. -/
  | usage
  deriving DecidableEq, Repr

/-! ## Collecting -/

/-- The options collected so far. -/
structure Draft where
  files : List (Slot × String) := []
  switches : List Switch := []
  deriving DecidableEq, Repr

namespace Draft

/-- The file given for a slot. -/
def file? (d : Draft) (slot : Slot) : Option String :=
  (d.files.find? (·.1 = slot)).map (·.2)

/-- Gives a file for a slot that has none. -/
def setFile (d : Draft) (slot : Slot) (file : String) : Except Refusal Draft :=
  if file.isEmpty ∨ (d.file? slot).isSome then .error .usage
  else .ok { d with files := d.files ++ [(slot, file)] }

/-- Turns a switch on that is off. -/
def setSwitch (d : Draft) (switch : Switch) : Except Refusal Draft :=
  if d.switches.contains switch then .error .usage
  else .ok { d with switches := d.switches ++ [switch] }

/-- The options, if the events are given. -/
def finish (d : Draft) : Except Refusal Options :=
  match d.file? .events with
  | none => .error .usage
  | some events =>
    .ok ⟨(d.file? .config).getD "config.toml", d.file? .catalog, events,
      d.switches.contains .dryRun, d.switches.contains .jsonLogs, d.switches.contains .verbose⟩

end Draft

/-! ## Arguments -/

/-- Reads joined short options; an option that still needs its file is given back. -/
def readShorts (d : Draft) : List Char → Except Refusal (Draft × Option Slot)
  | [] => .ok (d, none)
  | c :: rest =>
    match shortNames.lookup c with
    | none => .error .usage
    | some .help => .error .help
    | some (.switch switch) => do
      let d ← d.setSwitch switch
      readShorts d rest
    | some (.slot slot) =>
      match rest with
      | [] => .ok (d, some slot)
      | '=' :: file => do
        let d ← d.setFile slot (String.ofList file)
        .ok (d, none)
      | file => do
        let d ← d.setFile slot (String.ofList file)
        .ok (d, none)

/-- Reads a long option, of which `value` is joined to it. -/
def readLong (d : Draft) (name : String) (value : Option String) :
    Except Refusal (Draft × Option Slot) :=
  match longNames.lookup name, value with
  | some .help, none => .error .help
  | some (.switch switch), none => do
    let d ← d.setSwitch switch
    .ok (d, none)
  | some (.slot slot), none => .ok (d, some slot)
  | some (.slot slot), some file => do
    let d ← d.setFile slot file
    .ok (d, none)
  | _, _ => .error .usage

/-- Reads one argument that is no value. -/
def readArgument (d : Draft) (argument : String) : Except Refusal (Draft × Option Slot) :=
  match argument.toList with
  | '-' :: '-' :: rest =>
    let name := String.ofList (rest.takeWhile (· != '='))
    match rest.dropWhile (· != '=') with
    | [] => readLong d name none
    | _ :: value => readLong d name (some (String.ofList value))
  | '-' :: c :: rest => readShorts d (c :: rest)
  | _ => .error .usage

/-- Whether an argument can be the value of an option. -/
def isValue (argument : String) : Bool := !argument.startsWith "-" || argument == "-"

/-- Reads arguments; `waiting` is the option whose file comes next. -/
def readArguments (d : Draft) (waiting : Option Slot) : List String → Except Refusal Draft
  | [] => if waiting.isSome then .error .usage else .ok d
  | argument :: rest =>
    match waiting with
    | some slot =>
      if isValue argument then do
        let d ← d.setFile slot argument
        readArguments d none rest
      else .error .usage
    | none =>
      if argument = "--" then if rest.isEmpty then .ok d else .error .usage
      else do
        let (d, waiting) ← readArgument d argument
        readArguments d waiting rest

/-- The options that the arguments give. -/
def Options.ofArguments (arguments : List String) : Except Refusal Options := do
  let d ← readArguments {} none arguments
  d.finish

/-- How the program is called. -/
def helpLines : List String :=
  ["Publishes catalog change notifications to a message bus",
    "",
    "Usage: catalog-notify [OPTIONS] --events <FILE>",
    "",
    "Options:",
    "  -c, --config <FILE>   [default: config.toml]",
    "      --catalog <FILE>  JSON snapshot seeding the catalog",
    "  -e, --events <FILE>   Catalog events to replay, one JSON object per line",
    "      --dry-run         Publish to an in-memory broker and print the messages",
    "  -j, --json-logs       Enable JSON output for logs",
    "  -v, --verbose         Verbose logging",
    "  -h, --help            Print help"]

end CatalogFeed.CommandLine
