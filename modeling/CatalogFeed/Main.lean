import CatalogFeed.CommandLine.Run

/-!
# Main — the program

Reads the arguments, the files and the environment, and prints what the run gives.
-/

open CatalogFeed CommandLine

/-- The content of a file, if it can be read. -/
def readBytes? (path : String) : IO (Option ByteArray) := do
  try
    return some (← IO.FS.readBinFile path)
  catch _ =>
    return none

/-- The variables of the environment. -/
def environment : IO (List (String × String)) := do
  let bytes := (← readBytes? "/proc/self/environ").getD .empty
  let texts := (Replay.cutAt 0 bytes.toList).filterMap fun b => String.fromUTF8? ⟨b.toArray⟩
  return texts.filterMap fun text =>
    match Replay.cutAt '=' text.toList with
    | name :: value :: more =>
      some (String.ofList name, "=".intercalate ((value :: more).map String.ofList))
    | _ => none

/-- The number after a word in a text of words. -/
def numberAfter (word text : String) : Nat :=
  let words := (text.toList.splitBy fun a b => a.isWhitespace == b.isWhitespace).map String.ofList
  match words.dropWhile (· != word) with
  | _ :: _ :: n :: _ => n.toNat?.getD 0
  | _ => 0

/-- The time in nanoseconds since the start of 1970. -/
def now : IO Nat := do
  let text (path : String) : IO String := return ((← readBytes? path).bind String.fromUTF8?).getD ""
  let boot := numberAfter "btime" (← text "/proc/stat")
  let uptime := (← text "/proc/uptime").toList.takeWhile (· != ' ')
  let seconds := (String.ofList (uptime.takeWhile (· != '.'))).toNat?.getD 0
  let hundredths := (String.ofList ((uptime.dropWhile (· != '.')).drop 1)).toNat?.getD 0
  return (boot + seconds) * 1000000000 + hundredths * 10000000

/-- The text of a field. -/
def fieldText (field : String × FieldValue) : String :=
  field.1 ++ "=" ++ match field.2 with
    | .text s => s
    | .count n => toString n
    | .flag b => toString b

/-- A log entry on one line. -/
def entryLine (asJson : Bool) (e : LogEntry) : String :=
  if asJson then
    let member (field : String × FieldValue) : String × Json :=
      (field.1, match field.2 with
        | .text s => .text s
        | .count n => .int n
        | .flag b => .bool b)
    (Json.record (("level", .text e.level.name) :: ("message", .text e.message) ::
      e.fields.map member)).render
  else " ".intercalate (e.level.name :: e.message :: e.fields.map fieldText)

def main (arguments : List String) : IO UInt32 := do
  let options := (Options.ofArguments arguments).toOption
  let paths := match options with
    | some o => o.config :: o.events :: o.catalog.toList
    | none => []
  let files ← paths.mapM fun path => return (path, ← readBytes? path)
  let read (path : String) : Option ByteArray := (files.lookup path).join
  let started ← now
  let result := run arguments { read, environment := ← environment }
  for e in result.entries do
    if e.level != .debug || options.any (·.verbose) then
      IO.eprintln (entryLine (options.any (·.jsonLogs)) e)
  for line in result.outcome.output (fun _ => started) do
    IO.println line
  for line in result.outcome.complaint do
    IO.eprintln line
  return result.outcome.exitCode.toUInt32
