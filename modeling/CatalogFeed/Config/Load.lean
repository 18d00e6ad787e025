import CatalogFeed.Config
import CatalogFeed.Settings.Document
import CatalogFeed.Settings.Path
import CatalogFeed.Settings.Reading
import CatalogFeed.Toml.Reader

/-!
# Config/Load — a configuration from a file and the environment

The file is the lower layer, the environment the upper one.  In the environment a variable such as
`CATALOG_NOTIFY_BROKER__ACKS` sets `broker.acks`: the name is taken in small letters, the stem is
cut off, and two underscores stand for a point.  Every value of the environment is a text.

The entries of a table are laid in the order in which they are given.  That need not be the order in
the file, and may be another one in the next run: a file means something by itself only if its
entries can be laid in any order.
-/

namespace CatalogFeed

/-- The format of a configuration file: how the entries of its outermost table are read. -/
structure FileFormat where
  read : String → Option (List (String × Setting))

namespace FileFormat

def toml : FileFormat := ⟨Toml.readText⟩

def json : FileFormat := ⟨Setting.readDocument⟩

end FileFormat

/-- Why there is no configuration. -/
inductive Config.LoadError where
  /-- There is no file. -/
  | noFile
  /-- The file is not well formed, or does not hold a table. -/
  | malformed
  | refused (refusal : Setting.Refusal)
  deriving DecidableEq, Repr

namespace Config

/-! ## Layers -/

/-- The layer of a file.  A key is read as a path after it has been put in small letters. -/
def fileLayer (entries : List (String × Setting)) : List (Setting.Path × Setting) :=
  entries.map fun (key, s) => (.ofKey (Text.lowerCase key), s)

/-- What the names of settings start with in the environment, in small letters. -/
def environmentStem : String := "catalog_notify_"

/-- Two underscores as a point. -/
def pointed : List Char → List Char
  | '_' :: '_' :: rest => '.' :: pointed rest
  | c :: rest => c :: pointed rest
  | [] => []

/-- The key that a variable sets, if it sets one. -/
def environmentKey? (name : String) : Option String :=
  let name := (Text.lowerCase name).toList
  let stem := environmentStem.toList
  if stem.isPrefixOf name then some (String.ofList (pointed (name.drop stem.length))) else none

/-- The layer of the environment. -/
def environmentLayer (environment : List (String × String)) : List (Setting.Path × Setting) :=
  environment.filterMap fun (name, value) =>
    (environmentKey? name).map fun key =>
      (.ofKey key, .scalar (.text value) (some .environment))

/-- The layers laid over one another. -/
def combine (file : List (String × Setting)) (environment : List (String × String)) : Setting :=
  Setting.assignAll (environmentLayer environment)
    (Setting.assignAll (fileLayer file) Setting.emptyTable)

/-! ## Loading -/

/-- Loads a configuration from the entries of a file and the environment. -/
def loadEntries (entries : List (String × Setting)) (environment : List (String × String)) :
    Except LoadError Config :=
  match Setting.readAs shape (combine entries environment) with
  | .ok row => .ok (ofRow row)
  | .error refusal => .error (.refused refusal)

/-- Loads a configuration from the text of a file, if there is one, and the environment. -/
def load (format : FileFormat) (text : Option String) (environment : List (String × String)) :
    Except LoadError Config :=
  match text with
  | none => .error .noFile
  | some text =>
    match format.read text with
    | none => .error .malformed
    | some entries => loadEntries entries environment

end Config
end CatalogFeed
