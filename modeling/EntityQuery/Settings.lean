import EntityQuery.Catalog
import EntityQuery.Criteria.Bounded
import EntityQuery.Log.Event

/-!
# Settings

The settings of a client, each with a default, and the conditions that they
have to meet.

## Main Definitions

* `Settings`: the settings.
* `Settings.description`: the settings as a record.
* `Settings.check`: the conditions, in the order in which they are checked.
* `Settings.queryAddress`, `Settings.fileAddress`: the two endpoints.
* `SettingsError`: why no settings are at hand.
-/

namespace EntityQuery

/-- A condition that settings do not meet. -/
inductive SettingsFault where
  | emptyBaseUrl
  | zeroPageSize
  | zeroExportPageSize
  | zeroSubqueryDepth
  /-- The log level is no severity; its name is given in upper case. -/
  | unknownLogLevel (upper : String)
  /-- An entity of the catalog has no fields. -/
  | emptyCatalogEntry (entity : String)
deriving DecidableEq, Repr

namespace SettingsFault

/-- The wording of a fault. -/
def message : SettingsFault → String
  | .emptyBaseUrl => "base_url must not be empty"
  | .zeroPageSize => "default_page_size must be > 0"
  | .zeroExportPageSize => "export_page_size must be > 0"
  | .zeroSubqueryDepth => "max_subquery_depth must be >= 1"
  | .unknownLogLevel upper => Log.Severity.unknownMessage upper
  | .emptyCatalogEntry entity => s!"catalog entry '{entity}' has no fields"

end SettingsFault

/-- Why no settings are at hand. -/
inductive SettingsError where
  /-- The file cannot be read; the reason is given in the words of the file system. -/
  | unreadable (path reason : String)
  /-- The file is not the JSON text of settings. -/
  | malformed (error : Json.Error)
  /-- The settings do not meet a condition. -/
  | invalid (fault : SettingsFault)
deriving Repr

namespace SettingsError

/-- The stable code of an error. -/
def code : SettingsError → String
  | .unreadable _ _ => "DYNQ_CONFIG_READ"
  | .malformed _ => "DYNQ_CONFIG_PARSE"
  | .invalid _ => "DYNQ_CONFIG_INVALID"

/-- The wording of an error. -/
def message : SettingsError → String
  | .unreadable path reason => s!"Failed to read config {path}: {reason}"
  | .malformed error => s!"Invalid config JSON: {error.message}"
  | .invalid fault => s!"Invalid config: {fault.message}"

end SettingsError

/-- The settings of a client. -/
structure Settings where
  /-- Scheme, host and port of the service. -/
  baseUrl : String := "http://localhost:8080"
  /-- Where queries are sent. -/
  queryPath : String := "/dynamic/fetch"
  /-- Where exported files are fetched. -/
  filePath : String := "/dynamic/download"
  /-- The page size of a new session. -/
  pageSize : UInt32 := 10
  /-- The page size of an export that names none. -/
  exportPageSize : UInt32 := 1000
  /-- The deepest nesting of subqueries. -/
  maxSubqueryDepth : Nat := BoundedCriteria.defaultMaxDepth
  /-- The least severity that is logged. -/
  logLevel : String := "WARN"
  /-- Takes the place of the standard catalog. -/
  catalog : Option (List (String × List String)) := none
deriving DecidableEq, Repr

namespace Settings

open Json (Source)

/-- A 32-bit count as a record part. -/
def count {m : Type → Type} [Source m] : m UInt32 := do
  return (← Source.natural UInt32.size "u32").toUInt32

/-- The description of settings as a record; every field has a default. -/
def description {m : Type → Type} [Source m] : m Settings :=
  Source.record "ClientConfig"
    [ { name := "base_url", required := false
        read := fun c => do return { c with baseUrl := ← Source.text } },
      { name := "fetch_path", required := false
        read := fun c => do return { c with queryPath := ← Source.text } },
      { name := "download_path", required := false
        read := fun c => do return { c with filePath := ← Source.text } },
      { name := "default_page_size", required := false
        read := fun c => do return { c with pageSize := ← count } },
      { name := "export_page_size", required := false
        read := fun c => do return { c with exportPageSize := ← count } },
      { name := "max_subquery_depth", required := false
        read := fun c => do
          return { c with maxSubqueryDepth := ← Source.natural UInt64.size "usize" } },
      { name := "log_level", required := false
        read := fun c => do return { c with logLevel := ← Source.text } },
      { name := "catalog", required := false
        read := fun c => do
          let catalog ← Source.nullable (Source.dictionary (Source.list Source.text))
          return { c with catalog } } ]
    {}

/-- The settings as a JSON object, in the order of the fields. -/
def toJson (c : Settings) : Json :=
  let strings (fields : List String) : Json := .array (fields.map .string)
  .object
    [ ("base_url", .string c.baseUrl),
      ("fetch_path", .string c.queryPath),
      ("download_path", .string c.filePath),
      ("default_page_size", .number (.integer c.pageSize.toNat)),
      ("export_page_size", .number (.integer c.exportPageSize.toNat)),
      ("max_subquery_depth", .number (.integer c.maxSubqueryDepth)),
      ("log_level", .string c.logLevel),
      ("catalog",
        match c.catalog with
        | none => .null
        | some entries => .object (entries.map fun (entity, fields) => (entity, strings fields))) ]

/-- The least severity that is logged. -/
def minimum (c : Settings) : Except SettingsError Log.Severity :=
  match Log.Severity.ofName c.logLevel with
  | .ok s => .ok s
  | .error upper => .error (.invalid (.unknownLogLevel upper))

/-- Checks the conditions on the settings; the first that fails is the error. -/
def check (c : Settings) : Except SettingsError Unit := do
  if Text.trim c.baseUrl.toList = [] then throw (.invalid .emptyBaseUrl)
  if c.pageSize = 0 then throw (.invalid .zeroPageSize)
  if c.exportPageSize = 0 then throw (.invalid .zeroExportPageSize)
  if c.maxSubqueryDepth = 0 then throw (.invalid .zeroSubqueryDepth)
  let _ ← c.minimum
  match (c.catalog.getD []).find? (·.2.isEmpty) with
  | some (entity, _) => throw (.invalid (.emptyCatalogEntry entity))
  | none => pure ()

/-- The catalog in force. -/
def catalogInForce (c : Settings) : Catalog :=
  match c.catalog with
  | some entries => ⟨entries⟩
  | none => .standard

/-- The address of a path of the service, with one slash between base and path. -/
def address (path : String) (c : Settings) : String :=
  let base := Text.dropTrailing '/' c.baseUrl.toList
  String.ofList (base ++ '/' :: Text.dropLeading '/' path.toList)

/-- Where queries are sent. -/
def queryAddress (c : Settings) : String :=
  c.address c.queryPath

/-- Where exported files are fetched. -/
def fileAddress (c : Settings) : String :=
  c.address c.filePath

/-- Reads and checks the text of a settings file. -/
def ofText (text : String) : Except SettingsError Settings := do
  match Json.decodeText description text with
  | .error e => throw (.malformed e)
  | .ok c =>
    c.check
    pure c

/-- The event that settings were read from a path. -/
def loadedEntry (path : String) (c : Settings) : Log.Entry :=
  { event := .settingsLoaded, fields := [("path", path), ("base_url", c.baseUrl)] }

end Settings

end EntityQuery
