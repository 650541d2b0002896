import Debugger.Decimal.Shortest
import Debugger.Settings
import Debugger.Settings.Document.Line
import Debugger.Text.Quoted
/-!
# Reading settings

The settings that a document holds. A name that no setting has is refused, so that a slip does not
pass unnoticed, and so is a value of another kind than its setting takes. What comes first in the
document is complained about first; a setting that is left out keeps its default.

## 1. Complaints

## 2. Values

## 3. Groups

A group of settings is a table as a rule. A list of values in the order of the settings is taken,
too; it may stop early, and what goes beyond the last setting does not count.

## 4. Settings
-/

namespace Debugger

/-! ## 1. Complaints -/

/-- Why there are no settings. -/
inductive SettingsError
  /-- The file cannot be read. -/
  | unreadable (path reason : String)
  /-- The text is no document. -/
  | malformed
  | unknownName (name : String) (known : List String)
  /-- A value of one kind stands where another is expected. -/
  | wrongKind (found expected : String)
  /-- A value of the right kind is out of range. -/
  | outOfRange (found expected : String)
  deriving DecidableEq, Repr

namespace SettingsError

/-- Names between backquotes, as a choice. -/
def choice (names : List String) : String :=
  let quoted := names.map fun n => "`" ++ n ++ "`"
  match quoted with
  | [a] => a
  | [a, b] => a ++ " or " ++ b
  | _ => "one of " ++ ", ".intercalate quoted

/-- What is wrong with the document. -/
def complaint : SettingsError → String
  | unreadable _ reason => reason
  | malformed => "not a document"
  | unknownName name known => "unknown field `" ++ name ++ "`, expected " ++ choice known
  | wrongKind found expected => "invalid type: " ++ found ++ ", expected " ++ expected
  | outOfRange found expected => "invalid value: " ++ found ++ ", expected " ++ expected

/-- The name of a kind of error. -/
def kind : SettingsError → String
  | unreadable .. => "Io"
  | _ => "Toml"

/-- The text of an error. -/
def message : SettingsError → String
  | unreadable path reason => "failed to read config file " ++ path ++ ": " ++ reason
  | e => "failed to parse toml config: " ++ e.complaint

end SettingsError

namespace Settings

/-! ## 2. Values -/

/-- A value as a complaint names it. -/
def Node.describe : Node → String
  | .string s => "string " ++ Text.showText s
  | .integer i => "integer `" ++ toString i ++ "`"
  | .float x => "floating point `" ++ x.showInFull ++ "`"
  | .boolean b => "boolean `" ++ toString b ++ "`"
  | .array _ | .tables _ => "sequence"
  | .dateTime | .sealed _ | .table _ _ => "map"

/-- Refuses a value. -/
def refuse {α : Type} (expected : String) (n : Node) : Except SettingsError α :=
  .error (.wrongKind n.describe expected)

def readString (expected : String) : Node → Except SettingsError String
  | .string s => .ok s
  | n => refuse expected n

def readBoolean : Node → Except SettingsError Bool
  | .boolean b => .ok b
  | n => refuse "a boolean" n

/-- A number of milliseconds. -/
def readDuration : Node → Except SettingsError UInt64
  | .integer i =>
    if i < 0 then .error (.outOfRange (Node.integer i).describe "u64") else .ok (.ofNat i.toNat)
  | n => refuse "u64" n

/-- A list of strings. -/
def readStrings : Node → Except SettingsError (List String)
  | .array items => items.mapM (readString "a string")
  | .tables elements => elements.mapM fun es => readString "a string" (.table .declared es)
  | n => refuse "a sequence" n

/-! ## 3. Groups -/

/-- A setting of a group: its name, and how its value changes the group. -/
structure Setting (σ : Type) where
  name : String
  set : Node → σ → Except SettingsError σ

/-- A setting that takes a value as it is read. -/
def Setting.of {σ α : Type} (name : String) (read : Node → Except SettingsError α)
    (put : α → σ → σ) : Setting σ :=
  ⟨name, fun n s => do return put (← read n) s⟩

/-- The one entry of the table that a date or a time counts as. -/
def dateTimeName : String := "$__toml_private_datetime"

/-- Takes the entries of a table into a group of settings. -/
def readEntries {σ : Type} (known : List (Setting σ)) (group : σ) (es : Entries) :
    Except SettingsError σ :=
  es.foldlM (fun s (name, value) =>
    match known.find? (·.name = name) with
    | some setting => setting.set value s
    | none => .error (.unknownName name (known.map (·.name)))) group

/-- Takes values into a group of settings, in the order of the settings. -/
def readInOrder {σ : Type} (known : List (Setting σ)) (group : σ) (values : List Node) :
    Except SettingsError σ :=
  (known.zip values).foldlM (fun s (setting, value) => setting.set value s) group

/-- A group of settings on top of its defaults. -/
def readGroup {σ : Type} (expected : String) (known : List (Setting σ)) (defaults : σ) :
    Node → Except SettingsError σ
  | .table _ es | .sealed es => readEntries known defaults es
  | .array items => readInOrder known defaults items
  | .tables elements => readInOrder known defaults (elements.map (.table .declared))
  | .dateTime => readEntries known defaults [(dateTimeName, .dateTime)]
  | n => refuse expected n

/-! ## 4. Settings -/

/-- The settings of logging. -/
def loggingGroup : List (Setting LoggingSettings) :=
  [.of "level" (readString "a string") fun level s => { s with level },
    .of "json" readBoolean fun json s => { s with json },
    .of "stderr" readBoolean fun stderr s => { s with stderr },
    .of "file" (readString "path string") fun file s => { s with file := some file }]

/-- The settings of the debugger. -/
def debuggerGroup : List (Setting DebuggerSettings) :=
  [.of "hide_system_threads" readBoolean fun hideSystemThreads s => { s with hideSystemThreads },
    .of "break_on_uncaught" readBoolean fun breakOnUncaught s => { s with breakOnUncaught },
    .of "system_threads" readStrings fun systemThreads s => { s with systemThreads },
    .of "wait_timeout_ms" readDuration fun waitTimeout s => { s with waitTimeout }]

/-- The groups of settings. -/
def groups : List (Setting Settings) :=
  [.of "logging" (readGroup "struct LoggingConfig" loggingGroup {}) fun logging s =>
      { s with logging },
    .of "debugger" (readGroup "struct DebuggerConfig" debuggerGroup {}) fun debugger s =>
      { s with debugger }]

/-- The settings that a text holds. -/
def read (text : String) : Except SettingsError Settings :=
  match Entries.read? text with
  | some es => readEntries groups {} es
  | none => .error .malformed

end Settings

end Debugger
