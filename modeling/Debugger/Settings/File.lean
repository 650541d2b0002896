import Debugger.Directory
import Debugger.Settings.Reading
/-!
# Settings files

The settings of a file, and which file that is: the one that is asked for, or else the one that the
surroundings name. How a file is read is left to whoever loads settings, so the same rules hold for
files on a disk and for files that are only thought of.
-/

namespace Debugger.Settings

/-- How files are read: the contents of the file at a path. -/
abbrev ReadFile (m : Type → Type) := String → m (Except FileError ByteArray)

/-- The settings of a file with the given contents. -/
def ofContents (path : String) (contents : Except FileError ByteArray) :
    Except SettingsError Settings :=
  match contents with
  | .error e => .error (.unreadable path e.reason)
  | .ok bytes =>
    match String.fromUTF8? bytes with
    | some text => read text
    | none => .error (.unreadable path FileError.notUtf8.reason)

/-- The settings of the file at a path. -/
def loadFrom {m : Type → Type} [Monad m] (readFile : ReadFile m) (path : String) :
    m (Except SettingsError Settings) := do
  return ofContents path (← readFile path)

/-- The settings of the file that is asked for, else of the one that the surroundings name, else the
defaults. An empty name in the surroundings does not count. -/
def load {m : Type → Type} [Monad m] (readFile : ReadFile m) (asked named : Option String) :
    m (Except SettingsError Settings) := do
  match asked.orElse fun _ => named.filter (· ≠ "") with
  | some path => loadFrom readFile path
  | none => return .ok {}

end Debugger.Settings
