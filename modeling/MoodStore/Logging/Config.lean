import MoodStore.Event
import MoodStore.Json.Decode
import MoodStore.Text.Path

/-!
Logging settings and what makes them valid.
-/

namespace MoodStore

/-! ### White space -/

namespace Text.Blank

/-- The white space of the whole character set, not only the ASCII part of it. -/
def isBlank (c : Char) : Bool :=
  let n := c.toNat
  (0x9 ≤ n && n ≤ 0xD) || n == 0x20 || n == 0x85 || n == 0xA0 || n == 0x1680 ||
    (0x2000 ≤ n && n ≤ 0x200A) || n == 0x2028 || n == 0x2029 || n == 0x202F || n == 0x205F ||
    n == 0x3000

/-- The text without the white space at its ends. -/
def trim (cs : List Char) : List Char :=
  ((cs.dropWhile isBlank).reverse.dropWhile isBlank).reverse

end Text.Blank

/-! ### Settings -/

namespace Logging

open Json (Value)

/-- The settings of logging: `maxFiles` is how many full files are kept, and with
`duplicateToStderr` warnings and errors also go to the standard error stream. -/
structure Config where
  level : String
  dir : String
  maxFileSizeBytes : Nat
  maxFiles : Nat
  duplicateToStderr : Bool
  deriving DecidableEq, Repr

/-- How the program was built. -/
inductive Profile where
  | debug
  | release
  deriving DecidableEq, Repr

/-- The level of settings that name none. -/
def defaultLevel (profile : Profile := .debug) : String :=
  match profile with
  | .debug => "debug"
  | .release => "info"

namespace Config

/-- The settings that a directory leaves open take these values. -/
def ofDir (dir : String) (profile : Profile := .debug) : Config :=
  ⟨defaultLevel profile, dir, 10 * 1024 * 1024, 5, false⟩

def default (profile : Profile := .debug) : Config := ofDir "" profile

def fields : List String :=
  ["level", "dir", "max_file_size_bytes", "max_files", "duplicate_to_stderr"]

/-- Reads settings; missing fields take their defaults. -/
def ofJson? (value : Value) (profile : Profile := .debug) : Option Config := do
  let default := default profile
  match ← value.slots? fields with
  | [level, dir, maxFileSize, maxFiles, duplicate] =>
    return {
      level := ← Value.optional? Value.asString? default.level level
      dir := ← Value.optional? Value.asString? default.dir dir
      maxFileSizeBytes :=
        ← Value.optional? (Value.asNat? UInt64.size) default.maxFileSizeBytes maxFileSize
      maxFiles := ← Value.optional? (Value.asNat? UInt64.size) default.maxFiles maxFiles
      duplicateToStderr := ← Value.optional? Value.asBool? default.duplicateToStderr duplicate }
  | _ => none

end Config

/-- Why logging was not started, or not with these settings. The `backend` fails when the logger
itself cannot be installed; a `conflict` is with the settings under which logging is active. -/
inductive LoggingError where
  | unsupportedLevel (level : String)
  | invalidDirectory (detail : String)
  | createDirectory (dir cause : String)
  | backend (cause : String)
  | conflict (setting active requested : String)
  deriving DecidableEq, Repr

namespace LoggingError

def message : LoggingError → String
  | unsupportedLevel level =>
    s!"unsupported log level `{level}`; expected trace|debug|info|warn|error"
  | invalidDirectory detail => detail
  | createDirectory dir cause => s!"failed to create log directory `{dir}`: {cause}"
  | backend cause => s!"failed to start logger: {cause}"
  | conflict setting active requested =>
    s!"logging already initialized with {setting} `{active}`; refusing to switch to `{requested}`"

def sources : LoggingError → List String
  | createDirectory _ cause => [cause]
  | backend cause => [cause]
  | _ => []

end LoggingError

/-- What a level setting comes down to: no white space around it and no capital ASCII letters. -/
def levelName (setting : String) : String :=
  String.ofList ((Text.Blank.trim setting.toList).map Char.toLower)

def level? (name : String) : Option Level :=
  if name = "trace" then some .trace
  else if name = "debug" then some .debug
  else if name = "info" then some .info
  else if name = "warn" ∨ name = "warning" then some .warn
  else if name = "error" then some .error
  else none

/-- The level of a setting. -/
def normalizeLevel (setting : String) : Except LoggingError Level :=
  match level? (levelName setting) with
  | some level => .ok level
  | none => .error (.unsupportedLevel (levelName setting))

/-- A log directory is an absolute path. -/
def checkDir (dir : String) : Except LoggingError Unit :=
  if dir = "" then .error (.invalidDirectory "log directory cannot be empty")
  else if !Text.Path.isAbsolute dir then
    .error (.invalidDirectory s!"log directory must be absolute, got `{dir}`")
  else .ok ()

end Logging

end MoodStore
