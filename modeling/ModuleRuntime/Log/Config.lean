import ModuleRuntime.Document
import ModuleRuntime.Json.Decode
import ModuleRuntime.Log.Level

/-!
# Log configuration

Thresholds for targets: the longest key that is the target or a dotted start of it decides, else the
default. A configuration is drafted field by field, and what a draft leaves open takes the default.
-/

set_option autoImplicit false

namespace ModuleRuntime.Log

/-- What is logged, and where it is shown. -/
structure Config where
  defaultLevel : String
  targetLevels : Dictionary String String
  consoleEnabled : Bool
  jsonConsole : Bool

namespace Config

/-- Records up to `INFO`, shown on the console as text. -/
def default : Config :=
  ⟨"INFO", Dictionary.empty, true, false⟩

/-- Whether a key is a target or a start of it that ends before a dot. -/
def covers (key target : String) : Bool :=
  key == target || (key.toList ++ ['.']).isPrefixOf target.toList

/-- The entry with the longest key that covers a target, taking the entries one after another. -/
def longestFrom (target : String) (best : Option (String × String)) :
    List (String × String) → Option (String × String)
  | [] => best
  | entry :: rest =>
    let longer :=
      match best with
      | none => true
      | some b => decide (b.1.length < entry.1.length)
    longestFrom target (if covers entry.1 target && longer then some entry else best) rest

/-- The name of the level that entries, taken in their order, and a default give to a target. -/
def levelName (entries : List (String × String)) (default target : String) : String :=
  ((longestFrom target none entries).map Prod.snd).getD default

/-- The threshold of a target. -/
def threshold (c : Config) (target : String) : Threshold :=
  .ofName (levelName c.targetLevels.entries c.defaultLevel target)

/-- Whether a record is logged. -/
def admits (c : Config) (target : String) (level : Level) : Bool :=
  (c.threshold target).admits level

/-- The threshold that admits what any target may log. -/
def maxThreshold (c : Config) : Threshold :=
  (c.targetLevels.values.map Threshold.ofName).foldl Threshold.max (.ofName c.defaultLevel)

/-- The configuration as JSON. -/
def toJson (c : Config) : Json :=
  .object [
    ("default_level", .string c.defaultLevel),
    ("target_levels", .object (c.targetLevels.mapValues fun _ v => Json.string v).entries),
    ("console_enabled", .bool c.consoleEnabled),
    ("json_format_console", .bool c.jsonConsole)]

/-- A configuration in the making. -/
structure Draft where
  defaultLevel : Option String
  targetLevels : Option (Dictionary String String)
  consoleEnabled : Option Bool
  jsonConsole : Option Bool

namespace Draft

/-- The draft that leaves everything open. -/
def empty : Draft :=
  ⟨none, none, none, none⟩

/-- The configuration of a draft. -/
def build (d : Draft) : Config where
  defaultLevel := d.defaultLevel.getD Config.default.defaultLevel
  targetLevels := d.targetLevels.getD Config.default.targetLevels
  consoleEnabled := d.consoleEnabled.getD Config.default.consoleEnabled
  jsonConsole := d.jsonConsole.getD Config.default.jsonConsole

/-- The names of the fields. -/
def fieldNames : List String :=
  ["default_level", "target_levels", "console_enabled", "json_format_console"]

/-- The draft of a document. -/
def decode? {ν : Type} [Document ν] (v : ν) : Option Draft := do
  let r ← Document.record? fieldNames v
  some {
    defaultLevel := ← r.optional? "default_level" Document.text?
    targetLevels := ← r.optional? "target_levels" (Document.table? Document.text?)
    consoleEnabled := ← r.optional? "console_enabled" Document.flag?
    jsonConsole := ← r.optional? "json_format_console" Document.flag? }

end Draft

/-- The configuration of a JSON value; one that is no configuration counts as the default. -/
def ofJson (v : Json) : Config :=
  ((Draft.decode? v).getD .empty).build

end Config

end ModuleRuntime.Log
