import Fulfilment.Document.Value
import Fulfilment.Schema.Object
import Fulfilment.Settings.Dotenv
import Fulfilment.Text.Letters

/-!
# Sources of settings

A setting is taken from the arguments, else from the environment, else from a file of variables,
else from its default. Each has a variable name and a short name; both are found in capital and
small letters alike.

## Main definitions

* `Settings.Key` - the names of a setting
* `Settings.Sources` - where settings are taken from
* `Settings.Sources.gather` - the members under which some settings are given
-/

namespace Fulfilment.Settings

/-- The names of a setting: the variable name, which is preferred, and the short name. -/
structure Key extends Schema.Key where
  /-- Whether the short name is reported where an argument was given under either name. -/
  reportsShort : Bool
deriving Repr

/-- A setting is a member under either of its names. -/
instance : Coe Key Schema.Key := ⟨Key.toKey⟩

/-- Where settings are taken from. -/
structure Sources where
  /-- The arguments. -/
  arguments : Value.Fields := []
  /-- The environment. -/
  environment : Catalog String String := []
  /-- The file of variables. -/
  file : String := ""

namespace Sources

/-- The variables of a source by their names in small letters. -/
def smallNames {α : Type} (c : Catalog String α) : Catalog String α :=
  Catalog.ofEntries (c.map fun e => (Text.lower e.1, e.2))

/-- The variable of a setting, under the name by which it was found. -/
def found? (source : Catalog String String) (k : Key) : Option (Name × Value) :=
  match source.get? (Text.lower k.primary) with
  | some v => some (k.primary, .text v)
  | none => (source.get? (Text.lower k.secondary)).map fun v => (k.secondary, .text v)

/-- The variables of the file that have a value. -/
def fileVariables (s : Sources) : Catalog String String :=
  (smallNames (Dotenv.read s.environment s.file)).filterMap fun e => e.2.map (e.1, ·)

/-- The argument of a name. One that was given letter by letter has precedence over those that
differ in capital and small letters, of which the first counts. -/
def named? (s : Sources) (name : String) : Option Value :=
  (s.arguments.get? name).or
    ((s.arguments.find? fun e => Text.lower e.1.written == Text.lower name).map (·.2))

/-- The name under which the argument for a setting is reported, which is the short name only if
that was among the arguments letter by letter. -/
def reportedName (s : Sources) (k : Key) : String :=
  let short := s.arguments.has k.secondary && (!s.arguments.has k.primary || k.reportsShort)
  if short then k.secondary else k.primary

/-- The argument for a setting. The variable name has precedence where both were given. -/
def argument? (s : Sources) (k : Key) : Option (Name × Value) :=
  ((s.named? k.primary).or (s.named? k.secondary)).map fun v => (.text (s.reportedName k), v)

/-- The members under which a setting is given. An argument hides the variables; a variable of the
environment hides one of the file that was found under the same name. -/
def membersOf (s : Sources) (environment file : Catalog String String) (k : Key) :
    Value.Fields :=
  match s.argument? k with
  | some given => [given]
  | none => Catalog.ofEntries ((found? file k).toList ++ (found? environment k).toList)

/-- The members under which the settings of the given keys are given. -/
def gather (s : Sources) (keys : List Key) : Value.Fields :=
  keys.flatMap (s.membersOf (smallNames s.environment) s.fileVariables)

end Sources

end Fulfilment.Settings
