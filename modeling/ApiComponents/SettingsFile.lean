import ApiComponents.Files.Tree
import ApiComponents.Summary
import ApiComponents.TextFormat

/-! # Settings

What a project says about its conversion: where the description is, where the fragment goes, in
which format, and what happens when schema names collide. A project keeps its settings in a file
of the working directory. Whatever it does not say has a default, and without that file everything
has.
-/

namespace ApiComponents

structure Settings where
  input : String := "ir.json"
  output : String := "openapi-components.yaml"
  format : TextFormat := .yaml
  /-- What happens when schema names collide. -/
  collisions : CollisionPolicy := .overwrite
  deriving Repr, DecidableEq

def TextFormat.words : List (String × TextFormat) := [("yaml", .yaml), ("json", .json)]

def CollisionPolicy.words : List (String × CollisionPolicy) :=
  [("overwrite", .overwrite), ("error", .error)]

namespace Settings

def fileName : String := ".ir2openapi.yaml"

/-- The settings file of a new project, which spells out the defaults. -/
def template : String :=
  "# ir2openapi configuration\n" ++
  "input: ir.json                      # IR document (.json, otherwise YAML)\n" ++
  "output: openapi-components.yaml     # use \"-\" to print to stdout\n" ++
  "format: yaml                        # yaml | json\n" ++
  "\n" ++
  "naming:\n" ++
  "  on_collision: overwrite           # overwrite | error\n"

def namingLayout : Layout CollisionPolicy :=
  .record "NamingConfig"
    (.field "on_collision" (.always .overwrite) (.word CollisionPolicy.words) .done)
    fun (collisions, ()) => collisions

def layout : Layout Settings :=
  .record "Ir2OpenApiConfig"
    (.field "input" (.always "ir.json") .text
      (.field "output" (.always "openapi-components.yaml") .text
        (.field "format" (.always .yaml) (.word TextFormat.words)
          (.field "naming" (.always .overwrite) namingLayout .done))))
    fun (input, output, format, collisions, ()) => { input, output, format, collisions }

end Settings

/-! ## The settings file -/

open Files (FileAccess FileFault)

/-- Why the settings file cannot be used. -/
inductive SettingsError where
  | unreadable (fault : FileFault)
  | faulty (failure : YamlFailure)
  deriving Repr, DecidableEq

def SettingsError.message : SettingsError → String
  | unreadable fault => "failed to read config " ++ Settings.fileName ++ ": " ++ fault.message
  | faulty failure => "failed to parse config " ++ Settings.fileName ++ ": " ++ failure.message

def Settings.load {m : Type → Type} [Monad m] [FileAccess m] :
    m (Except SettingsError (Option Settings)) := do
  if ← FileAccess.isThere fileName then
    match ← FileAccess.readText fileName with
    | .error fault => return .error (.unreadable fault)
    | .ok text => return ((layout.fromYamlText text).map some).mapError .faulty
  else return .ok none

end ApiComponents
