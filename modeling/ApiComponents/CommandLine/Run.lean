import ApiComponents.CommandLine.Invocation
import ApiComponents.Description.Reading
import ApiComponents.OpenApi.Writing
import ApiComponents.SettingsFile
import ApiComponents.Summary

/-! # Running commands

What the commands read, write and print. They use files through the operations of `FileAccess`
only.
-/

namespace ApiComponents.CommandLine

/-! ## Reports

A command that fails says why: what it could not do, and below that the causes, each the
reason of the one before it.
-/

structure Report where
  headline : String
  causes : List String := []
  deriving Repr, DecidableEq

namespace Report

def indentFollowing (indentation : String) (text : String) : String :=
  ("\n" ++ indentation).intercalate (text.splitOn "\n")

def numberColumn (number : Nat) : String :=
  let digits := Nat.repr number
  String.ofList (List.replicate (5 - digits.length) ' ') ++ digits

def numbered (number : Nat) : List String → String
  | [] => ""
  | cause :: rest =>
      "\n" ++ numberColumn number ++ ": " ++ indentFollowing "       " cause ++
        numbered (number + 1) rest

def causesText : List String → String
  | [] => ""
  | [cause] => "\n\nCaused by:\n    " ++ indentFollowing "    " cause
  | causes => "\n\nCaused by:" ++ numbered 0 causes

def text (report : Report) : String :=
  "Error: " ++ report.headline ++ causesText report.causes ++ "\n"

end Report

def Report.ofSettings (error : SettingsError) : Report := ⟨error.message, []⟩

def Report.ofFile (headline : String) (fault : Files.FileFault) : Report :=
  ⟨headline, [fault.message]⟩

def Report.ofLoad (headline : String) (error : LoadError) : Report :=
  ⟨headline, [error.message, error.reason]⟩

def assemblyCauses : AssemblyError → List String
  | .conversion failure => [failure.message]
  | .collision _ _ _ => []

/-! ## Commands -/

open Files (FileAccess Path)

/-- How a run of the program ends. -/
structure Outcome where
  code : Nat := 0
  output : String := ""
  messages : String := ""
  deriving Repr, DecidableEq

def Outcome.failedAfter (messages : String) (report : Report) : Outcome :=
  { code := 1, messages := messages ++ report.text }

def Outcome.failed (report : Report) : Outcome := failedAfter "" report

/-- The format that a document at a path is written in: JSON where the extension says so, YAML
    everywhere else. -/
def inputFormat (path : Path) : TextFormat :=
  if path.extension? = some "json" then .json else .yaml

variable {m : Type → Type} [Monad m] [FileAccess m]

/-- The settings of the project, or the defaults when it has none. -/
def loadSettings : m (Except Report Settings) := do
  match ← Settings.load with
  | .error error => return .error (.ofSettings error)
  | .ok settings => return .ok (settings.getD {})

def loadDescription (path : Path) : m (Except Report ApiDescription) := do
  match ← FileAccess.readText path with
  | .error fault => return .error (.ofFile ("failed to read " ++ path) fault)
  | .ok text =>
      return (ApiDescription.layout.fromText (inputFormat path) text).mapError
        (.ofLoad ("failed to parse " ++ path))

/-- Write a text to a file, whose directory is made if needed. -/
def writeOutput (path : Path) (text : String) : m (Except Report Unit) := do
  let parent := (path.parent?).getD ""
  let made ← if parent = "" then pure (.ok ()) else FileAccess.makeDirectories parent
  match made with
  | .error fault => return .error (.ofFile ("failed to create directory " ++ parent) fault)
  | .ok () =>
      return (← FileAccess.writeText path text).mapError (.ofFile ("failed to write " ++ path))

def convertedMessage (fragment : Fragment) (output : Path) : String :=
  "Converted " ++ Nat.repr fragment.components.schemas.length ++ " schemas and " ++
    Nat.repr fragment.components.securitySchemes.length ++ " security schemes → " ++ output ++ "\n"

/-- Convert a document into a fragment. The path `-` stands for the output of the program. -/
def runConvert (input output : Option Path) (format : Option TextFormat) : m Outcome := do
  match ← loadSettings with
  | .error report => return .failed report
  | .ok settings =>
      let input := input.getD settings.input
      let output := output.getD settings.output
      match ← loadDescription input with
      | .error report => return .failed report
      | .ok description =>
          match (description.toFragment settings.collisions).2 with
          | .error error =>
              return .failed ⟨"failed to convert " ++ input, error.message :: assemblyCauses error⟩
          | .ok fragment =>
              let text := (format.getD settings.format).render fragment.toJson
              if output = "-" then return { output := text }
              else
                match ← writeOutput output text with
                | .error report => return .failed report
                | .ok () => return { messages := convertedMessage fragment output }

def loadedMessage (input : Path) (description : ApiDescription) : String :=
  "Valid IR document: " ++ input ++ "\n  Types: " ++ Nat.repr description.types.length ++
    "\n  Auth schemes: " ++ Nat.repr description.auth.schemes.length ++ "\n"

def validMessage (fragment : Fragment) : String :=
  "  Schemas: " ++ Nat.repr fragment.components.schemas.length ++
    "\n  Security requirements: " ++ Nat.repr fragment.security.length ++
    "\nValidation successful.\n"

def runValidate (input : Path) : m Outcome := do
  match ← loadSettings with
  | .error report => return .failed report
  | .ok settings =>
      match ← loadDescription input with
      | .error report => return .failed report
      | .ok description =>
          let loaded := loadedMessage input description
          match (description.toFragment settings.collisions).2 with
          | .error error => return .failedAfter loaded ⟨error.message, assemblyCauses error⟩
          | .ok fragment => return { messages := loaded ++ validMessage fragment }

def runInspect (input : Path) (format : TextFormat) : m Outcome := do
  match ← loadDescription input with
  | .error report => return .failed report
  | .ok description =>
      match description.summary with
      | .error error => return .failed ⟨error.message, []⟩
      | .ok summary => return { output := format.render summary }

/-- Write a settings file, unless there is one that must stay. -/
def runInit (force : Bool) : m Outcome := do
  if (← FileAccess.isThere Settings.fileName) && !force then
    return .failed ⟨Settings.fileName ++ " already exists. Use --force to overwrite.", []⟩
  else
    match ← FileAccess.writeText Settings.fileName Settings.template with
    | .error fault => return .failed ⟨fault.message, []⟩
    | .ok () => return { messages := "Created " ++ Settings.fileName ++ "\n" }

/-- Run a command. The scripts for shell completions are no part of the library. -/
def Command.run : Command → m Outcome
  | convert input output format => runConvert input output format
  | validate input => runValidate input
  | inspect input format => runInspect input format
  | init force => runInit force
  | completions _ => pure {}

def Invocation.perform : Invocation → m Outcome
  | help => pure { output := helpText }
  | helpOn topic => pure { output := topic.helpText }
  | version => pure { output := programName ++ " " ++ CommandLine.version ++ "\n" }
  | run command => command.run
  | misuse => pure { code := 2 }

def runProgram (arguments : List String) : m Outcome :=
  (Invocation.ofArguments arguments).perform

end ApiComponents.CommandLine
