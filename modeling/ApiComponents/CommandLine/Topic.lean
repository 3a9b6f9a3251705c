import ApiComponents.SettingsFile

/-! # Topics of the command line

Each command is a topic with a description, its operands and its options. The rules for reading
arguments and the help texts come from the same description.
-/

namespace ApiComponents.CommandLine

inductive OptionKind where
  | help
  | version
  | flag
  /-- Have a value: what it is called, and which texts it may be. -/
  | value (title : String) (accepts : String → Bool)

structure OptionRule where
  letter : Option Char := none
  name : String
  kind : OptionKind
  about : String

/-- An operand, which stands without any name. -/
structure OperandRule where
  title : String
  accepts : String → Bool
  about : String

/-- A command, as far as its arguments and its help go. -/
structure Topic where
  name : String
  about : String
  usage : String
  operand : Option OperandRule := none
  options : List OptionRule

def programName : String := "ir2openapi"

def version : String := "0.1.0"

/-- A list of words that a text may be, as the help shows it. -/
def possibleValues (words : List String) : String :=
  "[possible values: " ++ ", ".intercalate words ++ "]"

def helpOption : OptionRule := ⟨some 'h', "help", .help, "Print help"⟩

/-- The option for a path. An empty text is no path. -/
def pathOption (letter : Char) (name title about : String) : OptionRule :=
  ⟨some letter, name, .value title (· ≠ ""), about⟩

def inputOption (about : String) : OptionRule := pathOption 'i' "input" "INPUT" about

def formatWords : List String := TextFormat.words.map Prod.fst

def formatOption (remark : String) : OptionRule :=
  ⟨none, "format", .value "FORMAT" formatWords.contains,
    "Output format " ++ remark ++ possibleValues formatWords⟩

def shells : List String := ["bash", "elvish", "fish", "powershell", "zsh"]

namespace Topic

def convert : Topic where
  name := "convert"
  about := "Convert an IR document into an OpenAPI components fragment"
  usage := "[OPTIONS]"
  options :=
    [inputOption "Path to the IR document (JSON or YAML)",
      pathOption 'o' "output" "OUTPUT" "Output file, or `-` for stdout", formatOption "",
      helpOption]

def validate : Topic where
  name := "validate"
  about := "Validate that an IR document converts cleanly"
  usage := "--input <INPUT>"
  options := [inputOption "Path to the IR document", helpOption]

def inspect : Topic where
  name := "inspect"
  about := "Inspect the schema and security scheme names an IR document produces"
  usage := "[OPTIONS] --input <INPUT>"
  options :=
    [inputOption "Path to the IR document", formatOption "[default: yaml] ", helpOption]

def init : Topic where
  name := "init"
  about := "Initialize a new ir2openapi configuration"
  usage := "[OPTIONS]"
  options := [⟨none, "force", .flag, "Overwrite existing files"⟩, helpOption]

def completions : Topic where
  name := "completions"
  about := "Generate shell completions"
  usage := "<SHELL>"
  operand := some
    ⟨"<SHELL>", shells.contains, "Shell to generate completions for " ++ possibleValues shells⟩
  options := [helpOption]

def help : Topic where
  name := "help"
  about := "Print this message or the help of the given subcommand(s)"
  usage := "[COMMAND]..."
  operand := some ⟨"[COMMAND]...", fun _ => true, "Print help for the subcommand(s)"⟩
  options := []

def all : List Topic := [convert, validate, inspect, init, completions, help]

def ofName? (name : String) : Option Topic := all.find? fun topic => topic.name = name

end Topic

def programOptions : List OptionRule :=
  [helpOption, ⟨some 'V', "version", .version, "Print version"⟩]

/-! ## Help texts -/

/-- Rows of two columns, the second one aligned behind the widest entry of the first. -/
def table (rows : List (String × String)) : String :=
  let width := rows.foldl (fun width row => max width row.1.length) 0
  String.join (rows.map fun row =>
    "  " ++ row.1 ++ String.ofList (List.replicate (width - row.1.length + 2) ' ') ++ row.2 ++ "\n")

def titledTable (title : String) (rows : List (String × String)) : String :=
  if rows.isEmpty then "" else "\n" ++ title ++ ":\n" ++ table rows

def OptionRule.row (option : OptionRule) : String × String :=
  let letter :=
    match option.letter with
    | some letter => "-" ++ letter.toString ++ ", "
    | none => "    "
  let value :=
    match option.kind with
    | .value title _ => " <" ++ title ++ ">"
    | _ => ""
  (letter ++ "--" ++ option.name ++ value, option.about)

def Topic.helpText (topic : Topic) : String :=
  topic.about ++ "\n\nUsage: " ++ programName ++ " " ++ topic.name ++ " " ++ topic.usage ++ "\n" ++
    titledTable "Arguments"
      (topic.operand.toList.map fun operand => (operand.title, operand.about)) ++
    titledTable "Options" (topic.options.map OptionRule.row)

def helpText : String :=
  "Convert an API IR into OpenAPI v3 components\n\nUsage: " ++ programName ++ " <COMMAND>\n" ++
    titledTable "Commands" (Topic.all.map fun topic => (topic.name, topic.about)) ++
    titledTable "Options" (programOptions.map OptionRule.row)

end ApiComponents.CommandLine
