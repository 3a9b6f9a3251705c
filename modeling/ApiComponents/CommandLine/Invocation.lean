import ApiComponents.CommandLine.Topic

/-! # Invocations

What the arguments of the program ask for. Arguments are read first to last; a request for help
or a mistake ends the reading.
-/

namespace ApiComponents.CommandLine

inductive Command where
  /-- Convert a document; what is not given comes from the settings. -/
  | convert (input output : Option String) (format : Option TextFormat)
  | validate (input : String)
  | inspect (input : String) (format : TextFormat)
  /-- Write a settings file, in place of an old one if so wanted. -/
  | init (force : Bool)
  | completions (shell : String)
  deriving Repr, DecidableEq

inductive Invocation where
  | help
  | helpOn (topic : Topic)
  | version
  | run (command : Command)
  | misuse

/-- What has been given to a command. -/
structure Given where
  /-- The options by name; a flag has an empty value. -/
  options : Entries String := []
  operand : Option String := none

inductive Reading where
  | done (given : Given)
  | help
  | version
  | mistake

/-- Add an option to what has been given: once at most, and only with a value that fits. -/
def Given.addOption? (given : Given) (name : String) (accepts : String → Bool) (value : String) :
    Option Given :=
  if (given.options.lookup name).isSome ∨ ¬ accepts value then none
  else some { given with options := given.options.insert name value }

/-- Add an operand to what has been given, if one is wanted and it fits. -/
def Given.addOperand? (given : Given) (rule : Option OperandRule) (text : String) : Option Given :=
  match rule, given.operand with
  | some rule, none => if rule.accepts text then some { given with operand := some text } else none
  | _, _ => none

/-- The option that an argument begins with, and the value that is attached to it. -/
inductive Mention where
  | option (rule : OptionRule) (value : Option String)
  | unknown
  | none

/-- What stands behind an equals sign, with what stands before it. -/
def splitValue (text : List Char) : List Char × Option (List Char) :=
  match text.span (· ≠ '=') with
  | (name, '=' :: value) => (name, some value)
  | (name, _) => (name, Option.none)

/-- The value that is attached to a letter; an equals sign may stand between. -/
def letterValue : List Char → Option String
  | [] => Option.none
  | '=' :: value => some (String.ofList value)
  | value => some (String.ofList value)

def mention (options : List OptionRule) (argument : String) : Mention :=
  match argument.toList with
  | '-' :: '-' :: text =>
      let (name, value) := splitValue text
      match options.find? fun rule => rule.name.toList = name with
      | some rule => .option rule (value.map String.ofList)
      | Option.none => .unknown
  | '-' :: letter :: text =>
      match options.find? fun rule => rule.letter = some letter with
      | some rule =>
          match rule.kind with
          | .value _ _ => .option rule (letterValue text)
          | _ => .option rule Option.none
      | Option.none => .unknown
  | _ => .none

/-- Whether an argument can be the value of the option before it. -/
def isDetachedValue (argument : String) : Bool := argument = "-" || !argument.startsWith "-"

def readOperands (topic : Topic) (given : Given) : List String → Reading
  | [] => .done given
  | text :: rest =>
      match given.addOperand? topic.operand text with
      | some given => readOperands topic given rest
      | none => .mistake

def readArguments (topic : Topic) (given : Given) : List String → Reading
  | [] => .done given
  | argument :: rest =>
      if argument = "--" then readOperands topic given rest
      else
        match mention topic.options argument with
        | .unknown => .mistake
        | .none =>
            match given.addOperand? topic.operand argument with
            | some given => readArguments topic given rest
            | none => .mistake
        | .option rule attached =>
            match rule.kind, attached with
            | .help, none => .help
            | .version, none => .version
            | .flag, none =>
                match given.addOption? rule.name (fun _ => true) "" with
                | some given => readArguments topic given rest
                | none => .mistake
            | .value _ accepts, some value =>
                match given.addOption? rule.name accepts value with
                | some given => readArguments topic given rest
                | none => .mistake
            | .value _ accepts, none =>
                match rest with
                | [] => .mistake
                | value :: rest =>
                    if isDetachedValue value then
                      match given.addOption? rule.name accepts value with
                      | some given => readArguments topic given rest
                      | none => .mistake
                    else .mistake
            | _, _ => .mistake

def Given.format? (given : Given) : Option TextFormat :=
  (given.options.lookup "format").bind fun word => Entries.lookup word TextFormat.words

/-- The command of a name with what has been given to it, if nothing needed is missing. -/
def Given.command? (given : Given) (name : String) : Option Command :=
  let input := given.options.lookup "input"
  match name with
  | "convert" => some (.convert input (given.options.lookup "output") given.format?)
  | "validate" => input.map .validate
  | "inspect" => input.map fun input => .inspect input (given.format?.getD .yaml)
  | "init" => some (.init (given.options.lookup "force").isSome)
  | "completions" => given.operand.map .completions
  | _ => none

def Topic.invocation (topic : Topic) (arguments : List String) : Invocation :=
  match readArguments topic {} arguments with
  | .done given =>
      match given.command? topic.name with
      | some command => .run command
      | none => .misuse
  | .help => .helpOn topic
  | .version => .version
  | .mistake => .misuse

/-- What the words behind the command `help` ask for. -/
def helpInvocation : List String → Invocation
  | [] => .help
  | [name] =>
      match Topic.ofName? name with
      | some topic => .helpOn topic
      | none => .misuse
  | _ => .misuse

def Invocation.ofArguments : List String → Invocation
  | [] => .misuse
  | name :: arguments =>
      match Topic.ofName? name with
      | some topic =>
          if topic.name = Topic.help.name then helpInvocation arguments
          else topic.invocation arguments
      | none =>
          match mention programOptions name with
          | .option ⟨_, _, .help, _⟩ none => .help
          | .option ⟨_, _, .version, _⟩ none => .version
          | _ => .misuse

end ApiComponents.CommandLine
