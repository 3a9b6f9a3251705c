import ApiComponents.Json.Loading
import ApiComponents.Json.Value
import ApiComponents.Yaml.Loading
import ApiComponents.Yaml.Text

/-! # Text formats

Documents are written in YAML or in JSON. Both formats are read by the same layouts and write
the same values.
-/

namespace ApiComponents

/-- A format in which documents are written. -/
inductive TextFormat where
  | yaml
  | json
  deriving Repr, DecidableEq

/-- A value as a document that ends with its last line. -/
def TextFormat.render (format : TextFormat) (value : Json) : String :=
  match format with
  | yaml => value.yaml
  | json => value.indented ++ "\n"

/-- Why a text does not load. -/
inductive LoadError where
  /-- The text is no JSON document of the wanted layout. -/
  | json (message : String)
  /-- The text is no YAML document of the wanted layout. -/
  | yaml (failure : YamlFailure)
  deriving Repr, DecidableEq

namespace LoadError

def reason : LoadError → String
  | json message => message
  | yaml failure => failure.message

def message : LoadError → String
  | json message => "failed to parse JSON: " ++ message
  | yaml failure => "failed to parse YAML: " ++ failure.message

end LoadError

def Layout.fromText {α : Type} (layout : Layout α) (format : TextFormat) (text : String) :
    Except LoadError α :=
  match format with
  | .json => (layout.fromJsonText text).mapError .json
  | .yaml => (layout.fromYamlText text).mapError .yaml

end ApiComponents
