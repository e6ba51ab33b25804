/-!
# YAML documents

Scalars, sequences and mappings. What a scalar means is decided by whoever reads it:
as a text it stands for its characters, and only a plain one, written without quotes,
can be a truth value or stand for an empty collection.
-/

namespace ObjectQuery

/-- A YAML document. -/
inductive Yaml where
  /-- Text without quotes; empty where a value was left out. -/
  | plain (text : String)
  /-- Text between quotes. -/
  | quoted (text : String)
  | sequence (items : List Yaml)
  | mapping (entries : List (String × Yaml))
  deriving Repr, Inhabited

namespace Yaml

/-- A value that was left out. -/
def empty : Yaml :=
  .plain ""

/-- The text of a scalar. -/
def text? : Yaml → Option String
  | .plain text | .quoted text => some text
  | _ => none

/-- The truth value of a plain scalar. -/
def bool? : Yaml → Option Bool
  | .plain "true" | .plain "True" | .plain "TRUE" => some true
  | .plain "false" | .plain "False" | .plain "FALSE" => some false
  | _ => none

/-- The items of a sequence; a value that was left out has none. -/
def items? : Yaml → Option (List Yaml)
  | .sequence items => some items
  | .plain "" => some []
  | _ => none

/-- The entries of a mapping; a value that was left out has none. -/
def entries? : Yaml → Option (List (String × Yaml))
  | .mapping entries => some entries
  | .plain "" => some []
  | _ => none

/-- The items of a sequence, each read alike. -/
def list? {content : Type} (decode : Yaml → Option content) (yaml : Yaml) :
    Option (List content) :=
  yaml.items?.bind fun items => items.mapM decode

end Yaml
end ObjectQuery
