import DataLayer.Clip.Attributes
import DataLayer.Clip.Helpers
import DataLayer.Clip.Provider
import DataLayer.Clip.Query
import DataLayer.Text.Edit

/-! The fixed pieces of the output. Each has a built-in text that a file of its name can
replace. -/

namespace DataLayer

/-- The texts of the fixed pieces. -/
structure Clips where
  imports : String
  attributes : String
  queryOperators : String
  basicProvider : String
  queryObject : String
  parameterHelpers : String
deriving DecidableEq, Repr

namespace Clips

/-- Lays out a piece with a line end after its last line. -/
def written (depth : Nat) (pieces : List Code) : String := Code.layout depth pieces ++ "\n"

/-- The built-in texts. -/
def builtin : Clips where
  imports := written 0 Clip.imports
  attributes := written 1 Clip.attributes
  queryOperators := written 1 Clip.queryOperators
  basicProvider := written 1 Clip.basicProvider
  queryObject := written 1 Clip.queryObject
  parameterHelpers := written 2 Clip.parameterHelpers

/-- The fixed pieces by name. -/
inductive Name where
  | imports
  | attributes
  | queryOperators
  | basicProvider
  | queryObject
  | parameterHelpers
deriving DecidableEq, Repr

/-- All fixed pieces. -/
def Name.all : List Name :=
  [.imports, .attributes, .queryOperators, .basicProvider, .queryObject, .parameterHelpers]

/-- The name of the file that replaces a piece, without its ending. -/
def Name.fileStem : Name → String
  | .imports => "namespaces"
  | .attributes => "attributes"
  | .queryOperators => "attributes_query"
  | .basicProvider => "basic_provider"
  | .queryObject => "query_obj"
  | .parameterHelpers => "check_nullable"

/-- Replaces the text of a piece. -/
def replace (clips : Clips) (name : Name) (text : String) : Clips :=
  match name with
  | .imports => { clips with imports := text }
  | .attributes => { clips with attributes := text }
  | .queryOperators => { clips with queryOperators := text }
  | .basicProvider => { clips with basicProvider := text }
  | .queryObject => { clips with queryObject := text }
  | .parameterHelpers => { clips with parameterHelpers := text }

/-- The attribute classes, with the query operators at the marker or with nothing there. -/
def attributesBlock (clips : Clips) (withQuery : Bool) : String :=
  Text.replaceAll Clip.queryMarker
    (if withQuery then Text.trimEnd clips.queryOperators else "") clips.attributes

end Clips

end DataLayer
