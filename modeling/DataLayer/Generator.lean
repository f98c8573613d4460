import DataLayer.Catalog.Schema
import DataLayer.Clips
import DataLayer.Registry
import DataLayer.Wrapper.Procedure

/-! The whole output for a schema: imports, then a namespace that holds the fixed pieces, the
regions of table and view classes, the procedure surfaces, the mapping table and the query
context. -/

namespace DataLayer

/-- What a generation depends on besides the schema. -/
structure Generator where
  settings : Settings
  types : TypeMap := .sqlServer
  clips : Clips := .builtin

namespace Generator

open Text

/-- The declarations of the tables that are not excluded, in order. -/
def entitiesOf (generator : Generator) (tables : List Table) :
    Except Failure (List EntityClass) := do
  let entities ← tables.mapM (EntityClass.ofTable generator.settings generator.types)
  pure (entities.filterMap id)

/-- The code for one table; nothing when it is excluded. -/
def entityText (generator : Generator) (table : Table) : Except Failure String := do
  match ← EntityClass.ofTable generator.settings generator.types table with
  | some entity => pure entity.text
  | none => pure ""

/-- A region of entity classes, with empty lines between them. -/
def regionText (title : String) (entities : List EntityClass) : String :=
  joinWith "\n\n"
    (("    #region " ++ title) :: entities.map EntityClass.text ++ ["    #endregion"])

/-- The surfaces over the given wrappers. -/
def surfacesOf (generator : Generator) (wrappers : List ProcedureWrapper) : ProcedureSurfaces where
  className := generator.settings.procedureClass
  helpers := trimEnd generator.clips.parameterHelpers
  wrappers := wrappers

/-- The procedure surfaces. -/
def procedureSurfaces (generator : Generator) (procedures : List Procedure) :
    Except Failure ProcedureSurfaces :=
  generator.surfacesOf <$>
    procedures.mapM (ProcedureWrapper.ofProcedure generator.settings generator.types)

/-- The code of the procedure surfaces. -/
def proceduresText (generator : Generator) (procedures : List Procedure) :
    Except Failure String :=
  ProcedureSurfaces.text <$> generator.procedureSurfaces procedures

/-- The registry of entity classes, filled in order. -/
def registryOf (entities : List EntityClass) : EntityRegistry :=
  entities.foldl
    (fun registry entity => registry.register
      (.ofClass entity (RegisteredEntity.propertyNameOf entity.tableName)))
    {}

/-- A namespace to import, without the keyword and the semicolon it may be given with. -/
def importedName (given : String) : String :=
  trim (dropEnd (· == ';') (dropRepeated "using " given))

/-- The imports: the fixed ones, then the additional ones. -/
def imports (generator : Generator) : String :=
  trimEnd generator.clips.imports ++ "\n" ++
    concat (generator.settings.additionalNamespaces.map fun given =>
      "using " ++ importedName given ++ ";\n")

/-- A section that is there only under a condition. -/
def sectionIf (condition : Bool) (text : String) : List String :=
  if condition then [text] else []

/-- The sections before the entity classes. -/
def openingSections (generator : Generator) : List String :=
  let settings := generator.settings
  let clips := generator.clips
  (settings.startCode.map trimEnd).toList ++
  sectionIf (!settings.omitInfrastructure)
    (trimEnd (clips.attributesBlock settings.queryObjects)) ++
  sectionIf (!settings.omitProvider) (trimEnd clips.basicProvider) ++
  sectionIf settings.queryObjects (trimEnd clips.queryObject)

/-- The sections after the procedure surfaces: the mapping table unless it would be empty, and the
query context. -/
def closingSections (generator : Generator) (registry : EntityRegistry) : List String :=
  let settings := generator.settings
  sectionIf (!settings.omitInfrastructure && !registry.mappingRows.isEmpty)
    (Code.layout 1 (EntityRegistry.mappingsCode registry.mappingRows)) ++
  sectionIf (!settings.omitContext)
    (Code.layout 1 (EntityRegistry.contextCode settings.catalogSchema registry.toList))

/-- The output around its sections. -/
def assemble (generator : Generator) (sections : List String) : String :=
  generator.imports ++ "\nnamespace " ++ generator.settings.codeNamespace ++ " \x7b\n\n" ++
    joinWith "\n\n" sections ++ "\n\x7d\n"

/-- The section of the procedure surfaces, when procedures are wrapped at all. -/
def procedureSections (generator : Generator) (procedures : List Procedure) :
    Except Failure (List String) :=
  if generator.settings.useProcedures then
    List.singleton <$> generator.proceduresText procedures
  else
    .ok []

/-- The whole output for a schema. -/
def generate (generator : Generator) (schema : Schema) : Except Failure String := do
  let tables ← generator.entitiesOf schema.tables
  let views ← generator.entitiesOf schema.views
  let procedures ← generator.procedureSections schema.procedures
  pure (generator.assemble
    (generator.openingSections ++
      [regionText "database tables" tables, regionText "database views" views] ++
      procedures ++ generator.closingSections (registryOf (tables ++ views))))

end Generator

end DataLayer
