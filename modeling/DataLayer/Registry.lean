import DataLayer.Keyed
import DataLayer.Wrapper.Entity

/-! The entity classes of one run, in the order of their first registration, for the parts of the
output that list them all. -/

namespace DataLayer

/-- A member of a registered entity. -/
structure RegisteredMember where
  columnName : String
  memberName : String
  key : Bool
  identity : Bool
deriving DecidableEq, Repr

/-- An entity class that was emitted, and the property that stands for it in the query context. -/
structure RegisteredEntity where
  tableName : String
  className : String
  kind : TableKind
  propertyName : String
  members : List RegisteredMember
deriving DecidableEq, Repr

namespace RegisteredEntity

/-- The property of the query context for a table name. -/
def propertyNameOf (tableName : String) : String :=
  Identifier.ofText (Identifier.pascalCase tableName)

/-- Registers the declarations of an entity class under a property name. -/
def ofClass (entity : EntityClass) (propertyName : String) : RegisteredEntity where
  tableName := entity.tableName
  className := entity.className
  kind := entity.kind
  propertyName := propertyName
  members := entity.properties.map fun property =>
    ⟨property.columnName, property.memberName, property.key, property.identity⟩

/-- The key member, when there is exactly one. -/
def singleKey? (entity : RegisteredEntity) : Option RegisteredMember :=
  match entity.members.filter (·.key) with
  | [member] => some member
  | _ => none

end RegisteredEntity

/-- A row of the mapping table; the last two entries are literals. -/
structure MappingRow where
  tableName : String
  className : String
  keyField : String
  keyIsIdentity : String
deriving DecidableEq, Repr

/-- The row for an entity: its single key column and whether that is an identity, or null and
false. -/
def RegisteredEntity.mappingRow (entity : RegisteredEntity) : MappingRow where
  tableName := entity.tableName
  className := entity.className
  keyField :=
    match entity.singleKey? with
    | some member => Literal.verbatim member.columnName
    | none => "null"
  keyIsIdentity := Literal.truth
    (match entity.singleKey? with
      | some member => member.identity
      | none => false)

/-- The registered entities under their table names. -/
structure EntityRegistry where
  entities : Keyed RegisteredEntity := {}
deriving Repr

namespace EntityRegistry

/-- Registers an entity; one of the same table name keeps its place and is replaced. -/
def register (registry : EntityRegistry) (entity : RegisteredEntity) : EntityRegistry :=
  ⟨registry.entities.put entity.tableName entity⟩

/-- The entities in order. -/
def toList (registry : EntityRegistry) : List RegisteredEntity := registry.entities.values

/-- The number of entities. -/
def size (registry : EntityRegistry) : Nat := registry.entities.size

/-- The rows of the mapping table; views have none. -/
def mappingRows (registry : EntityRegistry) : List MappingRow :=
  (registry.toList.filter (·.kind == .table)).map (·.mappingRow)

open Code

/-- The lookup method of the mapping table with the given result. -/
def lookupMethod (note returnType name parameter result : String) : List Code :=
  [blank,
   summary note,
   block ["public static " ++ returnType ++ " " ++ name ++ "(" ++ parameter ++ ")"]
     [line "TableRecord rec;",
      line ("return " ++ result ++ ";")]]

/-- The call that enters a row into the mapping table. -/
def registerCall (row : MappingRow) : Code :=
  line ("Register(" ++ Literal.verbatim row.tableName ++ ", typeof(" ++ row.className ++ "), " ++
    row.keyField ++ ", " ++ row.keyIsIdentity ++ ");")

/-- The mapping table: lookups between table names and entity classes. -/
def mappingsCode (rows : List MappingRow) : List Code :=
  region "mappings"
    [blank,
     summary "Lookups between table names and their wrapper types.",
     block ["public static class DalMappings"]
       ([blank,
         block ["class TableRecord"]
           [line "public string TableName;",
            line "public Type ClassType;",
            line "public string IdField;",
            line "public bool IdIsIdentity;"],
         blank,
         line ("static Dictionary<string, TableRecord> by_table = " ++
           "new Dictionary<string, TableRecord>(StringComparer.OrdinalIgnoreCase);"),
         line ("static Dictionary<Type, TableRecord> by_type = " ++
           "new Dictionary<Type, TableRecord>();"),
         blank,
         block ["static void Register(string table_name, Type type, string id_field, " ++
             "bool id_is_identity)"]
           [line ("var rec = new TableRecord " ++
              inBraces ("TableName = table_name, ClassType = type, IdField = id_field, " ++
                "IdIsIdentity = id_is_identity") ++ ";"),
            line "by_table[table_name] = rec;",
            line "by_type[type] = rec;"],
         blank,
         block ["static DalMappings()"] (rows.map registerCall)] ++
        lookupMethod "Wrapper type for the given table, or null." "Type" "GetTypeForTable"
          "string table_name"
          "by_table.TryGetValue(table_name, out rec) ? rec.ClassType : null" ++
        lookupMethod "Table name for the given wrapper type, or null." "string"
          "GetTableNameForType" "Type type"
          "by_type.TryGetValue(type, out rec) ? rec.TableName : null" ++
        lookupMethod
          "Single key column of the given table; null for composite or missing keys." "string"
          "GetIdFieldForTable" "string table_name"
          "by_table.TryGetValue(table_name, out rec) ? rec.IdField : null" ++
        lookupMethod "Whether the single key column of the given table is an identity." "bool"
          "IsIdFieldIdentity" "string table_name"
          "by_table.TryGetValue(table_name, out rec) && rec.IdIsIdentity"),
     blank]

/-- The query property of an entity in the interface of the context. -/
def interfaceProperty (entity : RegisteredEntity) : Code :=
  line ("IQueryable<" ++ entity.className ++ "> " ++ entity.propertyName ++ " " ++
    inBraces "get;")

/-- The attribute that maps a column of an entity. -/
def columnAttribute (member : RegisteredMember) : Code :=
  line ("[IQToolkit.Data.Mapping.Column(Member = " ++ Literal.plain member.memberName ++
    ", Name = " ++ Literal.plain member.columnName ++
    (if member.key then ", IsPrimaryKey = true" else "") ++
    (if member.identity then ", IsGenerated = true" else "") ++ ")]")

/-- The query property of an entity in the context over a provider. -/
def providerProperty (catalogSchema : String) (entity : RegisteredEntity) : List Code :=
  [blank,
   line ("[IQToolkit.Data.Mapping.Table(Name = " ++
     Literal.plain (catalogSchema ++ "." ++ entity.tableName) ++ ")]")] ++
  entity.members.map columnAttribute ++
  [block ["public IQueryable<" ++ entity.className ++ "> " ++ entity.propertyName]
     [line ("get " ++ inBraces ("return this.provider.GetTable<" ++ entity.className ++ ">(" ++
       Literal.plain entity.propertyName ++ ");"))]]

/-- The list and the query property of an entity in the context in memory. -/
def memoryProperty (entity : RegisteredEntity) : List Code :=
  [blank,
   line ("public List<" ++ entity.className ++ "> " ++ entity.propertyName ++
     "List = new List<" ++ entity.className ++ ">();"),
   block ["public IQueryable<" ++ entity.className ++ "> " ++ entity.propertyName]
     [line ("get " ++ inBraces ("return " ++ entity.propertyName ++ "List.AsQueryable();"))]]

/-- The query context: an interface, an implementation over a provider and one in memory. -/
def contextCode (catalogSchema : String) (entities : List RegisteredEntity) : List Code :=
  region "db context"
    [blank,
     summary "Queryable access to all table and view wrappers.",
     block ["public interface IDbContext"] (entities.map interfaceProperty),
     blank,
     summary "Context backed by an IQToolkit entity provider.",
     block ["public partial class DbContext : IDbContext"]
       ([blank,
         line "IQToolkit.IEntityProvider provider;",
         blank,
         summary "Public constructor.",
         line ("public DbContext(IQToolkit.IEntityProvider provider) " ++
           inBraces "this.provider = provider;")] ++
        entities.flatMap (providerProperty catalogSchema)),
     blank,
     summary "In-memory context; lists are filled by the caller.",
     block ["public partial class DbContextMemory : IDbContext"]
       (entities.flatMap memoryProperty),
     blank]

end EntityRegistry

end DataLayer
