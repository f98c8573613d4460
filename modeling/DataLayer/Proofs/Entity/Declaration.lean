import DataLayer.Proofs.Outcomes
import DataLayer.Wrapper.Entity

/-!
# What a declaration comes from

A table or view is declared exactly when it is not excluded and every column has a property. The
declaration then has the name of the table, its statements, and a property for each column.
-/

namespace DataLayer.EntityClass

variable {settings : Settings} {types : TypeMap} {table : Table} {entity : EntityClass}

/-- A declaration is made of the properties of all columns. -/
theorem exists_properties (declared : ofTable settings types table = .ok (some entity)) :
    ∃ properties, table.columns.mapM (property settings types table) = .ok properties ∧
      entity =
        { className := table.className settings.classPrefix settings.viewPrefix
          tableName := table.name
          kind := table.kind
          baseClass := settings.baseClassName
          properties := properties
          defaults := table.columns.filterMap (memberDefault? settings)
          queryObject := settings.queryObjects
          statements := statementConstants settings table } := by
  unfold ofTable at declared
  split at declared
  · cases declared
  · cases read : table.columns.mapM (property settings types table) with
    | error failure => simp [read, bind, Except.bind] at declared
    | ok properties =>
        rw [read] at declared
        cases declared
        exact ⟨properties, rfl, rfl⟩

/-- A class has the name of its table. -/
theorem tableName_of_ofTable (declared : ofTable settings types table = .ok (some entity)) :
    entity.tableName = table.name := by
  obtain ⟨properties, -, rfl⟩ := exists_properties declared
  rfl

/-- It has one property for each column, in order. -/
theorem properties_of_ofTable (declared : ofTable settings types table = .ok (some entity)) :
    table.columns.mapM (property settings types table) = .ok entity.properties := by
  obtain ⟨properties, read, rfl⟩ := exists_properties declared
  exact read

/-- Its statements are those of the table. -/
theorem statements_of_ofTable (declared : ofTable settings types table = .ok (some entity)) :
    entity.statements = statementConstants settings table := by
  obtain ⟨properties, -, rfl⟩ := exists_properties declared
  rfl

/-- Only an excluded table comes without a declaration and without a failure. -/
theorem excludes_of_ofTable (undeclared : ofTable settings types table = .ok none) :
    settings.tableFilter.excludes table.name = true := by
  unfold ofTable at undeclared
  split at undeclared
  · assumption
  · cases read : table.columns.mapM (property settings types table) with
    | error failure => simp [read, bind, Except.bind] at undeclared
    | ok properties => simp [read, bind, Except.bind, pure, Except.pure] at undeclared

/-- An excluded table has no declaration. -/
theorem excludes_eq_false_of_ofTable (declared : ofTable settings types table = .ok (some entity)) :
    settings.tableFilter.excludes table.name = false := by
  unfold ofTable at declared
  split at declared
  · cases declared
  · rename_i kept
    exact Bool.eq_false_iff.mpr kept

/-- A property binds its column under the folded name. -/
theorem names_of_property {column : Column} {found : EntityProperty}
    (read : property settings types table column = .ok found) :
    found.columnName = columnName settings column.name ∧
      found.memberName = memberName settings (columnName settings column.name) ∧
      found.attributeArguments = Text.joinWith ", " (attributeArguments settings table column) := by
  unfold property at read
  split at read <;> cases read
  exact ⟨rfl, rfl, rfl⟩

/-- The member has the type that the map has for the column. -/
theorem type_of_property {column : Column} {found : EntityProperty}
    (read : property settings types table column = .ok found) :
    types.resolve column.dbType column.nullable column.length = .ok found.memberType := by
  unfold property at read
  split at read <;> cases read
  assumption

/-- A property carries the flags of its column. -/
theorem flags_of_property {column : Column} {found : EntityProperty}
    (read : property settings types table column = .ok found) :
    found.key = column.key ∧ found.identity = column.identity := by
  unfold property at read
  split at read <;> cases read
  exact ⟨rfl, rfl⟩

end DataLayer.EntityClass
