import DataLayer.Proofs.Identifier.Underscore
import DataLayer.Proofs.Outcomes
import DataLayer.Proofs.Sql.Constants
import DataLayer.Proofs.Text.Case
import Mathlib.Data.List.Nodup

/-!
# The members of an entity class

A member is named by the start of member names and the folded column name, and a reserved word gets
an underscore in front. Distinct columns have distinct members except where this underscore meets a
column that has one already. `members_apart` collects what follows for the other members of the
class and for the class name.
-/

namespace DataLayer

open Text

namespace Identifier

/-- The reserved words are those on the list. -/
theorem isReserved_iff {name : String} : isReserved name = true ↔ name ∈ reservedWords := by
  unfold isReserved
  exact List.contains_iff_mem

/-- Reserved words alone get an underscore. -/
theorem escapeReserved_eq_or (name : String) :
    (name ∉ reservedWords ∧ escapeReserved name = name) ∨
      (name ∈ reservedWords ∧ escapeReserved name = "_" ++ name) := by
  unfold escapeReserved
  by_cases reserved : name ∈ reservedWords
  · exact .inr ⟨reserved, if_pos (isReserved_iff.mpr reserved)⟩
  · exact .inl ⟨reserved, if_neg (mt isReserved_iff.mp reserved)⟩

/-- Two names meet only when one of them is a reserved word and the other has the underscore that
this word is given. -/
theorem escapeReserved_inj {left right : String}
    (free : ∀ word ∈ reservedWords, ¬ (left = word ∧ right = "_" ++ word) ∧
      ¬ (right = word ∧ left = "_" ++ word))
    (same : escapeReserved left = escapeReserved right) : left = right := by
  rcases (underscored_eq_underscored_iff isReserved_underscore).mp same with
    same | ⟨reserved, marked⟩ | ⟨reserved, marked⟩
  · exact same
  · exact absurd ⟨rfl, marked⟩ (free left (isReserved_iff.mp reserved)).1
  · exact absurd ⟨rfl, marked⟩ (free right (isReserved_iff.mp reserved)).2

end Identifier

/-- The names that the statements of a table can have. -/
def Sql.statementNames : List String := ["InsertStatement", "UpdateStatement", "DeleteStatement"]

/-- The statements of a table have names from a fixed list. -/
theorem Sql.name_of_mem_constants {table : Table} {constant : Constant}
    (member : constant ∈ constants table) : constant.name ∈ statementNames := by
  unfold constants at member
  rcases List.mem_cons.mp member with rfl | member
  · exact .head _
  rcases List.mem_append.mp member with member | member
  · split at member
    · simp [List.mem_singleton.mp member, statementNames]
    · cases member
  · split at member
    · simp [List.mem_singleton.mp member, statementNames]
    · cases member

/-- Whether the first character is a capital ASCII letter. -/
def Text.beginsCapital (text : String) : Bool := text.toList.head?.any Char.isUpper

namespace EntityClass

/-- The name of a column in the generated code, before a reserved word is escaped. -/
def spelling (settings : Settings) (column : Column) : String :=
  settings.memberPrefix ++ columnName settings column.name

/-- The names of the properties of a class. -/
def memberNames (entity : EntityClass) : List String := entity.properties.map (·.memberName)

/-- The names of the members that a class has besides its properties. -/
def ownMembers (entity : EntityClass) : List String :=
  ["Columns", "TableName"] ++ entity.statements.map (·.name) ++
    (if entity.queryObject then ["CreateQuery"] else [])

/-- The names that such members can have. -/
def fixedNames : List String :=
  ["Columns", "TableName"] ++ Sql.statementNames ++ ["CreateQuery"]

variable {settings : Settings} {types : TypeMap} {table : Table} {entity : EntityClass}

/-- Every column has one member, whatever its type. -/
theorem memberNames_of_ofTable (declared : ofTable settings types table = .ok (some entity)) :
    entity.memberNames =
      table.columns.map fun column => Identifier.escapeReserved (spelling settings column) := by
  refine map_eq_of_outcomes (fun column member read => ?_)
    (mapM_eq_ok_iff.mp (properties_of_ofTable declared))
  exact (names_of_property read).2.1

/-- A class has no members besides its properties but those with fixed names. -/
theorem mem_ownMembers (declared : ofTable settings types table = .ok (some entity))
    {name : String} (own : name ∈ entity.ownMembers) : name ∈ fixedNames := by
  have ofStatement (listed : name ∈ entity.statements.map (·.name)) :
      name ∈ Sql.statementNames := by
    rw [statements_of_ofTable declared, statementConstants] at listed
    split at listed
    · rw [List.map_map] at listed
      obtain ⟨constant, member, same⟩ := List.mem_map.mp listed
      have named := Sql.name_of_mem_constants member
      rw [← same]
      exact named
    · cases listed
  have ofQuery (listed : name ∈ if entity.queryObject then ["CreateQuery"] else []) :
      name ∈ ["CreateQuery"] := by
    split at listed
    · exact listed
    · cases listed
  -- The members that are always there, then those of the statements, then that of the query.
  rcases List.mem_append.mp own with own | listed
  · rcases List.mem_append.mp own with always | listed
    · exact List.mem_append_left _ (List.mem_append_left _ always)
    · exact List.mem_append_left _ (List.mem_append_right _ (ofStatement listed))
  · exact List.mem_append_right _ (ofQuery listed)

/-- Two columns are spelled alike only when their names agree up to letter case. -/
theorem spelling_inj {left right : Column}
    (same : spelling settings left = spelling settings right) :
    lower left.name = lower right.name := by
  have folded := (String.append_right_inj settings.memberPrefix).mp same
  unfold columnName at folded
  split at folded
  · exact folded
  · rw [folded]

/-- What distinct column names say about the members of a class. -/
structure MembersApart (settings : Settings) (table : Table) (entity : EntityClass) : Prop where
  /-- The members are distinct, unless a column is spelled like a reserved word and another like
  this word with its underscore. -/
  distinct :
    (∀ word ∈ Identifier.reservedWords, word ∈ table.columns.map (spelling settings) →
      "_" ++ word ∉ table.columns.map (spelling settings)) → entity.memberNames.Nodup
  /-- A property has the name of another member only when a column is spelled so. -/
  own : ∀ name ∈ entity.ownMembers,
    name ∈ entity.memberNames ↔ name ∈ table.columns.map (spelling settings)
  /-- A property has the name of the class only when a column is spelled so, or like a reserved
  word that the underscore makes the name of the class. -/
  className : entity.className ∈ entity.memberNames →
    entity.className ∈ table.columns.map (spelling settings) ∨
      ∃ word ∈ Identifier.reservedWords, word ∈ table.columns.map (spelling settings) ∧
        entity.className = "_" ++ word
  /-- Lowered names after a start that is no capital letter meet neither the other members nor a
  class name that begins with a capital letter. -/
  lowered : settings.lowercaseNames = true → beginsCapital settings.memberPrefix = false →
    (∀ name ∈ entity.ownMembers, name ∉ entity.memberNames) ∧
      (beginsCapital entity.className = true → entity.className ∉ entity.memberNames)

/-- Lowering a name leaves no capital letter at its beginning, unless the start of member names
has one. -/
theorem beginsCapital_spelling (lowered : settings.lowercaseNames = true)
    (plain : beginsCapital settings.memberPrefix = false) (column : Column) :
    beginsCapital (spelling settings column) = false := by
  unfold beginsCapital spelling columnName at *
  rw [if_pos lowered, String.toList_append]
  cases start : settings.memberPrefix.toList with
  | nil =>
      rw [List.nil_append]
      cases name : (lower column.name).toList with
      | nil => rfl
      | cons c rest => exact isUpper_of_mem_lower (name ▸ List.mem_cons_self)
  | cons c rest =>
      rw [start] at plain
      exact plain

/-- An underscore is no capital letter, so escaping makes no name begin with one. -/
theorem beginsCapital_escapeReserved {name : String} (plain : beginsCapital name = false) :
    beginsCapital (Identifier.escapeReserved name) = false := by
  rcases Identifier.escapeReserved_eq_or name with ⟨-, same⟩ | ⟨-, escaped⟩
  · rw [same]
    exact plain
  · rw [escaped, beginsCapital, String.toList_append]
    rfl

/-- Other members are no reserved words, and no reserved word becomes one by its underscore. -/
theorem escapeReserved_eq_own (declared : ofTable settings types table = .ok (some entity))
    {own : String} (member : own ∈ entity.ownMembers) (name : String) :
    Identifier.escapeReserved name = own ↔ name = own := by
  have free : ∀ own ∈ fixedNames,
      own ∉ Identifier.reservedWords ∧ ∀ word ∈ Identifier.reservedWords, "_" ++ word ≠ own := by
    decide +kernel
  obtain ⟨plain, unescaped⟩ := free own (mem_ownMembers declared member)
  rcases Identifier.escapeReserved_eq_or name with ⟨-, same⟩ | ⟨reserved, escaped⟩
  · rw [same]
  · rw [escaped]
    refine ⟨fun equal => absurd equal (unescaped name reserved), fun equal => ?_⟩
    exact absurd (equal ▸ reserved) plain

/-- The members of a class are apart from each other and from the rest of the class, as far as the
way they are spelled allows. -/
theorem members_apart (declared : ofTable settings types table = .ok (some entity))
    (distinct : (table.columns.map fun column => lower column.name).Nodup) :
    MembersApart settings table entity := by
  have names := memberNames_of_ofTable declared
  constructor
  case distinct =>
    intro free
    rw [names]
    -- Members that are equal come from one spelling, and one spelling comes from one column.
    refine List.Nodup.map_on (fun left inLeft right inRight same => ?_) distinct.of_map
    have leftSpelled := List.mem_map_of_mem (f := spelling settings) inLeft
    have rightSpelled := List.mem_map_of_mem (f := spelling settings) inRight
    have spelled : spelling settings left = spelling settings right := by
      refine Identifier.escapeReserved_inj (fun word reserved => ⟨?_, ?_⟩) same
      · rintro ⟨plain, escaped⟩
        exact free word reserved (plain ▸ leftSpelled) (escaped ▸ rightSpelled)
      · rintro ⟨plain, escaped⟩
        exact free word reserved (plain ▸ rightSpelled) (escaped ▸ leftSpelled)
    exact List.inj_on_of_nodup_map distinct inLeft inRight (spelling_inj spelled)
  case own =>
    intro name own
    rw [names, List.mem_map, List.mem_map]
    simp only [escapeReserved_eq_own declared own]
  case className =>
    intro member
    rw [names] at member
    obtain ⟨column, inTable, same⟩ := List.mem_map.mp member
    have spelled := List.mem_map_of_mem (f := spelling settings) inTable
    rcases Identifier.escapeReserved_eq_or (spelling settings column) with
      ⟨-, plain⟩ | ⟨reserved, escaped⟩
    · exact .inl ((plain.symm.trans same) ▸ spelled)
    · exact .inr ⟨_, reserved, spelled, same ▸ escaped⟩
  case lowered =>
    intro lowered plain
    have small : ∀ name ∈ entity.memberNames, beginsCapital name = false := by
      rw [names]
      intro name member
      obtain ⟨column, -, rfl⟩ := List.mem_map.mp member
      exact beginsCapital_escapeReserved (beginsCapital_spelling lowered plain column)
    refine ⟨fun name own member => ?_, fun capital member => ?_⟩
    · have capital : ∀ name ∈ fixedNames, beginsCapital name = true := by decide
      have begins := capital name (mem_ownMembers declared own)
      exact Bool.false_ne_true ((small name member).symm.trans begins)
    · exact Bool.false_ne_true ((small _ member).symm.trans capital)

/-- A whole number under a name. -/
private def intColumn (name : String) : Column :=
  ⟨name, "int", -1, 0, 0, false, false, false, false, false, none⟩

/-- With the default settings, columns meet neither the other members nor the class. -/
theorem members_apart_default :
    let table : Table := ⟨"t", .table, [intColumn "class", intColumn "Columns", intColumn "TableT"]⟩
    ∃ entity, ofTable {} .sqlServer table = .ok (some entity) ∧
      (table.columns.map fun column => lower column.name).Nodup ∧ MembersApart {} table entity := by
  dsimp only
  refine ⟨?_, ?declared, ?distinct, ?_⟩
  case declared =>
    rw [ofTable, if_neg (by decide)]
    rfl
  case distinct => decide +kernel
  exact @members_apart {} .sqlServer _ _ rfl (by decide +kernel)

/-- Columns with distinct names can meet in one member through an underscore, and a column that
keeps its capital letters can take the name of another member or of the class. -/
theorem members_not_always_apart :
    (¬ ∀ settings types table entity, ofTable settings types table = .ok (some entity) →
      (table.columns.map fun column => lower column.name).Nodup → entity.memberNames.Nodup) ∧
    (¬ ∀ settings types table entity, ofTable settings types table = .ok (some entity) →
      (table.columns.map fun column => lower column.name).Nodup →
      ∀ name ∈ entity.ownMembers, name ∉ entity.memberNames) ∧
    ¬ ∀ settings types table entity, ofTable settings types table = .ok (some entity) →
      (table.columns.map fun column => lower column.name).Nodup →
      entity.className ∉ entity.memberNames := by
  refine ⟨fun claimed => ?_, fun claimed => ?_, fun claimed => ?_⟩
  · have apart := claimed {} .sqlServer ⟨"t", .table, [intColumn "_class", intColumn "class"]⟩ _ rfl
      (by decide +kernel)
    exact absurd apart (by decide +kernel)
  · have apart := claimed { lowercaseNames := false } .sqlServer
      ⟨"t", .table, [intColumn "Columns"]⟩ _ rfl (by decide +kernel) "Columns" (.head _)
    exact absurd (by decide +kernel) apart
  · have apart := claimed { lowercaseNames := false } .sqlServer
      ⟨"t", .table, [intColumn "TableT"]⟩ _ rfl (by decide +kernel)
    exact absurd (by decide +kernel) apart

end EntityClass

end DataLayer
