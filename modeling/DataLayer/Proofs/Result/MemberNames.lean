import DataLayer.Proofs.Identifier.Cleanup
import DataLayer.Proofs.Naming
import DataLayer.Proofs.Result.ReportedNames

/-!
# The members of result classes

Each column of a result table has a property, and the member for it is the first free name for the
identifier of the reported name. An allocator gives such names although it remembers for each name
where its last search has ended, and begins the next one there.
-/

namespace DataLayer

namespace Identifier

/-- No reserved word ends with a number. -/
theorem isReserved_numbered (base : String) (number : Nat) :
    isReserved (Naming.numbered base number) = false := by
  obtain ⟨c, rest, written, digit⟩ := Naming.exists_digit_repr number
  refine isReserved_of_mem (c := c) ?_ (Text.of_isAsciiDigit (·.isLower = false) (by decide) digit)
  rw [Naming.numbered, String.toList_append, written]
  exact List.mem_append_right _ List.mem_cons_self

end Identifier

namespace ResultClass

open Naming (Allocator IsFirstFree firstFreeAll isFirstFree_of_firstFreeAll nodup_firstFreeAll
  numbered_injective)

variable (settings : Settings) (table : ResultTable)

/-- The members are in the order of the columns. -/
theorem memberName_typedProperties :
    (typedProperties settings table).map (·.memberName) = memberNames settings table := by
  calc (typedProperties settings table).map (·.memberName)
      = (((table.reportedNames.zip (memberNames settings table)).zip
          table.columns).map Prod.fst).map Prod.snd := by
        rw [typedProperties, List.map_map, List.map_map]
        rfl
    _ = (table.reportedNames.zip (memberNames settings table)).map Prod.snd := by
        rw [List.map_fst_zip (Nat.le_of_eq (table.length_zip_memberNames settings))]
    _ = memberNames settings table :=
        List.map_snd_zip (Nat.le_of_eq (table.length_memberNames settings))

/-- Every property has the runtime type of its column. -/
theorem runtimeType_typedProperties :
    (typedProperties settings table).map (·.runtimeType) = table.columns.map (·.runtimeType) := by
  calc (typedProperties settings table).map (·.runtimeType)
      = (((table.reportedNames.zip (memberNames settings table)).zip
          table.columns).map Prod.snd).map (·.runtimeType) := by
        rw [typedProperties, List.map_map, List.map_map]
        rfl
    _ = table.columns.map (·.runtimeType) := by
        rw [List.map_snd_zip (Nat.le_of_eq (table.length_zip_memberNames settings).symm)]

/-- Every property has the type that is looked up for its column. -/
theorem resolveResult_of_mem {settings : Settings} {table : ResultTable} {property : ResultProperty}
    (member : property ∈ typedProperties settings table) :
    TypeMap.resolveResult property.runtimeType = .ok property.memberType := by
  obtain ⟨entry, -, rfl⟩ := List.mem_map.mp member
  exact TypeMap.resolveResult_eq entry.2.runtimeType

/-- The members are the first free names for the columns that the properties are bound to. -/
theorem typedProperties_allocated :
    (typedProperties settings table).map (·.memberName) =
      firstFreeAll id []
        ((typedProperties settings table).map fun property =>
          wantedMember settings property.columnName) := by
  have wanted : ((typedProperties settings table).map fun property =>
      wantedMember settings property.columnName) =
      table.reportedNames.map (wantedMember settings) := by
    rw [← table.columnName_typedProperties settings, List.map_map]
    rfl
  rw [memberName_typedProperties, wanted]
  exact Allocator.claimAll_eq_firstFreeAll Allocator.remembers_nothing _

/-- The number that another column has in its own name is passed over. -/
example : memberNames {} ⟨[⟨"a_b1", .int32⟩, ⟨"a b", .int32⟩, ⟨"a_b", .int32⟩, ⟨"a-b", .int32⟩], 0⟩ =
    ["a_b1", "a_b", "a_b2", "a_b3"] := by decide +kernel

/-- A first free name for the identifier of a column is no reserved word. -/
theorem isReserved_of_isFirstFree {settings : Settings} {used : List String} {column name : String}
    (first : IsFirstFree id used (wantedMember settings column) name) :
    Identifier.isReserved name = false := by
  rcases first.base_or_smallest with rfl | ⟨-, number, -, rfl, -⟩
  · exact Identifier.isReserved_ofText _
  · exact Identifier.isReserved_numbered _ number

/-- The properties of a class for a result table, and how their members are named. -/
structure MembersAllocated (result : ResultClass) : Prop where
  /-- There is one property for each column in order, bound to its reported name. -/
  columns : result.properties.map (·.columnName) = table.reportedNames
  types : result.properties.map (·.runtimeType) = table.columns.map (·.runtimeType)
  /-- The member of a property has the type that is found for its column. -/
  memberTypes : ∀ property ∈ result.properties,
    TypeMap.resolveResult property.runtimeType = .ok property.memberType
  apart : (result.properties.map (·.memberName)).Nodup
  unreserved : ∀ property ∈ result.properties, Identifier.isReserved property.memberName = false
  /-- The search for a member ends: it comes to the identifier for the column, or to the one with
  the smallest number, that no property before it has. -/
  allocated : ∀ before property after, result.properties = before ++ property :: after →
    IsFirstFree id (before.map (·.memberName)) (wantedMember settings property.columnName)
      property.memberName

/-- The members of a result class are all different, none is a reserved word, and each is the first
free name for its column. For whatever bases an allocator is asked, it gives the names that a search
from the start would give. -/
theorem resultMembers_allocated (aggregate : String) (index : Nat) :
    (∃ result, ofTable settings aggregate index table = .ok result ∧
        MembersAllocated settings table result) ∧
      ∀ bases, ({} : Allocator).claimAll bases = firstFreeAll id [] bases := by
  have allocated : ∀ before property after,
      typedProperties settings table = before ++ property :: after →
      IsFirstFree id (before.map (·.memberName)) (wantedMember settings property.columnName)
        property.memberName := by
    intro before property after split
    have named := typedProperties_allocated settings table
    rw [split] at named
    refine (isFirstFree_of_firstFreeAll numbered_injective named).of_mem_iff fun taken => ?_
    simp
  refine ⟨⟨_, ofTable_eq settings aggregate index table,
    ⟨table.columnName_typedProperties settings, runtimeType_typedProperties settings table,
      fun _ => resolveResult_of_mem, ?_, ?_, allocated⟩⟩,
    Allocator.claimAll_eq_firstFreeAll Allocator.remembers_nothing⟩
  · have distinct : ((firstFreeAll id [] _).map id).Nodup :=
      (nodup_firstFreeAll numbered_injective [] ((typedProperties settings table).map fun property =>
        wantedMember settings property.columnName)).1
    rwa [List.map_id, ← typedProperties_allocated] at distinct
  · intro property member
    obtain ⟨before, after, split⟩ := List.append_of_mem member
    exact isReserved_of_isFirstFree (allocated before property after split)

end ResultClass

end DataLayer
