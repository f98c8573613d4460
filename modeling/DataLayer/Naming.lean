import DataLayer.Text.Edit

/-! Choosing names that are not in use. A name in use gets the smallest positive number that makes
it free. -/

namespace DataLayer.Naming

/-- The name with a number at its end. -/
def numbered (base : String) (number : Nat) : String := base ++ number.repr

/-- The first number from the given one on whose name is free. Names are in use up to the key by
which they are compared. A name in use is struck from the list before the next number is tried, so
the search ends. -/
def firstFreeNumber (key : String → String) (used : List String) (base : String)
    (number : Nat) : Nat :=
  if inUse : key (numbered base number) ∈ used then
    firstFreeNumber key (used.erase (key (numbered base number))) base (number + 1)
  else
    number
termination_by used.length
decreasing_by
  rw [List.length_erase_of_mem inUse]
  exact Nat.sub_lt (List.length_pos_of_mem inUse) (by decide)

/-- The base name if it is free, else the base name with the smallest number that makes it free. -/
def firstFree (key : String → String) (used : List String) (base : String) : String :=
  if key base ∈ used then numbered base (firstFreeNumber key used base 1) else base

/-- The names in use, each with the last number that was given to it as a base. All numbers up to
that one are in use. -/
structure Allocator where
  used : List (String × Nat) := []
deriving DecidableEq, Repr

namespace Allocator

/-- The names in use. -/
def names (allocator : Allocator) : List String := allocator.used.map (·.1)

/-- Takes a name that is free, or else the name with the first free number after the last one
given to it. -/
def claim (allocator : Allocator) (base : String) : String × Allocator :=
  match allocator.used.lookup base with
  | none => (base, ⟨(base, 0) :: allocator.used⟩)
  | some last =>
    let number := firstFreeNumber id allocator.names base (last + 1)
    (numbered base number,
      ⟨(numbered base number, 0) :: (base, number) ::
        allocator.used.filter fun entry => entry.1 != base⟩)

/-- Takes names for a list of bases in order. -/
def claimAll (allocator : Allocator) : List String → List String
  | [] => []
  | base :: rest => (allocator.claim base).1 :: (allocator.claim base).2.claimAll rest

end Allocator

end DataLayer.Naming
