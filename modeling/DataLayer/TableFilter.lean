import DataLayer.Text.Case
import DataLayer.Text.Edit

/-! Which tables and views are read and generated. -/

namespace DataLayer

/-- A selection of tables. Without `include` every table of the catalog is read; the exclusions
are compared with the trimmed name in upper case. -/
structure TableFilter where
  include? : Option (List String) := none
  excluded : List String := []
  excludedPrefix : Option String := none
deriving DecidableEq, Repr

/-- Whether a table or view is left out of the generated code. -/
def TableFilter.excludes (filter : TableFilter) (name : String) : Bool :=
  let folded := Text.upper (Text.trim name)
  filter.excluded.contains folded ||
    match filter.excludedPrefix with
    | some start => Text.startsWith start folded
    | none => false

end DataLayer
