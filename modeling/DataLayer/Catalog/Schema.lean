import DataLayer.Catalog.Procedure
import DataLayer.Catalog.Table

/-! Everything that is read from one catalog. -/

namespace DataLayer

/-- The tables, views and procedures of a catalog in the order in which they were read. -/
structure Schema where
  tables : List Table := []
  views : List Table := []
  procedures : List Procedure := []
deriving DecidableEq, Repr

end DataLayer
