/-
# Mappings of logical to actual names

A client knows a table or a data source by its logical name, the backend by its
actual one.  A mapping pairs the two.
-/

namespace ShardProxy

/-- A logical name and the actual name behind it. -/
structure Mapping where
  /-- The name that clients use. -/
  logic : String
  /-- The name on the backend. -/
  actual : String
  deriving Repr, DecidableEq

/-- The mapping of a name to itself. -/
def Mapping.identity (name : String) : Mapping :=
  ⟨name, name⟩

/-- The same logical name with another actual one. -/
def Mapping.repoint (mapping : Mapping) (actual : String) : Mapping :=
  { mapping with actual }

end ShardProxy
