/-
# Configurations

What a proxy is started with.  The name and the number of workers may be left
open: a name is then made up, and the number depends on the machine.
-/

import ShardProxy.Rule.Rules
import ShardProxy.Schema

namespace ShardProxy

/-- The configuration of a proxy. -/
structure Config where
  /-- Its name; none to make one up. -/
  name : Option String
  /-- How many later units run at once at most; none to fit the machine. -/
  maxWorkers : Option Nat
  rules : Rules
  /-- The tables that are registered at the start. -/
  schema : Schema
  deriving DecidableEq

/-- The configuration that leaves all open. -/
def Config.default : Config :=
  ⟨none, none, ⟨none, none⟩, .empty⟩

end ShardProxy
