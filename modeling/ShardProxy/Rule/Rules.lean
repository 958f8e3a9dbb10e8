/-
# The rules of a schema

What a configuration says about routing: how tables are sharded and how reads
and writes are split.  Either part may be absent.
-/

import ShardProxy.Rule.Sharding
import ShardProxy.Rule.Splitting

namespace ShardProxy

/-- The routing rules as written. -/
structure Rules where
  /-- How tables are spread over data sources. -/
  sharding : Option ShardingConfig
  /-- How reads and writes are split. -/
  splitting : Option SplittingConfig
  deriving Repr, DecidableEq

end ShardProxy
