/-
# Random words from a seed

A fixed mixing of the seed and the number of draws before gives well-spread
words, so equal seeds give equal choices.
-/

import ShardProxy.Routing.Balancer

namespace ShardProxy

/-- Spreads a change of any bit over all bits. -/
def mixWord (word : UInt64) : UInt64 :=
  let word := (word ^^^ (word >>> 30)) * 0xbf58476d1ce4e5b9
  let word := (word ^^^ (word >>> 27)) * 0x94d049bb133111eb
  word ^^^ (word >>> 31)

/-- The words of a seed. -/
def Dice.ofSeed (seed : UInt64) : Dice := fun draws =>
  mixWord (seed + UInt64.ofNat (draws + 1) * 0x9e3779b97f4a7c15)

end ShardProxy
