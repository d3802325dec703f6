/-!
# Blocks

A call executes in a block, of which the staking module sees the height and the time.

## Main definitions

* `Block`: the height and the time of a block.
-/

namespace StakingGateway

/-- The height and the time of a block. -/
@[ext] structure Block where
  /-- The height. -/
  height : Int64
  /-- The Unix time. -/
  time : UInt64
deriving DecidableEq

end StakingGateway
