/-!
# Phases of a Transaction

A call that changes the state goes through phases in a fixed order. Until it is snapshotted it
can only be given up. From then on it ends in one of two ways: its changes are committed, or
they are discarded.

## Main definitions

* `Phase`: the phases.
* `Phase.canAdvanceTo`: which phase may follow which.
-/

namespace StakingGateway

/-- A phase of a call that changes the state. -/
inductive Phase where
  /-- Nothing has happened. -/
  | idle
  /-- The call data are read. -/
  | decoding
  /-- The message is checked. -/
  | validating
  /-- The staking module runs over a layer of its own. -/
  | snapshotted
  /-- The changes have been made. -/
  | committed
  /-- The changes have been dropped. -/
  | discarded
deriving DecidableEq

namespace Phase

/-- All phases. -/
def all : List Phase :=
  [idle, decoding, validating, snapshotted, committed, discarded]

/-- The name of the phase. -/
def name : Phase → String
  | idle => "Idle"
  | decoding => "Decoding"
  | validating => "Validating"
  | snapshotted => "Snapshotted"
  | committed => "Committed"
  | discarded => "Discarded"

/-- The phase with the name. -/
def ofName? (name : String) : Option Phase :=
  all.find? fun phase => phase.name == name

/-- Whether the phase `next` may follow the phase. -/
def canAdvanceTo : (phase next : Phase) → Bool
  | idle, decoding => true
  | decoding, validating => true
  | validating, snapshotted => true
  | snapshotted, committed => true
  | snapshotted, discarded => true
  | _, _ => false

/-- Whether the fate of the changes is settled. -/
def isTerminal : Phase → Bool
  | committed => true
  | discarded => true
  | _ => false

end Phase

end StakingGateway
