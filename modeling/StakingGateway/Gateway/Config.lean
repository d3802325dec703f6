import StakingGateway.Gas
import StakingGateway.Json.Codec
import StakingGateway.Text.Blank
import StakingGateway.Text.Quoted

/-!
# Configuration

Where the gateway is installed and what it charges. A configuration comes from environment
variables, of which those that are not set, or hold blanks only, leave the default as it is;
or from structured text, in which each field may be left out.

## Main definitions

* `Config`: the configuration, `Config.default` the one where nothing is said.
* `Config.ofEnvironment`: the configuration that environment variables ask for.
* `Config.check`: whether the gateway can run with it.
-/

namespace StakingGateway

/-- Where the gateway is installed and what it charges. -/
@[ext] structure Config where
  /-- The address that calls go to. -/
  address : Address
  /-- The gas that a query costs. -/
  queryBaseGas : UInt64
  /-- The costs of accesses to the store. -/
  schedule : GasSchedule
deriving DecidableEq

/-- Why a configuration is refused. -/
inductive ConfigFault where
  /-- Nothing can be installed at the address that names no account. -/
  | zeroAddress
  /-- The text is no address. -/
  | invalidAddress (fault : AddressFault)
  /-- The value of the variable is no number. -/
  | invalidNumber (variableName value : String)
deriving DecidableEq

/-- The wording of the fault. -/
def ConfigFault.message : ConfigFault → String
  | zeroAddress => "staking precompile address must not be zero"
  | invalidAddress fault => "invalid staking precompile address: " ++ fault.message
  | invalidNumber variableName value =>
    "environment variable " ++ variableName ++ " is not a number: " ++ Text.quoted value

namespace Config

/-- The address where nothing else is said. -/
def defaultAddress : Address := .ofNat 0x64

/-- The configuration where nothing is said. -/
def default : Config := ⟨defaultAddress, 0, .default⟩

instance : Inhabited Config := ⟨default⟩

/-- Refuses a configuration that the gateway cannot run with. -/
def check (config : Config) : Except ConfigFault Unit :=
  if config.address = .zero then .error .zeroAddress else .ok ()

/-! ### Environment variables -/

/-- The variable with the address. -/
def addressVariable : String := "EV_STAKING_PRECOMPILE_ADDR"

/-- The variable with the gas that a query costs. -/
def queryBaseGasVariable : String := "EV_STAKING_QUERY_BASE_GAS"

/-- The value of a variable without the blanks around it, unless nothing is left. -/
def given? (value : Option String) : Option String :=
  (value.map Text.trim).filter (· ≠ "")

/-- The address that a variable gives. -/
def addressOf : Option String → Except ConfigFault Address
  | none => .ok defaultAddress
  | some text => (Address.parse text).mapError .invalidAddress

/-- The gas that a variable gives. -/
def queryBaseGasOf : Option String → Except ConfigFault UInt64
  | none => .ok 0
  | some text =>
    match Text.readUInt64? text with
    | some gas => .ok gas
    | none => .error (.invalidNumber queryBaseGasVariable text)

/-- The configuration that environment variables ask for. -/
def ofEnvironment (lookup : String → Option String) : Except ConfigFault Config := do
  let address ← addressOf (given? (lookup addressVariable))
  let queryBaseGas ← queryBaseGasOf (given? (lookup queryBaseGasVariable))
  let config : Config := ⟨address, queryBaseGas, .default⟩
  config.check
  return config

end Config

/-! ### Structured text -/

open Json (Codec fields? optional?)

instance : Codec GasSchedule where
  toJson schedule := .record [("hasCost", Json.toJson schedule.hasCost),
    ("deleteCost", Json.toJson schedule.deleteCost),
    ("readCostFlat", Json.toJson schedule.readCostFlat),
    ("readCostPerByte", Json.toJson schedule.readCostPerByte),
    ("writeCostFlat", Json.toJson schedule.writeCostFlat),
    ("writeCostPerByte", Json.toJson schedule.writeCostPerByte),
    ("iterNextCostFlat", Json.toJson schedule.iterNextCostFlat)]
  ofJson? json := do
    let standard := GasSchedule.default
    match ← fields? ["hasCost", "deleteCost", "readCostFlat", "readCostPerByte",
        "writeCostFlat", "writeCostPerByte", "iterNextCostFlat"] json with
    | [has, delete, readFlat, readPerByte, writeFlat, writePerByte, iterNext] =>
      return ⟨← optional? standard.hasCost has, ← optional? standard.deleteCost delete,
        ← optional? standard.readCostFlat readFlat,
        ← optional? standard.readCostPerByte readPerByte,
        ← optional? standard.writeCostFlat writeFlat,
        ← optional? standard.writeCostPerByte writePerByte,
        ← optional? standard.iterNextCostFlat iterNext⟩
    | _ => none

instance : Codec Config where
  shape := .record [("precompileAddress", Codec.shape Address), ("queryBaseGas", .any),
    ("kvGas", .any)]
  toJson config := .record [("precompileAddress", Json.toJson config.address),
    ("queryBaseGas", Json.toJson config.queryBaseGas),
    ("kvGas", Json.toJson config.schedule)]
  ofJson? json := do
    match ← fields? ["precompileAddress", "queryBaseGas", "kvGas"] json with
    | [address, queryBaseGas, schedule] =>
      return ⟨← optional? Config.defaultAddress address, ← optional? 0 queryBaseGas,
        ← optional? .default schedule⟩
    | _ => none

end StakingGateway
