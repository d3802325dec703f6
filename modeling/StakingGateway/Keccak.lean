import StakingGateway.Bytes

/-!
# The Keccak-256 Hash

The sponge over the permutation of 25 lanes of 64 bits, with a rate of 136 octets, the
padding that starts with the octet `1`, and 32 octets of output. The lane at column `x` and
row `y` stands at place `x + 5 * y` of the state.

Method selectors and the letter case of account addresses are derived from this hash.

## Main definitions

* `Keccak.permute`: the permutation of the state, 24 rounds.
* `Keccak.pad`: a message in whole blocks.
* `Keccak.hash256`: the 32 octets of the hash.
-/

namespace StakingGateway.Keccak

/-- The state of the sponge: 25 lanes. -/
abbrev Lanes := List UInt64

/-- The lane at a place, zero beyond the end. -/
def Lanes.at (lanes : Lanes) (place : Nat) : UInt64 :=
  lanes.getD place 0

/-- The word rotated by `n` bits toward its high end. -/
def rotate (word : UInt64) (n : Nat) : UInt64 :=
  (word <<< UInt64.ofNat n) ||| (word >>> UInt64.ofNat (64 - n))

/-- How far the lane at each place is rotated in a round. -/
def rotations : List Nat :=
  [ 0,  1, 62, 28, 27,
   36, 44,  6, 55, 20,
    3, 10, 43, 25, 39,
   41, 45, 15, 21,  8,
   18,  2, 61, 56, 14]

/-- What each round adds to the lane at place zero. -/
def roundConstants : List UInt64 :=
  [0x0000000000000001, 0x0000000000008082, 0x800000000000808a, 0x8000000080008000,
   0x000000000000808b, 0x0000000080000001, 0x8000000080008081, 0x8000000000008009,
   0x000000000000008a, 0x0000000000000088, 0x0000000080008009, 0x000000008000000a,
   0x000000008000808b, 0x800000000000008b, 0x8000000000008089, 0x8000000000008003,
   0x8000000000008002, 0x8000000000000080, 0x000000000000800a, 0x800000008000000a,
   0x8000000080008081, 0x8000000000008080, 0x0000000080000001, 0x8000000080008008]

/-- Adds to each lane the parities of the two neighbouring columns. -/
def mixColumns (lanes : Lanes) : Lanes :=
  let parity := (List.range 5).map fun x =>
    lanes.at x ^^^ lanes.at (x + 5) ^^^ lanes.at (x + 10) ^^^ lanes.at (x + 15)
      ^^^ lanes.at (x + 20)
  let effect := (List.range 5).map fun x =>
    Lanes.at parity ((x + 4) % 5) ^^^ rotate (Lanes.at parity ((x + 1) % 5)) 1
  (List.range 25).map fun i => lanes.at i ^^^ Lanes.at effect (i % 5)

/-- Rotates the lanes and moves each to its new place: the lane that arrives at column `x`
and row `y` comes from column `x + 3 * y` and row `x`. -/
def rearrange (lanes : Lanes) : Lanes :=
  (List.range 25).map fun i =>
    let source := (i % 5 + 3 * (i / 5)) % 5 + 5 * (i % 5)
    rotate (lanes.at source) (rotations.getD source 0)

/-- Combines each lane with the two that follow it in its row. -/
def combineRows (lanes : Lanes) : Lanes :=
  (List.range 25).map fun i =>
    let row := 5 * (i / 5)
    lanes.at i ^^^
      (~~~(lanes.at (row + (i % 5 + 1) % 5)) &&& lanes.at (row + (i % 5 + 2) % 5))

/-- One round, ending with the addition of its constant. -/
def round (lanes : Lanes) (constant : UInt64) : Lanes :=
  match combineRows (rearrange (mixColumns lanes)) with
  | [] => []
  | first :: rest => (first ^^^ constant) :: rest

/-- The permutation of the state. -/
def permute (lanes : Lanes) : Lanes :=
  roundConstants.foldl round lanes

/-- The number of octets absorbed before each permutation. -/
def rate : Nat := 136

/-- The message followed by the octet `1`, zeros and a set highest bit, in whole blocks. -/
def pad (message : Bytes) : Bytes :=
  let free := rate - message.length % rate
  if free = 1 then message ++ [0x81]
  else message ++ 0x01 :: Bytes.zeros (free - 2) ++ [0x80]

/-- The lane that eight octets denote, least significant first. -/
def laneOfBytes (octets : Bytes) : UInt64 :=
  UInt64.ofNat (Bytes.toNat octets.reverse)

/-- The octets of a lane, least significant first. -/
def bytesOfLane (lane : UInt64) : Bytes :=
  (Bytes.ofNat 8 lane.toNat).reverse

/-- The state with one block added to its first lanes and then permuted. -/
def absorbBlock (lanes : Lanes) (block : Bytes) : Lanes :=
  permute <| (List.range 25).map fun i =>
    lanes.at i ^^^ laneOfBytes ((block.drop (8 * i)).take 8)

/-- The state after absorbing the given number of blocks. -/
def absorb (lanes : Lanes) : (blocks : Nat) → (message : Bytes) → Lanes
  | 0, _ => lanes
  | blocks + 1, message =>
    absorb (absorbBlock lanes (message.take rate)) blocks (message.drop rate)

/-- The hash of a message: 32 octets. -/
def hash256 (message : Bytes) : Bytes :=
  let padded := pad message
  let lanes := absorb (List.replicate 25 0) (padded.length / rate) padded
  (lanes.take 4).flatMap bytesOfLane

end StakingGateway.Keccak
