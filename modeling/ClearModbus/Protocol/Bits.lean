import ClearModbus.Protocol.Functions
import ClearModbus.Lib.BitString

/-!
# `pack_bits` and `unpack_bits`

The two loops of the source, with every index and every byte conversion checked as Python checks it,
and their reading as the bit strings of `BitString`.
-/

namespace ClearModbus

def bitsMasks : List Nat := [0x01, 0x02, 0x04, 0x08, 0x10, 0x20, 0x40, 0x80]

def unpackedBitsByByte : List (List Bool) :=
  (List.range 256).map fun byte => bitsMasks.map fun mask => byte &&& mask != 0

def packBit (values : List Bool) (base : Nat) (byte valueIndex : Nat) : Except PyError Nat := do
  let value ← getItem values valueIndex
  if value then
    let mask ← getItem bitsMasks ((valueIndex : Int) - base)
    return byte ||| mask
  else
    return byte

/-- The inner loop of `pack_bits`: the byte at `byteIndex`. -/
def packByte (values : List Bool) (byteIndex : Nat) : Except PyError Int := do
  let base := byteIndex * 8
  let stop := min (base + 8) values.length
  let byte ← (List.range' base (stop - base)).foldlM (packBit values base) 0
  return (byte : Int)

def packBits (values : List Bool) : Except PyError Bytes := do
  let payload ← (List.range ((values.length + 7) / 8)).mapM (packByte values)
  bytesOf payload

def unpackBits (data : Bytes) (count : Int) : Except PyError (List Bool) :=
  let requiredBytes := (count + 7) / 8
  if (data.length : Int) < requiredBytes then
    .error (.valueError "bit byte count is too short for requested count.")
  else do
    let fullBytes := count / 8
    let remainingBits := count % 8
    let full ← (slice data 0 fullBytes).mapM fun byte => getItem unpackedBitsByByte byte.toNat
    let values := full.flatten
    if remainingBits ≠ 0 then
      let byte ← getItem data fullBytes
      let bits ← getItem unpackedBitsByByte byte.toNat
      return values ++ slice bits 0 remainingBits
    else
      return values

end ClearModbus
