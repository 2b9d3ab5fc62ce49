/-
The first byte of a MessagePack value (`rmp::Marker`).
-/
import Dstack.Lib.Bytes

namespace Dstack.Lib

/-- What kind of value follows. -/
inductive Marker where
  | fixPos (n : Nat)
  | fixNeg (n : Nat)
  | fixMap (len : Nat)
  | fixArray (len : Nat)
  | fixStr (len : Nat)
  | null
  | reserved
  | false
  | true
  | bin8
  | bin16
  | bin32
  | ext8
  | ext16
  | ext32
  | f32
  | f64
  | u8
  | u16
  | u32
  | u64
  | i8
  | i16
  | i32
  | i64
  | fixExt1
  | fixExt2
  | fixExt4
  | fixExt8
  | fixExt16
  | str8
  | str16
  | str32
  | array16
  | array32
  | map16
  | map32
  deriving DecidableEq

namespace Marker

/-- The markers from `0xc0` to `0xdf`. -/
def named : List Marker :=
  [.null, .reserved, .false, .true, .bin8, .bin16, .bin32, .ext8, .ext16, .ext32, .f32, .f64,
    .u8, .u16, .u32, .u64, .i8, .i16, .i32, .i64, .fixExt1, .fixExt2, .fixExt4, .fixExt8,
    .fixExt16, .str8, .str16, .str32, .array16, .array32, .map16, .map32]

/-- `Marker::from_u8`. -/
def ofByte (b : UInt8) : Marker :=
  let n := b.toNat
  if n < 0x80 then .fixPos n
  else if n < 0x90 then .fixMap (n - 0x80)
  else if n < 0xa0 then .fixArray (n - 0x90)
  else if n < 0xc0 then .fixStr (n - 0xa0)
  else if n < 0xe0 then named.getD (n - 0xc0) .reserved
  else .fixNeg (0x100 - n)

end Marker

end Dstack.Lib
