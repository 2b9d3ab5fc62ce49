/-
Rewriting a stored value without losing the fields of it that the writer
has never heard of (`gateway/src/kv/compat.rs`).

Values are MessagePack maps by field name. The bytes of a stored field
are copied as they are, so the module walks over values without reading
them. A position in a buffer is the rest of the buffer from there on.
The sums and products of the source cannot overflow: a length or count
has at most four bytes.
-/
import Dstack.Lib.MsgPack
import Dstack.Lib.Result

namespace Dstack.Gateway

open Lib

-- == values

/-- A big-endian unsigned integer of `size` bytes. -/
def readUint (s : Bytes) (size : Nat) : Option Nat :=
  if size ≤ s.length then some (beNat (s.take size)) else none

def extent (marker : Marker) (s : Bytes) : Option (Nat × Nat) :=
  match marker with
  | .fixPos _ | .fixNeg _ | .null | .true | .false => some (0, 0)
  | .u8 | .i8 => some (1, 0)
  | .u16 | .i16 => some (2, 0)
  | .u32 | .i32 | .f32 => some (4, 0)
  | .u64 | .i64 | .f64 => some (8, 0)
  | .fixStr len => some (len, 0)
  | .str8 | .bin8 => (readUint s 1).map fun n => (1 + n, 0)
  | .str16 | .bin16 => (readUint s 2).map fun n => (2 + n, 0)
  | .str32 | .bin32 => (readUint s 4).map fun n => (4 + n, 0)
  -- One type byte, then the payload.
  | .fixExt1 => some (1 + 1, 0)
  | .fixExt2 => some (1 + 2, 0)
  | .fixExt4 => some (1 + 4, 0)
  | .fixExt8 => some (1 + 8, 0)
  | .fixExt16 => some (1 + 16, 0)
  | .ext8 => (readUint s 1).map fun n => (1 + 1 + n, 0)
  | .ext16 => (readUint s 2).map fun n => (2 + 1 + n, 0)
  | .ext32 => (readUint s 4).map fun n => (4 + 1 + n, 0)
  | .fixArray len => some (0, len)
  | .array16 => (readUint s 2).map fun n => (2, n)
  | .array32 => (readUint s 4).map fun n => (4, n)
  | .fixMap len => some (0, len * 2)
  | .map16 => (readUint s 2).map fun n => (2, n * 2)
  | .map32 => (readUint s 4).map fun n => (4, n * 2)
  | .reserved => none

/-- Skip `pending` values. Each of them has a marker, so there are no more
rounds than bytes. -/
def skipPending : Nat → Nat → Bytes → Option Bytes
  | _, 0, s => some s
  | fuel + 1, pending + 1, b :: s => do
      let (payload, children) ← extent (.ofByte b) s
      if payload > s.length then none
      else if pending + children > s.length - payload then none
      else skipPending fuel (pending + children) (s.drop payload)
  | _, _, _ => none

def skipValue (s : Bytes) : Option Bytes := skipPending s.length 1 s

def readStr (s : Bytes) : Option String := do
  match Marker.ofByte (← s.head?) with
  | .fixStr _ => fromUtf8 (s.drop 1)
  | .str8 => fromUtf8 (s.drop 2)
  | .str16 => fromUtf8 (s.drop 3)
  | .str32 => fromUtf8 (s.drop 5)
  | _ => none

-- == maps

structure Field where
  name : String
  raw : Bytes
  deriving DecidableEq

def upTo (s rest : Bytes) : Bytes := s.take (s.length - rest.length)

/-- The first `count` fields of a buffer, and what is left. -/
def splitFields : Nat → Bytes → Option (List Field × Bytes)
  | 0, s => some ([], s)
  | count + 1, s => do
      let afterKey ← skipValue s
      let name ← readStr (upTo s afterKey)
      let rest ← skipValue afterKey
      let (fields, rest') ← splitFields count rest
      some (⟨name, upTo s rest⟩ :: fields, rest')

def mapHeader (s : Bytes) : Option (Nat × Nat) := do
  match Marker.ofByte (← s.head?) with
  | .fixMap n => some (1, n)
  | .map16 => (readUint (s.drop 1) 2).map fun n => (3, n)
  | .map32 => (readUint (s.drop 1) 4).map fun n => (5, n)
  | _ => none

def splitMap (buf : Bytes) : Option (Nat × List Field) := do
  let (headerLen, count) ← mapHeader buf
  let (fields, rest) ← splitFields count (buf.drop headerLen)
  -- Trailing bytes mean this is not the value we think it is.
  if rest = [] then some (headerLen, fields) else none

def writeMapHeader (count : Nat) : Option Bytes :=
  if count ≤ 15 then some [0x80 ||| .ofNat count]
  else if count ≤ 0xffff then some (0xde :: beBytes 2 count)
  else if count < 2 ^ 32 then some (0xdf :: beBytes 4 count)
  else none

-- == merge

/-- The fields of `stored` that a writer neither declares nor writes. -/
def carriedFields (declared : List String) (stored encoded : List Field) : List Field :=
  stored.filter fun field =>
    !declared.contains field.name && !encoded.any fun out => out.name = field.name

/-- A value with the fields of the stored one that its type does not
declare. Whenever that cannot be done safely, the value as it is. -/
def carryUnknownFields {T : Type} (decode : Bytes → Result T) (declared : List String)
    (stored encoded : Bytes) : Bytes :=
  match splitMap stored with
  | none => encoded
  | some (_, storedFields) =>
    if storedFields.all fun field => declared.contains field.name then encoded
    else
      match splitMap encoded with
      | none => encoded
      | some (headerLen, encodedFields) =>
        let carried := carriedFields declared storedFields encodedFields
        if carried.isEmpty then encoded
        else
          match writeMapHeader (encodedFields.length + carried.length) with
          | none => encoded
          | some header =>
            let out := header ++ encoded.drop headerLen ++ (carried.map (·.raw)).flatten
            -- Never write a record this binary cannot read back.
            match decode out with
            | .error _ => encoded
            | .ok _ => out

end Dstack.Gateway
