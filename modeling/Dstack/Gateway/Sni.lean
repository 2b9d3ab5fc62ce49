/-
Reading the server name off a TLS connection without terminating it
(`gateway/src/proxy/sni.rs`, and `take_sni` of `gateway/src/proxy.rs`).

The walk goes over the ClientHello with the parser library's primitives.
It reads the lengths of the record, of the handshake message, of the
extensions and of the server name list and uses none of them: each of its
two loops ends with a name or at the end of the buffer.
-/
import Dstack.Lib.Result
import Dstack.Lib.Sniffer

namespace Dstack.Gateway.Sni

open Lib

/-- The primitives of the `parcelona` library, with the bounds it documents.
Where one fails is of no interest to the walk. -/
structure Parcelona where
  takeLenBeU8 : Sniffer Nat
  takeLenBeU16 : Sniffer Nat
  takeLenBeU24 : Sniffer Nat
  takeRecord : Nat → Sniffer Bytes
  takeRecordBeU16 : Sniffer Bytes
  takeLenBeU8_eq : takeLenBeU8 = Sniffer.be 1
  takeLenBeU16_eq : takeLenBeU16 = Sniffer.be 2
  takeLenBeU24_eq : takeLenBeU24 = Sniffer.be 3
  takeRecord_eq : ∀ n, takeRecord n = Sniffer.take n
  takeRecordBeU16_eq : takeRecordBeU16 = (do Sniffer.take (← Sniffer.be 2))

def contentTypeHandshake : UInt8 := 0x16
def handshakeTypeClientHello : Nat := 1
def extensionTypeSni : Nat := 0
def nameTypeHostName : Nat := 0

section Walk

variable (P : Parcelona)

def takeRecordU8Len : Sniffer Bytes := do
  let len ← P.takeLenBeU8
  P.takeRecord len

def serverName : Sniffer (Option Bytes) := do
  let nameType ← P.takeLenBeU8
  let nameLeng ← P.takeLenBeU16
  let sni ← P.takeRecord nameLeng
  pure (if nameType ≠ nameTypeHostName then none else some sni)

def skipExtension (extLeng : Nat) : Sniffer (Option Bytes) :=
  if 0 < extLeng then do
    let _ ← P.takeRecord extLeng
    pure none
  else pure none

def serverNameList : Sniffer (Option Bytes) := do
  let _ ← P.takeLenBeU16
  some <$> Sniffer.untilSome (serverName P)

def extension : Sniffer (Option Bytes) := do
  let extType ← P.takeLenBeU16
  let extLeng ← P.takeLenBeU16
  if extType ≠ extensionTypeSni then skipExtension P extLeng else serverNameList P

def extensions : Sniffer Bytes := do
  let _ ← P.takeLenBeU16
  Sniffer.untilSome (extension P)

def helloBody : Sniffer Bytes := do
  let _ ← P.takeRecord 34
  let _ ← takeRecordU8Len P
  let _ ← P.takeRecordBeU16
  let _ ← takeRecordU8Len P
  extensions P

def handshake : Sniffer Bytes := do
  let c ← P.takeLenBeU8
  if c ≠ handshakeTypeClientHello then failure
  else do
    let _ ← P.takeLenBeU24
    helloBody P

def extractSniInner (b : Bytes) : Option (Nat × Bytes) :=
  if b.length < 10 then none
  else if b.head? ≠ some contentTypeHandshake then none
  else do
    let (sni, rest) ← handshake P (b.drop 5)
    pure (b.length - rest.length, sni)

def extractSni (b : Bytes) : Option Bytes := (extractSniInner P b).map Prod.snd

end Walk

-- == take_sni

def maxClientHelloBytes : Nat := 5 + 2 ^ 14

/-- A read of at most `space` bytes from a stream whose data arrives in
segments: nothing at the end of the stream. -/
def read (space : Nat) : List Bytes → Bytes × List Bytes
  | [] => ([], [])
  | segment :: later =>
    if segment.length ≤ space then (segment, later)
    else (segment.take space, segment.drop space :: later)

def acceptSni (isDnsName : String → Bool) (sni : Bytes) : Result String := do
  let sni ← Result.ofOption (fromUtf8 sni) "sni: invalid utf-8"
  Result.ensure (isDnsName sni = true)
    ("sni is not a valid dns name (" ++ toString (utf8 sni).length ++ " bytes)")
  pure sni

def growBuffer (dataLen bufferLen : Nat) : Nat :=
  if dataLen = bufferLen then min (bufferLen * 2) maxClientHelloBytes else bufferLen

def takeSniLoop (P : Parcelona) (isDnsName : String → Bool) :
    Nat → Nat → Bytes → List Bytes → Result (Option String × Bytes)
  | 0, _, data, _ => .ok (none, data)
  | reads + 1, bufferLen, data, segments =>
    if data.length = bufferLen ∧ maxClientHelloBytes ≤ bufferLen then
      .error ("no sni in the first " ++ toString maxClientHelloBytes
        ++ " bytes of the client hello")
    else
      let bufferLen := growBuffer data.length bufferLen
      let (n, segments) := read (bufferLen - data.length) segments
      if n = [] then .ok (none, data)
      else
        let data := data ++ n
        match extractSni P data with
        | some sni => do
            let sni ← acceptSni isDnsName sni
            pure (some sni, data)
        | none => takeSniLoop P isDnsName reads bufferLen data segments

/-- A read takes at least one byte, so there are no more reads than bytes
and the one that finds the end of the stream. -/
def takeSni (P : Parcelona) (isDnsName : String → Bool) (segments : List Bytes) :
    Result (Option String × Bytes) :=
  takeSniLoop P isDnsName (segments.flatten.length + 1) 4096 [] segments

end Dstack.Gateway.Sni
