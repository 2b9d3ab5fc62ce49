/-
The ClientHello message of TLS, as far as the server name goes: what the
client says, and the record that carries it. A value of these types is a
well-formed message: every length fits the field that declares it, and
`encode` writes each length from the data it covers.
-/
import Dstack.Lib.Bytes

namespace Dstack.Lib.Tls

/-- A vector: its length in `n` bytes, and its bytes. -/
def vector (n : Nat) (data : Bytes) : Bytes := beBytes n data.length ++ data

/-- An entry of the server name list. -/
structure ServerName where
  nameType : Nat
  name : Bytes
  nameType_lt : nameType < 256 ^ 1
  name_lt : name.length < 256 ^ 2

namespace ServerName

def encode (s : ServerName) : Bytes := beBytes 1 s.nameType ++ vector 2 s.name

/-- The entry is a host name, the one type there is. -/
def isHostName (s : ServerName) : Bool := s.nameType = 0

end ServerName

/-- An extension; the one of type 0 is a list of names. -/
inductive Extension where
  | serverNames (names : List ServerName)
      (fits : (vector 2 (names.flatMap ServerName.encode)).length < 256 ^ 2)
  | other (type : Nat) (data : Bytes) (type_ne : type ≠ 0) (type_lt : type < 256 ^ 2)
      (fits : data.length < 256 ^ 2)

namespace Extension

def encode : Extension → Bytes
  | .serverNames names _ =>
    beBytes 2 0 ++ vector 2 (vector 2 (names.flatMap ServerName.encode))
  | .other type data _ _ _ => beBytes 2 type ++ vector 2 data

/-- The names of an extension that has them. -/
def serverNames? : Extension → Option (List ServerName)
  | .serverNames names _ => some names
  | .other _ _ _ _ _ => none

end Extension

/-- The body of the message, with every vector of a length that its own length
field can say. -/
structure ClientHello where
  legacyVersion : Bytes
  random : Bytes
  sessionId : Bytes
  cipherSuites : Bytes
  compressionMethods : Bytes
  extensions : Option (List Extension)
  legacyVersion_length : legacyVersion.length = 2
  random_length : random.length = 32
  sessionId_lt : sessionId.length < 256 ^ 1
  cipherSuites_lt : cipherSuites.length < 256 ^ 2
  compressionMethods_lt : compressionMethods.length < 256 ^ 1
  extensions_lt : ∀ exts ∈ extensions, (exts.flatMap Extension.encode).length < 256 ^ 2

namespace ClientHello

/-- The extensions with their length, or nothing at all. -/
def extensionsBlock (h : ClientHello) : Bytes :=
  match h.extensions with
  | none => []
  | some exts => vector 2 (exts.flatMap Extension.encode)

def encode (h : ClientHello) : Bytes :=
  h.legacyVersion ++ h.random ++ vector 1 h.sessionId ++ vector 2 h.cipherSuites
    ++ vector 1 h.compressionMethods ++ h.extensionsBlock

/-- The handshake message around the body. -/
def message (h : ClientHello) : Bytes := beBytes 1 1 ++ vector 3 h.encode

/-- The first host name of the first list of names. -/
def hostName (h : ClientHello) : Option Bytes := do
  let exts ← h.extensions
  let names ← exts.findSome? Extension.serverNames?
  let entry ← names.find? ServerName.isHostName
  pure entry.name

end ClientHello

/-- A record that carries the whole message. -/
structure Record where
  version : Bytes
  hello : ClientHello
  version_length : version.length = 2
  hello_lt : hello.message.length < 256 ^ 2

def Record.encode (r : Record) : Bytes := 0x16 :: r.version ++ vector 2 r.hello.message

end Dstack.Lib.Tls
