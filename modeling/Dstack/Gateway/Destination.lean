/-
Where a connection goes, as a name says it (`gateway/src/proxy.rs` and
`proxy/tls_passthough.rs`).

Under the gateway's own domain the first label of the server name is the
destination: an application id, and after a dash a port and a letter, `s`
for TLS that is passed through and `g` for HTTP/2.
-/
import Dstack.Lib.Decimal

namespace Dstack.Gateway

open Lib

structure DstInfo where
  appId : String
  port : Nat
  isTls : Bool
  isH2 : Bool
  deriving DecidableEq

def parseCanonicalPort (portStr : List Char) : Result Nat := do
  Result.ensure (¬ (portStr.head? = some '0' ∨ ¬ portStr.all Char.isDigit = true)) "invalid port"
  (parseU16 portStr).context "invalid port"

/-- The text before a last character (`str::strip_suffix`), and whether
it was there. -/
def splitSuffix (c : Char) (text : List Char) : List Char × Bool :=
  if text.getLast? = some c then (text.dropLast, true) else (text, false)

structure LastPart where
  port : Option Nat
  isTls : Bool
  isH2 : Bool
  deriving DecidableEq

def parseOptionalPort (portStr : List Char) : Result (Option Nat) :=
  if portStr = [] then pure none else some <$> parseCanonicalPort portStr

def parseLastPart (lastPart : List Char) : Result LastPart := do
  let (portStr, hasG) := splitSuffix 'g' lastPart
  let (portStr, hasS) := splitSuffix 's' portStr
  Result.ensure (¬ (hasG = true ∧ hasS = true)) "invalid sni format: `gs` is not allowed"
  let port ← parseOptionalPort portStr
  pure ⟨port, hasS, hasG⟩

def parseOptionalPart : Option (List Char) → Result LastPart
  | none => pure ⟨none, false, false⟩
  | some lastPart => parseLastPart lastPart

def parseDstInfo (subdomain : String) : Result DstInfo :=
  match subdomain.toList.splitOn '-' with
  | [] => .error "no app id found"
  | appId :: parts => do
      Result.ensure (appId ≠ []) "app id is empty"
      let last ← parseOptionalPart parts.head?
      let port := last.port.getD (if last.isTls then 443 else 80)
      Result.ensure (parts.tail = []) "invalid sni format"
      pure ⟨String.ofList appId, port, last.isTls, last.isH2⟩

end Dstack.Gateway
