/-
The addresses a gateway hands out and the settings routing reads
(`gateway/src/config.rs`).
-/
import Dstack.Lib.Result

namespace Dstack.Gateway

abbrev Ipv4Addr := Nat

structure Ipv4Net where
  addr : Ipv4Addr
  prefixLen : Nat
  deriving DecidableEq

namespace Ipv4Net

def size (n : Ipv4Net) : Nat := 2 ^ (32 - n.prefixLen)

def network (n : Ipv4Net) : Ipv4Addr := n.addr / n.size * n.size

def broadcast (n : Ipv4Net) : Ipv4Addr := n.network + (n.size - 1)

def contains (n : Ipv4Net) (ip : Ipv4Addr) : Bool :=
  decide (n.network ≤ ip ∧ ip ≤ n.broadcast)

def trunc (n : Ipv4Net) : Ipv4Net := ⟨n.network, n.prefixLen⟩

def containsNet (n m : Ipv4Net) : Bool :=
  decide (n.network ≤ m.network ∧ m.broadcast ≤ n.broadcast)

/-- The addresses for hosts, in order: all but the first and the last,
unless the network is too small for that. -/
def hosts (n : Ipv4Net) : List Ipv4Addr :=
  if n.prefixLen < 31 then (List.range (n.size - 2)).map fun i => n.network + 1 + i
  else (List.range n.size).map fun i => n.network + i

end Ipv4Net

structure WgConfig where
  publicKey : String
  ip : Ipv4Net
  reservedNet : List Ipv4Net
  clientIpRange : Ipv4Net
  deriving DecidableEq

namespace WgConfig

open Lib in
def validate (wg : WgConfig) : Result Unit := do
  Result.ensure (wg.reservedNet.all (wg.ip.containsNet ·) = true)
    "Reserved net is not in the network"
  Result.ensure (wg.reservedNet.any (·.contains wg.ip.addr) = true)
    "Wg peer IP is not in the reserved net"
  Result.ensure (wg.ip.trunc.containsNet wg.clientIpRange = true)
    "Client IP range is not in the network"

def isRoutableClientIp (wg : WgConfig) (ip : Ipv4Addr) : Bool :=
  if ip = 0 ∨ ip / 2 ^ 24 = 127 ∨ ip / 2 ^ 28 = 14 ∨ ip = 2 ^ 32 - 1 then false
  else if wg.ip.addr = ip ∨ wg.ip.broadcast = ip then false
  else if wg.reservedNet.any (·.contains ip) then false
  else true

def isValidClientIp (wg : WgConfig) (ip : Ipv4Addr) : Bool :=
  wg.clientIpRange.contains ip && wg.isRoutableClientIp ip

end WgConfig

structure Config where
  wg : WgConfig
  connectTopN : Nat
  cacheTopN : Nat
  handshakeStale : Nat
  healthCheckEnabled : Bool
  recycleTimeout : Nat
  insecureLocalhostBackend : Bool
  deriving DecidableEq

end Dstack.Gateway
