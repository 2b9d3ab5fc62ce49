/-
What the authorization contracts share: the words of the virtual
machine, and the parts of the OpenZeppelin modules they inherit
(`Initializable`, `Ownable2Step`, `UUPSUpgradeable`), as documented.

A call is a function of its sender and the state. A failed `require` is
an error, and the ledger reverts the call with everything it did.
-/
import Dstack.Lib.Keccak
import Dstack.Lib.Ledger

namespace Dstack.Contracts

open Lib

abbrev Address := BitVec 160

abbrev Bytes32 := BitVec 256

/-- An address as a word (`bytes32(uint256(uint160(a)))`). -/
def addressWord (a : Address) : Bytes32 := a.setWidth 256

lemma addressWord_inj {a b : Address} : addressWord a = addressWord b ↔ a = b := by
  constructor
  · intro h
    apply BitVec.eq_of_toNat_eq
    have hn := congrArg BitVec.toNat h
    unfold addressWord at hn
    rwa [BitVec.toNat_setWidth, BitVec.toNat_setWidth,
      Nat.mod_eq_of_lt (Nat.lt_trans a.isLt (by decide)),
      Nat.mod_eq_of_lt (Nat.lt_trans b.isLt (by decide))] at hn
  · rintro rfl
    rfl

def setAt {κ α : Type} [DecidableEq κ] (f : κ → α) (k : κ) (a : α) : κ → α :=
  fun k' => if k = k' then a else f k'

structure Ownable where
  owner : Address := 0
  pendingOwner : Address := 0
  deriving DecidableEq

inductive BaseEvent where
  | initialized (version : Nat)
  | upgraded (implementation : Address)
  | ownershipTransferStarted (previousOwner newOwner : Address)
  | ownershipTransferred (previousOwner newOwner : Address)
  deriving DecidableEq

namespace Ownable

def onlyOwner (o : Ownable) (sender : Address) : Result Unit :=
  Result.ensure (o.owner = sender)
    ("OwnableUnauthorizedAccount(" ++ toString sender ++ ")")

def transfer (o : Ownable) (newOwner : Address) : Ownable × List BaseEvent :=
  (⟨newOwner, 0⟩, [.ownershipTransferred o.owner newOwner])

def initOwner (o : Ownable) (initialOwner : Address) :
    Result (Ownable × List BaseEvent) := do
  Result.ensure (initialOwner ≠ 0) "OwnableInvalidOwner(0)"
  pure (o.transfer initialOwner)

inductive Call where
  | transferOwnership (newOwner : Address)
  | acceptOwnership
  | renounceOwnership
  deriving DecidableEq

def call (sender : Address) (c : Call) (o : Ownable) :
    Result (Ownable × List BaseEvent) :=
  match c with
  | .transferOwnership newOwner => do
      o.onlyOwner sender
      pure ({ o with pendingOwner := newOwner },
        [.ownershipTransferStarted o.owner newOwner])
  | .acceptOwnership => do
      Result.ensure (o.pendingOwner = sender)
        ("OwnableUnauthorizedAccount(" ++ toString sender ++ ")")
      pure (o.transfer sender)
  | .renounceOwnership => do
      o.onlyOwner sender
      pure (o.transfer 0)

end Ownable

end Dstack.Contracts
