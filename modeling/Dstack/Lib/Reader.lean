/-
Readers of binary data: consume bytes from the front or fail, keeping
the input at which reading failed (the `nom` combinators' complete
variants, whose error carries that input).
-/
import Dstack.Lib.Bytes

namespace Dstack.Lib

/-- A reader of what is at the front of its input. -/
abbrev Reader := StateT Bytes (Except Bytes)

namespace Reader

/-- Exactly `n` bytes. -/
def take (n : Nat) : Reader Bytes := fun input =>
  if input.length < n then .error input
  else .ok (input.take n, input.drop n)

/-- An `n`-byte integer, most significant byte first. -/
def be (n : Nat) : Reader Nat := beNat <$> take n

/-- `n` values in a row. -/
def replicate {α : Type} (r : Reader α) : Nat → Reader (List α)
  | 0 => pure []
  | n + 1 => do
      let a ← r
      let as ← replicate r n
      pure (a :: as)

end Reader

end Dstack.Lib
