/-!
# Subscriber tokens

A subscriber is known by a number of sixty-four bits. A counter gives out numbers that it has not
given before.
-/

set_option autoImplicit false

namespace ModuleRuntime.Event

/-- The number of a subscriber. -/
structure Token where
  raw : UInt64
  deriving DecidableEq

namespace Token

/-- The number behind a hash sign. -/
def text (t : Token) : String :=
  "#" ++ toString t.raw.toNat

/-- The token as diagnostics show it. -/
def debugText (t : Token) : String :=
  "RtSubscriberToken(" ++ toString t.raw.toNat ++ ")"

/-- The tokens in ascending order. -/
def sort (tokens : List Token) : List Token :=
  tokens.mergeSort fun a b => decide (a.raw ≤ b.raw)

/-- A token that was not given out before, and the counter after it. -/
def fresh (counter : UInt64) : Token × UInt64 :=
  (⟨counter⟩, counter + 1)

/-- A number of fresh tokens. -/
def freshTokens : Nat → UInt64 → List Token
  | 0, _ => []
  | n + 1, counter => (fresh counter).1 :: freshTokens n (fresh counter).2

end Token

end ModuleRuntime.Event
