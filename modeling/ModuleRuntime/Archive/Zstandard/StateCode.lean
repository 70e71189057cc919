import ModuleRuntime.Archive.Unpacker

/-!
# State codes

Codes in which a symbol may take a part of a bit. A code is a table of states; each state stands for
a symbol and tells how many bits lead to the next state. How many states a symbol has goes by its
share of the table, which is a power of two long.
-/

set_option autoImplicit false

namespace ModuleRuntime.Archive.Zstandard

open Unpacker

/-- The share that a symbol has of the states. A rare symbol has one, which stands behind those of
all symbols that are not rare. -/
inductive Share where
  | states (count : Nat)
  | rare
  deriving DecidableEq

/-- How many states a share is. -/
def Share.count : Share → Nat
  | states count => count
  | rare => 1

/-- A state: its symbol, and how many bits are added to which number for the next state. -/
structure State where
  symbol : Nat
  bits : Nat
  base : Nat

/-- A code of `2 ^ log` states. -/
structure StateCode where
  log : Nat
  states : Array State

namespace StateCode

/-- The code that has only one symbol, which takes no bits. -/
def constant (symbol : Nat) : StateCode :=
  ⟨0, #[⟨symbol, 0, 0⟩]⟩

/-! ## Tables -/

/-- The symbols that fulfil a condition, each as often as it has states. -/
def occurrences (shares : List Share) (condition : Share → Bool) : List Nat :=
  shares.zipIdx.flatMap fun (share, symbol) =>
    if condition share then List.replicate share.count symbol else []

/-- The symbols of the states. Rare symbols fill the table from its end; the occurrences of the
others are spread over the places before those in equal steps. -/
def layout (log : Nat) (shares : List Share) : Array Nat :=
  let size := 2 ^ log
  let rare := occurrences shares (· == .rare)
  let others := occurrences shares (· != .rare)
  let step := size / 2 + size / 8 + 3
  let places := ((List.range size).map fun i => i * step % size).filter (· < size - rare.length)
  let placed := places.zip others ++ rare.zipIdx.map fun (symbol, i) => (size - 1 - i, symbol)
  placed.foldl (fun table (place, symbol) => table.setIfInBounds place symbol)
    (Array.replicate size 0)

/-- The states of a table. The states of a symbol are numbered from its count on; the fewer digits a
number has, the more bits are added for the next state, so that all of them together lead to every
state of the table once. -/
def statesFrom (log : Nat) (numbers : Array Nat) : List Nat → List State
  | [] => []
  | symbol :: rest =>
    let number := numbers.getD symbol 1
    let bits := log - number.log2
    ⟨symbol, bits, number * 2 ^ bits - 2 ^ log⟩
      :: statesFrom log (numbers.setIfInBounds symbol (number + 1)) rest

/-- The code of the symbols with the given shares. -/
def ofShares (log : Nat) (shares : List Share) : StateCode :=
  ⟨log, (statesFrom log (shares.map Share.count).toArray (layout log shares).toList).toArray⟩

/-! ## Descriptions -/

/-- A number up to one above what is left of the table, written in as few bits as can be. -/
def shareNumber (left : Nat) : Unpacker Nat := do
  let width := (left + 1).log2
  let spare := 2 ^ (width + 1) - 2 - left
  let low ← lowNumber width
  if low < spare then return low
  else if ← flag then return low + 2 ^ width - spare
  else return low

/-- How many more symbols without a share there are. -/
def absent : Nat → Unpacker Nat
  | 0 => damaged
  | fuel + 1 => do
    let count ← lowNumber 2
    if count < 3 then return count else return 3 + (← absent fuel)

/-- The shares of at most `limit` symbols in what is left of the table, the latest first
in `done`. -/
def sharesFrom (limit : Nat) : Nat → Nat → List Share → Unpacker (List Share)
  | 0, _, _ => damaged
  | fuel + 1, left, done => do
    if left = 0 then return done.reverse
    else if limit ≤ done.length then damaged
    else
      match ← shareNumber left with
      | 0 => sharesFrom limit fuel (left - 1) (.rare :: done)
      | 1 =>
        let more ← absent (limit + 1)
        sharesFrom limit fuel left (List.replicate (more + 1) (.states 0) ++ done)
      | n + 2 => sharesFrom limit fuel (left - (n + 1)) (.states (n + 1) :: done)

/-- A code that is described in whole octets: of at most `limit` symbols, in a table of at most
`2 ^ greatest` states. -/
def described (limit greatest : Nat) : Unpacker StateCode := do
  let log := 5 + (← lowNumber 4)
  if greatest < log then damaged
  let shares ← sharesFrom limit (limit + 1) (2 ^ log) []
  align
  return ofShares log shares

/-! ## Reading -/

/-- The state of a number. -/
def state (c : StateCode) (number : Nat) : Unpacker State :=
  present c.states[number]?

/-- The first state. -/
def first (c : StateCode) : Unpacker State := do
  c.state (← highNumber c.log)

/-- The state after another one. -/
def after (c : StateCode) (s : State) : Unpacker State := do
  c.state (s.base + (← highNumber s.bits))

end StateCode

end ModuleRuntime.Archive.Zstandard
