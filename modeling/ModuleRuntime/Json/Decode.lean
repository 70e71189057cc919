import ModuleRuntime.Document
import ModuleRuntime.Json.Basic

/-!
# Decoding JSON

JSON values as documents. A record is an object in which no field stands twice and other members are
skipped, or an array with the fields in their order and nothing after them.
-/

set_option autoImplicit false

namespace ModuleRuntime.Json

/-- A value that may be null. -/
def present? : Json → Option (Option Json)
  | null => some none
  | meaningless => none
  | v => some (some v)

/-- The text of a string. -/
def text? : Json → Option String
  | string s => some s
  | _ => none

/-- A truth value. -/
def flag? : Json → Option Bool
  | bool b => some b
  | _ => none

/-- The items of an array. -/
def items? : Json → Option (List Json)
  | array items => some items
  | _ => none

/-- The members of an object. -/
def entries? : Json → Option (List (String × Json))
  | object members => some members
  | _ => none

/-- The fields of a record. -/
def record? (names : List String) : Json → Option (Record Json)
  | object members =>
    let known := members.filter fun m => names.contains m.1
    if (known.map Prod.fst).Nodup then some ⟨known, true⟩ else none
  | array items => if items.length ≤ names.length then some ⟨names.zip items, false⟩ else none
  | _ => none

instance : Document Json where
  present? := present?
  text? := text?
  flag? := flag?
  items? := items?
  entries? := entries?
  record? := record?

/-- An integer of a range. -/
def integer? (low high : Int) : Json → Option Int
  | number (.integer n) => if low ≤ n ∧ n ≤ high then some n else none
  | _ => none

/-- A natural number of 32 bits. -/
def word32? (v : Json) : Option UInt32 :=
  (v.integer? 0 (2 ^ 32 - 1)).map fun n => UInt32.ofNat n.toNat

end ModuleRuntime.Json
