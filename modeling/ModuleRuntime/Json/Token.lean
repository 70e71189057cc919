import ModuleRuntime.Json.Numeral
import ModuleRuntime.Text.Hexadecimal
import ModuleRuntime.Text.Utf8

/-!
# Tokens of a JSON text

The text is a list of units: characters, and octets that make no character. The latter may stand
inside a string, which then has no value.
-/

set_option autoImplicit false

namespace ModuleRuntime.Json

/-- A token. A string or a literal that denotes nothing is still a token. -/
inductive Token where
  | openArray
  | closeArray
  | openObject
  | closeObject
  | comma
  | colon
  | string (value : Option String)
  | scalar (value : Json)

namespace Token

/-- A unit of the text: a character, or an octet sequence that is none. -/
abbrev Unit8 := Option Char

/-- The blanks between tokens. -/
def isBlank (u : Unit8) : Bool :=
  u == some ' ' || u == some '\n' || u == some '\t' || u == some '\r'

/-- The value of a decimal digit. -/
def digit? : Unit8 → Option Nat
  | some c => if c.isDigit then some (c.toNat - 48) else none
  | none => none

/-- The decimal digits at the head of a text. -/
def digits : List Unit8 → List Nat
  | [] => []
  | u :: rest =>
    match digit? u with
    | some d => d :: digits rest
    | none => []

/-- The places after a decimal point, of which there is at least one, and the rest of the text. -/
def places? : List Unit8 → Option (Option (List Nat) × List Unit8)
  | some '.' :: rest =>
    let ds := digits rest
    if ds.isEmpty then none else some (some ds, rest.drop ds.length)
  | s => some (none, s)

/-- The exponent, its sign first, and the rest of the text. -/
def exponent? : List Unit8 → Option (Bool × Option (List Nat) × List Unit8)
  | some c :: rest =>
    if c = 'e' || c = 'E' then
      let (negative, s) :=
        match rest with
        | some '-' :: s => (true, s)
        | some '+' :: s => (false, s)
        | s => (false, s)
      let ds := digits s
      if ds.isEmpty then none else some (negative, some ds, s.drop ds.length)
    else some (false, none, some c :: rest)
  | s => some (false, none, s)

/-- The numeral at the head of a text, and the rest of the text. A numeral has no zero before other
digits. -/
def numeral? (text : List Unit8) : Option (Numeral × List Unit8) := do
  let (negative, s) :=
    match text with
    | some '-' :: s => (true, s)
    | s => (false, s)
  let whole := digits s
  if whole.isEmpty || (whole.head? == some 0 && 1 < whole.length) then none
  else
    let (places, s) ← places? (s.drop whole.length)
    let (exponentNegative, exponent, s) ← exponent? s
    some (⟨negative, whole, places, exponentNegative, exponent⟩, s)

/-- The units of a string up to its closing quote. A control character ends the text. -/
def stringBody? : List Unit8 → Option (List Unit8)
  | [] => none
  | some '"' :: _ => some []
  | some '\\' :: u :: rest => (stringBody? rest).map fun body => some '\\' :: u :: body
  | none :: rest => (stringBody? rest).map (none :: ·)
  | some c :: rest => if c.toNat < 32 then none else (stringBody? rest).map (some c :: ·)

/-- A part of a string: a unit that stands for itself, or a sixteen bit unit given by its digits. -/
inductive Piece where
  | plain (u : Unit8)
  | half (n : Nat)

/-- The character behind a backslash and a letter. -/
def escaped? : Unit8 → Option Char
  | some '"' => some '"'
  | some '\\' => some '\\'
  | some '/' => some '/'
  | some 'b' => some (Char.ofNat 8)
  | some 'f' => some (Char.ofNat 12)
  | some 'n' => some '\n'
  | some 'r' => some '\r'
  | some 't' => some '\t'
  | _ => none

/-- The pieces of the body of a string, or nothing when an escape is unknown. -/
def pieces? : List Unit8 → Option (List Piece)
  | [] => some []
  | some '\\' :: some 'u' :: some a :: some b :: some c :: some d :: rest => do
    let n ← Text.natOfHex? [a, b, c, d]
    (pieces? rest).map (.half n :: ·)
  | some '\\' :: u :: rest => do
    let c ← escaped? u
    (pieces? rest).map (.plain (some c) :: ·)
  | u :: rest => (pieces? rest).map (.plain u :: ·)

/-- The characters of the pieces. Two halves that make a pair are one character; a half alone, or an
octet that is no character, leaves the string without a value. -/
def joined? : List Piece → Option (List Char)
  | [] => some []
  | .plain u :: rest => do
    let c ← u
    (joined? rest).map (c :: ·)
  | .half n :: rest =>
    if 0xD800 ≤ n && n < 0xDC00 then
      match rest with
      | .half m :: rest =>
        if 0xDC00 ≤ m && m < 0xE000 then
          (joined? rest).map
            (Char.ofNat (0x10000 + (n - 0xD800) * 0x400 + (m - 0xDC00)) :: ·)
        else none
      | _ => none
    else if 0xDC00 ≤ n && n < 0xE000 then none
    else (joined? rest).map (Char.ofNat n :: ·)

/-- The token that starts with a given unit, and how many of the units after it belong to it. -/
def lexeme? (u : Unit8) (rest : List Unit8) : Option (Token × Nat) :=
  match u, rest with
  | some '[', _ => some (openArray, 0)
  | some ']', _ => some (closeArray, 0)
  | some '\x7b', _ => some (openObject, 0)
  | some '\x7d', _ => some (closeObject, 0)
  | some ',', _ => some (comma, 0)
  | some ':', _ => some (colon, 0)
  | some 't', some 'r' :: some 'u' :: some 'e' :: _ => some (scalar (.bool true), 3)
  | some 'f', some 'a' :: some 'l' :: some 's' :: some 'e' :: _ => some (scalar (.bool false), 4)
  | some 'n', some 'u' :: some 'l' :: some 'l' :: _ => some (scalar .null, 3)
  | some '"', _ => do
    let body ← stringBody? rest
    let pieces ← pieces? body
    some (string ((joined? pieces).map String.ofList), body.length + 1)
  | u, _ => do
    let (numeral, after) ← numeral? (u :: rest)
    let value := (numeral.value?.map Json.number).getD .meaningless
    some (scalar value, rest.length - after.length)

/-- The tokens of a text whose first `skip` units belong to a token already met. -/
def tokensFrom? : Nat → List Unit8 → Option (List Token)
  | _, [] => some []
  | skip + 1, _ :: rest => tokensFrom? skip rest
  | 0, u :: rest =>
    if isBlank u then tokensFrom? 0 rest
    else do
      let (token, more) ← lexeme? u rest
      (tokensFrom? more rest).map (token :: ·)

/-- The tokens of a text. -/
def tokens? (text : List Unit8) : Option (List Token) :=
  tokensFrom? 0 text

end Token

end ModuleRuntime.Json
