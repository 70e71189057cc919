import ModuleRuntime.Text.Hexadecimal
import ModuleRuntime.Yaml.Character

/-!
# Scalars of YAML texts

How the value of a scalar is read in each style. Between two parts of a scalar that flows over lines
stands a gap of blanks and breaks: within a line the gap is kept, a single break is read as a space,
and of several breaks all but the first are kept.
-/

set_option autoImplicit false

namespace ModuleRuntime.Yaml

/-- How a scalar is written. -/
inductive Style where
  | plain
  | quoted
  | literal
  | folded
  deriving DecidableEq

/-- Blanks and breaks between two parts of a scalar. A gap can start with a break that is escaped,
which is read as nothing. -/
structure Gap where
  blanks : List Char
  broken : Bool
  first : Option Char
  others : List Char

namespace Gap

/-- Nothing between two parts. -/
def empty : Gap :=
  ⟨[], false, none, []⟩

/-- An escaped break. -/
def escaped : Gap :=
  ⟨[], true, none, []⟩

/-- The gap with a blank more; blanks around breaks do not count. -/
def addBlank (g : Gap) (c : Char) : Gap :=
  if g.broken then g else { g with blanks := g.blanks ++ [c] }

/-- The gap with a break more. -/
def addBreak (g : Gap) (c : Char) : Gap :=
  if g.broken then { g with others := g.others ++ [c] } else ⟨[], true, some c, []⟩

/-- What a gap is read as. -/
def value (g : Gap) : List Char :=
  if g.broken then
    match g.first with
    | none => g.others
    | some '\n' => if g.others.isEmpty then [' '] else g.others
    | some c => c :: g.others
  else g.blanks

end Gap

/-! ## Between quotes -/

/-- A part of the text between quotes. -/
inductive Atom where
  | char (c : Char)
  | blank (c : Char)
  | lineBreak (c : Char)
  | escapedBreak

/-- The character of a code in hexadecimal digits. -/
def codePoint? (digits : List Char) : Option Char := do
  let n ← Text.natOfHex? digits
  if (0xD800 ≤ n && n < 0xE000) || 0x10FFFF < n then none else some (Char.ofNat n)

/-- The character behind a backslash and a letter. -/
def escapedChar? : Char → Option Char
  | '0' => some (Char.ofNat 0)
  | 'a' => some (Char.ofNat 7)
  | 'b' => some (Char.ofNat 8)
  | 't' => some '\t'
  | '\t' => some '\t'
  | 'n' => some '\n'
  | 'v' => some (Char.ofNat 11)
  | 'f' => some (Char.ofNat 12)
  | 'r' => some '\r'
  | 'e' => some (Char.ofNat 27)
  | ' ' => some ' '
  | '"' => some '"'
  | '/' => some '/'
  | '\\' => some '\\'
  | 'N' => some (Char.ofNat 0x85)
  | '_' => some (Char.ofNat 0xA0)
  | 'L' => some (Char.ofNat 0x2028)
  | 'P' => some (Char.ofNat 0x2029)
  | _ => none

/-- A part before the others, and the text after them. -/
def consAtom (a : Atom) : List Atom × List Char → List Atom × List Char
  | (atoms, rest) => (a :: atoms, rest)

/-- The part of a single character that is no quote. -/
def plainAtom (c : Char) : Atom :=
  if isBlank c then .blank c else if isBreak c then .lineBreak (breakValue c) else .char c

/-- The parts up to the closing single quote and the text after it. A marker between documents may
not follow a break. -/
def singleQuoted? : List Char → Option (List Atom × List Char)
  | [] => none
  | '\'' :: '\'' :: rest => (singleQuoted? rest).map (consAtom (.char '\''))
  | '\'' :: rest => some ([], rest)
  | '\r' :: '\n' :: rest =>
    if startsMarker rest then none else (singleQuoted? rest).map (consAtom (.lineBreak '\n'))
  | c :: rest =>
    if isBreak c && startsMarker rest then none
    else (singleQuoted? rest).map (consAtom (plainAtom c))

/-- The parts up to the closing double quote and the text after it. -/
def doubleQuoted? : List Char → Option (List Atom × List Char)
  | [] => none
  | '"' :: rest => some ([], rest)
  | '\\' :: 'x' :: a :: b :: rest => do
    let c ← codePoint? [a, b]
    (doubleQuoted? rest).map (consAtom (.char c))
  | '\\' :: 'u' :: a :: b :: c :: d :: rest => do
    let c ← codePoint? [a, b, c, d]
    (doubleQuoted? rest).map (consAtom (.char c))
  | '\\' :: 'U' :: a :: b :: c :: d :: e :: f :: g :: h :: rest => do
    let c ← codePoint? [a, b, c, d, e, f, g, h]
    (doubleQuoted? rest).map (consAtom (.char c))
  | '\\' :: '\r' :: '\n' :: rest =>
    if startsMarker rest then none else (doubleQuoted? rest).map (consAtom .escapedBreak)
  | '\\' :: c :: rest =>
    if isBreak c then
      if startsMarker rest then none else (doubleQuoted? rest).map (consAtom .escapedBreak)
    else do
      let c ← escapedChar? c
      (doubleQuoted? rest).map (consAtom (.char c))
  | '\r' :: '\n' :: rest =>
    if startsMarker rest then none else (doubleQuoted? rest).map (consAtom (.lineBreak '\n'))
  | c :: rest =>
    if isBreak c && startsMarker rest then none
    else (doubleQuoted? rest).map (consAtom (plainAtom c))

/-- The value of the parts after a gap. -/
def joinAtoms (g : Gap) : List Atom → List Char
  | [] => g.value
  | .char c :: rest => g.value ++ c :: joinAtoms .empty rest
  | .blank c :: rest => joinAtoms (g.addBlank c) rest
  | .lineBreak c :: rest => joinAtoms (g.addBreak c) rest
  | .escapedBreak :: rest => g.value ++ joinAtoms .escaped rest

/-! ## Without quotes -/

/-- What has been read: a value, whether its end follows a break, and the text after it. -/
structure Reading where
  value : List Char
  afterBreak : Bool
  rest : List Char

/-- The reading with characters before it. -/
def Reading.prepend (text : List Char) (r : Reading) : Reading :=
  { r with value := text ++ r.value }

/-- Whether a plain scalar ends before a text. -/
def endsPlain (inFlow : Bool) : List Char → Bool
  | ':' :: rest => startsBlank rest
  | c :: _ => inFlow && [',', '[', ']', '\x7b', '\x7d'].contains c
  | [] => true

/-- Whether a colon stands before an indicator of a flow collection, where it may not. -/
def misplacedColon (inFlow : Bool) : List Char → Bool
  | ':' :: c :: _ => inFlow && [',', '?', '[', ']', '\x7b', '\x7d'].contains c
  | _ => false

/-- The rest of a plain scalar, after a gap. Outside flow collections every further line has to
stand at least at column `indent`; `fresh` tells that a gap or the start of the scalar comes right
before. -/
def plainFrom? (inFlow : Bool) (indent : Nat) (g : Gap) (fresh : Bool) (column : Nat) :
    List Char → Option Reading
  | [] => some ⟨[], g.broken, []⟩
  | '\r' :: '\n' :: rest => plainFrom? inFlow indent (g.addBreak '\n') true 0 rest
  | c :: rest =>
    if isBlank c then
      if c == '\t' && g.broken && column < indent then none
      else plainFrom? inFlow indent (g.addBlank c) true (column + 1) rest
    else if isBreak c then plainFrom? inFlow indent (g.addBreak (breakValue c)) true 0 rest
    else if fresh && ((g.broken && !inFlow && column < indent)
        || (column == 0 && startsMarker (c :: rest)) || c == '#') then
      some ⟨[], g.broken, c :: rest⟩
    else if misplacedColon inFlow (c :: rest) then none
    else if endsPlain inFlow (c :: rest) then some ⟨[], g.broken, c :: rest⟩
    else
      (plainFrom? inFlow indent .empty false (column + 1) rest).map
        (Reading.prepend (g.value ++ [c]))

/-! ## Blocks -/

/-- What becomes of the breaks at the end of a block. -/
inductive Chomping where
  | strip
  | clip
  | keep
  deriving DecidableEq

/-- The chomping that a sign stands for. -/
def chomping? : Char → Option Chomping
  | '-' => some .strip
  | '+' => some .keep
  | _ => none

/-- The chomping and the indentation that follow the indicator of a block, in either order. -/
def blockHeader? : List Char → Option (Chomping × Nat × List Char)
  | c :: rest =>
    match chomping? c with
    | some chomping =>
      match rest with
      | d :: rest' =>
        if d == '0' then none
        else if d.isDigit then some (chomping, d.toNat - 48, rest')
        else some (chomping, 0, rest)
      | [] => some (chomping, 0, [])
    | none =>
      if c == '0' then none
      else if c.isDigit then
        match rest with
        | d :: rest' =>
          match chomping? d with
          | some chomping => some (chomping, c.toNat - 48, rest')
          | none => some (.clip, c.toNat - 48, rest)
        | [] => some (.clip, c.toNat - 48, [])
      else some (.clip, 0, c :: rest)
  | [] => some (.clip, 0, [])

/-- The breaks of the empty lines at the head of a text. -/
structure Margin where
  breaks : List Char
  widest : Nat
  column : Nat
  rest : List Char

/-- The margin behind a break. -/
def Margin.afterBreak (c : Char) (column : Nat) (m : Margin) : Margin :=
  { m with breaks := c :: m.breaks, widest := max column m.widest }

/-- The empty lines at the head of a text and the indentation of the line after them, which is at
most `indent` columns where that is positive. A tab may not stand within it. -/
def margin? (indent column : Nat) : List Char → Option Margin
  | [] => some ⟨[], column, column, []⟩
  | '\r' :: '\n' :: rest => (margin? indent 0 rest).map (Margin.afterBreak '\n' column)
  | c :: rest =>
    if isBreak c then (margin? indent 0 rest).map (Margin.afterBreak (breakValue c) column)
    else if indent == 0 || column < indent then
      if c == ' ' then margin? indent (column + 1) rest
      else if c == '\t' then none
      else some ⟨[], column, column, c :: rest⟩
    else some ⟨[], column, column, c :: rest⟩

/-- The value that a break is read as, at the head of a text. -/
def headBreak : List Char → List Char
  | [] => []
  | c :: _ => if isBreak c then [breakValue c] else []

/-- How a break before a line and the empty lines after it are read. Where lines are folded a break
between two lines that start with no blank becomes a space. -/
def foldBreaks (style : Style) (before after : Bool) (first others : List Char) : List Char :=
  if style == .folded && first == ['\n'] && !before && !after then
    if others.isEmpty then [' '] else others
  else first ++ others

/-- The lines of a block from the given margin on: `first` is the break before it and `before` tells
whether the line before starts with a blank. -/
def blockLines? (style : Style) (chomping : Chomping) (indent : Nat) :
    Nat → Bool → List Char → Margin → Option (List Char × List Char)
  | 0, _, _, m => some ([], m.rest)
  | fuel + 1, before, first, m =>
    if m.column == indent && !m.rest.isEmpty then do
      let blank := (m.rest.head?.map isBlank).getD false
      let line := m.rest.takeWhile fun c => !isBreak c
      let after := m.rest.dropWhile fun c => !isBreak c
      let next ← margin? indent 0 (dropBreak after)
      let (value, rest) ← blockLines? style chomping indent fuel blank (headBreak after) next
      some (foldBreaks style before blank first m.breaks ++ line ++ value, rest)
    else
      let last := if chomping == .strip then [] else first
      let others := if chomping == .keep then m.breaks else []
      some (last ++ others, m.rest)

/-- The value of a block and the text after it, where `parent` is the column of what holds it. -/
def block? (style : Style) (parent : Option Nat) (text : List Char) :
    Option (List Char × List Char) := do
  let (chomping, increment, text) ← blockHeader? text
  let text := dropComment text
  if !startsBreak text then none
  else
    let least := (parent.map (· + 1)).getD 0
    let given := if increment == 0 then 0 else (parent.getD 0) + increment
    let m ← margin? given 0 (dropBreak text)
    let indent := if given == 0 then max (max m.widest least) 1 else given
    blockLines? style chomping indent text.length false [] m

end ModuleRuntime.Yaml
