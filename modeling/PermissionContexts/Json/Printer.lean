import PermissionContexts.Json.Basic
import PermissionContexts.Text.Quoted

/-! # Writing JSON

    Two layouts of the same text: `compact` on one line without blanks, and
    `pretty` with one member or item a line, indented by two spaces a level, where
    an empty array or object stays `[]` or `{}`.

    Inside a text only the quote, the backslash and the characters below U+0020
    are escaped. Both layouts are **assumed** of the library that writes the texts of
    the program.
-/

namespace PermissionContexts.Json

/-- The two lower-case hexadecimal digits of a number below 256. -/
def hexPair (n : Nat) : List Char :=
  [Nat.digitChar (n / 16), Nat.digitChar (n % 16)]

/-- How one character stands inside a written text. -/
def escapeChar (c : Char) : List Char :=
  if c = '"' then ['\\', '"']
  else if c = '\\' then ['\\', '\\']
  else if c = '\n' then ['\\', 'n']
  else if c = '\t' then ['\\', 't']
  else if c = '\r' then ['\\', 'r']
  else if c = Char.ofNat 8 then ['\\', 'b']
  else if c = Char.ofNat 12 then ['\\', 'f']
  else if c.toNat < 0x20 then '\\' :: 'u' :: '0' :: '0' :: hexPair c.toNat
  else [c]

/-- A text between quotes. -/
def textChars (s : String) : List Char :=
  '"' :: s.toList.flatMap escapeChar ++ ['"']

/-- A value that holds no other values. -/
def leafChars : Json → List Char
  | .null => ['n', 'u', 'l', 'l']
  | .bool true => ['t', 'r', 'u', 'e']
  | .bool false => ['f', 'a', 'l', 's', 'e']
  | .int n => Decimal.intChars n
  | .float d => d.chars
  | .str s => textChars s
  | .arr _ => ['[', ']']
  | .obj _ => ['\x7b', '\x7d']

mutual

/-- The compact text of a value. -/
def compactChars : Json → List Char
  | .arr [] => ['[', ']']
  | .arr (j :: rest) => '[' :: compactChars j ++ compactItems rest
  | .obj [] => ['\x7b', '\x7d']
  | .obj ((k, j) :: rest) => '\x7b' :: textChars k ++ ':' :: compactChars j ++ compactMembers rest
  | j => leafChars j

/-- The items after the first, and the closing bracket. -/
def compactItems : List Json → List Char
  | [] => [']']
  | j :: rest => ',' :: compactChars j ++ compactItems rest

/-- The members after the first, and the closing brace. -/
def compactMembers : List (String × Json) → List Char
  | [] => ['\x7d']
  | (k, j) :: rest => ',' :: textChars k ++ ':' :: compactChars j ++ compactMembers rest

end

/-- A new line at the given level. -/
def newLine (level : Nat) : List Char :=
  '\n' :: List.replicate (2 * level) ' '

mutual

/-- The indented text of a value whose first line stands at `level`. -/
def prettyChars (level : Nat) : Json → List Char
  | .arr [] => ['[', ']']
  | .arr (j :: rest) =>
    '[' :: newLine (level + 1) ++ prettyChars (level + 1) j ++ prettyItems level rest
  | .obj [] => ['\x7b', '\x7d']
  | .obj ((k, j) :: rest) =>
    '\x7b' :: newLine (level + 1) ++ textChars k ++ ':' :: ' ' :: prettyChars (level + 1) j
      ++ prettyMembers level rest
  | j => leafChars j

/-- The items after the first, and the closing bracket at `level`. -/
def prettyItems (level : Nat) : List Json → List Char
  | [] => newLine level ++ [']']
  | j :: rest =>
    ',' :: newLine (level + 1) ++ prettyChars (level + 1) j ++ prettyItems level rest

/-- The members after the first, and the closing brace at `level`. -/
def prettyMembers (level : Nat) : List (String × Json) → List Char
  | [] => newLine level ++ ['\x7d']
  | (k, j) :: rest =>
    ',' :: newLine (level + 1) ++ textChars k ++ ':' :: ' ' :: prettyChars (level + 1) j
      ++ prettyMembers level rest

end

/-- The value on one line. -/
def compact (j : Json) : String :=
  String.ofList (compactChars j)

/-- The value over several lines. -/
def pretty (j : Json) : String :=
  String.ofList (prettyChars 0 j)

end PermissionContexts.Json
