import PermissionContexts.Text.Blank
import PermissionContexts.Text.HiddenTable

/-! # Quoted text

    Messages show a text between double quotes so that nothing in it is
    invisible: quote, backslash, NUL, tab, line feed and carriage return have
    short escapes, and every other hidden character is written by its code
    point, `\u` and the lower-case hexadecimal digits in braces.
-/

namespace PermissionContexts.Text

/-- The lower-case hexadecimal digits of `n`, without leading zeros. -/
def hexDigits (n : Nat) : List Char :=
  Nat.toDigits 16 n

/-- Whether `c` has no visible form of its own. -/
def isHidden (c : Char) : Bool :=
  inRanges hiddenRanges c.toNat

/-- How one character stands inside a quoted text. -/
def quoteChar (c : Char) : List Char :=
  if c = Char.ofNat 0 then ['\\', '0']
  else if c = '\t' then ['\\', 't']
  else if c = '\n' then ['\\', 'n']
  else if c = '\r' then ['\\', 'r']
  else if c = '"' then ['\\', '"']
  else if c = '\\' then ['\\', '\\']
  else if isHidden c then ['\\', 'u', '\x7b'] ++ hexDigits c.toNat ++ ['\x7d']
  else [c]

/-- `s` between double quotes. -/
def quote (s : List Char) : List Char :=
  '"' :: s.flatMap quoteChar ++ ['"']

/-- `s` between double quotes. -/
def quoted (s : String) : String :=
  String.ofList (quote s.toList)

end PermissionContexts.Text
