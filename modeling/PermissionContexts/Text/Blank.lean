/-! # Blank and control characters

    Two classes of characters decide what may stand in a context:

    * **Blank** characters are those of the Unicode property `White_Space`.
      They are cut off both ends of a key or a value.
    * **Control** characters are the two blocks U+0000 to U+001F and U+007F to
      U+009F. They may stand nowhere inside a key or a value.

    The classes overlap (a tab is both), and a blank that is no control
    character may stand between two other characters.
-/

namespace PermissionContexts.Text

/-- The code points of Unicode `White_Space`, as closed ranges in increasing
    order. -/
def blankRanges : List (Nat × Nat) :=
  [(0x9, 0xD), (0x20, 0x20), (0x85, 0x85), (0xA0, 0xA0), (0x1680, 0x1680), (0x2000, 0x200A),
   (0x2028, 0x2029), (0x202F, 0x202F), (0x205F, 0x205F), (0x3000, 0x3000)]

/-- Whether a code point lies in one of the closed ranges `rs`. -/
def inRanges (rs : List (Nat × Nat)) (n : Nat) : Bool :=
  rs.any fun r => r.1 ≤ n && n ≤ r.2

/-- Whether `c` is white space. -/
def isBlank (c : Char) : Bool :=
  inRanges blankRanges c.toNat

/-- Whether `c` is a control character. -/
def isControl (c : Char) : Bool :=
  inRanges [(0x0, 0x1F), (0x7F, 0x9F)] c.toNat

/-- `s` without the blanks at its start. -/
def trimStart (s : List Char) : List Char :=
  s.dropWhile isBlank

/-- `s` without the blanks at its end. -/
def trimEnd (s : List Char) : List Char :=
  (s.reverse.dropWhile isBlank).reverse

/-- `s` without the blanks at either end. -/
def trim (s : List Char) : List Char :=
  trimEnd (trimStart s)

end PermissionContexts.Text
