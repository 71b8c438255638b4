import PermissionContexts.Json.Basic

/-! # Reading JSON

    A text is read from left to right, and the first fault ends the reading.
    There are two kinds of faults:

    * **truncated**: the text ends where more has to follow, also a text that is
      empty or blank;
    * **malformed**: a character stands where it must not, a number is out of
      range, a surrogate escape is alone, or values are nested too deep.

    Blanks between the parts are the space, tab, line feed and carriage return,
    and no others. Of two members with one name the later counts. The number `-0`
    is no integer.

    The reader of the program is a library. This module writes down what is
    **assumed** of it: which texts are accepted, what value they stand for, the depth
    of `maxDepth`, and of a refused text the kind of the fault. Its messages, and the
    lines and columns in them, are left out.

    A function that reads part of a text returns the part read and the rest. The
    functions that call each other count down `fuel`. One unit is used up by
    each bracket, item and member, so that the length of the text is enough.
-/

namespace PermissionContexts

/-- Why a text is not JSON. -/
inductive JsonFault where
  /-- The text ends too early. -/
  | truncated
  /-- Something is there that must not be. -/
  | malformed
deriving DecidableEq, Repr

/-- The text that tells the fault to a person. -/
def JsonFault.message : JsonFault → String
  | .truncated => "the text ends too early"
  | .malformed => "something is out of place"

namespace Json

/-- The text without blanks at its start. -/
def skipBlanks (s : List Char) : List Char :=
  s.dropWhile fun c => c = ' ' || c = '\n' || c = '\t' || c = '\r'

/-- Reads the letters `word`. -/
def readWord : List Char → List Char → Except JsonFault (Unit × List Char)
  | [], s => .ok ((), s)
  | _ :: _, [] => .error .truncated
  | w :: word, c :: s => if c = w then readWord word s else .error .malformed

/-! ### Texts -/

/-- The value of a hexadecimal digit of either case. -/
def hexValue (c : Char) : Option Nat :=
  if '0' ≤ c ∧ c ≤ '9' then some (c.toNat - '0'.toNat)
  else if 'a' ≤ c ∧ c ≤ 'f' then some (c.toNat - 'a'.toNat + 10)
  else if 'A' ≤ c ∧ c ≤ 'F' then some (c.toNat - 'A'.toNat + 10)
  else none

/-- The number of bytes of a list of characters in UTF-8. -/
def byteLength (s : List Char) : Nat :=
  s.foldl (fun n c => n + c.utf8Size) 0

/-- Reads four hexadecimal digits. Where fewer than four bytes are left, the text
    is too short whatever they are. -/
def readHex4 (s : List Char) : Except JsonFault (Nat × List Char) :=
  if byteLength (s.take 4) < 4 then .error .truncated
  else
    match s with
    | a :: b :: c :: d :: rest =>
      match hexValue a, hexValue b, hexValue c, hexValue d with
      | some a, some b, some c, some d => .ok (((a * 16 + b) * 16 + c) * 16 + d, rest)
      | _, _, _, _ => .error .malformed
    | _ => .error .malformed

/-- Reads what follows `\u`. A leading surrogate has to be followed by the escape
    of a trailing one, and both stand for one character. -/
def readUnicodeEscape (s : List Char) : Except JsonFault (Char × List Char) := do
  let (n, s) ← readHex4 s
  if 0xDC00 ≤ n ∧ n ≤ 0xDFFF then .error .malformed
  else if n < 0xD800 ∨ 0xDBFF < n then .ok (Char.ofNat n, s)
  else
    match s with
    | [] => .error .truncated
    | '\\' :: [] => .error .truncated
    | '\\' :: 'u' :: s =>
      let (m, s) ← readHex4 s
      if m < 0xDC00 ∨ 0xDFFF < m then .error .malformed
      else .ok (Char.ofNat ((n - 0xD800) * 0x400 + (m - 0xDC00) + 0x10000), s)
    | _ => .error .malformed

/-- Reads what follows a backslash. -/
def readEscape : List Char → Except JsonFault (Char × List Char)
  | [] => .error .truncated
  | c :: s =>
    if c = '"' ∨ c = '\\' ∨ c = '/' then .ok (c, s)
    else if c = 'b' then .ok (Char.ofNat 8, s)
    else if c = 'f' then .ok (Char.ofNat 12, s)
    else if c = 'n' then .ok ('\n', s)
    else if c = 'r' then .ok ('\r', s)
    else if c = 't' then .ok ('\t', s)
    else if c = 'u' then readUnicodeEscape s
    else .error .malformed

/-- Reads the rest of a text up to its closing quote. -/
def readTextRest : Nat → List Char → Except JsonFault (List Char × List Char)
  | 0, _ => .error .truncated
  | _ + 1, [] => .error .truncated
  | fuel + 1, c :: s =>
    if c = '"' then .ok ([], s)
    else if c = '\\' then do
      let (c, s) ← readEscape s
      let (cs, s) ← readTextRest fuel s
      .ok (c :: cs, s)
    else if c.toNat < 0x20 then .error .malformed
    else do
      let (cs, s) ← readTextRest fuel s
      .ok (c :: cs, s)

/-- Reads a text whose opening quote has been read. -/
def readText (s : List Char) : Except JsonFault (String × List Char) := do
  let (cs, s) ← readTextRest (s.length + 1) s
  .ok (String.ofList cs, s)

/-! ### Numbers -/

/-- The digits at the start of a text, and the rest. -/
def takeDigits (s : List Char) : List Char × List Char :=
  (s.takeWhile Char.isDigit, s.dropWhile Char.isDigit)

/-- The value of a digit. -/
def digitValue (c : Char) : Nat :=
  c.toNat - '0'.toNat

/-- The number that digits stand for. -/
def digitsValue (ds : List Char) : Nat :=
  ds.foldl (fun n c => n * 10 + digitValue c) 0

/-- Reads at least one digit. -/
def readDigits (s : List Char) : Except JsonFault (List Char × List Char) :=
  match takeDigits s with
  | ([], []) => .error .truncated
  | ([], _ :: _) => .error .malformed
  | (ds, rest) => .ok (ds, rest)

/-- Reads the digits before the point. A zero stands alone. -/
def readWhole (s : List Char) : Except JsonFault (List Char × List Char) := do
  let (ds, rest) ← readDigits s
  match ds with
  | '0' :: _ :: _ => .error .malformed
  | _ => .ok (ds, rest)

/-- Reads the digits after the point, if there is a point. -/
def readFraction : List Char → Except JsonFault (Option (List Char) × List Char)
  | '.' :: s => do
    let (ds, rest) ← readDigits s
    .ok (some ds, rest)
  | s => .ok (none, s)

/-- Reads the sign of an exponent: whether it is a minus. -/
def readExponentSign : List Char → Bool × List Char
  | '+' :: s => (false, s)
  | '-' :: s => (true, s)
  | s => (false, s)

/-- Reads the exponent, if there is one. -/
def readExponent : List Char → Except JsonFault (Option Int × List Char)
  | [] => .ok (none, [])
  | c :: s =>
    if c = 'e' ∨ c = 'E' then do
      let (negative, s) := readExponentSign s
      let (ds, rest) ← readDigits s
      let e : Int := digitsValue ds
      .ok (some (if negative then -e else e), rest)
    else .ok (none, c :: s)

/-- The greatest number that digits are taken up to. -/
def maxSignificand : Nat := Nat.pow 2 64 - 1

/-- Takes up digits before the point, as long as the number stays in range. After
    that digits are only counted: the result is the number and how many digits were
    left out. -/
def takeUpWhole : Nat → List Char → Nat × Nat
  | n, [] => (n, 0)
  | n, c :: ds =>
    let next := n * 10 + digitValue c
    if next ≤ maxSignificand then takeUpWhole next ds else (n, ds.length + 1)

/-- Takes up digits after the point, as long as the number stays in range, and leaves
    out the others. The result is the number and how many digits were taken up. -/
def takeUpFraction : Nat → List Char → Nat × Nat
  | n, [] => (n, 0)
  | n, c :: ds =>
    let next := n * 10 + digitValue c
    if next ≤ maxSignificand then
      let r := takeUpFraction next ds
      (r.1, r.2 + 1)
    else (n, 0)

/-- The value of a number from the digits before and after the point and the
    exponent, or nothing when it is out of range. Without point and exponent it is
    an integer if it is in range, and no `-0`. -/
def ofDigits (negative : Bool) (whole : List Char) (fraction : Option (List Char))
    (exponent : Option Int) : Option Json :=
  let w := takeUpWhole 0 whole
  let isInteger := fraction.isNone ∧ exponent.isNone ∧ w.2 = 0
  if isInteger ∧ ¬negative then some (.int w.1)
  else if isInteger ∧ 0 < w.1 ∧ w.1 ≤ Nat.pow 2 63 then some (.int (-(w.1 : Int)))
  else
    let f := takeUpFraction w.1 (fraction.getD [])
    (Decimal.ofLiteral negative f.1 (w.2 - f.2 + exponent.getD 0)).map .float

/-- Reads a number. -/
def readNumber (s : List Char) : Except JsonFault (Json × List Char) := do
  let (negative, s) := match s with
    | '-' :: s => (true, s)
    | s => (false, s)
  let (whole, s) ← readWhole s
  let (fraction, s) ← readFraction s
  let (exponent, s) ← readExponent s
  match ofDigits negative whole fraction exponent with
  | some j => .ok (j, s)
  | none => .error .malformed

/-! ### Values -/

mutual

/-- Reads a value that may hold `depth` levels of arrays and objects. -/
def readValue : Nat → Nat → List Char → Except JsonFault (Json × List Char)
  | 0, _, _ => .error .truncated
  | fuel + 1, depth, s =>
    match skipBlanks s with
    | [] => .error .truncated
    | c :: s =>
      if c = 'n' then (readWord ['u', 'l', 'l'] s).map fun r => (.null, r.2)
      else if c = 't' then (readWord ['r', 'u', 'e'] s).map fun r => (.bool true, r.2)
      else if c = 'f' then (readWord ['a', 'l', 's', 'e'] s).map fun r => (.bool false, r.2)
      else if c = '"' then (readText s).map fun r => (.str r.1, r.2)
      else if c = '-' ∨ c.isDigit then readNumber (c :: s)
      else if c = '[' then
        match depth with
        | 0 => .error .malformed
        | depth + 1 => (readItems fuel depth true s).map fun r => (.arr r.1, r.2)
      else if c = '\x7b' then
        match depth with
        | 0 => .error .malformed
        | depth + 1 => (readMembers fuel depth true s).map fun r => (ofMembers r.1, r.2)
      else .error .malformed

/-- Reads the items of an array and its closing bracket. A comma stands before
    every item but the first. -/
def readItems : Nat → Nat → Bool → List Char → Except JsonFault (List Json × List Char)
  | 0, _, _, _ => .error .truncated
  | fuel + 1, depth, first, s =>
    match skipBlanks s with
    | [] => .error .truncated
    | c :: s =>
      if c = ']' then .ok ([], s)
      else if first then do
        let (j, s) ← readValue fuel depth (c :: s)
        let (js, s) ← readItems fuel depth false s
        .ok (j :: js, s)
      else if c = ',' then
        match skipBlanks s with
        | [] => .error .truncated
        | ']' :: _ => .error .malformed
        | s => do
          let (j, s) ← readValue fuel depth s
          let (js, s) ← readItems fuel depth false s
          .ok (j :: js, s)
      else .error .malformed

/-- Reads the members of an object and its closing brace. -/
def readMembers : Nat → Nat → Bool → List Char → Except JsonFault (List (String × Json) × List Char)
  | 0, _, _, _ => .error .truncated
  | fuel + 1, depth, first, s =>
    match skipBlanks s with
    | [] => .error .truncated
    | c :: s =>
      if c = '\x7d' then .ok ([], s)
      else if first then
        if c = '"' then readMember fuel depth s else .error .malformed
      else if c = ',' then
        match skipBlanks s with
        | [] => .error .truncated
        | '"' :: s => readMember fuel depth s
        | _ => .error .malformed
      else .error .malformed

/-- Reads a member whose opening quote has been read, and the members after
    it. -/
def readMember : Nat → Nat → List Char → Except JsonFault (List (String × Json) × List Char)
  | 0, _, _ => .error .truncated
  | fuel + 1, depth, s => do
    let (k, s) ← readText s
    match skipBlanks s with
    | [] => .error .truncated
    | ':' :: s => do
      let (j, s) ← readValue fuel depth s
      let (ms, s) ← readMembers fuel depth false s
      .ok ((k, j) :: ms, s)
    | _ => .error .malformed

end

/-- The deepest nesting of arrays and objects that a document may have. -/
def maxDepth : Nat := 127

/-- Reads a whole text that may nest `depth` levels deep. -/
def readWithin (depth : Nat) (text : String) : Except JsonFault Json := do
  let s := text.toList
  let (j, rest) ← readValue (3 * s.length + 3) depth s
  match skipBlanks rest with
  | [] => .ok j
  | _ :: _ => .error .malformed

/-- Reads a document. -/
def read (text : String) : Except JsonFault Json :=
  readWithin maxDepth text

end Json

end PermissionContexts
