import PermissionContexts.Text.Blank
import PermissionContexts.Text.CaseTable

/-! # Lower case

    The full lower-case mapping of Unicode. Two characters do not map on their
    own to one character:

    * **U+0130**, the capital I with a dot, becomes an `i` and the combining dot
      U+0307.
    * **U+03A3**, the capital sigma, becomes the final form U+03C2 at the end of
      a word and the ordinary form U+03C3 elsewhere. It ends a word when, leaving
      out case-ignorable characters, a cased character stands before it and none
      stands after it.
-/

namespace PermissionContexts.Text

/-- What the code point `n` becomes by the run `r` that may hold it. -/
def CaseRun.apply (r : CaseRun) (n : Nat) : Nat :=
  if r.first ≤ n ∧ (n - r.first) % r.stride = 0 then r.image + (n - r.first) else n

/-- The simple lower-case mapping on code points. -/
def lowerCode (n : Nat) : Nat :=
  match caseRuns.find? (fun r => n ≤ r.last) with
  | some r => r.apply n
  | none => n

/-- The capital sigma. -/
def sigma : Char := Char.ofNat 0x3A3

/-- The lower-case sigma inside a word. -/
def sigmaInner : Char := Char.ofNat 0x3C3

/-- The lower-case sigma at the end of a word. -/
def sigmaFinal : Char := Char.ofNat 0x3C2

/-- The lower-case form of a character that does not depend on its
    neighbours. -/
def lowerChar (c : Char) : List Char :=
  if c = Char.ofNat 0x130 then ['i', Char.ofNat 0x307] else [Char.ofNat (lowerCode c.toNat)]

/-- Whether the first character of `cs` that is not case-ignorable is there and
    cased. -/
def meetsCased (cs : List Char) : Bool :=
  match cs.dropWhile (fun c => inRanges caseIgnorableRanges c.toNat) with
  | c :: _ => inRanges casedRanges c.toNat
  | [] => false

/-- The lower-case form of a capital sigma with `before` to its left (nearest
    first) and `after` to its right. -/
def lowerSigma (before after : List Char) : Char :=
  if meetsCased before && !meetsCased after then sigmaFinal else sigmaInner

/-- The lower-case form of `rest`, where `before` stands to its left (nearest
    first). -/
def lowerAfter (before : List Char) : List Char → List Char
  | [] => []
  | c :: rest =>
    (if c = sigma then [lowerSigma before rest] else lowerChar c) ++ lowerAfter (c :: before) rest

/-- The lower-case form of `s`. -/
def lower (s : List Char) : List Char :=
  lowerAfter [] s

end PermissionContexts.Text
