import PermissionContexts.Subject.World

/-! # Subjects

    A subject is an entity that permissions can be asked for. It belongs to the
    host: the library knows its identity and may look at its present state, which
    is part of the environment `ε` that host and calculators share. A capability
    that a subject does not have yields nothing.

    Identities are texts that the host hands over. For subjects that the host never
    named, `SubjectId.mint` makes one that sorts by the time of its making.
-/

namespace PermissionContexts

/-- The identity of a subject. -/
abbrev SubjectId := String

/-- A subject, seen through what it can tell about itself. -/
structure Subject (ε : Type) where
  /-- The identity, under which its contexts are kept. -/
  id : SubjectId
  /-- The world it stands in, if it has a location. -/
  location : ε → Option WorldView
  /-- Its game mode, if it has one. -/
  gameMode : ε → Option ResourceKey

namespace SubjectId

/-- The identity as messages show it. -/
def quotedText (id : SubjectId) : String :=
  "SubjectId(" ++ Text.quoted id ++ ")"

/-- The lowest `n` hexadecimal digits of `x`, the highest of them first. -/
def lowDigits (x n : Nat) : List Char :=
  (List.range n).reverse.map fun i => Nat.digitChar (x / Nat.pow 16 i % 16)

/-- A new identity, `subj_` and a UUID of version 7: 48 bits for the milliseconds
    since the epoch, then a counter of 42 bits and 32 bits that are random. Later
    milliseconds, and in one millisecond higher counters, sort later. -/
def mint (milliseconds counter random : Nat) : SubjectId :=
  let time := lowDigits milliseconds 12
  let high := counter / Nat.pow 2 30
  let low := counter % Nat.pow 2 30
  let body := lowDigits (0x80000000 + low) 8 ++ lowDigits random 8
  let groups := [time.take 8, time.drop 8, '7' :: lowDigits high 3, body.take 4, body.drop 4]
  "subj_" ++ "-".intercalate (groups.map String.ofList)

/-- Decodes an identity. -/
def ofJson : Json → Except ShapeFault SubjectId :=
  Json.asText

end SubjectId

end PermissionContexts
