import PermissionContexts.Text.Quoted

/-! # Registries

    A registry is an ordered collection of named things, here the calculators. The
    order is that of registration, and no name is there twice. A snapshot is the
    list of entries itself, which later changes to the registry leave alone: it is
    a value, and that it shares memory with the registry until this is changed is
    no part of the model.
-/

namespace PermissionContexts

/-- Named things in the order of their registration. -/
structure Registry (α : Type) where
  /-- The names and what they stand for. -/
  entries : List (String × α)
deriving DecidableEq, Repr

/-- Why a registry or the process refuses something. -/
inductive EngineError where
  /-- The name is taken. -/
  | duplicateCalculator (name : String)
  /-- The manager of the process has been installed before. -/
  | alreadyInitialized
deriving DecidableEq, Repr

/-- The text that tells the error to a person. -/
def EngineError.message : EngineError → String
  | .duplicateCalculator name => "context calculator already registered: " ++ name
  | .alreadyInitialized => "context manager already initialized"

namespace Registry

variable {α : Type}

/-- The registry without entries. -/
def empty : Registry α := ⟨[]⟩

/-- The registered names, in order. -/
def names (r : Registry α) : List String :=
  r.entries.map Prod.fst

/-- Whether `name` is taken. -/
def has (r : Registry α) (name : String) : Bool :=
  r.entries.any fun e => e.1 = name

/-- How many entries there are. -/
def size (r : Registry α) : Nat :=
  r.entries.length

/-- Whether there are no entries. -/
def isEmpty (r : Registry α) : Bool :=
  r.entries.isEmpty

/-- Appends an entry, or refuses to when its name is taken. -/
def register (r : Registry α) (name : String) (a : α) : Except EngineError Unit × Registry α :=
  if r.has name then (.error (.duplicateCalculator name), r)
  else (.ok (), ⟨r.entries ++ [(name, a)]⟩)

/-- Removes the entry called `name` and tells whether there was one. -/
def unregister (r : Registry α) (name : String) : Bool × Registry α :=
  if r.has name then (true, ⟨r.entries.filter fun e => e.1 != name⟩) else (false, r)

/-- The entries as of now. -/
def snapshot (r : Registry α) : List (String × α) :=
  r.entries

/-- The names as messages show them. -/
def quotedText (r : Registry α) : String :=
  "CalculatorRegistry \x7b calculators: [" ++ ", ".intercalate (r.names.map Text.quoted)
    ++ "] \x7d"

end Registry

end PermissionContexts
