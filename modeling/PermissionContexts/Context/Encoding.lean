import PermissionContexts.Context.Set
import PermissionContexts.Json.Shape

/-! # Contexts as JSON

    A context is an object with a key and a value, and a set an object with the
    values of each key. A context is decoded with all checks, so that what is read
    is in normal form whatever was written; a set drops what is not valid, as it
    does with any raw pairs.
-/

namespace PermissionContexts

namespace SatisfyMode

/-- The modes by their written names. -/
def names : List (String × SatisfyMode) :=
  [("at_least_one_value_per_key", .atLeastOneValuePerKey),
    ("all_values_per_key", .allValuesPerKey)]

/-- The written name of a mode. -/
def name : SatisfyMode → String
  | .atLeastOneValuePerKey => "at_least_one_value_per_key"
  | .allValuesPerKey => "all_values_per_key"

/-- Decodes a mode. -/
def ofJson : Json → Except ShapeFault SatisfyMode :=
  Json.asChoice names

end SatisfyMode

namespace Context

/-- The context as JSON. -/
def toJson (c : Context) : Json :=
  .obj [("key", .str c.key), ("value", .str c.value)]

/-- The context of a raw pair that was decoded. -/
def ofDecoded (key value : String) : Except ShapeFault Context :=
  match ofRaw key value with
  | .ok c => .ok c
  | .error e => .error (.refused e.message)

/-- Decodes a context from an object, or from an array with key and value. -/
def ofJson : Json → Except ShapeFault Context
  | .obj ms => do
    let key ← Json.optional ms "key" Json.asText
    let value ← Json.optional ms "value" Json.asText
    let key ← Json.required "key" key
    let value ← Json.required "value" value
    ofDecoded key value
  | .arr [] => .error (.wrongLength 0 "struct Raw with 2 elements")
  | .arr [k] => do
    let _ ← k.asText
    .error (.wrongLength 1 "struct Raw with 2 elements")
  | .arr (k :: v :: rest) => do
    let key ← k.asText
    let value ← v.asText
    if rest.isEmpty then ofDecoded key value else .error (Json.tooLong (k :: v :: rest))
  | j => .error (j.mismatch "struct Raw")

end Context

namespace ContextSet

/-- The set as JSON: the values of each key. -/
def toJson (s : ContextSet) : Json :=
  .obj (s.groups.map fun g => (g.1, Json.strs g.2))

/-- Decodes a set; what is not valid is dropped. -/
def ofJson (j : Json) : Except ShapeFault ContextSet := do
  let table ← Json.asTable Json.asTexts j
  .ok (ofPairs (ungroup table))

/-- Decodes an array of raw pairs into the set of those that are valid. -/
def ofPairsJson (j : Json) : Except ShapeFault ContextSet := do
  let ps ← Json.asList Json.asTextPair j
  .ok (ofPairs ps)

end ContextSet

end PermissionContexts
