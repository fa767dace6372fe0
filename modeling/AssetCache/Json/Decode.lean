import AssetCache.Json.Parser

/-!
# Values of a type out of JSON

A record is an object with its fields in any order, or an array of its fields in their order.
Fields that the record does not have are passed over; one that it has may not come twice.
-/

namespace AssetCache.Json

def toString? : Json → Option String
  | .string text => text
  | _ => none

/-- An integer of 64 bits with a sign. -/
def toInt64? : Json → Option Int64
  | .integer n =>
    if Int64.minValue.toInt ≤ n && n ≤ Int64.maxValue.toInt then some (.ofInt n) else none
  | _ => none

/-- The word of an enumeration: a string, or an object with that word for its only field, and null
there. -/
def toWord? : Json → Option String
  | .string text => text
  | .object [(name, .null)] => name
  | _ => none

/-- A value that may be missing: null, or a value. -/
def toOption? {α : Type} (decode : Json → Option α) : Json → Option (Option α)
  | .null => some none
  | v => (decode v).map some

def toList? {α : Type} (decode : Json → Option α) : Json → Option (List α)
  | .array items => items.mapM decode
  | _ => none

/-- The value of a field, `none` inside where the field is not there, and no answer where it comes
twice. -/
def lookup? (name : String) : List (Option String × Json) → Option (Option Json)
  | fields =>
    match fields.filter fun f => f.1 == some name with
    | [] => some none
    | [f] => some (some f.2)
    | _ => none

/-- Array items as the values of a record's fields; no answer where there are more of them. -/
def align : (names : List String) → (items : List Json) → Option (List (Option Json))
  | [], [] => some []
  | [], _ :: _ => none
  | _ :: names, [] => (align names []).map (none :: ·)
  | _ :: names, v :: items => (align names items).map (some v :: ·)

/-- The values of a record's fields, in their order, `none` inside for one that is missing. -/
def toRecord? (names : List String) : Json → Option (List (Option Json))
  | .array items => align names items
  | .object fields =>
    if fields.any fun f => f.1.isNone then none else names.mapM fun name => lookup? name fields
  | _ => none

/-- The value of a field that must be there. -/
def required {α : Type} (decode : Json → Option α) : Option Json → Option α
  | some v => decode v
  | none => none

/-- The value of a field that has a default. -/
def optional {α : Type} (decode : Json → Option α) (default : α) : Option Json → Option α
  | some v => decode v
  | none => some default

end AssetCache.Json
