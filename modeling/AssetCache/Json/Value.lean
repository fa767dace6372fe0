/-!
# JSON values and their compact text

A value keeps the order of its fields and also repeated ones.  A string may name half of a surrogate
pair by an escape, which is no character: such a string is well formed as JSON but has no text.
Numbers are integers, or the literal of any other number, which nothing here computes with.
-/

namespace AssetCache

/-- A JSON value. -/
inductive Json where
  | null
  | bool (b : Bool)
  /-- A number that is written as an integer. -/
  | integer (n : Int)
  /-- Any other number, as it is written; `-0` too is one. -/
  | decimal (literal : String)
  /-- A string, `none` where it has no text. -/
  | string (text : Option String)
  | array (items : List Json)
  /-- Fields in order; a name is `none` where it has no text. -/
  | object (fields : List (Option String × Json))

namespace Json

def ofString (s : String) : Json := .string (some s)

def ofFields (fields : List (String × Json)) : Json :=
  .object (fields.map fun f => (some f.1, f.2))

/-- The number that a size is. -/
def ofNat (n : Nat) : Json := .integer n

/-- A character inside a string.  Only the quote, the backslash and controls are escaped. -/
def escape (c : Char) : List Char :=
  if c = '"' then ['\\', '"']
  else if c = '\\' then ['\\', '\\']
  else if c.toNat = 0x08 then ['\\', 'b']
  else if c.toNat = 0x0c then ['\\', 'f']
  else if c = '\n' then ['\\', 'n']
  else if c = '\r' then ['\\', 'r']
  else if c = '\t' then ['\\', 't']
  else if c.toNat < 0x20 then
    ['\\', 'u', '0', '0', Nat.digitChar (c.toNat / 16), Nat.digitChar (c.toNat % 16)]
  else [c]

def quote (s : String) : List Char := '"' :: s.toList.flatMap escape ++ ['"']

/-- A string that may have no text; then an escape that stands for nothing. -/
def quote? : Option String → List Char
  | some s => quote s
  | none => "\"\\ud800\"".toList

mutual

/-- The compact text of a value. -/
def renderChars : Json → List Char
  | .null => "null".toList
  | .bool true => "true".toList
  | .bool false => "false".toList
  | .integer n => (toString n).toList
  | .decimal literal => literal.toList
  | .string text => quote? text
  | .array items => '[' :: (renderItems items ++ [']'])
  | .object fields => '{' :: (renderFields fields ++ ['}'])

def renderItems : List Json → List Char
  | [] => []
  | [v] => renderChars v
  | v :: w :: rest => renderChars v ++ ',' :: renderItems (w :: rest)

def renderFields : List (Option String × Json) → List Char
  | [] => []
  | [(name, v)] => quote? name ++ ':' :: renderChars v
  | (name, v) :: f :: rest =>
    quote? name ++ ':' :: (renderChars v ++ ',' :: renderFields (f :: rest))

end

/-- The compact text of a value, as a string. -/
def render (v : Json) : String := String.ofList v.renderChars

end Json

end AssetCache
