import AssetCache.Unicode.Printable

/-!
# Quoted text

A text or a character between quotes, for diagnostics.  The quote, the backslash and the usual
controls are escaped with a backslash; a character that would not show, or that would join the
character before it, is written by its number.
-/

namespace AssetCache.Quoted

def numbered (c : Char) : List Char :=
  "\\u\x7b".toList ++ Nat.toDigits 16 c.toNat ++ ['}']

/-- A character inside quotes of one sort. -/
def escape (quote : Char) (c : Char) : List Char :=
  if c = '\x00' then ['\\', '0']
  else if c = '\t' then ['\\', 't']
  else if c = '\n' then ['\\', 'n']
  else if c = '\r' then ['\\', 'r']
  else if c = '\\' || c = quote then ['\\', c]
  else if Unicode.isGraphemeExtend c || !Unicode.isPrintable c then numbered c
  else [c]

def string (s : String) : String :=
  String.ofList ('"' :: s.toList.flatMap (escape '"') ++ ['"'])

def char (c : Char) : String := String.ofList ('\'' :: escape '\'' c ++ ['\''])

end AssetCache.Quoted
