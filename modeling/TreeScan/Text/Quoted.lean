import TreeScan.Text.Unprintable

/-!
# Quoted text

A quoted text stands between two quotes and can be read on one line.  The quote
itself and the backslash are written after a backslash, and so are the four
controls with a letter of their own.  Every other hidden character is written
by its code point in braces.
-/

namespace TreeScan.Text

/-- A code point in hexadecimal digits, lower case, without leading zeros. -/
def hexDigits (n : Nat) : List Char := Nat.toDigits 16 n

/-- One character of a text between two quotes. -/
def quoteChar (quote : Char) (c : Char) : List Char :=
  if c = '\x00' then ['\\', '0']
  else if c = '\t' then ['\\', 't']
  else if c = '\r' then ['\\', 'r']
  else if c = '\n' then ['\\', 'n']
  else if c = '\\' then ['\\', '\\']
  else if c = quote then ['\\', quote]
  else if isHidden c then ['\\', 'u', '\x7b'] ++ hexDigits c.toNat ++ ['\x7d']
  else [c]

/-- A text between two quotes. -/
def quote (quote : Char) (cs : List Char) : List Char :=
  quote :: cs.flatMap (quoteChar quote) ++ [quote]

/-- A string between double quotes. -/
def quoteString (s : String) : String := String.ofList (quote '\x22' s.toList)

/-- A character between single quotes. -/
def quoteSingle (c : Char) : String := String.ofList (quote '\x27' [c])

example : quoteString "it's \"\\\n\x0c" = "\"it's \\\"\\\\\\n\\u\x7bc\x7d\"" := by decide +kernel
example : quoteSingle '\x27' = "'\\''" := by decide +kernel
example : quoteSingle '\x22' = "'\"'" := by decide +kernel

end TreeScan.Text
