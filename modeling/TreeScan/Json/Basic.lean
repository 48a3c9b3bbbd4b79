import TreeScan.Decimal.Layout

/-!
# JSON values and their text

A value is rendered without blanks.  Members keep their order.  In a text only
the quote, the backslash and the controls are escaped.  Five controls have a
letter of their own.
-/

namespace TreeScan

/-- A JSON value. -/
inductive Json where
  | null
  | bool (value : Bool)
  | int (value : Int)
  | float (value : Float)
  | str (value : String)
  | array (items : List Json)
  | object (members : List (String × Json))

namespace Json

/-- One character of a text. -/
def escapeChar (c : Char) : List Char :=
  if c = '\x22' then ['\\', '\x22']
  else if c = '\\' then ['\\', '\\']
  else if c = '\x08' then ['\\', 'b']
  else if c = '\t' then ['\\', 't']
  else if c = '\n' then ['\\', 'n']
  else if c = '\x0c' then ['\\', 'f']
  else if c = '\r' then ['\\', 'r']
  else if c.toNat < 0x20 then
    ['\\', 'u', '0', '0', Nat.digitChar (c.toNat / 16), Nat.digitChar (c.toNat % 16)]
  else [c]

/-- A text between quotes. -/
def renderText (s : String) : List Char :=
  '\x22' :: s.toList.flatMap escapeChar ++ ['\x22']

mutual

/-- The text of a value. -/
def render : Json → List Char
  | .null => ['n', 'u', 'l', 'l']
  | .bool true => ['t', 'r', 'u', 'e']
  | .bool false => ['f', 'a', 'l', 's', 'e']
  | .int value => (toString value).toList
  | .float value => (Decimal.data.float value).toList
  | .str value => renderText value
  | .array items => '[' :: renderItems items ++ [']']
  | .object members => '\x7b' :: renderMembers members ++ ['\x7d']

/-- The items of an array, with commas between them. -/
def renderItems : List Json → List Char
  | [] => []
  | [item] => render item
  | item :: items => render item ++ ',' :: renderItems items

/-- The members of an object, with commas between them. -/
def renderMembers : List (String × Json) → List Char
  | [] => []
  | [(key, value)] => renderText key ++ ':' :: render value
  | (key, value) :: members => renderText key ++ ':' :: render value ++ ',' :: renderMembers members

end

/-- The text of a value as a string. -/
def text (v : Json) : String := String.ofList v.render

example : (object [("a", array [int (-1), bool true]), ("b", str "\"\n\x01")]).text
    = "\x7b\"a\":[-1,true],\"b\":\"\\\"\\n\\u0001\"\x7d" := by decide +kernel

end Json

end TreeScan
