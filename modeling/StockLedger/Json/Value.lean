import StockLedger.Text.Quoted

/-!
JSON documents. A number keeps the text it was written with, so integers of any size
and the exact spelling of fractions survive reading. Objects keep their members in the
order written, duplicates included; what a repeated name means is left to the reader
of the document. Writing is compact, escapes what JSON requires and nothing else.
-/

namespace StockLedger

/-- A JSON document. -/
inductive Json where
  | null
  | bool (b : Bool)
  | number (literal : String)
  | string (s : String)
  | array (items : List Json)
  | object (members : List (String × Json))
deriving Repr, Inhabited

namespace Json

/-- The written form of a character inside a JSON string. -/
def escapeChar (c : Char) : String :=
  if c = '"' then "\\\""
  else if c = '\\' then "\\\\"
  else if c = '\n' then "\\n"
  else if c = '\r' then "\\r"
  else if c = '\t' then "\\t"
  else if c.toNat < 0x20 then "\\u" ++ Text.hexPadded 4 c.toNat
  else c.toString

/-- A JSON string literal. -/
def quote (s : String) : String :=
  "\"" ++ String.join (s.toList.map escapeChar) ++ "\""

/-- The written form of a character in text that may be embedded in markup: besides
what JSON requires, `<`, `>`, `&` and the line and paragraph separators are escaped,
and backspace and form feed take their short escapes. -/
def escapeSafe (c : Char) : String :=
  let n := c.toNat
  if n == 8 then "\\b"
  else if n == 12 then "\\f"
  else if c = '<' || c = '>' || c = '&' || n == 0x2028 || n == 0x2029 then "\\u" ++ Text.hexPadded 4 n
  else escapeChar c

/-- A JSON string literal safe to embed in markup. -/
def quoteSafe (s : String) : String :=
  "\"" ++ String.join (s.toList.map escapeSafe) ++ "\""

mutual
/-- The compact text of a document. -/
def render : Json → String
  | .null => "null"
  | .bool true => "true"
  | .bool false => "false"
  | .number n => n
  | .string s => quote s
  | .array items => "[" ++ renderItems items ++ "]"
  | .object ms => "\x7b" ++ renderMembers ms ++ "\x7d"

/-- Array items separated by commas. -/
def renderItems : List Json → String
  | [] => ""
  | [j] => render j
  | j :: rest => render j ++ "," ++ renderItems rest

/-- Object members separated by commas. -/
def renderMembers : List (String × Json) → String
  | [] => ""
  | [(k, v)] => quote k ++ ":" ++ render v
  | (k, v) :: rest => quote k ++ ":" ++ render v ++ "," ++ renderMembers rest
end

/-- The value of the last member with a name. -/
def field? (j : Json) (name : String) : Option Json :=
  match j with
  | .object ms => (ms.reverse.find? (·.1 == name)).map (·.2)
  | _ => none

/-- An integer as a number. -/
def ofInt (i : Int) : Json := .number (if i < 0 then "-" ++ Nat.repr i.natAbs else Nat.repr i.toNat)

/-- A stock figure as a number. -/
def ofInt64 (i : Int64) : Json := ofInt i.toInt

/-- A text, or null when absent. -/
def ofOption (s : Option String) : Json :=
  match s with
  | some v => .string v
  | none => .null

end Json

end StockLedger
