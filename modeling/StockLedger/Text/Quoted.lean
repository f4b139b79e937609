import StockLedger.Text.Printable

/-!
Quoted text for messages that echo a caller's word back. The quote mark and backslash
get a backslash, a character that prints stands as it is, the usual control escapes are
named, other ASCII controls become `\xHH`, and every other character that does not print
becomes `\uHHHH` or `\UHHHHHHHH`. Text is quoted between double quotes, a single
character between single quotes.
-/

namespace StockLedger

namespace Text

/-- Lower-case hexadecimal digits of `n`, left-padded with zeros to `width`. -/
def hexPadded (width : Nat) (n : Nat) : String :=
  let ds := Nat.toDigits 16 n
  String.ofList (List.replicate (width - ds.length) '0' ++ ds)

/-- The written form of one character between the given quote marks. -/
def escapeWith (mark : Char) (c : Char) : String :=
  let n := c.toNat
  if c = mark || c = '\\' then "\\" ++ c.toString
  else if printable c then c.toString
  else if n == 7 then "\\a"
  else if n == 8 then "\\b"
  else if n == 12 then "\\f"
  else if c = '\n' then "\\n"
  else if c = '\r' then "\\r"
  else if c = '\t' then "\\t"
  else if n == 11 then "\\v"
  else if n < 0x20 || n == 0x7F then "\\x" ++ hexPadded 2 n
  else if n < 0x10000 then "\\u" ++ hexPadded 4 n
  else "\\U" ++ hexPadded 8 n

/-- The written form of one character inside double quotes. -/
def escapeChar (c : Char) : String := escapeWith '"' c

/-- Text between double quotes with every character escaped as `escapeChar` says. -/
def quote (s : String) : String :=
  "\"" ++ String.join (s.toList.map escapeChar) ++ "\""

/-- One character between single quotes, escaped the same way. -/
def quoteChar (c : Char) : String := "'" ++ escapeWith '\'' c ++ "'"

end Text

end StockLedger
