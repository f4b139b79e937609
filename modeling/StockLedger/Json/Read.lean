import StockLedger.Json.Value

/-!
Reading JSON text. The grammar is RFC 8259: blanks are space, tab, line feed and
carriage return; numbers have no leading zeros and need digits after a point or an
exponent mark; strings may not hold control characters. Text that ends before a value
is complete is refused as ending too early, wherever it ends. At most ten thousand
arrays and objects may be open at once. Any other failure names
the first character that cannot continue the text, quoted, and what was being read
there; a bad escape in a string is named by its own text. A `\u` escape of half a
surrogate pair that is not completed by its other half reads as U+FFFD.
-/

namespace StockLedger

namespace Json

namespace Read

/-- Whether a character is JSON blank space. -/
def isBlank (c : Char) : Bool := c = ' ' || c = '\t' || c = '\n' || c = '\r'

/-- The message of a text that ended too early. -/
def unexpectedEnd : String := "unexpected end of JSON input"

/-- The message of a character that cannot continue the text. -/
def bad (c : Char) (context : String) : String := "invalid character " ++ Text.quoteChar c ++ " " ++ context

/-- Drops leading blanks. -/
def skip (cs : List Char) : List Char := cs.dropWhile isBlank

/-- The longest run of whole characters at the front of `cs` whose encoding fits in
`budget` bytes, and the bytes of the character cut off after them, if any. -/
def cut : Nat → List Char → List Char × List UInt8
  | _, [] => ([], [])
  | budget, c :: cs =>
    let w := c.utf8Size
    if w ≤ budget then
      let (whole, part) := cut (budget - w) cs
      (c :: whole, part)
    else ([], ((String.singleton c).toUTF8.toList.take budget))

/-- The message of a bad escape: the first `width` bytes from its backslash, between
backquotes when they are whole characters that print and hold no backquote or space,
else quoted with escapes, a cut-off character byte by byte. -/
def badEscape (width : Nat) (cs : List Char) : String :=
  let (whole, part) := cut width cs
  let plain := part.isEmpty && whole.all fun c =>
    c.toNat ≠ 0x60 && c ≠ ' ' && c.toNat ≠ 0xFFFD && Text.printable c
  let text :=
    if plain then "`" ++ String.ofList whole ++ "`"
    else "\"" ++ String.join (whole.map Text.escapeChar) ++
      String.join (part.map fun b => "\\x" ++ Text.hexPadded 2 b.toNat) ++ "\""
  "invalid escape sequence " ++ text ++ " in string"

/-- The rest of a literal after its first letter. -/
def literal (word : String) : List Char → List Char → Except String (List Char)
  | [], cs => .ok cs
  | e :: es, c :: cs =>
    if c = e then literal word es cs
    else .error (bad c ("in literal " ++ word ++ " (expecting " ++ Text.quoteChar e ++ ")"))
  | _ :: _, [] => .error unexpectedEnd

/-- Reads at least one digit, refusing anything else where the first must stand. -/
def digits (cs : List Char) : Except String (String × List Char) :=
  match cs with
  | d :: r =>
    if d.isDigit then .ok (String.ofList (d :: r.takeWhile Char.isDigit), r.dropWhile Char.isDigit)
    else .error (bad d "in numeric literal")
  | [] => .error unexpectedEnd

/-- Reads a number, returning its text. -/
def number (cs : List Char) : Except String (String × List Char) := do
  let (sign, cs) := match cs with
    | '-' :: r => ("-", r)
    | _ => ("", cs)
  let (whole, cs) ← match cs with
    | '0' :: r => pure ("0", r)
    | _ => digits cs
  let (frac, cs) ← match cs with
    | '.' :: r => do
      let (ds, r) ← digits r
      pure ("." ++ ds, r)
    | _ => pure ("", cs)
  let (expo, cs) ← match cs with
    | e :: r =>
      if e = 'e' ∨ e = 'E' then do
        let (s, r) := match r with
          | '+' :: r' => ("+", r')
          | '-' :: r' => ("-", r')
          | _ => ("", r)
        let (ds, r) ← digits r
        pure (e.toString ++ s ++ ds, r)
      else pure ("", cs)
    | [] => pure ("", cs)
  return (sign ++ whole ++ frac ++ expo, cs)

/-- The value of a hexadecimal digit. -/
def hexValue (c : Char) : Option Nat :=
  if '0' ≤ c ∧ c ≤ '9' then some (c.toNat - '0'.toNat)
  else if 'a' ≤ c ∧ c ≤ 'f' then some (c.toNat - 'a'.toNat + 10)
  else if 'A' ≤ c ∧ c ≤ 'F' then some (c.toNat - 'A'.toNat + 10)
  else none

/-- Reads four hexadecimal digits. -/
def hex4? (cs : List Char) : Option (Nat × List Char) :=
  match cs with
  | a :: b :: c :: d :: r =>
    match hexValue a, hexValue b, hexValue c, hexValue d with
    | some x, some y, some z, some w => some (((x * 16 + y) * 16 + z) * 16 + w, r)
    | _, _, _, _ => none
  | _ => none

/-- Reads the four hexadecimal digits of a `\u` escape; `cs` starts at its backslash.
Text that ends inside digits that could still complete the escape ends too early. -/
def unicodeEscape (cs : List Char) : Except String (Nat × List Char) :=
  let after := cs.drop 2
  match hex4? after with
  | some r => .ok r
  | none =>
    if after.length < 4 && after.all (fun c => (hexValue c).isSome) then .error unexpectedEnd
    else .error (badEscape 6 cs)

/-- The low half of a surrogate pair written as the next escape, if it is one. -/
def lowHalf? (cs : List Char) : Option (Nat × List Char) :=
  match cs with
  | '\\' :: 'u' :: r =>
    match hex4? r with
    | some (v, r') => if 0xDC00 ≤ v ∧ v < 0xE000 then some (v, r') else none
    | none => none
  | _ => none

/-- Reads the characters of a string after its opening quote. -/
def stringBody : Nat → List Char → List Char → Except String (String × List Char)
  | 0, _, _ => .error unexpectedEnd
  | _ + 1, _, [] => .error unexpectedEnd
  | fuel + 1, acc, c :: cs =>
    if c = '"' then .ok (String.ofList acc.reverse, cs)
    else if c = '\\' then
      match cs with
      | [] => .error unexpectedEnd
      | e :: r =>
        match e with
        | '"' => stringBody fuel ('"' :: acc) r
        | '\\' => stringBody fuel ('\\' :: acc) r
        | '/' => stringBody fuel ('/' :: acc) r
        | 'b' => stringBody fuel (Char.ofNat 8 :: acc) r
        | 'f' => stringBody fuel (Char.ofNat 12 :: acc) r
        | 'n' => stringBody fuel ('\n' :: acc) r
        | 'r' => stringBody fuel ('\r' :: acc) r
        | 't' => stringBody fuel ('\t' :: acc) r
        | 'u' =>
          match unicodeEscape (c :: cs) with
          | .error m => .error m
          | .ok (v, r) =>
            if 0xD800 ≤ v ∧ v < 0xDC00 then
              match lowHalf? r with
              | some (w, r') =>
                stringBody fuel (Char.ofNat (0x10000 + (v - 0xD800) * 0x400 + (w - 0xDC00)) :: acc) r'
              | none => stringBody fuel (Char.ofNat 0xFFFD :: acc) r
            else if 0xDC00 ≤ v ∧ v < 0xE000 then stringBody fuel (Char.ofNat 0xFFFD :: acc) r
            else stringBody fuel (Char.ofNat v :: acc) r
        | _ => .error (badEscape 2 (c :: cs))
    else if c.toNat < 0x20 then .error (bad c "in string")
    else stringBody fuel (c :: acc) cs

/-- The most arrays and objects that may be open at once. -/
def maxDepth : Nat := 10000

/-- The message of an array or object opened past the most that may be open at once. -/
def tooDeep : String := "exceeded max depth"

mutual
/-- Reads a value after any blanks, inside `depth` open arrays and objects. -/
def value : Nat → Nat → List Char → Except String (Json × List Char)
  | 0, _, _ => .error unexpectedEnd
  | fuel + 1, depth, cs =>
    match skip cs with
    | [] => .error unexpectedEnd
    | c :: r =>
      if c = '{' then
        if depth ≥ maxDepth then .error tooDeep else members fuel (depth + 1) [] (skip r) true
      else if c = '[' then
        if depth ≥ maxDepth then .error tooDeep else items fuel (depth + 1) [] (skip r) true
      else if c = '"' then (stringBody (r.length + 1) [] r).map fun (s, r) => (.string s, r)
      else if c = '-' ∨ c.isDigit then (number (c :: r)).map fun (n, r) => (.number n, r)
      else if c = 't' then (literal "true" ['r', 'u', 'e'] r).map fun r => (.bool true, r)
      else if c = 'f' then (literal "false" ['a', 'l', 's', 'e'] r).map fun r => (.bool false, r)
      else if c = 'n' then (literal "null" ['u', 'l', 'l'] r).map fun r => (.null, r)
      else .error (bad c "looking for beginning of value")

/-- Reads array items after `[`, or after a comma when `first` is false. -/
def items : Nat → Nat → List Json → List Char → Bool → Except String (Json × List Char)
  | 0, _, _, _, _ => .error unexpectedEnd
  | fuel + 1, depth, acc, cs, first =>
    match cs with
    | ']' :: r => if first then .ok (.array acc.reverse, r) else .error (bad ']' "looking for beginning of value")
    | _ =>
      match value fuel depth cs with
      | .error m => .error m
      | .ok (v, r) =>
        match skip r with
        | ',' :: r' => items fuel depth (v :: acc) (skip r') false
        | ']' :: r' => .ok (.array (v :: acc).reverse, r')
        | c :: _ => .error (bad c "after array element")
        | [] => .error unexpectedEnd

/-- Reads object members after `{`, or after a comma when `first` is false. -/
def members : Nat → Nat → List (String × Json) → List Char → Bool → Except String (Json × List Char)
  | 0, _, _, _, _ => .error unexpectedEnd
  | fuel + 1, depth, acc, cs, first =>
    match cs with
    | '}' :: r => if first then .ok (.object acc.reverse, r) else .error (bad '}' "looking for beginning of object key string")
    | '"' :: r =>
      match stringBody (r.length + 1) [] r with
      | .error m => .error m
      | .ok (k, r) =>
        match skip r with
        | ':' :: r' =>
          match value fuel depth r' with
          | .error m => .error m
          | .ok (v, r'') =>
            match skip r'' with
            | ',' :: r3 => members fuel depth ((k, v) :: acc) (skip r3) false
            | '}' :: r3 => .ok (.object ((k, v) :: acc).reverse, r3)
            | c :: _ => .error (bad c "after object key:value pair")
            | [] => .error unexpectedEnd
        | c :: _ => .error (bad c "after object key")
        | [] => .error unexpectedEnd
    | c :: _ => .error (bad c "looking for beginning of object key string")
    | [] => .error unexpectedEnd
end

end Read

/-- Reads a whole JSON text: one value with blanks around it. The reader spends a step
on each value and on each item or member it reads, and any two steps in a row read at
least one character, so twice the length of the text is enough steps. -/
def parse (text : String) : Except String Json :=
  let cs := text.toList
  match Read.value (2 * cs.length + 2) 0 cs with
  | .error m => .error m
  | .ok (v, rest) =>
    match Read.skip rest with
    | [] => .ok v
    | c :: _ => .error (Read.bad c "after top-level value")

end Json

end StockLedger
