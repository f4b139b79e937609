import StockLedger.Wire.Payload

/-!
Reading a request payload from its binary message form. A message is a run of fields,
each a tag (field number and wire type, as a varint) followed by a value whose layout the
wire type gives: a varint, eight bytes, a length and that many bytes, a group closed by
its end tag, or four bytes.

The payload map is field 1 of its message, repeated, each entry a message with the name
as field 1 and the value as field 2. A value message sets one kind: null (1), a number
as eight bytes (2), text (3), a flag (4), a nested map (5) or a list (6) whose items are
field 1 of its message. A later field of the same kind replaces a flag, number or text
and merges into a map or list; a field of another kind replaces the kind. A field with an
unknown number, or a known number with the wrong wire type, is skipped. Text must be
valid UTF-8. Anything malformed refuses the whole message.
-/

namespace StockLedger

namespace Protobuf

/-- Bytes still to read. -/
abbrev Bytes := List UInt8

/-- Reads a varint of at most ten bytes; the tenth may only be 0 or 1. -/
def varintFrom (shift : Nat) : Nat → Bytes → Option (Nat × Bytes)
  | 0, _ => none
  | _, [] => none
  | fuel + 1, b :: rest =>
    if fuel = 0 then
      if b < 2 then some (b.toNat * Nat.pow 2 shift, rest) else none
    else if b < 0x80 then some (b.toNat * Nat.pow 2 shift, rest)
    else (varintFrom (shift + 7) fuel rest).map fun (v, r) => ((b.toNat - 0x80) * Nat.pow 2 shift + v, r)

/-- Reads a varint. -/
def varint (bs : Bytes) : Option (Nat × Bytes) := varintFrom 0 10 bs

/-- The greatest field number a message may use. -/
def maxField : Nat := Nat.pow 2 29 - 1

/-- Reads a tag: a field number from 1 to `bound` and a wire type. -/
def tag (bound : Nat) (bs : Bytes) : Option (Nat × Nat × Bytes) := do
  let (t, rest) ← varint bs
  let number := t / 8
  if number < 1 ∨ number > bound then none
  else some (number, t % 8, rest)

/-- Splits off `n` bytes. -/
def take (n : Nat) (bs : Bytes) : Option (Bytes × Bytes) :=
  if n ≤ bs.length then some (bs.take n, bs.drop n) else none

/-- Reads a length and that many bytes. -/
def delimited (bs : Bytes) : Option (Bytes × Bytes) := do
  let (n, rest) ← varint bs
  take n rest

/-- Skips the value of a field of the given number and wire type. A group runs to the
end tag of its own number. -/
def skip : Nat → Nat → Nat → Bytes → Option Bytes
  | 0, _, _, _ => none
  | _ + 1, _, 0, bs => (varint bs).map (·.2)
  | _ + 1, _, 1, bs => (take 8 bs).map (·.2)
  | _ + 1, _, 2, bs => (delimited bs).map (·.2)
  | fuel + 1, number, 3, bs => skipGroup fuel number bs
  | _ + 1, _, 5, bs => (take 4 bs).map (·.2)
  | _ + 1, _, _, _ => none
where
  /-- Skips the fields of a group up to its end tag. -/
  skipGroup : Nat → Nat → Bytes → Option Bytes
    | 0, _, _ => none
    | fuel + 1, number, bs => do
      let (n, w, rest) ← tag (Nat.pow 2 31 - 1) bs
      if w = 4 then (if n = number then some rest else none)
      else
        let rest ← skip fuel n w rest
        skipGroup fuel number rest

/-- Text from bytes that must be valid UTF-8. -/
def text (bs : Bytes) : Option String := String.fromUTF8? (ByteArray.mk bs.toArray)

/-- The little-endian number in eight bytes. -/
def fixed64 (bs : Bytes) : Nat := bs.foldr (fun b acc => acc * 256 + b.toNat) 0

/-- A number value from its eight bytes. -/
def numberOf (bs : Bytes) : Payload :=
  match Binary64.ofBits (fixed64 bs) with
  | some x => .number x
  | none => .notFinite

mutual
/-- Reads the fields of a map message into the fields held so far. -/
def mapFields : Nat → List (String × Payload) → Bytes → Option (List (String × Payload))
  | 0, _, _ => none
  | _ + 1, acc, [] => some acc
  | fuel + 1, acc, bs => do
    let (n, w, rest) ← tag maxField bs
    if w = 4 then none
    else if n = 1 ∧ w = 2 then
      let (body, rest) ← delimited rest
      let (k, v) ← entry fuel "" .unset body
      mapFields fuel (Payload.setField acc k v) rest
    else
      let rest ← skip fuel n w rest
      mapFields fuel acc rest

/-- Reads a map entry: its name and its value, merged over repeated fields. -/
def entry : Nat → String → Payload → Bytes → Option (String × Payload)
  | 0, _, _, _ => none
  | _ + 1, k, v, [] => some (k, v)
  | fuel + 1, k, v, bs => do
    let (n, w, rest) ← tag maxField bs
    if w = 4 then none
    else if n = 1 ∧ w = 2 then
      let (body, rest) ← delimited rest
      let k ← text body
      entry fuel k v rest
    else if n = 2 ∧ w = 2 then
      let (body, rest) ← delimited rest
      let v ← value fuel v body
      entry fuel k v rest
    else
      let rest ← skip fuel n w rest
      entry fuel k v rest

/-- Reads the fields of a value message over the value held so far. -/
def value : Nat → Payload → Bytes → Option Payload
  | 0, _, _ => none
  | _ + 1, v, [] => some v
  | fuel + 1, v, bs => do
    let (n, w, rest) ← tag maxField bs
    if w = 4 then none
    else if n = 1 ∧ w = 0 then
      let (_, rest) ← varint rest
      value fuel .null rest
    else if n = 2 ∧ w = 1 then
      let (body, rest) ← take 8 rest
      value fuel (numberOf body) rest
    else if n = 3 ∧ w = 2 then
      let (body, rest) ← delimited rest
      let s ← text body
      value fuel (.string s) rest
    else if n = 4 ∧ w = 0 then
      let (b, rest) ← varint rest
      value fuel (.bool (b ≠ 0)) rest
    else if n = 5 ∧ w = 2 then
      let (body, rest) ← delimited rest
      let held := match v with
        | .struct fs => fs
        | _ => []
      let fs ← mapFields fuel held body
      value fuel (.struct fs) rest
    else if n = 6 ∧ w = 2 then
      let (body, rest) ← delimited rest
      let held := match v with
        | .list items => items
        | _ => []
      let items ← listItems fuel held body
      value fuel (.list items) rest
    else
      let rest ← skip fuel n w rest
      value fuel v rest

/-- Reads the fields of a list message, appending its items. -/
def listItems : Nat → List Payload → Bytes → Option (List Payload)
  | 0, _, _ => none
  | _ + 1, acc, [] => some acc
  | fuel + 1, acc, bs => do
    let (n, w, rest) ← tag maxField bs
    if w = 4 then none
    else if n = 1 ∧ w = 2 then
      let (body, rest) ← delimited rest
      let item ← value fuel .unset body
      listItems fuel (acc ++ [item]) rest
    else
      let rest ← skip fuel n w rest
      listItems fuel acc rest
end

/-- Reads a payload map from its binary form. The allowance of steps grows with the
input, which bounds both the fields read and the nesting. -/
def payload (bs : Bytes) : Option Payload :=
  (mapFields (2 * bs.length + 4) [] bs).map .struct

/-- The bytes written in hexadecimal, two digits each, either case. -/
def hexBytes (s : String) : Option Bytes :=
  let digit (c : Char) : Option Nat :=
    if c.isDigit then some (c.toNat - '0'.toNat)
    else if 'a' ≤ c ∧ c ≤ 'f' then some (c.toNat - 'a'.toNat + 10)
    else if 'A' ≤ c ∧ c ≤ 'F' then some (c.toNat - 'A'.toNat + 10)
    else none
  let rec pairs : List Char → Option Bytes
    | [] => some []
    | [_] => none
    | a :: b :: rest => do
      let hi ← digit a
      let lo ← digit b
      let tail ← pairs rest
      return UInt8.ofNat (hi * 16 + lo) :: tail
  pairs s.toList

end Protobuf

end StockLedger
