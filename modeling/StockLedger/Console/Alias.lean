import StockLedger.Json.Read

/-!
Short names for generated identifiers. Identifiers the ledger generates look like
UUIDs; the console writes each one, in member names and in texts, as `tr-N`, numbering
them in the order they first appear in its written answers, and reads `tr-N` in later
requests back as the identifier it names. A `tr-N` that names no identifier yet, or whose number
has a leading zero, is read as written.
-/

namespace StockLedger

namespace Alias

def isHex (c : Char) : Bool := c.isDigit || ('a' ≤ c && c ≤ 'f')

def groups : List Nat := [8, 4, 4, 4, 12]

/-- Whether text starts with a UUID: hexadecimal groups of 8, 4, 4, 4 and 12 digits
joined by dashes. -/
def startsWithUuid (cs : List Char) : Bool :=
  cs.length ≥ 36 &&
    (List.range 36).all fun i =>
      match cs[i]? with
      | some c => if i == 8 || i == 13 || i == 18 || i == 23 then c == '-' else isHex c
      | none => false

def isUuid (s : String) : Bool := s.length == 36 && startsWithUuid s.toList

def uuids : List Char → List String
  | [] => []
  | c :: rest =>
    if startsWithUuid (c :: rest) then String.ofList ((c :: rest).take 36) :: uuids ((c :: rest).drop 36)
    else uuids rest
termination_by cs => cs.length
decreasing_by
  · -- past the UUID
    simp only [List.length_drop, List.length_cons]
    omega
  · simp only [List.length_cons]
    omega

/-- Numbers the UUIDs of a text that have no number yet, after those that have. -/
def learn (known : List String) (s : String) : List String :=
  (uuids s.toList).foldl (fun acc u => if acc.contains u then acc else acc ++ [u]) known

def shorten (known : List String) : List Char → List Char
  | [] => []
  | c :: rest =>
    if startsWithUuid (c :: rest) then
      let u := String.ofList ((c :: rest).take 36)
      match known.idxOf? u with
      | some i => ("tr-" ++ Nat.repr (i + 1)).toList ++ shorten known ((c :: rest).drop 36)
      | none => c :: shorten known rest
    else c :: shorten known rest
termination_by cs => cs.length
decreasing_by
  · -- past the UUID
    simp only [List.length_drop, List.length_cons]
    omega
  all_goals
    simp only [List.length_cons]
    omega

/-- Sorts object members by name, keeping the order of equal names. -/
def sortMembers (ms : List (String × Json)) : List (String × Json) :=
  ms.mergeSort (fun a b => a.1 ≤ b.1)

mutual
def canonical : Json → Json
  | .array items => .array (canonicalItems items)
  | .object ms => .object (sortMembers (canonicalMembers ms))
  | j => j

def canonicalItems : List Json → List Json
  | [] => []
  | j :: rest => canonical j :: canonicalItems rest

def canonicalMembers : List (String × Json) → List (String × Json)
  | [] => []
  | (k, j) :: rest => (k, canonical j) :: canonicalMembers rest
end

/-- Learns and shortens the UUIDs of a text as the answer writes it, escapes and all:
`<`, `>`, `&`, controls and the line separators are escaped, so a UUID may start inside
an escape, as in the text of a backspace followed by hexadecimal digits. The shortened
written text is read back as the new text; should it no longer read as text, the text
itself is shortened instead. -/
def answerText (known : List String) (s : String) : List String × String :=
  let written := String.join (s.toList.map Json.escapeSafe)
  let known := learn known written
  let short := String.ofList (shorten known written.toList)
  match Json.parse ("\"" ++ short ++ "\"") with
  | .ok (.string t) => (known, t)
  | _ => (known, String.ofList (shorten known s.toList))

mutual
/-- Learns and shortens the UUIDs of an answer in canonical form, in reading order. -/
def answer (known : List String) : Json → List String × Json
  | .string s =>
    let (known, t) := answerText known s
    (known, .string t)
  | .array items =>
    let (known, items) := answerItems known items
    (known, .array items)
  | .object ms =>
    let (known, ms) := answerMembers known ms
    (known, .object ms)
  | j => (known, j)

/-- Learns and shortens the UUIDs of array items in order. -/
def answerItems (known : List String) : List Json → List String × List Json
  | [] => (known, [])
  | j :: rest =>
    let (known, j) := answer known j
    let (known, rest) := answerItems known rest
    (known, j :: rest)

/-- Learns and shortens the UUIDs of object members in order, each name before its
value. -/
def answerMembers (known : List String) : List (String × Json) → List String × List (String × Json)
  | [] => (known, [])
  | (k, j) :: rest =>
    let (known, k) := answerText known k
    let (known, j) := answer known j
    let (known, rest) := answerMembers known rest
    (known, (k, j) :: rest)
end

/-- The identifier a run of digits after `tr-` names: the one with exactly that number,
written without leading zeros. -/
def named? (known : List String) (digits : List Char) : Option String :=
  let n := digits.foldl (fun acc d => acc * 10 + (d.toNat - '0'.toNat)) 0
  if 0 < n && (Nat.repr n).toList == digits then known[n - 1]? else none

def expand (known : List String) : List Char → List Char
  | [] => []
  | 't' :: 'r' :: '-' :: after =>
    let digits := after.takeWhile Char.isDigit
    match named? known digits with
    | some u => u.toList ++ expand known (after.drop digits.length)
    | none => 't' :: expand known ('r' :: '-' :: after)
  | c :: rest => c :: expand known rest
termination_by cs => cs.length
decreasing_by all_goals simp_wf <;> omega

mutual
def request (known : List String) : Json → Json
  | .string s => .string (String.ofList (expand known s.toList))
  | .array items => .array (requestItems known items)
  | .object ms => .object (requestMembers known ms)
  | j => j

def requestItems (known : List String) : List Json → List Json
  | [] => []
  | j :: rest => request known j :: requestItems known rest

def requestMembers (known : List String) : List (String × Json) → List (String × Json)
  | [] => []
  | (k, j) :: rest => (k, request known j) :: requestMembers known rest
end

end Alias

end StockLedger
