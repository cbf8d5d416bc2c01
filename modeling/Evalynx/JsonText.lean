import Evalynx.Json

/-! `json.dumps` with `ensure_ascii` and `json.loads`, over lists of characters. -/

namespace Json

/-- The whitespace `json.dumps` puts between tokens: after a colon, and before an item or
a closing bracket at a nesting depth. -/
structure Layout where
  afterColon : List Char
  beforeItem : Nat → List Char

def compact : Layout := ⟨[], fun _ => []⟩

def indented (width : Nat) : Layout :=
  ⟨[' '], fun depth => '\n' :: List.replicate (width * depth) ' '⟩

def hexDigits (code : Nat) : List Char :=
  [(code / 4096 % 16).digitChar, (code / 256 % 16).digitChar, (code / 16 % 16).digitChar,
    (code % 16).digitChar]

def unicodeEscape (code : Nat) : List Char := '\\' :: 'u' :: hexDigits code

def highSurrogate (code : Nat) : Nat := 0xd800 + (code - 0x10000) / 0x400

def lowSurrogate (code : Nat) : Nat := 0xdc00 + (code - 0x10000) % 0x400

/-- `py_encode_basestring_ascii` on one character. -/
def escapeChar (c : Char) : List Char :=
  if c = '"' then ['\\', '"']
  else if c = '\\' then ['\\', '\\']
  else if c = '\n' then ['\\', 'n']
  else if c = '\r' then ['\\', 'r']
  else if c = '\t' then ['\\', 't']
  else if c = '\x08' then ['\\', 'b']
  else if c = '\x0c' then ['\\', 'f']
  else if 0x20 ≤ c.toNat ∧ c.toNat ≤ 0x7e then [c]
  else if c.toNat < 0x10000 then unicodeEscape c.toNat
  else unicodeEscape (highSurrogate c.toNat) ++ unicodeEscape (lowSurrogate c.toNat)

def writeString (s : String) : List Char := '"' :: s.toList.flatMap escapeChar ++ ['"']

def writeSign (negative : Bool) : List Char := if negative then ['-'] else []

def writeInt (n : Int) : List Char := writeSign (decide (n < 0)) ++ Nat.toDigits 10 n.natAbs

def writeDigits (digits : List (Fin 10)) : List Char := digits.map (fun d => d.val.digitChar)

def writeFraction : List (Fin 10) → List Char
  | [] => []
  | digits => '.' :: writeDigits digits

def writeExponent : Option (Bool × Fin 10 × List (Fin 10)) → List Char
  | none => []
  | some (negative, digit, digits) =>
      'e' :: (if negative then '-' else '+') :: writeDigits (digit :: digits)

def writeFloat : PyFloat → List Char
  | .finite x =>
      writeSign x.negative ++ Nat.toDigits 10 x.whole ++ writeFraction x.fraction ++
        writeExponent x.exponent
  | .nan => ['N', 'a', 'N']
  | .infinity negative => writeSign negative ++ ['I', 'n', 'f', 'i', 'n', 'i', 't', 'y']

def writeClose (layout : Layout) (depth : Nat) (isEmpty : Bool) (bracket : Char) : List Char :=
  if isEmpty then [bracket] else layout.beforeItem depth ++ [bracket]

mutual

def write (layout : Layout) (depth : Nat) : Json → List Char
  | .null => ['n', 'u', 'l', 'l']
  | .bool true => ['t', 'r', 'u', 'e']
  | .bool false => ['f', 'a', 'l', 's', 'e']
  | .int n => writeInt n
  | .float x => writeFloat x
  | .str s => writeString s
  | .arr items =>
      '[' :: writeItems layout (depth + 1) [] items ++ writeClose layout depth items.isEmpty ']'
  | .obj members =>
      '{' :: writeMembers layout (depth + 1) [] members ++ writeClose layout depth members.isEmpty '}'
termination_by structural value => value

def writeItems (layout : Layout) (depth : Nat) (separator : List Char) : List Json → List Char
  | [] => []
  | item :: items =>
      separator ++ layout.beforeItem depth ++ write layout depth item ++
        writeItems layout depth [','] items
termination_by structural items => items

def writeMembers (layout : Layout) (depth : Nat) (separator : List Char) :
    List (String × Json) → List Char
  | [] => []
  | (key, value) :: members =>
      separator ++ layout.beforeItem depth ++ writeString key ++ ':' :: layout.afterColon ++
        write layout depth value ++ writeMembers layout depth [','] members
termination_by structural members => members

end

def isSpace (c : Char) : Bool := c == ' ' || c == '\n' || c == '\r' || c == '\t'

def skipSpace (cs : List Char) : List Char := cs.dropWhile isSpace

def hexValue (c : Char) : Option Nat :=
  if '0' ≤ c ∧ c ≤ '9' then some (c.toNat - 48)
  else if 'a' ≤ c ∧ c ≤ 'f' then some (c.toNat - 87)
  else if 'A' ≤ c ∧ c ≤ 'F' then some (c.toNat - 55)
  else none

def readHex : List Char → Option (Nat × List Char)
  | a :: b :: c :: d :: cs =>
      match hexValue a, hexValue b, hexValue c, hexValue d with
      | some a, some b, some c, some d => some (a * 4096 + b * 256 + c * 16 + d, cs)
      | _, _, _, _ => none
  | _ => none

def isHighSurrogate (code : Nat) : Bool := decide (0xd800 ≤ code) && decide (code < 0xdc00)

def isLowSurrogate (code : Nat) : Bool := decide (0xdc00 ≤ code) && decide (code < 0xe000)

def joinSurrogates (high low : Nat) : Nat := 0x10000 + ((high - 0xd800) * 0x400 + (low - 0xdc00))

def readLowSurrogate : List Char → Option (Nat × List Char)
  | '\\' :: 'u' :: cs =>
      match readHex cs with
      | some (low, cs) => if isLowSurrogate low then some (low, cs) else none
      | none => none
  | _ => none

/-- The character of a `\uXXXX` escape, with the second half of a surrogate pair. Python keeps
a lone surrogate, which no `Char` stands for. -/
def readCode (code : Nat) (cs : List Char) : Option (Char × List Char) :=
  if isHighSurrogate code then
    match readLowSurrogate cs with
    | some (low, rest) => some (Char.ofNat (joinSurrogates code low), rest)
    | none => none
  else if isLowSurrogate code then none
  else some (Char.ofNat code, cs)

def readEscape : List Char → Option (Char × List Char)
  | 'u' :: cs =>
      match readHex cs with
      | some (code, rest) => readCode code rest
      | none => none
  | '"' :: cs => some ('"', cs)
  | '\\' :: cs => some ('\\', cs)
  | '/' :: cs => some ('/', cs)
  | 'b' :: cs => some ('\x08', cs)
  | 'f' :: cs => some ('\x0c', cs)
  | 'n' :: cs => some ('\n', cs)
  | 'r' :: cs => some ('\r', cs)
  | 't' :: cs => some ('\t', cs)
  | _ => none

def readChars : Nat → List Char → Option (List Char × List Char)
  | 0, _ => none
  | fuel + 1, cs =>
      match cs with
      | [] => none
      | c :: cs =>
          if c = '"' then some ([], cs)
          else if c = '\\' then
            match readEscape cs with
            | none => none
            | some (c, cs) => (readChars fuel cs).map fun (s, cs) => (c :: s, cs)
          else if c.toNat < 0x20 then none
          else (readChars fuel cs).map fun (s, cs) => (c :: s, cs)

def readString (cs : List Char) : Option (String × List Char) :=
  (readChars (cs.length + 1) cs).map fun (s, cs) => (String.ofList s, cs)

def spanDigits (cs : List Char) : List Char × List Char := cs.span Char.isDigit

def readSign : List Char → Bool × List Char
  | '-' :: cs => (true, cs)
  | cs => (false, cs)

def readWhole : List Char → Option (Nat × List Char)
  | '0' :: cs => some (0, cs)
  | cs =>
      match spanDigits cs with
      | ([], _) => none
      | (digits, cs) => some (Nat.ofDigitChars 10 digits 0, cs)

def digitsOf (cs : List Char) : List (Fin 10) := cs.map (fun c => Fin.ofNat 10 (c.toNat - 48))

def readFraction : List Char → List (Fin 10) × List Char
  | '.' :: cs =>
      match spanDigits cs with
      | ([], _) => ([], '.' :: cs)
      | (digits, rest) => (digitsOf digits, rest)
  | cs => ([], cs)

def readExponentSign : List Char → Bool × List Char
  | '-' :: cs => (true, cs)
  | '+' :: cs => (false, cs)
  | cs => (false, cs)

def readExponent (cs : List Char) : Option (Bool × Fin 10 × List (Fin 10)) × List Char :=
  match cs with
  | [] => (none, cs)
  | e :: tail =>
      if e = 'e' ∨ e = 'E' then
        match digitsOf (spanDigits (readExponentSign tail).2).1 with
        | [] => (none, cs)
        | digit :: digits =>
            (some ((readExponentSign tail).1, digit, digits),
              (spanDigits (readExponentSign tail).2).2)
      else (none, cs)

def numberOf (negative : Bool) (whole : Nat) (fraction : List (Fin 10))
    (exponent : Option (Bool × Fin 10 × List (Fin 10))) : Json :=
  if shaped : fraction ≠ [] ∨ exponent.isSome = true then
    .float (.finite ⟨negative, whole, fraction, exponent, shaped⟩)
  else .int (if negative then -(whole : Int) else whole)

def readNumber (cs : List Char) : Option (Json × List Char) :=
  match readWhole (readSign cs).2 with
  | none => none
  | some (whole, cs') =>
      let fraction := readFraction cs'
      let exponent := readExponent fraction.2
      some (numberOf (readSign cs).1 whole fraction.1 exponent.1, exponent.2)

/-- `dict(pairs)`: a repeated key keeps its first position and takes the last value. -/
def insertMember (object : JsonObject) (key : String) (value : Json) : JsonObject :=
  if key ∈ object.map Prod.fst then
    object.map fun member => if member.1 = key then (key, value) else member
  else object ++ [(key, value)]

def dictOf (pairs : List (String × Json)) : JsonObject :=
  pairs.foldl (fun object member => insertMember object member.1 member.2) []

mutual

def readValue : Nat → List Char → Option (Json × List Char)
  | 0, _ => none
  | fuel + 1, cs =>
      match cs with
      | '"' :: cs => (readString cs).map fun (s, cs) => (.str s, cs)
      | '[' :: cs =>
          match skipSpace cs with
          | ']' :: cs => some (.arr [], cs)
          | cs => (readItems fuel cs).map fun (items, cs) => (.arr items, cs)
      | '{' :: cs =>
          match skipSpace cs with
          | '}' :: cs => some (.obj [], cs)
          | cs => (readMembers fuel cs).map fun (members, cs) => (.obj (dictOf members), cs)
      | 'n' :: 'u' :: 'l' :: 'l' :: cs => some (.null, cs)
      | 't' :: 'r' :: 'u' :: 'e' :: cs => some (.bool true, cs)
      | 'f' :: 'a' :: 'l' :: 's' :: 'e' :: cs => some (.bool false, cs)
      | 'N' :: 'a' :: 'N' :: cs => some (.float .nan, cs)
      | 'I' :: 'n' :: 'f' :: 'i' :: 'n' :: 'i' :: 't' :: 'y' :: cs =>
          some (.float (.infinity false), cs)
      | '-' :: 'I' :: 'n' :: 'f' :: 'i' :: 'n' :: 'i' :: 't' :: 'y' :: cs =>
          some (.float (.infinity true), cs)
      | cs => readNumber cs

def readItems : Nat → List Char → Option (List Json × List Char)
  | 0, _ => none
  | fuel + 1, cs =>
      match readValue fuel cs with
      | none => none
      | some (item, cs) =>
          match skipSpace cs with
          | ']' :: cs => some ([item], cs)
          | ',' :: cs =>
              (readItems fuel (skipSpace cs)).map fun (items, cs) => (item :: items, cs)
          | _ => none

def readMembers : Nat → List Char → Option (List (String × Json) × List Char)
  | 0, _ => none
  | fuel + 1, cs =>
      match cs with
      | '"' :: cs =>
          match readString cs with
          | none => none
          | some (key, cs) =>
              match skipSpace cs with
              | ':' :: cs =>
                  match readValue fuel (skipSpace cs) with
                  | none => none
                  | some (value, cs) =>
                      match skipSpace cs with
                      | '}' :: cs => some ([(key, value)], cs)
                      | ',' :: cs =>
                          (readMembers fuel (skipSpace cs)).map fun (members, cs) =>
                            ((key, value) :: members, cs)
                      | _ => none
              | _ => none
      | _ => none

end

/-- `json.loads`, with a number kept as it is spelt. `none` also where the text escapes a lone
surrogate, which Python accepts. -/
def loads (text : String) : Option Json :=
  match readValue (text.toList.length + 1) (skipSpace text.toList) with
  | some (value, rest) => if skipSpace rest = [] then some value else none
  | none => none

def dumps (layout : Layout) (value : Json) : String := String.ofList (write layout 0 value)

end Json
