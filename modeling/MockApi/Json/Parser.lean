/-
Reading JSON text. The grammar is the usual one, with `NaN` and the two
infinities as further numbers, and with any control character refused inside
a string. A number is an integer unless it has a fraction or an exponent.

A refusal names a flaw and the place where it stands. Inside the reader a
place is the number of characters that are left, which needs no counting on
the way; `place` turns it into an offset, a line and a column at the end.
-/
import MockApi.Json.Basic
import MockApi.Decimal.Integer

namespace MockApi

/-- What is wrong with a JSON text. -/
inductive JsonFlaw where
  | expectingValue
  | expectingKey
  | expectingColon
  | expectingComma
  | extraData
  | unterminatedString
  | controlCharacter
  | badEscape
  | badUnicodeEscape
  | byteOrderMark
deriving DecidableEq, Repr

def JsonFlaw.message : JsonFlaw → Text
  | expectingValue => "Expecting value"
  | expectingKey => "Expecting property name enclosed in double quotes"
  | expectingColon => "Expecting ':' delimiter"
  | expectingComma => "Expecting ',' delimiter"
  | extraData => "Extra data"
  | unterminatedString => "Unterminated string starting at"
  | controlCharacter => "Invalid control character at"
  | badEscape => "Invalid \\escape"
  | badUnicodeEscape => "Invalid \\uXXXX escape"
  | byteOrderMark => "Unexpected UTF-8 BOM (decode using utf-8-sig)"

/-- A place in a text: an offset from 0, a line and a column from 1. -/
structure Place where
  offset : Nat
  line : Nat
  column : Nat
deriving DecidableEq, Repr

/-- The place where so many characters of a text are left. -/
def Place.ofRemaining (doc : Text) (remaining : Nat) : Place :=
  let front := doc.take (doc.length - remaining)
  { offset := front.length
    line := front.count (.char '\n') + 1
    column := (Text.afterLast '\n' front).length + 1 }

def Place.message (p : Place) : Text :=
  "line " ++ decimalOfNat p.line ++ " column " ++ decimalOfNat p.column
    ++ " (char " ++ decimalOfNat p.offset ++ ")"

/-- Why a JSON text could not be read. -/
inductive JsonError where
  /-- The text breaks the grammar at a place. -/
  | flawed (flaw : JsonFlaw) (place : Place)
  /-- An integer has so many digits that it is refused. -/
  | numeral (cause : NumeralError)
  /-- Brackets are nested too deeply. -/
  | tooDeep
deriving DecidableEq, Repr

/-- The text of a grammar error. -/
def JsonError.flawMessage (flaw : JsonFlaw) (place : Place) : Text :=
  flaw.message ++ ": " ++ place.message

/-- A reader of JSON text. It goes into brackets that are nested so deeply and no deeper;
how deep that is depends on what the program runs in, but one bracket may always be open. -/
class JsonReader where
  nestingLimit : Nat
  positive : 0 < nestingLimit

/-- The reader of a program that runs with its ordinary bounds. -/
instance ordinaryReader : JsonReader := ⟨960, by decide⟩

namespace Json.Parser

/-- A reader's refusal: a flaw where so many characters are left. -/
inductive Stop where
  | flaw (flaw : JsonFlaw) (remaining : Nat)
  | numeral (cause : NumeralError)
  | tooDeep

/-- The deepest nesting of brackets that is read. -/
def nestingLimit [JsonReader] : Nat := JsonReader.nestingLimit

def isSpace (c : CodePoint) : Bool := c == ' ' || c == '\t' || c == '\n' || c == '\r'

def skipSpaces (t : Text) : Text := t.dropWhile isSpace

-- ============================================================ strings

def hexValue? (c : CodePoint) : Option Nat :=
  if '0' ≤ c ∧ c ≤ '9' then some (c.toNat - '0'.toNat)
  else if 'a' ≤ c ∧ c ≤ 'f' then some (c.toNat - 'a'.toNat + 10)
  else if 'A' ≤ c ∧ c ≤ 'F' then some (c.toNat - 'A'.toNat + 10)
  else none

/-- The code unit that four hexadecimal digits stand for. -/
def unit? (a b c d : CodePoint) : Option Nat := do
  let a ← hexValue? a
  let b ← hexValue? b
  let c ← hexValue? c
  let d ← hexValue? d
  return ((a * 16 + b) * 16 + c) * 16 + d

def isHighSurrogate (n : Nat) : Bool := 0xd800 ≤ n && n < 0xdc00

def isLowSurrogate (n : Nat) : Bool := 0xdc00 ≤ n && n < 0xe000

/-- The character of a surrogate pair. -/
def charOfPair (high low : Nat) : CodePoint :=
  CodePoint.ofNat (0x10000 + (high - 0xd800) * 0x400 + (low - 0xdc00))

/-- The character that a one-letter escape stands for. -/
def plainEscape? (c : CodePoint) : Option CodePoint :=
  if c = '"' || c = '\\' || c = '/' then some c
  else if c = 'b' then some '\x08'
  else if c = 'f' then some '\x0c'
  else if c = 'n' then some '\n'
  else if c = 'r' then some '\r'
  else if c = 't' then some '\t'
  else none

/-- The low half of a surrogate pair at the front of a text: none if no
second escape stands there, a flaw if its digits are none. -/
def lowHalf? (t : Text) : Except Stop (Option (Nat × Text)) :=
  match t with
  | .char '\\' :: .char 'u' :: a :: b :: c :: d :: next :: rest =>
    match unit? a b c d with
    | none => .error (.flaw .badUnicodeEscape (t.length - 1))
    | some low => .ok (if isLowSurrogate low then some (low, next :: rest) else none)
  | _ => .ok none

/-- What follows `\u`: four digits, and for the first half of a surrogate pair
the second half. An escape must be followed by something. -/
def unicodeEscape (t : Text) : Except Stop (CodePoint × Text) :=
  match t with
  | a :: b :: c :: d :: next :: rest =>
    match unit? a b c d with
    | none => .error (.flaw .badUnicodeEscape (t.length + 1))
    | some n =>
      if isHighSurrogate n then
        match lowHalf? (next :: rest) with
        | .error e => .error e
        | .ok (some (low, rest)) => .ok (charOfPair n low, rest)
        | .ok none => .ok (CodePoint.ofNat n, next :: rest)
      else .ok (CodePoint.ofNat n, next :: rest)
  | _ => .error (.flaw .badUnicodeEscape (t.length + 1))

/-- The text of a string up to its closing quote. Its opening quote stands
where `opened` characters are left. -/
def stringBody (opened : Nat) (fuel : Nat) (t : Text) : Except Stop (Text × Text) :=
  match fuel, t with
  | 0, _ => .error (.flaw .unterminatedString opened)
  | _, [] => .error (.flaw .unterminatedString opened)
  | fuel + 1, c :: rest =>
    if c = '"' then .ok ([], rest)
    else if c = '\\' then
      match rest with
      | [] => .error (.flaw .unterminatedString opened)
      | e :: tail =>
        if e = 'u' then do
          let (c, tail) ← unicodeEscape tail
          let (body, tail) ← stringBody opened fuel tail
          return (c :: body, tail)
        else
          match plainEscape? e with
          | none => .error (.flaw .badEscape t.length)
          | some c => do
            let (body, tail) ← stringBody opened fuel tail
            return (c :: body, tail)
    else if c < ' ' then .error (.flaw .controlCharacter t.length)
    else do
      let (body, tail) ← stringBody opened fuel rest
      return (c :: body, tail)

/-- A string whose opening quote has been taken. -/
def string (t : Text) : Except Stop (Text × Text) := stringBody (t.length + 1) (t.length + 1) t

-- ============================================================ numbers

/-- The digits at the front of a text. -/
def digits (t : Text) : Text × Text :=
  (t.takeWhile Text.isAsciiDigit, t.dropWhile Text.isAsciiDigit)

/-- A point with at least one digit behind it. -/
def fraction? (t : Text) : Option (Text × Text) :=
  match t with
  | .char '.' :: rest =>
    match digits rest with
    | ([], _) => none
    | (ds, rest) => some (ds, rest)
  | _ => none

/-- An exponent with at least one digit. -/
def exponent? (t : Text) : Option (Int × Text) :=
  match t with
  | e :: rest =>
    if e = 'e' || e = 'E' then
      let (negative, rest) :=
        match rest with
        | .char '-' :: rest => (true, rest)
        | .char '+' :: rest => (false, rest)
        | _ => (false, rest)
      match digits rest with
      | ([], _) => none
      | (ds, rest) =>
        let n : Int := natOfDigits (ds.map fun c => c.toNat - '0'.toNat)
        some (if negative then -n else n, rest)
    else none
  | [] => none

/-- The whole part of a number: a zero, or digits that start with another. -/
def wholePart? (t : Text) : Option (Text × Text) :=
  match t with
  | .char '0' :: rest => some ("0", rest)
  | _ =>
    match digits t with
    | ([], _) => none
    | (ds, rest) => some (ds, rest)

def digitsValue (ds : Text) : Nat := natOfDigits (ds.map fun c => c.toNat - '0'.toNat)

/-- A number behind its sign; without a fraction and an exponent it is an
integer. -/
def unsigned (negative : Bool) (t : Text) : Option (Except Stop (Json × Text)) :=
  match wholePart? t with
  | none => none
  | some (whole, rest) =>
    let fraction := fraction? rest
    let (places, rest) := fraction.getD ([], rest)
    let exponent := exponent? rest
    let (e, rest) := exponent.getD (0, rest)
    some <|
      if fraction.isNone && exponent.isNone then
        if digitLimit < whole.length then .error (.numeral (.tooManyDigits whole.length))
        else
          let n : Int := digitsValue whole
          .ok (.int (if negative then -n else n), rest)
      else
        .ok (.float (Binary64.nearestDecimal negative (digitsValue (whole ++ places))
          (e - places.length)), rest)

/-- A number. -/
def number (t : Text) : Except Stop (Json × Text) :=
  let found :=
    match t with
    | .char '-' :: rest => unsigned true rest
    | _ => unsigned false t
  found.getD (.error (.flaw .expectingValue t.length))

/-- The constants, each by its spelling. -/
def constants : List (Text × Json) :=
  [("null", .null), ("true", .bool true), ("false", .bool false), ("NaN", .float .nan),
   ("Infinity", .float (.infinity false)), ("-Infinity", .float (.infinity true))]

/-- A constant or a number. -/
def scalar (t : Text) : Except Stop (Json × Text) :=
  match constants.findSome? fun entry => (Text.afterPiece? entry.1 t).map (entry.2, ·) with
  | some found => .ok found
  | none => number t

-- ============================================================= values

mutual

/-- A value, inside so many open brackets. -/
def value [JsonReader] (fuel depth : Nat) (t : Text) : Except Stop (Json × Text) :=
  match fuel with
  | 0 => .error .tooDeep
  | fuel + 1 =>
    match t with
    | [] => .error (.flaw .expectingValue 0)
    | c :: rest =>
      if c = '"' then do
        let (s, rest) ← string rest
        return (.str s, rest)
      else if c = '{' then
        if nestingLimit ≤ depth then .error .tooDeep
        else
          match skipSpaces rest with
          | .char '}' :: rest => .ok (.obj [], rest)
          | rest => do
            let (pairs, rest) ← fields fuel (depth + 1) rest
            return (.obj (Fields.ofPairs pairs), rest)
      else if c = '[' then
        if nestingLimit ≤ depth then .error .tooDeep
        else
          match skipSpaces rest with
          | .char ']' :: rest => .ok (.arr [], rest)
          | rest => do
            let (vs, rest) ← items fuel (depth + 1) rest
            return (.arr vs, rest)
      else scalar t

/-- Items up to the closing bracket, at least one. -/
def items [JsonReader] (fuel depth : Nat) (t : Text) : Except Stop (List Json × Text) :=
  match fuel with
  | 0 => .error .tooDeep
  | fuel + 1 => do
    let (v, rest) ← value fuel depth t
    match skipSpaces rest with
    | .char ']' :: rest => return ([v], rest)
    | .char ',' :: rest =>
      let (vs, rest) ← items fuel depth (skipSpaces rest)
      return (v :: vs, rest)
    | rest => .error (.flaw .expectingComma rest.length)

/-- Keys with their values up to the closing bracket, at least one. -/
def fields [JsonReader] (fuel depth : Nat) (t : Text) : Except Stop (List (Text × Json) × Text) :=
  match fuel with
  | 0 => .error .tooDeep
  | fuel + 1 =>
    match t with
    | .char '"' :: rest => do
      let (key, rest) ← string rest
      match skipSpaces rest with
      | .char ':' :: rest =>
        let (v, rest) ← value fuel depth (skipSpaces rest)
        match skipSpaces rest with
        | .char '}' :: rest => return ([(key, v)], rest)
        | .char ',' :: rest =>
          let (pairs, rest) ← fields fuel depth (skipSpaces rest)
          return ((key, v) :: pairs, rest)
        | rest => .error (.flaw .expectingComma rest.length)
      | rest => .error (.flaw .expectingColon rest.length)
    | _ => .error (.flaw .expectingKey t.length)

end

/-- A value with nothing but spaces around it. -/
def document [JsonReader] (t : Text) : Except Stop Json := do
  let (v, rest) ← value (2 * t.length + 2) 0 (skipSpaces t)
  match skipSpaces rest with
  | [] => return v
  | rest => .error (.flaw .extraData rest.length)

end Json.Parser

/-- Reads a JSON text whose encoding mark, if it had one, is removed. -/
def Json.parse [JsonReader] (t : Text) : Except JsonError Json :=
  match Parser.document t with
  | .ok v => .ok v
  | .error (.flaw flaw remaining) => .error (.flawed flaw (.ofRemaining t remaining))
  | .error (.numeral cause) => .error (.numeral cause)
  | .error .tooDeep => .error .tooDeep

/-- Reads a JSON text, refusing one that starts with a byte order mark. -/
def Json.parseText [JsonReader] (t : Text) : Except JsonError Json :=
  match t with
  | .char '\ufeff' :: _ => .error (.flawed .byteOrderMark (.ofRemaining t t.length))
  | _ => Json.parse t

end MockApi
