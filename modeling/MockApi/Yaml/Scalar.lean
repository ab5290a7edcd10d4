/-
How a text is written as a YAML scalar in block context. Plain text is
preferred; it must not be taken for a value of another type, nor hold what
the syntax gives a meaning. Between single quotes anything goes but special
characters and blanks next to line breaks; double quotes take the rest, with
escapes.
-/
import MockApi.Text.Basic

namespace MockApi.Yaml

/-- How a scalar is written. -/
inductive Style where
  | plain
  | single
  | double
deriving DecidableEq, Repr

-- ================================================ values in plain text

/-- A digit or a separator of digits. -/
def isSpacedDecimal (c : CodePoint) : Bool := Text.isAsciiDigit c || c == '_'

/-- The text without a sign in front. -/
def withoutSign (t : Text) : Text :=
  match t with
  | .char '+' :: rest | .char '-' :: rest => rest
  | _ => t

def booleans : List Text :=
  ["yes", "Yes", "YES", "no", "No", "NO", "true", "True", "TRUE", "false", "False", "FALSE",
   "on", "On", "ON", "off", "Off", "OFF"]

def nulls : List Text := ["", "~", "null", "Null", "NULL"]

def notNumbers : List Text := [".nan", ".NaN", ".NAN"]

def infinities : List Text := [".inf", ".Inf", ".INF"]

/-- Parts of one or two digits to the base sixty, the first of two below 6,
each behind a colon. -/
def areSixtieths (fuel : Nat) (t : Text) : Option Text :=
  match fuel, t with
  | fuel + 1, .char ':' :: rest =>
    let digits := rest.takeWhile Text.isAsciiDigit
    let tail := rest.drop digits.length
    let fits :=
      match digits with
      | [_] => true
      | [tens, _] => tens ≤ '5'
      | _ => false
    if fits then
      match tail with
      | .char ':' :: _ => areSixtieths fuel tail
      | _ => some tail
    else none
  | _, _ => none

/-- An exponent with its sign, or nothing. -/
def isExponent (t : Text) : Bool :=
  match t with
  | [] => true
  | e :: sign :: digits =>
    (e == 'e' || e == 'E') && (sign == '+' || sign == '-') && !digits.isEmpty
      && digits.all Text.isAsciiDigit
  | _ => false

/-- A point and digits with an exponent. -/
def isFraction (t : Text) : Bool :=
  match t with
  | .char '.' :: rest => isExponent (rest.dropWhile isSpacedDecimal)
  | _ => false

/-- A floating point number. -/
def isFloat (t : Text) : Bool :=
  let u := withoutSign t
  let whole := u.takeWhile isSpacedDecimal
  let rest := u.drop whole.length
  let startsWithDigit := u.head?.any Text.isAsciiDigit
  (startsWithDigit && isFraction rest)
    || (t.head? == some '.' && (t.drop 1).head?.any Text.isAsciiDigit && isFraction t)
    || (startsWithDigit &&
      match areSixtieths u.length rest with
      | some (.char '.' :: places) => places.all isSpacedDecimal
      | _ => false)
    || infinities.contains u || notNumbers.contains t

/-- An integer. -/
def isInteger (t : Text) : Bool :=
  match withoutSign t with
  | [.char '0'] => true
  | .char '0' :: .char 'b' :: bits => !bits.isEmpty && bits.all fun c =>
    c == '0' || c == '1' || c == '_'
  | .char '0' :: .char 'x' :: digits => !digits.isEmpty && digits.all fun c =>
      isSpacedDecimal c || ('a' ≤ c && c ≤ 'f') || ('A' ≤ c && c ≤ 'F')
  | .char '0' :: digits => digits.all fun c => ('0' ≤ c && c ≤ '7') || c == '_'
  | c :: rest =>
    Text.isAsciiDigit c &&
      let tail := rest.dropWhile isSpacedDecimal
      tail.isEmpty || areSixtieths tail.length tail == some []
  | [] => false

/-- So many digits at the front of a text. -/
def digits? (least most : Nat) (t : Text) : Option Text :=
  let digits := (t.takeWhile Text.isAsciiDigit).take most
  if least ≤ digits.length then some (t.drop digits.length) else none

/-- The character at the front of a text. -/
def char? (c : CodePoint) (t : Text) : Option Text :=
  if t.head? == some c then some (t.drop 1) else none

def isSpaceOrTab (c : CodePoint) : Bool := c == ' ' || c == '\t'

/-- A difference from universal time, or nothing. -/
def isZone (t : Text) : Bool :=
  match t.dropWhile isSpaceOrTab with
  | [] => t.isEmpty
  | [.char 'Z'] => true
  | sign :: rest =>
    (sign == '+' || sign == '-') &&
      match digits? 1 2 rest with
      | some [] => true
      | some rest => ((char? ':' rest).bind (digits? 2 2)) == some []
      | none => false

/-- A time of day with its zone. -/
def isTimeOfDay (t : Text) : Bool :=
  let seconds := do
    let t ← digits? 1 2 t
    let t ← char? ':' t
    let t ← digits? 2 2 t
    let t ← char? ':' t
    digits? 2 2 t
  match seconds with
  | some (.char '.' :: rest) => isZone (rest.dropWhile Text.isAsciiDigit)
  | some rest => isZone rest
  | none => false

/-- What stands between a date and a time: a letter, or blanks. -/
def afterDate? (t : Text) : Option Text :=
  match t with
  | .char 'T' :: rest | .char 't' :: rest => some rest
  | _ => if t.head?.any isSpaceOrTab then some (t.dropWhile isSpaceOrTab) else none

/-- A date, alone in its full form, or with a time behind it. -/
def isTimestamp (t : Text) : Bool :=
  let date (least : Nat) := do
    let t ← digits? 4 4 t
    let t ← char? '-' t
    let t ← digits? least 2 t
    let t ← char? '-' t
    digits? least 2 t
  date 2 == some [] || ((date 1).bind afterDate?).any isTimeOfDay

/-- Plain text that stands for a value other than itself. -/
def isOtherValue (t : Text) : Bool :=
  booleans.contains t || nulls.contains t || t == "<<" || t == "=" || isInteger t
    || isFloat t || isTimestamp t

-- ============================================== characters in context

/-- A line break. -/
def isBreak (c : CodePoint) : Bool := c == '\n' || c == '\x85' || c == '\u2028' || c == '\u2029'

/-- A blank, a line break or the end mark. -/
def isGap (c : CodePoint) : Bool := c == '\x00' || c == ' ' || c == '\t' || c == '\r' || isBreak c

/-- A character that only an escape can write. -/
def isSpecial (c : CodePoint) : Bool :=
  let n := c.toNat
  !(c == '\n' || (0x20 ≤ n && n ≤ 0x7e)
    || (c != '\ufeff' && (n == 0x85 || (0xa0 ≤ n && n ≤ 0xd7ff) || (0xe000 ≤ n && n ≤ 0xfffd)
      || (0x10000 ≤ n && n < 0x10ffff))))

/-- Characters that mean something at the front of a scalar. -/
def frontIndicators : Text := "#,[]&*!|>'\"%@\x7b\x7d\x60"

/-- The front of a text that a plain scalar cannot have. -/
def hasIndicatorInFront (t : Text) : Bool :=
  ("---" : Text).isPrefixOf t || ("..." : Text).isPrefixOf t ||
    match t with
    | [] => false
    | c :: rest =>
      frontIndicators.contains c
        || ((c == '?' || c == ':' || c == '-') && (rest.isEmpty || rest.head?.any isGap))

/-- A colon before a gap or at the end, or a hash behind a gap. -/
def hasIndicatorInside : Text → Bool
  | [] => false
  | [_] => false
  | a :: b :: rest =>
    (b == ':' && (rest.isEmpty || rest.head?.any isGap)) || (b == '#' && isGap a)
      || hasIndicatorInside (b :: rest)

/-- A neighbouring pair of characters with a property. -/
def hasPair (p : CodePoint → CodePoint → Bool) : Text → Bool
  | a :: b :: rest => p a b || hasPair p (b :: rest)
  | _ => false

/-- The text has more than one line. -/
def isMultiline (t : Text) : Bool := t.any isBreak

/-- Blanks or line breaks at either end. -/
def hasGapAtEnd (t : Text) : Bool :=
  let gap (c : CodePoint) : Bool := c == ' ' || isBreak c
  t.head?.any gap || t.getLast?.any gap

/-- The text can be written plain, whatever it would stand for. -/
def allowsPlain (t : Text) : Bool :=
  t.isEmpty || !(hasGapAtEnd t || t.any isBreak || t.any isSpecial || hasIndicatorInFront t
    || hasIndicatorInside t)

/-- The text can be written between single quotes. -/
def allowsSingle (t : Text) : Bool :=
  !(t.any isSpecial || hasPair (fun a b => isBreak a && b == ' ') t
    || hasPair (fun a b => a == ' ' && isBreak b) t)

/-- The style of a text. -/
def styleOf (t : Text) : Style :=
  if !isOtherValue t && allowsPlain t then .plain
  else if allowsSingle t then .single
  else .double

/-- The characters of the tag that counts with a key's length. -/
def tagLength : Nat := 5

/-- The longest key with its tag that stands on one line with its value. -/
def keyLimit : Nat := 128

/-- A key that stands on one line with its value. -/
def isSimpleKey (t : Text) : Bool :=
  !t.isEmpty && !isMultiline t && t.length + tagLength < keyLimit

end MockApi.Yaml
