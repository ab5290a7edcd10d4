/-
Integers as decimal text. Writing is the plain decimal notation; reading
takes digits of any script, blanks around the number, a sign, and single
underscores between digits. Both directions refuse numbers of more than
`digitLimit` digits.

The order of the refusals is part of the format: a misplaced underscore
is found before the digits are counted, and too many digits are reported
before what follows them is looked at.
-/
import MockApi.Text.Blank
import MockApi.Text.Digit
import MockApi.Text.Quoted

namespace MockApi

-- powers are those of the core library, whatever else is imported
attribute [instance (high), default_instance (20000)] instPowNat

/-- Decimal text of a natural number. -/
def decimalOfNat (n : Nat) : Text := Text.digits 10 n

/-- Decimal text of an integer. -/
def decimal : Int → Text
  | .ofNat n => decimalOfNat n
  | .negSucc n => '-' :: decimalOfNat (n + 1)

/-- The value of a run of decimal digits, most significant first. -/
def natOfDigits (digits : List Nat) : Nat := digits.foldl (fun n d => 10 * n + d) 0

/-- The most digits a number may have in text. -/
def digitLimit : Nat := 4300

/-- The number has no more digits than text may hold. -/
def fitsInText (n : Int) : Bool := n.natAbs < 10 ^ digitLimit

/-- Why a number could not be read or written. -/
inductive NumeralError where
  /-- The text is no number. -/
  | malformed (text : Text)
  /-- The text holds a number of so many digits. -/
  | tooManyDigits (count : Nat)
  /-- The number has too many digits to be written. -/
  | tooLargeToWrite
deriving DecidableEq, Repr

namespace NumeralError

/-- A malformed number is shown quoted, cut after so many characters. -/
def shownLength : Nat := 200

def message : NumeralError → Text
  | malformed text =>
    "invalid literal for int() with base 10: " ++ (Text.quoted text).take shownLength
  | tooManyDigits count =>
    ("Exceeds the limit (4300 digits) for integer string conversion: value has "
      ++ decimalOfNat count
      ++ " digits; use sys.set_int_max_str_digits() to increase the limit")
  | tooLargeToWrite =>
    ("Exceeds the limit (4300 digits) for integer string conversion; "
      ++ "use sys.set_int_max_str_digits() to increase the limit")

end NumeralError

/-- Decimal text of an integer that is not too large for it. -/
def writeInteger (n : Int) : Except NumeralError Text :=
  if fitsInText n then .ok (decimal n) else .error .tooLargeToWrite

/-- Digits become their values, underscores stay, and anything else ends the
run; the rest of the text is returned with it. -/
def digitRun : Text → List (Option Nat) × Text
  | [] => ([], [])
  | c :: rest =>
    match Text.digitValue? c with
    | some d => let (run, tail) := digitRun rest; (some d :: run, tail)
    | none =>
      if c = '_' then let (run, tail) := digitRun rest; (none :: run, tail)
      else ([], c :: rest)

/-- Underscores stand between digits only, never two in a row. -/
def underscoresBetweenDigits : List (Option Nat) → Bool
  | [] => true
  | [d] => d.isSome
  | none :: _ => false
  | some _ :: none :: rest => !rest.isEmpty && underscoresBetweenDigits rest
  | some _ :: some d :: rest => underscoresBetweenDigits (some d :: rest)

/-- Blanks that may stand around a number: of the separator controls only
those beyond ASCII count. -/
def blankAroundNumber (c : CodePoint) : Bool := Text.isBlank c && !('\x1c' ≤ c && c ≤ '\x1f')

/-- Reads an integer: blanks, an optional sign, digits, blanks. -/
def readInteger (text : Text) : Except NumeralError Int :=
  let body := text.dropWhile blankAroundNumber
  let (negative, body) :=
    match body with
    | .char '-' :: rest => (true, rest)
    | .char '+' :: rest => (false, rest)
    | _ => (false, body)
  let (run, tail) := digitRun body
  let digits := run.filterMap id
  if run.isEmpty || !underscoresBetweenDigits run then .error (.malformed text)
  else if digitLimit < digits.length then .error (.tooManyDigits digits.length)
  else if !tail.all blankAroundNumber then .error (.malformed text)
  else .ok (if negative then -(natOfDigits digits : Int) else natOfDigits digits)

end MockApi
