/-
YAML text of a value, in block style: a key or an item per line, the lists
of a mapping not indented under their key, empty collections in brackets.
Scalars are folded behind column 80 where a single blank allows it.

The text grows on a `Page`, which knows its column, whether a blank was
written last, and whether the line holds nothing but indentation so far; a
step of writing moves the page on.
-/
import MockApi.Json.Printer
import MockApi.Yaml.Scalar

namespace MockApi.Yaml

/-- A page that is being written. -/
structure Page where
  /-- The text so far, backwards. -/
  written : Text
  column : Nat
  /-- A blank or nothing was written last. -/
  blank : Bool
  /-- The line holds nothing but indentation and its marks. -/
  indenting : Bool

/-- The column behind which scalars are folded. -/
def width : Nat := 80

/-- The columns of a level. -/
def step : Nat := 2

namespace Page

def empty : Page := ⟨[], 0, true, true⟩

def text (p : Page) : Text := p.written.reverse

/-- Writes text on the line. -/
def put (p : Page) (t : Text) : Page :=
  { p with written := t.reverse ++ p.written, column := p.column + t.length }

/-- Ends the line with a line break. -/
def breakLine (p : Page) (c : CodePoint) : Page := ⟨c :: p.written, 0, true, true⟩

/-- Goes to a column at the start of a line, on a new line unless the page is
there already. -/
def toColumn (p : Page) (column : Nat) : Page :=
  let p :=
    if !p.indenting || column < p.column || (p.column == column && !p.blank) then p.breakLine '\n'
    else p
  if p.column < column then
    { p.put (Text.copies (column - p.column) ' ') with blank := true }
  else p

/-- Writes a mark, behind a blank if it needs one and there is none. -/
def mark (p : Page) (t : Text) (needsBlank blank indenting : Bool) : Page :=
  let p := p.put (if p.blank || !needsBlank then t else " " ++ t)
  { p with blank, indenting := p.indenting && indenting }

end Page

-- ============================================================= scalars

/-- Runs of characters of one kind. -/
def runs (kind : CodePoint → Nat) (t : Text) : List Text := t.splitBy fun a b => kind a == kind b

/-- Writes plain text, folding it at single blanks if it may be split. -/
def plain (indent : Nat) (split : Bool) (t : Text) (p : Page) : Page :=
  if t.isEmpty then p
  else
    let p := { (if p.blank then p else p.put " ") with blank := false, indenting := false }
    (runs (fun c => if c = ' ' then 1 else 0) t).foldl (fun p (run : Text) =>
      if run = " " ∧ width < p.column ∧ split then
        { p.toColumn indent with blank := false, indenting := false }
      else p.put run) p

/-- The kinds of characters between single quotes: blanks, line breaks,
quotes and the rest. -/
def singleKind (c : CodePoint) : Nat :=
  if c = ' ' then 1 else if isBreak c then 2 else if c = '\'' then 3 else 0

/-- Writes a run of line breaks: a line feed in front counts twice. -/
def breaks (indent : Nat) (run : Text) (p : Page) : Page :=
  let p := if run.head? == some '\n' then p.breakLine '\n' else p
  (run.foldl Page.breakLine p).toColumn indent

/-- Writes runs between single quotes. -/
def singleRuns (indent : Nat) (split first : Bool) : List Text → Page → Page
  | [], p => p
  | run :: rest, p =>
    let p :=
      match run.head?.map singleKind with
      | some 1 =>
        if run.length = 1 ∧ width < p.column ∧ split ∧ !first ∧ !rest.isEmpty then p.toColumn indent
        else p.put run
      | some 2 => breaks indent run p
      | some 3 => p.put (run ++ run)
      | _ => p.put run
    singleRuns indent split false rest p

/-- Writes text between single quotes, a quote in it twice. -/
def single (indent : Nat) (split : Bool) (t : Text) (p : Page) : Page :=
  let p := p.mark "'" true false false
  (singleRuns indent split true (runs singleKind t) p).mark "'" false false false

/-- Escapes of one letter. -/
def letterEscapes : List (CodePoint × CodePoint) :=
  [('\x00', '0'), ('\x07', 'a'), ('\x08', 'b'), ('\t', 't'), ('\n', 'n'), ('\x0b', 'v'),
   ('\x0c', 'f'), ('\r', 'r'), ('\x1b', 'e'), ('"', '"'), ('\\', '\\'), ('\x85', 'N'),
   ('\xa0', '_'), ('\u2028', 'L'), ('\u2029', 'P')]

/-- Upper-case hexadecimal digits. -/
def upperHex (width n : Nat) : Text := (Text.hex width n).map (·.mapChar Char.toUpper)

/-- The escape of a character. -/
def escape (c : CodePoint) : Text :=
  match letterEscapes.find? (·.1 == c) with
  | some (_, letter) => ['\\', letter]
  | none =>
    if c.toNat ≤ 0xff then "\\x" ++ upperHex 2 c.toNat
    else if c.toNat ≤ 0xffff then "\\u" ++ upperHex 4 c.toNat
    else "\\U" ++ upperHex 8 c.toNat

/-- A character that stands for itself between double quotes. -/
def isLiteral (c : CodePoint) : Bool :=
  let n := c.toNat
  ((0x20 ≤ n && n ≤ 0x7e) || (0xa0 ≤ n && n ≤ 0xd7ff) || (0xe000 ≤ n && n ≤ 0xfffd))
    && !(c == '"' || c == '\\' || c == '\u2028' || c == '\u2029' || c == '\ufeff')

/-- Ends a line between double quotes, with a mark for a blank that the next
line starts with. -/
def foldDouble (indent : Nat) (next : Option CodePoint) (p : Page) : Page :=
  let p := { (p.put "\\").toColumn indent with blank := false, indenting := false }
  if next == some ' ' then p.put "\\" else p

/-- Writes characters between double quotes. `pending` holds, backwards, those
read but not yet written; `first` says that none was read. A line may end
in front of a blank or an escape, but not at either end of the text. -/
def doubleChars (indent : Nat) (split first : Bool) (pending : Text) : Text → Page → Page
  | [], p => p.put pending.reverse
  | c :: rest, p =>
    let inside := split && !first && 1 ≤ rest.length
    if isLiteral c then
      if inside && (c == ' ' || pending.isEmpty) && width < p.column + pending.length then
        doubleChars indent split false [c] rest
          (foldDouble indent (some c) (p.put pending.reverse))
      else doubleChars indent split false (c :: pending) rest p
    else
      let p := (p.put pending.reverse).put (escape c)
      let p := if inside && width + 1 < p.column then foldDouble indent rest.head? p else p
      doubleChars indent split false [] rest p

/-- Writes text between double quotes. -/
def double (indent : Nat) (split : Bool) (t : Text) (p : Page) : Page :=
  let p := p.mark "\"" true false false
  (doubleChars indent split true [] t p).mark "\"" false false false

/-- Writes a text in its style. -/
def scalar (indent : Nat) (split : Bool) (t : Text) (p : Page) : Page :=
  match styleOf t with
  | .plain => plain indent split t p
  | .single => single indent split t p
  | .double => double indent split t p

/-- Floating point numbers in YAML: always with a point. -/
def yamlFloat : FloatLayout := { jsonFloat with
  pointBeforeExponent := true
  nan := ".nan"
  infinity := ".inf"
  negativeInfinity := "-.inf" }

-- ========================================================= collections

/-- The column of what is inside a level; nothing is around the outermost. -/
def inner (indent : Option Nat) : Nat :=
  match indent with
  | none => 0
  | some n => n + step

/-- The column where the folded lines of a scalar go on. -/
def folded (indent : Option Nat) : Nat := indent.getD 0 + step

mutual

/-- Writes a value inside a level; `inMapping` says that it is a key's. -/
def node (inMapping : Bool) (indent : Option Nat) : Json → Page → Page
  | .null, p => plain (folded indent) true "null" p
  | .bool true, p => plain (folded indent) true "true" p
  | .bool false, p => plain (folded indent) true "false" p
  | .int n, p => plain (folded indent) true (decimal n) p
  | .float x, p => plain (folded indent) true (yamlFloat.text x) p
  | .str t, p => scalar (folded indent) true t p
  | .arr [], p => (p.mark "[" true true false).mark "]" false false false
  | .arr (item :: rest), p =>
    let column := if inMapping && !p.indenting then indent.getD 0 else inner indent
    items column (item :: rest) p
  | .obj [], p => (p.mark "\x7b" true true false).mark "\x7d" false false false
  | .obj (field :: rest), p => fields (inner indent) (field :: rest) p

/-- Writes the items of a list at a column. -/
def items (column : Nat) : List Json → Page → Page
  | [], p => p
  | item :: rest, p =>
    let p := (p.toColumn column).mark "-" true false true
    items column rest (node false (some column) item p)

/-- Writes the keys of a mapping with their values at a column. A key that is
not simple stands on lines of its own. -/
def fields (column : Nat) : List (Text × Json) → Page → Page
  | [], p => p
  | (key, value) :: rest, p =>
    let p := p.toColumn column
    let p :=
      if isSimpleKey key then
        (scalar (column + step) false key p).mark ":" false false false
      else
        let p := scalar (column + step) true key (p.mark "?" true false true)
        (p.toColumn column).mark ":" true false true
    fields column rest (node true (some column) value p)

end

/-- The YAML text of a value. -/
def text (v : Json) : Text := ((node false none v .empty).toColumn 0).text

/-- The YAML text of a value whose integers can all be written. -/
def write (v : Json) : Except NumeralError Text :=
  if v.isWritable then .ok (text v) else .error .tooLargeToWrite

end MockApi.Yaml
