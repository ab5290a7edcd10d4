/-
Patterns over text. A pattern is tried at a cursor, which knows the
character before it and all text behind it; runs take as many characters as
they can and give them back one by one, and the first way through wins. So
there is at most one match at a place, and what it binds is determined.

Matches are collected from the front: the next one is looked for behind the
last one. A text that ends early ends the matches in it, but a cursor in the
middle of a text still knows the character before it.
-/
import MockApi.Text.Blank
import MockApi.Text.Word

namespace MockApi

/-- A place in a text. -/
structure Cursor where
  previous : Option CodePoint
  rest : Text
  offset : Nat

namespace Cursor

/-- The start of a text. -/
def ofText (t : Text) : Cursor := ⟨none, t, 0⟩

/-- The same place in a text that ends so many characters behind it. -/
def within (size : Nat) (c : Cursor) : Cursor := { c with rest := c.rest.take size }

/-- The place behind a piece of text, if the piece stands here. -/
def past? : Cursor → Text → Option Cursor
  | c, [] => some c
  | c, x :: piece =>
    match c.rest with
    | [] => none
    | y :: rest => if x = y then past? ⟨some y, rest, c.offset + 1⟩ piece else none

/-- The text between two places. -/
def upTo (start stop : Cursor) : Text := start.rest.take (stop.offset - start.offset)

end Cursor

/-- What a part of a match is. -/
inductive Part where
  | name
  | object
  | verb
  | url
  | quote
  /-- The letters in front of a string literal. -/
  | mark
  | arguments
  | hook
deriving DecidableEq, Repr

/-- The parts found so far, the latest first, each from a place to a place. -/
abbrev Parts := List (Part × Cursor × Cursor)

/-- The text of a part. -/
def Parts.get? (part : Part) (parts : Parts) : Option Text :=
  (parts.find? fun entry => entry.1 = part).map fun entry => entry.2.1.upTo entry.2.2

/-- A pattern. -/
inductive Pattern where
  | piece (t : Text)
  /-- At least and at most so many characters that pass a test. -/
  | run (test : CodePoint → Bool) (least : Nat) (most : Option Nat)
  | seq (first second : Pattern)
  | either (first second : Pattern)
  | maybe (p : Pattern)
  | part (part : Part) (p : Pattern)
  /-- The text of a part once more. -/
  | again (part : Part)
  /-- The character before fails a test, or there is none. -/
  | notAfter (test : CodePoint → Bool)
  /-- A word starts or ends here. -/
  | wordEdge

namespace Pattern

instance : Coe String Pattern := ⟨fun s => .piece s⟩

instance : Append Pattern := ⟨.seq⟩

/-- The first of some patterns that leads on. -/
def oneOf : List Pattern → Pattern
  | [] => .run (fun _ => false) 1 (some 1)
  | [p] => p
  | p :: rest => .either p (oneOf rest)

/-- One character that passes a test. -/
def char (test : CodePoint → Bool) : Pattern := .run test 1 (some 1)

/-- One of the characters of a text. -/
def charIn (chars : Text) : Pattern := char fun c => chars.contains c

/-- Blanks, or none. -/
def blanks : Pattern := .run Text.isBlank 0 none

/-- At least one blank. -/
def someBlanks : Pattern := .run Text.isBlank 1 none

/-- Takes characters that pass a test, and leads on from as far as possible. -/
def runFrom {α : Type} (test : CodePoint → Bool) (lead : Cursor → Option α) :
    Text → Option CodePoint → Nat → Nat → Option Nat → Option α
  | [], previous, offset, least, _ => if least = 0 then lead ⟨previous, [], offset⟩ else none
  | c :: rest, previous, offset, least, most =>
    let here (_ : Unit) : Option α :=
      if least = 0 then lead ⟨previous, c :: rest, offset⟩ else none
    if most ≠ some 0 ∧ test c then
      match runFrom test lead rest (some c) (offset + 1) (least - 1) (most.map (· - 1)) with
      | some found => some found
      | none => here ()
    else here ()

/-- The words differ on both sides of a place. -/
def isWordEdge (c : Cursor) : Bool := c.previous.any Text.isWord != c.rest.head?.any Text.isWord

/-- Tries a pattern at a place, and leads on behind it with the parts found:
the first way that leads to a result. -/
def walk {α : Type} : Pattern → Cursor → Parts → (Cursor → Parts → Option α) → Option α
  | .piece t, c, parts, lead =>
    match c.past? t with
    | some c => lead c parts
    | none => none
  | .run test least most, c, parts, lead =>
    runFrom test (fun c => lead c parts) c.rest c.previous c.offset least most
  | .seq p q, c, parts, lead => p.walk c parts fun c parts => q.walk c parts lead
  | .either p q, c, parts, lead =>
    match p.walk c parts lead with
    | some found => some found
    | none => q.walk c parts lead
  | .maybe p, c, parts, lead =>
    match p.walk c parts lead with
    | some found => some found
    | none => lead c parts
  | .part label p, c, parts, lead =>
    p.walk c parts fun stop parts => lead stop ((label, c, stop) :: parts)
  | .again label, c, parts, lead =>
    match (parts.get? label).bind c.past? with
    | some c => lead c parts
    | none => none
  | .notAfter test, c, parts, lead => if c.previous.any test then none else lead c parts
  | .wordEdge, c, parts, lead => if isWordEdge c then lead c parts else none

end Pattern

/-- Where a pattern was found, and its parts. -/
structure Match where
  start : Cursor
  stop : Cursor
  parts : Parts

namespace Match

def text (m : Match) : Text := m.start.upTo m.stop

/-- The text of a part, empty if the match has no such part. -/
def get (m : Match) (part : Part) : Text := (m.parts.get? part).getD []

end Match

namespace Pattern

/-- The match at a place. -/
def matchAt? (p : Pattern) (c : Cursor) : Option Match :=
  p.walk c [] fun stop parts => some ⟨c, stop, parts⟩

/-- The matches in a text, the first so many characters passed over. -/
def matchesFrom (p : Pattern) : Text → Option CodePoint → Nat → Nat → List Match
  | [], _, _, _ => []
  | c :: rest, _, offset, passed + 1 => p.matchesFrom rest (some c) (offset + 1) passed
  | c :: rest, previous, offset, 0 =>
    match p.matchAt? ⟨previous, c :: rest, offset⟩ with
    | some m => m :: p.matchesFrom rest (some c) (offset + 1) (m.stop.offset - offset - 1)
    | none => p.matchesFrom rest (some c) (offset + 1) 0

/-- The matches of a pattern that takes at least one character, in order and
without overlaps. -/
def matchesIn (p : Pattern) (c : Cursor) : List Match :=
  p.matchesFrom c.rest c.previous c.offset 0

/-- The first match. -/
def firstIn? (p : Pattern) (c : Cursor) : Option Match := (p.matchesIn c).head?

end Pattern

end MockApi
