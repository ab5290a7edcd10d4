/-
File paths as text, with slashes between their parts. A path is read once
into its anchor and its parts: empty parts and parts of a single point fall
away, a part of two points stays. So two spellings of a path are equal when
they are the same text after reading.
-/
import MockApi.Text.Case

namespace MockApi

/-- Where a path starts. Two slashes in front are an anchor of their own, any
other number of them is one. -/
inductive PathAnchor where
  | relative
  | root
  | doubleRoot
deriving DecidableEq, Repr

def PathAnchor.text : PathAnchor → Text
  | relative => []
  | root => "/"
  | doubleRoot => "//"

/-- A file path. -/
structure FilePath where
  anchor : PathAnchor
  parts : List Text
deriving DecidableEq, Repr

namespace FilePath

/-- Reads a path. -/
def ofText (t : Text) : FilePath :=
  let slashes := (t.takeWhile (· == ('/' : CodePoint))).length
  { anchor := if slashes = 0 then .relative else if slashes = 2 then .doubleRoot else .root
    parts := (Text.splitOn '/' t).filter fun part => !(part.isEmpty || part == ".") }

instance : Coe Text FilePath := ⟨ofText⟩

/-- The text of a path; the empty relative path is a single point. -/
def text (p : FilePath) : Text :=
  if p.anchor = .relative ∧ p.parts = [] then "."
  else p.anchor.text ++ Text.join "/" p.parts

/-- A path seen from another one: an anchored path stays what it is. -/
def append (p q : FilePath) : FilePath :=
  if q.anchor = .relative then { p with parts := p.parts ++ q.parts } else q

instance : Append FilePath := ⟨append⟩

/-- The path behind a name in the directory. -/
def child (p : FilePath) (name : Text) : FilePath := p ++ ofText name

/-- The path to which some names lead from the path of a directory. -/
def descend (p : FilePath) (names : List Text) : FilePath := { p with parts := p.parts ++ names }

/-- The directory that holds the path. -/
def parent (p : FilePath) : FilePath := { p with parts := p.parts.dropLast }

/-- What is left of a path that lies under another one. -/
def relativeTo? (p root : FilePath) : Option FilePath :=
  if p.anchor = root.anchor ∧ root.parts.isPrefixOf p.parts then
    some { anchor := .relative, parts := p.parts.drop root.parts.length }
  else none

/-- The path as seen from a directory, every step back taken away together
with the step before it. -/
def resolvedFrom (directory p : FilePath) : FilePath :=
  let path := directory ++ p
  { path with parts := path.parts.foldl (fun parts (part : Text) =>
      if part = ".." then parts.dropLast else parts ++ [part]) [] }

/-- The last part from its last point on, where that is neither its first nor
its last character. -/
def suffix (p : FilePath) : Text :=
  let name := p.parts.getLastD []
  let tail := Text.afterLast '.' name
  let front := name.length - tail.length - 1
  if tail.isEmpty || tail.length = name.length || front = 0 then [] else '.' :: tail

end FilePath

end MockApi
