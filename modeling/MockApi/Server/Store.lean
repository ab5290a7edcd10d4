/-
What stateful routes have recorded: a log of bodies per path, to which
bodies are only ever added. Paths keep the order in which they were first
recorded.
-/
import MockApi.Json.Basic

namespace MockApi

/-- The logs by path. -/
structure Store where
  logs : List (Text × List Json)

namespace Store

/-- Nothing recorded. -/
def empty : Store := ⟨[]⟩

/-- The log of a path, if anything was recorded there. -/
def log? (s : Store) (path : Text) : Option (List Json) := Fields.get? path s.logs

/-- The log of a path, empty if nothing was recorded there. -/
def log (s : Store) (path : Text) : List Json := (s.log? path).getD []

/-- Adds a body at the end of a path's log. -/
def append (s : Store) (path : Text) (body : Json) : Store :=
  ⟨Fields.put path (s.log path ++ [body]) s.logs⟩

/-- The number of paths with a log. -/
def size (s : Store) : Nat := s.logs.length

end Store

end MockApi
