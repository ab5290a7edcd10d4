/-
The dialects of source text that are scanned, told by the extension of a
file. A dialect's own client libraries are named here too: calls on them are
found by rules of their own.
-/
import MockApi.Disk.FilePath

namespace MockApi

/-- A family of languages whose calls look alike. -/
inductive Dialect where
  | javascript
  | python
  | rust
  | java
  | go
deriving DecidableEq, Repr

namespace Dialect

/-- The dialects by name. -/
def names : List (Text × Dialect) :=
  [("javascript", javascript), ("python", python), ("rust", rust), ("java", java), ("go", go)]

/-- The dialect of a name. -/
def ofName? (name : Text) : Option Dialect :=
  (names.find? fun entry => entry.1 == name).map (·.2)

def name : Dialect → Text
  | javascript => "javascript"
  | python => "python"
  | rust => "rust"
  | java => "java"
  | go => "go"

/-- The dialects by the extension of a file. -/
def extensions : List (Text × Dialect) :=
  [(".js", javascript), (".jsx", javascript), (".mjs", javascript), (".cjs", javascript),
   (".ts", javascript), (".tsx", javascript), (".py", python), (".rs", rust), (".java", java),
   (".kt", java), (".go", go)]

/-- The dialect of a file, whatever the case of its extension. -/
def ofPath? (path : FilePath) : Option Dialect :=
  (extensions.find? fun entry => entry.1 == Text.lower path.suffix).map (·.2)

/-- The names under which a dialect's client libraries are used unless a file
renames them. -/
def clientLibraries : Dialect → List Text
  | javascript => ["axios"]
  | python => ["requests", "httpx"]
  | _ => []

end Dialect

end MockApi
