/-
Where a project keeps what the program reads and writes: a directory of its
own below the project's root.
-/
import MockApi.Disk.FilePath

namespace MockApi

/-- A project by its root directory. -/
structure Project where
  root : FilePath

namespace Project

/-- The directory of all artifacts. -/
def directory (p : Project) : FilePath := p.root.child ".mockgen"

/-- The discovered endpoints. -/
def endpointsFile (p : Project) : FilePath := p.directory.child "endpoints.json"

/-- The mock bundle. -/
def bundleFile (p : Project) : FilePath := p.directory.child "mock.json"

/-- The configuration. -/
def configFile (p : Project) : FilePath := p.directory.child "config.json"

/-- The directory of mocks with a file each. -/
def mocksDirectory (p : Project) : FilePath := p.directory.child "mocks"

/-- The API description in a format. -/
def descriptionFile (p : Project) (format : Text) : FilePath :=
  p.directory.child ("swagger." ++ format)

end Project

end MockApi
