/-
Extractors. An extractor scans many files with a number of workers: one worker
takes them one after the other, more of them share the files out in a pool. What
is found is merged in the order of the files, each endpoint once.

A file that the system refuses is passed over, like one that is no text. What
stops a scan is only a path that the system cannot be asked about at all.
-/
import MockApi.Scan.Workspace

namespace MockApi

/-- Does some work on every item of a list, with a number of workers. -/
abbrev Pool (α β : Type) := Nat → (α → β) → List α → List β

/-- The results come in the order of the items. -/
def Pool.IsOrdered {α β : Type} (pool : Pool α β) : Prop :=
  ∀ workers work items, pool workers work items = items.map work

/-- Scans files. -/
structure Extractor where
  workers : Int := 1
  /-- The most bytes of a file. -/
  limit : Int := Source.defaultLimit

namespace Extractor

/-- The number of workers; at least one is. -/
def crew (x : Extractor) : Nat := (max 1 x.workers).toNat

/-- Does some work on every item, in a pool if there is something to share out
and someone to share it with. -/
def share {α β : Type} (x : Extractor) (pool : Pool α β) (work : α → β) (items : List α) : List β :=
  if x.crew = 1 ∨ items.length < 2 then items.map work else pool x.crew work items

/-- The endpoints of some files, each once. -/
def extract (x : Extractor) (pool : Pool Source (List Endpoint)) (sources : List Source) :
    List Endpoint :=
  Endpoint.deduplicate (x.share pool Source.endpoints sources).flatten

/-- The endpoints of a file on a disk. -/
def scanFile (x : Extractor) (disk : Disk) (path : Text) : Except DiskError (List Endpoint) :=
  match Source.readText disk path x.limit with
  | .ok text => .ok (Source.endpoints { path, text })
  | .error ⟨_, .disk cause⟩ => if cause.isNoPath then .error cause else .ok []
  | .error _ => .ok []

/-- The source files below a directory, none if there is no such directory. -/
def discover (disk : Disk) (root : FilePath) : Except DiskError (List FilePath) :=
  match disk.locate root with
  | .error cause => if cause.isNoPath then .error cause else .ok []
  | .ok _ => .ok (Workspace.sourceFiles disk root)

/-- The endpoints of the source files below a directory, each once. -/
def scan (x : Extractor) (pool : Pool Text (Except DiskError (List Endpoint))) (disk : Disk)
    (root : FilePath) : Except DiskError (List Endpoint) := do
  let paths ← discover disk root
  let found ← (x.share pool (x.scanFile disk) (paths.map FilePath.text)).mapM id
  return Endpoint.deduplicate found.flatten

end Extractor

end MockApi
