/-
Reloads are whole or nothing. `Reloaded` lists the three ways a reload can go:
the bundle file is read and its table put in place of the old one, or it is
flawed, or it cannot be read at all; only the first changes the server, and
that only in its routes.

The new table is told without the recursion that builds it: it holds the routes
of the entries that are definitions, in the order of the file, so an entry that
is none might as well not be there (`reload_atomic`).
-/
import MockApi.Proofs.Document
import MockApi.Proofs.Route.Table
import MockApi.Proofs.Server.Run

namespace MockApi

-- ================================================================== entries

/-- The entries that a bundle file holds: those of its document, and none where
there is no file. -/
inductive Bundle.HasEntries [JsonReader] (disk : Disk) (path : FilePath) : Fields → Prop where
  | absent (noFile : disk.isFile path = .ok false) : HasEntries disk path []
  | parsed {entries : Fields} (file : disk.isFile path = .ok true)
    (document : Document.read disk path = .ok (.obj entries)) : HasEntries disk path entries

/-- A bundle that was loaded has the entries of its file. -/
theorem Bundle.hasEntries_of_load [JsonReader] {disk : Disk} {path : FilePath} {entries : Fields}
    (h : Bundle.load disk path = .ok entries) : Bundle.HasEntries disk path entries := by
  unfold load at h
  split at h
  · cases h
  · next hfile =>
    rw [← Except.ok.inj h]
    exact .absent hfile
  · next hfile =>
    split at h
    · next hread =>
      rw [← Except.ok.inj h]
      exact .parsed hfile hread
    · cases h
    · cases h
    · cases h
    · cases h

namespace Server

variable {s : Server} {disk : Disk} {project : Project}

-- =============================================================== the reload

/-- The ways a reload can go, each with its result and the server behind it. -/
inductive Reloaded [JsonReader] (s : Server) (disk : Disk) (project : Project) :
    Except BundleError Bool → Server → Prop where
  /-- The bundle has been read. -/
  | replaced {entries : Fields} (loaded : Bundle.load disk project.bundleFile = .ok entries) :
    Reloaded s disk project (.ok true)
      { s with routes := entries.filterMap (Route.ofEntry? .pairs) }
  /-- The bundle is flawed. -/
  | kept {flaw : BundleFlaw}
    (flawed : Bundle.load disk project.bundleFile = .error (.flawed flaw)) :
    Reloaded s disk project (.ok false) s
  /-- The bundle cannot be read, and not for a flaw. -/
  | failed {e : BundleError} (unread : Bundle.load disk project.bundleFile = .error e)
    (noFlaw : ∀ flaw, e ≠ .flawed flaw) : Reloaded s disk project (.error e) s

/-- Every reload goes one of the ways that `Reloaded` lists. -/
theorem reloaded [JsonReader] (s : Server) (disk : Disk) (project : Project) :
    Reloaded s disk project (s.reload disk project).1 (s.reload disk project).2.1 := by
  unfold reload
  split
  · next entries hload =>
    simp only [RouteTable.ofEntries_fst]
    exact .replaced hload
  · next flaw hload => exact .kept hload
  · next e hnoFlaw hload => exact .failed hload hnoFlaw

/-- A reload that installs no table leaves the server as it was. -/
theorem reload_of_ne [JsonReader] (h : (s.reload disk project).1 ≠ .ok true) :
    (s.reload disk project).2.1 = s := by
  have hreloaded := s.reloaded disk project
  generalize (s.reload disk project).1 = result, (s.reload disk project).2.1 = t at h hreloaded ⊢
  cases hreloaded with
  | replaced => exact absurd rfl h
  | kept => rfl
  | failed => rfl

/-- A reload ends in a result if and only if the reader of the bundle's document
decides. -/
theorem reload_isOk_iff [JsonReader] (named : project.bundleFile.IsNamed) (s : Server) :
    (∃ changed, (s.reload disk project).1 = .ok changed)
      ↔ Document.IsDecided disk project.bundleFile := by
  have hreloaded := s.reloaded disk project
  rw [← Bundle.load_isFlawed_iff named]
  generalize (s.reload disk project).1 = result, (s.reload disk project).2.1 = t at hreloaded ⊢
  cases hreloaded with
  | replaced hload =>
    refine iff_of_true ⟨true, rfl⟩ fun e he => ?_
    rw [hload] at he
    cases he
  | @kept flaw hload =>
    refine iff_of_true ⟨false, rfl⟩ fun e he => ⟨flaw, ?_⟩
    rw [hload] at he
    exact (Except.error.inj he).symm
  | @failed e hload hnoFlaw =>
    refine iff_of_false ?_ fun h => ?_
    · rintro ⟨changed, h⟩
      cases h
    · obtain ⟨flaw, rfl⟩ := h e hload
      exact hnoFlaw flaw rfl

theorem reload_of_flawed [JsonReader] {flaw : BundleFlaw}
    (flawed : Bundle.load disk project.bundleFile = .error (.flawed flaw)) (s : Server) :
    s.reload disk project
      = (.ok false, s, [keptRoutes flaw s.routes].filter s.config.threshold.keeps) := by
  unfold reload
  rw [flawed]

/-- A bundle of too many ones stops the reload. -/
theorem reload_of_ones [JsonReader] {n : Nat} (hlength : digitLimit < n)
    (h : disk.read project.bundleFile = .ok (List.replicate n 0x31)) (s : Server) :
    s.reload disk project = (.error (.numeral (.tooManyDigits n)), s, []) := by
  have hload : Bundle.load disk project.bundleFile = .error (.numeral (.tooManyDigits n)) := by
    unfold Bundle.load
    rw [Disk.isFile_of_read h, Document.read_of_ones hlength h]
  unfold reload
  rw [hload]

/-- Whatever the bundle file holds and whatever comes of it, a reload changes
the routes only. It leaves them as they are unless it returns that there are new
ones, and then all of them are those of the file's entries. -/
theorem reload_atomic [JsonReader] (s : Server) (disk : Disk) (project : Project) :
    let result := (s.reload disk project).1
    let t := (s.reload disk project).2.1
    t = { s with routes := t.routes }
      ∧ (result ≠ .ok true → t.routes = s.routes)
      ∧ (result = .ok true → ∃ entries, Bundle.HasEntries disk project.bundleFile entries
        ∧ t.routes = entries.filterMap (Route.ofEntry? .pairs)
        ∧ (∀ route ∈ t.routes, Path.canonical route.pattern = route.pattern)
        ∧ ∀ earlier entry later, entries = earlier ++ entry :: later →
          (∀ definition, Definition.ofJson .pairs entry.2 ≠ .ok definition) →
          t.routes = (earlier ++ later).filterMap (Route.ofEntry? .pairs)) := by
  intro result t
  refine ⟨?_, fun h => congrArg routes (reload_of_ne h), ?_⟩
  · obtain ⟨routes, h⟩ := s.reload_server project disk
    change (s.reload disk project).2.1 = { s with routes := (s.reload disk project).2.1.routes }
    rw [h]
  · intro h
    have hreloaded : Reloaded s disk project result t := s.reloaded disk project
    -- of the ways of a reload, only the one with a bundle says that the routes are new
    generalize t = t at hreloaded ⊢
    rw [h] at hreloaded
    cases hreloaded with
    | @replaced entries hload =>
      refine ⟨entries, Bundle.hasEntries_of_load hload, rfl, ?_, ?_⟩
      · intro route hroute
        obtain ⟨entry, -, hentry⟩ := List.mem_filterMap.1 hroute
        exact Route.canonical_ofEntry? hentry
      -- an entry without a definition is passed over by the filter
      · rintro earlier entry later rfl hrejected
        simp only [List.filterMap_append, List.filterMap_cons,
          Route.ofEntry?_eq_none hrejected]

end Server

end MockApi
