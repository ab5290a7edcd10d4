/-
Laws of the store of logs. Recording a body makes its path's log one longer
and touches no other; the number of recorded bodies is the sum of the lengths
of the logs, and no path has two logs.
-/
import MockApi.Proofs.Json.Fields
import MockApi.Server.Store

namespace MockApi.Store

def paths (s : Store) : List Text := s.logs.map (·.1)

/-- The number of recorded bodies. -/
def count (s : Store) : Nat := (s.logs.map (·.2.length)).sum

-- ================================================================ logs

@[simp]
theorem log_empty (path : Text) : empty.log path = [] := rfl

@[simp]
theorem log?_append_self (s : Store) (path : Text) (body : Json) :
    (s.append path body).log? path = some (s.log path ++ [body]) :=
  Fields.get?_put_self ..

theorem log?_append_of_ne {path other : Text} (h : path ≠ other) (s : Store) (body : Json) :
    (s.append path body).log? other = s.log? other :=
  Fields.get?_put_of_ne h ..

/-- Recording adds to the log of its path alone. -/
theorem log_append (s : Store) (path other : Text) (body : Json) :
    (s.append path body).log other = s.log other ++ if path = other then [body] else [] := by
  unfold log
  split
  · next h => rw [← h, log?_append_self, Option.getD_some, log]
  · next h => rw [log?_append_of_ne h, List.append_nil]

/-- A path has a log after a recording if it had one, or if it is the path of
the recording. -/
theorem log?_append_isSome (s : Store) (path other : Text) (body : Json) :
    ((s.append path body).log? other).isSome = true
      ↔ path = other ∨ (s.log? other).isSome = true := by
  by_cases h : path = other
  · subst h
    simp
  · simp [log?_append_of_ne h, h]

-- ============================================================== the whole

theorem nodup_paths_append {s : Store} (h : s.paths.Nodup) (path : Text) (body : Json) :
    (s.append path body).paths.Nodup :=
  Fields.nodup_put _ h

/-- No log that is there is empty. -/
theorem log_append_ne_nil {s : Store} (h : ∀ path ∈ s.paths, s.log path ≠ []) (path : Text)
    (body : Json) : ∀ other ∈ (s.append path body).paths, (s.append path body).log other ≠ [] := by
  intro other hmem
  rw [log_append]
  by_cases hpath : path = other
  · simp [hpath]
  · have hsome := Fields.get?_isSome_iff.2 hmem
    rw [← log?, log?_append_isSome, or_iff_right hpath] at hsome
    have hold := h other (Fields.get?_isSome_iff.1 hsome)
    simpa [hpath] using hold

/-- One record is counted more. -/
theorem count_append (s : Store) (path : Text) (body : Json) :
    (s.append path body).count = s.count + 1 := by
  have hsum := Fields.sum_put List.length path (s.log path ++ [body]) s.logs
  have hlog : (Fields.get? path s.logs).elim 0 List.length = (s.log path).length := by
    unfold log log?
    cases Fields.get? path s.logs with
    | none => rfl
    | some log => rfl
  rw [hlog, List.length_append, List.length_singleton] at hsum
  change ((Fields.put path (s.log path ++ [body]) s.logs).map (·.2.length)).sum
    = (s.logs.map (·.2.length)).sum + 1
  omega

end MockApi.Store
