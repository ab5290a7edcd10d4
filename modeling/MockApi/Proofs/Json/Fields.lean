/-
Laws of ordered fields: what a key reads after another was set, where a new
key goes, and that setting a key never makes it occur twice.
-/
import Mathlib.Algebra.GroupWithZero.Nat
import Mathlib.Data.List.Induction
import MockApi.Json.Basic

namespace MockApi.Fields

variable {α : Type} {key other : Text} {value : α} {fields : List (Text × α)}

-- ============================================================== reading

/-- A field that was set is found. -/
@[simp]
theorem get?_put_self (key : Text) (value : α) (fields : List (Text × α)) :
    get? key (put key value fields) = some value := by
  induction fields with
  | nil => simp [put, get?]
  | cons field rest ih =>
    unfold put
    split
    · next h => simp [get?, h]
    · next h => simp [get?, h, ih]

/-- The other fields are found as before. -/
theorem get?_put_of_ne (h : key ≠ other) (value : α) (fields : List (Text × α)) :
    get? other (put key value fields) = get? other fields := by
  induction fields with
  | nil => simp [put, get?, h]
  | cons field rest ih =>
    unfold put
    split
    · next hkey =>
      have hother : field.1 ≠ other := hkey ▸ h
      simp [get?, hother]
    · next hkey => simp [get?, ih]

/-- A value that is found stands under its key. -/
theorem mem_of_get?_eq_some (h : get? key fields = some value) : (key, value) ∈ fields := by
  induction fields with
  | nil => cases h
  | cons field rest ih =>
    unfold get? at h
    split at h
    · next hkey =>
      rw [← hkey, ← Option.some.inj h]
      exact List.mem_cons_self
    · exact List.mem_cons_of_mem _ (ih h)

/-- A key is found if some field has it. -/
theorem get?_isSome_iff : (get? key fields).isSome = true ↔ key ∈ fields.map (·.1) := by
  induction fields with
  | nil => simp [get?]
  | cons field rest ih =>
    unfold get?
    split
    · next h => simp [h]
    · next h =>
      rw [ih, List.map_cons, List.mem_cons, or_iff_right (Ne.symm h)]

/-- What stands in front is read first. -/
theorem get?_append_of_eq_some (h : get? key fields = some value) (behind : List (Text × α)) :
    get? key (fields ++ behind) = some value := by
  induction fields with
  | nil => cases h
  | cons field rest ih =>
    unfold get? at h
    rw [List.cons_append, get?]
    split at h
    · next hkey => rw [if_pos hkey, h]
    · next hkey => rw [if_neg hkey, ih h]

/-- A key that the front lacks is looked up behind it. -/
theorem get?_append_of_not_mem (h : key ∉ fields.map (·.1)) (behind : List (Text × α)) :
    get? key (fields ++ behind) = get? key behind := by
  induction fields with
  | nil => rfl
  | cons field rest ih =>
    rw [List.map_cons, List.mem_cons, not_or] at h
    rw [List.cons_append, get?, if_neg (Ne.symm h.1), ih h.2]

/-- Where no key stands twice, what stands under a key is read. -/
theorem get?_eq_some_of_mem (distinct : (fields.map (·.1)).Nodup) (h : (key, value) ∈ fields) :
    get? key fields = some value := by
  induction fields with
  | nil => cases h
  | cons field rest ih =>
    rw [List.map_cons, List.nodup_cons] at distinct
    rw [get?]
    rcases List.mem_cons.1 h with rfl | hrest
    · exact if_pos rfl
    · have hne : field.1 ≠ key := fun heq => distinct.1 (heq ▸ List.mem_map_of_mem hrest)
      rw [if_neg hne, ih distinct.2 hrest]

/-- Values are read as what they were mapped to. -/
theorem get?_map {β : Type} (f : α → β) (key : Text) (fields : List (Text × α)) :
    get? key (fields.map fun field => (field.1, f field.2)) = (get? key fields).map f := by
  induction fields with
  | nil => rfl
  | cons field rest ih =>
    rw [List.map_cons, get?, get?]
    split
    · rfl
    · exact ih

-- =============================================================== setting

/-- A new key goes to the end. -/
theorem put_of_not_mem (value : α) (h : key ∉ fields.map (·.1)) :
    put key value fields = fields ++ [(key, value)] := by
  induction fields with
  | nil => rfl
  | cons field rest ih =>
    rw [List.map_cons, List.mem_cons, not_or] at h
    unfold put
    rw [if_neg (Ne.symm h.1), ih h.2]
    rfl

/-- A key that is new to the front is set behind it. -/
theorem put_append_of_not_mem (value : α) (h : key ∉ fields.map (·.1))
    (behind : List (Text × α)) :
    put key value (fields ++ behind) = fields ++ put key value behind := by
  induction fields with
  | nil => rfl
  | cons field rest ih =>
    rw [List.map_cons, List.mem_cons, not_or] at h
    rw [List.cons_append, put, if_neg (Ne.symm h.1), ih h.2]
    rfl

theorem put_cons_self (key : Text) (old value : α) (rest : List (Text × α)) :
    put key value ((key, old) :: rest) = (key, value) :: rest := by
  rw [put, if_pos rfl]

/-- A known key stays where it is. -/
theorem map_fst_put_of_mem (value : α) (h : key ∈ fields.map (·.1)) :
    (put key value fields).map (·.1) = fields.map (·.1) := by
  induction fields with
  | nil => cases h
  | cons field rest ih =>
    unfold put
    split
    · rfl
    · next hne =>
      have hrest : key ∈ rest.map (·.1) := by
        rcases List.mem_cons.1 h with rfl | hmem
        · exact absurd rfl hne
        · exact hmem
      rw [List.map_cons, ih hrest, List.map_cons]

/-- The keys behind a setting are the earlier ones and the one that was set. -/
theorem mem_map_fst_put :
    other ∈ (put key value fields).map (·.1) ↔ other = key ∨ other ∈ fields.map (·.1) := by
  by_cases hmem : key ∈ fields.map (·.1)
  · rw [map_fst_put_of_mem value hmem]
    exact ⟨Or.inr, fun hor => hor.elim (fun heq => heq ▸ hmem) id⟩
  · rw [put_of_not_mem value hmem, List.map_append, List.mem_append, List.map_singleton,
      List.mem_singleton, or_comm]

/-- To set a field makes no key stand twice. -/
theorem nodup_put (value : α) (h : (fields.map (·.1)).Nodup) :
    ((put key value fields).map (·.1)).Nodup := by
  by_cases hmem : key ∈ fields.map (·.1)
  · rw [map_fst_put_of_mem value hmem]
    exact h
  · rw [put_of_not_mem value hmem, List.map_append, List.map_singleton, List.nodup_append]
    refine ⟨h, by simp, ?_⟩
    intro a ha b hb hab
    rw [List.mem_singleton] at hb
    rw [hab, hb] at ha
    exact hmem ha

/-- A field behind a setting is the one that was set or an earlier one. -/
theorem mem_put {field : Text × α} (h : field ∈ put key value fields) :
    field = (key, value) ∨ field ∈ fields := by
  induction fields with
  | nil => exact Or.inl (List.mem_singleton.1 h)
  | cons first rest ih =>
    unfold put at h
    split at h
    · next hkey =>
      rcases List.mem_cons.1 h with rfl | hmem
      · exact Or.inl (by rw [hkey])
      · exact Or.inr (List.mem_cons_of_mem _ hmem)
    · rcases List.mem_cons.1 h with rfl | hmem
      · exact Or.inr List.mem_cons_self
      · rcases ih hmem with heq | hrest
        · exact Or.inl heq
        · exact Or.inr (List.mem_cons_of_mem _ hrest)

/-- What is set of pairs is among them. -/
theorem mem_ofPairs {pairs : List (Text × α)} {field : Text × α} (h : field ∈ ofPairs pairs) :
    field ∈ pairs := by
  have hfold : ∀ (pairs : List (Text × α)) (start : List (Text × α)),
      field ∈ pairs.foldl (fun fields pair => put pair.1 pair.2 fields) start →
        field ∈ start ∨ field ∈ pairs := by
    intro pairs
    induction pairs with
    | nil => exact fun _ h => Or.inl h
    | cons pair rest ih =>
      intro start h
      rcases ih _ h with hput | hrest
      · rcases mem_put hput with rfl | hstart
        · exact Or.inr List.mem_cons_self
        · exact Or.inl hstart
      · exact Or.inr (List.mem_cons_of_mem _ hrest)
  rcases hfold pairs [] h with hnil | hmem
  · cases hnil
  · exact hmem

/-- Of pairs that are set one after another, a key's last one has the say. -/
theorem get?_ofPairs (key : Text) (pairs : List (Text × α)) :
    get? key (ofPairs pairs) = get? key pairs.reverse := by
  induction pairs using List.reverseRecOn with
  | nil => rfl
  | append_singleton pairs last ih =>
    have hlast : ofPairs (pairs ++ [last]) = put last.1 last.2 (ofPairs pairs) := by
      rw [ofPairs, List.foldl_append]
      rfl
    rw [hlast, List.reverse_append, List.reverse_singleton, List.singleton_append, get?]
    split
    · next hkey => rw [hkey, get?_put_self]
    · next hkey => rw [get?_put_of_ne hkey, ih]

/-- A measure summed over all values grows by what the new value has more than
the old one. -/
theorem sum_put (f : α → Nat) (key : Text) (value : α) (fields : List (Text × α)) :
    ((put key value fields).map (f ·.2)).sum + (get? key fields).elim 0 f
      = (fields.map (f ·.2)).sum + f value := by
  induction fields with
  | nil => simp [put, get?]
  | cons field rest ih =>
    unfold put get?
    split
    · simp only [List.map_cons, List.sum_cons, Option.elim_some]
      omega
    · simp only [List.map_cons, List.sum_cons]
      omega

end MockApi.Fields
