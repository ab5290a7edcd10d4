/-
The document of a list of endpoints. It holds one entry for each of them, which says
its file as seen from the root, its line, its URL, its method and the text it was found
in (`IsEntry`); the entries stand in the order of what they say (`entryRank?`); and they
do not tell in which order the endpoints were found (`entries_canonical`).

Endpoints are told apart by file, URL and method, but sorted by file, line, method
and URL. So two of them tie only where they have one key (`eq_of_rank_eq`), as
long as the root leaves different files different (`KeepsFilesApart`), and a list
without ties has one sorted order.
-/
import Mathlib.Data.List.Perm.Basic
import Mathlib.Data.Prod.Lex
import MockApi.Proofs.Text.Basic
import MockApi.Proofs.Text.Order
import MockApi.Scan.Endpoint

namespace MockApi

namespace Endpoint

variable {root : Option FilePath} {endpoints others : List Endpoint}

-- ================================================================== rank

/-- What entries are sorted by: file, line, method, URL, the first difference
deciding, and texts by their code points. -/
def rank (e : Endpoint) : List Nat ×ₗ Int ×ₗ List Nat ×ₗ List Nat :=
  toLex (e.file.map CodePoint.toNat,
    toLex (e.line, toLex (e.method.map CodePoint.toNat, e.url.map CodePoint.toNat)))

/-- One endpoint precedes another if its rank is lower. -/
theorem precedes_iff (a b : Endpoint) : precedes a b = true ↔ rank a < rank b := by
  have htext (s t : Text) : s.map CodePoint.toNat = t.map CodePoint.toNat ↔ s = t :=
    CodePoint.toNat_injective.list_map.eq_iff
  simp only [rank, Prod.Lex.toLex_lt_toLex, htext, ← Text.precedes_iff]
  unfold precedes
  by_cases hfile : a.file = b.file
  · by_cases hline : a.line = b.line
    · by_cases hmethod : a.method = b.method
      · simp [hfile, hline, hmethod, Text.precedes_iff]
      · simp [hfile, hline, hmethod, Text.precedes_iff]
    · simp [hfile, hline, Text.precedes_iff]
  · simp [hfile]

/-- One endpoint may stand before another unless it has to come after it. -/
theorem not_precedes_iff (a b : Endpoint) : (!precedes b a) = true ↔ rank a ≤ rank b := by
  rw [Bool.not_eq_true', ← Bool.not_eq_true, precedes_iff, not_lt]

theorem perm_sorted (root : Option FilePath) (endpoints : List Endpoint) :
    (sorted root endpoints).Perm (endpoints.map (seenFrom root)) := List.mergeSort_perm ..

/-- The listed endpoints ascend in rank. -/
theorem pairwise_sorted (root : Option FilePath) (endpoints : List Endpoint) :
    (sorted root endpoints).Pairwise fun a b => rank a ≤ rank b := by
  have hpairwise : (sorted root endpoints).Pairwise fun a b => (!precedes b a) = true := by
    apply List.pairwise_mergeSort
    · intro a b c hab hbc
      rw [not_precedes_iff] at hab hbc ⊢
      exact hab.trans hbc
    · intro a b
      rw [Bool.or_eq_true, not_precedes_iff, not_precedes_iff]
      exact le_total ..
  exact hpairwise.imp fun h => (not_precedes_iff ..).1 h

-- ================================================================== ties

/-- Different files of the endpoints are different as seen from the root. -/
def KeepsFilesApart (root : Option FilePath) (endpoints : List Endpoint) : Prop :=
  ∀ a ∈ endpoints, ∀ b ∈ endpoints,
    (seenFrom root a).file = (seenFrom root b).file → a.file = b.file

@[simp] theorem seenFrom_url (root : Option FilePath) (e : Endpoint) :
    (seenFrom root e).url = e.url := by
  cases root <;> rfl

@[simp] theorem seenFrom_method (root : Option FilePath) (e : Endpoint) :
    (seenFrom root e).method = e.method := by
  cases root <;> rfl

/-- The rank tells the parts of the key. -/
theorem parts_of_rank_eq {a b : Endpoint} (h : rank a = rank b) :
    a.file = b.file ∧ a.url = b.url ∧ a.method = b.method := by
  have hparts := Prod.mk.inj h
  have hbehind := Prod.mk.inj (Prod.mk.inj hparts.2).2
  have hinjective := CodePoint.toNat_injective.list_map
  exact ⟨hinjective hparts.1, hinjective hbehind.2, hinjective hbehind.1⟩

/-- Endpoints with different keys do not tie. -/
theorem eq_of_rank_eq (apart : KeepsFilesApart root endpoints)
    (hkeys : (endpoints.map key).Nodup) {a b : Endpoint} (ha : a ∈ endpoints) (hb : b ∈ endpoints)
    (h : rank (seenFrom root a) = rank (seenFrom root b)) : a = b := by
  obtain ⟨hfile, hurl, hmethod⟩ := parts_of_rank_eq h
  have hfile := apart a ha b hb hfile
  have hkey : a.key = b.key := by
    rw [seenFrom_url, seenFrom_url] at hurl
    rw [seenFrom_method, seenFrom_method] at hmethod
    rw [key, key, hfile, hurl, hmethod]
  exact List.inj_on_of_nodup_map hkeys ha hb hkey

/-- Without ties there is one sorted order. -/
theorem sorted_eq_of_perm (apart : KeepsFilesApart root endpoints)
    (hkeys : (endpoints.map key).Nodup) (h : others.Perm endpoints) :
    sorted root others = sorted root endpoints := by
  have hothers : (sorted root others).Perm (endpoints.map (seenFrom root)) :=
    (perm_sorted root others).trans (h.map _)
  have hperm : (sorted root others).Perm (sorted root endpoints) :=
    hothers.trans (perm_sorted root endpoints).symm
  apply hperm.eq_of_pairwise _ (pairwise_sorted root others) (pairwise_sorted root endpoints)
  intro a b ha hb hab hba
  obtain ⟨a, hmema, rfl⟩ := List.mem_map.1 (hothers.subset ha)
  obtain ⟨b, hmemb, rfl⟩ := List.mem_map.1 ((perm_sorted root endpoints).subset hb)
  have heq : a = b := eq_of_rank_eq apart hkeys hmema hmemb (le_antisymm hab hba)
  rw [heq]

-- ================================================================ entries

/-- The entry says of the endpoint where it is, as seen from the root, what is called
there and how, and in which words. -/
def IsEntry (root : Option FilePath) (e : Endpoint) (entry : Json) : Prop :=
  entry = .ofFields
    [("file", .str (seenFrom root e).file), ("line", .int e.line), ("url", .str e.url),
     ("method", .str e.method), ("location", .str ((seenFrom root e).file ++ ":" ++ decimal e.line)),
     ("raw", .str e.raw)]

/-- What an entry is sorted by, read from its members: file, line, method, URL. -/
def entryRank? (entry : Json) : Option (List Nat ×ₗ Int ×ₗ List Nat ×ₗ List Nat) :=
  match entry.field? "file", entry.field? "line", entry.field? "method", entry.field? "url" with
  | some (.str file), some (.int line), some (.str method), some (.str url) =>
    some (toLex (file.map CodePoint.toNat,
      toLex (line, toLex (method.map CodePoint.toNat, url.map CodePoint.toNat))))
  | _, _, _, _ => none

@[simp] theorem seenFrom_line (root : Option FilePath) (e : Endpoint) :
    (seenFrom root e).line = e.line := by
  cases root <;> rfl

@[simp] theorem seenFrom_raw (root : Option FilePath) (e : Endpoint) :
    (seenFrom root e).raw = e.raw := by
  cases root <;> rfl

theorem isEntry_toJson (root : Option FilePath) (e : Endpoint) :
    IsEntry root e (seenFrom root e).toJson := by
  rw [IsEntry, toJson, location, seenFrom_line, seenFrom_url, seenFrom_method, seenFrom_raw]

/-- An entry has the rank of what it was made from. -/
theorem entryRank?_toJson (e : Endpoint) : entryRank? e.toJson = some (rank e) := by
  simp [entryRank?, toJson, Json.ofFields, Json.field?, Fields.get?, rank]

-- ============================================================== documents

/-- The entries of a document are one for each endpoint, sorted by what they say of file,
line, method and URL; and where no two endpoints have one key, the order in which they
come does not matter. -/
theorem entries_canonical (root : Option FilePath) (endpoints : List Endpoint)
    (apart : KeepsFilesApart root endpoints) :
    (∃ (arranged : List Endpoint) (listed : List Json),
      entries root endpoints = .arr listed
      ∧ arranged.Perm endpoints ∧ List.Forall₂ (IsEntry root) arranged listed
      ∧ listed.Pairwise fun a b =>
          ∃ first ∈ entryRank? a, ∃ second ∈ entryRank? b, first ≤ second)
    ∧ ((endpoints.map key).Nodup →
      ∀ others : List Endpoint, others.Perm endpoints →
        entries root others = entries root endpoints) := by
  obtain ⟨arranged, hsorted, hperm⟩ :=
    (congrFun₂ (List.eq_map_comp_perm (seenFrom root)) _ _).mpr (perm_sorted root endpoints)
  refine ⟨⟨arranged, (sorted root endpoints).map toJson, rfl, hperm, ?_, ?_⟩, ?_⟩
  · rw [hsorted, List.map_map, List.forall₂_map_right_iff, List.forall₂_same]
    exact fun e _ => isEntry_toJson root e
  · rw [List.pairwise_map]
    refine (pairwise_sorted root endpoints).imp fun {a b} hle => ?_
    exact ⟨rank a, entryRank?_toJson a, rank b, entryRank?_toJson b, hle⟩
  · intro hkeys others hothers
    rw [entries, entries, sorted_eq_of_perm apart hkeys hothers]

/-- Two files of a folder, found in either order. -/
theorem entries_canonical_pages :
    let home : Endpoint := ⟨"app/home.js", 7, "/users", "GET", "fetch('/users'"⟩
    let page : Endpoint := ⟨"app/about.js", 9, "/users", "GET", "fetch('/users'"⟩
    let root : Option FilePath := some (.ofText "app")
    KeepsFilesApart root [home, page] ∧ ([home, page].map key).Nodup
    ∧ entries root [page, home] = entries root [home, page] := by
  intro home page root
  have apart : KeepsFilesApart root [home, page] := by unfold KeepsFilesApart; decide
  have hkeys : ([home, page].map key).Nodup := by decide
  refine ⟨apart, hkeys, ?_⟩
  exact (entries_canonical root [home, page] apart).2 hkeys [page, home] (.swap ..)

end Endpoint

end MockApi
