/-
What the singular of a resource does to its shape. The shape is chosen by the first
keyword that stands in the name, and the name lacks a final s of the segment; so a
keyword that does not end in s chooses for the name as it does for the segment, since no
keyword in front of it stands in the name that does not stand in the segment.

One keyword ends in s: an `address` at the end of a segment loses it and with it its
shape (`shape_kept_iff`).
-/
import Mathlib.Data.List.Nodup
import MockApi.Proofs.Mock.Resource
import MockApi.Proofs.Text.Case

namespace MockApi.Resource

variable {url segment keyword text : Text} {parts : List Text}

-- ================================================================ the keyword

/-- The keyword is the first one of the shapes that stands in the text, whatever the case
of its letters. -/
def Chooses (keyword text : Text) : Prop :=
  ∃ front behind, shapes.map (·.1) = front ++ keyword :: behind
    ∧ keyword <:+: Text.lower text ∧ ∀ other ∈ front, ¬other <:+: Text.lower text

theorem shapeFor?_eq_some_iff {entry : Text × (Int → Moment → Fields)} :
    shapeFor? text = some entry
      ↔ entry.1 <:+: Text.lower text ∧ ∃ front behind, shapes = front ++ entry :: behind
        ∧ ∀ other ∈ front, ¬other.1 <:+: Text.lower text := by
  rw [shapeFor?, List.find?_eq_some_iff_append, Text.hasPiece_iff]
  simp only [Bool.not_eq_true', ← Bool.not_eq_true, Text.hasPiece_iff]

/-- The shape is that of the keyword. -/
theorem chooses_iff : Chooses keyword text ↔ ∃ build, shapeFor? text = some (keyword, build) := by
  constructor
  · rintro ⟨front, behind, heq, hpiece, hfront⟩
    obtain ⟨before, rest, hshapes, rfl, hrest⟩ := List.map_eq_append_iff.1 heq
    obtain ⟨⟨_, build⟩, after, rfl, rfl, -⟩ := List.map_eq_cons_iff.1 hrest
    refine ⟨build, shapeFor?_eq_some_iff.2 ⟨hpiece, before, after, hshapes, ?_⟩⟩
    exact fun other hother => hfront other.1 (List.mem_map_of_mem hother)
  · rintro ⟨build, hfound⟩
    obtain ⟨hpiece, before, after, hshapes, hbefore⟩ := shapeFor?_eq_some_iff.1 hfound
    refine ⟨before.map (·.1), after.map (·.1), ?_, hpiece, ?_⟩
    · rw [hshapes, List.map_append, List.map_cons]
    · intro other hother
      obtain ⟨entry, hentry, rfl⟩ := List.mem_map.1 hother
      exact hbefore entry hentry

/-- Texts for which the same keyword chooses have resources of the same shape. -/
theorem mock_eq_of_chooses {other : Text} (h : Chooses keyword text) (h' : Chooses keyword other)
    (id : Int) (now : Moment) : mock text id now = mock other id now := by
  obtain ⟨build, hbuild⟩ := chooses_iff.1 h
  obtain ⟨build', hbuild'⟩ := chooses_iff.1 h'
  have hkeys : (shapes.map (·.1)).Nodup := by decide
  have heq := List.inj_on_of_nodup_map hkeys (List.mem_of_find?_eq_some hbuild)
    (List.mem_of_find?_eq_some hbuild') rfl
  unfold mock
  rw [hbuild, hbuild', heq]

-- ================================================================ the segment

/-- The segment that names a resource: the last one, or the one in front of it where the
last one is numeric or a parameter. -/
def namingSegment? (parts : List Text) : Option Text :=
  if parts.getLast?.any Path.isIdentity then parts.dropLast.getLast? else parts.getLast?

/-- The segment names the resource of the URL. -/
def IsNamedBy (url segment : Text) : Prop :=
  ∃ parts, Path.routeSegments url = .ok parts ∧ namingSegment? parts = some segment

theorem namingSegment?_eq (parts : List Text) :
    namingSegment? parts
      = (if parts.getLast?.any Path.isIdentity then parts.dropLast else parts).getLast? := by
  unfold namingSegment?
  split <;> rfl

/-- The segment that names a resource is one of its URL's. -/
theorem isSegment_of_namingSegment? (hparts : ∀ s ∈ parts, Path.IsSegment s)
    (h : namingSegment? parts = some segment) : Path.IsSegment segment := by
  unfold namingSegment? at h
  split at h
  · exact hparts segment (List.dropLast_subset _ (List.mem_of_getLast? h))
  · exact hparts segment (List.mem_of_getLast? h)

/-- The text without a small s behind it, and a word for a thing if that leaves nothing. -/
def singular (text : Text) : Text :=
  let name := if text.getLast? = some (.char 's') then text.dropLast else text
  if name = [] then "resource" else name

/-- The name of a resource is the singular of the segment that names it. -/
theorem nameOf_of_isNamedBy (named : IsNamedBy url segment) :
    nameOf url = .ok (singular segment) := by
  obtain ⟨parts, hparts, hsegment⟩ := named
  rw [namingSegment?_eq] at hsegment
  unfold nameOf singular
  rw [hparts]
  change Except.ok _ = _
  simp only [List.getLastD_eq_getLast?, hsegment, Option.getD_some, beq_iff_eq, List.isEmpty_iff]
  rfl

theorem singular_of_getLast? (hlast : text.getLast? = some (.char 's')) (h : text.dropLast ≠ []) :
    singular text = text.dropLast := by
  unfold singular
  rw [if_pos hlast, if_neg h]

theorem singular_of_getLast?_ne (h : text ≠ []) (hlast : text.getLast? ≠ some (.char 's')) :
    singular text = text := by
  unfold singular
  rw [if_neg hlast, if_neg h]

-- ================================================================ the singular

/-- All keywords are in lower case letters, and one of them ends in s. -/
theorem of_mem_keywords (h : keyword ∈ shapes.map (·.1)) :
    Text.IsAscii keyword ∧ (keyword.getLast? = some (.char 's') → keyword = "address") := by
  have hall : ∀ k ∈ shapes.map (·.1), Text.IsAscii k
      ∧ (k.getLast? = some (.char 's') → k = "address") := by
    decide
  exact hall keyword h

theorem not_isInfix_s (h : keyword ∈ shapes.map (·.1)) : ¬keyword <:+: Text.lower "s" := by
  have hall : ∀ k ∈ shapes.map (·.1), ¬k <:+: Text.lower "s" := by decide
  exact hall keyword h

/-- A keyword that chooses for a text chooses for it without a final s if it still
stands in it. -/
theorem chooses_iff_of_chooses_concat (h : Chooses keyword (text ++ "s")) :
    Chooses keyword text ↔ keyword <:+: Text.lower text := by
  obtain ⟨front, behind, heq, hpiece, hfront⟩ := h
  refine ⟨fun ⟨_, _, _, hstands, _⟩ => hstands, fun hstands => ⟨front, behind, heq, hstands, ?_⟩⟩
  intro other hother hfound
  have hkeyword : other ∈ shapes.map (·.1) := heq ▸ List.mem_append_left _ hother
  exact hfront other hother (Text.isInfix_lower_concat (of_mem_keywords hkeyword).1 hfound)

/-- Every keyword but for an address does. -/
theorem isInfix_of_chooses_concat (h : Chooses keyword (text ++ "s")) (hne : keyword ≠ "address") :
    keyword <:+: Text.lower text := by
  obtain ⟨front, behind, heq, hpiece, -⟩ := h
  have hmem : keyword ∈ shapes.map (·.1) := by
    rw [heq]
    simp
  obtain ⟨hascii, hlast⟩ := of_mem_keywords hmem
  exact (Text.isInfix_lower_concat_iff hascii (mt hlast hne)).1 hpiece

/-- The keyword is the address that a segment ends in, and does not stand in the segment
once the final s is gone. -/
def LosesAddress (keyword segment : Text) : Prop :=
  keyword = "address" ∧ segment.getLast? = some (.char 's')
    ∧ ¬("address" : Text) <:+: Text.lower segment.dropLast

/-- The singular chooses what its segment chose, unless that ends in the keyword
of addresses. -/
theorem chooses_singular_iff (hne : segment ≠ []) (chosen : Chooses keyword segment) :
    Chooses keyword (singular segment) ↔ ¬LosesAddress keyword segment := by
  by_cases hlast : segment.getLast? = some (.char 's')
  · have hsplit : segment.dropLast ++ ("s" : Text) = segment :=
      List.dropLast_append_getLast? _ hlast
    rw [← hsplit] at chosen
    have hsome : segment.dropLast ≠ [] := by
      intro hnil
      rw [hnil] at chosen
      obtain ⟨front, behind, heq, hpiece, -⟩ := chosen
      exact not_isInfix_s (by rw [heq]; simp) hpiece
    rw [singular_of_getLast? hlast hsome, chooses_iff_of_chooses_concat chosen]
    constructor
    · rintro hstands ⟨rfl, -, hnot⟩
      exact hnot hstands
    · intro hkept
      by_cases haddress : keyword = "address"
      · rw [haddress]
        exact Decidable.not_not.1 fun hnot => hkept ⟨haddress, hlast, hnot⟩
      · exact isInfix_of_chooses_concat chosen haddress
  · rw [singular_of_getLast?_ne hne hlast]
    exact iff_of_true chosen fun hlost => hlast hlost.2.1

/-- The keyword that chooses the shape for a segment chooses it for the resource's name as
well, and the resource has the shape that the segment names, unless the segment is an
address that loses its final s. -/
theorem shape_kept_iff (named : IsNamedBy url segment) (chosen : Chooses keyword segment) :
    ∃ name, nameOf url = .ok name
      ∧ (Chooses keyword name ↔ ¬LosesAddress keyword segment)
      ∧ (Chooses keyword name → ∀ id now, mock name id now = mock segment id now) := by
  have hne : segment ≠ [] := by
    obtain ⟨parts, hparts, hsegment⟩ := named
    exact (isSegment_of_namingSegment? (Path.of_routeSegments hparts).2 hsegment).ne_nil
  refine ⟨singular segment, nameOf_of_isNamedBy named, chooses_singular_iff hne chosen, ?_⟩
  exact fun hchosen => mock_eq_of_chooses hchosen chosen

/-- A segment in which a sigma ends the word as soon as the s is gone. -/
def sigmaSegment : Text := "CART-\u039f\u03a3s"

/-- A final sigma, which has a lower case of its own, does not lose the shape. -/
theorem shape_kept_iff_sigma :
    IsNamedBy "//h/v1/CART-\u039f\u03a3s/:id?x#y" sigmaSegment ∧ Chooses "cart" sigmaSegment
      ∧ ∃ name, nameOf "//h/v1/CART-\u039f\u03a3s/:id?x#y" = .ok name ∧ Chooses "cart" name
        ∧ ∀ id now, mock name id now = mock sigmaSegment id now := by
  have named : IsNamedBy "//h/v1/CART-\u039f\u03a3s/:id?x#y" sigmaSegment :=
    ⟨["v1", sigmaSegment, ":id"], by rfl, by rfl⟩
  have chosen : Chooses "cart" sigmaSegment :=
    ⟨(shapes.map (·.1)).take 12, [], by decide +kernel, by decide +kernel, by decide +kernel⟩
  obtain ⟨name, hname, hiff, hshape⟩ := shape_kept_iff named chosen
  have hchosen := hiff.2 fun hlost => absurd hlost.1 (by decide)
  exact ⟨named, chosen, name, hname, hchosen, hshape hchosen⟩

/-- An address loses its shape to the plain one. -/
theorem address_lost :
    nameOf "/customers/7/address" = .ok "addres" ∧ IsNamedBy "/customers/7/address" "address"
      ∧ Chooses "address" "address" ∧ ∀ keyword, ¬Chooses keyword "addres" := by
  have hnone : shapeFor? "addres" = none := by rfl
  refine ⟨by rfl, ⟨["customers", "7", "address"], by rfl, by rfl⟩,
    chooses_iff.2 ⟨fun id _ => address id, by rfl⟩, fun keyword hchosen => ?_⟩
  obtain ⟨build, hbuild⟩ := chooses_iff.1 hchosen
  rw [hnone] at hbuild
  cases hbuild

end MockApi.Resource
