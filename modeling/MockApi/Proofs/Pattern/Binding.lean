/-
What a match binds. Parts are only added on the way through a pattern, and a part
that every way through it finds is bound by every match (`Takes.exists_of_binds`).
Its text stands in that of the match (`get_infix_text`) and is spelled behind a label
of the pattern (`spells_get`).
-/
import MockApi.Proofs.Pattern.Sharp

namespace MockApi

namespace Found

variable {found : Found}

/-- A part that is found is among the parts. -/
theorem mem_of_get? {kind : Part} {text : Text} (h : get? kind found = some text) :
    (kind, text) ∈ found := by
  obtain ⟨entry, hentry, rfl⟩ := Option.map_eq_some_iff.1 h
  have hkind : decide (entry.1 = kind) = true := by simpa using List.find?_some hentry
  rw [← of_decide_eq_true hkind]
  exact List.mem_of_find?_eq_some hentry

/-- A kind that is among the parts is found. -/
theorem exists_get? {entry : Part × Text} (h : entry ∈ found) :
    ∃ text, get? entry.1 found = some text := by
  have hsome : (found.find? fun other => other.1 = entry.1).isSome = true :=
    List.find?_isSome.2 ⟨entry, h, decide_eq_true rfl⟩
  obtain ⟨first, hfirst⟩ := Option.isSome_iff_exists.1 hsome
  exact ⟨first.2, by rw [get?, hfirst]; rfl⟩

end Found

namespace Pattern

variable {kind : Part} {previous : Option CodePoint} {found later : Found} {p : Pattern} {t : Text}
  {c : Cursor} {m : Match}

/-- Every way through the pattern finds a part of the kind. -/
def binds (kind : Part) : Pattern → Bool
  | .seq p q => p.binds kind || q.binds kind
  | .either p q => p.binds kind && q.binds kind
  | .part label p => label == kind || p.binds kind
  | _ => false

/-- The parts found before are found afterwards. -/
theorem Takes.found_isSuffix (h : Takes p previous found t later) : found <:+ later := by
  induction h with
  | seq _ _ ihp ihq => exact ihp.trans ihq
  | first _ ih => exact ih
  | second _ ih => exact ih
  | present _ ih => exact ih
  | part _ ih => exact ih.trans (List.suffix_cons ..)
  | _ => exact List.suffix_refl _

/-- What a pattern binds is found wherever it takes a text. -/
theorem Takes.exists_of_binds (h : Takes p previous found t later) (hbinds : p.binds kind = true) :
    ∃ entry ∈ later, entry.1 = kind := by
  induction h with
  | seq _ second ihp ihq =>
    rw [binds, Bool.or_eq_true] at hbinds
    rcases hbinds with hp | hq
    · obtain ⟨entry, hmem, hkind⟩ := ihp hp
      exact ⟨entry, second.found_isSuffix.subset hmem, hkind⟩
    · exact ihq hq
  | first _ ih =>
    rw [binds, Bool.and_eq_true] at hbinds
    exact ih hbinds.1
  | second _ ih =>
    rw [binds, Bool.and_eq_true] at hbinds
    exact ih hbinds.2
  | @part _ _ _ label _ text _ ih =>
    rw [binds, Bool.or_eq_true, beq_iff_eq] at hbinds
    rcases hbinds with hlabel | hp
    · exact ⟨(label, text), List.mem_cons_self, hlabel⟩
    · obtain ⟨entry, hmem, hkind⟩ := ih hp
      exact ⟨entry, List.mem_cons_of_mem _ hmem, hkind⟩
  | _ => cases hbinds

/-- What is found on the way through a text stands in it. -/
theorem Takes.infix_of_mem (h : Takes p previous found t later) {entry : Part × Text}
    (hentry : entry ∈ later) : entry ∈ found ∨ entry.2 <:+: t := by
  induction h with
  | seq _ _ ihp ihq =>
    rcases ihq hentry with hbetween | hsecond
    · exact (ihp hbetween).imp_right fun hfirst => hfirst.trans (List.prefix_append ..).isInfix
    · exact .inr (hsecond.trans (List.suffix_append ..).isInfix)
  | first _ ih => exact ih hentry
  | second _ ih => exact ih hentry
  | present _ ih => exact ih hentry
  | part _ ih =>
    rcases List.mem_cons.1 hentry with rfl | hinner
    · exact .inr (List.infix_refl _)
    · exact ih hinner
  | _ => exact .inl hentry

-- ================================================================== matches

/-- The text of a part stands in the text of the match. -/
theorem get_infix_text (h : p.matchAt? c = some m) (kind : Part) : m.get kind <:+: m.text := by
  obtain ⟨-, -, htakes⟩ := takes_of_matchAt? h
  unfold Match.get
  cases hpart : m.parts.get? kind with
  | none => exact List.nil_infix
  | some text =>
    rw [← Parts.get?_texts] at hpart
    have hmem := Found.mem_of_get? hpart
    exact (htakes.infix_of_mem hmem).resolve_left List.not_mem_nil

/-- The text of a part that the pattern binds is spelled behind a label. -/
theorem spells_get (h : p.matchAt? c = some m) (hbinds : p.binds kind = true) :
    ∃ q ∈ p.behind kind, q.Spells (m.get kind) := by
  obtain ⟨-, -, htakes⟩ := takes_of_matchAt? h
  obtain ⟨entry, hentry, rfl⟩ := htakes.exists_of_binds hbinds
  obtain ⟨text, htext⟩ := Found.exists_get? hentry
  rw [Parts.get?_texts] at htext
  rw [Match.get, htext]
  exact spells_of_get? h htext

end Pattern

end MockApi
