/-
How much a pattern takes, and where it is found. A pattern whose runs are
bounded spells no texts longer than its width, and so the parts it labels are
no longer than the widths of the patterns behind the labels (`length_get_le`).
The matches in a text come in the order of their places, each behind the one
before (`pairwise_matchesIn`).
-/
import MockApi.Proofs.Pattern.Spelling

namespace MockApi

namespace Pattern

-- ================================================================== width

/-- The most characters that a pattern takes, if that is bounded. -/
def width? : Pattern → Option Nat
  | .piece t => some t.length
  | .run _ _ most => most
  | .seq p q => p.width?.bind fun m => q.width?.map fun n => m + n
  | .either p q => p.width?.bind fun m => q.width?.map fun n => max m n
  | .maybe p => p.width?
  | .part _ p => p.width?
  | .again _ => none
  | .notAfter _ => some 0
  | .wordEdge => some 0

/-- A part of the kind takes at most so many characters, wherever the pattern
has it. -/
def limits (kind : Part) (most : Nat) : Pattern → Bool
  | .seq p q => p.limits kind most && q.limits kind most
  | .either p q => p.limits kind most && q.limits kind most
  | .maybe p => p.limits kind most
  | .part label p => (label != kind || p.width?.any (· ≤ most)) && p.limits kind most
  | _ => true

/-- What a pattern spells is no longer than its width. -/
theorem Spells.length_le {p : Pattern} {t : Text} (h : p.Spells t) {w : Nat}
    (hwidth : p.width? = some w) : t.length ≤ w := by
  induction h generalizing w with
  | piece t => exact Nat.le_of_eq (Option.some.inj hwidth)
  | run passes enough bounded => exact bounded w hwidth
  | seq first second ihp ihq =>
    obtain ⟨m, hm, hrest⟩ := Option.bind_eq_some_iff.1 hwidth
    obtain ⟨n, hn, rfl⟩ := Option.map_eq_some_iff.1 hrest
    rw [List.length_append]
    exact Nat.add_le_add (ihp hm) (ihq hn)
  | first h ih =>
    obtain ⟨m, hm, hrest⟩ := Option.bind_eq_some_iff.1 hwidth
    obtain ⟨n, -, rfl⟩ := Option.map_eq_some_iff.1 hrest
    exact Nat.le_trans (ih hm) (Nat.le_max_left m n)
  | second h ih =>
    obtain ⟨m, -, hrest⟩ := Option.bind_eq_some_iff.1 hwidth
    obtain ⟨n, hn, rfl⟩ := Option.map_eq_some_iff.1 hrest
    exact Nat.le_trans (ih hn) (Nat.le_max_right m n)
  | present h ih => exact ih hwidth
  | part h ih => exact ih hwidth
  | again label t => cases hwidth
  | _ => exact Nat.zero_le w

/-- Behind the labels that a pattern limits stand patterns of no more than that width. -/
theorem width_le_of_limits {kind : Part} {most : Nat} {p q : Pattern}
    (limited : p.limits kind most = true) (hq : q ∈ p.behind kind) :
    ∃ w, q.width? = some w ∧ w ≤ most := by
  induction p with
  | seq first second ihp ihq =>
    rw [limits, Bool.and_eq_true] at limited
    -- what is behind a kind is behind it in one of the two
    rcases List.mem_append.1 hq with hmem | hmem
    · exact ihp limited.1 hmem
    · exact ihq limited.2 hmem
  | either first second ihp ihq =>
    rw [limits, Bool.and_eq_true] at limited
    rcases List.mem_append.1 hq with hmem | hmem
    · exact ihp limited.1 hmem
    · exact ihq limited.2 hmem
  | maybe p ih => exact ih limited hq
  | part label p ih =>
    rw [limits, Bool.and_eq_true, Bool.or_eq_true, bne_iff_ne] at limited
    rcases List.mem_append.1 hq with hmem | hmem
    -- the part is of this kind, and its pattern is bounded
    · split at hmem
      · next hlabel =>
        obtain rfl := List.mem_singleton.1 hmem
        obtain ⟨w, hw, hle⟩ := (Option.any_eq_true ..).1
          (limited.1.resolve_left fun hother => hother hlabel)
        exact ⟨w, hw, of_decide_eq_true hle⟩
      · cases hmem
    · exact ih limited.2 hmem
  | _ => cases hq

/-- A part that a pattern limits is no longer than the limit. -/
theorem length_get_le {kind : Part} {most : Nat} {p : Pattern} {m : Match} {c : Cursor}
    (limited : p.limits kind most = true) (h : p.matchAt? c = some m) :
    (m.get kind).length ≤ most := by
  unfold Match.get
  cases hpart : m.parts.get? kind with
  | none => exact Nat.zero_le most
  | some t =>
    obtain ⟨q, hq, hspells⟩ := spells_of_get? h hpart
    obtain ⟨w, hw, hmost⟩ := width_le_of_limits limited hq
    exact Nat.le_trans (hspells.length_le hw) hmost

end Pattern

-- ================================================================ matches

/-- The place so many characters behind the start of a text. -/
def Cursor.inText (text : Text) (offset : Nat) : Cursor :=
  ⟨(text.take offset).getLast?, text.drop offset, offset⟩

namespace Pattern

/-- A match among those in a text is one at some place. -/
theorem exists_of_mem_matchesFrom {p : Pattern} {m : Match} {text : Text}
    {previous : Option CodePoint} {offset passed : Nat}
    (h : m ∈ p.matchesFrom text previous offset passed) : ∃ c, p.matchAt? c = some m := by
  induction text generalizing previous offset passed with
  | nil =>
    rw [matchesFrom] at h
    cases h
  | cons c rest ih =>
    cases passed with
    | succ passed =>
      rw [matchesFrom] at h
      exact ih h
    | zero =>
      rw [matchesFrom] at h
      split at h
      · next found hfound =>
        rcases List.mem_cons.1 h with rfl | hlater
        · exact ⟨_, hfound⟩
        · exact ih hlater
      · exact ih h

theorem exists_of_mem_matchesIn {p : Pattern} {m : Match} {c : Cursor} (h : m ∈ p.matchesIn c) :
    ∃ start, p.matchAt? start = some m :=
  exists_of_mem_matchesFrom h

theorem start_of_matchAt? {p : Pattern} {m : Match} {c : Cursor} (h : p.matchAt? c = some m) :
    m.start = c := by
  obtain ⟨-, stop, new, -, -, hlead, -⟩ := exists_spelled p h
  rw [← Option.some.inj hlead]

/-- No match ends before it begins. -/
theorem offset_le_of_matchAt? {p : Pattern} {m : Match} {c : Cursor} (h : p.matchAt? c = some m) :
    c.offset ≤ m.stop.offset := by
  obtain ⟨t, stop, new, hpast, -, hlead, -⟩ := exists_spelled p h
  rw [← Option.some.inj hlead]
  show c.offset ≤ stop.offset
  rw [Cursor.offset_of_past? hpast]
  exact Nat.le_add_right ..

/-- A match starts behind the characters passed over and before the end of the
text, and does not end before it starts. -/
theorem bounds_of_mem_matchesFrom {p : Pattern} {m : Match} {text : Text}
    {previous : Option CodePoint} {offset passed : Nat}
    (h : m ∈ p.matchesFrom text previous offset passed) :
    offset + passed ≤ m.start.offset ∧ m.start.offset < offset + text.length
      ∧ m.start.offset ≤ m.stop.offset := by
  -- the offset grows with what is passed, so each match begins within what is left
  induction text generalizing previous offset passed with
  | nil =>
    rw [matchesFrom] at h
    cases h
  | cons c rest ih =>
    rw [List.length_cons]
    cases passed with
    | succ passed =>
      rw [matchesFrom] at h
      obtain ⟨hfirst, hlast, hspan⟩ := ih h
      omega
    | zero =>
      rw [matchesFrom] at h
      split at h
      · next found hfound =>
        rcases List.mem_cons.1 h with rfl | hlater
        · have hspan := offset_le_of_matchAt? hfound
          rw [start_of_matchAt? hfound]
          refine ⟨Nat.le_refl _, ?_, hspan⟩
          show offset < offset + (rest.length + 1)
          omega
        · obtain ⟨hfirst, hlast, hspan⟩ := ih hlater
          omega
      · obtain ⟨hfirst, hlast, hspan⟩ := ih h
        omega

/-- Every match starts where the one before has ended, or further on. -/
theorem pairwise_matchesFrom (p : Pattern) (text : Text) (previous : Option CodePoint)
    (offset passed : Nat) :
    (p.matchesFrom text previous offset passed).Pairwise fun a b =>
      a.start.offset < b.start.offset ∧ a.stop.offset ≤ b.start.offset := by
  induction text generalizing previous offset passed with
  | nil =>
    rw [matchesFrom]
    exact .nil
  | cons c rest ih =>
    cases passed with
    | succ passed =>
      rw [matchesFrom]
      exact ih ..
    | zero =>
      rw [matchesFrom]
      split
      · next found hfound =>
        refine List.pairwise_cons.2 ⟨fun later hlater => ?_, ih ..⟩
        obtain ⟨hfirst, -, -⟩ := bounds_of_mem_matchesFrom hlater
        have hspan := offset_le_of_matchAt? hfound
        rw [start_of_matchAt? hfound]
        show offset < _ ∧ _
        omega
      · exact ih ..

theorem bounds_of_mem_matchesIn {p : Pattern} {m : Match} {c : Cursor} (h : m ∈ p.matchesIn c) :
    c.offset ≤ m.start.offset ∧ m.start.offset < c.offset + c.rest.length
      ∧ m.start.offset ≤ m.stop.offset :=
  bounds_of_mem_matchesFrom h

/-- A match behind a front begins at its place in the whole text. -/
theorem start_of_mem_matchesFrom {p : Pattern} {m : Match} (before : Text) {text : Text}
    {passed : Nat} (h : m ∈ p.matchesFrom text before.getLast? before.length passed) :
    m.start = .inText (before ++ text) m.start.offset := by
  induction text generalizing before passed with
  | nil =>
    rw [matchesFrom] at h
    cases h
  | cons c rest ih =>
    -- the induction is on what is left, with what was passed moved to the front
    have later : ∀ {passed}, m ∈ p.matchesFrom rest (some c) (before.length + 1) passed →
        m.start = .inText (before ++ c :: rest) m.start.offset := by
      intro passed hlater
      have hbefore := @ih (before ++ [c]) passed
      rw [List.getLast?_concat, List.length_append, List.append_assoc] at hbefore
      exact hbefore hlater
    cases passed with
    | succ passed =>
      rw [matchesFrom] at h
      exact later h
    | zero =>
      rw [matchesFrom] at h
      split at h
      · next found hfound =>
        rcases List.mem_cons.1 h with rfl | hlater
        · rw [start_of_matchAt? hfound, Cursor.inText, List.take_left, List.drop_left]
        · exact later hlater
      · exact later h

/-- A match in a text starts at the place that its offset tells. -/
theorem start_of_mem_matchesIn {p : Pattern} {m : Match} {text : Text}
    (h : m ∈ p.matchesIn (.ofText text)) : m.start = .inText text m.start.offset :=
  start_of_mem_matchesFrom [] h

theorem pairwise_matchesIn (p : Pattern) (c : Cursor) :
    (p.matchesIn c).Pairwise fun a b =>
      a.start.offset < b.start.offset ∧ a.stop.offset ≤ b.start.offset :=
  pairwise_matchesFrom ..

end Pattern

end MockApi
