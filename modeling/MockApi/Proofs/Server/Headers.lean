/-
Header lines by name. Names of header lines are compared in any case, and lines that are
sent have theirs in lower case: a definition's names are written so, and a name that can
be sent at all takes one byte for each character, on which the lower case is settled after
one turn (`isLowered_of_build`). So setting a header leaves one line of its name in any
case and touches no other name's (`linesOf_setHeader`, `linesOf_setHeader_of_ne`).
-/
import MockApi.Proofs.Server.Response
import MockApi.Proofs.Text.Case

namespace MockApi.Response

variable {name other value : Text} {headers : List (Text × Text)} {line : Text × Text}

/-- The lines of a name, which is given in lower case, whatever case they have it in. -/
def linesOf (name : Text) (headers : List (Text × Text)) : List (Text × Text) :=
  headers.filter fun line => Text.lower line.1 == name

/-- The name has one line, and it has the value. -/
def HasOne (name value : Text) (headers : List (Text × Text)) : Prop :=
  linesOf name headers = [(name, value)]

/-- Every line has its name in lower case. -/
def IsLowered (headers : List (Text × Text)) : Prop :=
  ∀ line ∈ headers, Text.lower line.1 = line.1

@[simp]
theorem isLowered_nil : IsLowered [] := nofun

@[simp]
theorem isLowered_cons :
    IsLowered (line :: headers) ↔ Text.lower line.1 = line.1 ∧ IsLowered headers :=
  List.forall_mem_cons

@[simp]
theorem isLowered_append {more : List (Text × Text)} :
    IsLowered (headers ++ more) ↔ IsLowered headers ∧ IsLowered more :=
  List.forall_mem_append

theorem linesOf_append (name : Text) (headers more : List (Text × Text)) :
    linesOf name (headers ++ more) = linesOf name headers ++ linesOf name more :=
  List.filter_append headers more

theorem linesOf_cons_of_eq (h : Text.lower line.1 = name) (headers : List (Text × Text)) :
    linesOf name (line :: headers) = line :: linesOf name headers :=
  List.filter_cons_of_pos (by rw [h]; exact BEq.rfl)

theorem linesOf_cons_of_ne (h : Text.lower line.1 ≠ name) (headers : List (Text × Text)) :
    linesOf name (line :: headers) = linesOf name headers :=
  List.filter_cons_of_neg (by rwa [beq_iff_eq])

/-- A name that no line has has no lines. -/
theorem linesOf_eq_nil (h : ∀ line ∈ headers, Text.lower line.1 ≠ name) :
    linesOf name headers = [] := by
  refine List.filter_eq_nil_iff.2 fun line hline => ?_
  rw [beq_iff_eq]
  exact h line hline

-- ============================================================ setting a header

/-- A name in lower case is set among lines in lower case. -/
theorem IsLowered.setHeader (h : IsLowered headers) (hname : Text.lower name = name)
    (value : Text) : IsLowered (setHeader name value headers) := by
  induction headers with
  | nil => exact isLowered_cons.2 ⟨hname, isLowered_nil⟩
  | cons line rest ih =>
    obtain ⟨hline, hrest⟩ := isLowered_cons.1 h
    rw [Response.setHeader]
    split
    · exact isLowered_cons.2 ⟨hname, fun kept hkept => hrest kept (List.mem_filter.1 hkept).1⟩
    · exact isLowered_cons.2 ⟨hline, ih hrest⟩

/-- A header that was set has one line. -/
theorem linesOf_setHeader (h : IsLowered headers) (hname : Text.lower name = name) :
    linesOf name (setHeader name value headers) = [(name, value)] := by
  induction headers with
  | nil => exact linesOf_cons_of_eq hname []
  | cons line rest ih =>
    obtain ⟨hline, hrest⟩ := isLowered_cons.1 h
    rw [setHeader]
    split
    · rw [linesOf_cons_of_eq hname, linesOf_eq_nil]
      intro kept hkept
      obtain ⟨hmem, hkept⟩ := List.mem_filter.1 hkept
      rw [hrest kept hmem]
      simpa using hkept
    · next hother =>
      rw [← hline] at hother
      rw [linesOf_cons_of_ne hother, ih hrest]

/-- The lines of another name stay as they are. -/
theorem linesOf_setHeader_of_ne (h : IsLowered headers) (hname : Text.lower name = name)
    (hother : other ≠ name) :
    linesOf other (setHeader name value headers) = linesOf other headers := by
  have hset : Text.lower name ≠ other := by rw [hname]; exact hother.symm
  induction headers with
  | nil => exact linesOf_cons_of_ne hset []
  | cons line rest ih =>
    obtain ⟨hline, hrest⟩ := isLowered_cons.1 h
    rw [setHeader]
    split
    · next hsame =>
      rw [linesOf_cons_of_ne hset, linesOf_cons_of_ne (by rwa [hline, hsame, ← hname])]
      -- what the filter takes out has the name that was set
      unfold linesOf
      rw [List.filter_filter]
      refine List.filter_congr fun kept hkept => ?_
      rw [hrest kept hkept, Bool.and_eq_left_iff_imp, beq_iff_eq, bne_iff_ne]
      rintro rfl
      exact hother
    · by_cases heq : Text.lower line.1 = other
      · rw [linesOf_cons_of_eq heq, linesOf_cons_of_eq heq, ih hrest]
      · rw [linesOf_cons_of_ne heq, linesOf_cons_of_ne heq, ih hrest]

/-- Sets header lines one after the other. -/
def setHeaders (lines headers : List (Text × Text)) : List (Text × Text) :=
  lines.foldl (fun headers line => setHeader line.1 line.2 headers) headers

theorem withAccess_headers (r : Response) :
    r.withAccess.headers = setHeaders accessHeaders r.headers := rfl

variable {added : List (Text × Text)}

/-- The lines of another name are left alone. -/
theorem linesOf_setHeaders_of_notMem (h : IsLowered headers) (hadded : IsLowered added)
    (hother : ∀ line ∈ added, line.1 ≠ other) :
    linesOf other (setHeaders added headers) = linesOf other headers := by
  induction added generalizing headers with
  | nil => rfl
  | cons line rest ih =>
    obtain ⟨hname, hrest⟩ := isLowered_cons.1 hadded
    obtain ⟨hne, hnone⟩ := List.forall_mem_cons.1 hother
    have hafter := ih (h.setHeader hname line.2) hrest hnone
    rw [linesOf_setHeader_of_ne h hname hne.symm] at hafter
    exact hafter

/-- Of headers that are set together, with a name each, all have one line afterwards. -/
theorem linesOf_setHeaders (h : IsLowered headers) (hadded : IsLowered added)
    (apart : (added.map (·.1)).Nodup) (hline : line ∈ added) :
    linesOf line.1 (setHeaders added headers) = [line] := by
  induction added generalizing headers with
  | nil => cases hline
  | cons first rest ih =>
    obtain ⟨hname, hrest⟩ := isLowered_cons.1 hadded
    rw [List.map_cons, List.nodup_cons] at apart
    have hset := h.setHeader hname first.2
    rcases List.mem_cons.1 hline with rfl | hmem
    · have hother : ∀ other ∈ rest, other.1 ≠ line.1 :=
        fun other hmem heq => apart.1 (heq ▸ List.mem_map_of_mem hmem)
      have hkept := linesOf_setHeaders_of_notMem hset hrest hother
      rw [linesOf_setHeader h hname] at hkept
      exact hkept
    · exact ih hset hrest apart.2 hmem

-- ============================================================ lines that are sent

theorem isSingleByte_iff {t : Text} : isSingleByte t = true ↔ Text.IsSingleByte t := by
  simp only [isSingleByte, List.all_eq_true, decide_eq_true_eq, Text.IsSingleByte]

theorem areEncodable_iff : areEncodable headers = true
    ↔ ∀ line ∈ headers, Text.IsSingleByte line.1 ∧ Text.IsSingleByte line.2 := by
  simp only [areEncodable, List.all_eq_true, Bool.and_eq_true, isSingleByte_iff]

/-- The headers of a definition that can be encoded are in lower case. -/
theorem isLowered_ownHeaders {given : Fields} (h : areEncodable (ownHeaders given) = true) :
    IsLowered (ownHeaders given) := by
  intro line hline
  have hbyte := (areEncodable_iff.1 h line hline).1
  obtain ⟨field, -, rfl⟩ := List.mem_map.1 hline
  exact Text.lower_lower hbyte

theorem isLowered_framing (text type : Text) : IsLowered [lengthLine text, typeLine type] := by
  have hlength : Text.lower "content-length" = "content-length" := by decide +kernel
  have htype : Text.lower contentType = contentType := by decide +kernel
  exact isLowered_cons.2 ⟨hlength, isLowered_cons.2 ⟨htype, isLowered_nil⟩⟩

/-- All lines of an answer are in lower case. -/
theorem isLowered_lines {status : Int} {given : Fields} {text : Text}
    (h : areEncodable (lines status given text) = true) : IsLowered (lines status given text) := by
  rw [areEncodable_lines, Bool.and_eq_true] at h
  obtain ⟨hlength, hrest⟩ :=
    isLowered_cons.1 (isLowered_framing text (sentType (typeOf given)))
  rw [lines, isLowered_append, isLowered_append]
  refine ⟨⟨isLowered_ownHeaders h.1, ?_⟩, hrest⟩
  split
  · exact isLowered_cons.2 ⟨hlength, isLowered_nil⟩
  · exact isLowered_nil

/-- What is built has its names in lower case. -/
theorem isLowered_of_build {status : Int} {given : Fields} {body : Json} {r : Response}
    (h : build status given body = .ok r) : IsLowered r.headers := by
  rcases build_eq_ok_iff.1 h with ⟨-, hlines, rfl⟩ | ⟨-, -, hlines, rfl⟩
  · exact isLowered_ownHeaders hlines
  · exact isLowered_lines hlines

end MockApi.Response
