/-
Parameters in the routes of web frameworks. A parameter is written in braces, with or
without a constraint on what it fits, or in angles, with or without a converter, and
with two points where it fits the rest of a path. Each reader takes a parameter as a
whole and gives its name behind a colon (`bracedName?_text`, `angled?_text`).

Angles are replaced before braces, so they are replaced in constraints too. That
makes a constraint no longer and puts no brace into it, so it is still a constraint
(`ParameterConstraint.withoutAngles`), and what is read in angles ends before the brace
that closes it (`angled?_endsBefore`).
-/
import MockApi.Proofs.Scan.Replacement

namespace MockApi.UrlLiteral

-- ============================================================== parameters

/-- A name of a parameter or a converter: a word that starts with a letter of ASCII or
an underscore. -/
structure ParameterName where
  text : Text
  start : text.head?.any startsName = true
  word : ∀ c ∈ text, Text.isWord c = true
  short : text.length ≤ nameLimit

/-- What a parameter in braces fits. -/
structure ParameterConstraint where
  text : Text
  plain : ∀ c ∈ text, isPlain c = true
  short : text.length ≤ constraintLimit

/-- How a parameter is written. -/
inductive ParameterSpelling where
  | braces (constraint : Option ParameterConstraint)
  /-- With two points, the parameter fits the rest of a path. -/
  | angles (converter : Option ParameterName) (isRest : Bool)

/-- What closes a parameter in angles. -/
def angleClose (isRest : Bool) : Text := if isRest then "..>" else ">"

/-- A parameter as it is written. -/
def ParameterSpelling.text (name : Text) : ParameterSpelling → Text
  | braces none => .char '{' :: name ++ [.char '}']
  | braces (some constraint) => .char '{' :: name ++ .char ':' :: constraint.text ++ [.char '}']
  | angles none isRest => .char '<' :: name ++ angleClose isRest
  | angles (some converter) isRest =>
    .char '<' :: converter.text ++ .char ':' :: name ++ angleClose isRest

-- =================================================================== names

variable {t : Text} {c : CodePoint} {name : ParameterName}

/-- A name is all of the word that it starts. -/
theorem name?_append (name : ParameterName) (hc : Text.isWord c = false) (back : Text) :
    name? (name.text ++ c :: back) = some name.text := by
  have hword : (name.text ++ c :: back).takeWhile Text.isWord = name.text := by
    rw [Text.takeWhile_append_cons hc]
    exact List.takeWhile_eq_self_iff.2 name.word
  unfold name?
  rw [hword]
  exact if_pos ⟨name.start, name.short⟩

/-- No name reaches over what is no word character. -/
theorem name?_append_cons (hc : Text.isWord c = false) (t back : Text) :
    name? (t ++ c :: back) = name? t := by
  unfold name?
  rw [Text.takeWhile_append_cons hc]

/-- A name stands in front. -/
theorem prefix_of_name? {first : Text} (h : name? t = some first) : first <+: t := by
  unfold name? at h
  simp only at h
  split at h
  · rw [← Option.some.inj h]
    exact List.takeWhile_prefix _
  · cases h

-- ============================================================== in braces

/-- A name in braces begins with one. -/
theorem bracedName?_cons_of_ne (h : c ≠ '{') (rest : Text) : bracedName? (c :: rest) = none := by
  unfold bracedName?
  split
  · next heq => exact absurd (List.cons.inj heq).1 h
  · rfl

/-- A parameter in braces is read as a whole. -/
theorem bracedName?_text (name : ParameterName) (constraint : Option ParameterConstraint)
    (back : Text) :
    bracedName? ((ParameterSpelling.braces constraint).text name.text ++ back)
      = some (((ParameterSpelling.braces constraint).text name.text).length,
        .char ':' :: name.text) := by
  cases constraint with
  | none =>
    have htext : (ParameterSpelling.braces none).text name.text ++ back
        = .char '{' :: (name.text ++ .char '}' :: back) := by simp [ParameterSpelling.text]
    rw [htext]
    unfold bracedName?
    simp only
    rw [name?_append name (by decide), Option.bind_eq_bind, Option.bind_some, List.drop_left]
    simp [ParameterSpelling.text]
  | some constraint =>
    have htext : (ParameterSpelling.braces (some constraint)).text name.text ++ back
        = .char '{' :: (name.text ++ .char ':' :: (constraint.text ++ .char '}' :: back)) := by
      simp [ParameterSpelling.text]
    rw [htext]
    unfold bracedName?
    simp only
    rw [name?_append name (by decide), Option.bind_eq_bind, Option.bind_some, List.drop_left]
    show (closed? constraintLimit (constraint.text ++ .char '}' :: back)).map _ = _
    rw [closed?_append constraint.plain constraint.short]
    simp [ParameterSpelling.text]
    omega

-- ============================================================== in angles

/-- A name in angle brackets begins with one. -/
theorem angled?_cons_of_ne (h : c ≠ '<') (rest : Text) : angled? (c :: rest) = none := by
  unfold angled?
  split
  · next heq => exact absurd (List.cons.inj heq).1 h
  · rfl

/-- Behind a colon, the first name is a converter. -/
theorem angled?_converter {first rest converted : Text} (hfirst : name? rest = some first)
    (hrest : rest.drop first.length = .char ':' :: converted) :
    angled? (.char '<' :: rest) = (name? converted).bind fun name =>
      (angleEnd? (converted.drop name.length)).map fun n =>
        (first.length + 2 + name.length + n, .char ':' :: name) := by
  unfold angled?
  simp only
  rw [hfirst, Option.bind_eq_bind, Option.bind_some, hrest]
  simp only [Option.bind_eq_bind, Option.map_eq_bind]
  rfl

/-- Without a colon, it is the parameter's. -/
theorem angled?_plain {first rest : Text} (hfirst : name? rest = some first)
    (hrest : ∀ converted, rest.drop first.length ≠ .char ':' :: converted) :
    angled? (.char '<' :: rest) = (angleEnd? (rest.drop first.length)).map fun n =>
      (first.length + 1 + n, .char ':' :: first) := by
  unfold angled?
  simp only
  rw [hfirst, Option.bind_eq_bind, Option.bind_some]
  split
  · next converted heq => exact absurd heq (hrest converted)
  · rw [Option.bind_eq_bind, Option.map_eq_bind]
    rfl

/-- No brackets are read where no name stands in them. -/
theorem angled?_of_name?_eq_none {rest : Text} (h : name? rest = none) :
    angled? (.char '<' :: rest) = none := by
  unfold angled?
  simp only
  rw [h]
  rfl

/-- What is read as the end of a parameter in angles is what closes one. -/
theorem angleEnd?_eq_some_iff {n : Nat} :
    angleEnd? t = some n
      ↔ ∃ isRest back, t = angleClose isRest ++ back ∧ n = (angleClose isRest).length := by
  constructor
  · intro h
    unfold angleEnd? at h
    split at h
    · next back => exact ⟨false, back, rfl, (Option.some.inj h).symm⟩
    · next back => exact ⟨true, back, rfl, (Option.some.inj h).symm⟩
    · cases h
  · rintro ⟨isRest, back, rfl, rfl⟩
    cases isRest with
    | true => rfl
    | false => rfl

/-- A parameter in angles is read as a whole. -/
theorem angled?_text (name : ParameterName) (converter : Option ParameterName) (isRest : Bool)
    (back : Text) :
    angled? ((ParameterSpelling.angles converter isRest).text name.text ++ back)
      = some (((ParameterSpelling.angles converter isRest).text name.text).length,
        .char ':' :: name.text) := by
  -- what closes a parameter starts with no word character, and with no colon
  obtain ⟨c, rest, hend, hword, hcolon⟩ : ∃ c rest, angleClose isRest ++ back = c :: rest
      ∧ Text.isWord c = false ∧ c ≠ ':' := by
    cases isRest with
    | true => exact ⟨'.', _, rfl, by decide, by decide⟩
    | false => exact ⟨'>', _, rfl, by decide, by decide⟩
  have hlength : angleEnd? (c :: rest) = some (angleClose isRest).length :=
    angleEnd?_eq_some_iff.2 ⟨isRest, back, hend.symm, rfl⟩
  cases converter with
  | none =>
    have htext : (ParameterSpelling.angles none isRest).text name.text ++ back
        = .char '<' :: (name.text ++ c :: rest) := by
      rw [← hend]
      simp [ParameterSpelling.text]
    have hfirst := name?_append name hword rest
    have hplain : ∀ converted, (name.text ++ c :: rest).drop name.text.length
        ≠ .char ':' :: converted := by
      intro converted heq
      rw [List.drop_left] at heq
      exact hcolon (List.cons.inj heq).1
    rw [htext, angled?_plain hfirst hplain, List.drop_left, hlength]
    simp [ParameterSpelling.text]
    omega
  | some converter =>
    have htext : (ParameterSpelling.angles (some converter) isRest).text name.text ++ back
        = .char '<' :: (converter.text ++ .char ':' :: (name.text ++ c :: rest)) := by
      rw [← hend]
      simp [ParameterSpelling.text]
    have hfirst := name?_append converter (c := .char ':') (by decide) (name.text ++ c :: rest)
    rw [htext, angled?_converter hfirst (List.drop_left ..), name?_append name hword,
      Option.bind_some, List.drop_left, hlength]
    simp [ParameterSpelling.text]
    omega

-- ------------------------------------------------- inside of a constraint

/-- What is read in angles gets shorter, and holds nothing new but a colon. -/
theorem of_angled? {length : Nat} {new : Text} (h : angled? t = some (length, new)) :
    length ≤ t.length ∧ new.length < length ∧ ∀ c ∈ new, c = ':' ∨ c ∈ t := by
  -- what closes the brackets is not empty and stands in the text
  have hclose : ∀ {t n}, angleEnd? t = some n → 0 < n ∧ n ≤ t.length := by
    intro t n h
    obtain ⟨isRest, back, rfl, rfl⟩ := angleEnd?_eq_some_iff.1 h
    cases isRest with
    | true => simp [angleClose, Text.ofString]
    | false => simp [angleClose, Text.ofString]
  cases t with
  | nil => cases h
  | cons c rest =>
    by_cases hc : c = '<'
    · subst hc
      cases hfirst : name? rest with
      | none =>
        rw [angled?_of_name?_eq_none hfirst] at h
        cases h
      | some first =>
        have hstarts := prefix_of_name? hfirst
        have hfits := hstarts.length_le
        -- with a converter and a colon the name stands behind it
        by_cases hrest : ∃ converted, rest.drop first.length = .char ':' :: converted
        · obtain ⟨converted, hconverted⟩ := hrest
          rw [angled?_converter hfirst hconverted] at h
          obtain ⟨name, hname, h⟩ := Option.bind_eq_some_iff.1 h
          obtain ⟨n, hn, h⟩ := Option.map_eq_some_iff.1 h
          obtain ⟨rfl, rfl⟩ := Prod.mk.inj h
          have hend := hclose hn
          have hlength := congrArg List.length hconverted
          simp only [List.length_drop, List.length_cons] at hend hlength ⊢
          refine ⟨by omega, by omega, List.forall_mem_cons.2 ⟨.inl rfl, fun c hc => .inr ?_⟩⟩
          have hmem := List.mem_cons_of_mem (.char ':') ((prefix_of_name? hname).subset hc)
          rw [← hconverted] at hmem
          exact List.mem_cons_of_mem _ (List.mem_of_mem_drop hmem)
        · rw [angled?_plain hfirst (not_exists.1 hrest)] at h
          obtain ⟨n, hn, h⟩ := Option.map_eq_some_iff.1 h
          obtain ⟨rfl, rfl⟩ := Prod.mk.inj h
          have hend := hclose hn
          simp only [List.length_drop, List.length_cons] at hend ⊢
          refine ⟨by omega, by omega, List.forall_mem_cons.2 ⟨.inl rfl, fun c hc => .inr ?_⟩⟩
          exact List.mem_cons_of_mem _ (hstarts.subset hc)
    · rw [angled?_cons_of_ne hc] at h
      cases h

/-- Angle brackets stay inside the text that is read. -/
theorem angled?_inside : StaysInside angled? := by
  intro t length new h
  obtain ⟨hinside, hshorter, -⟩ := of_angled? h
  exact ⟨Nat.zero_lt_of_lt hshorter, hinside⟩

/-- Nothing closes a parameter in angles over a closing brace. -/
theorem angleEnd?_append_brace (t back : Text) :
    angleEnd? (t ++ .char '}' :: back) = angleEnd? t := by
  refine Option.ext fun n => ?_
  rw [angleEnd?_eq_some_iff, angleEnd?_eq_some_iff]
  refine exists_congr fun isRest => ⟨?_, ?_⟩
  · rintro ⟨more, heq, hn⟩
    have hbrace : (.char '}' : CodePoint) ∉ angleClose isRest := by cases isRest <;> decide
    rcases List.append_eq_append_iff.1 heq with ⟨between, hclose, hmore⟩ | ⟨between, rfl, -⟩
    · cases between with
      | nil => exact ⟨[], by rw [hclose, List.append_nil, List.append_nil], hn⟩
      | cons c between =>
        obtain rfl := (List.cons.inj hmore).1
        rw [hclose] at hbrace
        exact absurd (List.mem_append_right _ List.mem_cons_self) hbrace
    · exact ⟨between, rfl, hn⟩
  · rintro ⟨more, rfl, hn⟩
    exact ⟨more ++ .char '}' :: back, List.append_assoc .., hn⟩

/-- What is read in angles ends before a closing brace. -/
theorem angled?_endsBefore (back : Text) : EndsBefore angled? (.char '}' :: back) := by
  intro front hne
  obtain ⟨c, front, rfl⟩ := List.exists_cons_of_ne_nil hne
  by_cases hc : c = '<'
  · subst hc
    -- neither a name nor what closes the brackets goes over the brace
    have hname := name?_append_cons (c := .char '}') (by decide) front back
    show angled? (.char '<' :: (front ++ .char '}' :: back)) = _
    cases hfirst : name? front with
    | none => rw [angled?_of_name?_eq_none hfirst, angled?_of_name?_eq_none (hname.trans hfirst)]
    | some first =>
      have hfits := (prefix_of_name? hfirst).length_le
      have hdrop : (front ++ .char '}' :: back).drop first.length
          = front.drop first.length ++ .char '}' :: back :=
        List.drop_append_of_le_length hfits
      by_cases hrest : ∃ converted, front.drop first.length = .char ':' :: converted
      · obtain ⟨converted, hconverted⟩ := hrest
        rw [hconverted, List.cons_append] at hdrop
        rw [angled?_converter hfirst hconverted, angled?_converter (hname.trans hfirst) hdrop,
          name?_append_cons (by decide)]
        cases hsecond : name? converted with
        | none => rfl
        | some name =>
          rw [Option.bind_some, Option.bind_some, List.drop_append_of_le_length
            (prefix_of_name? hsecond).length_le, angleEnd?_append_brace]
      · have hplain := not_exists.1 hrest
        -- no colon follows the name: it would stand in front of the brace
        have hplain' : ∀ converted, (front ++ .char '}' :: back).drop first.length
            ≠ .char ':' :: converted := by
          intro converted heq
          rw [hdrop] at heq
          cases hbehind : front.drop first.length with
          | nil =>
            rw [hbehind] at heq
            exact absurd (List.cons.inj heq).1 (by decide)
          | cons d rest =>
            rw [hbehind] at heq
            exact hplain rest (by rw [hbehind, (List.cons.inj heq).1])
        rw [angled?_plain hfirst hplain, angled?_plain (hname.trans hfirst) hplain', hdrop,
          angleEnd?_append_brace]
  · rw [angled?_cons_of_ne hc]
    exact angled?_cons_of_ne hc _

/-- A constraint with its angles replaced. -/
def ParameterConstraint.withoutAngles (constraint : ParameterConstraint) :
    ParameterConstraint where
  text := replaceAll angled? constraint.text
  plain := by
    intro c hc
    have hmem := of_mem_replaceFrom (p := (· = .char ':'))
      (fun t length new hread => (of_angled? hread).2.2) hc
    rcases hmem with rfl | hmem
    · decide
    · exact constraint.plain c hmem
  short := by
    have hshorter : ∀ t length new, angled? t = some (length, new) →
        0 < length ∧ new.length ≤ length := by
      intro t length new hread
      have hlt := (of_angled? hread).2.1
      exact ⟨Nat.zero_lt_of_lt hlt, Nat.le_of_lt hlt⟩
    exact Nat.le_trans (length_replaceFrom_le hshorter angled?_inside 0 constraint.text)
      constraint.short

end MockApi.UrlLiteral
