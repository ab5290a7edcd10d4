/-
Routes of web frameworks, made of literal segments and parameters. Whichever way its
parameters are written, a route has the one URL in which every parameter is its name
behind a colon (`spellings_agree`).

Each replacement goes segment by segment, for what is read in one segment ends in it
(`replaceAll_ofSegments`): first the parameters in angles become literal segments, and
angles in constraints are replaced with them (`RouteSegment.withoutAngles`), and then the
parameters in braces do. No segment opens an interpolation, for a dollar sign may stand in
a constraint only, and none stands there in front of an opening brace.
-/
import MockApi.Proofs.Route.Canonical
import MockApi.Proofs.Scan.RouteParameter
import MockApi.Proofs.Text.Blank
import MockApi.Proofs.Text.Digit

namespace MockApi.UrlLiteral

-- ================================================================ segments

/-- May stand in a literal segment. -/
def isLiteral (c : CodePoint) : Bool :=
  !(c == '/' || c == '{' || c == '}' || c == '<' || c == '>' || c == '$' || Text.isBlank c)

/-- A segment without parameters. -/
structure LiteralSegment where
  text : Text
  ne_nil : text ≠ []
  literal : ∀ c ∈ text, isLiteral c = true

/-- A segment of a route. -/
inductive RouteSegment where
  | literal (segment : LiteralSegment)
  | parameter (name : ParameterName) (spelling : ParameterSpelling)

/-- A segment as it is written. -/
def RouteSegment.text : RouteSegment → Text
  | literal segment => segment.text
  | parameter name spelling => spelling.text name.text

/-- A segment with its parameter as a name behind a colon. -/
def RouteSegment.named : RouteSegment → Text
  | literal segment => segment.text
  | parameter name _ => .char ':' :: name.text

-- ================================================================ literals

variable {t : Text} {c : CodePoint}

/-- A character of a word is literal. -/
theorem isLiteral_of_isWord (h : Text.isWord c = true) : isLiteral c = true := by
  have hother : ∀ d : CodePoint, Text.isWord d = false → (c == d) = false := by
    intro d hd
    rw [beq_eq_false_iff_ne]
    rintro rfl
    rw [hd] at h
    cases h
  unfold isLiteral
  rw [hother '/' (by decide), hother '{' (by decide), hother '}' (by decide),
    hother '<' (by decide), hother '>' (by decide), hother '$' (by decide),
    Text.isBlank_of_isWord h]
  rfl

/-- A literal character is no bracket and no blank. -/
theorem of_isLiteral (h : isLiteral c = true) :
    c ≠ '{' ∧ c ≠ '}' ∧ c ≠ '<' ∧ Text.isBlank c = false := by
  unfold isLiteral at h
  simp only [Bool.not_eq_true', Bool.or_eq_false_iff, beq_eq_false_iff_ne] at h
  obtain ⟨⟨⟨⟨⟨⟨-, hopen⟩, hclose⟩, hangle⟩, -⟩, -⟩, hblank⟩ := h
  exact ⟨hopen, hclose, hangle, hblank⟩

/-- A name behind a colon is a literal segment. -/
def ParameterName.behindColon (name : ParameterName) : LiteralSegment where
  text := .char ':' :: name.text
  ne_nil := List.cons_ne_nil _ _
  literal := by
    refine List.forall_mem_cons.2 ⟨by decide, fun c hc => ?_⟩
    exact isLiteral_of_isWord (name.word c hc)

-- ============================================================= by segments

/-- A path is replaced segment by segment, if each of its segments is replaced
on its own. -/
theorem replaceAll_ofSegments {α : Type} {read? : Text → Option (Nat × Text)}
    {text new : α → Text} (hslash : ∀ rest, read? (.char '/' :: rest) = none) {segments : List α}
    (h : ∀ s ∈ segments, ∀ back,
      replaceAll read? (text s ++ back) = new s ++ replaceAll read? back) :
    replaceAll read? (Path.ofSegments (segments.map text))
      = Path.ofSegments (segments.map new) := by
  have hslashed : ∀ t : Text,
      replaceAll read? (.char '/' :: t) = .char '/' :: replaceAll read? t := by
    intro t
    refine replaceAll_unread (t := [.char '/']) (fun c hc rest => ?_) t
    rw [List.mem_singleton.1 hc]
    exact hslash rest
  by_cases hne : segments = []
  · subst hne
    exact hslashed []
  · rw [Path.ofSegments_eq_flatMap (by simpa using hne),
      Path.ofSegments_eq_flatMap (by simpa using hne), List.flatMap_map, List.flatMap_map]
    clear hne
    induction segments with
    | nil => rfl
    | cons s rest ih =>
      rw [List.flatMap_cons, List.flatMap_cons, Path.slashed, Path.slashed, List.cons_append,
        List.cons_append, hslashed, h s List.mem_cons_self,
        ih fun s hs => h s (List.mem_cons_of_mem _ hs)]

namespace RouteSegment

/-- A segment once the angles are replaced. -/
def withoutAngles : RouteSegment → RouteSegment
  | literal segment => literal segment
  | parameter name (.braces none) => parameter name (.braces none)
  | parameter name (.braces (some constraint)) =>
    parameter name (.braces (some constraint.withoutAngles))
  | parameter name (.angles _ _) => literal name.behindColon

theorem named_withoutAngles (s : RouteSegment) : s.withoutAngles.named = s.named := by
  unfold withoutAngles
  split <;> rfl

/-- No parameter is in angles. -/
def IsAngleless : RouteSegment → Prop
  | parameter _ (.angles _ _) => False
  | _ => True

theorem isAngleless_withoutAngles (s : RouteSegment) : s.withoutAngles.IsAngleless := by
  unfold withoutAngles
  split <;> trivial

theorem not_angle_of_word (h : Text.isWord c = true) : c ≠ '<' :=
  (of_isLiteral (isLiteral_of_isWord h)).2.2.1

/-- Angles are replaced segment by segment. -/
theorem replaceAll_angled? (s : RouteSegment) (back : Text) :
    replaceAll angled? (s.text ++ back)
      = s.withoutAngles.text ++ replaceAll angled? back := by
  cases s with
  | literal segment =>
    refine replaceAll_unread (fun c hc rest => ?_) back
    exact angled?_cons_of_ne (of_isLiteral (segment.literal c hc)).2.2.1 rest
  | parameter name spelling =>
    have hname : ∀ c ∈ name.text, ∀ rest, angled? (c :: rest) = none := fun c hc rest =>
      angled?_cons_of_ne (not_angle_of_word (name.word c hc)) rest
    match spelling with
    | .braces none =>
      refine replaceAll_unread ?_ back
      show ∀ c ∈ .char '{' :: name.text ++ [.char '}'], ∀ rest, angled? (c :: rest) = none
      refine List.forall_mem_append.2 ⟨List.forall_mem_cons.2 ⟨fun rest => rfl, hname⟩, ?_⟩
      exact List.forall_mem_singleton.2 fun rest => rfl
    | .braces (some constraint) =>
      -- angle brackets may stand in the constraint only
      have hfront : ∀ c ∈ .char '{' :: name.text ++ [.char ':'],
          ∀ rest, angled? (c :: rest) = none := by
        refine List.forall_mem_append.2 ⟨List.forall_mem_cons.2 ⟨fun rest => rfl, hname⟩, ?_⟩
        exact List.forall_mem_singleton.2 fun rest => rfl
      have htext : ∀ constraint : ParameterConstraint,
          (ParameterSpelling.braces (some constraint)).text name.text ++ back
            = (.char '{' :: name.text ++ [.char ':'])
              ++ (constraint.text ++ .char '}' :: back) := by
        intro constraint
        simp [ParameterSpelling.text]
      have hclose : replaceAll angled? (.char '}' :: back)
          = .char '}' :: replaceAll angled? back := rfl
      show replaceAll angled? ((ParameterSpelling.braces (some constraint)).text name.text ++ back)
        = _
      rw [htext, replaceAll_unread hfront, replaceAll_append angled?_inside
        (angled?_endsBefore back), hclose]
      show _ = (ParameterSpelling.braces (some constraint.withoutAngles)).text name.text ++ _
      simp [ParameterSpelling.text, ParameterConstraint.withoutAngles]
    | .angles converter isRest =>
      refine replaceAll_read ?_ (angled?_text name converter isRest back)
      cases converter <;> exact List.cons_ne_nil _ _

/-- Then braces are, and what is left are names behind colons. -/
theorem replaceAll_bracedName? {s : RouteSegment} (h : s.IsAngleless) (back : Text) :
    replaceAll bracedName? (s.text ++ back) = s.named ++ replaceAll bracedName? back := by
  cases s with
  | literal segment =>
    refine replaceAll_unread (fun c hc rest => ?_) back
    exact bracedName?_cons_of_ne (of_isLiteral (segment.literal c hc)).1 rest
  | parameter name spelling =>
    cases spelling with
    | angles converter isRest => exact h.elim
    | braces constraint =>
      refine replaceAll_read ?_ (bracedName?_text name constraint back)
      cases constraint <;> exact List.cons_ne_nil _ _

/-- No segment is empty. -/
theorem text_ne_nil (s : RouteSegment) : s.text ≠ [] := by
  match s with
  | literal segment => exact segment.ne_nil
  | parameter _ (.braces none) => exact List.cons_ne_nil _ _
  | parameter _ (.braces (some _)) => exact List.cons_ne_nil _ _
  | parameter _ (.angles none _) => exact List.cons_ne_nil _ _
  | parameter _ (.angles (some _) _) => exact List.cons_ne_nil _ _

/-- A segment ends in no blank. -/
theorem isBlank_of_getLast? {s : RouteSegment} (h : s.text.getLast? = some c) :
    Text.isBlank c = false := by
  have hangle : ∀ (front : Text) (isRest : Bool),
      (front ++ angleClose isRest).getLast? = some c → c = '>' := by
    intro front isRest hlast
    have hclose : ∃ before, angleClose isRest = before ++ [.char '>'] := by
      cases isRest with
      | true => exact ⟨"..", rfl⟩
      | false => exact ⟨[], rfl⟩
    obtain ⟨before, hbefore⟩ := hclose
    rw [hbefore, ← List.append_assoc, List.getLast?_concat] at hlast
    exact (Option.some.inj hlast).symm
  have hbrace : ∀ front : Text, (front ++ [CodePoint.char '}']).getLast? = some c → c = '}' := by
    intro front hlast
    rw [List.getLast?_concat] at hlast
    exact (Option.some.inj hlast).symm
  match s with
  | literal segment => exact (of_isLiteral (segment.literal c (List.mem_of_getLast? h))).2.2.2
  | parameter _ (.braces none) => rw [hbrace _ h]; decide
  | parameter _ (.braces (some _)) => rw [hbrace _ h]; decide
  | parameter _ (.angles none isRest) => rw [hangle _ isRest h]; decide
  | parameter _ (.angles (some _) isRest) => rw [hangle _ isRest h]; decide

/-- A name holds no brace. -/
theorem brace_not_mem_named (s : RouteSegment) :
    (.char '{' : CodePoint) ∉ s.named ∧ (.char '}' : CodePoint) ∉ s.named := by
  have hliteral : ∀ segment : LiteralSegment,
      (.char '{' : CodePoint) ∉ segment.text ∧ (.char '}' : CodePoint) ∉ segment.text :=
    fun segment => ⟨fun hc => (of_isLiteral (segment.literal _ hc)).1 rfl,
      fun hc => (of_isLiteral (segment.literal _ hc)).2.1 rfl⟩
  cases s with
  | literal segment => exact hliteral segment
  | parameter name spelling => exact hliteral name.behindColon

end RouteSegment

-- ========================================================== interpolations

/-- What opens an expression is looked for behind what holds no opening brace. -/
theorem hasPiece_append (ht : (.char '{' : CodePoint) ∉ t) {back : Text}
    (hback : back.head? ≠ some (.char '{')) :
    Text.hasPiece "$\x7b" (t ++ back) = Text.hasPiece "$\x7b" back := by
  induction t with
  | nil => rfl
  | cons c t ih =>
    rw [List.mem_cons, not_or] at ht
    have hnext : (t ++ back).head? ≠ some (.char '{') := by
      cases t with
      | nil => exact hback
      | cons d t => exact fun heq => ht.2 (by rw [← Option.some.inj heq]; exact List.mem_cons_self)
    have hfront : ("$\x7b" : Text).isPrefixOf (c :: (t ++ back)) = false := by
      rw [← Bool.not_eq_true, List.isPrefixOf_iff_prefix]
      intro hstarts
      obtain ⟨-, hrest⟩ := List.cons_prefix_cons.1 hstarts
      obtain ⟨more, hmore⟩ := hrest
      exact hnext (by rw [← hmore]; rfl)
    rw [List.cons_append, Text.hasPiece, hfront, Bool.false_or, ih ht.2]

/-- Without what opens one, there is no expression behind a dollar sign. -/
theorem replaceAll_interpolation? (h : Text.hasPiece "$\x7b" t = false) :
    replaceAll interpolation? t = t := by
  induction t with
  | nil => rfl
  | cons c rest ih =>
    rw [Text.hasPiece, Bool.or_eq_false_iff] at h
    have hnone : interpolation? (c :: rest) = none := by
      by_cases hc : c = '$'
      · subst hc
        show (braced? rest).map _ = none
        rw [Option.map_eq_none_iff]
        cases rest with
        | nil => rfl
        | cons d rest =>
          refine braced?_cons_of_ne ?_ rest
          rintro rfl
          exact absurd h.1 (by simp [Text.ofString])
      · exact interpolation?_cons_of_ne hc rest
    show replaceFrom interpolation? 0 (c :: rest) = _
    rw [replaceFrom, hnone]
    exact congrArg (c :: ·) (ih h.2)

/-- No segment of a route opens an expression behind a dollar sign. -/
theorem hasPiece_text (s : RouteSegment) {back : Text} (hback : back.head? ≠ some (.char '{')) :
    Text.hasPiece "$\x7b" (Path.slashed s.text ++ back) = Text.hasPiece "$\x7b" back := by
  -- an opening brace follows a slash, an angle bracket or nothing, but no dollar sign
  have hslash : ∀ t : Text, Text.hasPiece "$\x7b" (.char '/' :: t) = Text.hasPiece "$\x7b" t :=
    fun t => rfl
  have hbrace : ∀ t : Text, Text.hasPiece "$\x7b" (.char '{' :: t) = Text.hasPiece "$\x7b" t :=
    fun t => rfl
  have hword : ∀ name : ParameterName, (.char '{' : CodePoint) ∉ name.text :=
    fun name hc => (of_isLiteral (isLiteral_of_isWord (name.word _ hc))).1 rfl
  have hclose : ∀ isRest, (.char '{' : CodePoint) ∉ angleClose isRest := by decide
  rw [Path.slashed, List.cons_append, hslash]
  match s with
  | .literal segment =>
    exact hasPiece_append (fun hc => (of_isLiteral (segment.literal _ hc)).1 rfl) hback
  | .parameter name (.braces none) =>
    show Text.hasPiece _ (.char '{' :: (name.text ++ [.char '}'] ++ back)) = _
    rw [hbrace]
    refine hasPiece_append ?_ hback
    simp [hword name]
  | .parameter name (.braces (some constraint)) =>
    have hconstraint : (.char '{' : CodePoint) ∉ constraint.text :=
      fun hc => absurd (constraint.plain _ hc) (by decide)
    show Text.hasPiece _
      (.char '{' :: (name.text ++ .char ':' :: constraint.text ++ [.char '}'] ++ back)) = _
    rw [hbrace]
    refine hasPiece_append ?_ hback
    simp [hword name, hconstraint]
  | .parameter name (.angles none isRest) =>
    refine hasPiece_append (t := .char '<' :: name.text ++ angleClose isRest) ?_ hback
    simp [hword name, hclose isRest]
  | .parameter name (.angles (some converter) isRest) =>
    refine hasPiece_append
      (t := .char '<' :: converter.text ++ .char ':' :: name.text ++ angleClose isRest) ?_ hback
    simp [hword name, hword converter, hclose isRest]

-- =========================================================== normalization

variable {segments : List RouteSegment}

/-- No interpolation is in a path of such segments. -/
theorem hasPiece_ofSegments (segments : List RouteSegment) :
    Text.hasPiece "$\x7b" (Path.ofSegments (segments.map RouteSegment.text)) = false := by
  by_cases hne : segments = []
  · subst hne
    rfl
  · rw [Path.ofSegments_eq_flatMap (by simpa using hne), List.flatMap_map]
    clear hne
    induction segments with
    | nil => rfl
    | cons s rest ih =>
      have hback : (rest.flatMap fun s => Path.slashed s.text).head? ≠ some (.char '{') := by
        cases rest with
        | nil => exact nofun
        | cons second rest => exact fun heq => absurd (Option.some.inj heq) (by decide)
      rw [List.flatMap_cons, hasPiece_text s hback]
      exact ih

/-- A route has no blanks at its ends. -/
theorem isTrimmed_ofSegments (segments : List RouteSegment) :
    Text.IsTrimmed (Path.ofSegments (segments.map RouteSegment.text)) where
  head := by
    intro c hc
    rw [← Option.some.inj hc]
    decide
  last := by
    intro c hc
    by_cases hne : segments = []
    · subst hne
      rw [← Option.some.inj hc]
      decide
    · obtain ⟨front, last, rfl⟩ := (List.eq_nil_or_concat' segments).resolve_left hne
      rw [List.map_append, List.map_singleton] at hc
      obtain ⟨before, hbefore⟩ :=
        Path.exists_ofSegments_concat (front.map RouteSegment.text) last.text
      obtain ⟨d, rest, htext⟩ := List.exists_cons_of_ne_nil last.text_ne_nil
      rw [hbefore, Path.slashed, htext, List.getLast?_append, List.getLast?_cons_cons,
        ← htext, List.getLast?_eq_getLast_of_ne_nil last.text_ne_nil, Option.some_or] at hc
      refine RouteSegment.isBlank_of_getLast? (s := last) ?_
      rw [List.getLast?_eq_getLast_of_ne_nil last.text_ne_nil]
      exact hc

/-- With the angles replaced, every parameter is its name or stands in braces. -/
theorem replaceAll_angled?_ofSegments (segments : List RouteSegment) :
    replaceAll angled? (Path.ofSegments (segments.map RouteSegment.text))
      = Path.ofSegments ((segments.map RouteSegment.withoutAngles).map RouteSegment.text) := by
  rw [List.map_map]
  exact replaceAll_ofSegments (fun _ => rfl) fun s _ back => s.replaceAll_angled? back

/-- And with the braces replaced then, every parameter is its name. -/
theorem replaceAll_bracedName?_ofSegments (segments : List RouteSegment) :
    replaceAll bracedName?
        (Path.ofSegments ((segments.map RouteSegment.withoutAngles).map RouteSegment.text))
      = Path.ofSegments (segments.map RouteSegment.named) := by
  have hnamed : segments.map RouteSegment.named
      = (segments.map RouteSegment.withoutAngles).map RouteSegment.named := by
    rw [List.map_map]
    exact List.map_congr_left fun s _ => s.named_withoutAngles.symm
  rw [hnamed]
  refine replaceAll_ofSegments (fun _ => rfl) fun s hs back => ?_
  obtain ⟨written, -, rfl⟩ := List.mem_map.1 hs
  exact RouteSegment.replaceAll_bracedName? written.isAngleless_withoutAngles back

/-- No brace is left then. -/
theorem brace_not_mem_ofSegments (segments : List RouteSegment) :
    (.char '{' : CodePoint) ∉ Path.ofSegments (segments.map RouteSegment.named)
      ∧ (.char '}' : CodePoint) ∉ Path.ofSegments (segments.map RouteSegment.named) := by
  have hplace : ∀ c ∈ Path.ofSegments (segments.map RouteSegment.named),
      c = '/' ∨ ∃ s : RouteSegment, c ∈ s.named := by
    intro c hc
    refine (Path.of_mem_ofSegments hc).imp_right ?_
    rintro ⟨named, hmem, hcn⟩
    obtain ⟨s, -, rfl⟩ := List.mem_map.1 hmem
    exact ⟨s, hcn⟩
  constructor
  · intro hc
    obtain hslash | ⟨s, hmem⟩ := hplace _ hc
    · exact absurd hslash (by decide)
    · exact s.brace_not_mem_named.1 hmem
  · intro hc
    obtain hslash | ⟨s, hmem⟩ := hplace _ hc
    · exact absurd hslash (by decide)
    · exact s.brace_not_mem_named.2 hmem

/-- Whichever way its parameters are written, a route has the one URL with every
parameter as its name behind a colon. -/
theorem spellings_agree (segments : List RouteSegment) :
    normalize? false (Path.ofSegments (segments.map RouteSegment.text))
      = some (Path.ofSegments (segments.map RouteSegment.named)) := by
  have htrim := (isTrimmed_ofSegments segments).trim_eq
  have hbase : withoutBase interpolation? (Path.ofSegments (segments.map RouteSegment.text))
      = Path.ofSegments (segments.map RouteSegment.text) := rfl
  obtain ⟨hopen, hclose⟩ := brace_not_mem_ofSegments segments
  have hplain : replaceAll braced? (Path.ofSegments (segments.map RouteSegment.named))
      = Path.ofSegments (segments.map RouteSegment.named) :=
    replaceAll_eq_self fun c hc rest => braced?_cons_of_ne (fun heq => hopen (heq ▸ hc)) rest
  unfold normalize?
  simp only
  rw [htrim, if_neg Bool.false_ne_true, hbase,
    replaceAll_interpolation? (hasPiece_ofSegments segments), hasPiece_ofSegments,
    if_neg Bool.false_ne_true, replaceAll_angled?_ofSegments, replaceAll_bracedName?_ofSegments,
    hplain]
  have hkept : (Path.ofSegments (segments.map RouteSegment.named)).contains '{' = false
      ∧ (Path.ofSegments (segments.map RouteSegment.named)).contains '}' = false := by
    simpa using ⟨hopen, hclose⟩
  rw [hkept.1, hkept.2]
  rfl

/-- The angles of a constraint are replaced, and the brace behind its dollar sign closes it. -/
example : Path.ofSegments
    ([.parameter ⟨"id", by decide, by decide, by decide⟩
        (.braces (some ⟨"<int:x>$", by decide, by decide⟩)),
      .parameter ⟨"rest", by decide, by decide, by decide⟩
        (.angles (some ⟨"path", by decide, by decide, by decide⟩) true)].map RouteSegment.text)
      = "/\x7bid:<int:x>$\x7d/<path:rest..>"
    ∧ normalize? false "/\x7bid:<int:x>$\x7d/<path:rest..>" = some "/:id/:rest" := by
  decide +kernel

end MockApi.UrlLiteral
