/-
Interpolations in URL literals. An expression stands in braces, behind a dollar sign
unless the literal is a format string. Its reader takes it as a whole, and no reading
of what stands in front reaches over its opening brace (`Isolates`); so the URL of a
literal does not depend on the expression, whatever stands around it
(`interpolations_alike`).

The literals around expressions are arbitrary: they may hold braces without a partner
and dollar signs, also right in front of the expression, and an expression in front of
everything else is dropped if a slash follows, whichever it is.
-/
import MockApi.Proofs.Scan.Batch
import MockApi.Proofs.Scan.Replacement
import MockApi.Proofs.Text.Blank

namespace MockApi

namespace UrlLiteral

variable {read? : Text → Option (Nat × Text)} {e e' hole hole' new : Text}

-- ========================================================== expressions

/-- A text that may be an expression. -/
structure IsExpression (e : Text) : Prop where
  plain : ∀ c ∈ e, isPlain c = true
  short : e.length ≤ expressionLimit

instance : DecidablePred IsExpression := fun e =>
  decidable_of_iff ((∀ c ∈ e, isPlain c = true) ∧ e.length ≤ expressionLimit)
    ⟨fun ⟨plain, short⟩ => ⟨plain, short⟩, fun h => ⟨h.plain, h.short⟩⟩

/-- What stands in front of an expression. -/
def opening (isFormat : Bool) : Text := if isFormat then [.char '{'] else [.char '$', .char '{']

/-- An expression as it stands in a literal. -/
def filled (isFormat : Bool) (e : Text) : Text := opening isFormat ++ e ++ [.char '}']

-- =============================================================== as a whole

/-- The reader takes the text as a whole, wherever it stands. -/
structure Isolates (read? : Text → Option (Nat × Text)) (hole new : Text) : Prop where
  ne_nil : hole ≠ []
  whole : ∀ back, read? (hole ++ back) = some (hole.length, new)
  apart : ∀ back, EndsBefore read? (hole ++ back)
  noSlash : hole.head? ≠ some '/'

/-- An expression in braces is read up to its brace. -/
theorem braced?_filled (h : IsExpression e) (back : Text) :
    braced? (.char '{' :: e ++ .char '}' :: back) = some (e.length + 2, placeholder) := by
  show (closed? expressionLimit (e ++ .char '}' :: back)).map _ = _
  rw [closed?_append h.plain h.short]
  rfl

/-- Braces do not reach over plain text into those behind it. -/
theorem braced?_endsBefore {t : Text} (hplain : ∀ c ∈ t, isPlain c = true) (front back : Text)
    (hne : front ≠ []) : braced? (front ++ t ++ .char '{' :: back) = braced? front := by
  obtain ⟨c, front, rfl⟩ := List.exists_cons_of_ne_nil hne
  by_cases hc : c = '{'
  · subst hc
    show (closed? expressionLimit (front ++ t ++ .char '{' :: back)).map _ = _
    rw [closed?_append_opening hplain]
    rfl
  · rw [braced?_cons_of_ne hc]
    exact braced?_cons_of_ne hc _

/-- Braces are read as a whole. -/
theorem braced?_isolates (h : IsExpression e) :
    Isolates braced? (filled true e) placeholder where
  ne_nil := List.cons_ne_nil _ _
  whole := by
    intro back
    have hread := braced?_filled h back
    have hlength : (filled true e).length = e.length + 2 := by simp [filled, opening]
    rw [hlength, ← hread]
    simp [filled, opening]
  apart := by
    intro back front hne
    have hnone := braced?_endsBefore (t := []) (fun _ hc => nomatch hc) front
      (e ++ .char '}' :: back) hne
    rw [← hnone]
    simp [filled, opening]
  noSlash := by simp [filled, opening]

/-- So are braces behind a dollar sign. -/
theorem interpolation?_isolates (h : IsExpression e) :
    Isolates interpolation? (filled false e) placeholder where
  ne_nil := List.cons_ne_nil _ _
  whole := by
    intro back
    have hlength : (filled false e).length = e.length + 3 := by simp [filled, opening]
    have hfilled : filled false e ++ back = .char '$' :: (.char '{' :: e ++ .char '}' :: back) := by
      simp [filled, opening]
    rw [hlength, hfilled]
    show (braced? (.char '{' :: e ++ .char '}' :: back)).map _ = _
    rw [braced?_filled h]
    rfl
  apart := by
    intro back front hne
    obtain ⟨c, front, rfl⟩ := List.exists_cons_of_ne_nil hne
    have hfilled : filled false e ++ back
        = [.char '$'] ++ .char '{' :: (e ++ .char '}' :: back) := by simp [filled, opening]
    -- only another dollar sign in front could take the braces for its own
    by_cases hc : c = '$'
    · subst hc
      rw [hfilled, List.cons_append, ← List.append_assoc]
      show (braced? (front ++ [.char '$'] ++ .char '{' :: _)).map _ = (braced? front).map _
      by_cases hfront : front = []
      · -- a dollar sign in front of the expression's own one
        rw [hfront]
        rfl
      · have hplain : ∀ c ∈ ([.char '$'] : Text), isPlain c = true := by decide
        rw [braced?_endsBefore hplain front _ hfront]
    · rw [interpolation?_cons_of_ne hc]
      exact interpolation?_cons_of_ne hc _
  noSlash := by simp [filled, opening]

/-- What is in front of a hole is replaced on its own, and so is what is behind it. -/
theorem Isolates.replaceAll (h : Isolates read? hole new) (inside : StaysInside read?)
    (front back : Text) : replaceAll read? (front ++ hole ++ back)
      = replaceAll read? front ++ new ++ replaceAll read? back := by
  rw [List.append_assoc, replaceAll_append inside (h.apart back),
    replaceAll_read h.ne_nil (h.whole back), List.append_assoc]

/-- A base in front of the hole is dropped as if there were no hole. -/
theorem Isolates.withoutBase (h : Isolates read? hole new) (inside : StaysInside read?)
    {front : Text} (hne : front ≠ []) (back : Text) :
    withoutBase read? (front ++ hole ++ back) = withoutBase read? front ++ hole ++ back := by
  -- the base is read in front of the hole, which it does not reach into
  have hread : read? (front ++ hole ++ back) = read? front := by
    rw [List.append_assoc]
    exact h.apart back front hne
  unfold UrlLiteral.withoutBase
  rw [hread]
  cases hfound : read? front with
  | none => rfl
  | some found =>
    obtain ⟨length, text⟩ := found
    have hlength := (inside _ _ _ hfound).2
    have hdrop : (front ++ hole ++ back).drop length = front.drop length ++ hole ++ back := by
      rw [List.append_assoc, List.drop_append_of_le_length hlength, List.append_assoc]
    show (if ((front ++ hole ++ back).drop length).head? = some '/' then _ else _)
      = (if (front.drop length).head? = some '/' then _ else _) ++ hole ++ back
    rw [hdrop]
    by_cases hrest : front.drop length = []
    · -- the base would end where the hole starts, which is with no slash
      have hhead : (hole ++ back).head? = hole.head? := by
        obtain ⟨c, rest, rfl⟩ := List.exists_cons_of_ne_nil h.ne_nil
        rfl
      rw [hrest, List.nil_append, hhead, if_neg h.noSlash, if_neg nofun]
    · have hhead : (front.drop length ++ hole ++ back).head? = (front.drop length).head? := by
        obtain ⟨c, rest, hcons⟩ := List.exists_cons_of_ne_nil hrest
        rw [hcons]
        rfl
      rw [hhead]
      split
      · rfl
      · rfl

/-- What a hole becomes does not depend on the hole. -/
theorem Isolates.replaced_eq (h : Isolates read? hole new) (h' : Isolates read? hole' new)
    (inside : StaysInside read?) (front back : Text) :
    UrlLiteral.replaceAll read? (UrlLiteral.withoutBase read? (front ++ hole ++ back))
      = UrlLiteral.replaceAll read? (UrlLiteral.withoutBase read? (front ++ hole' ++ back)) := by
  by_cases hfront : front = []
  · -- in front of everything else, both are dropped before a slash
    have hbase : ∀ {hole}, Isolates read? hole new →
        UrlLiteral.withoutBase read? (hole ++ back)
          = if back.head? = some '/' then back else hole ++ back := by
      intro hole h
      unfold UrlLiteral.withoutBase
      rw [h.whole back]
      show (if ((hole ++ back).drop hole.length).head? = some '/' then _ else _) = _
      rw [List.drop_left]
    rw [hfront, List.nil_append, List.nil_append, hbase h, hbase h']
    split
    · rfl
    · rw [replaceAll_read h.ne_nil (h.whole back), replaceAll_read h'.ne_nil (h'.whole back)]
  · rw [h.withoutBase inside hfront, h'.withoutBase inside hfront, h.replaceAll inside,
      h'.replaceAll inside]

-- =========================================================== normalization

/-- An expression has no blanks at its ends, so trimming does not reach into it. -/
theorem trim_filled (isFormat : Bool) (e front back : Text) :
    Text.trim (front ++ filled isFormat e ++ back)
      = front.dropWhile Text.isBlank ++ filled isFormat e ++ Text.trimEnd back := by
  have hstart : (front ++ filled isFormat e ++ back).dropWhile Text.isBlank
      = front.dropWhile Text.isBlank ++ filled isFormat e ++ back := by
    rw [List.append_assoc, List.append_assoc]
    cases isFormat with
    | true => exact Text.dropWhile_append_cons (by decide) ..
    | false => exact Text.dropWhile_append_cons (by decide) ..
  have hclose : filled isFormat e = opening isFormat ++ e ++ [.char '}'] := rfl
  have hend := Text.trimEnd_append_cons (c := .char '}') (by decide)
    (front.dropWhile Text.isBlank ++ (opening isFormat ++ e)) back
  rw [Text.trim, hstart, hclose]
  simpa using hend

/-- Two expressions in one hole are normalized alike. -/
theorem normalize?_filled (isFormat : Bool) (front back : Text) (h : IsExpression e)
    (h' : IsExpression e') :
    normalize? isFormat (front ++ filled isFormat e ++ back)
      = normalize? isFormat (front ++ filled isFormat e' ++ back) := by
  unfold normalize?
  simp only
  rw [trim_filled, trim_filled]
  cases isFormat with
  | true =>
    have hsame := (braced?_isolates h).replaced_eq (braced?_isolates h') braced?_inside
      (front.dropWhile Text.isBlank) (Text.trimEnd back)
    rw [if_pos rfl, if_pos rfl, hsame]
  | false =>
    have hsame := (interpolation?_isolates h).replaced_eq (interpolation?_isolates h')
      interpolation?_inside (front.dropWhile Text.isBlank) (Text.trimEnd back)
    rw [if_neg Bool.false_ne_true, if_neg Bool.false_ne_true, hsame]

end UrlLiteral

/-- Behind an endpoint with the same key an endpoint is not kept. -/
theorem Endpoint.deduplicate_of_key_eq {a b : Endpoint} (h : a.key = b.key)
    (earlier between later : List Endpoint) :
    deduplicate (earlier ++ a :: between ++ b :: later)
      = deduplicate (earlier ++ a :: between ++ later) := by
  have hseen : ((earlier ++ a :: between).map key ++ []).contains b.key = true := by
    simp [h]
  have hskip : newIn ((earlier ++ a :: between).map key ++ []) (b :: later)
      = newIn ((earlier ++ a :: between).map key ++ []) later := by
    rw [newIn, if_pos hseen]
  unfold deduplicate
  rw [newIn_append [] (earlier ++ a :: between), hskip, ← newIn_append]

namespace UrlLiteral

variable {e e' : Text}

/-- The names in interpolations do not matter. Two literals that differ in one
expression have the same URL, or none of them has any; and of two endpoints in a file
with these literals and the same method, the later one is not kept. -/
theorem interpolations_alike (isFormat : Bool) (front back : Text) (h : IsExpression e)
    (h' : IsExpression e') :
    normalize? isFormat (front ++ filled isFormat e ++ back)
        = normalize? isFormat (front ++ filled isFormat e' ++ back)
      ∧ ∀ a b : Endpoint, a.file = b.file → a.method = b.method →
        normalize? isFormat (front ++ filled isFormat e ++ back) = some a.url →
        normalize? isFormat (front ++ filled isFormat e' ++ back) = some b.url →
        ∀ earlier between later,
          Endpoint.deduplicate (earlier ++ a :: between ++ b :: later)
            = Endpoint.deduplicate (earlier ++ a :: between ++ later) := by
  have hsame := normalize?_filled isFormat front back h h'
  refine ⟨hsame, fun a b hfile hmethod ha hb earlier between later => ?_⟩
  apply Endpoint.deduplicate_of_key_eq
  rw [ha, hb] at hsame
  show (a.file, a.url, a.method) = (b.file, b.url, b.method)
  rw [hfile, hmethod, Option.some.inj hsame]

/-- An identifier and a field give one URL, behind a dollar sign without a brace and as the
base of a format string, which is dropped. -/
theorem interpolations_alike_user :
    IsExpression "id" ∧ IsExpression "user.id"
      ∧ normalize? false ("/a$" ++ filled false "id" ++ "/b")
        = normalize? false ("/a$" ++ filled false "user.id" ++ "/b")
      ∧ normalize? false ("/a$" ++ filled false "id" ++ "/b") = some "/a$:id/b"
      ∧ normalize? true (" " ++ filled true "id" ++ "/b")
        = normalize? true (" " ++ filled true "user.id" ++ "/b")
      ∧ normalize? true (" " ++ filled true "id" ++ "/b") = some "/b" := by
  have hid : IsExpression "id" := by decide
  have huser : IsExpression "user.id" := by decide
  exact ⟨hid, huser, (interpolations_alike false "/a$" "/b" hid huser).1, by decide +kernel,
    (interpolations_alike true " " "/b" hid huser).1, by decide +kernel⟩

end UrlLiteral

end MockApi
