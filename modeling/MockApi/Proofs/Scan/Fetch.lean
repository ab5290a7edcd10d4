/-
The method of a browser request, which stands among its options: behind its URL, and in
front of the next request. The options are looked for in a window, and the window may end
within the next request, which is not seen as one then. But a method ends with a quote,
and no quote stands between the start of a request and its opening bracket. So what is
found is what stands in front of the next request, wherever the window ends
(`fetchMethods_eq`).

From this the requests in front of another one do not depend on it: what follows may
change, and they are found as before, with the same methods (`hits_before_fetch`).
-/
import MockApi.Proofs.Scan.Order
import MockApi.Proofs.Scan.Quoted

namespace MockApi

open Pattern Lexeme

namespace Match

variable {previous : Option CodePoint} {t : Text} {found later : Found} {m : Match}

-- ================================================================ options

/-- A method option has its verb between the quotes at its end. -/
theorem takes_methodOption (h : Takes methodOption previous found t later) :
    ∃ quote verb, EndsQuoted t quote verb ∧ later = (.verb, verb) :: found := by
  simp only [methodOption, quoteMark, charIn, takes_seq_iff, takes_part_iff, takes_char_iff,
    takes_piece_iff, takes_blanks_iff, takes_run_iff] at h
  obtain ⟨_, _, _, rfl, ⟨_, verb, _, rfl, ⟨front, _, _, rfl, ⟨_, gap', _, rfl, ⟨_, _, _, rfl,
    ⟨_, gap, _, rfl, ⟨rfl, rfl⟩, hgap, rfl⟩, rfl, rfl⟩, hgap', rfl⟩, quote, rfl, hquote, rfl⟩, _,
    rfl, hverb, -, -, rfl⟩, closing, rfl, hclosing, rfl⟩ := h
  refine ⟨quote, verb, ⟨"method" ++ gap ++ ":" ++ gap', closing, ?_, hquote,
    fun c hc => isQuote_eq_false (by decide) (hverb c hc), hclosing, ?_⟩, rfl⟩
  · rw [List.forall_mem_append, List.forall_mem_append, List.forall_mem_append]
    exact ⟨⟨⟨by decide, fun c hc => isQuote_of_isBlank (hgap c hc)⟩, by decide⟩,
      fun c hc => isQuote_of_isBlank (hgap' c hc)⟩
  · simp only [List.append_assoc, List.cons_append, List.nil_append]

theorem isSharp_methodOption : methodOption.IsSharp :=
  isSharp_of_endsQuoted (fun _ verb => [(.verb, verb)]) rfl takes_methodOption

/-- The method that was found among the options; without one the request reads. -/
def foundMethods : Option Match → List Text
  | some found => found.verbMethod
  | none => ["GET"]

/-- Options whose parts have the same texts name the same methods. -/
theorem foundMethods_congr {first second : Option Match}
    (h : first.map (·.parts.texts) = second.map (·.parts.texts)) :
    foundMethods first = foundMethods second := by
  cases first with
  | none =>
    cases second with
    | none => rfl
    | some m' => cases h
  | some m =>
    cases second with
    | none => cases h
    | some m' =>
      have hparts : m.parts.texts = m'.parts.texts := Option.some.inj h
      show [Text.upper ((m.parts.get? .verb).getD [])] = [Text.upper ((m'.parts.get? .verb).getD [])]
      rw [← Parts.get?_texts, hparts, Parts.get?_texts]

/-- The methods of a request with these options. -/
def methodsAmong (options : Text) : List Text :=
  foundMethods (methodOption.firstIn? (.ofText options))

/-- Options are told by their text, wherever it stands. -/
theorem foundMethods_firstIn? (c : Cursor) :
    foundMethods (methodOption.firstIn? c) = methodsAmong c.rest :=
  foundMethods_congr (isSharp_methodOption.firstIn?_congr rfl rfl)

/-- A method option ends with a quote, so none reaches into a tail without quotes. -/
theorem endsBy_of_mem_methodOption {options tail : Text} (htail : ∀ c ∈ tail, isQuote c = false)
    (h : m ∈ methodOption.matchesIn (.ofText (options ++ tail))) : m.endsBy options.length = true := by
  obtain ⟨start, hstart⟩ := exists_of_mem_matchesIn h
  have hrest := rest_of_matchAt? hstart
  have hstop := stop_offset_of_matchAt? hstart
  obtain ⟨hstarts, -, htakes⟩ := takes_of_matchAt? hstart
  subst hstarts
  obtain ⟨quote, verb, hquoted, -⟩ := takes_methodOption htakes
  obtain ⟨last, hlast, hquote⟩ := (Option.any_eq_true ..).1 hquoted.marks.2
  rw [List.getLast?_eq_getElem?] at hlast
  have hpos := List.length_pos_iff.2 (isSharp_methodOption.nonempty htakes)
  have hplace : (options ++ tail).drop m.start.offset = m.text ++ m.stop.rest := by
    rw [← hrest, start_of_mem_matchesIn h]
    rfl
  rw [Match.endsBy, decide_eq_true_eq, hstop]
  refine Nat.le_of_not_lt fun houtside => ?_
  have hbeyond : options.length ≤ m.start.offset + (m.text.length - 1) := by omega
  have hget : tail[m.start.offset + (m.text.length - 1) - options.length]? = some last := by
    rw [← List.getElem?_append_right hbeyond, ← List.getElem?_drop, hplace,
      List.getElem?_append_left (by omega), hlast]
  rw [htail last (List.mem_of_getElem? hget)] at hquote
  cases hquote

/-- What has no quotes adds no option. -/
theorem methodsAmong_append {tail : Text} (htail : ∀ c ∈ tail, isQuote c = false) (options : Text) :
    methodsAmong (options ++ tail) = methodsAmong options := by
  have hfirst := isSharp_methodOption.firstIn?_followedBy (.ofText options) tail
  have hinside : (methodOption.firstIn? (.ofText (options ++ tail))).filter
      (Match.endsBy options.length) = methodOption.firstIn? (.ofText (options ++ tail)) := by
    cases hm : methodOption.firstIn? (.ofText (options ++ tail)) with
    | none => rfl
    | some m =>
      exact Option.filter_some_pos (endsBy_of_mem_methodOption htail (List.mem_of_head? hm))
  replace hfirst : ((methodOption.firstIn? (.ofText (options ++ tail))).filter
      (Match.endsBy (0 + options.length))).map Match.seen
      = (methodOption.firstIn? (.ofText options)).map Match.seen := hfirst
  rw [Nat.zero_add, hinside] at hfirst
  refine foundMethods_congr ?_
  have hparts := congrArg (Option.map (·.2.2)) hfirst
  rw [Option.map_map, Option.map_map] at hparts
  exact hparts

-- =========================================================== next request

/-- A request starts behind no name with its word, up to its opening bracket. -/
theorem takes_fetchStart_iff :
    Takes fetchStart previous found t later
      ↔ previous.any isNameChar = false ∧ later = found
        ∧ ∃ gap, (∀ c ∈ gap, Text.isBlank c = true) ∧ t = "fetch" ++ gap ++ "(" := by
  simp only [fetchStart, takes_seq_iff, takes_notAfter_iff, takes_piece_iff, takes_blanks_iff]
  constructor
  · rintro ⟨_, _, _, rfl, ⟨_, gap, _, rfl, ⟨_, _, _, rfl, ⟨hprevious, rfl, rfl⟩, rfl, rfl⟩, hgap, rfl⟩,
      rfl, rfl⟩
    exact ⟨hprevious, rfl, gap, hgap, rfl⟩
  · rintro ⟨hprevious, rfl, gap, hgap, rfl⟩
    exact ⟨"fetch" ++ gap, "(", later, rfl, ⟨"fetch", gap, later, rfl, ⟨[], "fetch", later, rfl,
      ⟨hprevious, rfl, rfl⟩, rfl, rfl⟩, hgap, rfl⟩, rfl, rfl⟩

/-- There are no quotes in the start of a request. -/
theorem isQuote_of_mem_fetchStart {x : CodePoint} (h : Takes fetchStart previous found t later)
    (hx : x ∈ t) : isQuote x = false := by
  obtain ⟨-, -, gap, hgap, rfl⟩ := takes_fetchStart_iff.1 h
  rcases List.mem_append.1 hx with hmem | hbracket
  · rcases List.mem_append.1 hmem with hword | hblank
    · exact (by decide : ∀ y ∈ ("fetch" : Text), isQuote y = false) x hword
    · exact isQuote_of_isBlank (hgap x hblank)
  · exact (by decide : ∀ y ∈ ("(" : Text), isQuote y = false) x hbracket

/-- There is no second `f` in the start of a request. -/
theorem not_mem_tail_of_takes_fetchStart (h : Takes fetchStart previous found t later) :
    .char 'f' ∉ t.tail := by
  obtain ⟨-, -, gap, hgap, rfl⟩ := takes_fetchStart_iff.1 h
  show .char 'f' ∉ "etch" ++ gap ++ "("
  intro hmem
  rcases List.mem_append.1 hmem with hfront | hbracket
  · rcases List.mem_append.1 hfront with hword | hblank
    · exact absurd hword (by decide)
    · exact absurd (hgap _ hblank) (by decide)
  · exact absurd hbracket (by decide)

/-- The start of a request is found in the text alone, whatever comes behind. -/
theorem isSharp_fetchStart : fetchStart.IsSharp := by
  refine .of_marks (· == .char '(') 1 rfl (fun htakes => ?_) fun htakes htakes' => ?_
  · obtain ⟨-, -, gap, hgap, rfl⟩ := takes_fetchStart_iff.1 htakes
    have hnone : gap.countP (· == .char '(') = 0 := by
      refine List.countP_eq_zero.2 fun c hc hbracket => ?_
      have hno : Text.isBlank '(' = false := by decide
      rw [← beq_iff_eq.1 hbracket, hgap c hc] at hno
      cases hno
    rw [List.countP_append, List.countP_append, hnone]
    refine ⟨by decide, ?_⟩
    rw [show ("(" : Text) = [.char '('] from rfl, List.getLast?_concat]
    rfl
  · rw [(takes_fetchStart_iff.1 htakes).2.1, (takes_fetchStart_iff.1 htakes').2.1]

/-- The text up to the next request, all of it if there is none. -/
def untilFetch (c : Cursor) : Text :=
  match fetchStart.firstIn? c with
  | some next => c.upTo next.start
  | none => c.rest

/-- At the start of a request nothing is in front of it. -/
theorem untilFetch_of_matchAt? {c : Cursor} (h : fetchStart.matchAt? c = some m) :
    untilFetch c = [] := by
  obtain ⟨previous, rest, offset⟩ := c
  cases rest with
  | nil => rfl
  | cons x rest =>
    rw [untilFetch, firstIn?_cons, h, Option.some_or]
    show Cursor.upTo _ m.start = []
    rw [start_of_matchAt? h, Cursor.upTo, Nat.sub_self, List.take_zero]

/-- Where no request starts, the next character is in front of the next one. -/
theorem untilFetch_cons_of_none {x : CodePoint} {rest : Text} {offset : Nat}
    (h : fetchStart.matchAt? ⟨previous, x :: rest, offset⟩ = none) :
    untilFetch ⟨previous, x :: rest, offset⟩ = x :: untilFetch ⟨some x, rest, offset + 1⟩ := by
  rw [untilFetch, untilFetch, firstIn?_cons, h, Option.none_or]
  cases hnext : fetchStart.firstIn? ⟨some x, rest, offset + 1⟩ with
  | none => rfl
  | some next =>
    have hmem : next ∈ fetchStart.matchesIn ⟨some x, rest, offset + 1⟩ := List.mem_of_head? hnext
    have hle : offset + 1 ≤ next.start.offset := (bounds_of_mem_matchesIn hmem).1
    show (x :: rest).take (next.start.offset - offset) = x :: rest.take _
    rw [show next.start.offset - offset = next.start.offset - (offset + 1) + 1 by omega,
      List.take_succ_cons]

/-- What is in front of the next request is the front of what is left. -/
theorem prefix_untilFetch (c : Cursor) : untilFetch c <+: c.rest := by
  rw [untilFetch]
  split
  · exact List.take_prefix ..
  · exact List.prefix_refl _

/-- In a text that ends early, what stands in front of the next request is what stood there
before, but for a tail without quotes. -/
theorem exists_untilFetch_followedBy (c : Cursor) (more : Text) :
    ∃ tail, (∀ x ∈ tail, isQuote x = false)
      ∧ untilFetch c = (untilFetch (c.followedBy more)).take c.rest.length ++ tail := by
  have nothing : ∀ x ∈ ([] : Text), isQuote x = false := by simp
  obtain ⟨previous, rest, offset⟩ := c
  induction rest generalizing previous offset with
  | nil => exact ⟨[], nothing, rfl⟩
  | cons x rest ih =>
    show ∃ tail, _ ∧ _ = (untilFetch ⟨previous, x :: (rest ++ more), offset⟩).take _ ++ tail
    cases hshort : fetchStart.matchAt? ⟨previous, x :: rest, offset⟩ with
    | some m =>
      obtain ⟨m', hm', -⟩ := isSharp_fetchStart.matchAt?_followedBy hshort more
      replace hm' : fetchStart.matchAt? ⟨previous, x :: (rest ++ more), offset⟩ = some m' := hm'
      rw [untilFetch_of_matchAt? hshort, untilFetch_of_matchAt? hm']
      exact ⟨[], nothing, rfl⟩
    | none =>
      cases hlong : fetchStart.matchAt? ⟨previous, x :: (rest ++ more), offset⟩ with
      | some m =>
        -- the text ends within the request
        obtain ⟨beyond, htext, -⟩ := isSharp_fetchStart.exists_beyond hshort hlong
        replace htext : m.text = x :: rest ++ beyond := htext
        rw [untilFetch_of_matchAt? hlong, List.take_nil]
        refine ⟨_, fun y hy => ?_, (List.nil_append _).symm⟩
        obtain ⟨-, -, htakes⟩ := takes_of_matchAt? hlong
        refine isQuote_of_mem_fetchStart htakes ?_
        rw [htext]
        exact List.mem_append_left _ ((prefix_untilFetch _).mem hy)
      | none =>
        obtain ⟨tail, htail, heq⟩ := ih (some x) (offset + 1)
        rw [untilFetch_cons_of_none hshort, untilFetch_cons_of_none hlong, List.length_cons,
          List.take_succ_cons, heq]
        exact ⟨tail, htail, rfl⟩

/-- A request that follows ends what stands in front of the next request, so that nothing
behind its start matters. -/
theorem untilFetch_followedBy {c : Cursor}
    (h : (c.rest.getLast?.or c.previous).any isNameChar = false)
    (more : Text) : untilFetch (c.followedBy ("fetch(" ++ more)) = untilFetch c := by
  obtain ⟨previous, rest, offset⟩ := c
  induction rest generalizing previous offset with
  | nil =>
    have hstarts : "fetch(" <+: (⟨previous, "fetch(" ++ more, offset⟩ : Cursor).rest :=
      List.prefix_append ..
    have htakes : Takes fetchStart previous [] "fetch(" [] :=
      takes_fetchStart_iff.2 ⟨h, rfl, [], by simp, rfl⟩
    obtain ⟨m, hm, -⟩ := isSharp_fetchStart.exists_matchAt? hstarts htakes
    exact untilFetch_of_matchAt? hm
  | cons x rest ih =>
    show untilFetch ⟨previous, x :: (rest ++ ("fetch(" ++ more)), offset⟩ = _
    cases hshort : fetchStart.matchAt? ⟨previous, x :: rest, offset⟩ with
    | some m =>
      obtain ⟨m', hm', -⟩ := isSharp_fetchStart.matchAt?_followedBy hshort ("fetch(" ++ more)
      replace hm' : fetchStart.matchAt? ⟨previous, x :: (rest ++ ("fetch(" ++ more)), offset⟩ = some m' :=
        hm'
      rw [untilFetch_of_matchAt? hshort, untilFetch_of_matchAt? hm']
    | none =>
      cases hlong : fetchStart.matchAt? ⟨previous, x :: (rest ++ ("fetch(" ++ more)), offset⟩ with
      | some m =>
        -- the letter f opens a request, and none is further on in it
        obtain ⟨beyond, htext, hne, hstarts⟩ := isSharp_fetchStart.exists_beyond hshort hlong
        replace htext : m.text = x :: (rest ++ beyond) := htext
        obtain ⟨-, -, htakes⟩ := takes_of_matchAt? hlong
        refine absurd ?_ (not_mem_tail_of_takes_fetchStart htakes)
        rw [htext, List.tail_cons]
        obtain ⟨y, beyond, rfl⟩ := List.exists_cons_of_ne_nil hne
        obtain ⟨back, hback⟩ := hstarts
        obtain rfl : y = 'f' := (List.cons.inj hback).1
        exact List.mem_append_right _ List.mem_cons_self
      | none =>
        rw [untilFetch_cons_of_none hshort, untilFetch_cons_of_none hlong]
        refine congrArg (x :: ·) (ih (some x) (offset + 1) ?_)
        rw [List.getLast?_cons] at h
        cases hlast : rest.getLast? with
        | none => rw [hlast] at h; exact h
        | some last => rw [hlast] at h; exact h

/-- The method of a request is among the options in front of the next request, as far as the
window reaches. -/
theorem fetchMethods_eq (m : Match) :
    m.fetchMethods = methodsAmong ((untilFetch m.stop).take optionsWindow) := by
  have hwindow : m.fetchMethods = methodsAmong (untilFetch (m.stop.within optionsWindow)) := by
    rw [untilFetch, fetchMethods]
    cases fetchStart.firstIn? (m.stop.within optionsWindow) with
    | none => exact foundMethods_firstIn? _
    | some next => exact foundMethods_firstIn? ((m.stop.within optionsWindow).within _)
  have hwhole : (m.stop.within optionsWindow).followedBy (m.stop.rest.drop optionsWindow)
      = m.stop := by
    show (⟨m.stop.previous, _ ++ _, m.stop.offset⟩ : Cursor) = m.stop
    rw [Cursor.within, List.take_append_drop]
  obtain ⟨tail, htail, heq⟩ := exists_untilFetch_followedBy (m.stop.within optionsWindow)
    (m.stop.rest.drop optionsWindow)
  rw [hwhole] at heq
  have hlength := (prefix_untilFetch m.stop).length_le
  have htake : (untilFetch m.stop).take (m.stop.within optionsWindow).rest.length
      = (untilFetch m.stop).take optionsWindow := by
    rw [List.take_eq_take_iff, Cursor.within, List.length_take]
    omega
  rw [hwindow, heq, methodsAmong_append htail, htake]

/-- A request in front of another one has its method among the options that stand there. -/
theorem fetchMethods_of_endsBy {p : Pattern} {pre more : Text}
    (hpre : pre.getLast?.any isNameChar = false)
    (h : m ∈ p.matchesIn (.ofText (pre ++ ("fetch(" ++ more)))) (hends : m.endsBy pre.length = true) :
    m.fetchMethods
      = methodsAmong ((untilFetch (.inText pre (m.start.offset + m.text.length))).take
          optionsWindow) := by
  rw [endsBy, decide_eq_true_eq] at hends
  obtain ⟨start, hstart⟩ := exists_of_mem_matchesIn h
  have hoffset : m.stop.offset = m.start.offset + m.text.length := by
    rw [stop_offset_of_matchAt? hstart, start_of_matchAt? hstart]
  have hlast : ((Cursor.inText pre m.stop.offset).rest.getLast?.or
      (Cursor.inText pre m.stop.offset).previous).any isNameChar = false := by
    rw [Cursor.inText, ← List.getLast?_append, List.take_append_drop]
    exact hpre
  rw [fetchMethods_eq, stop_of_mem_matchesIn h, Cursor.inText_append hends,
    untilFetch_followedBy hlast, hoffset]

/-- The raw text of a hit is that of its match. -/
theorem raw_of_mem_hits {methods : List Text} {hit : Hit} (h : hit ∈ m.hits methods) :
    hit.raw = m.text := by
  unfold hits at h
  split at h
  · obtain ⟨method, -, rfl⟩ := List.mem_map.1 h
    rfl
  · cases h

/-- The hits of a match are told by what is seen of it. -/
theorem hits_congr {m' : Match} (h : m.seen = m'.seen) (methods : List Text) :
    m.hits methods = m'.hits methods := by
  obtain ⟨hoffset, htext, hparts⟩ : m.start.offset = m'.start.offset ∧ m.text = m'.text
      ∧ m.parts.texts = m'.parts.texts := by
    simpa only [seen, Prod.mk.injEq] using h
  have hget : ∀ part, m.get part = m'.get part := by
    intro part
    rw [get, get, ← Parts.get?_texts, hparts, Parts.get?_texts]
  rw [hits, hits, isFormat, isFormat, hget, hget, hoffset, htext]

end Match

namespace Rule

/-- What is found of requests in front of another one, with their methods, whatever
comes behind. -/
theorem matches_before_fetch {pre : Text} (hpre : pre.getLast?.any isNameChar = false)
    (more more' : Text) :
    ((fetch.pattern.matchesIn (.ofText (pre ++ ("fetch(" ++ more)))).filter
        (Match.endsBy pre.length)).map (fun m => (m.seen, m.fetchMethods))
      = ((fetch.pattern.matchesIn (.ofText (pre ++ ("fetch(" ++ more')))).filter
        (Match.endsBy pre.length)).map fun m => (m.seen, m.fetchMethods) := by
  have told : ∀ more : Text,
      ((fetch.pattern.matchesIn (.ofText (pre ++ ("fetch(" ++ more)))).filter
          (Match.endsBy pre.length)).map (fun m => (m.seen, m.fetchMethods))
        = ((fetch.pattern.matchesIn (.ofText pre)).map Match.seen).map fun seen =>
          (seen, Match.methodsAmong ((Match.untilFetch (.inText pre (seen.1 + seen.2.1.length))).take
            Match.optionsWindow)) := by
    intro more
    have hsame := isSharp_fetch.matchesIn_followedBy (.ofText pre) ("fetch(" ++ more)
    replace hsame : ((fetch.pattern.matchesIn (.ofText (pre ++ ("fetch(" ++ more)))).filter
        (Match.endsBy (0 + pre.length))).map Match.seen
        = (fetch.pattern.matchesIn (.ofText pre)).map Match.seen := hsame
    rw [Nat.zero_add] at hsame
    rw [← hsame, List.map_map]
    refine List.map_congr_left fun m hm => ?_
    obtain ⟨hmem, hends⟩ := List.mem_filter.1 hm
    rw [Match.fetchMethods_of_endsBy hpre hmem hends]
    rfl
  rw [told more, told more']

/-- A request takes no method from the next one. The requests in front of another are found
whatever follows its opening bracket, and with the same methods; so are their hits. For the
method of a request is told by the text between its URL and the next request. -/
theorem hits_before_fetch {pre : Text} (hpre : pre.getLast?.any isNameChar = false)
    (more more' : Text) :
    ((fetch.pattern.matchesIn (.ofText (pre ++ "fetch(" ++ more))).filter
        (Match.endsBy pre.length)).map (fun m => (m.seen, m.fetchMethods))
      = ((fetch.pattern.matchesIn (.ofText (pre ++ "fetch(" ++ more'))).filter
        (Match.endsBy pre.length)).map (fun m => (m.seen, m.fetchMethods))
      ∧ (∀ names names' : ClientNames,
        ∀ hit ∈ (Rule.call fetch).hits names (pre ++ "fetch(" ++ more),
          hit.offset + hit.raw.length ≤ pre.length →
          hit ∈ (Rule.call fetch).hits names' (pre ++ "fetch(" ++ more'))
      ∧ ∀ m m' : Match, Match.untilFetch m.stop = Match.untilFetch m'.stop →
        m.fetchMethods = m'.fetchMethods := by
  rw [List.append_assoc, List.append_assoc]
  have hmatches := matches_before_fetch hpre more more'
  refine ⟨hmatches, fun names names' hit hhit hends => ?_, fun m m' huntil => ?_⟩
  · obtain ⟨m, hm, hfound⟩ := List.mem_flatMap.1 hhit
    replace hfound : hit ∈ m.hits m.fetchMethods := hfound
    have hinside : m.endsBy pre.length = true := by
      rw [Match.endsBy, decide_eq_true_eq, stop_offset_of_mem_matchesFrom hm,
        ← m.offset_of_mem_hits hfound, ← Match.raw_of_mem_hits hfound]
      exact hends
    have hseen := List.mem_map_of_mem (f := fun m : Match => (m.seen, m.fetchMethods))
      (List.mem_filter.2 ⟨hm, hinside⟩)
    rw [hmatches] at hseen
    obtain ⟨m', hm', heq⟩ := List.mem_map.1 hseen
    obtain ⟨hsame, hmethods⟩ := Prod.mk.inj heq
    refine List.mem_flatMap.2 ⟨m', (List.mem_filter.1 hm').1, ?_⟩
    show hit ∈ m'.hits m'.fetchMethods
    rw [hmethods, Match.hits_congr hsame]
    exact hfound
  · rw [Match.fetchMethods_eq, Match.fetchMethods_eq, huntil]

/-- A request that says in its options how it is sent is found in front of one that is
sent in another way, and of one that is cut. -/
theorem hits_before_fetch_reading :
    ("fetch('/a', \x7b method: 'POST' \x7d);\n" : Text).getLast?.any isNameChar = false
      ∧ (⟨0, "POST", "/a", "fetch('/a'"⟩ : Hit) ∈ (Rule.call fetch).hits ⟨[], []⟩
        ("fetch('/a', \x7b method: 'POST' \x7d);\n" ++ "fetch(" ++ "'/b', \x7b method: 'PUT' \x7d);")
      ∧ (⟨0, "POST", "/a", "fetch('/a'"⟩ : Hit) ∈ (Rule.call fetch).hits ⟨[], []⟩
        ("fetch('/a', \x7b method: 'POST' \x7d);\n" ++ "fetch(" ++ "method: 'PUT'") := by
  have hpre : ("fetch('/a', \x7b method: 'POST' \x7d);\n" : Text).getLast?.any isNameChar
      = false := by decide +kernel
  have hhit : (⟨0, "POST", "/a", "fetch('/a'"⟩ : Hit) ∈ (Rule.call fetch).hits ⟨[], []⟩
      ("fetch('/a', \x7b method: 'POST' \x7d);\n" ++ "fetch(" ++ "'/b', \x7b method: 'PUT' \x7d);") := by
    decide +kernel
  obtain ⟨-, hhits, -⟩ := hits_before_fetch hpre "'/b', \x7b method: 'PUT' \x7d);" "method: 'PUT'"
  exact ⟨hpre, hhit, hhits _ _ _ hhit (by decide)⟩

end Rule

end MockApi
