/-
Where an answer can be made up. A generator needs the path of a URL for the body
of plain reading and writing and of an action, and for nothing else
(`NeedsPath`). With digits that fit into a number and an hour left in the
calendar nothing but an illegible URL keeps it from an answer
(`generate_isOk_iff`), and a bundle from being built (`build_isOk_iff`). Whatever an
answer fails with lies in the endpoint or in the calendar (`failsOnly_generate`).
-/
import MockApi.Proofs.Mock.Bundle
import MockApi.Proofs.Mock.Resource

namespace MockApi

open MockApi.Path (IsLegible)

-- =============================================================== the calendar

namespace Moment

/-- The calendar does not end within the hour. -/
def HasHourLeft (m : Moment) : Prop :=
  ¬(lastYear ≤ m.year ∧ 12 ≤ m.month ∧ 31 ≤ m.day ∧ 23 ≤ m.hour)

/-- A moment with an hour left has one an hour later. -/
theorem hourLater?_isSome {m : Moment} (h : m.HasHourLeft) : m.hourLater?.isSome = true := by
  unfold hourLater?
  split
  · rfl
  · next hhour =>
    unfold nextDay?
    simp only
    split
    · rfl
    · next hday =>
      split
      · rfl
      · next hmonth =>
        split
        · rfl
        · next hyear =>
          -- no month behind the eleventh has fewer than 31 days
          have hlast : 31 ≤ m.day := by
            unfold daysInMonth at hday
            rw [if_neg (by omega), if_neg (by omega)] at hday
            omega
          exact absurd ⟨by omega, by omega, hlast, by omega⟩ h

end Moment

-- ================================================================= generation

/-- The endpoint or the calendar is to blame: the URL cannot be read, a number in it has
too many digits, or a timestamp would lie past the end of the calendar. -/
def GenerationError.IsOfEndpoint : GenerationError → Prop
  | .url _ | .numeral (.tooManyDigits _) | .pastCalendar => True
  | .numeral _ => False

namespace Generator

variable {g : Generator} {url : Text}

/-- The answer of an endpoint needs the path of its URL. -/
def NeedsPath (g : Generator) (method url : Text) : Prop :=
  g.config.templateFor url = none ∧ Text.upper method ≠ "DELETE"
    ∧ ∀ keyword, Category.ofUrl url ≠ .auth keyword

/-- The body of a login is made wherever an hour is left. -/
theorem authBody_isOk (early : g.now.HasHourLeft) (keyword : Text) (chance : Chance) :
    (g.authBody keyword chance).isOk = true := by
  obtain ⟨later, hlater⟩ := Option.isSome_iff_exists.1 (Moment.hourLater?_isSome early)
  unfold authBody
  simp only [hlater]
  split_ifs <;> rfl

/-- With few enough digits, the body of an action is made if the URL can be read. -/
theorem actionBody_isOk_iff (few : url.countP Text.isDigit ≤ digitLimit) (keyword : Text) :
    (g.actionBody keyword url).isOk = true ↔ IsLegible url [] := by
  constructor
  · intro h
    obtain ⟨id, hid, -⟩ := isOk_bind_iff.1 h
    exact (Resource.idOf?_isOk_iff few).1 (isOk_iff_exists.2 ⟨id, mapError_eq_ok.1 hid⟩)
  · intro hlegible
    obtain ⟨id, hid⟩ := exists_of_isOk ((Resource.idOf?_isOk_iff few).2 hlegible)
    obtain ⟨other, hother⟩ := exists_of_isOk ((Resource.idBeforeAction?_isOk_iff few).2 hlegible)
    unfold actionBody
    simp only [hid, hother]
    refine isOk_bind_iff.2 ⟨id, rfl, ?_⟩
    -- wherever the id comes from, there is one
    split
    all_goals
      refine isOk_bind_iff.2 ⟨_, rfl, ?_⟩
      split
      · rfl
      · split_ifs <;> rfl

/-- With few enough digits, the body of a resource is made if the URL can be read. -/
theorem crudBody_isOk_iff (few : url.countP Text.isDigit ≤ digitLimit) (method : Text)
    (chance : Chance) : (g.crudBody method url chance).isOk = true ↔ IsLegible url [] := by
  constructor
  · intro h
    obtain ⟨name, hname, -⟩ := isOk_bind_iff.1 h
    exact (Resource.nameOf_isOk_iff url).1 (isOk_iff_exists.2 ⟨name, mapError_eq_ok.1 hname⟩)
  · intro hlegible
    obtain ⟨name, hname⟩ := exists_of_isOk ((Resource.nameOf_isOk_iff url).2 hlegible)
    obtain ⟨all, hall⟩ := exists_of_isOk ((Resource.isCollection_isOk_iff url).2 hlegible)
    obtain ⟨id, hid⟩ := exists_of_isOk ((Resource.idOf?_isOk_iff few).2 hlegible)
    unfold crudBody
    simp only [hname, hall, hid]
    refine isOk_bind_iff.2 ⟨name, rfl, ?_⟩
    split
    · refine isOk_bind_iff.2 ⟨all, rfl, ?_⟩
      split <;> rfl
    · split
      · rfl
      · refine isOk_bind_iff.2 ⟨orElse id 1, rfl, ?_⟩
        split <;> rfl

/-- An answer is made up if and only if the URL is legible where its path is needed. -/
theorem generate_isOk_iff (few : url.countP Text.isDigit ≤ digitLimit)
    (early : g.now.HasHourLeft) (method : Text) (chance : Chance) :
    (g.generate method url chance).isOk = true ↔ (g.NeedsPath method url → IsLegible url []) := by
  unfold generate
  simp only
  -- a response given by hand, a deletion and a login need no path; all else does
  cases htemplate : g.config.templateFor url with
  | some template => exact iff_of_true rfl fun h => absurd (htemplate ▸ h.1) nofun
  | none =>
    simp only
    split
    · next hdelete => exact iff_of_true rfl fun h => absurd hdelete h.2.1
    · next hdelete =>
      cases hcategory : Category.ofUrl url with
      | auth keyword =>
        simp only
        rw [isOk_bind_pure]
        exact iff_of_true (authBody_isOk early keyword chance) fun h =>
          absurd hcategory (h.2.2 keyword)
      | action keyword =>
        have needs : g.NeedsPath method url := ⟨htemplate, hdelete, by rw [hcategory]; nofun⟩
        simp only
        rw [isOk_bind_pure, isOk_map, actionBody_isOk_iff few]
        exact (imp_iff_right needs).symm
      | crud =>
        have needs : g.NeedsPath method url := ⟨htemplate, hdelete, by rw [hcategory]; nofun⟩
        simp only
        rw [isOk_bind_pure, crudBody_isOk_iff few]
        exact (imp_iff_right needs).symm

-- ===================================================================== causes

/-- The body of a login fails for the endpoint only. -/
theorem failsOnly_authBody (keyword : Text) (chance : Chance) :
    FailsOnly GenerationError.IsOfEndpoint (g.authBody keyword chance) := by
  unfold authBody
  simp only
  split
  · split
    · exact failsOnly_error trivial
    · exact failsOnly_ok _ _
  · split_ifs <;> exact failsOnly_ok _ _

/-- What is read of a URL fails for the endpoint if it fails for the URL. -/
theorem failsOnly_addressed {α : Type} {x : Except Resource.Error α}
    (h : FailsOnly Resource.Error.IsOfUrl x) :
    FailsOnly GenerationError.IsOfEndpoint (x.mapError .ofResource) := by
  refine FailsOnly.mapError fun cause hcause => ?_
  have hkind := h cause hcause
  match cause with
  | .url _ => trivial
  | .numeral (.tooManyDigits _) => trivial

/-- The body of an action fails for the endpoint only. -/
theorem failsOnly_actionBody (keyword url : Text) :
    FailsOnly GenerationError.IsOfEndpoint (g.actionBody keyword url) := by
  refine FailsOnly.bind (failsOnly_addressed (Resource.failsOnly_idOf? url)) fun id _ => ?_
  have hother := failsOnly_addressed (Resource.failsOnly_idBeforeAction? url)
  simp only
  -- wherever the id comes from, what is made of it does not fail
  split
  case' h_1 | h_2 => refine hother.bind fun found _ => ?_
  case' h_3 => refine FailsOnly.bind (failsOnly_ok _ _) fun found _ => ?_
  all_goals
    split
    · exact failsOnly_ok _ _
    · split_ifs <;> exact failsOnly_ok _ _

/-- The body of a resource fails for the endpoint only. -/
theorem failsOnly_crudBody (method url : Text) (chance : Chance) :
    FailsOnly GenerationError.IsOfEndpoint (g.crudBody method url chance) := by
  have haddressed : FailsOnly GenerationError.IsOfEndpoint (do
      let id ← (Resource.idOf? url).mapError .ofResource
      return orElse id 1) :=
    FailsOnly.bind (failsOnly_addressed (Resource.failsOnly_idOf? url)) fun id _ =>
      failsOnly_ok _ _
  refine FailsOnly.bind (FailsOnly.mapError fun cause _ => trivial) fun name _ => ?_
  simp only
  split
  · refine FailsOnly.bind (FailsOnly.mapError fun cause _ => trivial) fun all _ => ?_
    split
    · exact failsOnly_ok _ _
    · exact haddressed.bind fun id _ => failsOnly_ok _ _
  · split
    · exact failsOnly_ok _ _
    · refine haddressed.bind fun id _ => ?_
      split <;> exact failsOnly_ok _ _

/-- An answer fails only with causes that lie in the endpoint or in the calendar. -/
theorem failsOnly_generate (method url : Text) (chance : Chance) :
    FailsOnly GenerationError.IsOfEndpoint (g.generate method url chance) := by
  unfold generate
  simp only
  split
  · exact failsOnly_ok _ _
  · split
    · exact failsOnly_ok _ _
    · split
      · exact (failsOnly_authBody _ chance).bind fun made _ => failsOnly_ok _ _
      · exact ((failsOnly_actionBody _ url).map _).bind fun made _ => failsOnly_ok _ _
      · exact (failsOnly_crudBody _ url chance).bind fun made _ => failsOnly_ok _ _

/-- An endpoint has a slot if its URL can be read. -/
theorem slot?_isSome_iff (call : Call) :
    (g.slot? call).isSome = true ↔ IsLegible call.url g.config.baseUrl := by
  rw [← Path.routePattern_isOk_iff, slot?, Option.isSome_map]
  cases Path.routePattern call.url g.config.baseUrl with
  | error cause => exact Iff.rfl
  | ok pattern => exact Iff.rfl

end Generator

-- ==================================================================== bundles

namespace Bundle

variable {g : Generator} {statefulPosts : Bool} {calls : List Call}

/-- The answer of an endpoint can be made up in the bundle. -/
def CanAnswer (g : Generator) (call : Call) : Prop :=
  g.NeedsPath (Text.upper call.method) call.url → IsLegible call.url []

/-- An endpoint can be added if its URL is legible behind the base URL and its
answer can be made up, unless its slot is in the bundle. -/
theorem add_isOk_iff {call : Call} (few : call.url.countP Text.isDigit ≤ digitLimit)
    (early : g.now.HasHourLeft) (statefulPosts : Bool) (b : Building) :
    (add g statefulPosts b call).isOk = true
      ↔ IsLegible call.url g.config.baseUrl
        ∧ (g.isNew b.claimed call = true → CanAnswer g call) := by
  rw [CanAnswer, ← Generator.generate_isOk_iff few early _ b.chance, ← Generator.slot?_isSome_iff]
  unfold add
  rw [isOk_bind_iff]
  -- without a pattern there is no slot; with one, only a new slot is generated for
  cases hpattern : Path.routePattern call.url g.config.baseUrl with
  | error cause =>
    rw [Generator.slot?, hpattern]
    refine iff_of_false ?_ fun h => Bool.false_ne_true h.1
    rintro ⟨found, h, -⟩
    cases h
  | ok pattern =>
    have hslot : g.slot? call = some (Text.upper call.method, pattern) := by
      rw [Generator.slot?, hpattern]
      rfl
    rw [Generator.isNew_eq hslot, hslot]
    constructor
    · rintro ⟨found, hfound, hadded⟩
      obtain rfl := Except.ok.inj (mapError_eq_ok.1 hfound)
      refine ⟨rfl, fun hnew => ?_⟩
      rw [Bool.not_eq_true'] at hnew
      simp only [hnew, Bool.false_eq_true, if_false] at hadded
      obtain ⟨made, hmade, -⟩ := isOk_bind_iff.1 hadded
      exact isOk_iff_exists.2 ⟨made, hmade⟩
    · rintro ⟨-, hgenerate⟩
      refine ⟨pattern, rfl, ?_⟩
      simp only
      split
      · rfl
      · next hnew =>
        rw [Bool.not_eq_true] at hnew
        obtain ⟨made, hmade⟩ := exists_of_isOk (hgenerate (by rw [hnew]; rfl))
        exact isOk_bind_iff.2 ⟨made, hmade, rfl⟩

/-- The first ones of new slots among an endpoint and later ones: itself if its slot
is new, and those of the slots that are new after it. -/
theorem forall_firsts_cons {call : Call} {b b' : Building} {P : Call → Prop}
    (h : add g statefulPosts b call = .ok b') :
    (∀ c ∈ g.firsts ((call :: calls).filter (g.isNew b.claimed)), P c)
      ↔ (g.isNew b.claimed call = true → P call)
        ∧ ∀ c ∈ g.firsts (calls.filter (g.isNew b'.claimed)), P c := by
  obtain ⟨slot, hslot, ⟨hclaimed, rfl⟩ | ⟨hnew, d, chance, -, rfl⟩⟩ := add_cases h
  · have hold : ¬g.isNew b'.claimed call = true := by
      rw [Generator.isNew_eq hslot, List.contains_iff_mem.2 hclaimed]
      decide
    rw [List.filter_cons_of_neg hold]
    exact ⟨fun h => ⟨fun hnew => absurd hnew hold, h⟩, And.right⟩
  · have hfresh : g.isNew b.claimed call = true := by
      rw [Generator.isNew_eq hslot, Bool.not_eq_true', ← Bool.not_eq_true, List.contains_iff_mem]
      exact hnew
    rw [List.filter_cons_of_pos hfresh, Generator.firsts_cons hslot, List.forall_mem_cons]
    exact and_congr_left fun _ => (imp_iff_right hfresh).symm

/-- All endpoints can be added if each URL is legible behind the base URL, and the
answers of the first ones of new slots can be made up. -/
theorem foldlM_add_isOk_iff (few : ∀ call ∈ calls, call.url.countP Text.isDigit ≤ digitLimit)
    (early : g.now.HasHourLeft) (statefulPosts : Bool) (b : Building) :
    (calls.foldlM (add g statefulPosts) b).isOk = true
      ↔ (∀ call ∈ calls, IsLegible call.url g.config.baseUrl)
        ∧ ∀ call ∈ g.firsts (calls.filter (g.isNew b.claimed)), CanAnswer g call := by
  induction calls generalizing b with
  | nil => exact iff_of_true rfl ⟨nofun, nofun⟩
  | cons call rest ih =>
    obtain ⟨hfew, hlater⟩ := List.forall_mem_cons.1 few
    rw [List.foldlM_cons, isOk_bind_iff, List.forall_mem_cons]
    constructor
    · rintro ⟨b', hadd, hrest⟩
      obtain ⟨hlegible, hanswer⟩ :=
        (add_isOk_iff hfew early statefulPosts b).1 (isOk_iff_exists.2 ⟨b', hadd⟩)
      obtain ⟨hlegibles, hanswers⟩ := (ih hlater b').1 hrest
      exact ⟨⟨hlegible, hlegibles⟩, (forall_firsts_cons hadd).2 ⟨hanswer, hanswers⟩⟩
    · rintro ⟨⟨hlegible, hlegibles⟩, hfirsts⟩
      have hanswer : g.isNew b.claimed call = true → CanAnswer g call := by
        intro hnew
        refine hfirsts call ?_
        rw [List.filter_cons_of_pos hnew, Generator.firsts, List.eraseDupsBy_cons]
        exact List.mem_cons_self
      obtain ⟨b', hadd⟩ := exists_of_isOk
        ((add_isOk_iff hfew early statefulPosts b).2 ⟨hlegible, hanswer⟩)
      have hanswers := ((forall_firsts_cons hadd).1 hfirsts).2
      exact ⟨b', hadd, (ih hlater b').2 ⟨hlegibles, hanswers⟩⟩

/-- A bundle of endpoints can be built if each URL is legible behind the base URL,
and the answers of the first ones of their slots can be made up. -/
theorem build_isOk_iff (few : ∀ call ∈ calls, call.url.countP Text.isDigit ≤ digitLimit)
    (early : g.now.HasHourLeft) (statefulPosts : Bool) (chance : Chance) :
    (build g statefulPosts calls chance).isOk = true
      ↔ (∀ call ∈ calls, IsLegible call.url g.config.baseUrl)
        ∧ ∀ call ∈ g.firsts calls, CanAnswer g call := by
  have hnew : calls.filter (g.isNew []) = calls := List.filter_eq_self.2 fun _ _ => rfl
  have hfold := foldlM_add_isOk_iff few early statefulPosts ⟨[], [], chance⟩
  rw [hnew] at hfold
  rw [← hfold, build, isOk_bind_pure]

end Bundle

end MockApi
