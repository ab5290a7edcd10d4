/-
One file per endpoint. The definitions of some endpoints are generated one after another,
and each is written under a name made of the method and the URL of its endpoint. In names
one character stands for all that a file name is better without, so two endpoints can have
one name. Nothing is refused then: the later endpoint overwrites the file of the earlier
one, whose path reads as the wrong definition from there on.

What one endpoint leaves as it is and what it sets (`Filing.step`) gives what all files
read as in the end: the last definition that was written at their place. So the endpoints
keep a file each if and only if their names are distinct (`writeEach_keeps_iff`), and the
names are distinct unless methods agree and URLs differ in unsafe characters alone
(`fileName_eq_iff`).
-/
import Mathlib.Data.List.Nodup
import MockApi.Proofs.Disk.FilePath
import MockApi.Proofs.Disk.Written
import MockApi.Proofs.Text.Case
import MockApi.Mock.Bundle

namespace MockApi

open Disk

-- ============================================================== one document

namespace Document

/-- The bytes of a document, if it has a text and the text has bytes. -/
def bytes? (v : Json) : Option Bytes := (text v).toOption.bind Utf8.encode?

variable {disk written : Disk} {path : FilePath} {v : Json}

/-- A document is written where its file is opened. -/
theorem exists_put_of_write (h : write disk path v = .ok written) :
    ∃ location made bytes, disk.openFile path = .ok (location, made) ∧ bytes? v = some bytes
      ∧ written = made.put location bytes := by
  obtain ⟨⟨location, made⟩, hopen, h⟩ := bind_eq_ok.1 h
  obtain ⟨t, ht, h⟩ := bind_eq_ok.1 h
  rw [mapError_eq_ok] at hopen ht
  split at h
  · next bytes hbytes =>
    refine ⟨location, made, bytes, hopen, ?_, (Except.ok.inj h).symm⟩
    rw [bytes?, ht]
    exact hbytes
  · cases h

end Document

-- ======================================================= what is generated

/-- The definitions of endpoints as they are given, one after another. -/
def Generator.generateEach (g : Generator) :
    List Call → Chance → Except GenerationError (List Definition × Chance)
  | [], chance => .ok ([], chance)
  | call :: rest, chance => do
    let (definition, chance) ← g.generate call.method call.url chance
    let (definitions, chance) ← generateEach g rest chance
    return (definition :: definitions, chance)

/-- To generate for one endpoint more is to generate behind the others. -/
theorem Generator.generateEach_concat {g : Generator} {calls : List Call} {call : Call}
    {chance between rest : Chance} {definitions : List Definition} {definition : Definition}
    (hcalls : g.generateEach calls chance = .ok (definitions, between))
    (hcall : g.generate call.method call.url between = .ok (definition, rest)) :
    g.generateEach (calls ++ [call]) chance = .ok (definitions ++ [definition], rest) := by
  induction calls generalizing chance definitions with
  | nil =>
    obtain ⟨rfl, rfl⟩ := Prod.mk.inj (Except.ok.inj hcalls)
    rw [List.nil_append, generateEach, hcall]
    rfl
  | cons first later ih =>
    obtain ⟨⟨d, after⟩, hfirst, h⟩ := bind_eq_ok.1 hcalls
    obtain ⟨⟨ds, last⟩, hlater, h⟩ := bind_eq_ok.1 h
    obtain ⟨rfl, rfl⟩ := Prod.mk.inj (Except.ok.inj h)
    rw [List.cons_append, generateEach]
    exact bind_eq_ok.2 ⟨_, hfirst, bind_eq_ok.2 ⟨_, ih hlater, rfl⟩⟩

namespace Bundle

variable {g : Generator} {directory : FilePath} {chance : Chance} {w w' : Writing} {call : Call}

-- ========================================================= what is written

/-- What was written for an endpoint: its definition, as the bytes of a document, at a
place on the disk. -/
structure Filed where
  call : Call
  definition : Definition
  place : Location
  bytes : Bytes
  isDocument : Document.bytes? definition.toJson = some bytes

/-- The path under which an endpoint's definition is written. -/
def Filed.path (directory : FilePath) (f : Filed) : FilePath := directory.child (fileName f.call)

/-- The last of what was written at a place. -/
def lastAt (filed : List Filed) (place : Location) : Option Filed :=
  filed.reverse.find? fun f => f.place = place

/-- What has been written for endpoints: their definitions in turn, each at the place to
which its path still leads, where the last one is read. -/
structure Filing (g : Generator) (directory : FilePath) (chance : Chance) (w : Writing)
    (filed : List Filed) : Prop where
  written : w.written = filed.map (·.path directory)
  generated : g.generateEach (filed.map (·.call)) chance
    = .ok (filed.map (·.definition), w.chance)
  located : ∀ f ∈ filed, w.disk.locate (f.path directory) = .ok f.place
  latest : ∀ place last, lastAt filed place = some last →
    ∀ text, w.disk.readFile text place = .ok last.bytes

/-- One more file is its definition, opened at its path and written. -/
theorem of_writeOne (h : writeOne g directory w call = .ok w') :
    ∃ f : Filed, f.call = call
      ∧ g.generate call.method call.url w.chance = .ok (f.definition, w'.chance)
      ∧ w'.written = w.written ++ [f.path directory]
      ∧ ∃ made, w.disk.openFile (f.path directory) = .ok (f.place, made)
        ∧ w'.disk = made.put f.place f.bytes := by
  obtain ⟨⟨definition, rest⟩, hgenerate, h⟩ := bind_eq_ok.1 h
  obtain ⟨written, hwrite, h⟩ := bind_eq_ok.1 h
  rw [mapError_eq_ok] at hgenerate hwrite
  obtain ⟨place, made, bytes, hopen, hbytes, rfl⟩ := Document.exists_put_of_write hwrite
  obtain rfl := Except.ok.inj h
  exact ⟨⟨call, definition, place, bytes, hbytes⟩, rfl, hgenerate, rfl, made, hopen, rfl⟩

/-- The last file at a place is the newest, if it was written there. -/
theorem lastAt_concat (filed : List Filed) (f : Filed) (place : Location) :
    lastAt (filed ++ [f]) place = if f.place = place then some f else lastAt filed place := by
  rw [lastAt, List.reverse_append, List.reverse_singleton, List.singleton_append, List.find?_cons]
  by_cases hplace : f.place = place
  · rw [if_pos hplace, decide_eq_true hplace]
  · rw [if_neg hplace, decide_eq_false hplace]
    rfl

/-- Writing for one more endpoint sets its file, and leaves where paths lead and what all
other files read as. -/
theorem Filing.step {filed : List Filed} (filing : Filing g directory chance w filed)
    (h : writeOne g directory w call = .ok w') :
    ∃ f : Filed, f.call = call ∧ Filing g directory chance w' (filed ++ [f]) := by
  obtain ⟨f, rfl, hgenerate, hwritten, made, hopen, hdisk⟩ := of_writeOne h
  refine ⟨f, rfl, ?_, ?_, ?_, ?_⟩
  · rw [hwritten, filing.written, List.map_append, List.map_singleton]
  · rw [List.map_append, List.map_append, List.map_singleton, List.map_singleton]
    exact Generator.generateEach_concat filing.generated hgenerate
  · intro other hother
    rw [hdisk]
    rcases List.mem_append.1 hother with hearlier | hlast
    · exact locate_put_of_openFile hopen f.bytes (filing.located other hearlier)
    · rw [List.mem_singleton.1 hlast]
      exact locate_put (free_of_openFile hopen).1 (of_openFile hopen).2 f.bytes
  · intro place last hlast text
    rw [hdisk]
    rw [lastAt_concat] at hlast
    split at hlast
    · next hplace =>
      obtain rfl := Option.some.inj hlast
      rw [← hplace]
      exact readFile_put_self hopen f.bytes text
    · next hplace => exact readFile_put_of_ne hopen hplace f.bytes (filing.latest place last hlast text)

/-- Writing for endpoints goes on with what was written. -/
theorem Filing.run {calls : List Call} {filed : List Filed}
    (filing : Filing g directory chance w filed)
    (h : calls.foldlM (writeOne g directory) w = .ok w') :
    ∃ later : List Filed, later.map (·.call) = calls
      ∧ Filing g directory chance w' (filed ++ later) := by
  induction calls generalizing w filed with
  | nil =>
    obtain rfl := Except.ok.inj h
    exact ⟨[], rfl, by rwa [List.append_nil]⟩
  | cons call rest ih =>
    rw [List.foldlM_cons] at h
    obtain ⟨between, hstep, hrest⟩ := bind_eq_ok.1 h
    obtain ⟨f, hcall, hbetween⟩ := filing.step hstep
    obtain ⟨later, hlater, hdone⟩ := ih hbetween hrest
    refine ⟨f :: later, by rw [List.map_cons, hcall, hlater], ?_⟩
    rwa [List.append_assoc, List.singleton_append] at hdone

/-- A run that succeeds has filed its endpoints one by one. -/
theorem filing_of_writeEach {calls : List Call} {disk : Disk}
    (h : writeEach g directory calls disk chance = .ok w) :
    ∃ filed : List Filed, filed.map (·.call) = calls ∧ Filing g directory chance w filed := by
  have nothing : Filing g directory chance ⟨disk, [], chance⟩ [] :=
    ⟨rfl, rfl, by simp, fun _ _ hlast => nomatch hlast⟩
  exact nothing.run h

-- ============================================================ what is kept

/-- Every endpoint has a file of its own, and its path reads as its definition. -/
structure KeepsEach (disk : Disk) (directory : FilePath) (filed : List Filed) : Prop where
  apart : (filed.map (·.place)).Nodup
  shown : ∀ f ∈ filed, disk.locate (f.path directory) = .ok f.place
    ∧ disk.read (f.path directory) = .ok f.bytes

/-- Where no place is used twice, each file is the last at its own. -/
theorem lastAt_of_nodup {filed : List Filed} (h : (filed.map (·.place)).Nodup) {f : Filed}
    (hf : f ∈ filed) : lastAt filed f.place = some f := by
  have hsome : (filed.reverse.find? fun other => other.place = f.place).isSome = true :=
    List.find?_isSome.2 ⟨f, List.mem_reverse.2 hf, decide_eq_true rfl⟩
  obtain ⟨last, hlast⟩ := Option.isSome_iff_exists.1 hsome
  have hplace : last.place = f.place := by simpa using List.find?_some hlast
  have hlater := List.mem_reverse.1 (List.mem_of_find?_eq_some hlast)
  rw [lastAt, hlast, List.inj_on_of_nodup_map h hlater hf hplace]

/-- Where no two places agree, nothing is overwritten. -/
theorem Filing.keepsEach_iff {filed : List Filed} (filing : Filing g directory chance w filed) :
    KeepsEach w.disk directory filed ↔ (filed.map (·.place)).Nodup := by
  constructor
  · exact KeepsEach.apart
  · intro hapart
    refine ⟨hapart, fun f hf => ⟨filing.located f hf, ?_⟩⟩
    unfold Disk.read
    rw [filing.located f hf]
    exact filing.latest f.place f (lastAt_of_nodup hapart hf) _

-- ================================================================== names

/-- No character is a slash once it was made safe. -/
theorem safe_ne_slash (c : CodePoint) : safe c ≠ '/' := by
  intro hslash
  unfold safe at hslash
  split at hslash
  · exact absurd hslash (by decide)
  · next hsafe =>
    rw [hslash] at hsafe
    exact hsafe (by decide)

/-- A file name is one part of a path if the method has no slash. -/
theorem isPart_fileName (h : ('/' : CodePoint) ∉ Text.upper call.method) :
    FileName.IsPart (fileName call) := by
  apply FileName.IsPart.of_length
  · intro hmem
    rcases List.mem_append.1 hmem with hfront | hsuffix
    · rcases List.mem_append.1 hfront with hmethod | hurl
      · rcases List.mem_append.1 hmethod with hmethod | hline
        · exact h hmethod
        · exact absurd hline (by decide)
      · obtain ⟨c, -, hc⟩ := List.mem_map.1 hurl
        exact safe_ne_slash c hc
    · exact absurd hsuffix (by decide)
  · have hsuffix : (".json" : Text).length = 5 := rfl
    rw [fileName, List.length_append, hsuffix]
    omega

/-- In one directory, places agree where the disk gives the names back alike. -/
theorem Filing.place_eq_iff {filed : List Filed} (filing : Filing g directory chance w filed)
    (methods : ∀ f ∈ filed, ('/' : CodePoint) ∉ Text.upper f.call.method) {a b : Filed}
    (ha : a ∈ filed) (hb : b ∈ filed) :
    a.place = b.place
      ↔ FileName.canonical (fileName a.call) = FileName.canonical (fileName b.call) := by
  obtain ⟨place, hplace, hplace'⟩ := exists_place (isPart_fileName (methods a ha))
    (isPart_fileName (methods b hb)) (filing.located a ha) (filing.located b hb)
  rw [hplace, hplace', List.append_cancel_left_eq, List.cons.injEq]
  exact and_iff_left rfl

/-- No place is used twice if the disk tells the file names apart. -/
theorem Filing.nodup_iff {filed : List Filed} (filing : Filing g directory chance w filed)
    (methods : ∀ call ∈ filed.map (·.call), ('/' : CodePoint) ∉ Text.upper call.method) :
    (filed.map (·.place)).Nodup
      ↔ ((filed.map (·.call)).map fun call => FileName.canonical (fileName call)).Nodup := by
  have methods' : ∀ f ∈ filed, ('/' : CodePoint) ∉ Text.upper f.call.method :=
    fun f hf => methods f.call (List.mem_map_of_mem hf)
  simp only [List.Nodup, List.pairwise_map]
  exact List.Pairwise.iff_of_mem fun ha hb => not_congr (filing.place_eq_iff methods' ha hb)

/-- A file name begins with the letters of its method. -/
theorem letters_fileName (h : Text.IsLatinWord call.method) :
    (fileName call).takeWhile Text.isAsciiLetter = Text.upper call.method := by
  rw [fileName, List.append_assoc, List.append_assoc,
    List.takeWhile_append_of_pos h.upper.2]
  show _ ++ ('_' :: _ : Text).takeWhile Text.isAsciiLetter = _
  rw [List.takeWhile_cons_of_neg (by decide), List.append_nil]

/-- The names of two endpoints agree where the methods do in upper case, and the URLs but
for unsafe characters. -/
theorem fileName_eq_iff {a b : Call} (ha : Text.IsLatinWord a.method)
    (hb : Text.IsLatinWord b.method) :
    fileName a = fileName b
      ↔ Text.upper a.method = Text.upper b.method ∧ a.url.map safe = b.url.map safe := by
  constructor
  · intro hname
    have hmethod : Text.upper a.method = Text.upper b.method := by
      rw [← letters_fileName ha, ← letters_fileName hb, hname]
    rw [fileName, fileName, hmethod] at hname
    exact ⟨hmethod, List.append_cancel_left (List.append_cancel_right hname)⟩
  · rintro ⟨hmethod, hurl⟩
    rw [fileName, fileName, hmethod, hurl]

/-- Where the method is a word and the URL has characters alone, the disk gives the name
back as it is. -/
theorem canonical_fileName (h : Text.IsLatinWord call.method)
    (plain : ∀ c ∈ call.url, ∃ x : Char, c = .char x) :
    FileName.canonical (fileName call) = fileName call := by
  have hchars : ∀ c ∈ fileName call, ∃ x : Char, c = .char x := by
    intro c hc
    rcases List.mem_append.1 hc with hfront | hsuffix
    · rcases List.mem_append.1 hfront with hmethod | hurl
      · rcases List.mem_append.1 hmethod with hmethod | hline
        · exact Text.exists_char_of_isAsciiLetter (h.upper.2 c hmethod)
        · exact ⟨'_', List.mem_singleton.1 hline⟩
      · obtain ⟨d, hd, rfl⟩ := List.mem_map.1 hurl
        unfold safe
        split
        · exact ⟨'_', rfl⟩
        · exact plain d hd
    · obtain ⟨x, -, hx⟩ := List.mem_map.1 hsuffix
      exact ⟨x, hx.symm⟩
  obtain ⟨chars, hname⟩ := Text.exists_chars hchars
  rw [hname]
  exact FileName.canonical_of_chars chars

-- =========================================================== all endpoints

/-- A file per endpoint. After writing, each endpoint's path leads to a place that reads as
the last definition that was written there, so each endpoint keeps a file of its own with
its definition if and only if no two were written at one place. In one directory that is so
if and only if the names are distinct for the disk; and where methods are words and URLs
have characters alone, if and only if no two endpoints agree in the method and, but for
unsafe characters, in the URL. -/
theorem writeEach_keeps_iff {calls : List Call} {disk : Disk}
    (h : writeEach g directory calls disk chance = .ok w) :
    ∃ filed : List Filed, filed.map (·.call) = calls ∧ Filing g directory chance w filed
      ∧ (KeepsEach w.disk directory filed ↔ (filed.map (·.place)).Nodup)
      ∧ ((∀ call ∈ calls, ('/' : CodePoint) ∉ Text.upper call.method) →
        (KeepsEach w.disk directory filed
          ↔ (calls.map fun call => FileName.canonical (fileName call)).Nodup))
      ∧ ((∀ call ∈ calls, Text.IsLatinWord call.method ∧ ∀ c ∈ call.url, ∃ x : Char, c = .char x) →
        (KeepsEach w.disk directory filed
          ↔ (calls.map fun call => (Text.upper call.method, call.url.map safe)).Nodup)) := by
  obtain ⟨filed, rfl, filing⟩ := filing_of_writeEach h
  refine ⟨filed, rfl, filing, filing.keepsEach_iff, fun methods => ?_, fun words => ?_⟩
  · rw [filing.keepsEach_iff, filing.nodup_iff methods]
  · have methods : ∀ call ∈ filed.map (·.call), ('/' : CodePoint) ∉ Text.upper call.method :=
      fun call hcall hslash => absurd ((words call hcall).1.upper.2 _ hslash) (by decide)
    rw [filing.keepsEach_iff, filing.nodup_iff methods]
    simp only [List.Nodup, List.pairwise_map]
    refine List.Pairwise.iff_of_mem fun ha hb => not_congr ?_
    obtain ⟨worda, plaina⟩ := words _ (List.mem_map_of_mem ha)
    obtain ⟨wordb, plainb⟩ := words _ (List.mem_map_of_mem hb)
    rw [canonical_fileName worda plaina, canonical_fileName wordb plainb,
      fileName_eq_iff worda wordb, Prod.mk.injEq]

/-- A generator without templates. -/
def templateless : Generator := ⟨{ }, ⟨2024, 1, 15, 10, 30, 0⟩⟩

/-- Users and those of them that are active keep a file each. -/
theorem writeEach_keeps_iff_users :
    ∃ w, writeEach templateless (FilePath.ofText "mocks") [⟨"GET", "/users"⟩, ⟨"GET", "/users?active"⟩]
        (.empty (FilePath.ofText "/work")) ⟨[]⟩ = .ok w
      ∧ ∃ filed : List Filed, KeepsEach w.disk (FilePath.ofText "mocks") filed
        ∧ filed.map (·.call) = [⟨"GET", "/users"⟩, ⟨"GET", "/users?active"⟩] := by
  have hok : (writeEach templateless (FilePath.ofText "mocks")
      [⟨"GET", "/users"⟩, ⟨"GET", "/users?active"⟩] (.empty (FilePath.ofText "/work"))
      ⟨[]⟩).isOk = true := by decide +kernel
  obtain ⟨w, hw⟩ := exists_of_isOk hok
  obtain ⟨filed, hcalls, -, -, hnames, -⟩ := writeEach_keeps_iff hw
  refine ⟨w, hw, filed, (hnames ?_).2 ?_, hcalls⟩
  · decide +kernel
  · decide +kernel

/-- Two URLs that differ in an unsafe character alone have one file, and the earlier
endpoint has lost its own. -/
theorem active_users_overwritten :
    let calls : List Call := [⟨"GET", "/users?active"⟩, ⟨"GET", "/users/active"⟩]
    (calls.map fun call => (Text.upper call.method, call.url)).Nodup
      ∧ ∃ w, writeEach templateless (FilePath.ofText "mocks") calls
          (.empty (FilePath.ofText "/work")) ⟨[]⟩ = .ok w
        ∧ w.written.length = 2 ∧ w.disk.files.length = 1
        ∧ ∀ filed : List Filed, filed.map (·.call) = calls →
          Filing templateless (FilePath.ofText "mocks") ⟨[]⟩ w filed →
          ¬KeepsEach w.disk (FilePath.ofText "mocks") filed := by
  intro calls
  have hwritten : ((writeEach templateless (FilePath.ofText "mocks") calls
      (.empty (FilePath.ofText "/work")) ⟨[]⟩).toOption.map fun w =>
        (w.written.length, w.disk.files.length)) = some (2, 1) := by decide +kernel
  refine ⟨by decide +kernel, ?_⟩
  cases hw : writeEach templateless (FilePath.ofText "mocks") calls
      (.empty (FilePath.ofText "/work")) ⟨[]⟩ with
  | error cause =>
    rw [hw] at hwritten
    cases hwritten
  | ok w =>
    rw [hw] at hwritten
    obtain ⟨hpaths, hfiles⟩ := Prod.mk.inj (Option.some.inj hwritten)
    refine ⟨w, rfl, hpaths, hfiles, fun filed hcalls filing keeps => ?_⟩
    -- both calls have one file name, though their URLs differ
    have hnames := (filing.nodup_iff (by rw [hcalls]; decide +kernel)).1 keeps.apart
    rw [hcalls] at hnames
    exact absurd hnames (by decide +kernel)

end Bundle

end MockApi
