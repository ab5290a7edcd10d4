/-
A bundle that is written to a file and read again. Its text is encoded and put on
the disk, and found there, decoded and parsed, each step undoing one of the
others; so whatever object was written is read as it was, its keys in their order
(`Bundle.load_of_write`). Floating point numbers are left out, and objects nested
deeper than the reader goes.

The routes that a server loads are those of the object in memory but for one
thing. An object that stands where a header wants a text is shown in another style
when it comes from a file, so a route with such a header comes back with another
text in it (`reload_of_write`). A configuration can make generation write such
headers (`routes_of_written_memo`).
-/
import MockApi.Proofs.Disk.Written
import MockApi.Proofs.Document
import MockApi.Proofs.Json.Characters
import MockApi.Proofs.Mock.Style
import MockApi.Server.Session

namespace MockApi

variable {disk written : Disk} {path : FilePath}

namespace Document

/-- What a written file holds: the bytes of the document's text. -/
theorem of_write {v : Json} (h : write disk path v = .ok written) :
    v.isWritable = true
      ∧ ∃ bytes, Utf8.encode? (v.text .file ++ "\n") = some bytes
        ∧ written.read path = .ok bytes := by
  obtain ⟨⟨location, made⟩, hopen, h⟩ := bind_eq_ok.1 h
  obtain ⟨t, htext, h⟩ := bind_eq_ok.1 h
  have hopened := mapError_eq_ok.1 hopen
  obtain ⟨shown, hshown, rfl⟩ := map_eq_ok.1 (mapError_eq_ok.1 htext)
  unfold Json.write at hshown
  split at hshown
  · next writable =>
    obtain rfl := Except.ok.inj hshown
    refine ⟨writable, ?_⟩
    split at h
    · next bytes hbytes =>
      obtain rfl := Except.ok.inj h
      exact ⟨bytes, hbytes, Disk.read_of_openFile hopened bytes⟩
    · cases h
  · cases hshown

/-- The text of a written document is read as it was written: it has no line
break but its line feeds. -/
theorem readText_of_write {v : Json} (exact : v.isExact = true)
    (h : write disk path v = .ok written) :
    readText written path = .ok (v.text .file ++ "\n") := by
  obtain ⟨-, bytes, hbytes, hread⟩ := of_write h
  unfold readText
  rw [hread]
  show (Utf8.decode bytes).mapError DocumentFlaw.encoding >>= _ = _
  rw [Utf8.decode_of_encode? hbytes]
  show Except.ok (Text.withLineFeeds _) = _
  rw [Text.withLineFeeds_of_not_mem (Json.return_not_mem_text exact)]

end Document

/-- An object that was written is loaded as it was. -/
theorem Bundle.load_of_write [JsonReader] {fields : Fields}
    (exact : (Json.obj fields).isExact = true)
    (room : (Json.obj fields).nesting ≤ Json.Parser.nestingLimit)
    (h : Document.write disk path (.obj fields) = .ok written) :
    load written path = .ok fields := by
  obtain ⟨writable, bytes, -, hread⟩ := Document.of_write h
  have hdocument : Document.read written path = .ok (.obj fields) := by
    rw [Document.read_of_readText (Document.readText_of_write exact h),
      Json.parseText_text_obj, Json.parse_text exact writable room]
    rfl
  unfold load
  rw [Disk.isFile_of_read hread, hdocument]

namespace Server

/-- The routes that are loaded are those of the file's entries. -/
theorem reload_of_load [JsonReader] {s : Server} {p : Project} {fields : Fields}
    (h : Bundle.load disk p.bundleFile = .ok fields) :
    (s.reload disk p).1 = .ok true
      ∧ (s.reload disk p).2.1.routes = (RouteTable.ofEntries .pairs fields).1 := by
  unfold reload
  rw [h]
  exact ⟨rfl, rfl⟩

/-- An object that was written is loaded as it was. The routes that a server takes
from the file are those of the object in memory, but for the values of headers;
and these are the same as well if and only if none of them, among the definitions
and their replies, is or holds an object. -/
theorem reload_of_write [JsonReader] {fields : Fields} (exact : (Json.obj fields).isExact = true)
    (room : (Json.obj fields).nesting ≤ Json.Parser.nestingLimit)
    (h : Document.write disk path (.obj fields) = .ok written) :
    Bundle.load written path = .ok fields
      ∧ ∀ (s : Server) (p : Project), p.bundleFile = path →
        (s.reload written p).1 = .ok true
          ∧ (s.reload written p).2.1.routes.map Route.outline
            = (RouteTable.ofEntries .braces fields).1.map Route.outline
          ∧ ((s.reload written p).2.1.routes = (RouteTable.ofEntries .braces fields).1
            ↔ fields.any RouteTable.showsObject = false) := by
  have hload := Bundle.load_of_write exact room h
  refine ⟨hload, ?_⟩
  rintro s p rfl
  obtain ⟨hanswer, hroutes⟩ := reload_of_load (s := s) hload
  obtain ⟨houtline, hsame⟩ := RouteTable.ofEntries_alike fields
  rw [hroutes]
  exact ⟨hanswer, houtline, hsame⟩

/-- Two entries with all that a text has to escape, out of the order of their
names. -/
def memoBundle : Fields :=
  [("POST /memos", .ofFields
      [("method", .ofString "POST"), ("status", .int 201),
       ("headers", .ofFields [("x-tags", .arr [.null, .bool true]), ("x-age", .int (-3))]),
       ("body", .ofFields [("b", .ofString "\"\\\t\r\n\x7f\u2028"), ("a", .arr [])])]),
   ("/memos", .ofFields [("method", .ofString "get"), ("body", .obj [])])]

/-- A bundle whose headers are no objects is written and gives its routes again. -/
theorem reload_of_write_memos :
    let project : Project := ⟨.ofText "."⟩
    (Json.obj memoBundle).isExact = true
      ∧ (Json.obj memoBundle).nesting ≤ Json.Parser.nestingLimit
      ∧ ∃ written, Document.write (.empty ⟨.root, []⟩) project.bundleFile (.obj memoBundle)
          = .ok written
        ∧ Bundle.load written project.bundleFile = .ok memoBundle
        ∧ ((create {} [] ⟨[]⟩).reload written project).2.1.routes
          = (RouteTable.ofEntries .braces memoBundle).1 := by
  intro project
  have exact : (Json.obj memoBundle).isExact = true := by decide +kernel
  have room : (Json.obj memoBundle).nesting ≤ Json.Parser.nestingLimit := by decide +kernel
  obtain ⟨written, hwritten⟩ := exists_of_isOk (x := Document.write (.empty ⟨.root, []⟩)
    project.bundleFile (.obj memoBundle)) (by decide +kernel)
  obtain ⟨hload, hreload⟩ := reload_of_write exact room hwritten
  obtain ⟨-, -, hroutes⟩ := hreload (create {} [] ⟨[]⟩) project rfl
  exact ⟨exact, room, written, hwritten, hload, hroutes.2 (by decide +kernel)⟩

/-- Gives an object as the value of a header by hand. -/
def memoGenerator : Generator where
  config :=
    { templates := [("/a", .ofFields
        [("headers", .ofFields [("x-note", .ofFields [("a", .int 1)])]), ("body", .arr [])])] }
  now := ⟨2024, 1, 1, 0, 0, 0⟩

/-- The object that is generated with such a header. -/
def memoFields : Fields :=
  [("/a", .ofFields
    [("method", .ofString "GET"), ("status", .int 200),
     ("headers", .ofFields [("x-note", .ofFields [("a", .int 1)])]), ("body", .arr [])])]

/-- What is generated and written with such a header is not what a server loads. -/
theorem routes_of_written_memo :
    let project : Project := ⟨.ofText "."⟩
    ∃ bundle written, Bundle.build memoGenerator false [⟨"GET", "/a"⟩] ⟨[]⟩ = .ok (bundle, ⟨[]⟩)
      ∧ bundle.toJson = .obj memoFields
      ∧ (Json.obj memoFields).isExact = true
      ∧ (Json.obj memoFields).nesting < Json.Parser.nestingLimit
      ∧ Document.write (.empty ⟨.root, []⟩) project.bundleFile (.obj memoFields) = .ok written
      ∧ ((create {} [] ⟨[]⟩).reload written project).2.1.routes
        ≠ (RouteTable.ofEntries .braces memoFields).1 := by
  intro project
  have exact : (Json.obj memoFields).isExact = true := by decide +kernel
  have room : (Json.obj memoFields).nesting < Json.Parser.nestingLimit := by decide +kernel
  obtain ⟨written, hwritten⟩ := exists_of_isOk (x := Document.write (.empty ⟨.root, []⟩)
    project.bundleFile (.obj memoFields)) (by decide +kernel)
  obtain ⟨-, hroutes⟩ := reload_of_load (s := create {} [] ⟨[]⟩)
    (Bundle.load_of_write exact (Nat.le_of_lt room) hwritten)
  have hshows : memoFields.any RouteTable.showsObject = true := by decide +kernel
  refine ⟨_, written, rfl, rfl, exact, room, hwritten, ?_⟩
  intro hsame
  rw [hroutes, (RouteTable.ofEntries_alike memoFields).eq_iff, hshows] at hsame
  cases hsame

end Server

end MockApi
