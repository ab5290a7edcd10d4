/-
The framing of a response. A definition's headers are any texts in any order, and may name
a length, a type or an encoding of their own, in several cases and more than once; the
response has the framing of the server all the same (`framing_of_reply`). The lines that
decide it are left out of the definition's own (`linesOf_ownHeaders`) and come behind them
once, with the length of the body that is sent and the type that the headers name first.

The body says the value it was made from. It is written in ASCII, so where a text of the
value holds the two halves of a surrogate pair next to each other, as a template can put
them there, a reader sees the character of the pair (`halves_read_as_one`).
-/
import MockApi.Proofs.Json.Characters
import MockApi.Proofs.Server.Exchange
import MockApi.Proofs.Server.Headers
import MockApi.Proofs.Server.Sending

namespace MockApi

namespace Response

variable {headers : Fields} {name text type : Text} {status : Int}

/-- The type that headers name: the value of the first one of its name in any case, and
that of JSON if there is none. -/
inductive NamesType (headers : Fields) : Text → Prop where
  | named {front back : Fields} {name : Text} {value : Json}
    (split : headers = front ++ (name, value) :: back)
    (first : ∀ header ∈ front, Text.lower header.1 ≠ "content-type")
    (same : Text.lower name = "content-type") : NamesType headers (valueText value)
  | unnamed (none : ∀ header ∈ headers, Text.lower header.1 ≠ "content-type") :
    NamesType headers "application/json"

/-- The type of an answer is the one that its headers name. -/
theorem namesType_typeOf (headers : Fields) : NamesType headers (typeOf headers) := by
  unfold typeOf
  cases hfound : headers.find? fun header => Text.lower header.1 == contentType with
  | some header =>
    obtain ⟨hname, front, back, hsplit, hfirst⟩ := List.find?_eq_some_iff_append.1 hfound
    refine .named hsplit (fun other hmem => ?_) (beq_iff_eq.1 hname)
    simpa [contentType] using hfirst other hmem
  | none =>
    refine .unnamed fun header hmem => ?_
    simpa [contentType] using List.find?_eq_none.1 hfound header hmem

/-- No headers name the same type as those of JSON, which stand for them. -/
theorem namesType_given (headers : Fields) : NamesType headers (typeOf (given headers)) := by
  unfold given
  cases headers with
  | nil =>
    have htype : typeOf jsonHeaders = "application/json" := by decide +kernel
    rw [List.isEmpty_nil, if_pos rfl, htype]
    exact .unnamed nofun
  | cons header rest => exact namesType_typeOf _

-- ============================================================ headers that can be sent

/-- Headers whose names and values have one byte for each character. -/
def AreLatin (headers : Fields) : Prop :=
  ∀ header ∈ headers, Text.IsSingleByte header.1 ∧ Text.IsSingleByte (valueText header.2)

theorem areLatin_jsonHeaders : AreLatin jsonHeaders := by
  unfold AreLatin Text.IsSingleByte
  decide

/-- Headers of single bytes are so without those of their framing. -/
theorem AreLatin.given (h : AreLatin headers) : AreLatin (given headers) := by
  unfold Response.given
  split
  · exact areLatin_jsonHeaders
  · exact h

/-- Headers of single bytes can be encoded. -/
theorem AreLatin.ownHeaders (h : AreLatin headers) : areEncodable (ownHeaders headers) = true := by
  refine areEncodable_iff.2 fun line hline => ?_
  obtain ⟨header, hmem, rfl⟩ := List.mem_map.1 hline
  obtain ⟨hname, hvalue⟩ := h header (List.mem_filter.1 hmem).1
  exact ⟨hname.lower, hvalue⟩

/-- The type that they name is of single bytes. -/
theorem AreLatin.typeOf (h : AreLatin headers) : Text.IsSingleByte (Response.typeOf headers) := by
  have hnames := namesType_typeOf headers
  generalize Response.typeOf headers = type at hnames
  cases hnames with
  | named split first same => exact (h _ (split ▸ List.mem_append_right _ List.mem_cons_self)).2
  | unnamed none =>
    unfold Text.IsSingleByte
    decide

/-- A type of single bytes is so once a charset is added. -/
theorem isSingleByte_sentType (h : Text.IsSingleByte type) : Text.IsSingleByte (sentType type) := by
  unfold sentType
  split
  · have hcharset : Text.IsSingleByte "; charset=utf-8" := by
      unfold Text.IsSingleByte
      decide
    exact List.forall_mem_append.2 ⟨h, hcharset⟩
  · exact h

/-- A body that can be written is sent with such headers. -/
theorem isSendable_of_areLatin {body : Json} (h : AreLatin headers)
    (writable : (sent body).isWritable = true) : isSendable status headers body = true := by
  have htype := isSingleByte_iff.2 (isSingleByte_sentType h.given.typeOf)
  rw [isSendable, h.given.ownHeaders, htype, writable]
  exact Bool.or_true _

-- ============================================================ the lines that decide

/-- A definition's own lines leave the framing to the server. -/
theorem linesOf_ownHeaders (h : areEncodable (ownHeaders headers) = true)
    (hname : name ∈ contentType :: framingHeaders) : linesOf name (ownHeaders headers) = [] := by
  refine linesOf_eq_nil fun line hline => ?_
  rw [isLowered_ownHeaders h line hline]
  rintro rfl
  obtain ⟨header, hmem, rfl⟩ := List.mem_map.1 hline
  have hkept := (List.mem_filter.1 hmem).2
  rw [Bool.and_eq_true, Bool.not_eq_true', bne_iff_ne] at hkept
  rcases List.mem_cons.1 hname with htype | hframing
  · exact hkept.2 htype
  · exact absurd (List.contains_iff_mem.2 hframing) (by rw [hkept.1]; decide)

theorem hasLength_of_ok (hbody : hasNoBody status = false) (hstatus : 200 ≤ status) :
    hasLength status = true := by
  have hsmall : ¬status < 200 := by omega
  simp [hasLength, hbody, hsmall]

/-- Behind the definition's own lines come one with the length and one with the type. -/
theorem linesOf_lines (h : areEncodable (ownHeaders headers) = true)
    (hlength : hasLength status = true) (hname : name ∈ contentType :: framingHeaders) :
    linesOf name (lines status headers text)
      = linesOf name [lengthLine text, typeLine (sentType (typeOf headers))] := by
  rw [lines, hlength, if_pos rfl, List.append_assoc, linesOf_append,
    linesOf_ownHeaders h hname]
  rfl

/-- The framing of an answer has one line of its length and one of its type. -/
theorem linesOf_framing (name text type : Text) :
    linesOf name [lengthLine text, typeLine type]
      = (if "content-length" = name then [lengthLine text] else [])
        ++ (if contentType = name then [typeLine type] else []) := by
  obtain ⟨hlength, hrest⟩ := isLowered_cons.1 (isLowered_framing text type)
  obtain ⟨htype, -⟩ := isLowered_cons.1 hrest
  unfold linesOf
  rw [List.filter_cons, List.filter_cons, List.filter_nil, hlength, htype]
  simp only [beq_iff_eq]
  show (if "content-length" = name then _ :: (if contentType = name then _ else _)
    else (if contentType = name then _ else _)) = _
  split
  · split <;> rfl
  · split <;> rfl

/-- What the lines say of each name that decides the framing. -/
theorem hasOne_lines (h : areEncodable (ownHeaders headers) = true)
    (hlength : hasLength status = true) (text : Text) :
    HasOne "content-length" (decimalOfNat (Utf8.size text)) (lines status headers text)
      ∧ HasOne "content-type" (sentType (typeOf headers)) (lines status headers text)
      ∧ linesOf "transfer-encoding" (lines status headers text) = []
      ∧ linesOf "connection" (lines status headers text) = [] := by
  have hlines : ∀ name ∈ contentType :: framingHeaders, linesOf name (lines status headers text)
      = (if "content-length" = name then [lengthLine text] else [])
        ++ (if contentType = name then [typeLine (sentType (typeOf headers))] else []) :=
    fun name hname => (linesOf_lines h hlength hname).trans (linesOf_framing ..)
  exact ⟨hlines _ (by decide), hlines _ (by decide), hlines _ (by decide), hlines _ (by decide)⟩

end Response

open Response

namespace Json

/-- The value says nothing with a high half and a low one right behind it. -/
def IsJoined (v : Json) : Prop := ∀ t, v.Says t → Parser.IsJoined t

/-- The text of a response is read as the value, with its halves joined. -/
theorem parse_body [JsonReader] {v : Json} (exact : v.isExact = true)
    (writable : v.isWritable = true)
    (room : v.nesting ≤ Parser.nestingLimit) : parse (v.text .body) = .ok (v.reread .body) := by
  have hbreak : Parser.IsBreak [] := nofun
  have hread := parse_layout JsonLayout.isReadable_body exact writable room hbreak rfl
  rwa [List.append_nil] at hread

end Json

/-- A reply with a status from 200 on, headers whose names and values take one byte for each
character, and a value without floating point numbers whose integers can be written. -/
structure Reply.IsPlain (reply : Reply) : Prop where
  status : 200 ≤ reply.status
  latin : AreLatin reply.headers
  exact : (sent reply.body).isExact = true
  writable : (sent reply.body).isWritable = true

namespace Server

variable {s : Server} {r : Request} {reply : Reply}

/-- The response to a plain reply names neither an encoding nor a connection, in any case. A
status without a body has no body and no lines about one. Any other has one line with the
type that the headers name first, a text with its character set, and one with the number of
bytes of its body; and the body is read as the value, with halves that stand next to each
other joined, as long as the value is not nested deeper than the reader goes. -/
theorem framing_of_reply [JsonReader] (h : s.reply? r = some reply) (plain : reply.IsPlain) :
    ∃ response, (s.dispatch r).1 = .ok response ∧ response.status = reply.status
      ∧ linesOf "transfer-encoding" response.headers = []
      ∧ linesOf "connection" response.headers = []
      ∧ (reply.status = 204 ∨ reply.status = 304 →
        response.body = [] ∧ linesOf "content-type" response.headers = []
          ∧ linesOf "content-length" response.headers = [])
      ∧ (reply.status ≠ 204 → reply.status ≠ 304 →
        (∃ type, NamesType reply.headers type
          ∧ HasOne "content-type" (sentType type) response.headers)
        ∧ (∃ bytes, Utf8.encode? response.body = some bytes
          ∧ HasOne "content-length" (decimalOfNat bytes.length) response.headers)
        ∧ ((sent reply.body).nesting ≤ Json.Parser.nestingLimit →
          Json.parse response.body = .ok ((sent reply.body).reread .body)
            ∧ ((sent reply.body).IsJoined →
              (sent reply.body).reread .body = sent reply.body))) := by
  obtain ⟨response, hbuilt⟩ := (build_isOk_iff reply.status reply.headers reply.body).2
    (isSendable_of_areLatin plain.latin plain.writable)
  refine ⟨response, (dispatch_of_reply? h).trans hbuilt, status_of_build hbuilt, ?_⟩
  have hown := plain.latin.given.ownHeaders
  rcases build_eq_ok_iff.1 hbuilt with ⟨hbody, -, rfl⟩ | ⟨hbody, -, -, rfl⟩
  · have hnone : reply.status = 204 ∨ reply.status = 304 := by simpa [hasNoBody] using hbody
    refine ⟨linesOf_ownHeaders hown (by decide), linesOf_ownHeaders hown (by decide),
      fun _ => ⟨rfl, linesOf_ownHeaders hown (by decide), linesOf_ownHeaders hown (by decide)⟩,
      fun hne hne' => absurd hnone (not_or.2 ⟨hne, hne'⟩)⟩
  · have hsome : reply.status ≠ 204 ∧ reply.status ≠ 304 := by simpa [hasNoBody] using hbody
    obtain ⟨hlength, htype, hencoding, hconnection⟩ :=
      hasOne_lines hown (hasLength_of_ok hbody plain.status) ((sent reply.body).text .body)
    obtain ⟨bytes, hbytes⟩ := Json.encode?_text plain.exact
    refine ⟨hencoding, hconnection, fun hnone => absurd hnone (not_or.2 hsome), fun _ _ =>
      ⟨⟨_, namesType_given reply.headers, htype⟩, ⟨bytes, hbytes, ?_⟩, fun room =>
        ⟨Json.parse_body plain.exact plain.writable room, Json.reread_body plain.exact⟩⟩⟩
    rw [Utf8.size, hbytes, Option.getD_some] at hlength
    exact hlength

/-- Headers that contradict each other and the framing. -/
def crookedHeaders : Fields :=
  [("Content-Length", .ofString "3"), ("CONTENT-TYPE", .ofString "text/plain"),
   ("Transfer-Encoding", .ofString "chunked"), ("content-type", .ofString "application/xml"),
   ("Connection", .ofString "close"), ("content-length", .ofString "4")]

/-- What is sent with them. -/
def crookedBody : Json := .ofFields [("name", .ofString "Zoë")]

def crookedServer : Server :=
  create {} [{ pattern := "/notes"
               definition := { method := "GET", status := 203, headers := crookedHeaders,
                               body := crookedBody } }] ⟨[]⟩

def noteRead : Request := { method := "get", path := "/notes/" }

/-- The framing of the server stands against that of the headers. -/
theorem framing_of_reply_crooked :
    let reply : Reply := ⟨203, crookedHeaders, crookedBody⟩
    crookedServer.reply? noteRead = some reply ∧ reply.IsPlain
      ∧ ∃ response, (crookedServer.dispatch noteRead).1 = .ok response
        ∧ linesOf "transfer-encoding" response.headers = []
        ∧ linesOf "connection" response.headers = []
        ∧ (∃ type, NamesType crookedHeaders type
          ∧ HasOne "content-type" (sentType type) response.headers)
        ∧ (∃ bytes, Utf8.encode? response.body = some bytes
          ∧ HasOne "content-length" (decimalOfNat bytes.length) response.headers)
        ∧ Json.parse response.body = .ok crookedBody := by
  intro reply
  have hreply : crookedServer.reply? noteRead = some reply := rfl
  have latin : AreLatin crookedHeaders := by
    unfold AreLatin Text.IsSingleByte
    decide +kernel
  have plain : reply.IsPlain := ⟨by decide, latin, by decide +kernel, by decide +kernel⟩
  have room : crookedBody.nesting ≤ Json.Parser.nestingLimit := by decide +kernel
  -- no surrogate halves stand side by side, so the body is read back as it is
  have hjoined : crookedBody.reread .body = crookedBody := rfl
  obtain ⟨response, hok, -, hencoding, hconnection, -, hsome⟩ := framing_of_reply hreply plain
  obtain ⟨htype, hlength, hparse⟩ := hsome (by decide) (by decide)
  refine ⟨hreply, plain, response, hok, hencoding, hconnection, htype, hlength, ?_⟩
  exact (hparse room).1.trans (congrArg Except.ok hjoined)

/-- The halves of a surrogate pair, as texts of their own. -/
def highHalf : Text := [.ofNat 0xd83d]

def lowHalf : Text := [.ofNat 0xde00]

/-- Puts two fields of a request next to each other. -/
def joiningServer : Server :=
  create {} [{ pattern := "/notes"
               definition := { method := "POST", status := 201, headers := jsonHeaders,
                               stateful := true
                               body := .ofFields [("t",
                                .ofString "\x7b\x7bbody.a\x7d\x7d\x7b\x7bbody.b\x7d\x7d")] } }] ⟨[]⟩

def joiningWrite : Request where
  method := "POST"
  path := "/notes"
  body := .ofFields [("a", .str highHalf), ("b", .str lowHalf)]

/-- An array within an array, and so on. -/
def nested : Nat → Json
  | 0 => .arr []
  | n + 1 => .arr [nested n]

/-- Nested arrays are written as the brackets that open, then those that close. -/
theorem text_nested (n level : Nat) :
    Json.textAt .body level (nested n)
      = List.replicate (n + 1) (.char '[') ++ List.replicate (n + 1) (.char ']') := by
  induction n generalizing level with
  | zero => rfl
  | succ n ih =>
    have hclosing : List.replicate (n + 1 + 1) (CodePoint.char ']')
        = List.replicate (n + 1) (CodePoint.char ']') ++ [.char ']'] := List.replicate_succ'
    rw [nested, Json.textAt, ih, hclosing]
    simp only [Json.itemsText, JsonLayout.lineBreak, JsonLayout.body, List.append_nil,
      List.append_assoc]
    rfl

def nestedServer : Server :=
  create {} [{ pattern := "/notes"
               definition := { method := "GET", status := 200, headers := jsonHeaders,
                               body := nested 960 } }] ⟨[]⟩

/-- Nested arrays are exact, and can be written. -/
theorem isExact_nested (n : Nat) : (nested n).isExact = true ∧ (nested n).isWritable = true := by
  induction n with
  | zero => exact ⟨rfl, rfl⟩
  | succ n ih =>
    rw [nested, Json.isExact, Json.isExactOf, Json.isExactOf, Json.isWritable_arr, ih.1,
      List.all_cons, ih.2]
    exact ⟨rfl, rfl⟩

/-- What a plain reply with a body says is what its response shows. -/
theorem exists_response (h : s.reply? r = some reply) (plain : reply.IsPlain)
    (hbody : hasNoBody reply.status = false) :
    ∃ response, (s.dispatch r).1 = .ok response
      ∧ response.body = (sent reply.body).text .body := by
  obtain ⟨response, hbuilt⟩ := (build_isOk_iff reply.status reply.headers reply.body).2
    (isSendable_of_areLatin plain.latin plain.writable)
  refine ⟨response, (dispatch_of_reply? h).trans hbuilt, ?_⟩
  exact (body_of_build hbuilt (by rwa [status_of_build hbuilt])).2

/-- Two halves that a template puts next to each other are read as one character. And of a
value that is nested too deeply nothing is read. -/
theorem halves_read_as_one :
    (∃ reply response v, joiningServer.reply? joiningWrite = some reply ∧ reply.IsPlain
        ∧ reply.status = 201 ∧ (joiningServer.dispatch joiningWrite).1 = .ok response
        ∧ Json.parse response.body = .ok v ∧ v ≠ sent reply.body)
      ∧ ∃ reply response, nestedServer.reply? noteRead = some reply ∧ reply.IsPlain
        ∧ reply.status = 200 ∧ (nestedServer.dispatch noteRead).1 = .ok response
        ∧ Json.parse response.body = .error .tooDeep := by
  -- the text is compared by its strings: the record itself has two code
  -- points where the body has one
  constructor
  · have hreply : joiningServer.reply? joiningWrite
        = (joiningServer.made? joiningWrite).map (⟨201, jsonHeaders, ·⟩) := rfl
    obtain ⟨record, hrecord, hfacts⟩ := Option.map_eq_some_iff.1
      (show (joiningServer.made? joiningWrite).map (fun v =>
          ((sent v).isExact, (sent v).isWritable, decide ((sent v).nesting ≤ 960),
            decide (((sent v).reread .body).strings = (sent v).strings)))
          = some (true, true, true, false) by decide +kernel)
    simp only [Prod.mk.injEq, decide_eq_true_eq, decide_eq_false_iff_not] at hfacts
    obtain ⟨exact, writable, room, hother⟩ := hfacts
    rw [hrecord, Option.map_some] at hreply
    have plain : Reply.IsPlain ⟨201, jsonHeaders, record⟩ :=
      ⟨(by decide : (200 : Int) ≤ 201), areLatin_jsonHeaders, exact, writable⟩
    obtain ⟨response, hok, hshown⟩ := exists_response hreply plain rfl
    refine ⟨_, response, (sent record).reread .body, hreply, plain, rfl, hok, ?_,
      fun heq => hother (congrArg Json.strings heq)⟩
    rw [hshown]
    exact Json.parse_body exact writable room
  · have hreply : nestedServer.reply? noteRead = some ⟨200, jsonHeaders, nested 960⟩ := rfl
    obtain ⟨exact, writable⟩ := isExact_nested 960
    have plain : Reply.IsPlain ⟨200, jsonHeaders, nested 960⟩ :=
      ⟨by decide, areLatin_jsonHeaders, exact, writable⟩
    obtain ⟨response, hok, hshown⟩ := exists_response hreply plain rfl
    refine ⟨_, response, hreply, plain, rfl, hok, ?_⟩
    -- the other payload is one level deeper than the reader goes
    have htext : response.body = List.replicate 961 (.char '[') ++ List.replicate 961 (.char ']') :=
      hshown.trans (text_nested 960 0)
    rw [htext, Json.parse_eq_tooDeep_iff]
    exact Json.Parser.exceeds_replicate (by decide) _

end Server

end MockApi
