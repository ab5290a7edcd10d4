/-
Rendering, told piece by piece. Checking, asking for an id and filling walk a
template in three ways of their own; all three are brought here to one list,
the pieces of the template's strings.

`render_eq` is the whole of it: a placeholder that stands for nothing known
refuses the template and takes no id; otherwise an id is taken if some piece
asks for it, and the template is filled, string by string, unless a piece has
an integer that is too large for text. The id is gone in either case.
-/
import MockApi.Mock.Template

namespace MockApi

namespace Json

mutual

/-- The value with another text for each of its strings; keys stay. -/
def mapStrings (f : Text → Text) : Json → Json
  | .str t => .str (f t)
  | .arr items => .arr (mapStringsOf f items)
  | .obj fields => .obj (mapStringsIn f fields)
  | v => v

def mapStringsOf (f : Text → Text) : List Json → List Json
  | [] => []
  | item :: rest => mapStrings f item :: mapStringsOf f rest

def mapStringsIn (f : Text → Text) : List (Text × Json) → List (Text × Json)
  | [] => []
  | (key, value) :: rest => (key, mapStrings f value) :: mapStringsIn f rest

end

end Json

namespace Template

-- ============================================================== the pieces

/-- The text that a value of a request contributes. -/
def textOf : Json → Text
  | .null => []
  | .str t => t
  | v => v.text .body

/-- The text of a piece: the id in decimal where the placeholder stands for it. -/
def Piece.text (id : Int) (content : Json) : Piece → Text
  | plain c => [c]
  | hole _ .auto => decimal id
  | hole _ (.field path) => textOf (lookUp content path)
  | hole written .unknown => written

/-- No integer of the piece is too large for text. -/
def Piece.isWritable (id : Int) (content : Json) : Piece → Bool
  | hole _ .auto => fitsInText id
  | hole _ (.field path) => (lookUp content path).isWritable
  | _ => true

/-- A template string with every placeholder replaced by its text. -/
def filledText (id : Int) (content : Json) (t : Text) : Text :=
  (pieces t).flatMap (Piece.text id content)

/-- The template with every placeholder of its strings replaced by its text. -/
def filled (id : Int) (content template : Json) : Json :=
  template.mapStrings (filledText id content)

/-- No integer that the template asks for is too large for text. -/
def isFillable (id : Int) (content template : Json) : Bool :=
  (allPieces template).all (Piece.isWritable id content)

/-- The template takes an id: it has a placeholder for one and none that stands
for nothing known. -/
def takesId (template : Json) : Bool := usesAuto template && (firstUnknown? template).isNone

-- ================================================================ filling

variable (id : Int) (content : Json)

theorem valueText_eq (v : Json) :
    valueText v = if v.isWritable then .ok (textOf v) else .error .tooLargeToWrite := by
  cases v <;> rfl

/-- A piece is filled if what it asks for has a text. -/
theorem fill_piece_eq (p : Piece) :
    p.fill id content = if p.isWritable id content then .ok (p.text id content)
      else .error .tooLargeToWrite := by
  cases p with
  | plain c => rfl
  | hole written placeholder =>
    cases placeholder with
    | auto => rfl
    | field path => exact valueText_eq _
    | unknown => rfl

/-- Pieces are filled if each of them is. -/
theorem fillPieces_eq (ps : List Piece) :
    fillPieces id content ps = if ps.all (Piece.isWritable id content) then
      .ok (ps.flatMap (Piece.text id content)) else .error .tooLargeToWrite := by
  induction ps with
  | nil => rfl
  | cons p rest ih =>
    rw [fillPieces, fill_piece_eq, ih, List.all_cons, List.flatMap_cons]
    cases p.isWritable id content with
    | false => rfl
    | true =>
      cases rest.all (Piece.isWritable id content) with
      | false => rfl
      | true => rfl

mutual

/-- A template is filled, string by string, if all its pieces are. -/
theorem fill_eq : ∀ template : Json,
    fill id content template = if isFillable id content template then
      .ok (filled id content template) else .error .tooLargeToWrite
  | .null => rfl
  | .bool _ => rfl
  | .int _ => rfl
  | .float _ => rfl
  | .str t => by
    rw [fill, fillPieces_eq]
    unfold isFillable allPieces
    rw [Json.strings, List.flatMap_singleton]
    split <;> rfl
  | .arr items => by
    rw [fill, fillItems_eq items]
    unfold isFillable allPieces
    rw [Json.strings]
    split <;> rfl
  | .obj fields => by
    rw [fill, fillFields_eq fields]
    unfold isFillable allPieces
    rw [Json.strings]
    split <;> rfl

/-- Items are filled, string by string, if all their pieces are. -/
theorem fillItems_eq : ∀ items : List Json,
    fillItems id content items =
      if ((Json.stringsOf items).flatMap pieces).all (Piece.isWritable id content) then
        .ok (Json.mapStringsOf (filledText id content) items) else .error .tooLargeToWrite
  | [] => rfl
  | item :: rest => by
    rw [fillItems, fill_eq item, fillItems_eq rest, Json.stringsOf, List.flatMap_append,
      List.all_append]
    unfold isFillable allPieces
    cases (item.strings.flatMap pieces).all (Piece.isWritable id content) with
    | false => rfl
    | true =>
      cases ((Json.stringsOf rest).flatMap pieces).all (Piece.isWritable id content) with
      | false => rfl
      | true => rfl

/-- Members are filled, string by string, if all their pieces are; their keys stay. -/
theorem fillFields_eq : ∀ fields : List (Text × Json),
    fillFields id content fields =
      if ((Json.stringsIn fields).flatMap pieces).all (Piece.isWritable id content) then
        .ok (Json.mapStringsIn (filledText id content) fields) else .error .tooLargeToWrite
  | [] => rfl
  | (key, value) :: rest => by
    rw [fillFields, fill_eq value, fillFields_eq rest, Json.stringsIn, List.flatMap_append,
      List.all_append]
    unfold isFillable allPieces
    cases (value.strings.flatMap pieces).all (Piece.isWritable id content) with
    | false => rfl
    | true =>
      cases ((Json.stringsIn rest).flatMap pieces).all (Piece.isWritable id content) with
      | false => rfl
      | true => rfl

end

-- ============================================================== rendering

/-- Rendering in full. -/
theorem render_eq (template : Json) :
    render template content id =
      match firstUnknown? template with
      | some written => (.error (.unknownPlaceholder written), id)
      | none =>
        (if isFillable id content template then .ok (filled id content template)
          else .error (.numeral .tooLargeToWrite),
          if usesAuto template then id + 1 else id) := by
  unfold render
  cases firstUnknown? template with
  | some written => rfl
  | none =>
    simp only
    rw [fill_eq]
    split <;> rfl

/-- The next id moves on by one where the template takes an id, and only there. -/
theorem render_snd (template : Json) :
    (render template content id).2 = id + if takesId template then 1 else 0 := by
  rw [render_eq]
  unfold takesId
  cases firstUnknown? template with
  | some written => simp
  | none =>
    simp only [Option.isNone_none, Bool.and_true]
    split <;> simp

end Template

end MockApi
