/-
Path templates: paths in which braces stand for what varies. A segment of
digits is an integer called `id`; a parameter of a route pattern keeps its
name and is a string. A lone colon is no parameter here.
-/
import MockApi.Json.Basic
import MockApi.Route.Path

namespace MockApi

/-- A parameter in a path. -/
structure PathParameter where
  name : Text
  isInteger : Bool
deriving DecidableEq, Repr

/-- A segment of a path template. -/
inductive TemplateSegment where
  | literal (text : Text)
  | parameter (p : PathParameter)
deriving DecidableEq, Repr

abbrev PathTemplate := List TemplateSegment

namespace TemplateSegment

/-- The segment that a segment of a route pattern becomes. -/
def ofSegment (segment : Text) : TemplateSegment :=
  if Path.isNumeric segment then .parameter ⟨"id", true⟩
  else if Path.isParameter segment && 1 < segment.length then
    .parameter ⟨segment.drop 1, false⟩
  else .literal segment

/-- A parameter stands in braces. -/
def text : TemplateSegment → Text
  | .literal t => t
  | .parameter p => "\x7b" ++ p.name ++ "\x7d"

end TemplateSegment

namespace PathTemplate

/-- The path template of a URL. -/
def ofUrl (url : Text) : Except UrlError PathTemplate :=
  (Path.routeSegments url).map fun segments => segments.map .ofSegment

def text (t : PathTemplate) : Text := Path.ofSegments (t.map TemplateSegment.text)

/-- Each name's first parameter, in order. -/
def parametersAfter (seen : List Text) : PathTemplate → List PathParameter
  | [] => []
  | .literal _ :: rest => parametersAfter seen rest
  | .parameter p :: rest =>
    if seen.contains p.name then parametersAfter seen rest
    else p :: parametersAfter (p.name :: seen) rest

/-- The parameters, a name once. -/
def parameters (t : PathTemplate) : List PathParameter := parametersAfter [] t

end PathTemplate

/-- A path parameter as an object. -/
def PathParameter.toJson (p : PathParameter) : Json :=
  .ofFields
    [("name", .str p.name), ("in", .ofString "path"), ("required", .bool true),
     ("schema", .ofFields [("type", .ofString (if p.isInteger then "integer" else "string"))])]

end MockApi
