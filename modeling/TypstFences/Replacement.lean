import TypstFences.Document
import TypstFences.Highlight
import TypstFences.PassError
import TypstFences.Settings.Field

/-!
# Replacement

Writing a document back with its fences replaced. Text and fences that nothing was done with are
written as they were found; a literal fence keeps its first and last line; a typeset block becomes its
source and its pages, and a block that was not typeset a notice. What replaces an indented fence is
indented like it.
-/

set_option autoImplicit false

namespace TypstFences

/-- What became of a fence: nothing, the lines to show in it, the lines to show above its pages with the
names of these, or a failure. -/
inductive Outcome where
  | kept
  | literal (display : Text)
  | rendered (display : Text) (pages : List Text)
  | failed (failure : BlockFailure)
  deriving DecidableEq, Inhabited

/-- What documents are written back with besides the settings: a highlighter, and where objects stand in
memory each time a template is filled, by the line of the block and the number of the page. -/
structure Press where
  highlighter : Highlighter
  address : Nat → Nat → Template.Address

namespace Replacement

/-- The path of an image as the document gives it: the name in the directory, unless one of them already
says it all. -/
def imagePath (directory name : Text) : Text :=
  if name.head? = some '/' then name
  else if directory.isEmpty ∨ directory.getLast? = some '/' then directory ++ name
  else directory ++ '/' :: name

/-- The name under which a template finds the path of an image. -/
def pathName : Text := "src".toList

/-- The elements for the images, in order, the first of which has number `page`. -/
def imageElements (address : Nat → Template.Address) (settings : Settings) :
    Nat → List Text → Except PassError (List Text)
  | _, [] => .ok []
  | page, name :: names =>
    let path := Json.string (imagePath settings.imageDir name)
    match Template.fill (address page) [(pathName, path)] settings.embedTemplate with
    | .error fault => .error (.badTemplate fault)
    | .ok element =>
      match imageElements address settings (page + 1) names with
      | .ok elements => .ok (element :: elements)
      | .error error => .error error

/-- The element around the HTML of a source. -/
def sourceElement (html : Text) : Text :=
  "<pre style=\"margin: 0\"><code class=\"language-typ\">".toList ++ html ++ "</code></pre>".toList

/-- The elements for the displayed source: none if it is not to be shown or blank. -/
def sourceElements (highlighter : Highlighter) (settings : Settings) (display : Text) :
    Except PassError (List Text) :=
  if settings.showSource && !Text.allBlank display then
    match highlighter.highlight? settings.highlightLanguage settings.highlightStyle display with
    | some html => .ok [sourceElement html]
    | none => .error .unknownStyle
  else .ok []

/-- What replaces a typeset block that begins in a line. The blank line at its end keeps the text that
follows out of it. -/
def embedding (press : Press) (settings : Settings) (line : Nat) (display : Text) (pages : List Text) :
    Except PassError Text :=
  match sourceElements press.highlighter settings display with
  | .error error => .error error
  | .ok source =>
    match imageElements (press.address line) settings 1 pages with
    | .error error => .error error
    | .ok images => .ok (Text.joinWith ['\n'] (source ++ images) ++ ['\n', '\n'])

/-- What replaces a block that was not typeset. -/
def notice (failure : BlockFailure) : Text :=
  "<pre class=\"typst-error\">".toList ++
    Text.escapeQuotes
      (failure.location.text ++ ": ".toList ++ Text.trimEnd failure.diagnostic) ++
    "</pre>\n\n".toList

/-- What is written for a fence. -/
def ofFence (press : Press) (settings : Settings) (fence : Fence) : Outcome → Except PassError Text
  | .kept => .ok fence.raw
  | .literal display => .ok (fence.opener ++ display ++ fence.closer)
  | .rendered display pages =>
    match embedding press settings fence.line display pages with
    | .ok text => .ok (Text.indent fence.indent text)
    | .error error => .error error
  | .failed failure => .ok (Text.indent fence.indent (notice failure))

/-- What is written for a segment. -/
def ofSegment (press : Press) (settings : Settings) (outcome : Option Outcome) (segment : Segment) :
    Except PassError Text :=
  match segment with
  | .text raw => .ok raw
  | .fence block => ofFence press settings block (outcome.getD .kept)

/-- What is written for segments, the first of which has number `index`. -/
def ofSegments (press : Press) (settings : Settings) (outcomes : List (Nat × Outcome)) :
    Nat → List Segment → Except PassError Text
  | _, [] => .ok []
  | index, segment :: segments =>
    match ofSegment press settings (outcomes.lookup index) segment with
    | .error error => .error error
    | .ok text =>
      match ofSegments press settings outcomes (index + 1) segments with
      | .ok rest => .ok (text ++ rest)
      | .error error => .error error

/-- The document with its fences replaced by what became of them. -/
def ofDocument (press : Press) (settings : Settings) (outcomes : List (Nat × Outcome)) (document : Document) :
    Except PassError Text :=
  ofSegments press settings outcomes 0 document.segments

end Replacement

end TypstFences
