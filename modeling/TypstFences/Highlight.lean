import TypstFences.Text.Line
import TypstFences.Text.Quoted

/-!
# Highlighting

The displayed source of a block is shown as HTML by a highlighter: one that knows languages and styles, and
writes a source that is read as some language in some style. What is read as no language is plain text. How
a highlighter writes is its own affair; one that shows its sources as plain text is at hand.
-/

set_option autoImplicit false

namespace TypstFences

/-- What highlights sources: which languages and which styles it knows, and the HTML of a source that is read
as a language, or else as plain text, in a style. -/
structure Highlighter where
  knowsLanguage : Text → Bool
  knowsStyle : Text → Bool
  html : Option Text → Text → Text → Text

namespace Highlighter

/-- The language that sources are read as when one is asked for: none if it is unknown. -/
def language? (highlighter : Highlighter) (asked : Text) : Option Text :=
  if highlighter.knowsLanguage asked then some asked else none

/-- A source as HTML without line feeds at its end, if there is the style. -/
def highlight? (highlighter : Highlighter) (language style source : Text) : Option Text :=
  if highlighter.knowsStyle style then
    some (Text.dropEndWhile (· == '\n') (highlighter.html (highlighter.language? language) style source))
  else none

/-! ## Plain text -/

/-- The text without a byte order mark at its start. -/
def dropMark : Text → Text
  | '\uFEFF' :: rest => rest
  | text => text

/-- The text without the line feeds around it. -/
def stripLineFeeds (text : Text) : Text :=
  Text.dropEndWhile (· == '\n') (text.dropWhile (· == '\n'))

/-- A source as it is shown as plain text: the lines without blank ends of the whole, with the characters
that HTML reserves escaped. -/
def plainHtml (source : Text) : Text :=
  Text.escapeContent (stripLineFeeds (Text.unifyLineEndings (dropMark source))) ++ ['\n']

/-- The names of styles. -/
def styles : List Text :=
  ["abap", "algol", "algol_nu", "arduino", "autumn", "borland", "bw", "coffee", "colorful", "default",
    "dracula", "emacs", "friendly", "friendly_grayscale", "fruity", "github-dark", "gruvbox-dark",
    "gruvbox-light", "igor", "inkpot", "lightbulb", "lilypond", "lovelace", "manni", "material",
    "monokai", "murphy", "native", "night-owl", "nord", "nord-darker", "one-dark", "paraiso-dark",
    "paraiso-light", "pastie", "perldoc", "rainbow_dash", "rrt", "sas", "solarized-dark",
    "solarized-light", "staroffice", "stata-dark", "stata-light", "tango", "trac", "vim", "vs",
    "xcode", "zenburn"].map String.toList

/-- A highlighter that knows no language and shows all sources as plain text. -/
def plain : Highlighter where
  knowsLanguage _ := false
  knowsStyle style := styles.contains style
  html _ _ := plainHtml

end Highlighter

end TypstFences
