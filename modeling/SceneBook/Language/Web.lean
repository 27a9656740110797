import SceneBook.Failure
import SceneBook.Language.Basic

/-!
# Web languages

The four languages of web pages and their tables. A definition is a template in markup, a shared
shape in graphics, a leading declaration in scripts, and everything in styling.
-/

namespace SceneBook.Language

def tagRow (names : List Text) : Row := ⟨(Opening.tag names).pattern, none, some .name, none⟩

def keywordRow (word subtype : Text) : Row :=
  ⟨(Opening.keyword word).pattern, some subtype, none, some .name⟩

def html : Language where
  tag := "html"
  name := "Hypertext Markup Language (HTML5)"
  medium := .markup
  rows := [tagRow ["template"]]
  defaultMode := .eval
  lowercaseSubtype := true

def css : Language where
  tag := "css"
  name := "Cascading Style Sheets (CSS3)"
  medium := .styling
  rows := []
  defaultMode := .define
  lowercaseSubtype := false

def svg : Language where
  tag := "svg"
  name := "Scalable Vector Graphics"
  medium := .graphics
  rows := [tagRow ["defs", "symbol"]]
  defaultMode := .eval
  lowercaseSubtype := true

def js : Language where
  tag := "js"
  name := "Javascript (ES6)"
  medium := .scripting
  rows := [keywordRow "function" "function", keywordRow "const" "constant",
    keywordRow "let" "variable", keywordRow "var" "variable"]
  defaultMode := .eval
  lowercaseSubtype := false

/-- The order in which the languages are registered and collated. -/
def web : List Language := [html, css, svg, js]

theorem html_mem_web : html ∈ web := .head _

theorem svg_mem_web : svg ∈ web := .tail _ (.tail _ (.head _))

theorem js_mem_web : js ∈ web := .tail _ (.tail _ (.tail _ (.head _)))

/-- The web language of a tag, whatever kind the tag is of. -/
def webOfTag (tag : Value) : Except Misuse Language :=
  match tag.scalar? with
  | none => .error .notAKey
  | some t =>
    match web.find? fun l => t = .text l.tag with
    | some l => .ok l
    | none => .error .noSuchLanguage

def webName : Text := "web-standard"

def webTitle : Text := "Web (W3C Standard)"

def webSummary : Text := "Standard technologies supported by nearly all browsers"

end SceneBook.Language
