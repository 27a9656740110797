import SceneBook.Text.CodePoint

/-!
# Tokens

The pieces of a YAML text. The starts and ends of block collections have no characters of their
own; they follow from the indentation.
-/

namespace SceneBook.Yaml

inductive Token
  /-- The version of the format, of which only the major number counts. -/
  | version (major : Nat)
  /-- A handle and what it stands for at the start of a tag. -/
  | handle (name expansion : List Char)
  | directive
  | documentStart
  | documentEnd
  | textEnd
  | sequenceStart
  | mappingStart
  | blockEnd
  | openBracket
  | closeBracket
  | openBrace
  | closeBrace
  | comma
  | entry
  | key
  | value
  | reference (name : List Char)
  | anchor (name : List Char)
  /-- A tag, complete or as the part after a handle. -/
  | tag (handle : Option (List Char)) (suffix : List Char)
  | scalar (text : Text) (plain : Bool)
  deriving DecidableEq

end SceneBook.Yaml
