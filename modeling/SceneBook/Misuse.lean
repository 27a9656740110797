import SceneBook.Text.CodePoint
import SceneBook.Yaml.Fault

/-!
# Misuses

A misuse is an argument whose kind or size no operation expects. Misuses have no context; two of
them carry a message.
-/

namespace SceneBook

inductive Misuse
  /-- A list or mapping in the place of a key, a tag or a path segment. -/
  | notAKey
  /-- A value that is gone through although it has no parts. -/
  | noParts
  /-- A list that should hold pairs and has an item of another length. -/
  | notPairs
  /-- A value asked for an entry, or for one more item, that is no mapping or list. -/
  | noSuchPart
  /-- A value written to by key that is no mapping. -/
  | notWritable
  | unknownSetting
  /-- A web language looked up by a tag that none of them has. -/
  | noSuchLanguage
  /-- A row of a table, or a group of what it has found, that is not there. -/
  | noSuchRow
  | notANumber
  /-- A node asked for by a name that nothing has been connected under. -/
  | noSuchNode
  | notText
  /-- Arguments that do not fit the parameters. -/
  | badArguments
  | unknownReport
  | unknownMode
  /-- A number that is no code point. -/
  | noCodePoint
  /-- A value that has no JSON text. -/
  | noJson
  /-- A text with a lone surrogate on its way to a file or a terminal. -/
  | notStorable
  /-- A path or a variable with a null character. -/
  | nullCharacter
  /-- A whole number beyond a machine word or a double. -/
  | tooLarge
  /-- A whole number with more digits than are written out. -/
  | tooLong
  /-- Values nested too deep, or a path of too many steps. -/
  | tooDeep
  /-- A literal of a document that is no value of its kind. -/
  | literal (fault : Yaml.LiteralFault)
  | noRegistrar
  | otherTag (own offered : Text)
  deriving DecidableEq

namespace Misuse

def message? : Misuse → Option Text
  | .noRegistrar => some "capabilities must provide 'provides_language'"
  | .otherTag own offered =>
    some ("Plugin for '" ++ own ++ "' offered under tag '" ++ offered ++ "'")
  | _ => none

end Misuse

end SceneBook
