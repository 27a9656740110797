/-!
# Faults of YAML texts

Why a text has no value. Most texts that have none are not well formed; a scalar of a stated kind
may also fail to be a value of that kind, and collections may be nested too deep.
-/

namespace SceneBook.Yaml

inductive LiteralFault
  /-- It spells a number, a date or a character that does not exist. -/
  | noSuchValue
  /-- It spells a number that no machine word or no double holds. -/
  | tooLarge
  /-- A number without a digit. -/
  | noDigits
  /-- A truth value that is no word for yes or no. -/
  | unknownWord
  /-- A date of another form. -/
  | notDate
  /-- A date whose text stands inside a mapping. -/
  | dateInMapping
  deriving DecidableEq

inductive Fault
  | malformed
  | tooDeep
  | literal (fault : LiteralFault)
  deriving DecidableEq

end SceneBook.Yaml
