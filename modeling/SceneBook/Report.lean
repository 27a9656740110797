import SceneBook.Value.Shown

/-!
# Reports

A report names the cause of a refusal. Its message and its context, the details in a form that a
host can read, both follow from the cause.
-/

namespace SceneBook

inductive Report
  | general (message : Text) (context : Entries Value)
  | config (message : Text) (context : Entries Value)
  | workbook (message : Text) (context : Entries Value)
  | importSpec (message : Text) (spec : Value)
  | alreadyRegistered (tag : Value)
  | unknownLanguage (tag : Value) (known : List Value) (suggestion : Value)
  | storePath (path : List Value) (segment : Value)
  | sceneOutOfRange (scene count : Value)

namespace Report

inductive Kind
  | general
  | config
  | workbook
  | importSpec
  | alreadyRegistered
  | unknownLanguage
  | storePath
  | sceneOutOfRange
  deriving DecidableEq

/-- The groups a report belongs to, so that a host can handle a whole group at once. -/
inductive Family
  | any
  | config
  | badValue
  | missingKey
  | badIndex
  | lookup
  deriving DecidableEq

namespace Kind

def code : Kind → Text
  | .general => "KramError"
  | .config => "ConfigError"
  | .workbook => "WorkbookError"
  | .importSpec => "ImportSpecError"
  | .alreadyRegistered => "LanguageRegistrationError"
  | .unknownLanguage => "UnknownLanguageError"
  | .storePath => "StorePathError"
  | .sceneOutOfRange => "SceneOutOfRangeError"

def families : Kind → List Family
  | .general => [.any]
  | .config | .workbook | .importSpec => [.any, .config, .badValue]
  | .alreadyRegistered => [.any, .badValue]
  | .unknownLanguage | .storePath => [.any, .missingKey, .lookup]
  | .sceneOutOfRange => [.any, .badIndex, .lookup]

end Kind

def kind : Report → Kind
  | .general .. => .general
  | .config .. => .config
  | .workbook .. => .workbook
  | .importSpec .. => .importSpec
  | .alreadyRegistered _ => .alreadyRegistered
  | .unknownLanguage .. => .unknownLanguage
  | .storePath .. => .storePath
  | .sceneOutOfRange .. => .sceneOutOfRange

def code (r : Report) : Text := r.kind.code

def families (r : Report) : List Family := r.kind.families

/-- What follows the name of an unknown language: a suggestion, or else the known tags. -/
def hint (known : List Value) (suggestion : Value) : Text :=
  if suggestion.isTruthy then ". Did you mean '" ++ suggestion.plain ++ "'?"
  else if known.isEmpty then []
  else ". Known: " ++ Text.join ", " (known.map Value.plain)

def message : Report → Text
  | .general m _ | .config m _ | .workbook m _ | .importSpec m _ => m
  | .alreadyRegistered tag => "Language '" ++ tag.plain ++ "' is already registered"
  | .unknownLanguage tag known suggestion =>
    "Unknown language '" ++ tag.plain ++ "'" ++ hint known suggestion
  | .storePath path segment =>
    "Store path not found: " ++ Text.join "/" (path.map Value.plain) ++
      " (at '" ++ segment.plain ++ "')"
  | .sceneOutOfRange scene count =>
    "scene out of range: " ++ scene.plain ++ " (program has " ++ count.plain ++ " scenes)"

def context : Report → Entries Value
  | .general _ c | .config _ c | .workbook _ c => c
  | .importSpec _ spec => [(.text "spec", spec)]
  | .alreadyRegistered tag => [(.text "tag", tag)]
  | .unknownLanguage tag known suggestion =>
    [(.text "tag", tag), (.text "known", .list known), (.text "suggestion", suggestion)]
  | .storePath path segment => [(.text "path", .list path), (.text "segment", segment)]
  | .sceneOutOfRange scene count => [(.text "scene", scene), (.text "scene_count", count)]

def details : Report → Entries Value
  | .general .. | .config .. | .workbook .. => []
  | .unknownLanguage tag _ suggestion => [(.text "tag", tag), (.text "suggestion", suggestion)]
  | .sceneOutOfRange scene count => [(.text "scene_number", scene), (.text "scene_count", count)]
  | r => r.context

/-- The values that are written into the message, in their order. -/
def worded : Report → List Value
  | .general .. | .config .. | .workbook .. | .importSpec .. => []
  | .alreadyRegistered tag => [tag]
  | .unknownLanguage tag known suggestion =>
    tag :: if suggestion.isTruthy then [suggestion] else known
  | .storePath path segment => path ++ [segment]
  | .sceneOutOfRange scene count => [scene, count]

/-- What keeps the message from being written out. -/
def obstacle? [Limits] (r : Report) : Option Misuse := r.worded.findSome? Value.unshown?

def payload (r : Report) : Value :=
  .map [(.text "message", .text r.message), (.text "code", .text r.code),
    (.text "context", .map r.context)]

end Report

end SceneBook
