import Assay.Host.FileTree
import Assay.Json.Decode
import Assay.Locale.Message
import Assay.Toml.Decode

/-!
# Problems

Whatever keeps a command from being carried out is a problem. A problem has a
wording, and below it the causes from the outer to the inner.
-/

set_option autoImplicit false

namespace Assay

inductive Problem where
  | rootNotFound (path : String) (e : FileError)
  | settingsUnreadable (path : String) (e : FileError)
  | settingsInvalid (path : String) (f : Toml.Failure)
  | timeoutTooShort
  | variableNotSet (path name : String)
  | chosenInterpreterNotFound (path : String)
  | interpreterNotFound (name : String)
  | categoryNotFound (name : String)
  | suiteUnreadable (path : String) (e : FileError)
  | documentUnreadable (path : String) (e : FileError)
  | documentInvalid (path : String) (f : Json.Failure)
  | pageUnwritable (path : String) (e : FileError)
  | settingsExist (path : String)
  | inputUnreadable
  | fileUnwritable (path : String) (e : FileError)
  | folderUncreatable (path : String) (e : FileError)
deriving DecidableEq, Repr

namespace Problem

def message (locale : Locale) : Problem → String
  | rootNotFound path _ => (Message.rootNotFound path).wording locale
  | settingsUnreadable path _ => (Message.settingsUnreadable path).wording locale
  | settingsInvalid path _ => (Message.settingsInvalid path).wording locale
  | timeoutTooShort => Message.timeoutTooShort.wording locale
  | variableNotSet path _ => "Failed to expand path: " ++ path
  | chosenInterpreterNotFound path => (Message.chosenInterpreterNotFound path).wording locale
  | interpreterNotFound name => (Message.interpreterNotFound name).wording locale
  | categoryNotFound name => (Message.categoryNotFound name).wording locale
  | suiteUnreadable path _ => (Message.suiteUnreadable path).wording locale
  | documentUnreadable path _ => "Failed to read specification file: " ++ path
  | documentInvalid path _ => "Invalid specification file: " ++ path
  | pageUnwritable path _ => (Message.pageUnwritable path).wording locale
  | settingsExist path => (Message.settingsExist path).wording locale
  | inputUnreadable => Message.inputUnreadable.wording locale
  | fileUnwritable path _ => (Message.fileUnwritable path).wording locale
  | folderUncreatable path _ => (Message.folderUncreatable path).wording locale

def documentCause : Json.Failure → String
  | .syntaxError => "syntax error"
  | .endOfText => "unexpected end of text"
  | .data m => m.message Layout.json

def settingsCause : Toml.Failure → String
  | .syntaxError => "syntax error"
  | .data m => m.message Layout.quoted

def causes : Problem → List String
  | rootNotFound _ e => [e.message]
  | settingsUnreadable _ e => [e.message]
  | settingsInvalid _ f => [settingsCause f]
  | timeoutTooShort => []
  | variableNotSet _ name =>
    ["error looking key '" ++ name ++ "' up: environment variable not found",
      "environment variable not found"]
  | chosenInterpreterNotFound _ => []
  | interpreterNotFound _ => []
  | categoryNotFound _ => []
  | suiteUnreadable _ e => [e.message]
  | documentUnreadable _ e => [e.message]
  | documentInvalid _ f => [documentCause f]
  | pageUnwritable _ e => [e.message]
  | settingsExist _ => []
  | inputUnreadable => ["IO error: not a terminal", "not a terminal"]
  | fileUnwritable _ e => [e.message]
  | folderUncreatable _ e => [e.message]

def oneLine (locale : Locale) (p : Problem) : String :=
  String.intercalate ": " (p.message locale :: p.causes)

end Problem

end Assay
