import Assay.CommandLine.Reader
import Assay.Locale.Basic

/-!
# Requests

A request is a command with what it is to work on. The language of the messages
is looked up in the tokens before anything else is read, so that whatever is
wrong with the rest can be said in it.
-/

set_option autoImplicit false

namespace Assay

/-- What a run is asked to do. Each field is absent where its option is. -/
structure RunRequest where
  category : Option String
  verbose : Bool
  json : Bool
  interpreter : Option String
  projectRoot : String
  settings : Option String
  testsDir : Option String
  jobs : Option UInt64
  timeoutSecs : Option UInt64
  page : Option String
  language : Option String
deriving DecidableEq, Repr

structure InitRequest where
  projectRoot : String
  nonInteractive : Bool
  force : Bool
  language : String
deriving DecidableEq, Repr

namespace CommandLine

def languageOptionText : String := "--lang"

def joinedLanguage? (argv : List String) : Option String :=
  argv.findSome? fun a =>
    let start := (languageOptionText ++ "=").toList
    if start.isPrefixOf a.toList then some (String.ofList (a.toList.drop start.length)) else none

/-- The token after the first language option that stands alone. -/
def separateLanguage? : List String → Option String
  | [] => none
  | a :: rest => if a = languageOptionText then rest.head? else separateLanguage? rest

/-- Language named anywhere among the tokens. A joined spelling comes first. -/
def spokenLanguage? (argv : List String) : Option String :=
  (joinedLanguage? argv).or (separateLanguage? argv)

namespace Parsed

def isSet (p : Parsed) (id : OptionId) : Bool := (p.value? id).isSome

def word? (p : Parsed) (id : OptionId) : Option UInt64 := (p.value? id).bind readWord?

def projectRoot (p : Parsed) : String := (p.value? .projectRoot).getD "."

def runRequest (p : Parsed) (language : Option String) : RunRequest where
  category := p.value? .category
  verbose := p.isSet .verbose
  json := p.isSet .json
  interpreter := p.value? .interpreter
  projectRoot := p.projectRoot
  settings := p.value? .settings
  testsDir := p.value? .testsDir
  jobs := p.word? .jobs
  timeoutSecs := p.word? .timeout
  page := p.value? .page
  language := language

def initRequest (p : Parsed) (language : String) : InitRequest where
  projectRoot := p.projectRoot
  nonInteractive := p.isSet .nonInteractive
  force := p.isSet .force
  language := language

end Parsed

end CommandLine

end Assay
