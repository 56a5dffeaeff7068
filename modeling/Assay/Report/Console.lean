import Assay.Locale.Message
import Assay.Suite.Result
import Assay.Text.Upper

/-!
# Console reports

The console shows a line for each case, a block that sums up the run, and the
list of the cases that failed. How it looks depends on the locale and on
whether colour is wanted.

A style wraps a text between a start and a reset sequence. Where the text
itself resets, the start is put in again, so that the style holds to the end.
Without colour every style leaves its text alone.
-/

set_option autoImplicit false

namespace Assay

inductive Style where
  | bold
  | red
  | green
  | yellow
  | cyan
  | boldRed
  | boldCyan
deriving DecidableEq, Repr

namespace Style

def codes : Style → String
  | bold => "1"
  | red => "31"
  | green => "32"
  | yellow => "33"
  | cyan => "36"
  | boldRed => "1;31"
  | boldCyan => "1;36"

def start (s : Style) : List Char := "\x1b[".toList ++ s.codes.toList ++ ['m']

def reset : List Char := "\x1b[0m".toList

def reopen (start : List Char) : List Char → List Char
  | '\x1b' :: '[' :: '0' :: 'm' :: rest => reset ++ start ++ reopen start rest
  | c :: rest => c :: reopen start rest
  | [] => []

def paint (s : Style) (colour : Bool) (text : String) : String :=
  if colour then String.ofList (s.start ++ reopen s.start text.toList ++ reset) else text

end Style

structure Look where
  locale : Locale
  colour : Bool
deriving DecidableEq, Repr

namespace Look

def say (look : Look) (m : Message) : String := m.wording look.locale

def paint (look : Look) (s : Style) (text : String) : String := s.paint look.colour text

end Look

namespace Console

def passGlyph : String := "✓"

def failGlyph : String := "✗"

def glyph (passed : Bool) : String := if passed then passGlyph else failGlyph

def rule : String := String.ofList (List.replicate 50 '=')

def banner (look : Look) (category : String) : String :=
  look.paint .bold ("=== " ++ Text.upper category ++ " ===")

def caseStyle (r : CaseResult) : Style :=
  if r.passed then .green else if r.isTimeout then .yellow else .red

def caseLine (look : Look) (r : CaseResult) : String :=
  look.paint (caseStyle r)
    ("  " ++ glyph r.passed ++ " " ++ r.name ++ " = " ++ r.actualOrError ++ " (" ++
      look.say .expectedWord ++ " " ++ r.expected.toText ++ ")")

def categoryLine (look : Look) (c : CategoryResult) : String :=
  look.paint (if c.failed = 0 then .green else .red)
    (glyph (c.failed == 0) ++ " " ++ c.name ++ ": " ++ toString c.passed ++ "/" ++
      toString c.total ++ " " ++ look.say .passedWord)

def totalLine (look : Look) (s : RunSummary) : String :=
  look.paint .bold
    (look.say .totalWord ++ ": " ++ toString s.passed ++ "/" ++ toString s.total ++ " " ++
      look.say .passedWord ++ " (" ++ s.passPercent ++ ")")

def summaryLines (look : Look) (s : RunSummary) : List String :=
  ["", rule, look.paint .bold (look.say .summaryBanner), rule] ++
    s.categories.toList.map (categoryLine look) ++ [rule, totalLine look s]

def summary (look : Look) (s : RunSummary) : String :=
  String.intercalate "\n" (summaryLines look s)

def failureLine (look : Look) (r : CaseResult) : String :=
  "  " ++ failGlyph ++ " " ++ look.paint .cyan r.name ++ ": " ++ look.say .expectedWord ++ " " ++
    r.expected.toText ++ ", " ++ look.say .gotWord ++ " " ++ r.actualOrError

def failures (look : Look) (s : RunSummary) : Option String :=
  if s.isSuccess then none
  else some (String.intercalate "\n"
    (look.paint .boldRed ("\n" ++ look.say .failuresBanner) :: s.failures.map (failureLine look)))

def printed (text : String) : String := text ++ "\n"

def printedBanner (look : Look) (category : String) : String :=
  printed ("\n" ++ banner look category)

def printedFailures (look : Look) (s : RunSummary) : String :=
  ((failures look s).map printed).getD ""

def transcript (look : Look) (category : String) (results : List CaseResult) : String :=
  printedBanner look category ++
    String.join (results.map fun r => printed (caseLine look r))

end Console

end Assay
