import Assay.Locale.Message
import Assay.Suite.Result

/-!
# Page report

The results of a run are shown by a page, which is a tree of markup.
-/

set_option autoImplicit false

namespace Assay

/-!
## Markup

A page is a tree of elements and texts. Writing it escapes the characters of
every text and attribute that could be taken for markup; only a style sheet is
written as it is.
-/

inductive Markup where
  | text (s : String)
  | styleSheet (s : String)
  | element (tag : String) (attributes : List (String × String)) (children : List Markup)
  | void (tag : String) (attributes : List (String × String))

namespace Markup

def escapeChar (c : Char) : List Char :=
  if c = '&' then "&amp;".toList
  else if c = '<' then "&lt;".toList
  else if c = '>' then "&gt;".toList
  else if c = '"' then "&quot;".toList
  else [c]

def escape (s : String) : String := String.ofList (s.toList.flatMap escapeChar)

def renderAttribute (a : String × String) : String :=
  " " ++ a.1 ++ "=\"" ++ escape a.2 ++ "\""

def openTag (tag : String) (attributes : List (String × String)) : String :=
  "<" ++ tag ++ String.join (attributes.map renderAttribute) ++ ">"

mutual

def render : Markup → String
  | text s => escape s
  | styleSheet s => s
  | element tag attributes children =>
    openTag tag attributes ++ renderAll children ++ "</" ++ tag ++ ">"
  | void tag attributes => openTag tag attributes

def renderAll : List Markup → String
  | [] => ""
  | m :: ms => render m ++ renderAll ms

end

inductive Tag where
  | opening (tag : String) (attributes : List (String × String))
  | closing (tag : String)
deriving DecidableEq, Repr

mutual

def tags : Markup → List Tag
  | text _ => []
  | styleSheet _ => []
  | element tag attributes children =>
    .opening tag attributes :: (tagsAll children ++ [.closing tag])
  | void tag attributes => [.opening tag attributes]

def tagsAll : List Markup → List Tag
  | [] => []
  | m :: ms => tags m ++ tagsAll ms

end

def renderPage (root : Markup) : String := "<!DOCTYPE html>" ++ render root

end Markup

end Assay

namespace Assay.Page

open Assay.Markup

/-!
## The page

The page shows the totals of a run as tiles and each category as a table with
one row for each result.
-/

def styleSheet : String := "
body \x7b font-family: -apple-system, \"Segoe UI\", Helvetica, Arial, sans-serif; margin: 2rem; color: #24292f; \x7d
h1 \x7b margin-bottom: 0.25rem; \x7d
.generated \x7b color: #57606a; font-size: 0.9rem; \x7d
.summary-container \x7b display: flex; gap: 1rem; margin: 1.5rem 0; \x7d
.summary-item \x7b border: 1px solid #d0d7de; border-radius: 6px; padding: 0.75rem 1.25rem; text-align: center; \x7d
.summary-item .count \x7b display: block; font-size: 1.6rem; font-weight: 600; \x7d
.summary-item .label \x7b color: #57606a; \x7d
.passed-text \x7b color: #1a7f37; \x7d
.failed-text \x7b color: #cf222e; \x7d
table \x7b border-collapse: collapse; width: 100%; margin-bottom: 2rem; \x7d
th, td \x7b border-bottom: 1px solid #d0d7de; padding: 0.4rem 0.6rem; text-align: left; font-family: ui-monospace, monospace; \x7d
th \x7b background: #f6f8fa; \x7d
.status-Passed \x7b color: #1a7f37; \x7d
.status-Failed \x7b color: #cf222e; \x7d
.status-Error \x7b color: #cf222e; font-weight: 600; \x7d
.status-Timeout \x7b color: #9a6700; font-weight: 600; \x7d
"

/-- What a row shows a result to be. -/
inductive Status where
  | passed
  | failed
  | timeout
  | error
deriving DecidableEq, Repr

namespace Status

def label : Status → Message
  | passed => .statusPassed
  | failed => .statusFailed
  | timeout => .statusTimeout
  | error => .statusError

def cssClass : Status → String
  | passed => "status-Passed"
  | failed => "status-Failed"
  | timeout => "status-Timeout"
  | error => "status-Error"

end Status

def colourStatus (r : CaseResult) : Status :=
  if r.passed then .passed
  else match r.reason with
    | none => .failed
    | some .timeout => .timeout
    | some _ => .error

def wordStatus (r : CaseResult) : Status :=
  if r.passed then .passed
  else if r.error.isNone then .failed
  else if r.isTimeout then .timeout
  else .error

def plain (tag : String) (s : String) : Markup := .element tag [] [.text s]

def classed (tag cssClass : String) (children : List Markup) : Markup :=
  .element tag [("class", cssClass)] children

def tile (valueClass value label : String) : Markup :=
  classed "div" "summary-item" [
    classed "span" valueClass [.text value],
    classed "span" "label" [.text label]]

def row (locale : Locale) (r : CaseResult) : Markup :=
  .element "tr" [] [
    classed "td" (colourStatus r).cssClass [.text ((wordStatus r).label.wording locale)],
    plain "td" r.name,
    plain "td" r.expected.toText,
    plain "td" r.actualOrError]

def heading (c : CategoryResult) : Markup :=
  .element "h2" [] [
    .text c.name, .text " ",
    classed "span" (if c.failed = 0 then "passed-text" else "failed-text")
      [.text (toString c.passed), .text "/", .text (toString c.total)]]

def table (locale : Locale) (c : CategoryResult) : Markup :=
  .element "table" [] [
    .element "thead" [] [.element "tr" []
      ([Message.statusHeading, .nameHeading, .expectedHeading, .actualHeading].map
        fun m => plain "th" (m.wording locale))],
    .element "tbody" [] (c.results.toList.map (row locale))]

def block (locale : Locale) (c : CategoryResult) : List Markup :=
  [heading c, table locale c]

def ofSummary (locale : Locale) (time : String) (s : RunSummary) : Markup :=
  let say (m : Message) := m.wording locale
  .element "html" [] [
    .element "head" [] [
      .void "meta" [("charset", "utf-8")],
      plain "title" (say .pageTitle),
      .element "style" [] [.styleSheet styleSheet]],
    .element "body" [] ([
      plain "h1" (say .pageHeader),
      classed "p" "generated" [.text (say (.generatedAt time))],
      classed "div" "summary-container" [
        tile "count " (toString s.total) (say .totalTile),
        tile "count passed-text" (toString s.passed) (say .passedTile),
        tile "count failed-text" (toString s.failed) (say .failedTile),
        tile "count" s.passPercent (say .passRateTile)]] ++
      s.categories.toList.flatMap (block locale))]

def report (locale : Locale) (time : String) (s : RunSummary) : String :=
  renderPage (ofSummary locale time s)

end Assay.Page
