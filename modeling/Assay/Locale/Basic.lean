import Assay.Environment

/-!
# Locales

Messages are shipped in two languages. The locale of a run is the first shipped
one among the language asked for, the system's locale, the system's language
without its region, and English.
-/

set_option autoImplicit false

namespace Assay

inductive Locale where
  | english
  | chinese
deriving DecidableEq, Repr, Inhabited

namespace Locale

def tag : Locale → String
  | english => "en"
  | chinese => "zh-CN"

def shipped : List Locale := [english, chinese]

def ofTag? (tag : String) : Option Locale := shipped.find? fun l => l.tag == tag

theorem ofTag?_tag (l : Locale) : ofTag? l.tag = some l := by
  cases l <;> decide

theorem tag_of_ofTag? {tag : String} {l : Locale} (h : ofTag? tag = some l) : l.tag = tag := by
  have := List.find?_some h
  simpa using this

def dropPrivate : List Char → List Char
  | 'x' :: '-' :: cs => dropPrivate cs
  | cs => cs

def parentTag? (tag : List Char) : Option (List Char) :=
  match tag.reverse.dropWhile (· != '-') with
  | [] => none
  | _ :: rest => some (dropPrivate rest).reverse

def lookupFrom : Nat → List Char → Locale
  | 0, _ => english
  | fuel + 1, tag =>
    match ofTag? (String.ofList tag) with
    | some l => l
    | none =>
      match parentTag? tag with
      | none => english
      | some parent => lookupFrom fuel parent

/-- The shipped locale whose messages stand in for those of any tag. -/
def lookup (tag : String) : Locale := lookupFrom (tag.length + 1) tag.toList

def firstNonEmpty (env : Environment) (names : List String) : Option String :=
  names.findSome? fun name => (env.get? name).filter (· != "")

/-- A locale name as the system writes it, without encoding and modifier. -/
def systemTag (name : String) : String :=
  String.ofList
    ((name.toList.takeWhile fun c => c != '.' && c != '@').map fun c => if c = '_' then '-' else c)

/-- Tag of the system's locale. The preference list counts by its first entry. -/
def system? (env : Environment) : Option String :=
  match firstNonEmpty env ["LANGUAGE"] with
  | some list => some (systemTag (String.ofList (list.toList.takeWhile (· != ':'))))
  | none => (firstNonEmpty env ["LC_ALL", "LC_MESSAGES", "LANG"]).map systemTag

def candidates (explicit : Option String) (env : Environment) : List String :=
  let system := (system? env).getD "en"
  explicit.toList ++ [system, String.ofList (system.toList.takeWhile (· != '-'))]

def resolve (explicit : Option String) (env : Environment) : Locale :=
  ((candidates explicit env).findSome? ofTag?).getD english

theorem resolve_tag (l : Locale) (env : Environment) : resolve (some l.tag) env = l := by
  simp [resolve, candidates, ofTag?_tag]

end Locale

end Assay
