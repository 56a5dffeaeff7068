import Assay.Shell.Arithmetic
import Assay.Shell.FileNames
import Assay.Shell.Process
import Assay.Shell.Word

/-!
# Expanding words

The pieces of a word are expanded one after the other, with the effects that
this may have, and the marks that come of it are made into fields or a text.
-/

set_option autoImplicit false

namespace Assay.Shell

/-- Surroundings of an expansion: what carries commands out, and whether a list of
arguments stays a list. -/
structure Expanding where
  run : Runner
  asFields : Bool

namespace Session

def joined (s : Session) : String :=
  let between := match s.get? "IFS" with
    | none => " "
    | some ifs => String.ofList (ifs.toList.take 1)
  String.intercalate between s.arguments

def value? (s : Session) (name : String) : Option String :=
  if name = "@" ∨ name = "*" then some s.joined else s.parameter? name

end Session

def demandSet (name : String) : Sh Unit := do
  let s ← get
  if s.has 'u' && (s.value? name).isNone then abort (name ++ ": parameter not set")

/-- The marks of a parameter with a function applied to its text. Arguments that stay a list
are kept in one text. -/
def parameterMarks (s : Session) (x : Expanding) (quoted : Bool) (name : String)
    (f : List Char → List Char) : List Mark :=
  if x.asFields && (name == "@" || (name == "*" && !quoted)) then
    let all := f (String.intercalate (String.singleton joint) s.arguments).toList
    if !quoted then Mark.ofText false (String.ofList all)
    else if s.arguments.isEmpty then []
    else Mark.ofTexts ((String.ofList all).splitOn (String.singleton joint))
  else Mark.ofText quoted (String.ofList (f ((s.value? name).getD "").toList))

def substituted (bytes : Bytes) : String :=
  String.ofList (((octetsOf bytes).filter (· != '\x00')).reverse.dropWhile (· == '\n')).reverse

def substitute (x : Expanding) (quoted : Bool) (body : Command) : Sh (List Mark) := do
  match body with
  | .nothing => return Mark.ofText quoted ""
  | _ =>
    let (ended, written) ← gather (asProcess x.run (x.run (.command .final body)))
    let status ← report ended
    spend (textCost written.length)
    modify fun s => { s with substituted := status }
    return Mark.ofText quoted (substituted written)

def setAll : List (String × String) → Sh Unit
  | [] => return
  | (name, value) :: rest => do
    setVariable name value
    setAll rest

def calculate (text : String) : Sh String := do
  let s ← get
  let known : Variables :=
    { value? := s.get?
      isFixed := fun name => (s.binding? name).any Binding.fixed }
  let (result, assigned) := evalArithmetic known text
  setAll assigned.bindings
  match result with
  | .error .overflow => throw (.killed 8)
  | .error e => abort (e.message text)
  | .ok n => return toString n.toInt

def resolveTildes (value : Bool) (w : Word) : Sh Word := do
  if w.any Piece.hasTilde then return Tilde.inWord ((← get).get? "HOME") value true w
  else return w

mutual

def expandPiece (x : Expanding) (inBraces : Bool) : Nat → Piece → Sh (List Mark)
  | 0, _ => throw .never
  | _ + 1, .text true cs =>
    return if cs.isEmpty then [.anchor] else cs.map fun c => .glyph ⟨true, c⟩ false
  | _ + 1, .text false cs =>
    return (if inBraces then [.border] else []) ++
      cs.map fun c => .glyph ⟨false, c⟩ inBraces
  | fuel + 1, .parameter quoted name use argument => do
    let s ← get
    let value := s.value? name
    let present := fun (orEmpty : Bool) => value.isSome && !(orEmpty && value == some "")
    let same := parameterMarks s x quoted name id
    match use with
    | .plain =>
      demandSet name
      return same
    | .length =>
      demandSet name
      return Mark.ofText quoted (toString (value.getD "").length)
    | .default orEmpty =>
      if present orEmpty then return same else expandArgument x quoted fuel argument
    | .replace orEmpty =>
      if present orEmpty then expandArgument x quoted fuel argument else return []
    | .assign orEmpty =>
      if present orEmpty then return same
      else
        let text ← expandText { x with asFields := false } fuel (← resolveTildes false argument)
        if !isName name then abort (name ++ ": bad variable name")
        setVariable name text
        return Mark.ofText quoted text
    | .require orEmpty =>
      if present orEmpty then return same
      else
        let text ← expandText { x with asFields := false } fuel (← resolveTildes false argument)
        abort (name ++ ": " ++
          if !argument.isEmpty then text
          else if orEmpty then "parameter not set or null" else "parameter not set")
    | .cutHead longest =>
      demandSet name
      if value.isNone then return same
      let pattern ← expandPattern x fuel argument
      return parameterMarks s x quoted name (cutHead pattern longest)
    | .cutTail longest =>
      demandSet name
      if value.isNone then return same
      let pattern ← expandPattern x fuel argument
      return parameterMarks s x quoted name (cutTail pattern longest)
    | .bad => abort "Bad substitution"
  | fuel + 1, .arithmetic quoted body => do
    let text ← expandText { x with asFields := false } fuel body
    return Mark.ofText quoted (← calculate text)
  | _ + 1, .substitution quoted body => substitute x quoted body

def expandArgument (x : Expanding) (quoted : Bool) : Nat → Word → Sh (List Mark)
  | 0, _ => throw .never
  | fuel + 1, w => do
    if quoted then expandPieces x false fuel w
    else expandPieces x true fuel (← resolveTildes false w)

def expandPieces (x : Expanding) (inBraces : Bool) : Nat → Word → Sh (List Mark)
  | 0, _ => throw .never
  | _ + 1, [] => return []
  | fuel + 1, piece :: rest => do
    let first ← expandPiece x inBraces fuel piece
    return first ++ (← expandPieces x inBraces fuel rest)

def expandText (x : Expanding) : Nat → Word → Sh String
  | 0, _ => throw .never
  | fuel + 1, w => do return glyphText (Mark.glyphs (← expandPieces x false fuel w))

def expandPattern (x : Expanding) : Nat → Word → Sh (List PatternItem)
  | 0, _ => throw .never
  | fuel + 1, w => do
    let marks ← expandPieces { x with asFields := false } false fuel (← resolveTildes false w)
    return PatternItem.read (Mark.glyphs marks)

end

def wordFuel : Nat := 100000

def textOf (run : Runner) (w : Word) : Sh String := do
  expandText ⟨run, false⟩ wordFuel (← resolveTildes false w)

def valueOf (run : Runner) (w : Word) : Sh String := do
  let text ← expandText ⟨run, false⟩ wordFuel (← resolveTildes true w)
  spend (textCost text.length)
  return text

def documentText (run : Runner) (w : Word) : Sh String := expandText ⟨run, false⟩ wordFuel w

def patternOf (run : Runner) (w : Word) : Sh (List PatternItem) :=
  expandPattern ⟨run, false⟩ wordFuel w

/-- Whether a field may stand for files. A bracket alone is no pattern. -/
def mayMatch (field : List Glyph) : Bool :=
  field.any (fun g => g.isBare '*' || g.isBare '?') ||
    (field.dropWhile fun g => !g.isBare '[').any fun g => g.isBare ']'

def fileNames (s : Session) (field : List Glyph) : List String :=
  if s.has 'f' || !mayMatch field then [glyphText field]
  else FileNames.expand s.files s.folder field

def isPlain (c : Char) : Bool := c != '~' && c != '*' && c != '?' && c != '[' && c != '\\'

def Word.plain? : Word → Option String
  | [.text false ['[']] => some "["
  | [.text quoted cs] => if quoted || cs.all isPlain then some (String.ofList cs) else none
  | _ => none

def fieldsOf (run : Runner) (w : Word) : Sh (List String) := do
  if let some text := Word.plain? w then return [text]
  let marks ← expandPieces ⟨run, true⟩ false wordFuel (← resolveTildes false w)
  spend (textCost marks.length)
  let s ← get
  let splitters := if marks.any Mark.splits then s.splitters else []
  return (Splitting.fields splitters none marks).flatMap (fileNames s)

def allFields (run : Runner) : List Word → Sh (List String)
  | [] => return []
  | w :: rest => do
    let fields ← fieldsOf run w
    return fields ++ (← allFields run rest)

end Assay.Shell
