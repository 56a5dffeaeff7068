import Assay.Binary64.Layout

/-!
# Writing JSON

A JSON value is written compactly, or with each item on a line of its own.
Quotes, backslashes and control characters are escaped; all else stands as it
is.
-/

set_option autoImplicit false

namespace Assay

inductive Json where
  | null
  | bool (b : Bool)
  | integer (z : Int)
  | float (x : Binary64)
  | string (s : String)
  | array (items : List Json)
  | object (members : List (String × Json))

namespace Json

def hexPair (n : Nat) : List Char := [Nat.digitChar (n / 16), Nat.digitChar (n % 16)]

def escapeChar (c : Char) : List Char :=
  if c = '"' then ['\\', '"']
  else if c = '\\' then ['\\', '\\']
  else if c = '\x08' then ['\\', 'b']
  else if c = '\x0c' then ['\\', 'f']
  else if c = '\n' then ['\\', 'n']
  else if c = '\r' then ['\\', 'r']
  else if c = '\t' then ['\\', 't']
  else if c.toNat < 0x20 then ['\\', 'u', '0', '0'] ++ hexPair c.toNat
  else [c]

def escaped (s : String) : String :=
  String.ofList ('"' :: s.toList.flatMap escapeChar ++ ['"'])

def optional (f : String → Json) : Option String → Json
  | none => null
  | some s => f s

/-- Layout of the parts of an array or object: what stands before the first, between
two, and after the last. -/
structure Spacing where
  opening : String
  between : String
  closing : String
  afterKey : String

def Spacing.compact : Spacing := ⟨"", ",", "", ":"⟩

def Spacing.indented (depth : Nat) : Spacing :=
  let pad (n : Nat) := String.ofList (List.replicate (2 * n) ' ')
  ⟨"\n" ++ pad (depth + 1), ",\n" ++ pad (depth + 1), "\n" ++ pad depth, ": "⟩

/-- Parts of an array or object between its brackets; nothing stands in an empty one. -/
def enclose (left right : String) (sp : Spacing) (parts : List String) : String :=
  match parts with
  | [] => left ++ right
  | _ => left ++ sp.opening ++ String.intercalate sp.between parts ++ sp.closing ++ right

mutual

def render (spacing : Nat → Spacing) (depth : Nat) : Json → String
  | null => "null"
  | bool b => if b then "true" else "false"
  | integer z => toString z
  | float x => Layout.json.render x
  | string s => escaped s
  | array items => enclose "[" "]" (spacing depth) (renderItems spacing (depth + 1) items)
  | object members =>
    enclose "\x7b" "\x7d" (spacing depth) (renderMembers spacing (depth + 1) members)

def renderItems (spacing : Nat → Spacing) (depth : Nat) : List Json → List String
  | [] => []
  | v :: vs => render spacing depth v :: renderItems spacing depth vs

def renderMembers (spacing : Nat → Spacing) (depth : Nat) : List (String × Json) → List String
  | [] => []
  | (key, v) :: rest =>
    (escaped key ++ (spacing depth).afterKey ++ render spacing depth v) ::
      renderMembers spacing depth rest

end

def compact (v : Json) : String := v.render (fun _ => Spacing.compact) 0

def pretty (v : Json) : String := v.render Spacing.indented 0

end Json

end Assay
