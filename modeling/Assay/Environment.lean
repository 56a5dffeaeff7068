/-!
# Environments

An environment binds names to texts. A name is bound at most once as far as
anyone can tell: the first binding counts, and binding a name anew drops the
others.
-/

set_option autoImplicit false

namespace Assay

structure Environment where
  bindings : List (String × String)
deriving DecidableEq, Repr, Inhabited

namespace Environment

def get? (env : Environment) (name : String) : Option String :=
  (env.bindings.find? fun b => b.1 == name).map Prod.snd

def unset (env : Environment) (name : String) : Environment :=
  ⟨env.bindings.filter fun b => b.1 != name⟩

def set (env : Environment) (name value : String) : Environment :=
  ⟨(name, value) :: (env.unset name).bindings⟩

/-- What follows a name and an equals sign in the text of a binding. A name that has an
equals sign itself reaches into the value. -/
def lookUp? (env : Environment) (name : String) : Option String :=
  match name.toList.span (· != '=') with
  | (_, []) => env.get? name
  | (front, _ :: more) =>
    (env.get? (String.ofList front)).bind fun value =>
      ((more ++ ['=']).isPrefixOf? value.toList).map String.ofList

end Environment

end Assay
