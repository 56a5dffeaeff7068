import Assay.Utility.Awk.Token

/-!
# Reading programs

Operators bind in the usual order; what stands side by side is joined. Where a
statement is wrong, reading goes on behind its end, so that several faults may
be found. A name stands either for a value or for a table all over.
-/

set_option autoImplicit false

namespace Assay.Utility.Awk

namespace Reading

def patternOf (text : String) : Reading Expr := do
  match Pattern.read text with
  | .ok r => return .pattern r
  | .error e => abandon e

def ownerOf (name : String) : Reading String := do
  let s ← get
  return if s.parameters.contains name then s.function else ""

def knownTables : List String := ["ENVIRON", "ARGV"]

def uses (k : Kind) (name : String) : Reading Unit := do
  let owner ← ownerOf name
  let s ← get
  let known := if owner = "" && knownTables.contains name then some Kind.table
    else if owner = "" && s.functions.any (fun f => f.name == name) then none
    else (s.kinds.find? fun x => x.1 == (owner, name)).map Prod.snd
  match known with
  | none => modify fun s => { s with kinds := ((owner, name), k) :: s.kinds }
  | some l =>
    if l != k then
      let place := if owner = "" then "" else "local "
      let what := match l with
        | .value => "variable "
        | .table => "array "
      complain ("illegal reference to " ++ place ++ what ++ name)

def asPattern (e : Expr) : Reading Expr :=
  match e with
  | .text s => patternOf s
  | e => return e

def asSeparator (e : Expr) : Reading Expr :=
  match e with
  | .text s => if 1 < s.length then patternOf s else return e
  | e => return e

def isAlone : Reading Bool := do
  let next := ((← get).rest.dropWhile isSpace).head?
  return next == some ',' || next == some ')'

def notesCall (function : String) (arguments : List (Expr × Bool)) : Reading Unit := do
  let s ← get
  let names := arguments.zipIdx.filterMap fun (a, i) =>
    match a with
    | (.name n, true) => some (i, n)
    | _ => none
  set { s with calls :=
    ⟨s.tokenLine, function, s.function, arguments.length, names⟩ :: s.calls }

def comparisonOf? : Token → Option Comparison
  | .sign s =>
    match s with
    | "<" => some .less
    | "<=" => some .atMost
    | "==" => some .equal
    | "!=" => some .unequal
    | ">" => some .more
    | ">=" => some .atLeast
    | _ => none
  | _ => none

def assignmentOf? : Token → Option (Option Arithmetic)
  | .sign s =>
    match s with
    | "=" => some none
    | "+=" => some (some .add)
    | "-=" => some (some .subtract)
    | "*=" => some (some .multiply)
    | "/=" => some (some .divide)
    | "%=" => some (some .remainder)
    | "^=" => some (some .power)
    | _ => none
  | _ => none

def arithmeticOf? : Token → Option (Arithmetic × Nat)
  | .sign s =>
    match s with
    | "+" => some (.add, 1)
    | "-" => some (.subtract, 1)
    | "*" => some (.multiply, 2)
    | "/" => some (.divide, 2)
    | "%" => some (.remainder, 2)
    | "^" => some (.power, 5)
    | _ => none
  | _ => none

def startsOperand : Token → Bool
  | .number _ _ | .text _ | .pattern _ | .name _ | .called _ | .builtin _ _ | .bareLength
  | .fieldAt _ _ | .fieldCount | .dollar | .openParen => true
  | .keyword s => s == "getline" || s == "split" || s == "sub" || s == "gsub" || s == "match"
  | .sign s => s == "!" || s == "-" || s == "+" || s == "++" || s == "--"
  | _ => false

def startsTarget : Token → Bool
  | .name _ | .fieldAt _ _ | .fieldCount | .dollar => true
  | _ => false

def unaryLevel : Nat := 3

def pipeLevel : Nat := 4

/-- What an operand may have behind it: something to be assigned to in parentheses counts as
such only if it is a field. -/
structure Operand where
  expr : Expr
  isTarget : Bool

mutual

/-- An expression; operators that bind less closely than a level are left. -/
def expression : Nat → Nat → Reading Expr
  | 0, _ => throw .giveUp
  | fuel + 1, level => do
    let first ← joined fuel
    match assignmentOf? (← peek) with
    | some op =>
      if !first.isTarget then misfit
      advance
      let value ← expression fuel 0
      return .assign op first.expr value
    | none => operators fuel level first.expr

def operators : Nat → Nat → Expr → Reading Expr
  | 0, _, _ => throw .giveUp
  | fuel + 1, level, a => do
    let t ← peek
    match comparisonOf? t with
    | some c =>
      if 5 < level then return a
      advance
      let b ← expression fuel 6
      operators fuel level (.compare c a b)
    | none =>
      match t with
      | .sign "~" | .sign "!~" =>
        if 4 < level then return a
        advance
        let b ← asPattern (← expression fuel 5)
        operators fuel level (.matching (t == .sign "!~") a b)
      | .keyword "in" =>
        if 3 < level then return a
        advance
        match ← peek with
        | .name table =>
          advance
          uses .table table
          operators fuel level (.member [a] table)
        | _ => misfit
      | .sign "&&" =>
        if 2 < level then return a
        advance
        let b ← expression fuel 3
        operators fuel level (.both a b)
      | .sign "||" =>
        if 1 < level then return a
        advance
        let b ← expression fuel 2
        operators fuel level (.either a b)
      | .sign "?" =>
        if 0 < level then return a
        advance
        let b ← expression fuel 0
        expect (.sign ":")
        let c ← expression fuel 0
        operators fuel level (.choice a b c)
      | _ => return a

def joined : Nat → Reading Operand
  | 0 => throw .giveUp
  | fuel + 1 => do
    let first ← operand fuel 0
    if startsOperand (← peek) then
      let e ← joinedTo fuel first.expr
      return ⟨e, false⟩
    else return first

def joinedTo : Nat → Expr → Reading Expr
  | 0, _ => throw .giveUp
  | fuel + 1, a => do
    let b ← operand fuel 0
    if startsOperand (← peek) then joinedTo fuel (.joined a b.expr)
    else return .joined a b.expr

def operand : Nat → Nat → Reading Operand
  | 0, _ => throw .giveUp
  | fuel + 1, level => do
    let first ← simple fuel
    arithmeticTail fuel level first

def arithmeticTail : Nat → Nat → Operand → Reading Operand
  | 0, _, _ => throw .giveUp
  | fuel + 1, level, a => do
    let t ← peek
    match arithmeticOf? t with
    | some (op, own) =>
      if own < level then return a
      advance
      let b ← operand fuel (if op = .power then own else own + 1)
      arithmeticTail fuel level ⟨.arithmetic op a.expr b.expr, false⟩
    | none =>
      if t == .sign "|" && level ≤ pipeLevel then
        advance
        expect (.keyword "getline")
        let target ← targetIfAny fuel
        arithmeticTail fuel level ⟨.readCommand a.expr target, false⟩
      else return a

def targetIfAny : Nat → Reading (Option Expr)
  | 0 => throw .giveUp
  | fuel + 1 => do
    if startsTarget (← peek) then
      let e ← target fuel
      if let .name n := e then uses .value n
      return some e
    else return none

def target : Nat → Reading Expr
  | 0 => throw .giveUp
  | fuel + 1 => do
    match ← peek with
    | .name n =>
      advance
      if (← peek) == .openBracket then element fuel n else return .name n
    | .fieldAt n _ =>
      advance
      return .field (.number (.ofNat n))
    | .fieldCount =>
      advance
      return .fieldCount
    | .dollar =>
      advance
      let index ← simpleBare fuel
      return .field index
    | .openParen =>
      advance
      let e ← target fuel
      expect .closeParen
      return e
    | _ => misfit

def element : Nat → String → Reading Expr
  | 0, _ => throw .giveUp
  | fuel + 1, table => do
    expect .openBracket
    uses .table table
    let subscripts ← expressions fuel
    expect .closeBracket
    return .element table subscripts

def expressions : Nat → Reading (List Expr)
  | 0 => throw .giveUp
  | fuel + 1 => do
    let e ← expression fuel 0
    if ← accept .comma then
      let more ← expressions fuel
      return e :: more
    else return [e]

def simple : Nat → Reading Operand
  | 0 => throw .giveUp
  | fuel + 1 => do
    let before ← peek
    let a ← bare fuel
    match ← peek with
    | .sign s =>
      let isStep := s = "++" || s = "--"
      -- A sign in front of the operand keeps a step apart from it.
      let isSigned := match before with
        | .sign _ => true
        | _ => false
      if isStep && a.isTarget && !isSigned then
        advance
        return ⟨.step (s == "++") false a.expr, false⟩
      else return a
    | _ => return a

def simpleBare : Nat → Reading Expr
  | 0 => throw .giveUp
  | fuel + 1 => do
    let a ← bare fuel
    let isField := match a.expr with
      | .field _ | .fieldCount => a.isTarget
      | _ => false
    match ← peek with
    | .sign s =>
      if isField && (s = "++" || s = "--") then
        advance
        return .step (s == "++") false a.expr
      else return a.expr
    | _ => return a.expr

def bare : Nat → Reading Operand
  | 0 => throw .giveUp
  | fuel + 1 => do
    let value := fun (e : Expr) => (⟨e, false⟩ : Operand)
    match ← peek with
    | .number x _ =>
      advance
      return value (.number x)
    | .text s =>
      advance
      return value (.text s)
    | .pattern s =>
      advance
      return value (← patternOf s)
    | .name n =>
      advance
      if (← peek) == .openBracket then return ⟨← element fuel n, true⟩
      uses .value n
      return ⟨.name n, true⟩
    | .fieldAt _ _ | .fieldCount | .dollar => return ⟨← target fuel, true⟩
    | .sign s =>
      if s = "!" || s = "-" || s = "+" then
        advance
        let a ← operand fuel unaryLevel
        return value (match s with
          | "!" => .not a.expr
          | "-" => .negative a.expr
          | _ => .positive a.expr)
      else if s = "++" || s = "--" then
        advance
        let a ← target fuel
        if let .name n := a then uses .value n
        return value (.step (s == "++") true a)
      else misfit
    | .bareLength =>
      advance
      return value (.apply .length [])
    | .builtin b name =>
      advance
      expect .openParen
      let arguments ← if b = .length then lengthBehind fuel else argumentsBehind fuel
      if b != .length then
        for (e, _) in arguments do
          if let .name n := e then uses .value n
      match Builtin.all.find? fun x => x.1 == name with
      | some (_, _, least, most) =>
        if arguments.length < least ∨ most < arguments.length then
          complain ("wrong number of arguments in call to " ++ name)
      | none => pure ()
      if b = .length then
        match arguments with
        | [(.name _, true)] => notesCall "length" arguments
        | _ => pure ()
      return value (.apply b (arguments.map Prod.fst))
    | .called f =>
      advance
      expect .openParen
      let arguments ← argumentsBehind fuel
      notesCall f arguments
      return value (.call f (arguments.map Prod.fst))
    | .openParen =>
      advance
      parenthesized fuel
    | .keyword "getline" =>
      advance
      let t ← targetIfAny fuel
      if ← accept (.sign "<") then
        let path ← operand fuel (pipeLevel + 1)
        return value (.readFile t path.expr)
      return value (.readRecord t)
    | .keyword "split" =>
      advance
      expect .openParen
      let text ← expression fuel 0
      expect .comma
      match ← peek with
      | .name table =>
        advance
        uses .table table
        if ← accept .comma then
          let separator ← asSeparator (← expression fuel 0)
          expect .closeParen
          return value (.split text table (some separator))
        expect .closeParen
        return value (.split text table none)
      | _ => misfit
    | .keyword "match" =>
      advance
      expect .openParen
      let text ← expression fuel 0
      expect .comma
      let pattern ← asPattern (← expression fuel 0)
      expect .closeParen
      return value (.place text pattern)
    | .keyword s =>
      if s = "sub" || s = "gsub" then
        advance
        expect .openParen
        let pattern ← asPattern (← expression fuel 0)
        expect .comma
        let replacement ← expression fuel 0
        let t ← if ← accept .comma then
            let e ← target fuel
            if let .name n := e then uses .value n
            pure (some e)
          else pure none
        expect .closeParen
        return value (.substitute (s == "gsub") pattern replacement t)
      else misfit
    | _ => misfit

def parenthesized : Nat → Reading Operand
  | 0 => throw .giveUp
  | fuel + 1 => do
    let e ← expression fuel 0
    let isField := match e with
      | .field _ | .fieldCount => true
      | _ => false
    if ← accept .comma then
      let more ← expressions fuel
      expect .closeParen
      expect (.keyword "in")
      match ← peek with
      | .name table =>
        advance
        uses .table table
        return ⟨.member (e :: more) table, false⟩
      | _ => misfit
    else
      expect .closeParen
      return ⟨e, isField⟩

/-- Arguments behind a parenthesis, up to the one that closes it. Those that are plain names
are marked. -/
def argumentsBehind : Nat → Reading (List (Expr × Bool))
  | 0 => throw .giveUp
  | fuel + 1 => do
    if ← accept .closeParen then return []
    moreArguments fuel

def lengthBehind : Nat → Reading (List (Expr × Bool))
  | 0 => throw .giveUp
  | fuel + 1 => do
    if ← accept .closeParen then return []
    match ← peek with
    | .name n =>
      if ← isAlone then
        advance
        expect .closeParen
        return [(.name n, true)]
    | _ => pure ()
    let e ← expression fuel 0
    expect .closeParen
    return [(e, false)]

def moreArguments : Nat → Reading (List (Expr × Bool))
  | 0 => throw .giveUp
  | fuel + 1 => do
    let (e, isPlain) ← match ← peek with
      | .name n => do
        if ← isAlone then
          advance
          pure (Expr.name n, true)
        else pure (← expression fuel 0, false)
      | _ => pure (← expression fuel 0, false)
    if ← accept .comma then
      let more ← moreArguments fuel
      return (e, isPlain) :: more
    else
      expect .closeParen
      return [(e, isPlain)]

end

def separator : Reading Unit := do
  match ← peek with
  | .newline | .semicolon _ => advance
  | _ => misfit

def isSeparator (t : Token) : Bool :=
  match t with
  | .newline | .semicolon _ => true
  | _ => false

def outletBehind (fuel : Nat) : Reading (Option (Outlet × Expr)) := do
  match ← peek with
  | .outlet o =>
    advance
    let e ← expression fuel 0
    return some (o, e)
  | _ => return none

def printed (fuel : Nat) : Reading (List Expr) := do
  let t ← peek
  let isOver := match t with
    | .outlet _ => true
    | t => isSeparator t
  if isOver then return []
  match t with
  | .openParen =>
    advance
    let e ← expression fuel 0
    if ← accept .comma then
      let more ← expressions fuel
      expect .closeParen
      if ← accept (.keyword "in") then
        match ← peek with
        | .name table =>
          advance
          uses .table table
          let whole ← operators fuel 0 (.member (e :: more) table)
          others fuel whole
        | _ => misfit
      else return e :: more
    else
      expect .closeParen
      let isField := match e with
        | .field _ | .fieldCount => true
        | _ => false
      let first : Operand := ⟨e, isField⟩
      let whole ← continued fuel first
      others fuel whole
  | _ => expressions fuel
where
  others (fuel : Nat) (e : Expr) : Reading (List Expr) := do
    if ← accept .comma then
      let more ← expressions fuel
      return e :: more
    else return [e]
  continued (fuel : Nat) (first : Operand) : Reading Expr := do
    let first ← match ← peek with
      | .sign s =>
        if (s = "++" || s = "--") && first.isTarget then
          advance
          pure (⟨.step (s == "++") false first.expr, false⟩ : Operand)
        else pure first
      | _ => pure first
    let a ← arithmeticTail fuel 0 first
    let a ← if startsOperand (← peek) then
        pure (⟨← joinedTo fuel a.expr, false⟩ : Operand)
      else pure a
    match assignmentOf? (← peek) with
    | some op =>
      if !a.isTarget then misfit
      advance
      let value ← expression fuel 0
      return .assign op a.expr value
    | none => operators fuel 0 a.expr

def conditionBehind (fuel : Nat) : Reading Expr := do
  expect .openParen
  let e ← expression fuel 0
  expect .closeParen
  passLines
  return e

def recover : Nat → Reading Unit
  | 0 => throw .giveUp
  | fuel + 1 => do
    match ← peek with
    | .stop => throw .giveUp
    | t =>
      if isSeparator t then advance
      else
        advance
        recover fuel

def regain (loops : Nat) : Reading Unit := do
  modify fun s => { s with printing := false, loops := loops }
  recover ((← get).rest.length + 2)
  modify fun s => { s with parens := 0 }

def inLoop {α : Type} (body : Reading α) : Reading α := do
  modify fun s => { s with loops := s.loops + 1 }
  let a ← body
  modify fun s => { s with loops := s.loops - 1 }
  return a

mutual

def block : Nat → Reading (List Statement)
  | 0 => throw .giveUp
  | fuel + 1 => do
    expect .openBrace
    statements fuel

def statements : Nat → Reading (List Statement)
  | 0 => throw .giveUp
  | fuel + 1 => do
    if ← accept .closeBrace then return []
    let s ← sound fuel
    let more ← statements fuel
    return s :: more

def sound : Nat → Reading Statement
  | 0 => throw .giveUp
  | fuel + 1 => do
    let loops := (← get).loops
    try statement fuel
    catch
      | .giveUp => throw .giveUp
      | .misfit =>
        regain loops
        return .nothing

def statement : Nat → Reading Statement
  | 0 => throw .giveUp
  | fuel + 1 => do
    let t ← peek
    match t with
    | .openBrace => return .block (← block fuel)
    | .newline | .semicolon _ =>
      advance
      return .nothing
    | .keyword "if" =>
      advance
      let e ← conditionBehind fuel
      let yes ← sound fuel
      if ← accept (.keyword "else") then
        passLines
        let no ← sound fuel
        return .condition e yes (some no)
      return .condition e yes none
    | .keyword "while" =>
      advance
      let e ← conditionBehind fuel
      return .loopWhile e (← inLoop (sound fuel))
    | .keyword "do" =>
      advance
      passLines
      let body ← inLoop (sound fuel)
      return .doWhile body (← whileBehind fuel)
    | .keyword "for" =>
      advance
      expect .openParen
      forBehind fuel
    | .keyword "delete" =>
      advance
      match ← peek with
      | .name table =>
        advance
        uses .table table
        let subscripts ← if ← accept .openBracket then
            let es ← expressions fuel
            expect .closeBracket
            pure es
          else pure []
        separator
        return if subscripts.isEmpty then .clear table else .erase table subscripts
      | _ => misfit
    | .keyword "break" =>
      advance
      if (← get).loops = 0 then complain "break statement outside of loop"
      separator
      return .leave
    | .keyword "continue" =>
      advance
      if (← get).loops = 0 then complain "continue statement outside of loop"
      separator
      return .again
    | .keyword "next" =>
      advance
      separator
      if !(← get).inRule then complain "improper use of next"
      return .next
    | .keyword "nextfile" =>
      advance
      separator
      if !(← get).inRule then complain "improper use of nextfile"
      return .nextFile
    | .keyword "exit" =>
      advance
      let e ← if isSeparator (← peek) then pure none else some <$> expression fuel 0
      separator
      return .exit e
    | .keyword "return" =>
      advance
      let e ← if isSeparator (← peek) then pure none else some <$> expression fuel 0
      separator
      if (← get).function = "" then complain "return outside function body"
      return .back e
    | .keyword k =>
      if k = "print" || k = "printf" then
        modify fun s => { s with printing := true }
        advance
        let es ← printed fuel
        let target ← outletBehind fuel
        modify fun s => { s with printing := false }
        separator
        if k = "print" then return .print es target
        if es.isEmpty then complain "no arguments in call to printf"
        return .printf es target
      else expressionStatement fuel
    | _ => expressionStatement fuel

/-- The condition behind the body of a loop. If it is wrong, what has been passed over counts
as the body. -/
def whileBehind : Nat → Reading Expr
  | 0 => throw .giveUp
  | fuel + 1 => do
    let loops := (← get).loops
    try
      expect (.keyword "while")
      expect .openParen
      let e ← expression fuel 0
      expect .closeParen
      separator
      return e
    catch
      | .giveUp => throw .giveUp
      | .misfit =>
        regain loops
        whileBehind fuel

def expressionStatement : Nat → Reading Statement
  | 0 => throw .giveUp
  | fuel + 1 => do
    let e ← expression fuel 0
    separator
    return .expression e

def forBehind : Nat → Reading Statement
  | 0 => throw .giveUp
  | fuel + 1 => do
    let part := fun (fuel : Nat) (e : Token → Bool) => do
      if e (← peek) then return none
      else return some (← expression fuel 0)
    let isSemicolon := fun (t : Token) => match t with
      | .semicolon _ => true
      | _ => false
    let start ← part fuel isSemicolon
    match start with
    | some (.member [.name n] table) =>
      if ← accept .closeParen then
        passLines
        return .forEach n table (← inLoop (sound fuel))
    | _ => pure ()
    if !isSemicolon (← peek) then misfit
    advance
    let condition ← part fuel isSemicolon
    if !isSemicolon (← peek) then misfit
    advance
    let next ← part fuel (· == .closeParen)
    expect .closeParen
    passLines
    return .forLoop start condition next (← inLoop (sound fuel))

end

def usual : List Statement := [.print [] none]

def bodyIfAny (fuel : Nat) : Reading (List Statement) := do
  if (← peek) == .openBrace then block fuel
  else
    separator
    return usual

def parameters : Nat → List String → Reading (List String)
  | 0, _ => throw .giveUp
  | fuel + 1, known => do
    match ← peek with
    | .name n | .called n =>
      if n = (← get).function then
        complain "function parameter cannot be the function"
        misfit
      if known.contains n then complain (n ++ " is duplicated in argument list")
      advance
      if ← accept .comma then parameters fuel (known ++ [n])
      else
        expect .closeParen
        return known ++ [n]
    | _ => misfit

def function (fuel : Nat) : Reading Unit := do
  match ← peek with
  | .name n | .called n =>
    let s ← get
    if s.functions.any fun f => f.name == n then complain ("redefinition of " ++ n)
    else if s.kinds.any fun k => k.1 == ("", n) then
      let what := match (s.kinds.find? fun k => k.1 == ("", n)).map Prod.snd with
        | some .table => "array "
        | _ => "variable "
      complain ("illegal reference to " ++ what ++ n)
    modify fun s => { s with function := n }
    advance
    expect .openParen
    let names ← if ← accept .closeParen then pure [] else parameters fuel []
    passLines
    modify fun s => { s with
      parameters := names, inRule := true, functions := ⟨n, names, []⟩ :: s.functions }
    let body ← block fuel
    modify fun s => { s with
      function := "", parameters := [], inRule := false
      functions := s.functions.map fun f => if f.name == n then ⟨n, names, body⟩ else f }
  | _ => misfit

def item (fuel : Nat) : Reading (Option Rule) := do
  match ← peek with
  | .keyword "function" =>
    advance
    function fuel
    return none
  | .keyword "BEGIN" =>
    advance
    return some ⟨.start, ← block fuel⟩
  | .keyword "END" =>
    advance
    return some ⟨.finish, ← block fuel⟩
  | t =>
    modify fun s => { s with inRule := true }
    let r ← if t == .openBrace then
        pure (⟨.always, ← block fuel⟩ : Rule)
      else
        let first ← expression fuel 0
        if ← accept .comma then
          let last ← expression fuel 0
          pure ⟨.range first last, ← bodyIfAny fuel⟩
        else pure ⟨.holding first, ← bodyIfAny fuel⟩
    modify fun s => { s with inRule := false }
    return some r

def recoverItem : Nat → Reading Unit
  | 0 => throw .giveUp
  | fuel + 1 => do
    match ← peek with
    | .stop => throw .giveUp
    | .openBrace => return
    | _ =>
      advance
      recoverItem fuel

def rules (fuel : Nat) : Nat → Reading (List Rule)
  | 0 => return []
  | n + 1 => do
    if (← peek) == .stop then return []
    let r ← try item fuel
      catch
        | .giveUp => throw .giveUp
        | .misfit => do
          modify fun s => { s with
            printing := false, loops := 0, function := "", parameters := [] }
          recoverItem ((← get).rest.length + 2)
          modify fun s => { s with parens := 0 }
          let _ ← block fuel
          pure none
    let more ← rules fuel n
    return r.toList ++ more

def kindOf? (s : Scan) (owner name : String) : Option Kind :=
  (s.kinds.find? fun k => k.1 == (owner, name)).map Prod.snd

def ownerIn (s : Scan) (function name : String) : String :=
  match s.functions.find? fun f => f.name == function with
  | some f => if f.parameters.contains name then function else ""
  | none => ""

def passKinds (s : Scan) : Scan :=
  s.calls.foldl (fun s c =>
    match s.functions.find? fun f => f.name == c.function with
    | none => s
    | some f =>
      c.names.foldl (fun s (i, n) =>
        match f.parameters[i]? with
        | none => s
        | some p =>
          let owner := ownerIn s c.inside n
          match kindOf? s owner n, kindOf? s f.name p with
          | some k, none => { s with kinds := ((f.name, p), k) :: s.kinds }
          | none, some k => { s with kinds := ((owner, n), k) :: s.kinds }
          | _, _ => s) s) s

def callFaults (s : Scan) : List String :=
  let faultOf := fun (line : Nat) (text : String) =>
    s.place ++ "line " ++ toString line ++ ": " ++ text
  s.calls.reverse.flatMap fun c =>
    if c.function = "length" then []
    else
      match s.functions.find? fun f => f.name == c.function with
      | none => [faultOf s.tokenLine ("function " ++ c.function ++ " never defined")]
      | some f =>
        if f.parameters.length < c.count then
          [faultOf c.line ("too many arguments in call to " ++ c.function)]
        else
          c.names.filterMap fun (i, n) =>
            let owner := ownerIn s c.inside n
            let p := f.parameters[i]?.getD ""
            match kindOf? s owner n, kindOf? s f.name p with
            | some .value, some .table =>
              some (faultOf c.line ("type error in arg(" ++ toString (i + 1) ++ ") in call to " ++
                c.function ++ " (actual local variable vs local array)"))
            | some .table, some .value =>
              some (faultOf c.line ("type error in arg(" ++ toString (i + 1) ++ ") in call to " ++
                c.function ++ " (actual local array vs local variable)"))
            | _, _ => none

end Reading

def readProgram (file : Option String) (text : String) : Except (List String) Program :=
  let cs := text.toList ++ ['\n']
  let (rest, line) := Lexer.skipLines (cs.length + 1) cs 1
  let start : Scan :=
    { rest := rest, line := line, tokenLine := line, last := .newline, ahead := none
      parens := 0, braces := 0, printing := false, faults := [], file := file
      function := "", parameters := [], loops := 0, inRule := false
      kinds := Reading.knownTables.map fun t => (("", t), .table)
      calls := [], functions := [] }
  let fuel := 20 * cs.length + 100
  let (result, s) := (Reading.rules fuel (cs.length + 1)).run.run start
  let s := (List.range (s.calls.length + 1)).foldl (fun s _ => Reading.passKinds s) s
  let faults := if s.faults.isEmpty then Reading.callFaults s else s.faults.reverse
  match result, faults with
  | .ok rules, [] =>
    .ok ⟨rules, s.functions, s.kinds.filterMap fun k =>
      if k.2 = .table then some k.1 else none⟩
  | _, faults => .error faults

end Assay.Utility.Awk
