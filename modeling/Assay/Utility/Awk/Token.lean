import Assay.Utility.Awk.Syntax

/-!
# Tokens of a program

A program is read token by token. What a slash or an arrow stands for hangs on
what has been before it; a statement that a brace ends needs no semicolon.
-/

set_option autoImplicit false

namespace Assay.Utility.Awk

inductive Token where
  | stop
  | newline
  | semicolon (written : Bool)
  | openBrace
  | closeBrace
  | openParen
  | closeParen
  | openBracket
  | closeBracket
  | comma
  | number (x : Binary64) (text : String)
  | text (s : String)
  | pattern (s : String)
  | name (s : String)
  | called (s : String)
  | builtin (b : Builtin) (name : String)
  | bareLength
  | fieldAt (n : Nat) (text : String)
  | fieldCount
  | dollar
  | keyword (s : String)
  | sign (s : String)
  | outlet (o : Outlet)
  | badNumber (text : String)
  | strange (c : Char)
deriving DecidableEq, Repr, Inhabited

namespace Token

def shown : Token → String
  | stop => "end of file"
  | newline => "end of line"
  | semicolon written => if written then ";" else "\x7d"
  | openBrace => "\x7b"
  | closeBrace => "\x7d"
  | openParen => "("
  | closeParen => ")"
  | openBracket => "["
  | closeBracket => "]"
  | comma => ","
  | number _ s => s
  | text s => s
  | pattern s => "/" ++ s ++ "/"
  | name s => s
  | called s => s
  | builtin _ s => s
  | bareLength => "length"
  | fieldAt _ s => s
  | fieldCount => "NF"
  | dollar => "$"
  | keyword s => s
  | sign s => s
  | outlet .fresh => ">"
  | outlet .adding => ">>"
  | outlet .command => "|"
  | badNumber s => s
  | strange c => String.singleton c

def mayBeDivided : Token → Bool
  | number _ _ | text _ | closeParen | name _ | pattern _ | closeBracket | fieldAt _ _
  | fieldCount => true
  | keyword s => s == "getline"
  | sign s => s == "++" || s == "--"
  | _ => false

def endsStatement : Token → Bool
  | newline | semicolon _ | closeBrace => true
  | _ => false

end Token

def keywords : List String :=
  ["print", "printf", "if", "else", "while", "do", "for", "in", "delete", "break", "continue",
    "next", "nextfile", "exit", "return", "function", "getline", "BEGIN", "END", "split", "sub",
    "gsub", "match"]

inductive Kind where
  | value
  | table
deriving DecidableEq, Repr

structure CallSite where
  line : Nat
  function : String
  inside : String
  count : Nat
  names : List (Nat × String)

structure Scan where
  rest : List Char
  line : Nat
  tokenLine : Nat
  last : Token
  ahead : Option Token
  parens : Nat
  braces : Nat
  printing : Bool
  faults : List String
  file : Option String
  function : String
  parameters : List String
  loops : Nat
  inRule : Bool
  kinds : List ((String × String) × Kind)
  calls : List CallSite
  functions : List Function

/-- Why reading does not go on. -/
inductive Stop where
  | misfit
  | giveUp

abbrev Reading := ExceptT Stop (StateM Scan)

def faultLimit : Nat := 5

def Scan.place (s : Scan) : String :=
  match s.file with
  | some file => file ++ ": "
  | none => ""

def note (text : String) : Reading Unit := do
  modify fun s => { s with faults := text :: s.faults }
  if faultLimit ≤ (← get).faults.length then throw .giveUp

/-- Notes that something is wrong in the line of the last token. -/
def complain (text : String) : Reading Unit := do
  let s ← get
  note (s.place ++ "line " ++ toString s.tokenLine ++ ": " ++ text)

def abandon {α : Type} (text : String) : Reading α := do
  complain text
  throw .giveUp

namespace Lexer

/-- Passes over blanks, comments and lines that go on; yields what follows and the line. -/
def skip : Nat → List Char → Nat → List Char × Nat
  | 0, cs, n => (cs, n)
  | fuel + 1, cs, n =>
    match cs with
    | '\\' :: more =>
      match more.dropWhile isSpace with
      | '\n' :: rest => skip fuel rest (n + 1)
      | _ => (cs, n)
    | '#' :: more => skip fuel (more.dropWhile (· != '\n')) n
    | c :: more => if isSpace c then skip fuel more n else (cs, n)
    | [] => ([], n)

def skipLines : Nat → List Char → Nat → List Char × Nat
  | 0, cs, n => (cs, n)
  | fuel + 1, cs, n =>
    match skip (cs.length + 1) cs n with
    | ('\n' :: rest, n) => skipLines fuel rest (n + 1)
    | found => found

/-- The characters of a text up to the quote that closes it, first last, and what follows;
`none` if it is not closed in its line. -/
def textBody : List Char → List Char → Nat → Option (List Char × List Char × Nat)
  | [], _, _ => none
  | '"' :: cs, out, n => some (out, cs, n)
  | '\n' :: _, _, _ => none
  | '\\' :: '\n' :: cs, out, n => textBody cs out (n + 1)
  | '\\' :: c :: cs, out, n => textBody cs (c :: '\\' :: out) n
  | c :: cs, out, n => textBody cs (c :: out) n

def resolve : Nat → List Char → List Char
  | 0, cs => cs
  | fuel + 1, cs =>
    match cs with
    | [] => []
    | '\\' :: '"' :: rest => '"' :: resolve fuel rest
    | '\\' :: 'x' :: rest =>
      let (n, tail) := Shell.readDigits 16 (rest.take 2)
      if tail.length = (rest.take 2).length then '\\' :: 'x' :: resolve fuel rest
      else Char.ofNat n :: resolve fuel (tail ++ rest.drop 2)
    | '\\' :: c :: rest =>
      match Pattern.letter? c with
      | some d => d :: resolve fuel rest
      | none =>
        if Shell.isOctal c then
          let (d, rest) := Shell.octalChar 3 (c :: rest)
          d :: resolve fuel rest
        else '\\' :: c :: resolve fuel rest
    | c :: rest => c :: resolve fuel rest

/-- The characters of a pattern up to the slash that closes it, first last, and what follows;
`boxed` tells that they belong to a set, and `opened` that the set has just been opened. -/
def patternBody (boxed opened : Bool) :
    List Char → List Char → Option (List Char × List Char)
  | [], _ => none
  | '\n' :: _, _ => none
  | '\\' :: '/' :: cs, out => patternBody boxed false cs ('/' :: out)
  | '\\' :: c :: cs, out =>
    if c = '\n' then none else patternBody boxed false cs (c :: '\\' :: out)
  | c :: cs, out =>
    if boxed then
      if c = ']' && !opened then patternBody false false cs (c :: out)
      else patternBody true (opened && c == '^') cs (c :: out)
    else if c = '/' then some (out, cs)
    else patternBody (c == '[') (c == '[') cs (c :: out)

def isNameStart (c : Char) : Bool := c.isAlpha || c == '_'

def isNamePart (c : Char) : Bool := c.isAlphanum || c == '_'

def signs : List String :=
  ["++", "+=", "+", "--", "-=", "-", "*=", "*", "%=", "%", "^=", "^", "~", "==", "=", "!~", "!=",
    "!", "<=", "<", ">=", ">", "||", "|", "&&", "?", ":"]

def shortened (cs : List Char) : String :=
  String.ofList ((cs.takeWhile (· != '\n')).take 10) ++ " ..."

def decimalFront (cs : List Char) : List Char :=
  let (whole, rest) := cs.span Char.isDigit
  let (fraction, rest) := match rest with
    | '.' :: more =>
      let (ds, rest) := more.span Char.isDigit
      ('.' :: ds, rest)
    | _ => ([], rest)
  let exponent := match rest with
    | e :: more =>
      let (sign, ds) := more.span fun c => c == '+' || c == '-'
      let ds := ds.takeWhile Char.isDigit
      if (e = 'e' || e = 'E') && sign.length ≤ 1 && !ds.isEmpty then e :: sign ++ ds else []
    | [] => []
  whole ++ fraction ++ exponent

def number? (cs : List Char) : Option (Binary64 × List Char) :=
  let front := decimalFront cs
  (Shell.readReal (String.ofList front)).map fun (x, rest, _) =>
    (x, cs.drop (front.length - rest.length))

def isCalled (s : Scan) (name : String) (rest : List Char) : Bool :=
  let isKnown := s.parameters.contains name ||
    s.kinds.any fun k => k.1 == ("", name)
  s.functions.any (fun f => f.name == name) && !s.parameters.contains name ||
    !isKnown && (rest.head? == some '(' || s.calls.any fun c => c.function == name)

def settle (t : Token) (rest : List Char) : Reading Token := do
  modify fun s => { s with rest := rest, last := t }
  return t

/-- Takes up a token behind which line ends do not count. -/
def settleLine (t : Token) (rest : List Char) : Reading Token := do
  let s ← get
  let (rest, line) := skipLines (rest.length + 1) rest s.line
  set { s with rest := rest, line := line, last := t }
  return t

def word (cs : List Char) : Reading Token := do
  let s ← get
  let (body, rest) := cs.span isNamePart
  let name := String.ofList body
  if keywords.contains name then settle (.keyword name) rest
  else if name = "NF" then settle .fieldCount rest
  else
    match Builtin.all.find? fun b => b.1 == name with
    | some (_, b, _) =>
      let isBare := name = "length" && (rest.dropWhile isSpace).head? != some '('
      settle (if isBare then .bareLength else .builtin b name) rest
    | none => settle (if isCalled s name rest then .called name else .name name) rest

def token : Nat → Reading Token
  | 0 => settle .stop []
  | fuel + 1 => do
    modify fun s =>
      let (rest, line) := skip (s.rest.length + 1) s.rest s.line
      { s with rest := rest, line := line, tokenLine := line }
    let s ← get
    match s.rest with
    | [] => settle .stop []
    | '\n' :: rest =>
      set { s with line := s.line + 1 }
      settleLine .newline rest
    | ';' :: rest => settleLine (.semicolon true) rest
    | ',' :: rest => settleLine .comma rest
    | '\x7b' :: rest =>
      set { s with braces := s.braces + 1 }
      settleLine .openBrace rest
    | '\x7d' :: rest =>
      if s.braces = 0 then
        complain "extra '\x7d'"
        let rest := rest.dropWhile isSpace
        modify fun s => { s with rest := if rest.head? == some ';' then rest.tail else rest }
        token fuel
      else if s.last.endsStatement then
        set { s with braces := s.braces - 1 }
        let blank := rest.dropWhile isSpace
        settleLine .closeBrace
          (if s.braces = 1 && blank.head? == some ';' then blank.tail else rest)
      else settle (.semicolon false) s.rest
    | '(' :: rest =>
      set { s with parens := s.parens + 1 }
      settle .openParen rest
    | ')' :: rest =>
      if s.parens = 0 then
        complain "extra ')'"
        modify fun s => { s with rest := rest }
        token fuel
      else
        set { s with parens := s.parens - 1 }
        settle .closeParen rest
    | '[' :: rest => settle .openBracket rest
    | ']' :: rest => settle .closeBracket rest
    | '"' :: rest =>
      match textBody rest [] s.line with
      | none => abandon ("runaway string constant \"" ++ shortened rest)
      | some (out, rest, line) =>
        modify fun s => { s with line := line }
        settle (.text (String.ofList (resolve out.length out.reverse))) rest
    | '$' :: rest =>
      let blank := rest.dropWhile isSpace
      if blank.head?.any fun c => c.isDigit || c == '.' then
        match number? blank with
        | none => settle (.badNumber ".") blank.tail
        | some (x, rest) =>
          let n := (toWhole x).toNat
          if !(x.equal (.ofNat n)) then
            complain ("$" ++ numberText "%g" x ++ " is invalid field index")
          let shown := String.ofList ('$' :: blank.take (blank.length - rest.length))
          settle (.fieldAt n shown) rest
      else settle .dollar rest
    | '/' :: rest =>
      if s.last.mayBeDivided then
        match rest with
        | '=' :: rest => settle (.sign "/=") rest
        | _ => settle (.sign "/") rest
      else
        match patternBody false false rest [] with
        | none => abandon ("runaway regular expression /" ++ shortened rest)
        | some (out, rest) => settle (.pattern (String.ofList out.reverse)) rest
    | '>' :: rest =>
      if s.printing && s.parens = 0 then
        set { s with printing := false }
        match rest with
        | '>' :: rest => settle (.outlet .adding) rest
        | _ => settle (.outlet .fresh) rest
      else
        match rest with
        | '=' :: rest => settle (.sign ">=") rest
        | _ => settle (.sign ">") rest
    | c :: rest =>
      if c.isDigit || c == '.' then
        match number? s.rest with
        | none => settle (.strange c) rest
        | some (x, after) =>
          let shown := String.ofList (s.rest.take (s.rest.length - after.length))
          if !x.isFinite then complain (shown ++ " : decimal overflow")
          settle (.number x shown) after
      else if isNameStart c then word s.rest
      else
        match signs.find? fun sign => sign.toList.isPrefixOf s.rest with
        | none => settle (.strange c) rest
        | some sign =>
          let after := s.rest.drop sign.length
          if sign = "|" && s.printing && s.parens = 0 then
            set { s with printing := false }
            settle (.outlet .command) after
          else if sign = "||" || sign = "&&" then settleLine (.sign sign) after
          else settle (.sign sign) after

end Lexer

def peek : Reading Token := do
  let s ← get
  match s.ahead with
  | some t => return t
  | none =>
    let t ← Lexer.token (s.rest.length + 1)
    modify fun s => { s with ahead := some t }
    return t

def advance : Reading Unit := modify fun s => { s with ahead := none }

def misfit {α : Type} : Reading α := do
  let t ← peek
  let s ← get
  match t with
  | .strange c =>
    let shown :=
      if 32 ≤ c.toNat ∧ c.toNat < 127 then "'" ++ String.singleton c ++ "'"
      else "0x" ++ String.ofList (Nat.toDigits 16 c.toNat)
    note (s.place ++ toString s.tokenLine ++ ": unexpected character " ++ shown)
  | .badNumber text => complain ("syntax error in decimal constant " ++ text)
  | .stop =>
    if s.braces != 0 then complain "missing \x7d near end of file"
    else if s.parens != 0 then complain "missing ) near end of file"
    else complain "syntax error at or near end of file"
  | t =>
    let ends := match t with
      | .closeBrace | .semicolon _ | .newline => true
      | _ => false
    if ends && s.parens != 0 then complain ("missing ) near " ++ t.shown)
    else if s.braces != 0 && (t == .keyword "BEGIN" || t == .keyword "END") then
      complain ("missing \x7d near " ++ t.shown)
    else complain ("syntax error at or near " ++ t.shown)
  throw .misfit

def expect (t : Token) : Reading Unit := do
  if (← peek) == t then advance else misfit

def accept (t : Token) : Reading Bool := do
  if (← peek) == t then
    advance
    return true
  else return false

/-- Passes over line ends in front of the next token. -/
def passLines : Reading Unit := do
  let s ← get
  if s.ahead.isNone then
    let (rest, line) := Lexer.skipLines (s.rest.length + 1) s.rest s.line
    set { s with rest := rest, line := line }

end Assay.Utility.Awk
