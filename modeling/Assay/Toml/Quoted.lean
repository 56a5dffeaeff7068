import Assay.Json.Reader

/-!
# TOML strings

How the strings of a text are written and how they are read.
-/

set_option autoImplicit false

namespace Assay.Toml

/-!
## Writing

A text is written between the quotes that make it plainest: double ones where
nothing has to be escaped, else single ones, else tripled ones, and escapes
only where no other form will do.
-/

inductive QuoteStyle where
  | basic
  | literal
  | basicLines
  | literalLines
deriving DecidableEq, Repr

def isControl (c : Char) : Bool := decide (c.toNat < 0x20) || c.toNat == 0x7f

/-- Characters that never call for another form than double quotes. -/
def isTame (c : Char) : Bool :=
  c.isAlphanum || c == '-' || c == '_' || c == '.' || c == '/' || c == ' ' || c == ':'

def runs (q : Char) : List Char → Nat × Nat
  | [] => (0, 0)
  | c :: cs =>
    let (longest, front) := runs q cs
    if c = q then (Nat.max longest (front + 1), front + 1) else (longest, 0)

def longestRun (q : Char) (cs : List Char) : Nat := (runs q cs).1

def quoteStyle (cs : List Char) : QuoteStyle :=
  let unprintable := cs.any fun c => isControl c && c != '\t' && c != '\n'
  let escapes := cs.contains '\\'
  let newline := cs.contains '\n'
  let double := longestRun '"' cs
  let single := longestRun '\'' cs
  if cs.all isTame then .basic
  else if !unprintable && !escapes && double = 0 && !newline then .basic
  else if !unprintable && single = 0 && !newline then .literal
  else if !unprintable && !escapes && double ≤ 2 then .basicLines
  else if !unprintable && single ≤ 2 then .literalLines
  else if newline then .basicLines
  else .basic

def upperHex (n : Nat) : List Char := (Nat.toDigits 16 n).map Char.toUpper

/-- A control character as four hexadecimal digits. -/
def codeEscape (c : Char) : List Char :=
  let ds := upperHex c.toNat
  ['\\', 'u'] ++ List.replicate (4 - ds.length) '0' ++ ds

/-- Escape of a character that is neither a quote nor a line end. -/
def escapeChar (c : Char) : List Char :=
  if c = '\x08' then ['\\', 'b']
  else if c = '\t' then ['\\', 't']
  else if c = '\x0c' then ['\\', 'f']
  else if c = '\r' then ['\\', 'r']
  else if c = '\\' then ['\\', '\\']
  else if isControl c then codeEscape c
  else [c]

def basicChar (c : Char) : List Char :=
  if c = '"' then ['\\', '"']
  else if c = '\n' then ['\\', 'n']
  else escapeChar c

/-- Contents of a basic string of several lines: every third quote in a row is
escaped. The number counts the quotes just written. -/
def basicLinesBody : Nat → List Char → List Char
  | _, [] => []
  | quotes, c :: cs =>
    if c = '"' then
      if quotes = 2 then '\\' :: '"' :: basicLinesBody 0 cs
      else '"' :: basicLinesBody (quotes + 1) cs
    else if c = '\n' then '\n' :: basicLinesBody 0 cs
    else escapeChar c ++ basicLinesBody 0 cs

def openingLineEnd (cs : List Char) : List Char := if cs.contains '\n' then ['\n'] else []

def quoteChars (cs : List Char) : List Char :=
  match quoteStyle cs with
  | .basic => '"' :: cs.flatMap basicChar ++ ['"']
  | .literal => '\'' :: cs ++ ['\'']
  | .basicLines =>
    ['"', '"', '"'] ++ openingLineEnd cs ++ basicLinesBody 0 cs ++ ['"', '"', '"']
  | .literalLines => ['\'', '\'', '\''] ++ openingLineEnd cs ++ cs ++ ['\'', '\'', '\'']

def quote (s : String) : String := String.ofList (quoteChars s.toList)

def line (key value : String) : String := key ++ " = " ++ value ++ "\n"

def stringLine (key value : String) : String := line key (quote value)

def optionalLine (key : String) : Option String → String
  | some value => stringLine key value
  | none => ""

/-!
## Reading

A string stands between single or double quotes, alone on its line or, with
tripled quotes, over several lines. Double quotes admit escapes. Up to two
quotes may stand right before a tripled closing quote.
-/

def isPrintable (c : Char) : Bool :=
  c == '\t' || (decide (0x20 ≤ c.toNat) && c.toNat != 0x7f)

def isWs (c : Char) : Bool := c == ' ' || c == '\t'

def simpleEscape? (c : Char) : Option Char :=
  if c = 'b' then some '\x08'
  else if c = 't' then some '\t'
  else if c = 'n' then some '\n'
  else if c = 'f' then some '\x0c'
  else if c = 'r' then some '\r'
  else if c = 'e' then some '\x1b'
  else if c = '"' then some '"'
  else if c = '\\' then some '\\'
  else none

def codeChar? (ds : List Char) : Option Char :=
  match Json.hexNumber? ds with
  | some n => if n.isValidChar then some (Char.ofNat n) else none
  | none => none

/-- A string's contents and the text after its closing quotes. -/
abbrev Quotation := Option (List Char × List Char)

def Quotation.cons (c : Char) (q : Quotation) : Quotation :=
  q.map fun (cs, rest) => (c :: cs, rest)

def Quotation.escape (c : Option Char) (q : Quotation) : Quotation :=
  match c with
  | some c => Quotation.cons c q
  | none => none

def readBasic : List Char → Quotation
  | [] => none
  | '"' :: rest => some ([], rest)
  | '\\' :: 'x' :: a :: b :: rest => Quotation.escape (codeChar? [a, b]) (readBasic rest)
  | '\\' :: 'u' :: a :: b :: c :: d :: rest =>
    Quotation.escape (codeChar? [a, b, c, d]) (readBasic rest)
  | '\\' :: 'U' :: a :: b :: c :: d :: e :: f :: g :: h :: rest =>
    Quotation.escape (codeChar? [a, b, c, d, e, f, g, h]) (readBasic rest)
  | '\\' :: c :: rest => Quotation.escape (simpleEscape? c) (readBasic rest)
  | c :: rest => if isPrintable c && c != '\\' then Quotation.cons c (readBasic rest) else none

def readLiteral : List Char → Quotation
  | [] => none
  | '\'' :: rest => some ([], rest)
  | c :: rest => if isPrintable c then Quotation.cons c (readLiteral rest) else none

/-- What follows three closing quotes: further quotes belong to the contents. -/
def closeTriple (quote : Char) : List Char → List Char × List Char
  | a :: b :: rest =>
    if a = quote ∧ b = quote then ([a, b], rest)
    else if a = quote then ([a], b :: rest)
    else ([], a :: b :: rest)
  | [a] => if a = quote then ([a], []) else ([], [a])
  | [] => ([], [])

def atLineEnd (cs : List Char) : Bool :=
  match cs.dropWhile isWs with
  | '\n' :: _ => true
  | '\r' :: '\n' :: _ => true
  | _ => false

/-- Reads a basic string of several lines. After a backslash that ends a line,
blanks and line ends are passed over. -/
def readBasicLines : Bool → List Char → Quotation
  | _, [] => none
  | _, '"' :: '"' :: '"' :: rest => some (closeTriple '"' rest)
  | skipping, '\r' :: '\n' :: rest =>
    if skipping then readBasicLines true rest
    else Quotation.cons '\r' (Quotation.cons '\n' (readBasicLines false rest))
  | _, '\\' :: 'x' :: a :: b :: rest =>
    Quotation.escape (codeChar? [a, b]) (readBasicLines false rest)
  | _, '\\' :: 'u' :: a :: b :: c :: d :: rest =>
    Quotation.escape (codeChar? [a, b, c, d]) (readBasicLines false rest)
  | _, '\\' :: 'U' :: a :: b :: c :: d :: e :: f :: g :: h :: rest =>
    Quotation.escape (codeChar? [a, b, c, d, e, f, g, h]) (readBasicLines false rest)
  | _, '\\' :: c :: rest =>
    if atLineEnd (c :: rest) then readBasicLines true (c :: rest)
    else Quotation.escape (simpleEscape? c) (readBasicLines false rest)
  | skipping, c :: rest =>
    if c = '\n' || isWs c then
      if skipping then readBasicLines true rest
      else Quotation.cons c (readBasicLines false rest)
    else if isPrintable c && c != '\\' then Quotation.cons c (readBasicLines false rest)
    else none

def readLiteralLines : List Char → Quotation
  | [] => none
  | '\'' :: '\'' :: '\'' :: rest => some (closeTriple '\'' rest)
  | '\r' :: '\n' :: rest =>
    Quotation.cons '\r' (Quotation.cons '\n' (readLiteralLines rest))
  | c :: rest =>
    if c = '\n' || isPrintable c then Quotation.cons c (readLiteralLines rest) else none

/-- Drops the line end that may follow tripled opening quotes. -/
def dropLineEnd : List Char → List Char
  | '\n' :: rest => rest
  | '\r' :: '\n' :: rest => rest
  | cs => cs

def lineString? : List Char → Quotation
  | '"' :: rest => readBasic rest
  | '\'' :: rest => readLiteral rest
  | _ => none

def string? : List Char → Quotation
  | '"' :: '"' :: '"' :: rest => readBasicLines false (dropLineEnd rest)
  | '\'' :: '\'' :: '\'' :: rest => readLiteralLines (dropLineEnd rest)
  | cs => lineString? cs

end Assay.Toml
