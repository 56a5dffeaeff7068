import Assay.Utility.Awk.Stream
import Assay.Utility.Awk.Value
import Assay.Utility.Calendar

/-!
# Carrying out a program

Expressions are worked out from left to right, statements are carried out one
after the other. What breaks their course off is an ending that the statement
catches which it is meant for.
-/

set_option autoImplicit false

namespace Assay.Utility.Awk

open Shell (Sh)

/-- What may be assigned to, with its subscripts worked out. -/
inductive Place where
  | named (name : String)
  | field (n : Nat)
  | fieldCount
  | element (table : Nat) (k : Key)

namespace Place

def load : Place → Work Value
  | named name => do
    match (← getThe State).locals.find? fun l => l.1 == name with
    | some (_, .value v) => return v
    | _ => variableValue name
  | field n => Awk.field n
  | fieldCount => do return .ofNat (← Awk.fieldCount)
  | element t k => onTable t fun table => table.get k

def store (v : Value) : Place → Work Unit
  | named name => do
    let s ← getThe State
    if s.locals.any fun l => l.1 == name then
      let locals := s.locals.map fun (l : String × Slot) =>
        if l.1 == name then (name, Slot.value v) else l
      set { s with locals := locals }
    else setVariable name v
  | field n => setField n v
  | fieldCount => setFieldCount v
  | element t k => onTable t fun table => ((), ((table.get k).2).set k v)

end Place

def arithmetic (op : Arithmetic) (a b : Binary64) : Binary64 :=
  match op with
  | .add => a.add b
  | .subtract => a.sub b
  | .multiply => a.mul b
  | .divide => a.div b
  | .remainder => a.remainder b
  | .power => a.pow b

def fieldNumber (v : Value) : Work Nat := do
  let n := toWhole v.toNumber
  if n < 0 then fault ("negative field index $" ++ toString n)
  return n.toNat

def keyOf (vs : List Value) : Work Key := do
  match vs with
  | [v] => return .ofValue (← form) v
  | vs =>
    let between ← textOf (← variableValue "SUBSEP")
    return .text (String.intercalate between (← vs.mapM textOf))

def part (text : String) (start : Int) (length : Option Int) : String :=
  let cs := text.toList
  match length with
  | none => String.ofList (cs.drop (start - 1).toNat)
  | some n =>
    let n := if start < 0 then n - start else n
    String.ofList ((cs.drop (start - 1).toNat).take n.toNat)

def placeIn (text part : List Char) : Nat → Nat
  | i =>
    match text with
    | [] => if part.isEmpty then i else 0
    | _ :: rest => if part.isPrefixOf text then i else placeIn rest part (i + 1)
termination_by structural text

def timeOf (text : String) : Int :=
  let parts := (Separator.splitBlanks text.toList).map fun w => toWhole (leadingNumber w)
  match parts with
  | year :: month :: day :: hour :: minute :: second :: _ =>
    dayNumber year month day * 86400 + hour * 3600 + minute * 60 + second
  | _ => -1

def applyBuiltin (b : Builtin) (vs : List Value) : Work Value := do
  let first := vs.headD .unset
  let second := vs.getD 1 .unset
  let number := fun (f : Binary64 → Binary64) => (Value.number (f first.toNumber))
  match b with
  | .length =>
    let text ← if vs.isEmpty then wholeRecord else textOf first
    return .ofNat text.length
  | .index =>
    let text := (← textOf first).toList
    let wanted := (← textOf second).toList
    return .ofNat (placeIn text wanted 1)
  | .substr =>
    let start := toWhole second.toNumber
    let length := (vs[2]?).map fun v => toWhole v.toNumber
    return .text (part (← textOf first) start length)
  | .sprintf =>
    match filledFormat (← form) "sprintf" (← textOf first) vs.tail with
    | .ok text => return .text text
    | .error e => fault e.2
  | .sin => return number Binary64.sin
  | .cos => return number Binary64.cos
  | .atan2 => return .number (first.toNumber.atan2 second.toNumber)
  | .exp => return number Binary64.exp
  | .log => return number Binary64.log
  | .int => return number Binary64.wholePart
  | .sqrt => return number Binary64.sqrt
  | .rand =>
    let n := ((← getThe State).random * 6364136223846793005 + 1442695040888963407) %
      18446744073709551616
    modifyThe State fun s => { s with random := n }
    return .number ((Binary64.ofNat (n / 2048)).div (.ofNat 9007199254740992))
  | .srand =>
    let before := (← getThe State).seed
    let seed ← if vs.isEmpty then do
        pure (Value.number (.ofInt ((← getThe Shell.Session).now / 1000000000)))
      else pure first
    modifyThe State fun s => { s with seed := seed, random := (toWhole seed.toNumber).toNat }
    return before
  | .close => return .number (.ofInt (← close (← textOf first)))
  | .system =>
    flush
    return .ofNat (← runCommand (← textOf first))
  | .toupper => return .text ((← textOf first).map Char.toUpper)
  | .tolower => return .text ((← textOf first).map Char.toLower)
  | .fflush =>
    flush
    return .ofNat 0
  | .systime => return .number (.ofInt ((← getThe Shell.Session).now / 1000000000))
  | .mktime => return .number (.ofInt (timeOf (← textOf first)))
  | .strftime =>
    let shape ← if vs.isEmpty then pure "%c" else textOf first
    let now := (← getThe Shell.Session).now
    let time := match vs[1]? with
      | some v => toWhole v.toNumber * 1000000000
      | none => now
    return .text ((Moment.ofTime time).shown shape)

/-- How deep expressions and calls may stand in each other, and how long loops may go on. -/
def depthLimit : Nat := 100000000

def stepsOut {α : Type} : Work α := sh Shell.standStill

def noteMatch (start length : Int) : Work Unit := do
  setVariableRaw "RSTART" (.number (.ofInt start))
  setVariableRaw "RLENGTH" (.number (.ofInt length))

def tableOfArgument (e : Option Expr) : Work Nat := do
  match e with
  | some (.name n) => tableNumber n
  | _ => newTable

def isTable (p : Program) (owner name : String) : Bool := p.tables.contains (owner, name)

def takeFrom (isCommand : Bool) (name : String) (place : Option Place) : Work Value := do
  match ← recordFrom isCommand name with
  | .ok record =>
    match place with
    | some p => p.store (.input record)
    | none => setRecord record
    return .ofNat 1
  | .error true => return .ofNat 0
  | .error false => return .number (.ofInt (-1))

mutual

def evaluate : Nat → Expr → Work Value
  | 0, _ => stepsOut
  | fuel + 1, e => do
    match e with
    | .number x => return .number x
    | .text s => return .text s
    | .pattern r => return .ofBool (r.search (← wholeRecord).toList.toArray 0).isSome
    | .name n => (Place.named n).load
    | .field i =>
      let n ← fieldNumber (← evaluate fuel i)
      field n
    | .fieldCount => return .ofNat (← fieldCount)
    | .element _ _ =>
      let p ← placeOf fuel e
      p.load
    | .assign op target value =>
      let p ← placeOf fuel target
      let v ← evaluate fuel value
      let v ← match op with
        | some op => do
          let before ← p.load
          pure (Value.number (arithmetic op before.toNumber v.toNumber))
        | none => pure v
      p.store v
      return v
    | .step up first target =>
      let p ← placeOf fuel target
      let before := (← p.load).toNumber
      let after := if up then before.add one else before.sub one
      p.store (.number after)
      return .number (if first then after else before)
    | .negative a =>
      let v ← evaluate fuel a
      return .number v.toNumber.neg
    | .positive a =>
      let v ← evaluate fuel a
      return .number v.toNumber
    | .not a =>
      let v ← evaluate fuel a
      return .ofBool !v.isTrue
    | .arithmetic op a b =>
      let x ← evaluate fuel a
      let y ← evaluate fuel b
      return .number (Awk.arithmetic op x.toNumber y.toNumber)
    | .compare c a b =>
      let x ← evaluate fuel a
      let y ← evaluate fuel b
      return .ofBool (c.holds (Value.order (← form) x y))
    | .joined a b =>
      let x ← evaluate fuel a
      let y ← evaluate fuel b
      return .text ((← textOf x) ++ (← textOf y))
    | .both a b =>
      let x ← evaluate fuel a
      if !x.isTrue then return .ofBool false
      let y ← evaluate fuel b
      return .ofBool y.isTrue
    | .either a b =>
      let x ← evaluate fuel a
      if x.isTrue then return .ofBool true
      let y ← evaluate fuel b
      return .ofBool y.isTrue
    | .choice c a b =>
      let v ← evaluate fuel c
      if v.isTrue then evaluate fuel a else evaluate fuel b
    | .matching negated a p =>
      let text ← textOf (← evaluate fuel a)
      let r ← patternIn fuel p
      return .ofBool ((r.search text.toList.toArray 0).isSome != negated)
    | .member es table =>
      let k ← keyOf (← evaluateAll fuel es)
      let t ← tableNumber table
      return .ofBool (← onTable t fun table => table.find k)
    | .call f arguments => callFunction fuel f arguments
    | .apply b arguments =>
      match b, arguments with
      | .length, [.name n] =>
        let s ← getThe State
        let isLocalTable := s.locals.any fun l => l.1 == n && match l.2 with
          | .table _ => true
          | _ => false
        let isLocal := s.locals.any fun l => l.1 == n
        if isLocalTable || (!isLocal && isTable (← read).program "" n) then
          let t ← tableNumber n
          return .ofNat (← onTable t fun table => (table.size, table))
        else applyBuiltin b (← evaluateAll fuel arguments)
      | _, _ => applyBuiltin b (← evaluateAll fuel arguments)
    | .place a p =>
      let text ← textOf (← evaluate fuel a)
      let r ← patternIn fuel p
      match r.search text.toList.toArray 0 with
      | some f =>
        noteMatch (f.start + 1) (f.stop - f.start)
        return .ofNat (f.start + 1)
      | none =>
        noteMatch 0 (-1)
        return .ofNat 0
    | .split a table separator =>
      let text ← textOf (← evaluate fuel a)
      let separator ← match separator with
        | none => pure (← getThe State).separator
        | some (.pattern r) => pure (Separator.pattern r)
        | some e => do
          let s ← textOf (← evaluate fuel e)
          separatorOf s
      let parts := separator.split text
      let t ← tableNumber table
      onTable t fun _ => ((), .ofList (parts.map Value.input))
      return .ofNat parts.length
    | .substitute everywhere p replacement target =>
      let r ← patternIn fuel p
      let format ← textOf (← evaluate fuel replacement)
      let place ← match target with
        | some e => placeOf fuel e
        | none => pure (.field 0)
      let text ← textOf (← place.load)
      let (text, n) := Replacement.replace r (Replacement.read format.toList) everywhere text
      if n != 0 then place.store (.text text)
      return .ofNat n
    | .readRecord target =>
      let place ← match target with
        | some e => some <$> placeOf fuel e
        | none => pure none
      match ← nextRecord with
      | none => return .ofNat 0
      | some record =>
        match place with
        | some p => p.store (.input record)
        | none => setRecord record
        return .ofNat 1
    | .readFile target path =>
      let place ← match target with
        | some e => some <$> placeOf fuel e
        | none => pure none
      let name ← textOf (← evaluate fuel path)
      takeFrom false name place
    | .readCommand command target =>
      let name ← textOf (← evaluate fuel command)
      let place ← match target with
        | some e => some <$> placeOf fuel e
        | none => pure none
      takeFrom true name place

def evaluateAll : Nat → List Expr → Work (List Value)
  | 0, _ => stepsOut
  | _, [] => return []
  | fuel + 1, e :: es => do
    let v ← evaluate fuel e
    let vs ← evaluateAll fuel es
    return v :: vs

def patternIn : Nat → Expr → Work Regex
  | 0, _ => stepsOut
  | fuel + 1, e => do
    match e with
    | .pattern r => return r
    | e =>
      let text ← textOf (← evaluate fuel e)
      patternOf text

def placeOf : Nat → Expr → Work Place
  | 0, _ => stepsOut
  | fuel + 1, e => do
    match e with
    | .name n => return .named n
    | .fieldCount => return .fieldCount
    | .field i =>
      let n ← fieldNumber (← evaluate fuel i)
      return .field n
    | .element table es =>
      let k ← keyOf (← evaluateAll fuel es)
      return .element (← tableNumber table) k
    | e =>
      let _ ← evaluate fuel e
      return .named ""

def slotsOf (f : Function) : Nat → List String → List Expr → Work (List (String × Slot))
  | 0, _, _ => stepsOut
  | _, [], _ => return []
  | fuel + 1, p :: ps, es => do
    let slot ← if isTable (← read).program f.name p then
        Slot.table <$> tableOfArgument es.head?
      else
        match es with
        | e :: _ => Slot.value <$> evaluate fuel e
        | [] => pure (Slot.value .unset)
    let more ← slotsOf f fuel ps es.tail
    return (p, slot) :: more

def callFunction : Nat → String → List Expr → Work Value
  | 0, _, _ => stepsOut
  | fuel + 1, name, arguments => do
    match (← read).program.functions.find? fun f => f.name == name with
    | none => return .unset
    | some f =>
      tick
      let slots ← slotsOf f fuel f.parameters arguments
      let before := (← getThe State).locals
      modifyThe State fun s => { s with locals := slots }
      let restore : Work Unit := modifyThe State fun s => { s with locals := before }
      let result ← tryCatch (do
          performAll fuel f.body
          return Value.unset) fun ending =>
        match ending with
        | .back v => return v
        | e => throw e
      restore
      return result

def perform : Nat → Statement → Work Unit
  | 0, _ => stepsOut
  | fuel + 1, statement => do
    match statement with
    | .nothing => return
    | .block body => performAll fuel body
    | .expression e =>
      let _ ← evaluate fuel e
    | .print es target =>
      let text ← printedLine fuel es
      printTo fuel target text
    | .printf es target =>
      let vs ← evaluateAll fuel es
      let shape ← textOf (vs.headD .unset)
      match filledFormat (← form) "printf" shape vs.tail with
      | .ok text => printTo fuel target text
      | .error (text, e) =>
        printTo fuel target text
        fault e
    | .condition e yes no =>
      let v ← evaluate fuel e
      if v.isTrue then perform fuel yes
      else
        match no with
        | some no => perform fuel no
        | none => return
    | .loopWhile e body => repeatWhile fuel (some e) none body
    | .doWhile body e =>
      if ← performTurn fuel body then repeatWhile fuel (some e) none body
    | .forLoop start e next body =>
      match start with
      | some start =>
        let _ ← evaluate fuel start
      | none => pure ()
      repeatWhile fuel e next body
    | .forEach name table body =>
      let t ← tableNumber table
      let keys ← onTable t Table.keys
      forKeys fuel (.named name) keys body
    | .leave => throw .leave
    | .again => throw .again
    | .next => throw .next
    | .nextFile => throw .nextFile
    | .exit e =>
      match e with
      | some e =>
        let v ← evaluate fuel e
        throw (.exit ((toWhole v.toNumber) % 256).toNat)
      | none => throw (.exit 256)
    | .back e =>
      match e with
      | some e =>
        let v ← evaluate fuel e
        throw (.back v)
      | none => throw (.back .unset)
    | .erase table es =>
      let k ← keyOf (← evaluateAll fuel es)
      let t ← tableNumber table
      onTable t fun table => ((), table.erase k)
    | .clear table =>
      let t ← tableNumber table
      onTable t fun _ => ((), .empty)

def performAll : Nat → List Statement → Work Unit
  | 0, _ => stepsOut
  | _, [] => return
  | fuel + 1, s :: rest => do
    perform fuel s
    performAll fuel rest

def performTurn : Nat → Statement → Work Bool
  | 0, _ => stepsOut
  | fuel + 1, body => do
    tick
    tryCatch (do
        perform fuel body
        return true) fun ending =>
      match ending with
      | .leave => return false
      | .again => return true
      | e => throw e

def repeatWhile : Nat → Option Expr → Option Expr → Statement → Work Unit
  | 0, _, _, _ => stepsOut
  | fuel + 1, condition, next, body => do
    let holds ← match condition with
      | some e => do
        let v ← evaluate fuel e
        pure v.isTrue
      | none => pure true
    if holds then
      if ← performTurn fuel body then
        match next with
        | some e =>
          let _ ← evaluate fuel e
        | none => pure ()
        repeatWhile fuel condition next body

def forKeys : Nat → Place → List String → Statement → Work Unit
  | 0, _, _, _ => stepsOut
  | _, _, [], _ => return
  | fuel + 1, p, k :: ks, body => do
    p.store (.input k)
    if ← performTurn fuel body then forKeys fuel p ks body

def printedLine : Nat → List Expr → Work String
  | 0, _ => stepsOut
  | fuel + 1, es => do
    let stop ← textOf (← variableValue "ORS")
    if es.isEmpty then return (← wholeRecord) ++ stop
    let vs ← evaluateAll fuel es
    let between ← textOf (← variableValue "OFS")
    let shape ← textOf (← variableValue "OFMT")
    return String.intercalate between (vs.map fun v => v.toText shape) ++ stop

def printTo : Nat → Option (Outlet × Expr) → String → Work Unit
  | 0, _, _ => stepsOut
  | fuel + 1, target, text => do
    match target with
    | none => emitText text
    | some (o, e) =>
      let name ← textOf (← evaluate fuel e)
      writeTo o name text

end

/-- Whether a rule selects the record. Its place tells ranges apart. -/
def selects (place : Nat) (s : Selection) : Work Bool := do
  match s with
  | .always => return true
  | .start | .finish => return false
  | .holding e =>
    let v ← evaluate depthLimit e
    return v.isTrue
  | .range first last =>
    let isOpen := (← getThe State).ranges.contains place
    if !isOpen then
      let v ← evaluate depthLimit first
      if !v.isTrue then return false
    let v ← evaluate depthLimit last
    modifyThe State fun s => { s with
      ranges := if v.isTrue then s.ranges.filter (· != place)
        else if isOpen then s.ranges else place :: s.ranges }
    return true

def performRules : List (Nat × Rule) → Work Unit
  | [] => return
  | (place, r) :: rest => do
    if ← selects place r.selection then performAll depthLimit r.body
    performRules rest

def performRecords (rules : List (Nat × Rule)) : Nat → Work Unit
  | 0 => stepsOut
  | fuel + 1 => do
    match ← nextRecord with
    | none => return
    | some record =>
      tick
      setRecord record
      tryCatch (performRules rules) fun ending =>
        match ending with
        | .next => return
        | .nextFile =>
          modifyThe State fun s => { s with
            current := s.current.map fun x => { x with place := x.text.size } }
        | e => throw e
      performRecords rules fuel

end Assay.Utility.Awk
