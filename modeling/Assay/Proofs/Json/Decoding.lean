import Assay.Document.Reader
import Assay.Proofs.Json.Presentation

/-!
# What decoding accepts

Each decoder of the reader succeeds exactly on the trees that present its
result. Which failure it ends with otherwise is not said here.
-/

set_option autoImplicit false

namespace Assay

open Json (Node Items Members Failure)

namespace Json

section

variable {ε α β : Type}

theorem bind_eq_ok_iff (x : Except ε α) (f : α → Except ε β) (b : β) :
    (x >>= f) = .ok b ↔ ∃ a, x = .ok a ∧ f a = .ok b := by
  cases x <;> simp [bind, Except.bind]

theorem map_eq_ok_iff (x : Except ε α) (f : α → β) (b : β) :
    x.map f = .ok b ↔ ∃ a, x = .ok a ∧ f a = b := by
  cases x <;> simp [Except.map]

theorem pure_eq_ok_iff (a b : α) : (pure a : Except ε α) = .ok b ↔ a = b := by
  simp [pure, Except.pure]

end

theorem cons_eq_text_iff (c : Char) (s : Spelling) (cs : List Char) :
    s.cons c = .text cs ↔ ∃ more, s = .text more ∧ cs = c :: more := by
  cases s <;> simp [Spelling.cons, eq_comm]

theorem spell_eq_text_iff (units : List StringUnit) (cs : List Char) :
    spell units = .text cs ↔ UnitsText units cs := by
  constructor
  · intro h
    fun_induction spell units generalizing cs with
    | case1 =>
      obtain rfl : [] = cs := by simpa using h
      exact .nil
    | case2 c rest ih =>
      obtain ⟨more, hmore, rfl⟩ := (cons_eq_text_iff _ _ _).mp h
      exact .char c (ih _ hmore)
    | case3 => simp at h
    | case4 => simp at h
    | case5 n hlow hhigh m tail hm ih =>
      obtain ⟨more, hmore, rfl⟩ := (cons_eq_text_iff _ _ _).mp h
      exact .pair (by simpa [isHighSurrogate] using hhigh) (by simpa [isLowSurrogate] using hm)
        (ih _ hmore)
    | case6 => simp at h
    | case7 => simp at h
    | case8 n rest hlow hhigh ih =>
      obtain ⟨more, hmore, rfl⟩ := (cons_eq_text_iff _ _ _).mp h
      have hn : n < 0xd800 ∨ 0xdfff < n := by
        simp only [isLowSurrogate, isHighSurrogate, decide_eq_true_eq, not_and, Nat.not_le]
          at hlow hhigh
        omega
      exact .code hn (ih _ hmore)
  · intro h
    induction h with
    | nil => rfl
    | char c h ih => simp [spell, ih, Spelling.cons]
    | @code n units cs hn h ih =>
      have hlow : isLowSurrogate n = false := decide_eq_false (by omega)
      have hhigh : isHighSurrogate n = false := decide_eq_false (by omega)
      rw [spell.eq_def]
      simp [hlow, hhigh, ih, Spelling.cons]
    | @pair high low units cs hhigh hlow h ih =>
      have hfirst : isLowSurrogate high = false := decide_eq_false (by omega)
      have hsecond : isHighSurrogate high = true := decide_eq_true hhigh
      have hthird : isLowSurrogate low = true := decide_eq_true hlow
      rw [spell]
      simp [hfirst, hsecond, hthird, ih, Spelling.cons, pairSurrogates]

theorem unitsText?_eq_some_iff (units : List StringUnit) (s : String) :
    unitsText? units = some s ↔ UnitsText units s.toList := by
  rw [← spell_eq_text_iff]
  unfold unitsText?
  split
  · rename_i cs h
    rw [h]
    constructor
    · intro hs
      obtain rfl := Option.some.inj hs
      simp
    · intro hs
      simp only [Spelling.text.injEq] at hs
      rw [hs, String.ofList_toList]
  · rename_i hne
    simpa using fun h => hne _ h

theorem readUnits_eq_ok_iff (units : List StringUnit) (s : String) :
    readUnits units = .ok s ↔ UnitsText units s.toList := by
  rw [← unitsText?_eq_some_iff]
  unfold readUnits
  cases unitsText? units <;> simp

theorem readNumeral_eq_ok_iff (n : Numeral) (v : Number) :
    readNumeral n = .ok v ↔ n.value? = some v := by
  unfold readNumeral
  cases n.value? <;> simp

theorem Node.unwanted_ne_ok {α : Type} (expected : String) (node : Node) (a : α) :
    node.unwanted expected ≠ .ok a := by
  unfold unwanted
  cases node.found <;> simp

/-- The decoder succeeds exactly where the relation holds, with what is related. -/
def Accepts {α : Type} (f : Node → Except Failure α) (R : Node → α → Prop) : Prop :=
  ∀ node a, f node = .ok a ↔ R node a

theorem Node.toText_accepts (expected : String) : Accepts (toText expected) IsText := by
  intro node s
  unfold toText
  split
  · rename_i units
    rw [readUnits_eq_ok_iff]
    exact ⟨.intro, fun h => by cases h; assumption⟩
  · rename_i hne
    constructor
    · exact fun h => absurd h (unwanted_ne_ok _ _ _)
    · rintro ⟨h⟩
      exact absurd rfl (hne _)

theorem Node.toBinary64_accepts : Accepts toBinary64 IsNumber := by
  intro node x
  unfold toBinary64
  split
  · rename_i n
    rw [map_eq_ok_iff]
    constructor
    · rintro ⟨v, hv, rfl⟩
      exact .intro ((readNumeral_eq_ok_iff _ _).mp hv)
    · rintro ⟨hv⟩
      exact ⟨_, (readNumeral_eq_ok_iff _ _).mpr hv, rfl⟩
  · rename_i hne
    constructor
    · exact fun h => absurd h (unwanted_ne_ok _ _ _)
    · rintro ⟨h⟩
      exact absurd rfl (hne _)

theorem Node.toBinary64?_accepts : Accepts toBinary64? IsOptional := by
  intro node o
  unfold toBinary64?
  split
  · constructor
    · intro h
      obtain rfl : none = o := by simpa using h
      exact .null
    · intro h
      cases h with
      | null => rfl
      | number h => cases h
  · rename_i hne
    rw [map_eq_ok_iff]
    constructor
    · rintro ⟨x, hx, rfl⟩
      exact .number ((toBinary64_accepts _ _).mp hx)
    · intro h
      cases h with
      | null => exact absurd rfl hne
      | number h => exact ⟨_, (toBinary64_accepts _ _).mpr h, rfl⟩

namespace Items

variable {α : Type}

theorem decode_eq_ok_iff {f : Node → Except Failure α} {R : Node → α → Prop} (hf : Accepts f R)
    (items : Items) (xs : List α) :
    items.decode f = .ok xs ↔ ∃ nodes, items.Lists nodes ∧ List.Forall₂ R nodes xs := by
  fun_induction decode f items generalizing xs with
  | case1 =>
    constructor
    · intro h
      obtain rfl : [] = xs := by simpa using h
      exact ⟨[], .closed, .nil⟩
    · rintro ⟨nodes, hlists, hall⟩
      cases hlists
      cases hall
      rfl
  | case2 e =>
    constructor
    · intro h
      simp at h
    · rintro ⟨nodes, hlists, -⟩
      cases hlists
  | case3 node rest ih =>
    simp only [bind_eq_ok_iff, pure_eq_ok_iff, ih, hf node]
    constructor
    · rintro ⟨a, ha, more, ⟨nodes, hlists, hall⟩, rfl⟩
      exact ⟨node :: nodes, .item node hlists, .cons ha hall⟩
    · rintro ⟨nodes, hlists, hall⟩
      cases hlists with
      | item _ hlists =>
        cases hall with
        | cons ha hall => exact ⟨_, ha, _, ⟨_, hlists, hall⟩, rfl⟩

end Items

namespace Items

variable {α : Type} {f : Node → Except Failure α} {R : Node → α → Prop}

theorem lists_of_next (hf : Accepts f R) {items rest : Items} {o : Option α} {more : List Node}
    (h : items.next f = .ok (o, rest)) (hrest : rest.Lists more) :
    ∃ nodes, items.Lists nodes ∧ nodes.tail = more ∧ Taken R nodes.head? o := by
  cases items with
  | closed =>
    simp only [next, Except.ok.injEq, Prod.mk.injEq] at h
    obtain ⟨rfl, rfl⟩ := h
    cases hrest
    exact ⟨[], .closed, rfl, rfl⟩
  | broken e => simp [next] at h
  | item node tail =>
    obtain ⟨a, ha, heq⟩ := (map_eq_ok_iff _ _ _).mp h
    obtain ⟨rfl, rfl⟩ := Prod.mk.inj heq
    exact ⟨node :: more, .item node hrest, rfl, a, (hf _ _).mp ha, rfl⟩

theorem next_of_lists (hf : Accepts f R) {items : Items} {nodes : List Node} {k : Nat}
    {o : Option α} (h : items.Lists (nodes.drop k)) (ho : Taken R nodes[k]? o) :
    ∃ rest, items.next f = .ok (o, rest) ∧ rest.Lists (nodes.drop (k + 1)) := by
  rw [← List.head?_drop] at ho
  rw [← List.tail_drop]
  generalize nodes.drop k = more at h ho ⊢
  cases h with
  | closed =>
    obtain rfl : o = none := ho
    exact ⟨.closed, rfl, .closed⟩
  | item node h =>
    obtain ⟨a, ha, rfl⟩ := ho
    exact ⟨_, (map_eq_ok_iff _ _ _).mpr ⟨a, (hf _ _).mpr ha, rfl⟩, h⟩

theorem require_eq_ok_iff (index : Nat) (expected : String)
    (items rest : Items) (a : α) :
    items.require f index expected = .ok (a, rest) ↔ items.next f = .ok (some a, rest) := by
  unfold require
  cases h : items.next f with
  | error e => simp [bind, Except.bind]
  | ok p =>
    obtain ⟨_ | b, tail⟩ := p <;> simp [bind, Except.bind, pure, Except.pure, throw, throwThe,
      MonadExceptOf.throw]

theorem finish_eq_ok_iff (items : Items) : items.finish = .ok () ↔ items.Lists [] := by
  cases items with
  | closed => simpa [finish] using Lists.closed
  | broken e =>
    constructor
    · intro h
      simp [finish] at h
    · intro h
      cases h
  | item node rest =>
    constructor
    · intro h
      simp [finish] at h
    · intro h
      cases h

end Items

namespace Members

variable {σ : Type}

theorem fold_eq_ok_iff (step : σ → String → Node → Except Failure σ) (s t : σ)
    (members : Members) :
    members.fold step s = .ok t ↔
      ∃ pairs, members.Names pairs ∧ pairs.foldlM (fun s p => step s p.1 p.2) s = .ok t := by
  fun_induction fold step s members with
  | case1 s =>
    constructor
    · exact fun h => ⟨[], .closed, h⟩
    · rintro ⟨pairs, hnames, h⟩
      cases hnames
      exact h
  | case2 s e =>
    constructor
    · intro h
      simp at h
    · rintro ⟨pairs, hnames, -⟩
      cases hnames
  | case3 s units =>
    constructor
    · intro h
      simp at h
    · rintro ⟨pairs, hnames, -⟩
      cases hnames
  | case4 s key value rest ih =>
    simp only [bind_eq_ok_iff, readUnits_eq_ok_iff, ih]
    constructor
    · rintro ⟨name, hkey, next, hnext, pairs, hnames, hfold⟩
      refine ⟨(name, value) :: pairs, .member value hkey hnames, ?_⟩
      exact (bind_eq_ok_iff _ _ _).mpr ⟨next, hnext, hfold⟩
    · rintro ⟨pairs, hnames, hfold⟩
      cases hnames with
      | member _ hkey hnames =>
        obtain ⟨next, hnext, hmore⟩ := (bind_eq_ok_iff _ _ _).mp hfold
        exact ⟨_, hkey, next, hnext, _, hnames, hmore⟩

end Members

section

variable {α : Type}

/-- One member taken in by the field of a name: its own once, the others not at all. -/
def Advances (name : String) (R : Node → α → Prop) (sofar : Option α) (p : String × Node)
    (next : Option α) : Prop :=
  if p.1 = name then sofar = none ∧ ∃ a, R p.2 a ∧ next = some a else sofar = next

/-- What the field of a name holds after some members. -/
def Gathers (name : String) (R : Node → α → Prop) :
    Option α → List (String × Node) → Option α → Prop
  | sofar, [], o => sofar = o
  | sofar, p :: pairs, o => ∃ next, Advances name R sofar p next ∧ Gathers name R next pairs o

theorem advances_other {name key : String} (h : key ≠ name) (R : Node → α → Prop)
    (sofar next : Option α) (node : Node) :
    Advances name R sofar (key, node) next ↔ sofar = next := by
  simp [Advances, h]

theorem takeField_eq_ok_iff {f : Node → Except Failure α} {R : Node → α → Prop}
    (hf : Accepts f R) (name : String) (sofar next : Option α) (node : Node) :
    takeField name sofar f node = .ok next ↔ Advances name R sofar (name, node) next := by
  cases sofar with
  | some a => simp [takeField, Advances]
  | none =>
    rw [takeField, map_eq_ok_iff]
    simp [Advances, hf node, eq_comm]

theorem setField_eq_ok_iff {σ : Type} {f : Node → Except Failure α} {R : Node → α → Prop}
    (hf : Accepts f R) (name : String) (sofar : Option α) (node : Node) (set : Option α → σ)
    (t : σ) :
    (do return set (← takeField name sofar f node)) = .ok t ↔
      ∃ next, Advances name R sofar (name, node) next ∧ set next = t := by
  simp only [bind_eq_ok_iff, pure_eq_ok_iff, takeField_eq_ok_iff hf]

theorem skipMember_eq_ok_iff {σ : Type} (value : Node) (s t : σ) :
    (do value.skip; return s : Except Failure σ) = .ok t ↔ value.WellFormed ∧ s = t := by
  rw [← Node.skip_eq_ok_iff, bind_eq_ok_iff]
  simp only [pure_eq_ok_iff]
  constructor
  · rintro ⟨⟨⟩, hskip, h⟩
    exact ⟨hskip, h⟩
  · rintro ⟨hskip, h⟩
    exact ⟨(), hskip, h⟩

theorem requireField_eq_ok_iff (name : String) (o : Option α) (a : α) :
    requireField name o = .ok a ↔ o = some a := by
  cases o <;> simp [requireField]

theorem gathers_some_iff (name : String) (R : Node → α → Prop) (a : α)
    (pairs : List (String × Node)) (o : Option α) :
    Gathers name R (some a) pairs o ↔ name ∉ pairs.map Prod.fst ∧ o = some a := by
  induction pairs with
  | nil => simp [Gathers, eq_comm]
  | cons p pairs ih =>
    by_cases hp : p.1 = name
    · simp [Gathers, Advances, hp]
    · simp [Gathers, Advances, hp, ih, Ne.symm hp]

theorem gathers_none_iff (name : String) (R : Node → α → Prop) (pairs : List (String × Node))
    (o : Option α) :
    Gathers name R none pairs o ↔ AtMostOnce name pairs ∧ Taken R (pairs.lookup name) o := by
  unfold AtMostOnce
  induction pairs with
  | nil => simp [Gathers, Taken, eq_comm]
  | cons p pairs ih =>
    obtain ⟨key, node⟩ := p
    by_cases hp : key = name
    · subst hp
      have hcount : (pairs.map Prod.fst).count key + 1 ≤ 1 ↔ key ∉ pairs.map Prod.fst := by
        rw [← List.count_eq_zero]
        omega
      simp only [List.map_cons, List.count_cons_self, hcount, List.lookup_cons_self, Gathers,
        Advances, if_true, Taken]
      constructor
      · rintro ⟨next, ⟨-, a, ha, rfl⟩, hmore⟩
        obtain ⟨hmem, rfl⟩ := (gathers_some_iff _ _ _ _ _).mp hmore
        exact ⟨hmem, a, ha, rfl⟩
      · rintro ⟨hmem, a, ha, rfl⟩
        exact ⟨some a, ⟨trivial, a, ha, rfl⟩, (gathers_some_iff _ _ _ _ _).mpr ⟨hmem, rfl⟩⟩
    · have hlookup : List.lookup name ((key, node) :: pairs) = pairs.lookup name := by
        have hbeq : (name == key) = false := by simpa using Ne.symm hp
        rw [List.lookup_cons, hbeq]
      simp [Gathers, Advances, hp, hlookup, ih]

end

end Json

theorem nodeList_accepts {α : Type} {f : Nat → Node → Except Failure α} {depth : Nat}
    {R : Node → α → Prop} (hf : Json.Accepts (f depth) R) :
    Json.Accepts (nodeList f (depth + 1)) (Node.IsList R) := by
  intro node xs
  cases node with
  | array items =>
    rw [nodeList, Items.decode_eq_ok_iff hf]
    constructor
    · rintro ⟨nodes, hlists, hall⟩
      exact .intro hlists hall
    · rintro ⟨hlists, hall⟩
      exact ⟨_, hlists, hall⟩
  | _ =>
    constructor
    · intro h
      simp [nodeList, Node.unwanted_ne_ok] at h
    · rintro ⟨⟩

theorem nodeRecord_accepts {α : Type} {expected : String}
    {ofMembers : Nat → Members → Except Failure α} {ofItems : Nat → Items → Except Failure α}
    {depth : Nat} {declared : List String} {P : (String → Option Node) → α → Prop}
    (hmembers : ∀ members a, ofMembers depth members = .ok a ↔
      ∃ pairs, members.Names pairs ∧ (∀ name ∈ declared, Json.AtMostOnce name pairs) ∧
        (∀ p ∈ pairs, p.1 ∉ declared → p.2.WellFormed) ∧ P (fun name => pairs.lookup name) a)
    (hitems : ∀ items a, ofItems depth items = .ok a ↔
      ∃ nodes, items.Lists nodes ∧ nodes.length ≤ declared.length ∧
        P (fun name => nodes[declared.idxOf name]?) a) :
    Json.Accepts (nodeRecord expected ofMembers ofItems (depth + 1)) fun node a =>
      ∃ fields, node.IsRecord declared fields ∧ P fields a := by
  intro node a
  cases node with
  | array items =>
    rw [nodeRecord, hitems]
    constructor
    · rintro ⟨nodes, hlists, hlength, hfields⟩
      exact ⟨_, .array hlists hlength, hfields⟩
    · rintro ⟨fields, hrecord, hfields⟩
      cases hrecord with
      | array hlists hlength => exact ⟨_, hlists, hlength, hfields⟩
  | object members =>
    rw [nodeRecord, hmembers]
    constructor
    · rintro ⟨pairs, hnames, honce, hother, hfields⟩
      exact ⟨_, .object hnames honce hother, hfields⟩
    · rintro ⟨fields, hrecord, hfields⟩
      cases hrecord with
      | object hnames honce hother => exact ⟨_, hnames, honce, hother, hfields⟩
  | _ =>
    constructor
    · intro h
      simp [nodeRecord, Node.unwanted_ne_ok] at h
    · rintro ⟨fields, ⟨⟩, -⟩

end Assay
