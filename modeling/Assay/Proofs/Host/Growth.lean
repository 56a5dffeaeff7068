import Assay.Proofs.Host.Tree

/-!
# Trees that grow

A tree grows when something is put where nothing stood, and when a file in it is
written anew. All that stood somewhere stays there and is as it was, but for the
nodes that were written. A path that leads somewhere still leads there, and where a
file was put no path leads anywhere else than before, or to the file.
-/

set_option autoImplicit false

namespace Assay

namespace FileTree

open FileTable (at?_eq_some node?)

variable {t t' t'' : FileTree} {p q : Place} {e : Entry} {touched touched' : Nat → Prop}
  {made made' : Place → Prop}

/-- A tree has grown: of what was there some nodes may be changed, and what is new stands alone at
places of its own. -/
structure Grows (t t' : FileTree) (touched : Nat → Prop) (made : Place → Prop) : Prop where
  keeps : Keeps t t'
  ordinary : ∀ q e, t'.at? q = some e → t.at? q = some e ∨ e.isFolder = true ∨ e.isRegular = true
  stands : ∀ q n, t.number? q = some n → t'.number? q = some n
  holds : ∀ n < t.nodes.size, ¬ touched n → t'.nodes[n]? = t.nodes[n]?
  fresh : ∀ q n, t.number? q = none → t'.number? q = some n → made q ∧ t.nodes.size ≤ n
  alone : ∀ q q' n, t'.number? q = some n → t'.number? q' = some n → t.nodes.size ≤ n → q = q'
  larger : t.nodes.size ≤ t'.nodes.size

namespace Grows

theorem number?_back (h : Grows t t' touched made) {n : Nat} (hn : n < t.nodes.size)
    (hq : t'.number? q = some n) : t.number? q = some n := by
  cases hold : t.number? q with
  | none => exact absurd (h.fresh q n hold hq).2 (Nat.not_le.2 hn)
  | some k => rw [← hq, h.stands q k hold]

theorem refl (t : FileTree) : Grows t t (fun _ => False) (fun _ => False) where
  keeps := .refl t
  ordinary _ _ h := .inl h
  stands _ _ h := h
  holds _ _ _ := rfl
  fresh q n hnone hsome := by
    rw [hnone] at hsome
    cases hsome
  alone q _ n hq _ hn := absurd (lt_of_number? hq) (Nat.not_lt.2 hn)
  larger := Nat.le_refl _

theorem imp (h : Grows t t' touched made) (ht : ∀ n < t.nodes.size, touched n → touched' n)
    (hm : ∀ q, made q → made' q) : Grows t t' touched' made' where
  keeps := h.keeps
  ordinary := h.ordinary
  stands := h.stands
  holds n hn hnot := h.holds n hn fun htouched => hnot (ht n hn htouched)
  fresh q n hnone hsome := ⟨hm q (h.fresh q n hnone hsome).1, (h.fresh q n hnone hsome).2⟩
  alone := h.alone
  larger := h.larger

theorem trans (h : Grows t t' touched made) (h' : Grows t' t'' touched' made') :
    Grows t t'' (fun n => touched n ∨ touched' n) (fun q => made q ∨ made' q) where
  keeps := h.keeps.trans h'.keeps
  ordinary q e hq := (h'.ordinary q e hq).elim (h.ordinary q e) .inr
  stands q n hq := h'.stands q n (h.stands q n hq)
  holds n hn hnot := by
    rw [h'.holds n (Nat.lt_of_lt_of_le hn h.larger) fun ht => hnot (.inr ht),
      h.holds n hn fun ht => hnot (.inl ht)]
  fresh q n hnone hsome := by
    cases hmid : t'.number? q with
    | none =>
      obtain ⟨hmade, hn⟩ := h'.fresh q n hmid hsome
      exact ⟨.inr hmade, Nat.le_trans h.larger hn⟩
    | some k =>
      obtain ⟨hmade, hk⟩ := h.fresh q k hnone hmid
      rw [h'.stands q k hmid] at hsome
      cases hsome
      exact ⟨.inl hmade, hk⟩
  alone q q' n hq hq' hn := by
    by_cases hnew : t'.nodes.size ≤ n
    · exact h'.alone q q' n hq hq' hnew
    · have hlt := Nat.lt_of_not_le hnew
      exact h.alone q q' n (h'.number?_back hlt hq) (h'.number?_back hlt hq') hn
  larger := Nat.le_trans h.larger h'.larger

theorem linkFree (h : Grows t t' touched made) (hq : t.LinkFree q) : t'.LinkFree q := by
  intro front hfront target hlink
  rcases h.ordinary front _ hlink with hold | hnew | hnew
  · exact hq front hfront target hold
  · cases hnew
  · cases hnew

theorem node?_eq (h : Grows t t' touched made) {n : Nat} (hq : t.number? q = some n)
    (hn : ¬ touched n) : t'.node? q = t.node? q := by
  rw [node?, node?, h.stands q n hq, hq, Option.bind_some, Option.bind_some,
    h.holds n (lt_of_number? hq) hn]

end Grows

/-! ## Putting something where nothing stood -/

theorem grows_put {n : Inode} (hp : t.Vacant p)
    (hn : n.entry.isFolder = true ∨ n.entry.isRegular = true) :
    Grows t (t.put p n) (fun _ => False) (· = p) where
  keeps := keeps_put hp n
  ordinary q e hq := by
    rw [at?_put hp] at hq
    split at hq
    · cases hq
      exact .inr hn
    · exact .inl hq
  stands q k hq := by
    rw [number?_put hp, if_neg, hq]
    rintro rfl
    rw [number?_eq_none hp.free] at hq
    cases hq
  holds k hk _ := by
    rw [nodes_put hp, Array.getElem?_push, if_neg (Nat.ne_of_lt hk)]
  fresh q k hnone hsome := by
    rw [number?_put hp] at hsome
    split at hsome
    · cases hsome
      exact ⟨‹_›, Nat.le_refl _⟩
    · rw [hnone] at hsome
      cases hsome
  alone q q' k hq hq' hk := by
    have hplace : ∀ {r}, (t.put p n).number? r = some k → r = p := by
      intro r hr
      rw [number?_put hp] at hr
      split at hr
      · assumption
      · exact absurd (lt_of_number? hr) (Nat.not_lt.2 hk)
    rw [hplace hq, hplace hq']
  larger := by simp [nodes_put hp]

section NewFile

variable (hp : t.at? p = none) (he : e.isFolder = false) (hlink : e.isLink = false)
  (hat : ∀ q, t'.at? q = if q = p then some e else t.at? q)
include hp he hlink hat

theorem stride_new (last : Bool) (here : Place) (rest : List String) :
    t'.stride last here rest = t.stride last here rest ∨
      t.stride last here rest = .failed .notFound ∧
        (t'.stride last here rest = .arrived p ∨
          t'.stride last here rest = .failed (.system .notADirectory)) := by
  induction rest generalizing here with
  | nil =>
    by_cases hhere : here = p
    · have hnew : t'.at? here = some e := by rw [hat, if_pos hhere]
      rw [stride_nil last hnew, hhere, stride_of_missing last hp]
      exact .inr ⟨rfl, .inl rfl⟩
    · left
      rw [stride, stride, node?_isSome, node?_isSome, hat, if_neg hhere]
  | cons part rest ih =>
    by_cases hhere : here = p
    · have hnew : t'.at? here = some e := by rw [hat, if_pos hhere]
      rw [stride_of_file _ hnew he, hhere, stride_of_missing last hp]
      exact .inr ⟨rfl, .inr rfl⟩
    · have hsame : t'.at? here = t.at? here := by rw [hat, if_neg hhere]
      rcases t.at?_cases here with hold | hold | ⟨entry, hold, hfile⟩
      · rw [stride_of_missing last hold, stride_of_missing last (hsame.trans hold)]
        exact .inl rfl
      · have hnew := hsame.trans hold
        cases t.step_cases here part with
        | stay hdot =>
          rw [stride_stay rest hold hdot, stride_stay rest hnew hdot]
          exact ih here
        | up hdot hup =>
          rw [stride_up rest hold hdot hup, stride_up rest hnew hdot hup]
          exact ih here.dropLast
        | long hdot hup hlong =>
          rw [stride_long rest hold hdot hup hlong, stride_long rest hnew hdot hup hlong]
          exact .inl rfl
        | link hname htarget =>
          have hplace : here ++ [part] ≠ p := by
            intro hplace
            rw [hplace, hp] at htarget
            cases htarget
          rw [stride_link rest hold hname htarget,
            stride_link rest hnew hname (by rw [hat, if_neg hplace, htarget])]
          exact .inl rfl
        | onward hname hnext =>
          rw [stride_onward rest hold hname hnext, stride_onward rest hnew hname]
          · exact ih (here ++ [part])
          · intro entry hentry
            rw [hat] at hentry
            split at hentry
            · cases hentry
              exact hlink
            · exact hnext entry hentry
      · rw [stride_of_file rest hold hfile, stride_of_file rest (hsame.trans hold) hfile]
        exact .inl rfl

theorem walk_new (last : Bool) (links : Nat) (here : Place) (rest : List String) :
    t'.walk last links here rest = t.walk last links here rest ∨
      t.walk last links here rest = .error .notFound ∧
        (t'.walk last links here rest = .ok p ∨
          t'.walk last links here rest = .error (.system .notADirectory)) := by
  induction links generalizing here rest with
  | zero => exact .inl rfl
  | succ links ih =>
    rw [walk, walk]
    rcases stride_new hp he hlink hat last here rest with hsame | ⟨hold, hnew | hnew⟩
    · rw [hsame]
      cases t.stride last here rest with
      | arrived r => exact .inl rfl
      | failed e => exact .inl rfl
      | link folder target more => exact ih _ _
    · rw [hold, hnew]
      exact .inr ⟨rfl, .inl rfl⟩
    · rw [hold, hnew]
      exact .inr ⟨rfl, .inr rfl⟩

end NewFile

/-! ## Writing a file anew -/

section Rewritten

variable {number : Nat} (m : Making) (content : Bytes) (h : t.entryOf? number = some e)
include h

theorem rewrite_of_not_regular (he : e.isRegular = false) (f : Bytes → Bytes) :
    t.rewrite m number f = t := by
  refine FileTree.ext rfl (Array.ext_getElem? ?_)
  intro n
  rw [nodes_rewrite, Array.getElem?_modify]
  by_cases hn : number = n
  · subst hn
    obtain ⟨node, hnode, rfl⟩ := Option.map_eq_some_iff.1 h
    rw [if_pos rfl, hnode, Option.map_some, rewritten]
    cases hentry : node.entry <;> simp_all [Entry.isRegular]
  · rw [if_neg hn]

variable (he : e.isRegular = true)
include he

theorem rewrite_keeps_back : Keeps (t.rewrite m number fun _ => content) t := by
  have hat := at?_rewrite m content h he
  constructor
  · intro q hq
    rw [hat] at hq
    split at hq
    · cases hq
    · exact hq
  · intro q target hq
    rw [hat] at hq
    split at hq
    · cases hq
    · exact hq
  · intro q e' hq he'
    rw [hat] at hq
    split at hq
    · rename_i hnumber
      refine ⟨e, at?_eq_some.2 ⟨number, hnumber, h⟩, ?_⟩
      cases e with
      | link target => cases he
      | _ => rfl
    · exact ⟨e', hq, he'⟩

theorem grows_rewrite :
    Grows t (t.rewrite m number fun _ => content) (· = number) (fun _ => False) where
  keeps := keeps_rewrite m content h he
  ordinary q e' hq := by
    rw [at?_rewrite m content h he] at hq
    split at hq
    · cases hq
      exact .inr (.inr rfl)
    · exact .inl hq
  stands _ _ hq := hq
  holds n hn hne := by
    rw [nodes_rewrite, Array.getElem?_modify, if_neg (Ne.symm hne)]
  fresh := (Grows.refl t).fresh
  alone := (Grows.refl t).alone
  larger := by simp [nodes_rewrite]

end Rewritten

end FileTree

end Assay
