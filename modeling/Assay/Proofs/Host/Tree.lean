import Mathlib.Data.List.Nodup
import Assay.Proofs.Host.Parts
import Assay.Proofs.Host.Written

/-!
# Ways that arrive

A path that leads somewhere leads to something that is no link. The names of a place
lead there, if no link stands on the way. Two trees that differ only in the order of
what is in their folders are the same to whoever follows a path.
-/

set_option autoImplicit false

namespace Assay

open Json (bind_eq_ok_iff)

namespace FileTree

open FileTable (IsFileName IsName at? mem_of_number? node?)

variable {t t' : FileTree} {p q : Place} {e : Entry}

theorem number?_of_mem {n : Nat} (h : (p, n) ∈ t.names) : t.number? p = some n :=
  FileTable.number?_of_mem t.isTree.distinct h

theorem childName_iff {name : String} :
    (match q.getLast? with
      | some last => if q.dropLast = p then some last else none
      | none => none) = some name ↔ q = p ++ [name] := by
  constructor
  · intro h
    split at h
    · rename_i last hlast
      obtain ⟨above, rfl⟩ := List.getLast?_eq_some_iff.1 hlast
      split_ifs at h with hfolder
      rw [List.dropLast_concat] at hfolder
      cases h
      rw [hfolder]
    · cases h
  · rintro rfl
    simp

theorem mem_childNames {name : String} :
    name ∈ t.childNames p ↔ ∃ n, (p ++ [name], n) ∈ t.names := by
  rw [childNames, List.mem_filterMap]
  constructor
  · rintro ⟨⟨q, n⟩, hmem, hname⟩
    exact ⟨n, childName_iff.1 hname ▸ hmem⟩
  · rintro ⟨n, hmem⟩
    exact ⟨_, hmem, childName_iff.2 rfl⟩

theorem nodup_childNames (t : FileTree) (p : Place) : (t.childNames p).Nodup := by
  have hplaces : t.names.Pairwise fun e e' => e.1 ≠ e'.1 := List.pairwise_map.1 t.isTree.distinct
  rw [childNames, List.Nodup, List.pairwise_filterMap]
  apply hplaces.imp
  rintro e e' hne name hname _ hname' rfl
  exact hne ((childName_iff.1 hname).trans (childName_iff.1 hname').symm)

/-! ## Where a way arrives -/

theorem resolve_eq_ok_iff {folder : Place} {path : String} :
    t.resolve folder path = .ok p ↔ Path.holdsNul path = false ∧ path ≠ "" ∧
      t.walk true (linkLimit + 1) (start folder path) (parts path) = .ok p := by
  rw [resolve, follow]
  split_ifs with hnul hempty
  · simp [hnul]
  · simp [hempty]
  · simp [hnul, hempty]

theorem walk_or {last : Bool} {k : Nat} {here : Place} {rest : List String}
    (h : t.walk last k here rest = .ok p) (k' : Nat) :
    t.walk last k' here rest = .ok p ∨
      t.walk last k' here rest = .error (.system .tooManyLinks) := by
  induction k' generalizing k here rest with
  | zero => exact .inr rfl
  | succ k' ih =>
    cases k with
    | zero => cases h
    | succ k =>
      rw [walk] at h ⊢
      cases hway : t.stride last here rest with
      | arrived r =>
        rw [hway] at h
        exact .inl h
      | failed e =>
        rw [hway] at h
        cases h
      | link folder target more =>
        rw [hway] at h
        exact ih h

theorem walk_append_link {links more : Nat} {here folder : Place} {a b rest : List String}
    {target : String} (ha : t.walk true links here a = .ok q)
    (hb : t.stride true q b = .link folder target rest)
    (hmore : t.walk true more (start folder target) (parts target ++ rest) = .ok p) :
    ∃ k, t.walk true k here (a ++ b) = .ok p := by
  induction links generalizing here a with
  | zero => cases ha
  | succ links ih =>
    rw [walk] at ha
    cases hway : t.stride true here a with
    | arrived r =>
      rw [hway] at ha
      cases ha
      refine ⟨more + 1, ?_⟩
      rw [walk, stride_append, hway, Stride.onward, hb]
      exact hmore
    | failed e =>
      rw [hway] at ha
      cases ha
    | link folder' target' more' =>
      rw [hway] at ha
      obtain ⟨k, hk⟩ := ih ha
      refine ⟨k + 1, ?_⟩
      rw [walk, stride_append, hway]
      simp only [Stride.onward]
      rw [← List.append_assoc]
      exact hk

theorem stride_arrives {here : Place} {rest : List String}
    (h : t.stride true here rest = .arrived q)
    (hrest : rest ≠ [] ∨ ∀ e, t.at? here = some e → e.isLink = false) :
    ∃ e, t.at? q = some e ∧ e.isLink = false := by
  induction rest generalizing here with
  | nil =>
    cases hhere : t.at? here with
    | none =>
      rw [stride_of_missing true hhere] at h
      cases h
    | some e =>
      rw [stride_nil true hhere] at h
      cases h
      exact ⟨e, hhere, hrest.resolve_left (by simp) e hhere⟩
  | cons part rest ih =>
    have hfolder {r : Place} (hr : t.at? r = some .folder) :
        rest ≠ [] ∨ ∀ e, t.at? r = some e → e.isLink = false := by
      rw [hr]
      exact .inr fun e he => Option.some.inj he ▸ rfl
    rcases t.at?_cases here with hhere | hhere | ⟨e, hhere, he⟩
    · rw [stride_of_missing true hhere] at h
      cases h
    · cases t.step_cases here part with
      | stay hdot =>
        rw [stride_stay rest hhere hdot] at h
        exact ih h (hfolder hhere)
      | up hdot hup =>
        rw [stride_up rest hhere hdot hup] at h
        exact ih h (hfolder (folder_dropLast hhere))
      | long hdot hup hlong =>
        rw [stride_long rest hhere hdot hup hlong] at h
        cases h
      | link hname htarget =>
        rw [stride_link rest hhere hname htarget] at h
        cases h
      | onward hname hnext =>
        rw [stride_onward rest hhere hname hnext] at h
        exact ih h (.inr hnext)
    · rw [stride_of_file rest hhere he] at h
      cases h

theorem resolve_arrives {folder : Place} {path : String}
    (h : t.resolve folder path = .ok p) : ∃ e, t.at? p = some e ∧ e.isLink = false := by
  obtain ⟨-, -, hw⟩ := resolve_eq_ok_iff.1 h
  have hparts := parts_ne_nil path
  generalize start folder path = here at hw
  generalize parts path = rest at hw hparts
  generalize linkLimit + 1 = links at hw
  induction links generalizing here rest with
  | zero => cases hw
  | succ links ih =>
    rw [walk] at hw
    cases hway : t.stride true here rest with
    | arrived r =>
      rw [hway] at hw
      cases hw
      exact stride_arrives hway (.inl hparts)
    | failed e =>
      rw [hway] at hw
      cases hw
    | link folder' target more =>
      rw [hway] at hw
      exact ih _ _ (by simp [parts_ne_nil]) hw

theorem Keeps.resolve (h : Keeps t t') {folder : Place} {path : String}
    (hp : t.resolve folder path = .ok p) : t'.resolve folder path = .ok p := by
  obtain ⟨hnul, hempty, hw⟩ := resolve_eq_ok_iff.1 hp
  exact resolve_eq_ok_iff.2 ⟨hnul, hempty, h.walk true hw⟩

theorem stat_eq_ok_iff_resolve {folder : Place} {path : String} :
    t.stat folder path = .ok e ↔ checkLength path = .ok () ∧
      ∃ p, t.resolve folder path = .ok p ∧ t.at? p = some e := by
  rw [stat_eq_ok_iff]
  constructor
  · rintro ⟨hlength, hnul, hempty, p, hw, hat⟩
    exact ⟨hlength, p, resolve_eq_ok_iff.2 ⟨hnul, hempty, hw⟩, hat⟩
  · rintro ⟨hlength, p, hp, hat⟩
    obtain ⟨hnul, hempty, hw⟩ := resolve_eq_ok_iff.1 hp
    exact ⟨hlength, hnul, hempty, p, hw, hat⟩

theorem exists?_iff {folder : Place} {path : String} :
    t.exists? folder path = true ↔ ∃ e, t.stat folder path = .ok e := by
  rw [exists?]
  cases t.stat folder path <;> simp [Except.toBool]

theorem numberAt?_of_resolve {folder : Place} {path : String} (h : t.resolve folder path = .ok p) :
    t.numberAt? folder path = t.number? p := by
  rw [numberAt?, h]
  rfl

theorem numberAt?_eq_some {folder : Place} {path : String} {n : Nat} :
    t.numberAt? folder path = some n ↔
      ∃ p, t.resolve folder path = .ok p ∧ t.number? p = some n := by
  constructor
  · intro h
    cases hp : t.resolve folder path with
    | ok p => exact ⟨p, rfl, by rw [← h, numberAt?_of_resolve hp]⟩
    | error e =>
      rw [numberAt?, hp] at h
      cases h
  · rintro ⟨p, hp, hn⟩
    rw [numberAt?_of_resolve hp, hn]

/-! ## Ways to places -/

def LinkFree (t : FileTree) (p : Place) : Prop :=
  ∀ front, front <+: p → ∀ target, t.at? front ≠ some (.link target)

theorem linkFree_concat {name : String} : t.LinkFree (p ++ [name]) ↔
    t.LinkFree p ∧ ∀ target, t.at? (p ++ [name]) ≠ some (.link target) := by
  constructor
  · intro h
    exact ⟨fun front hfront => h front (hfront.trans (List.prefix_append p [name])),
      h _ (List.prefix_refl _)⟩
  · rintro ⟨h, hlast⟩ front hfront
    rcases List.prefix_concat_iff.1 hfront with rfl | hfront
    · exact hlast
    · exact h front hfront

theorem linkFree (h : t.at? p = some e) (he : e.isLink = false) :
    t.LinkFree p := by
  rintro front ⟨rest, rfl⟩ target hfront
  by_cases hrest : rest = []
  · rw [hrest, List.append_nil, hfront] at h
    cases h
    cases he
  · rw [folder_above h hrest] at hfront
    cases hfront

theorem LinkFree.isLink (h : t.LinkFree p) {front : Place} (hfront : front <+: p)
    (he : t.at? front = some e) : e.isLink = false := by
  cases e with
  | link target => exact absurd he (h front hfront target)
  | _ => rfl

theorem stride_names {names : List String} (hfree : t.LinkFree (p ++ names))
    (hnames : ∀ name ∈ names, IsName name) :
    t.stride true p names = .arrived (p ++ names) ∨
      t.at? (p ++ names) = none ∧ ∃ e, t.stride true p names = .failed e := by
  induction names generalizing p with
  | nil =>
    rw [List.append_nil] at *
    cases hp : t.at? p with
    | none => exact .inr ⟨rfl, _, stride_of_missing true hp []⟩
    | some e => exact .inl (stride_nil true hp)
  | cons name names ih =>
    have hbelow (hp : t.at? p ≠ some .folder) : t.at? (p ++ name :: names) = none := by
      cases hat : t.at? (p ++ name :: names) with
      | none => rfl
      | some e => exact absurd (folder_above hat (by simp)) hp
    have hsplit : p ++ name :: names = p ++ [name] ++ names := by simp
    rcases t.at?_cases p with hp | hp | ⟨e, hp, he⟩
    · exact .inr ⟨hbelow (by simp [hp]), _, stride_of_missing true hp _⟩
    · rw [hsplit] at hfree ⊢
      rw [stride_onward names hp (hnames name List.mem_cons_self) fun e =>
        hfree.isLink (List.prefix_append _ _)]
      exact ih hfree fun other hother => hnames other (List.mem_cons_of_mem _ hother)
    · refine .inr ⟨hbelow ?_, _, stride_of_file _ hp he⟩
      rw [hp]
      rintro ⟨⟩
      cases he

theorem walk_names (hfree : t.LinkFree p) (hnames : ∀ name ∈ p, IsFileName name)
    (links : Nat) :
    t.walk true (links + 1) [] ("" :: p) = .ok p ∨
      t.at? p = none ∧ ∃ e, t.walk true (links + 1) [] ("" :: p) = .error e := by
  rw [walk, stride_stay p t.isTree.root (.inl rfl)]
  rcases stride_names (p := []) hfree fun name hname => (hnames name hname).toIsName with
    hway | ⟨hnone, e, hway⟩
  · exact .inl (by rw [hway]; rfl)
  · exact .inr ⟨hnone, e, by rw [hway]⟩

theorem eq_toPath {path : String} (hparts : parts path = "" :: p) (hp : p ≠ [])
    (hnames : ∀ name ∈ p, IsFileName name) : path = p.toPath :=
  parts_injective (hparts.trans (parts_toPath hp fun name hname => (hnames name hname).undivided).symm)

theorem start_of_parts {path : String} (hparts : parts path = "" :: p) (hp : p ≠ [])
    (hnames : ∀ name ∈ p, IsFileName name) (folder : Place) :
    Path.holdsNul path = false ∧ path ≠ "" ∧ start folder path = [] := by
  have hpath := eq_toPath hparts hp hnames
  have hchars := toList_toPath p
  refine ⟨?_, ?_, ?_⟩
  · rw [holdsNul_eq_false_iff, hparts, List.forall_mem_cons]
    exact ⟨by simp, fun name hname => (hnames name hname).noNul⟩
  · rintro rfl
    rw [← hpath] at hchars
    cases hchars
  · rw [start, Path.isAbsolute, hpath, hchars]
    rfl

theorem resolve_names (hfree : t.LinkFree p) (hnames : ∀ name ∈ p, IsFileName name)
    {path : String} (hparts : parts path = "" :: p) (hp : p ≠ []) (folder : Place) :
    t.resolve folder path = .ok p ∨ t.at? p = none ∧ ∃ e, t.resolve folder path = .error e := by
  obtain ⟨hnul, hempty, hstart⟩ := start_of_parts hparts hp hnames folder
  have hresolve : t.resolve folder path = t.walk true (linkLimit + 1) [] ("" :: p) := by
    rw [resolve, follow, hnul, if_neg (by simp), if_neg hempty, hstart, hparts]
  rw [hresolve]
  exact walk_names hfree hnames linkLimit

theorem place_of_resolve (hfree : t.LinkFree p)
    (hnames : ∀ name ∈ p, IsFileName name) {path : String} (hparts : parts path = "" :: p)
    (hp : p ≠ []) {folder : Place} (h : t.resolve folder path = .ok q) : q = p := by
  rcases resolve_names hfree hnames hparts hp folder with hresolve | ⟨-, e, hresolve⟩
  · rw [h] at hresolve
    exact Except.ok.inj hresolve
  · rw [h] at hresolve
    cases hresolve

/-! ## Listings -/

def folderAt (t : FileTree) (folder : Place) (path : String) : Except FileError Place := do
  checkLength path
  let p ← t.resolve folder path
  match t.at? p with
  | some .folder => return p
  | some _ => throw (.system .notADirectory)
  | none => throw .notFound

theorem list_eq (t : FileTree) (folder : Place) (path : String) :
    t.list folder path = (t.folderAt folder path).map t.childNames := by
  unfold list folderAt
  cases checkLength path with
  | error e => rfl
  | ok u =>
    cases t.resolve folder path with
    | error e => rfl
    | ok p =>
      simp only [bind, Except.bind]
      cases t.at? p with
      | none => rfl
      | some e => cases e <;> rfl

theorem folderAt_eq_ok {folder : Place} {path : String} (h : t.folderAt folder path = .ok p) :
    t.resolve folder path = .ok p ∧ t.at? p = some .folder := by
  obtain ⟨_, -, h⟩ := (bind_eq_ok_iff _ _ _).1 h
  obtain ⟨q, hq, h⟩ := (bind_eq_ok_iff _ _ _).1 h
  split at h
  · rename_i hfolder
    cases h
    exact ⟨hq, hfolder⟩
  · cases h
  · cases h

theorem of_walk_stay {links : Nat} {part : String} (h : t.walk true links q [part] = .ok p)
    (hdot : part = "" ∨ part = ".") : q = p ∧ t.at? p = some .folder := by
  cases links with
  | zero => cases h
  | succ links =>
    rw [walk] at h
    cases hat : t.at? q with
    | none => simp [stride_of_missing true hat] at h
    | some e =>
      cases e with
      | folder =>
        rw [stride_stay [] hat hdot, stride_nil true hat] at h
        cases h
        exact ⟨rfl, hat⟩
      | _ => simp [stride, hat] at h

theorem way_to_entry {folder : Place} {path name : String} (h : t.resolve folder path = .ok p)
    (hname : '/' ∉ name.toList) :
    ∃ front, parts (Path.join path name) = front ++ [name] ∧
      t.walk true (linkLimit + 1) (start folder (Path.join path name)) front = .ok p := by
  obtain ⟨-, hpath, hw⟩ := resolve_eq_ok_iff.1 h
  have hrelative := Path.isAbsolute_of_not_mem hname
  obtain ⟨front, hfront, hparts⟩ := parts_join hpath hrelative
  refine ⟨front, by rw [hparts, parts_of_not_mem hname], ?_⟩
  rw [start_join hpath hrelative]
  rcases hfront with hfront | hfront
  · rwa [hfront] at hw
  · -- A slash at the end of the path stays in the folder.
    rw [hfront] at hw
    obtain ⟨q, k, hq, hlast⟩ := of_walk_append hw
    obtain ⟨rfl, -⟩ := of_walk_stay hlast (.inl rfl)
    exact hq

theorem stands_of_stat {folder : Place} {path name : String}
    (h : t.resolve folder path = .ok p) (hp : t.at? p = some .folder) (hslash : '/' ∉ name.toList)
    (hdot : ¬ (name = "" ∨ name = ".")) (hup : name ≠ "..")
    (hstat : t.stat folder (Path.join path name) = .ok e) :
    ∃ e', t.at? (p ++ [name]) = some e' := by
  obtain ⟨front, hparts, hfront⟩ := way_to_entry h hslash
  obtain ⟨-, -, -, q, hw, -⟩ := stat_eq_ok_iff.1 hstat
  rw [hparts] at hw
  obtain ⟨r, k, hr, hlast⟩ := of_walk_append hw
  obtain rfl := walk_unique hr hfront
  cases hnone : t.at? (r ++ [name]) with
  | some e' => exact ⟨e', rfl⟩
  | none =>
    cases k with
    | zero => cases hlast
    | succ k =>
      by_cases hlong : nameLimit < name.utf8ByteSize
      · simp only [walk, stride, hp, if_neg hdot, if_neg hup, if_pos hlong] at hlast
        cases hlast
      · rw [walk, stride_onward [] hp ⟨hdot, hup, hlong⟩ (by simp [hnone]),
          stride_of_missing true hnone] at hlast
        cases hlast

/-! ## Trees in another order -/

/-- A tree whose names come in another order. -/
def relist (t : FileTree) {names : List (Place × Nat)} (hp : names.Perm t.names) : FileTree where
  names := names
  nodes := t.nodes
  isTree := t.isTree.perm hp

theorem number?_relist {names : List (Place × Nat)} (hp : names.Perm t.names) (p : Place) :
    (t.relist hp).number? p = t.number? p := by
  cases hn : (t.relist hp).number? p with
  | some n => exact (number?_of_mem (hp.mem_iff.1 (mem_of_number? hn))).symm
  | none =>
    cases hm : t.number? p with
    | none => rfl
    | some m =>
      have hmem : (p, m) ∈ (t.relist hp).names := hp.mem_iff.2 (mem_of_number? hm)
      rw [number?_of_mem hmem] at hn
      cases hn

theorem node?_relist {names : List (Place × Nat)} (hp : names.Perm t.names) :
    (t.relist hp).node? = t.node? := by
  funext p
  rw [node?, number?_relist hp]
  rfl

theorem childNames_relist {names : List (Place × Nat)} (hp : names.Perm t.names) (p : Place) :
    ((t.relist hp).childNames p).Perm (t.childNames p) :=
  hp.filterMap _

section SameNodes

variable (h : t'.node? = t.node?)
include h

theorem at?_congr : t'.at? = t.at? := by
  funext p
  rw [at?, at?, h]

theorem stride_congr (last : Bool) (here : Place) (rest : List String) :
    t'.stride last here rest = t.stride last here rest := by
  induction rest generalizing here with
  | nil => rw [stride, stride, h]
  | cons part rest ih => simp only [stride, at?_congr h, ih]

theorem walk_congr (last : Bool) (links : Nat) (here : Place) (rest : List String) :
    t'.walk last links here rest = t.walk last links here rest := by
  induction links generalizing here rest with
  | zero => rfl
  | succ links ih => simp only [walk, stride_congr h, ih]

theorem nodeAt_congr (last : Bool) (folder : Place) (path : String) :
    t'.nodeAt last folder path = t.nodeAt last folder path := by
  simp only [nodeAt, follow, walk_congr h, h]

theorem isFile_congr (folder : Place) (path : String) :
    t'.isFile folder path = t.isFile folder path := by
  rw [isFile, isFile, stat, stat, nodeAt_congr h]

theorem folderAt_congr (folder : Place) (path : String) :
    t'.folderAt folder path = t.folderAt folder path := by
  simp only [folderAt, resolve, follow, walk_congr h, at?_congr h]

end SameNodes

theorem list_relist {names : List (Place × Nat)} (hp : names.Perm t.names)
    (folder : Place) (path : String) :
    (t.relist hp).list folder path = (t.folderAt folder path).map (t.relist hp).childNames := by
  rw [list_eq, folderAt_congr (node?_relist hp)]

end FileTree

end Assay
