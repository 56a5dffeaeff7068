import Assay.Proofs.Host.Parts
import Assay.Proofs.Json.Decoding
import Assay.Proofs.Text.Printed
import Assay.Host.Basic

/-!
# What is written to a file is read back

What has been written to a path is read when the same path is read, if it led to
a file, perhaps through links, or named nothing before. Writing changes the one
node that the path leads to, or adds one where nothing stood. Whoever follows a
path looks at folders and links only, which stay as they were, so the way is the
same before and after.
-/

set_option autoImplicit false

namespace Assay

open Json (bind_eq_ok_iff map_eq_ok_iff)

namespace FileTree

open FileTable (IsFileName IsName at? at?_eq at?_eq_some entryOf?_alter entryOf?_isSome
  mem_of_number?)

variable {t t' : FileTree} {p q : Place} {e : Entry}

/-! ## Nodes -/

theorem node?_isSome (t : FileTree) (q : Place) : (t.node? q).isSome = (t.at? q).isSome := by
  rw [at?, Option.isSome_map]

theorem lt_of_number? {n : Nat} (h : t.number? p = some n) : n < t.nodes.size :=
  t.isTree.lt_of_number? h

theorem at?_of_number? {n : Nat} (h : t.number? p = some n) : ∃ e, t.at? p = some e := by
  obtain ⟨e, he⟩ := entryOf?_isSome (lt_of_number? h)
  exact ⟨e, at?_eq_some.2 ⟨n, h, he⟩⟩

theorem number?_eq_none (h : t.at? p = none) : t.number? p = none := by
  cases hn : t.number? p with
  | none => rfl
  | some n =>
    obtain ⟨e, he⟩ := at?_of_number? hn
    rw [he] at h
    cases h

theorem parent {name : String} (h : t.at? (p ++ [name]) = some e) : t.at? p = some .folder := by
  obtain ⟨n, hn, -⟩ := at?_eq_some.1 h
  have hfolder := t.isTree.grounded _ (mem_of_number? hn) (by simp)
  rwa [List.dropLast_concat] at hfolder

theorem folder_above {rest : Place} (h : t.at? (p ++ rest) = some e) (hrest : rest ≠ []) :
    t.at? p = some .folder := by
  induction rest using List.reverseRecOn generalizing e with
  | nil => exact absurd rfl hrest
  | append_singleton rest name ih =>
    rw [← List.append_assoc] at h
    have hfolder := parent h
    by_cases hnil : rest = []
    · rwa [hnil, List.append_nil] at hfolder
    · exact ih hfolder hnil

theorem folder_dropLast (h : t.at? p = some e) : t.at? p.dropLast = some .folder := by
  by_cases hp : p = []
  · rw [hp]
    exact t.isTree.root
  · obtain ⟨n, hn, -⟩ := at?_eq_some.1 h
    exact t.isTree.grounded _ (mem_of_number? hn) hp

theorem isFileName (h : t.at? p = some e) : ∀ name ∈ p, IsFileName name := by
  obtain ⟨n, hn, -⟩ := at?_eq_some.1 h
  exact t.isTree.named _ (mem_of_number? hn)

/-! ## Putting something where nothing stood -/

section Put

variable (hp : t.Vacant p) (n : Inode)
include hp

theorem toFileTable_put : (t.put p n).toFileTable = t.toFileTable.put p n := by
  rw [put, dif_pos ⟨hp.toTakes, by simp [hp.free]⟩]

theorem number?_put (q : Place) :
    (t.put p n).number? q = if q = p then some t.nodes.size else t.number? q := by
  rw [toFileTable_put hp, FileTable.number?_put]

theorem nodes_put : (t.put p n).nodes = t.nodes.push n := by
  rw [toFileTable_put hp]
  rfl

theorem entryOf?_put (number : Nat) :
    (t.put p n).entryOf? number =
      if number = t.nodes.size then some n.entry else t.entryOf? number := by
  rw [toFileTable_put hp, FileTable.entryOf?_put]

/-- A new node leaves alone what stands elsewhere. -/
theorem at?_put (q : Place) :
    (t.put p n).at? q = if q = p then some n.entry else t.at? q := by
  rw [at?_eq, number?_put hp]
  split
  · rw [Option.bind_some, entryOf?_put hp, if_pos rfl]
  · rw [at?_eq]
    cases hnumber : t.number? q with
    | none => rfl
    | some k =>
      rw [Option.bind_some, Option.bind_some, entryOf?_put hp,
        if_neg (Nat.ne_of_lt (lt_of_number? hnumber))]

theorem at?_put_self : (t.put p n).at? p = some n.entry := by
  rw [at?_put hp, if_pos rfl]

theorem nothing_below (name : String) : t.at? (p ++ [name]) = none := by
  cases hat : t.at? (p ++ [name]) with
  | none => rfl
  | some e =>
    have hfolder := parent hat
    rw [hp.free] at hfolder
    cases hfolder

end Put

/-! ## Writing a file anew -/

theorem nodes_rewrite (m : Making) (t : FileTree) (number : Nat) (f : Bytes → Bytes) :
    (t.rewrite m number f).nodes = t.nodes.modify number (rewritten m f) := rfl

/-- A file that is rewritten holds the new content, and other nodes stay. -/
theorem entryOf?_rewrite {number : Nat} (m : Making) (content : Bytes)
    (h : t.entryOf? number = some e) (he : e.isRegular = true) (other : Nat) :
    (t.rewrite m number fun _ => content).entryOf? other =
      if other = number then some (.file content) else t.entryOf? other := by
  have haltered : (t.rewrite m number fun _ => content).entryOf? other =
      (t.toFileTable.alter number (rewritten m fun _ => content)).entryOf? other := rfl
  rw [haltered, entryOf?_alter]
  by_cases ho : number = other
  · subst ho
    obtain ⟨node, hnode, rfl⟩ := Option.map_eq_some_iff.1 h
    rw [if_pos rfl, if_pos rfl, hnode, Option.map_some, rewritten]
    cases hentry : node.entry <;> simp_all [Entry.isRegular]
  · rw [if_neg ho, if_neg (Ne.symm ho)]

theorem at?_rewrite {number : Nat} (m : Making) (content : Bytes)
    (h : t.entryOf? number = some e) (he : e.isRegular = true) (q : Place) :
    (t.rewrite m number fun _ => content).at? q =
      if t.number? q = some number then some (.file content) else t.at? q := by
  have hnumber : (t.rewrite m number fun _ => content).number? q = t.number? q := rfl
  rw [at?_eq, hnumber, at?_eq]
  cases hq : t.number? q with
  | none => simp
  | some other =>
    rw [Option.bind_some, entryOf?_rewrite m content h he]
    simp

/-! ## Ways through a tree -/

/-- Folders and links of the first tree stand in the second, and nothing has become a link. -/
structure Keeps (t t' : FileTree) : Prop where
  folder : ∀ q, t.at? q = some .folder → t'.at? q = some .folder
  link : ∀ q target, t.at? q = some (.link target) → t'.at? q = some (.link target)
  other : ∀ q e, t.at? q = some e → e.isLink = false → ∃ e', t'.at? q = some e' ∧ e'.isLink = false

theorem Keeps.refl (t : FileTree) : Keeps t t :=
  ⟨fun _ h => h, fun _ _ h => h, fun _ e h hl => ⟨e, h, hl⟩⟩

theorem Keeps.trans {t'' : FileTree} (h : Keeps t t') (h' : Keeps t' t'') : Keeps t t'' where
  folder q hq := h'.folder q (h.folder q hq)
  link q target hq := h'.link q target (h.link q target hq)
  other q e hq he := by
    obtain ⟨e', hq', he'⟩ := h.other q e hq he
    exact h'.other q e' hq' he'

theorem keeps_put (hp : t.Vacant p) (n : Inode) : Keeps t (t.put p n) := by
  have hat : ∀ {q e}, t.at? q = some e → (t.put p n).at? q = some e := by
    intro q e hq
    rw [at?_put hp, if_neg, hq]
    rintro rfl
    rw [hp.free] at hq
    cases hq
  exact ⟨fun q hq => hat hq, fun q target hq => hat hq, fun q e hq he => ⟨e, hat hq, he⟩⟩

theorem keeps_rewrite {number : Nat} (m : Making) (content : Bytes)
    (h : t.entryOf? number = some e) (he : e.isRegular = true) :
    Keeps t (t.rewrite m number fun _ => content) := by
  have hat := at?_rewrite m content h he
  have hunchanged : ∀ {q e'}, t.at? q = some e' → e'.isRegular = false →
      (t.rewrite m number fun _ => content).at? q = some e' := by
    intro q e' hq he'
    rw [hat, if_neg _, hq]
    intro hnumber
    obtain ⟨n, hn, hentry⟩ := at?_eq_some.1 hq
    rw [hnumber] at hn
    cases hn
    rw [h] at hentry
    cases hentry
    rw [he] at he'
    cases he'
  refine ⟨fun q hq => hunchanged hq rfl, fun q target hq => hunchanged hq rfl, ?_⟩
  intro q e' hq he'
  rw [hat]
  split
  · exact ⟨_, rfl, rfl⟩
  · exact ⟨e', hq, he'⟩

theorem Keeps.isSome (h : Keeps t t') (hq : (t.at? q).isSome = true) :
    (t'.at? q).isSome = true := by
  obtain ⟨e, he⟩ := Option.isSome_iff_exists.1 hq
  cases hlink : e.isLink with
  | true =>
    cases e with
    | link target => rw [h.link q target he]; rfl
    | _ => cases hlink
  | false =>
    obtain ⟨e', he', -⟩ := h.other q e he hlink
    rw [he']
    rfl

theorem stride_of_missing (last : Bool) (h : t.at? p = none) (rest : List String) :
    t.stride last p rest = .failed .notFound := by
  cases rest with
  | nil =>
    have hnode : (t.node? p).isSome = false := by rw [node?_isSome, h]; rfl
    rw [stride, hnode]
    rfl
  | cons part rest => rw [stride, h]

theorem stride_nil (last : Bool) (h : t.at? p = some e) : t.stride last p [] = .arrived p := by
  rw [stride, node?_isSome, h]
  rfl

section Steps

variable {here : Place} {part : String} {last : Bool} (rest : List String)

theorem stride_of_file (hhere : t.at? here = some e) (he : e.isFolder = false) :
    t.stride last here (part :: rest) = .failed (.system .notADirectory) := by
  rw [stride, hhere]
  cases e with
  | folder => cases he
  | _ => rfl

theorem stride_stay (hhere : t.at? here = some .folder) (hdot : part = "" ∨ part = ".") :
    t.stride last here (part :: rest) = t.stride last here rest := by
  rw [stride, hhere]
  exact if_pos hdot

theorem stride_up (hhere : t.at? here = some .folder) (hdot : ¬ (part = "" ∨ part = "."))
    (hup : part = "..") :
    t.stride last here (part :: rest) = t.stride last here.dropLast rest := by
  rw [stride, hhere]
  dsimp only
  rw [if_neg hdot, if_pos hup]

theorem stride_long (hhere : t.at? here = some .folder) (hdot : ¬ (part = "" ∨ part = "."))
    (hup : part ≠ "..") (hlong : nameLimit < part.utf8ByteSize) :
    t.stride last here (part :: rest) = .failed (.system .nameTooLong) := by
  rw [stride, hhere]
  dsimp only
  rw [if_neg hdot, if_neg hup, if_pos hlong]

theorem stride_link {target : String} (hhere : t.at? here = some .folder) (hname : IsName part)
    (hnext : t.at? (here ++ [part]) = some (.link target)) :
    t.stride last here (part :: rest) =
      if last || !rest.isEmpty then .link here target rest else .arrived (here ++ [part]) := by
  rw [stride, hhere]
  dsimp only
  rw [if_neg hname.named, if_neg hname.below, if_neg hname.short, hnext]

theorem stride_onward (hhere : t.at? here = some .folder) (hname : IsName part)
    (hnext : ∀ e, t.at? (here ++ [part]) = some e → e.isLink = false) :
    t.stride last here (part :: rest) = t.stride last (here ++ [part]) rest := by
  rw [stride, hhere]
  dsimp only
  rw [if_neg hname.named, if_neg hname.below, if_neg hname.short]
  split
  · rename_i target hlink
    cases hnext _ hlink
  · rfl

theorem stride_entry (hhere : t.at? here = some .folder) (hname : IsName part)
    (hentry : t.at? (here ++ [part]) = some e) (hlink : e.isLink = false) :
    t.stride last here [part] = .arrived (here ++ [part]) := by
  rw [stride_onward [] hhere hname (by simpa [hentry] using hlink), stride_nil last hentry]

inductive Step (t : FileTree) (here : Place) (part : String) : Prop
  | stay (hdot : part = "" ∨ part = ".") : Step t here part
  | up (hdot : ¬ (part = "" ∨ part = ".")) (hup : part = "..") : Step t here part
  | long (hdot : ¬ (part = "" ∨ part = ".")) (hup : part ≠ "..")
      (hlong : nameLimit < part.utf8ByteSize) : Step t here part
  | link {target : String} (hname : IsName part)
      (htarget : t.at? (here ++ [part]) = some (.link target)) : Step t here part
  | onward (hname : IsName part)
      (hnext : ∀ e, t.at? (here ++ [part]) = some e → e.isLink = false) : Step t here part

theorem step_cases (t : FileTree) (here : Place) (part : String) : Step t here part := by
  by_cases hdot : part = "" ∨ part = "."
  · exact .stay hdot
  by_cases hup : part = ".."
  · exact .up hdot hup
  by_cases hlong : nameLimit < part.utf8ByteSize
  · exact .long hdot hup hlong
  by_cases hlink : ∃ target, t.at? (here ++ [part]) = some (.link target)
  · obtain ⟨target, htarget⟩ := hlink
    exact .link ⟨hdot, hup, hlong⟩ htarget
  · refine .onward ⟨hdot, hup, hlong⟩ fun e he => ?_
    cases e with
    | link target => exact absurd ⟨target, he⟩ hlink
    | _ => rfl

theorem at?_cases (t : FileTree) (q : Place) :
    t.at? q = none ∨ t.at? q = some .folder ∨ ∃ e, t.at? q = some e ∧ e.isFolder = false := by
  cases t.at? q with
  | none => exact .inl rfl
  | some e =>
    cases e with
    | folder => exact .inr (.inl rfl)
    | _ => exact .inr (.inr ⟨_, rfl, rfl⟩)

end Steps

theorem Keeps.stride (h : Keeps t t') (last : Bool) {here : Place} {rest : List String}
    (hs : ∀ e, t.stride last here rest ≠ .failed e) :
    t'.stride last here rest = t.stride last here rest := by
  induction rest generalizing here with
  | nil =>
    have hsome : (t.at? here).isSome = true := by
      by_contra hnone
      exact hs _ (stride_of_missing last (by simpa using hnone) [])
    rw [FileTree.stride, FileTree.stride, node?_isSome, node?_isSome, hsome, h.isSome hsome]
  | cons part rest ih =>
    rcases t.at?_cases here with hhere | hhere | ⟨e, hhere, he⟩
    · exact absurd (stride_of_missing last hhere _) (hs _)
    · have hhere' := h.folder here hhere
      cases t.step_cases here part with
      | stay hdot =>
        rw [stride_stay rest hhere hdot] at hs ⊢
        rw [stride_stay rest hhere' hdot, ih hs]
      | up hdot hup =>
        rw [stride_up rest hhere hdot hup] at hs ⊢
        rw [stride_up rest hhere' hdot hup, ih hs]
      | long hdot hup hlong => exact absurd (stride_long rest hhere hdot hup hlong) (hs _)
      | link hname htarget =>
        rw [stride_link rest hhere hname htarget,
          stride_link rest hhere' hname (h.link _ _ htarget)]
      | onward hname hnext =>
        rw [stride_onward rest hhere hname hnext] at hs ⊢
        cases hnone : t.at? (here ++ [part]) with
        | none => exact absurd (stride_of_missing last hnone rest) (hs _)
        | some e =>
          obtain ⟨e', he', hlink'⟩ := h.other _ e hnone (hnext e hnone)
          rw [stride_onward rest hhere' hname (by simpa [he'] using hlink'), ih hs]
    · exact absurd (stride_of_file rest hhere he) (hs _)

theorem Keeps.walk (h : Keeps t t') (last : Bool) {links : Nat} {here : Place}
    {rest : List String} (hw : t.walk last links here rest = .ok p) :
    t'.walk last links here rest = .ok p := by
  induction links generalizing here rest with
  | zero => cases hw
  | succ links ih =>
    rw [FileTree.walk] at hw ⊢
    have hs : ∀ e, t.stride last here rest ≠ .failed e := by
      intro e he
      rw [he] at hw
      cases hw
    rw [h.stride last hs]
    cases hway : t.stride last here rest with
    | arrived q =>
      rw [hway] at hw
      exact hw
    | failed e => exact absurd hway (hs e)
    | link folder target more =>
      rw [hway] at hw
      exact ih hw

/-- How far a path leads that goes on with `b`. -/
def Stride.onward (t : FileTree) (b : List String) : Stride → Stride
  | .arrived q => t.stride true q b
  | .failed e => .failed e
  | .link folder target more => .link folder target (more ++ b)

/-- A way whose links are all followed goes on from where its first part leads to. -/
theorem stride_append (t : FileTree) (here : Place) (a b : List String) :
    t.stride true here (a ++ b) = (t.stride true here a).onward t b := by
  induction a generalizing here with
  | nil =>
    rw [List.nil_append]
    cases hhere : t.at? here with
    | none => rw [stride_of_missing true hhere, stride_of_missing true hhere, Stride.onward]
    | some e => rw [stride_nil true hhere, Stride.onward]
  | cons part a ih =>
    rw [List.cons_append, stride, stride]
    split
    · rfl
    · -- each link is followed
      simp only [Bool.true_or, if_true]
      split_ifs
      · exact ih here
      · exact ih here.dropLast
      · rfl
      · split
        · rfl
        · exact ih (here ++ [part])
    · rfl

theorem walk_append {links : Nat} {here : Place} {a b : List String}
    (ha : t.walk true links here a = .ok q) (hb : t.stride true q b = .arrived p) :
    t.walk true links here (a ++ b) = .ok p := by
  induction links generalizing here a with
  | zero => cases ha
  | succ links ih =>
    rw [walk] at ha
    rw [walk, stride_append]
    cases hway : t.stride true here a with
    | arrived r =>
      rw [hway] at ha
      cases ha
      rw [Stride.onward, hb]
    | failed e =>
      rw [hway] at ha
      cases ha
    | link folder target more =>
      rw [hway] at ha
      simp only [Stride.onward]
      rw [← List.append_assoc]
      exact ih ha

/-- A way that arrives passes through where its first part leads to. -/
theorem of_walk_append {links : Nat} {here : Place} {a b : List String}
    (h : t.walk true links here (a ++ b) = .ok p) :
    ∃ q k, t.walk true links here a = .ok q ∧ t.walk true k q b = .ok p := by
  induction links generalizing here a with
  | zero => cases h
  | succ links ih =>
    rw [walk, stride_append] at h
    cases hway : t.stride true here a with
    | arrived r =>
      rw [hway, Stride.onward] at h
      exact ⟨r, links + 1, by rw [walk, hway], by rw [walk, h]⟩
    | failed e =>
      rw [hway] at h
      cases h
    | link folder target more =>
      rw [hway] at h
      simp only [Stride.onward] at h
      rw [← List.append_assoc] at h
      obtain ⟨q, k, hq, hp⟩ := ih h
      exact ⟨q, k, by rw [walk, hway]; exact hq, hp⟩

theorem walk_unique {last : Bool} {k k' : Nat} {here : Place} {rest : List String}
    (h : t.walk last k here rest = .ok p) (h' : t.walk last k' here rest = .ok q) : p = q := by
  induction k generalizing here rest k' with
  | zero => cases h
  | succ k ih =>
    cases k' with
    | zero => cases h'
    | succ k' =>
      rw [walk] at h h'
      cases hway : t.stride last here rest with
      | arrived r =>
        rw [hway] at h h'
        cases h
        cases h'
        rfl
      | failed e =>
        rw [hway] at h
        cases h
      | link folder target more =>
        rw [hway] at h h'
        exact ih h h'

/-! ## Places that are written to -/

theorem parts_ne_nil (path : String) : parts path ≠ [] := by
  have hsplit : ∀ cs, Path.splitChars cs ≠ [] := by
    intro cs
    induction cs with
    | nil => simp [Path.splitChars]
    | cons c cs ih =>
      rw [Path.splitChars]
      split_ifs
      · simp
      · split <;> simp
  simpa [parts] using hsplit path.toList

theorem vacancy_eq_ok {folder : Place} {path : String} {v : Vacancy}
    (h : t.vacancy folder path = .ok v) (hclosed : v.isClosed = false) :
    Path.holdsNul path = false ∧ path ≠ "" ∧ checkLength path = .ok () ∧
      ∃ above, parts path = above ++ [v.name] ∧
        t.walk true (linkLimit + 1) (start folder path) above = .ok v.parent ∧
        t.at? v.parent = some .folder := by
  unfold vacancy at h
  by_cases hnul : Path.holdsNul path = true
  · simp only [hnul, if_true] at h
    cases h
  by_cases hempty : path = ""
  · simp only [hempty, if_true] at h
    cases h
  simp only [hnul, hempty, if_false] at h
  obtain ⟨_, hlength, h⟩ := (bind_eq_ok_iff _ _ _).1 h
  obtain ⟨parent, hwalk, h⟩ := (bind_eq_ok_iff _ _ _).1 h
  split at h
  · rename_i hfolder
    cases h
    obtain ⟨above, name, hparts⟩ : ∃ above name, parts path = above ++ [name] :=
      ⟨_, _, (List.dropLast_append_getLast (parts_ne_nil path)).symm⟩
    rw [hparts, List.reverse_concat] at hwalk hclosed ⊢
    have hname : name ≠ "" := by simpa using hclosed
    rw [List.dropWhile_cons_of_neg (by simpa using hname)] at hwalk ⊢
    rw [List.tail_cons, List.reverse_reverse] at hwalk
    have hparent : t.at? parent = some .folder := by
      cases hat : t.at? parent with
      | none => simp [hat] at hfolder
      | some e => cases e <;> simp_all [Entry.isFolder]
    exact ⟨by simpa using hnul, hempty, hlength, above, rfl, hwalk, hparent⟩
  · cases h

theorem Vacancy.place_eq {v : Vacancy} (hplace : v.place = .ok p)
    (hparent : t.at? v.parent = some .folder) (hp : t.at? p ≠ some .folder) :
    p = v.parent ++ [v.name] ∧ IsName v.name := by
  unfold Vacancy.place at hplace
  split_ifs at hplace with hdot hup hlong
  · cases hplace
    exact absurd hparent hp
  · cases hplace
    exact absurd (folder_dropLast hparent) hp
  · cases hplace
    exact ⟨rfl, hdot, hup, hlong⟩

theorem isFileName_concat {name : String} (hp : ∀ other ∈ p, IsFileName other)
    (hname : IsFileName name) : ∀ other ∈ p ++ [name], IsFileName other := by
  rw [List.forall_mem_append]
  exact ⟨hp, by simpa using hname⟩

section Fresh

variable {v : Vacancy} {folder : Place} {path : String}
  (hv : t.vacancy folder path = .ok v) (hclosed : v.isClosed = false) (hplace : v.place = .ok p)
  (hp : t.at? p = none)
include hv hclosed hplace hp

/-- Where a path would create something and nothing stands, something may be put. -/
theorem vacant_of_vacancy : t.Vacant p := by
  obtain ⟨hnul, -, -, above, hparts, -, hparent⟩ := vacancy_eq_ok hv hclosed
  obtain ⟨rfl, hname⟩ := Vacancy.place_eq hplace hparent (by simp [hp])
  have hmem : v.name ∈ parts path := by
    rw [hparts]
    exact List.mem_append_right _ (List.mem_singleton_self _)
  have hfile : IsFileName v.name :=
    ⟨hname, (of_mem_parts hmem).1, holdsNul_eq_false_iff.1 hnul _ hmem⟩
  exact ⟨⟨by simpa using hparent, isFileName_concat (isFileName hparent) hfile⟩, hp⟩

/-- The path leads to what is put there. -/
theorem walk_put {n : Inode} (hn : n.entry.isLink = false) :
    (t.put p n).walk true (linkLimit + 1) (start folder path) (parts path) = .ok p := by
  have hvacant := vacant_of_vacancy hv hclosed hplace hp
  obtain ⟨-, -, -, above, hparts, habove, hparent⟩ := vacancy_eq_ok hv hclosed
  obtain ⟨rfl, hname⟩ := Vacancy.place_eq hplace hparent (by simp [hp])
  have hkeeps := keeps_put hvacant n
  rw [hparts]
  exact walk_append (hkeeps.walk true habove)
    (stride_entry (hkeeps.folder _ hparent) hname (at?_put_self hvacant n) hn)

end Fresh

theorem stride_place {v : Vacancy} (hplace : v.place = .ok p)
    (hparent : t.at? v.parent = some .folder) :
    t.stride true v.parent [v.name] = t.stride true p [] ∨
      ∃ target, t.at? p = some (.link target) ∧
        t.stride true v.parent [v.name] = .link v.parent target [] := by
  unfold Vacancy.place at hplace
  cases t.step_cases v.parent v.name with
  | stay hdot =>
    rw [if_pos hdot] at hplace
    cases hplace
    exact .inl (stride_stay [] hparent hdot)
  | up hdot hup =>
    rw [if_neg hdot, if_pos hup] at hplace
    cases hplace
    exact .inl (stride_up [] hparent hdot hup)
  | long hdot hup hlong =>
    rw [if_neg hdot, if_neg hup, if_pos hlong] at hplace
    cases hplace
  | link hname htarget =>
    rw [if_neg hname.named, if_neg hname.below, if_neg hname.short] at hplace
    cases hplace
    exact .inr ⟨_, htarget, stride_link [] hparent hname htarget⟩
  | onward hname hnext =>
    rw [if_neg hname.named, if_neg hname.below, if_neg hname.short] at hplace
    cases hplace
    exact .inl (stride_onward [] hparent hname hnext)

/-- What is obtained to be written: a new file where nothing stands, what is obtained from where
a link leads, or what stands there otherwise. -/
theorem obtainFrom_eq_ok {m : Making} {links : Nat} {folder : Place} {path : String} {number : Nat}
    (h : t.obtainFrom m (links + 1) folder path = .ok (t', number)) :
    ∃ v p, t.vacancy folder path = .ok v ∧ v.isClosed = false ∧ v.place = .ok p ∧
      ((t.at? p = none ∧ t' = t.put p (m.file []) ∧ number = t.nodes.size) ∨
        (∃ target, t.at? p = some (.link target) ∧
          t.obtainFrom m links v.parent target = .ok (t', number)) ∨
        ∃ e, t.at? p = some e ∧ e.isLink = false ∧ e.isFolder = false ∧ t' = t ∧
          t.number? p = some number) := by
  rw [obtainFrom] at h
  obtain ⟨v, hv, h⟩ := (bind_eq_ok_iff _ _ _).1 h
  cases hclosed : v.isClosed with
  | true =>
    simp only [hclosed, if_true] at h
    cases h
  | false =>
    simp only [hclosed] at h
    obtain ⟨p, hp, h⟩ := (bind_eq_ok_iff _ _ _).1 h
    refine ⟨v, p, hv, hclosed, hp, ?_⟩
    cases hat : t.at? p with
    | none =>
      simp only [hat] at h
      cases h
      exact .inl ⟨rfl, rfl, rfl⟩
    | some e =>
      obtain ⟨k, hk, -⟩ := at?_eq_some.1 hat
      cases e with
      | folder =>
        simp only [hat] at h
        cases h
      | link target =>
        simp only [hat] at h
        exact .inr (.inl ⟨target, rfl, h⟩)
      | _ =>
        simp only [hat, hk] at h
        cases h
        exact .inr (.inr ⟨_, rfl, rfl, rfl, rfl, hk⟩)

/-- Where a path leads to a file, through as many links as it takes, that file is obtained. -/
theorem obtainFrom_of_walk {m : Making} {links k : Nat} {folder : Place} {path : String}
    {number : Nat} (h : t.obtainFrom m links folder path = .ok (t', number))
    (hw : t.walk true k (start folder path) (parts path) = .ok q) (hq : t.at? q = some e)
    (he : e.isRegular = true) : t' = t ∧ t.number? q = some number := by
  induction links generalizing folder path k with
  | zero => cases h
  | succ links ih =>
    obtain ⟨v, p, hv, hclosed, hp, hcases⟩ := obtainFrom_eq_ok h
    obtain ⟨-, -, -, above, hparts, habove, hparent⟩ := vacancy_eq_ok hv hclosed
    rw [hparts] at hw
    obtain ⟨r, k', hr, hlast⟩ := of_walk_append hw
    obtain rfl := walk_unique habove hr
    cases k' with
    | zero => cases hlast
    | succ k' =>
      rw [walk] at hlast
      rcases stride_place hp hparent with hplace | ⟨target, htarget, hlink⟩
      · rw [hplace] at hlast
        have hsome : t.at? p = some e := by
          cases hat : t.at? p with
          | none =>
            rw [stride_of_missing true hat] at hlast
            cases hlast
          | some e' =>
            rw [stride_nil true hat] at hlast
            cases hlast
            rw [← hat, hq]
        rw [stride_nil true hsome] at hlast
        cases hlast
        rcases hcases with ⟨hnone, -, -⟩ | ⟨target, htarget, -⟩ | ⟨-, -, -, -, ht, hnumber⟩
        · rw [hnone] at hsome
          cases hsome
        · rw [htarget] at hsome
          cases hsome
          cases he
        · exact ⟨ht, hnumber⟩
      · rw [hlink] at hlast
        dsimp only at hlast
        rw [List.append_nil] at hlast
        rcases hcases with ⟨hnone, -, -⟩ | ⟨target', htarget', hmore⟩ | ⟨e', he', hother, -⟩
        · rw [hnone] at htarget
          cases htarget
        · rw [htarget] at htarget'
          cases htarget'
          exact ih hmore hlast
        · rw [htarget] at he'
          cases he'
          cases hother

/-! ## Contents -/

theorem stat_eq_ok_iff {folder : Place} {path : String} :
    t.stat folder path = .ok e ↔ checkLength path = .ok () ∧ Path.holdsNul path = false ∧
      path ≠ "" ∧ ∃ p, t.walk true (linkLimit + 1) (start folder path) (parts path) = .ok p ∧
        t.at? p = some e := by
  constructor
  · intro h
    obtain ⟨n, hn, he⟩ := (map_eq_ok_iff _ _ _).1 h
    obtain ⟨_, hlength, hn⟩ := (bind_eq_ok_iff _ _ _).1 hn
    obtain ⟨p, hp, hn⟩ := (bind_eq_ok_iff _ _ _).1 hn
    unfold follow at hp
    split_ifs at hp with hnul hempty
    refine ⟨hlength, by simpa using hnul, hempty, p, hp, ?_⟩
    cases hnode : t.node? p with
    | none => simp [hnode, throw, throwThe, MonadExceptOf.throw] at hn
    | some n' =>
      simp only [hnode, pure, Except.pure] at hn
      cases hn
      rw [at?, hnode, Option.map_some, he]
  · rintro ⟨hlength, hnul, hempty, p, hw, hat⟩
    obtain ⟨n, hnode, he⟩ := Option.map_eq_some_iff.1 hat
    have hfollow : t.follow true folder path = .ok p := by
      rw [follow, if_neg (by simp [hnul]), if_neg hempty, hw]
    simp only [stat, nodeAt, hlength, hfollow, bind, Except.bind, hnode]
    exact congrArg Except.ok he

theorem isFile_iff {folder : Place} {path : String} :
    t.isFile folder path = true ↔ ∃ e, t.stat folder path = .ok e ∧ e.isRegular = true := by
  unfold isFile
  cases t.stat folder path <;> simp

theorem writeNode_of_regular {m : Making} {number : Nat} (content : Bytes)
    (h : t.entryOf? number = some e) (he : e.isRegular = true) :
    t.writeNode m number content = .ok (t.rewrite m number fun _ => content) := by
  unfold writeNode
  rw [h]
  cases e with
  | file _ | program _ => rfl
  | _ => cases he

theorem obtainFrom_of_obtain {m : Making} {folder : Place} {path : String} {number : Nat}
    (h : t.obtain m folder path = .ok (t', number)) :
    t.obtainFrom m (linkLimit + 1) folder path = .ok (t', number) ∧
      t.stat folder path ≠ .error (.system .tooManyLinks) := by
  unfold obtain at h
  split at h
  · cases h
  · rename_i hstat
    exact ⟨h, hstat⟩

/-- What a path leads to after it has been written: the file that it led to before, or a new one
where nothing stood. -/
theorem obtain_leads {m : Making} {folder : Place} {path : String} {number : Nat}
    (h : t.obtain m folder path = .ok (t', number))
    (hfile : t.isFile folder path = true ∨ ∀ p, t.target folder path = .ok p → t.at? p = none) :
    ∃ p e, t'.stat folder path = .ok e ∧ e.isRegular = true ∧ t'.number? p = some number ∧
      t'.walk true (linkLimit + 1) (start folder path) (parts path) = .ok p := by
  replace h := (obtainFrom_of_obtain h).1
  rcases hfile with hfile | hnew
  · obtain ⟨e, hstat, he⟩ := isFile_iff.1 hfile
    obtain ⟨-, -, -, p, hw, hat⟩ := stat_eq_ok_iff.1 hstat
    obtain ⟨rfl, hnumber⟩ := obtainFrom_of_walk h hw hat he
    exact ⟨p, e, hstat, he, hnumber, hw⟩
  · obtain ⟨v, p, hv, hclosed, hp, hcases⟩ := obtainFrom_eq_ok h
    obtain ⟨hnul, hempty, hlength, -⟩ := vacancy_eq_ok hv hclosed
    have hnone : t.at? p = none := hnew p (by rw [target, hv]; exact hp)
    obtain ⟨rfl, rfl⟩ : t' = t.put p (m.file []) ∧ number = t.nodes.size := by
      rcases hcases with ⟨-, ht, hnumber⟩ | ⟨_, hlink, -⟩ | ⟨_, hother, -⟩
      · exact ⟨ht, hnumber⟩
      · rw [hnone] at hlink
        cases hlink
      · rw [hnone] at hother
        cases hother
    have hvacant := vacant_of_vacancy hv hclosed hp hnone
    have hat := at?_put_self hvacant (m.file [])
    have hw := walk_put hv hclosed hp hnone (n := m.file []) rfl
    refine ⟨p, .file [], stat_eq_ok_iff.2 ⟨hlength, hnul, hempty, p, hw, hat⟩, rfl, ?_, hw⟩
    rw [number?_put hvacant, if_pos rfl]

theorem readBytes_writeFile {m : Making} {folder : Place} {path : String} {content : Bytes}
    (h : t.writeFile m folder path content = .ok t')
    (hfile : t.isFile folder path = true ∨ ∀ p, t.target folder path = .ok p → t.at? p = none) :
    t'.readBytes folder path = .ok content := by
  obtain ⟨⟨t₁, number⟩, hobtain, h⟩ := (bind_eq_ok_iff _ _ _).1 h
  obtain ⟨p, e, hstat, he, hnumber, hw⟩ := obtain_leads hobtain hfile
  obtain ⟨hlength, hnul, hempty, q, hq, hat⟩ := stat_eq_ok_iff.1 hstat
  obtain rfl := walk_unique hw hq
  have hentry : t₁.entryOf? number = some e := by
    obtain ⟨k, hk, hentry⟩ := at?_eq_some.1 hat
    rw [hnumber] at hk
    cases hk
    exact hentry
  dsimp only at h
  rw [writeNode_of_regular content hentry he] at h
  cases h
  have hafter : (t₁.rewrite m number fun _ => content).stat folder path = .ok (.file content) := by
    refine stat_eq_ok_iff.2 ⟨hlength, hnul, hempty, p, ?_, ?_⟩
    · exact (keeps_rewrite m content hentry he).walk true hw
    · rw [at?_rewrite m content hentry he, if_pos hnumber]
  rw [readBytes, hafter]
  rfl

end FileTree

/-! ## Texts -/

theorem Text.decode?_encode (s : String) : decode? (encode s) = some s.toList := by
  rw [decode?, scalars_encode]
  induction s.toList with
  | nil => rfl
  | cons c cs ih => simp [ih]

namespace Host

variable {h h' : Host} {path text : String}

/-- Whether a path leads to a file, through links or not, or names nothing yet. -/
def NamesFile (h : Host) (path : String) : Prop :=
  h.files.isFile h.folder path = true ∨
    ∀ p, h.files.target h.folder path = .ok p → h.files.at? p = none

theorem readText_writeText (hw : h.writeText path text = .ok h') (hfile : h.NamesFile path) :
    h'.readText path = .ok text := by
  cases hwrite : h.files.writeFile h.making h.folder path (Text.encode text) with
  | error e => simp [writeText, hwrite, Except.map] at hw
  | ok t =>
    obtain rfl : { h with files := t } = h' := by simpa [writeText, hwrite, Except.map] using hw
    have hbytes := FileTree.readBytes_writeFile hwrite hfile
    simp only [readText, FileTree.readText, hbytes, bind, Except.bind, Text.decode?_encode]
    rw [String.ofList_toList]
    rfl

theorem exists?_of_readText (hr : h.readText path = .ok text) : h.exists? path = true := by
  obtain ⟨_, hbytes, -⟩ := (bind_eq_ok_iff _ _ _).1 hr
  obtain ⟨e, hstat, -⟩ := (bind_eq_ok_iff _ _ _).1 hbytes
  rw [exists?, FileTree.exists?, hstat]
  rfl

end Host

end Assay
