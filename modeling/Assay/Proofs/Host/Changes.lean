import Assay.Proofs.Host.Growth

/-!
# What a path that is changed leads to

What is written to a path is found where the path leads to then: in the file that it
led to before, or in a new one. A folder that is created is found the same way, with
nothing in it.
-/

set_option autoImplicit false

namespace Assay

open Json (bind_eq_ok_iff)

namespace FileTree

open FileTable (at? at?_eq_some IsFileName)

variable {t t' : FileTree} {p q : Place} {e : Entry} {m : Making}

/-! ## Writing files -/

/-- What is obtained to be written at a place: what stands there, or a new file. -/
inductive Obtains (m : Making) (t : FileTree) (p : Place) : FileTree → Nat → Prop
  | there {e : Entry} {number : Nat} (hat : t.at? p = some e) (hlink : e.isLink = false)
      (hfolder : e.isFolder = false) (hnumber : t.number? p = some number) :
      Obtains m t p t number
  | new (hp : t.Vacant p) : Obtains m t p (t.put p (m.file [])) t.nodes.size

namespace Obtains

variable {number : Nat}

theorem keeps (h : Obtains m t p t' number) : Keeps t t' := by
  cases h with
  | there => exact .refl t
  | new hp => exact keeps_put hp _

theorem link (h : Obtains m t p t' number) {target : String}
    (hq : t.at? q = some (.link target)) : t'.at? q = some (.link target) :=
  h.keeps.link q target hq

end Obtains

theorem obtainFrom_leads {links : Nat} {folder : Place} {path : String}
    {number : Nat} (h : t.obtainFrom m links folder path = .ok (t', number)) :
    ∃ p, Obtains m t p t' number ∧
      ∃ k, t'.walk true k (start folder path) (parts path) = .ok p := by
  induction links generalizing folder path with
  | zero => cases h
  | succ links ih =>
    obtain ⟨v, p, hv, hclosed, hp, hcases⟩ := obtainFrom_eq_ok h
    obtain ⟨-, -, -, above, hparts, habove, hparent⟩ := vacancy_eq_ok hv hclosed
    rcases hcases with ⟨hnone, rfl, rfl⟩ | ⟨target, htarget, hmore⟩ |
      ⟨e, hat, hlink, hfolder, rfl, hnumber⟩
    · exact ⟨p, .new (vacant_of_vacancy hv hclosed hp hnone), linkLimit + 1,
        walk_put hv hclosed hp hnone rfl⟩
    · rw [hparts]
      obtain ⟨rfl, hname⟩ := Vacancy.place_eq hp hparent (by simp [htarget])
      obtain ⟨q, hobtains, k, hk⟩ := ih hmore
      rw [← List.append_nil (parts target)] at hk
      exact ⟨q, hobtains, walk_append_link (hobtains.keeps.walk true habove)
        (stride_link [] (hobtains.keeps.folder _ hparent) hname (hobtains.link htarget)) hk⟩
    · rw [hparts]
      refine ⟨p, .there hat hlink hfolder hnumber, linkLimit + 1, walk_append habove ?_⟩
      rcases stride_place hp hparent with hplace | ⟨target, htarget, -⟩
      · rw [hplace, stride_nil true hat]
      · rw [hat] at htarget
        cases htarget
        cases hlink

theorem checkLength_of_obtainFrom {links : Nat} {folder : Place} {path : String} {number : Nat}
    (h : t.obtainFrom m links folder path = .ok (t', number)) :
    checkLength path = .ok () ∧ Path.holdsNul path = false ∧ path ≠ "" := by
  cases links with
  | zero => cases h
  | succ links =>
    obtain ⟨v, p, hv, hclosed, -⟩ := obtainFrom_eq_ok h
    obtain ⟨hnul, hempty, hlength, -⟩ := vacancy_eq_ok hv hclosed
    exact ⟨hlength, hnul, hempty⟩

theorem walk_ne_of_stat {folder : Place} {path : String} (hlength : checkLength path = .ok ())
    (hnul : Path.holdsNul path = false) (hempty : path ≠ "")
    (h : t.stat folder path ≠ .error (.system .tooManyLinks)) :
    t.walk true (linkLimit + 1) (start folder path) (parts path) ≠
      .error (.system .tooManyLinks) := by
  intro hw
  apply h
  have hfollow : t.follow true folder path = .error (.system .tooManyLinks) := by
    rw [follow, hnul, if_neg (by simp), if_neg hempty, hw]
  rw [stat, nodeAt, hlength, hfollow]
  rfl

theorem obtain_resolves {folder : Place} {path : String} {number : Nat}
    (h : t.obtain m folder path = .ok (t', number)) :
    ∃ p, Obtains m t p t' number ∧ t'.resolve folder path = .ok p ∧
      checkLength path = .ok () := by
  obtain ⟨hfrom, hstat⟩ := obtainFrom_of_obtain h
  obtain ⟨hlength, hnul, hempty⟩ := checkLength_of_obtainFrom hfrom
  obtain ⟨p, hobtains, k, hk⟩ := obtainFrom_leads hfrom
  have hfew := walk_ne_of_stat hlength hnul hempty hstat
  refine ⟨p, hobtains, resolve_eq_ok_iff.2 ⟨hnul, hempty, ?_⟩, hlength⟩
  refine (walk_or hk (linkLimit + 1)).resolve_right fun hmany => ?_
  cases hobtains with
  | there => exact hfew hmany
  | new hp =>
    -- A new file is no link, so as many links were followed before it was there.
    rcases walk_new (e := .file []) hp.free rfl rfl (at?_put hp (m.file [])) true (linkLimit + 1)
      (start folder path) (parts path) with hsame | ⟨-, hnew | hnew⟩
    · exact hfew (hsame ▸ hmany)
    · rw [hnew] at hmany
      cases hmany
    · rw [hnew] at hmany
      cases hmany

/-- What has come of a tree when a path was written to: where the path leads now, what may have
stood there, and that other paths lead where they led. -/
structure Wrote (t t' : FileTree) (folder : Place) (path : String) (content : Bytes) (p : Place) :
    Prop where
  length : checkLength path = .ok ()
  leads : t'.resolve folder path = .ok p
  before : t.at? p = none ∨ t.resolve folder path = .ok p
  grows : Grows t t' (fun n => t.number? p = some n) (· = p)
  back : ∀ folder path q, t'.resolve folder path = .ok q →
    t.resolve folder path = .ok q ∨ t.at? p = none ∧ q = p
  written : t'.at? p = some (.file content) ∨
    ∃ e, t.at? p = some e ∧ e.isRegular = false ∧ e.isFolder = false ∧ t' = t

theorem writeNode_eq_ok {number : Nat} {content : Bytes} (hat : t.entryOf? number = some e)
    (h : t.writeNode m number content = .ok t') :
    t' = (t.rewrite m number fun _ => content) ∨ e.isRegular = false ∧ t' = t := by
  unfold writeNode at h
  split at h
  · rename_i hfull
    rw [hat] at hfull
    cases hfull
    split_ifs at h
    cases h
    exact .inr ⟨rfl, rfl⟩
  · cases h
  · cases h
    exact .inl rfl

theorem resolve_new {content : Bytes} (hp : t.Vacant p) {folder : Place}
    {path : String} (h : (t.put p (m.file content)).resolve folder path = .ok q) :
    t.resolve folder path = .ok q ∨ q = p := by
  obtain ⟨hnul, hempty, hw⟩ := resolve_eq_ok_iff.1 h
  rcases walk_new (e := .file content) hp.free rfl rfl (at?_put hp (m.file content)) true
    (linkLimit + 1) (start folder path) (parts path) with hsame | ⟨-, hnew | hnew⟩
  · exact .inl (resolve_eq_ok_iff.2 ⟨hnul, hempty, hsame ▸ hw⟩)
  · rw [hnew] at hw
    cases hw
    exact .inr rfl
  · rw [hnew] at hw
    cases hw

namespace Wrote

variable {folder : Place} {path : String} {content : Bytes} {number : Nat}

theorem of_same (hlength : checkLength path = .ok ())
    (hleads : t.resolve folder path = .ok p) (hat : t.at? p = some e) (he : e.isRegular = false)
    (hfolder : e.isFolder = false) : Wrote t t folder path content p where
  length := hlength
  leads := hleads
  before := .inr hleads
  grows := (Grows.refl t).imp (fun _ _ => False.elim) fun _ => False.elim
  back _ _ _ h := .inl h
  written := .inr ⟨e, hat, he, hfolder, rfl⟩

theorem of_rewrite (hlength : checkLength path = .ok ())
    (hleads : t.resolve folder path = .ok p) (hnumber : t.number? p = some number)
    (hentry : t.entryOf? number = some e) (he : e.isRegular = true) :
    Wrote t (t.rewrite m number fun _ => content) folder path content p where
  length := hlength
  leads := (keeps_rewrite m content hentry he).resolve hleads
  before := .inr hleads
  grows := (grows_rewrite m content hentry he).imp (fun _ _ hn => hn ▸ hnumber)
    fun _ => False.elim
  back _ _ _ h := .inl ((rewrite_keeps_back m content hentry he).resolve h)
  written := .inl (by rw [at?_rewrite m content hentry he, if_pos hnumber])

theorem of_put (hlength : checkLength path = .ok ()) (hp : t.Vacant p)
    (hleads : (t.put p (m.file [])).resolve folder path = .ok p) :
    Wrote t ((t.put p (m.file [])).rewrite m t.nodes.size fun _ => content) folder path content p := by
  have hnumber : (t.put p (m.file [])).number? p = some t.nodes.size := by
    rw [number?_put hp, if_pos rfl]
  have hentry : (t.put p (m.file [])).entryOf? t.nodes.size = some (.file []) := by
    rw [entryOf?_put hp, if_pos rfl]
    rfl
  have hwrote : Wrote (t.put p (m.file []))
      ((t.put p (m.file [])).rewrite m t.nodes.size fun _ => content) folder path content p :=
    of_rewrite hlength hleads hnumber hentry rfl
  refine ⟨hlength, hwrote.leads, .inl hp.free, ?_, ?_,
    .inl (by rw [at?_rewrite m content hentry rfl, if_pos hnumber])⟩
  · refine ((grows_put hp (.inr rfl)).trans (grows_rewrite m content hentry rfl)).imp ?_ ?_
    · rintro n hn (hfalse | rfl)
      · exact hfalse.elim
      · exact absurd hn (Nat.lt_irrefl _)
    · rintro q (rfl | hfalse)
      · rfl
      · exact hfalse.elim
  · intro folder path q hq
    rcases hwrote.back folder path q hq with hq | ⟨-, rfl⟩
    · exact (resolve_new hp hq).imp id fun hqp => ⟨hp.free, hqp⟩
    · exact .inr ⟨hp.free, rfl⟩

theorem was_there (h : Wrote t t' folder path content p)
    (hnumber : t.number? p = some number) :
    t.exists? folder path = true ∧ t.numberAt? folder path = some number := by
  obtain ⟨e, hat⟩ := at?_of_number? hnumber
  have hbefore : t.resolve folder path = .ok p := h.before.resolve_left (by simp [hat])
  exact ⟨exists?_iff.2 ⟨e, stat_eq_ok_iff_resolve.2 ⟨h.length, p, hbefore, hat⟩⟩,
    by rw [numberAt?_of_resolve hbefore, hnumber]⟩

/-- What was written stays as long as its node is left alone. -/
theorem at?_after {t'' : FileTree} {touched : Nat → Prop} {made : Place → Prop}
    (h : Wrote t t' folder path content p) (hgrows : Grows t' t'' touched made)
    (halone : ∀ n, t'.number? p = some n → ¬ touched n) : t''.at? p = t'.at? p := by
  obtain ⟨e, hat, -⟩ := resolve_arrives h.leads
  obtain ⟨n, hn, -⟩ := at?_eq_some.1 hat
  rw [at?, at?, hgrows.node?_eq hn (halone n hn)]

/-- A text that was written is read back, from a file and as long as nothing else is written
there. -/
theorem readText {t'' : FileTree} {touched : Nat → Prop} {made : Place → Prop} {text : String}
    (h : Wrote t t' folder path (Text.encode text) p) (hgrows : Grows t' t'' touched made)
    (halone : ∀ n, t'.number? p = some n → ¬ touched n)
    (hfile : t''.isFile folder path = true) : t''.readText folder path = .ok text := by
  have hleads := hgrows.keeps.resolve h.leads
  have hafter := h.at?_after hgrows halone
  obtain ⟨e, hstat, he⟩ := isFile_iff.1 hfile
  obtain ⟨-, q, hq, hat⟩ := stat_eq_ok_iff_resolve.1 hstat
  rw [hleads] at hq
  cases hq
  rw [hafter] at hat
  have hcontent : e = .file (Text.encode text) := by
    rcases h.written with hwritten | ⟨e', he', hother, -, rfl⟩
    · rw [hwritten] at hat
      cases hat
      rfl
    · rw [hat] at he'
      cases he'
      rw [he] at hother
      cases hother
  subst hcontent
  simp only [FileTree.readText, readBytes, hstat, bind, Except.bind, Entry.content?, pure,
    Except.pure, Text.decode?_encode, String.ofList_toList]

end Wrote

theorem wrote_of_writeFile {folder : Place} {path : String} {content : Bytes}
    (h : t.writeFile m folder path content = .ok t') : ∃ p, Wrote t t' folder path content p := by
  obtain ⟨⟨t₁, number⟩, hobtain, h⟩ := (bind_eq_ok_iff _ _ _).1 h
  obtain ⟨p, hobtains, hleads, hlength⟩ := obtain_resolves hobtain
  refine ⟨p, ?_⟩
  dsimp only at h
  cases hobtains with
  | there hat hlink hfolder hnumber =>
    rename_i e
    have hentry : t.entryOf? number = some e := by
      obtain ⟨k, hk, hentry⟩ := at?_eq_some.1 hat
      rw [hnumber] at hk
      cases hk
      exact hentry
    by_cases he : e.isRegular = true
    · rw [writeNode_of_regular content hentry he] at h
      cases h
      exact .of_rewrite hlength hleads hnumber hentry he
    · have he : e.isRegular = false := by simpa using he
      obtain rfl : t' = t := by
        rcases writeNode_eq_ok hentry h with rfl | ⟨-, rfl⟩
        · exact rewrite_of_not_regular m hentry he _
        · rfl
      exact .of_same hlength hleads hat he hfolder
  | new hp =>
    have hentry : (t.put p (m.file [])).entryOf? t.nodes.size = some (.file []) := by
      rw [entryOf?_put hp, if_pos rfl]
      rfl
    rw [writeNode_of_regular content hentry rfl] at h
    cases h
    exact .of_put hlength hp hleads

/-! ## Creating folders -/

theorem vacancy_isClosed {folder : Place} {path : String} {v : Vacancy}
    (h : t.vacancy folder path = .ok v) : v.isClosed = ((parts path).getLast? == some "") := by
  unfold vacancy at h
  by_cases hnul : Path.holdsNul path = true
  · simp only [hnul, if_true] at h
    cases h
  by_cases hempty : path = ""
  · simp only [hempty, if_true] at h
    cases h
  simp only [hnul, hempty, if_false] at h
  obtain ⟨_, -, h⟩ := (bind_eq_ok_iff _ _ _).1 h
  obtain ⟨parent, -, h⟩ := (bind_eq_ok_iff _ _ _).1 h
  split at h
  · cases h
    rw [List.head?_reverse]
  · cases h

/-- What has come of a tree when a folder was to be made sure of at one path: either all is as it
was, or there is a new folder where the path leads to. -/
theorem ensureFolder_cases {folder : Place} {path : String}
    (hopen : (parts path).getLast? ≠ some "") {problem : Option FileError}
    (h : t.ensureFolder m folder path = (t', problem)) :
    t' = t ∧ (problem = none → t.isFolder folder path = true) ∨
      problem = none ∧ ∃ p, t.Vacant p ∧ t' = t.put p m.folder ∧
        t'.resolve folder path = .ok p := by
  unfold ensureFolder at h
  cases hcreate : t.createFolder m folder path with
  | error e =>
    rw [hcreate] at h
    cases h
    exact .inl ⟨rfl, fun hnone => by simpa using hnone⟩
  | ok t₁ =>
    rw [hcreate] at h
    cases h
    refine .inr ⟨rfl, ?_⟩
    obtain ⟨p, htarget, hput⟩ := (bind_eq_ok_iff _ _ _).1 hcreate
    obtain ⟨v, hv, hplace⟩ := (bind_eq_ok_iff _ _ _).1 htarget
    cases hnone : t.at? p with
    | some e =>
      rw [hnone] at hput
      cases hput
    | none =>
      rw [hnone] at hput
      cases hput
      have hclosed : v.isClosed = false := by simpa [vacancy_isClosed hv] using hopen
      obtain ⟨hnul, hempty, -⟩ := vacancy_eq_ok hv hclosed
      exact ⟨p, vacant_of_vacancy hv hclosed hplace hnone, rfl,
        resolve_eq_ok_iff.2 ⟨hnul, hempty, walk_put hv hclosed hplace hnone rfl⟩⟩

theorem bind_ne_error {α β ε : Type} {x : Except ε α} {f : α → Except ε β} {problem : ε}
    (hx : x ≠ .error problem) (hf : ∀ a, f a ≠ .error problem) : x >>= f ≠ .error problem := by
  cases x with
  | error e =>
    intro h
    cases h
    exact hx rfl
  | ok a => exact hf a

theorem ensureFolder_ne_notFound {name path : String} (hp : t.at? p = some e)
    (hlink : e.isLink = false) (hname : IsFileName name) (hparts : parts path = "" :: (p ++ [name]))
    {folder : Place} : (t.ensureFolder m folder path).2 ≠ some (.system .notFound) := by
  have hnames := isFileName_concat (isFileName hp) hname
  obtain ⟨hnul, hempty, hstart⟩ := start_of_parts hparts (by simp) hnames folder
  have hway : t.walk true (linkLimit + 1) [] ("" :: p) = .ok p :=
    (walk_names (linkFree hp hlink) (isFileName hp) linkLimit).resolve_right
      (by simp [hp])
  have hreverse : (parts path).reverse = name :: ("" :: p).reverse := by
    rw [hparts, ← List.cons_append, List.reverse_append]
    rfl
  have hne : name ≠ "" := fun h => hname.named (.inl h)
  have hvacancy : t.vacancy folder path ≠ .error (.system .notFound) := by
    unfold vacancy
    simp only [hnul, hempty, Bool.false_eq_true, if_false, hreverse, hstart]
    rw [List.dropWhile_cons_of_neg (by simpa using hne), List.tail_cons, List.reverse_reverse, hway]
    apply bind_ne_error
    · unfold checkLength
      split_ifs <;> rintro ⟨⟩
    · intro _
      simp only [bind, Except.bind]
      split_ifs <;> rintro ⟨⟩
  have hcreate : t.createFolder m folder path ≠ .error (.system .notFound) := by
    refine bind_ne_error (bind_ne_error hvacancy fun v => ?_) fun q => ?_
    · unfold Vacancy.place
      split_ifs <;> rintro ⟨⟩
    · split <;> rintro ⟨⟩
  unfold ensureFolder
  split
  · simp
  · rename_i e he
    split_ifs
    · simp
    · rintro ⟨⟩
      exact hcreate he

/-- What has come of a tree when folders were to be created: what is new are folders, to which
some of the paths lead. -/
def Opens (t t' : FileTree) (folder : Place) (paths : List String) : Prop :=
  Grows t t' (fun _ => False) fun q =>
    t'.at? q = some .folder ∧ ∃ path ∈ paths, t'.resolve folder path = .ok q

namespace Opens

variable {t'' : FileTree} {folder : Place} {path : String} {paths paths' : List String}

theorem refl (t : FileTree) (paths : List String) : Opens t t folder paths :=
  (Grows.refl t).imp (fun _ _ h => h) fun _ => False.elim

theorem trans (h : Opens t t' folder paths) (h' : Opens t' t'' folder paths') :
    Opens t t'' folder (paths ++ paths') := by
  refine (Grows.trans h h').imp (fun _ _ hn => hn.elim id id) ?_
  rintro q (⟨hfolder, path, hpath, hq⟩ | ⟨hfolder, path, hpath, hq⟩)
  · exact ⟨h'.keeps.folder q hfolder, path, List.mem_append_left _ hpath, h'.keeps.resolve hq⟩
  · exact ⟨hfolder, path, List.mem_append_right _ hpath, hq⟩

theorem mono (h : Opens t t' folder paths) (hsubset : paths ⊆ paths') :
    Opens t t' folder paths' :=
  h.imp (fun _ _ hn => hn)
    fun _ ⟨hfolder, path, hpath, hq⟩ => ⟨hfolder, path, hsubset hpath, hq⟩

theorem of_put (hp : t.Vacant p) (hleads : (t.put p m.folder).resolve folder path = .ok p) :
    Opens t (t.put p m.folder) folder [path] := by
  refine (grows_put hp (.inl rfl)).imp (fun _ _ h => h) ?_
  rintro q rfl
  exact ⟨at?_put_self hp m.folder, path, List.mem_singleton_self _, hleads⟩

end Opens

def LeadsToEmpty (t : FileTree) (folder : Place) (path : String) : Prop :=
  ∃ q, t.resolve folder path = .ok q ∧ t.at? q = some .folder ∧
    ∀ name, t.at? (q ++ [name]) = none

theorem leadsToEmpty_put (hp : t.Vacant p) {folder : Place}
    {path : String} (hleads : (t.put p m.folder).resolve folder path = .ok p) :
    (t.put p m.folder).LeadsToEmpty folder path := by
  refine ⟨p, hleads, at?_put_self hp m.folder, fun name => ?_⟩
  rw [at?_put hp, if_neg (by simp), nothing_below hp]

theorem LeadsToEmpty.stat_ne_ok {folder : Place} {path name : String}
    (h : t.LeadsToEmpty folder path) (hname : IsFileName name) :
    t.stat folder (Path.join path name) ≠ .ok e := by
  intro hstat
  obtain ⟨q, hq, hfolder, hempty⟩ := h
  obtain ⟨e', he'⟩ := stands_of_stat hq hfolder hname.undivided hname.named hname.below hstat
  rw [hempty] at he'
  cases he'

theorem stat_of_isFolder {folder : Place} {path : String} (h : t.isFolder folder path = true) :
    ∃ e, t.stat folder path = .ok e := by
  unfold isFolder at h
  cases hstat : t.stat folder path with
  | ok e => exact ⟨e, rfl⟩
  | error e => simp [hstat] at h

section Nested

variable {folder : Place} {a b upper : String} {problem : Option FileError}
  (hp : t.at? p = some e) (hlink : e.isLink = false) (ha : IsFileName a) (hb : IsFileName b)
  (hupper : parts upper = "" :: (p ++ [a]))
include hp ha hb hupper

theorem parts_lower : parts (Path.join upper b) = "" :: (p ++ [a] ++ [b]) := by
  have hnames := isFileName_concat (isFileName hp) ha
  rw [eq_toPath hupper (by simp) hnames, parts_join_toPath, parts_of_not_mem hb.undivided]
  · exact fun name hname =>
      ⟨fun h => (hnames name hname).named (.inl h), (hnames name hname).undivided⟩
  · exact Path.isAbsolute_of_not_mem hb.undivided

include hlink

theorem createFoldersFrom_lower :
    createFoldersFrom m folder (Path.isAbsolute (Path.join upper b))
      (Path.names (Path.join upper b)).reverse.tail t = t.ensureFolder m folder upper := by
  have hnames := isFileName_concat (isFileName hp) ha
  have hlower := parts_lower hp ha hb hupper
  have hlast := isFileName_concat hnames hb
  have habsolute : Path.isAbsolute (Path.join upper b) = true := by
    rw [Path.isAbsolute, eq_toPath hlower (by simp) hlast, toList_toPath]
    rfl
  have hfiltered : Path.names (Path.join upper b) = p ++ [a] ++ [b] := by
    have hparts : Path.names (Path.join upper b) =
        (parts (Path.join upper b)).filter fun s => s != "" && s != "." := rfl
    rw [hparts, hlower, List.filter_cons_of_neg (by simp), List.filter_eq_self]
    intro name hname
    have hnamed := not_or.1 (hlast name hname).named
    simp [hnamed.1, hnamed.2]
  have habove : joinReversed true (a :: p.reverse) = upper := by
    rw [eq_toPath hupper (by simp) hnames, joinReversed, List.reverse_cons, List.reverse_reverse]
    rfl
  have hreverse : (p ++ [a] ++ [b]).reverse.tail = a :: p.reverse := by simp
  rw [habsolute, hfiltered, hreverse, createFoldersFrom, habove]
  split
  · rename_i hmissing
    exact absurd (congrArg Prod.snd hmissing) (ensureFolder_ne_notFound hp hlink ha hupper)
  · rfl

/-- Two folders below a place that stands, one in the other, are created as far as that is
possible. Where that is all done, the inner one was there before or is empty. -/
theorem createFolders_opens (h : t.createFolders m folder (Path.join upper b) = (t', problem)) :
    Opens t t' folder [upper, Path.join upper b] ∧
      (problem = none → t' = t ∨ t'.LeadsToEmpty folder (Path.join upper b)) := by
  have hopen : (parts upper).getLast? ≠ some "" := by
    rw [hupper, ← List.cons_append, List.getLast?_concat]
    rintro ⟨⟩
    exact ha.named (.inl rfl)
  have hopen' : (parts (Path.join upper b)).getLast? ≠ some "" := by
    rw [parts_lower hp ha hb hupper, ← List.cons_append, List.getLast?_concat]
    rintro ⟨⟩
    exact hb.named (.inl rfl)
  rw [createFolders] at h
  rcases hfirst : t.ensureFolder m folder (Path.join upper b) with ⟨t₁, first⟩
  rw [hfirst] at h
  rcases ensureFolder_cases hopen' hfirst with
    ⟨rfl, -⟩ | ⟨rfl, q, hq, rfl, hleads⟩
  · split at h
    · rename_i hmissing
      obtain ⟨rfl, rfl⟩ := Prod.mk.inj hmissing
      rw [createFoldersFrom_lower hp hlink ha hb hupper] at h
      rcases hsecond : t₁.ensureFolder m folder upper with ⟨t₂, second⟩
      rw [hsecond] at h
      rcases ensureFolder_cases hopen hsecond with
        ⟨rfl, -⟩ | ⟨rfl, q, hq, rfl, hleads⟩
      · -- Nothing was created above, so the path itself is missed again.
        cases second with
        | none =>
          dsimp only at h
          rw [hfirst] at h
          cases h
          exact ⟨.refl _ _, fun hnone => .inl rfl⟩
        | some e' =>
          cases h
          exact ⟨.refl _ _, fun hnone => .inl rfl⟩
      · dsimp only at h
        have hopens := Opens.of_put hq hleads
        have hempty := leadsToEmpty_put hq hleads
        rcases ensureFolder_cases hopen' h with
          ⟨rfl, hthere⟩ | ⟨-, r, hr, rfl, hleads'⟩
        · refine ⟨hopens.mono (by simp), fun hnone => ?_⟩
          obtain ⟨e', hstat⟩ := stat_of_isFolder (hthere hnone)
          exact absurd hstat (hempty.stat_ne_ok hb)
        · exact ⟨hopens.trans (.of_put hr hleads'),
            fun _ => .inr (leadsToEmpty_put hr hleads')⟩
    · cases h
      exact ⟨.refl _ _, fun _ => .inl rfl⟩
  · cases h
    exact ⟨(Opens.of_put hq hleads).mono (by simp),
      fun _ => .inr (leadsToEmpty_put hq hleads)⟩

end Nested

end FileTree

end Assay
