import Assay.Toml.Reader

/-!
# Keys are bound once

However a text is laid out, with dotted keys, headers or lists of tables, what is
read from it binds no key of the root table twice: every change to a table either
adds a key that it does not bind yet, or binds a key in the place of its earlier
binding. So it does not matter in which order the bindings are looked at.
-/

set_option autoImplicit false

namespace Assay.Toml

namespace Entries

variable {entries entries' : Entries} {key : String} {item : Item}

def Distinct (entries : Entries) : Prop := (entries.map Prod.fst).Nodup

theorem get?_cons (first : String) (item : Item) (entries : Entries) (key : String) :
    get? ((first, item) :: entries) key =
      if first = key then some item else get? entries key := by
  by_cases hkey : first = key <;> simp [get?, hkey]

theorem isSome_get?_iff : (get? entries key).isSome = true ↔ key ∈ entries.map Prod.fst := by
  simp [get?]

theorem get?_eq_some_iff (hd : Distinct entries) :
    get? entries key = some item ↔ (key, item) ∈ entries := by
  induction entries with
  | nil => simp [get?]
  | cons e entries ih =>
    obtain ⟨first, value⟩ := e
    obtain ⟨hnew, hd⟩ := List.nodup_cons.1 hd
    rw [get?_cons, List.mem_cons, Prod.mk.injEq]
    by_cases hkey : first = key
    · subst hkey
      have habsent : (first, item) ∉ entries := fun h => hnew (List.mem_map.2 ⟨_, h, rfl⟩)
      simp [habsent, eq_comm]
    · simp [hkey, Ne.symm hkey, ih hd]

theorem get?_perm (hd : Distinct entries) (hp : entries'.Perm entries) :
    get? entries' key = get? entries key := by
  have hd' : Distinct entries' := (hp.map Prod.fst).nodup_iff.2 hd
  apply Option.ext
  intro item
  rw [get?_eq_some_iff hd', get?_eq_some_iff hd, hp.mem_iff]

theorem distinct_add? (hd : Distinct entries) (h : add? entries key item = some entries') :
    Distinct entries' := by
  rw [add?] at h
  split at h
  · cases h
  · rename_i hnew
    cases h
    rw [isSome_get?_iff] at hnew
    rw [Distinct, List.map_append, List.map_singleton]
    refine List.nodup_append.2 ⟨hd, by simp, fun k hk k' hk' => ?_⟩
    rw [List.mem_singleton.1 hk']
    exact ne_of_mem_of_not_mem hk hnew

theorem distinct_put (hd : Distinct entries) (key : String) (item : Item) :
    Distinct (put entries key item) := by
  rw [put]
  split
  · have hkeys : (entries.map fun e => if e.1 == key then (key, item) else e).map Prod.fst =
        entries.map Prod.fst := by
      rw [List.map_map]
      apply List.map_congr_left
      intro e _
      by_cases hkey : e.1 = key <;> simp [hkey]
    rw [Distinct, hkeys]
    exact hd
  · rename_i hnew
    exact distinct_add? hd (if_neg hnew)

theorem distinct_of_map_put {α : Type} {inner : Option α} {table : α → Item}
    (hd : Distinct entries)
    (h : (inner.map fun a => put entries key (table a)) = some entries') : Distinct entries' := by
  obtain ⟨a, -, rfl⟩ := Option.map_eq_some_iff.1 h
  exact distinct_put hd key (table a)

end Entries

open Entries

variable {entries entries' : Entries}

theorem distinct_addDotted? {key : String} {item : Item} {path : List String}
    (hd : Distinct entries) (h : addDotted? key item path entries = some entries') :
    Distinct entries' := by
  unfold addDotted? at h
  split at h
  · exact distinct_add? hd h
  all_goals
    split at h
    all_goals first
      | cases h; exact distinct_put hd _ _
      | exact distinct_of_map_put hd h
      | cases h

theorem distinct_changeAt? {f : Entries → Option Entries} {path : List String}
    (hf : ∀ {e}, f entries = some e → Distinct e) (hd : Distinct entries)
    (h : changeAt? f path entries = some entries') : Distinct entries' := by
  unfold changeAt? at h
  split at h
  · exact hf h
  · split at h
    all_goals first
      | exact distinct_of_map_put hd h
      | cases h

theorem distinct_openTable? {key : String} (hd : Distinct entries)
    (h : openTable? key entries = some entries') : Distinct entries' := by
  unfold openTable? at h
  split at h
  all_goals first
    | cases h; exact distinct_put hd _ _
    | cases h

theorem distinct_openElement? {key : String} (hd : Distinct entries)
    (h : openElement? key entries = some entries') : Distinct entries' := by
  unfold openElement? at h
  split at h
  all_goals first
    | cases h; exact distinct_put hd _ _
    | cases h

theorem distinct_line? {p p' : Progress} {cs rest : List Char} (hd : Distinct p.root)
    (h : line? p cs = some (p', rest)) : Distinct p'.root := by
  unfold line? at h
  split at h
  all_goals
    obtain ⟨⟨path, more⟩, -, h⟩ := Option.bind_eq_some_iff.1 h
    dsimp only at h
    split at h
  · obtain ⟨root, hroot, h⟩ := Option.bind_eq_some_iff.1 h
    obtain ⟨tail, -, h⟩ := Option.bind_eq_some_iff.1 h
    cases h
    exact distinct_changeAt? (distinct_openElement? hd) hd hroot
  · cases h
  · obtain ⟨root, hroot, h⟩ := Option.bind_eq_some_iff.1 h
    obtain ⟨tail, -, h⟩ := Option.bind_eq_some_iff.1 h
    cases h
    exact distinct_changeAt? (distinct_openTable? hd) hd hroot
  · cases h
  · obtain ⟨⟨item, behind⟩, -, h⟩ := Option.bind_eq_some_iff.1 h
    obtain ⟨root, hroot, h⟩ := Option.bind_eq_some_iff.1 h
    obtain ⟨tail, -, h⟩ := Option.bind_eq_some_iff.1 h
    cases h
    exact distinct_changeAt? (distinct_addDotted? hd) hd hroot
  · cases h

theorem distinct_lines? {fuel : Nat} {p : Progress} {cs : List Char} (hd : Distinct p.root)
    (h : lines? fuel p cs = some entries) : Distinct entries := by
  induction fuel generalizing p cs with
  | zero => cases h
  | succ fuel ih =>
    rw [lines?] at h
    obtain ⟨start, -, h⟩ := Option.bind_eq_some_iff.1 h
    split at h
    · cases h
      exact hd
    · obtain ⟨⟨p', rest⟩, hline, h⟩ := Option.bind_eq_some_iff.1 h
      exact ih (distinct_line? hd hline) h

theorem distinct_parse? {text : String} (h : parse? text = some entries) : Distinct entries :=
  distinct_lines? (show Distinct [] from List.nodup_nil) h

end Assay.Toml
