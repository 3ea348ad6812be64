import FramePlan.Proofs.Lists
import FramePlan.Table

/-!
# Laws of tables

What is found in a table is one of its entries, and a table holds nothing but what was put into it. Of
the entries of some kind the last one in the list is the last one by key.

* `exists_last_at`: of the entries for one place, the last one counts.
* `get?_eq_some_iff`, `get?_filterMap`: what is found is what the entries are.
* `get?_insert_eq_ite`: what is found after an insertion.
* `get?_ofList_eq_some_iff`: of entries with one key the last one is kept.
* `ofList_eq_of_perm`: a table comes back from its entries in any order.
-/

namespace FramePlan

universe u v w

namespace Table

variable {κ : Type u} {α : Type v} {β : Type w} [Ord κ]

theorem mem_of_find? {key : κ} {value : α} {entries : List (κ × α)}
    (hfind : find? key entries = some value) : ∃ stored, (stored, value) ∈ entries := by
  induction entries with
  | nil => cases hfind
  | cons entry rest ih =>
    obtain ⟨stored, old⟩ := entry
    rw [find?] at hfind
    by_cases hkey : compare key stored = .eq
    · rw [if_pos hkey] at hfind
      cases hfind
      exact ⟨stored, List.mem_cons_self⟩
    · rw [if_neg hkey] at hfind
      obtain ⟨other, hother⟩ := ih hfind
      exact ⟨other, List.mem_cons_of_mem _ hother⟩

theorem mem_of_get? {table : Table κ α} {key : κ} {value : α} (hget : table.get? key = some value) :
    ∃ stored, (stored, value) ∈ table.entries := mem_of_find? hget

theorem mem_foldl_insert [Std.TransOrd κ] {entries : List (κ × α)} {table : Table κ α}
    {entry : κ × α}
    (hmem : entry ∈ (entries.foldl (fun table entry => table.insert entry.1 entry.2)
      table).entries) : entry ∈ table.entries ∨ entry ∈ entries := by
  induction entries generalizing table with
  | nil => exact .inl hmem
  | cons head rest ih =>
    rcases ih hmem with hinserted | hrest
    · rcases mem_insertEntry hinserted with rfl | htable
      · exact .inr List.mem_cons_self
      · exact .inl htable
    · exact .inr (List.mem_cons_of_mem _ hrest)

theorem find?_map (f : α → β) (key : κ) (entries : List (κ × α)) :
    find? key (entries.map fun entry => (entry.1, f entry.2)) = (find? key entries).map f := by
  induction entries with
  | nil => rfl
  | cons entry rest ih =>
    obtain ⟨stored, value⟩ := entry
    rw [List.map_cons, find?, find?, ih]
    by_cases hkey : compare key stored = .eq
    · rw [if_pos hkey, if_pos hkey, Option.map_some]
    · rw [if_neg hkey, if_neg hkey]

@[simp]
theorem get?_mapValues (f : α → β) (table : Table κ α) (key : κ) :
    (table.mapValues f).get? key = (table.get? key).map f :=
  find?_map f key table.entries

@[simp]
theorem values_mapValues (f : α → β) (table : Table κ α) :
    (table.mapValues f).values = table.values.map f := by
  rw [values, values, mapValues, List.map_map, List.map_map]
  rfl

theorem mapValues_mapIdx {γ : Type w} (f : β → γ) (g : Nat → κ → α → β) (table : Table κ α) :
    (table.mapIdx g).mapValues f = table.mapIdx fun index key value => f (g index key value) := by
  apply ext
  exact List.map_map

theorem mem_of_mem_ofList [Std.TransOrd κ] {entries : List (κ × α)} {entry : κ × α}
    (hmem : entry ∈ (ofList entries).entries) : entry ∈ entries := by
  rcases mem_foldl_insert hmem with hempty | hentries
  · cases hempty
  · exact hentries

section Lawful

variable [Std.LawfulEqOrd κ]

theorem find?_eq_some_iff {entries : List (κ × α)}
    (hascending : entries.Pairwise fun earlier later => compare earlier.1 later.1 = .lt) {key : κ}
    {value : α} : find? key entries = some value ↔ (key, value) ∈ entries := by
  induction entries with
  | nil => simp [find?]
  | cons entry rest ih =>
    obtain ⟨stored, old⟩ := entry
    obtain ⟨hfirst, hrest⟩ := List.pairwise_cons.1 hascending
    simp only [find?, List.mem_cons, Std.compare_eq_iff_eq]
    by_cases hkey : key = stored
    · subst hkey
      have hlater : (key, value) ∉ rest := fun hmem => by
        simpa [Std.compare_self] using hfirst _ hmem
      simp [hlater, eq_comm]
    · simp [hkey, ih hrest]

/-- The entries of a table are what is found in it. -/
theorem get?_eq_some_iff {table : Table κ α} {key : κ} {value : α} :
    table.get? key = some value ↔ (key, value) ∈ table.entries :=
  find?_eq_some_iff table.ascending

theorem get?_filterMap (f : κ → α → Option β) (table : Table κ α) (key : κ) :
    (table.filterMap f).get? key = (table.get? key).bind (f key) := by
  apply Option.ext
  intro image
  rw [get?_eq_some_iff, filterMap, List.mem_filterMap, Option.bind_eq_some_iff]
  constructor
  · rintro ⟨⟨stored, value⟩, hmem, himage⟩
    obtain ⟨_, hvalue, hentry⟩ := Option.map_eq_some_iff.1 himage
    cases hentry
    exact ⟨value, get?_eq_some_iff.2 hmem, hvalue⟩
  · rintro ⟨value, hget, himage⟩
    exact ⟨(key, value), get?_eq_some_iff.1 hget, by simp [himage]⟩

theorem exists_of_get?_mapIdx {f : Nat → κ → α → β} {table : Table κ α} {key : κ} {image : β}
    (hget : (table.mapIdx f).get? key = some image) :
    ∃ earlier value later, table.entries = earlier ++ (key, value) :: later ∧
      image = f earlier.length key value := by
  have hmem := get?_eq_some_iff.1 hget
  obtain ⟨⟨⟨stored, value⟩, index⟩, hplace, hentry⟩ := List.mem_map.1 hmem
  cases hentry
  have hindex := List.mk_mem_zipIdx_iff_getElem?.1 hplace
  obtain ⟨hlt, hentry⟩ := List.getElem?_eq_some_iff.1 hindex
  refine ⟨table.entries.take index, value, table.entries.drop (index + 1), ?_, ?_⟩
  · rw [← hentry, List.getElem_cons_drop, List.take_append_drop]
  · rw [List.length_take, Nat.min_eq_left (Nat.le_of_lt hlt)]

theorem nodup_keys (table : Table κ α) : table.keys.Nodup := by
  rw [keys, List.Nodup, List.pairwise_map]
  apply table.ascending.imp
  intro earlier later hlt heq
  simp [heq, Std.compare_self] at hlt

theorem nodup_entries (table : Table κ α) : table.entries.Nodup := by
  apply table.ascending.imp
  rintro entry _ hlt rfl
  simp [Std.compare_self] at hlt

variable [Std.TransOrd κ]

/-- A value is found under its key, and under every other key what was there. -/
theorem get?_insert_eq_ite [DecidableEq κ] (table : Table κ α) (key other : κ) (value : α) :
    (table.insert key value).get? other = if key = other then some value else table.get? other := by
  rw [get?_insert]
  by_cases hsame : key = other
  · rw [if_pos hsame, if_pos (Std.compare_eq_iff_eq.2 hsame.symm)]
  · rw [if_neg hsame, if_neg (mt Std.compare_eq_iff_eq.1 (Ne.symm hsame))]

/-- What is put under other keys is not found. -/
theorem get?_foldl_insert_of_ne {entries : List (κ × α)} {key : κ}
    (hother : ∀ entry ∈ entries, entry.1 ≠ key) (table : Table κ α) :
    (entries.foldl (fun table entry => table.insert entry.1 entry.2) table).get? key =
      table.get? key := by
  induction entries generalizing table with
  | nil => rfl
  | cons entry rest ih =>
    obtain ⟨hentry, hrest⟩ := List.forall_mem_cons.1 hother
    rw [List.foldl_cons, ih hrest, get?_insert, if_neg]
    rw [Std.compare_eq_iff_eq]
    exact Ne.symm hentry

theorem exists_of_get?_foldl_insert {entries : List (κ × α)} {key : κ} {value : α}
    {table : Table κ α}
    (hget : (entries.foldl (fun table entry => table.insert entry.1 entry.2) table).get? key =
      some value) :
    (∃ before after, entries = before ++ (key, value) :: after ∧
      ∀ entry ∈ after, entry.1 ≠ key) ∨
    (table.get? key = some value ∧ ∀ entry ∈ entries, entry.1 ≠ key) := by
  induction entries generalizing table with
  | nil => exact .inr ⟨hget, by simp⟩
  | cons entry rest ih =>
    rcases ih hget with ⟨before, after, rfl, hafter⟩ | ⟨hinserted, hrest⟩
    · exact .inl ⟨entry :: before, after, rfl, hafter⟩
    · rw [get?_insert] at hinserted
      by_cases hkey : compare key entry.1 = .eq
      · rw [if_pos hkey] at hinserted
        cases Std.compare_eq_iff_eq.1 hkey
        cases hinserted
        exact .inl ⟨[], rest, rfl, hrest⟩
      · rw [if_neg hkey] at hinserted
        rw [Std.compare_eq_iff_eq] at hkey
        exact .inr ⟨hinserted, List.forall_mem_cons.2 ⟨Ne.symm hkey, hrest⟩⟩

/-- Of entries with one key the last one is kept. -/
theorem get?_ofList_eq_some_iff {entries : List (κ × α)} {key : κ} {value : α} :
    (ofList entries).get? key = some value ↔
      ∃ before after, entries = before ++ (key, value) :: after ∧
        ∀ entry ∈ after, entry.1 ≠ key := by
  constructor
  · intro hget
    rcases exists_of_get?_foldl_insert hget with hkept | ⟨hempty, _⟩
    · exact hkept
    · cases hempty
  · rintro ⟨before, after, rfl, hafter⟩
    rw [ofList, List.foldl_append, List.foldl_cons, get?_foldl_insert_of_ne hafter,
      get?_insert_self]

/-- Where every key occurs once, every entry is kept. -/
theorem mem_ofList_iff {entries : List (κ × α)} (hkeys : (entries.map Prod.fst).Nodup)
    {entry : κ × α} : entry ∈ (ofList entries).entries ↔ entry ∈ entries := by
  refine ⟨mem_of_mem_ofList, ?_⟩
  intro hmem
  obtain ⟨before, after, rfl⟩ := List.append_of_mem hmem
  rw [← get?_eq_some_iff, get?_ofList_eq_some_iff]
  refine ⟨before, after, rfl, ?_⟩
  rw [List.map_append, List.map_cons] at hkeys
  intro other hother heq
  have hlater : entry.1 ∉ after.map Prod.fst := 
    (List.nodup_cons.1 (List.nodup_append.1 hkeys).2.1).1
  exact hlater (heq ▸ List.mem_map_of_mem hother)

/-- A table comes back from its entries in any order. -/
theorem ofList_eq_of_perm {table : Table κ α} {entries : List (κ × α)}
    (hperm : entries.Perm table.entries) : ofList entries = table := by
  have hkeys : (entries.map Prod.fst).Nodup := (hperm.map Prod.fst).nodup_iff.2 table.nodup_keys
  have hsame : (ofList entries).entries.Perm table.entries := by
    apply (List.perm_ext_iff_of_nodup (ofList entries).nodup_entries table.nodup_entries).2
    intro entry
    rw [mem_ofList_iff hkeys, hperm.mem_iff]
  apply ext
  apply List.Perm.eq_of_pairwise _ (ofList entries).ascending table.ascending hsame
  intro left right _ _ hlt hgt
  cases hlt.symm.trans (Std.OrientedCmp.gt_iff_lt.2 hgt)

end Lawful

end Table

end FramePlan
