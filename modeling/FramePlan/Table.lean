/-!
# Tables ordered by key

A table holds one value per key in ascending key order. The order is part of the type, so two
tables with the same look-ups are the same table however they were filled, and a table's entries
are always listed in the order in which a reader expects them.
-/

namespace FramePlan

universe u v w

/-- Entries in strictly ascending key order. -/
structure Table (κ : Type u) (α : Type v) [Ord κ] where
  entries : List (κ × α)
  ascending : entries.Pairwise (fun earlier later => compare earlier.1 later.1 = .lt)

namespace Table

variable {κ : Type u} {α : Type v} [Ord κ]

@[ext]
theorem ext {left right : Table κ α} (heq : left.entries = right.entries) : left = right := by
  cases left
  cases right
  cases heq
  rfl

instance [DecidableEq κ] [DecidableEq α] : DecidableEq (Table κ α) := fun left right =>
  if heq : left.entries = right.entries then isTrue (ext heq)
  else isFalse (fun h => heq (congrArg entries h))

/-- The table without entries. -/
def empty : Table κ α := ⟨[], .nil⟩

instance : Inhabited (Table κ α) := ⟨empty⟩

/-- The value of the first entry with the key. -/
def find? (key : κ) : List (κ × α) → Option α
  | [] => none
  | (stored, value) :: rest => if compare key stored = .eq then some value else find? key rest

def get? (table : Table κ α) (key : κ) : Option α := find? key table.entries

def contains (table : Table κ α) (key : κ) : Bool := (table.get? key).isSome

/-- The keys, in ascending order. -/
def keys (table : Table κ α) : List κ := table.entries.map Prod.fst

/-- The values, in the order of their keys. -/
def values (table : Table κ α) : List α := table.entries.map Prod.snd

/-- Puts a key at its place among ascending entries; an equal key is replaced. -/
def insertEntry (key : κ) (value : α) : List (κ × α) → List (κ × α)
  | [] => [(key, value)]
  | (stored, old) :: rest =>
    match compare key stored with
    | .lt => (key, value) :: (stored, old) :: rest
    | .eq => (key, value) :: rest
    | .gt => (stored, old) :: insertEntry key value rest

theorem mem_insertEntry {key : κ} {value : α} {entry : κ × α} {entries : List (κ × α)}
    (hmem : entry ∈ insertEntry key value entries) : entry = (key, value) ∨ entry ∈ entries := by
  induction entries with
  | nil => simpa [insertEntry] using hmem
  | cons head rest ih =>
    obtain ⟨stored, old⟩ := head
    simp only [insertEntry] at hmem
    split at hmem
    · simpa using hmem
    · rcases List.mem_cons.1 hmem with h | h
      · exact .inl h
      · exact .inr (List.mem_cons_of_mem _ h)
    · rcases List.mem_cons.1 hmem with h | h
      · exact .inr (h ▸ List.mem_cons_self)
      · exact (ih h).imp_right (List.mem_cons_of_mem _)

theorem ascending_insertEntry [Std.TransOrd κ] {key : κ} {value : α} {entries : List (κ × α)}
    (hsorted : entries.Pairwise (fun earlier later => compare earlier.1 later.1 = .lt)) :
    (insertEntry key value entries).Pairwise
      (fun earlier later => compare earlier.1 later.1 = .lt) := by
  induction entries with
  | nil => simp [insertEntry]
  | cons head rest ih =>
    obtain ⟨stored, old⟩ := head
    have hrest := List.pairwise_cons.1 hsorted
    simp only [insertEntry]
    split
    · next hlt =>
      refine List.pairwise_cons.2 ⟨?_, hsorted⟩
      intro entry hentry
      rcases List.mem_cons.1 hentry with h | h
      · exact h ▸ hlt
      · exact Std.TransCmp.lt_trans hlt (hrest.1 entry h)
    · next heq =>
      refine List.pairwise_cons.2 ⟨?_, hrest.2⟩
      intro entry hentry
      exact Std.TransCmp.lt_of_eq_of_lt heq (hrest.1 entry hentry)
    · next hgt =>
      refine List.pairwise_cons.2 ⟨?_, ih hrest.2⟩
      intro entry hentry
      rcases mem_insertEntry hentry with h | h
      · exact h ▸ Std.OrientedCmp.gt_iff_lt.1 hgt
      · exact hrest.1 entry h

/-- The table with a value put under a key, in place of any earlier value. -/
def insert [Std.TransOrd κ] (table : Table κ α) (key : κ) (value : α) : Table κ α :=
  ⟨insertEntry key value table.entries, ascending_insertEntry table.ascending⟩

/-- The table of a list of entries; of entries with one key the last one counts. -/
def ofList [Std.TransOrd κ] (entries : List (κ × α)) : Table κ α :=
  entries.foldl (fun table entry => table.insert entry.1 entry.2) empty

def mapValues {β : Type w} (f : α → β) (table : Table κ α) : Table κ β :=
  ⟨table.entries.map (fun entry => (entry.1, f entry.2)),
    List.pairwise_map.2 table.ascending⟩

/-- The table of the images of those entries that have one. -/
def filterMap {β : Type w} (f : κ → α → Option β) (table : Table κ α) : Table κ β :=
  ⟨table.entries.filterMap (fun entry => (f entry.1 entry.2).map (entry.1, ·)),
    List.pairwise_filterMap.2 (table.ascending.imp fun hlt => by
      intro first hfirst second hsecond
      obtain ⟨_, _, rfl⟩ := Option.map_eq_some_iff.1 hfirst
      obtain ⟨_, _, rfl⟩ := Option.map_eq_some_iff.1 hsecond
      exact hlt)⟩

/-- Entries stay ascending when their places are put beside them. -/
theorem ascending_zipIdx (table : Table κ α) :
    table.entries.zipIdx.Pairwise
      (fun earlier later => compare earlier.1.1 later.1.1 = .lt) := by
  have hfirst := table.ascending
  rw [← List.zipIdx_map_fst 0 table.entries] at hfirst
  exact List.pairwise_map.1 hfirst

/-- The table with every value replaced by its image, given also its place among the entries and its
key. -/
def mapIdx {β : Type w} (f : Nat → κ → α → β) (table : Table κ α) : Table κ β :=
  ⟨table.entries.zipIdx.map (fun entry => (entry.1.1, f entry.2 entry.1.1 entry.1.2)),
    List.pairwise_map.2 table.ascending_zipIdx⟩

theorem find?_insertEntry [Std.TransOrd κ] (key other : κ) (value : α) (entries : List (κ × α)) :
    find? other (insertEntry key value entries) =
      if compare other key = .eq then some value else find? other entries := by
  induction entries with
  | nil => simp [insertEntry, find?]
  | cons head rest ih =>
    obtain ⟨stored, old⟩ := head
    simp only [insertEntry]
    split
    · simp [find?]
    · next heq =>
      have hsame : compare other key = .eq ↔ compare other stored = .eq :=
        ⟨fun h => Std.TransCmp.eq_trans h heq,
          fun h => Std.TransCmp.eq_trans h (Std.OrientedCmp.eq_symm heq)⟩
      by_cases h : compare other key = .eq
      · simp [find?, h]
      · simp [find?, h, mt hsame.2 h]
    · next hgt =>
      simp only [find?, ih]
      by_cases hstored : compare other stored = .eq
      · have hkey : compare other key ≠ .eq := by
          intro h
          have := Std.TransCmp.eq_trans (Std.OrientedCmp.eq_symm h) hstored
          simp [this] at hgt
        simp [hstored, hkey]
      · simp [hstored]

@[simp]
theorem get?_empty (key : κ) : (empty : Table κ α).get? key = none := rfl

theorem get?_insert [Std.TransOrd κ] (table : Table κ α) (key other : κ) (value : α) :
    (table.insert key value).get? other =
      if compare other key = .eq then some value else table.get? other :=
  find?_insertEntry key other value table.entries

@[simp]
theorem get?_insert_self [Std.TransOrd κ] (table : Table κ α) (key : κ) (value : α) :
    (table.insert key value).get? key = some value := by
  simp [get?_insert]

end Table

end FramePlan
