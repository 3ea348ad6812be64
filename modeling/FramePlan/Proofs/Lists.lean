import Mathlib.Data.List.Basic

/-!
# Lists in order

Facts about lists that a frame goes through in order: what comes before an element, what the last
element of a kind is, and what the parts of a joined list add up to.
-/

namespace FramePlan

universe u v

/-- Every element of a list with those before it, behind some that come earlier still. -/
def withEarlier {α : Type} (earlier : List α) : List α → List (List α × α)
  | [] => []
  | item :: rest => (earlier, item) :: withEarlier (earlier ++ [item]) rest

theorem exists_append_of_mem_withEarlier {α : Type} {earlier items : List α} {place : List α × α}
    (hmem : place ∈ withEarlier earlier items) :
    ∃ later, earlier ++ items = place.1 ++ place.2 :: later := by
  induction items generalizing earlier with
  | nil => cases hmem
  | cons item rest ih =>
    rcases List.mem_cons.1 hmem with rfl | hrest
    · exact ⟨rest, rfl⟩
    · obtain ⟨later, hlater⟩ := ih hrest
      exact ⟨later, by rw [← hlater, List.append_assoc, List.singleton_append]⟩

theorem withEarlier_append {α : Type} (earlier items later : List α) :
    withEarlier earlier (items ++ later) =
      withEarlier earlier items ++ withEarlier (earlier ++ items) later := by
  induction items generalizing earlier with
  | nil =>
    rw [List.append_nil]
    rfl
  | cons item rest ih =>
    rw [List.cons_append, withEarlier, withEarlier, ih, List.append_assoc, List.singleton_append,
      List.cons_append]

/-- The elements before a place are all those that come earlier. -/
theorem exists_of_withEarlier_eq {α : Type} {earlier items : List α} {place : List α × α}
    {first last : List (List α × α)} (heq : withEarlier earlier items = first ++ place :: last) :
    ∃ passed later, items = passed ++ place.2 :: later ∧ place.1 = earlier ++ passed ∧
      first = withEarlier earlier passed := by
  induction items generalizing earlier first with
  | nil => simp [withEarlier] at heq
  | cons item rest ih =>
    cases first with
    | nil =>
      cases heq
      exact ⟨[], rest, rfl, (List.append_nil earlier).symm, rfl⟩
    | cons head others =>
      obtain ⟨rfl, hrest⟩ := List.cons.inj heq
      obtain ⟨passed, later, rfl, hplace, rfl⟩ := ih hrest
      refine ⟨item :: passed, later, rfl, ?_, rfl⟩
      rw [hplace, List.append_assoc, List.singleton_append]

/-- An element of two lists in turn is one of the first, or comes after all of it in the second. -/
theorem exists_of_append_eq_append_cons {α : Type} {first second passed later : List α} {item : α}
    (heq : first ++ second = passed ++ item :: later) :
    (∃ rest, first = passed ++ item :: rest) ∨
      ∃ others, passed = first ++ others ∧ second = others ++ item :: later := by
  rcases List.append_eq_append_iff.1 heq with ⟨others, hpassed, hsecond⟩ | ⟨rest, hfirst, hlater⟩
  · exact .inr ⟨others, hpassed, hsecond⟩
  · cases rest with
    | nil => exact .inr ⟨[], by simpa using hfirst.symm, hlater.symm⟩
    | cons head rest =>
      obtain ⟨rfl, _⟩ := List.cons.inj hlater
      exact .inl ⟨rest, hfirst⟩

/-- Where a list relates what comes earlier to what comes later, elements that are not related have one
place. -/
theorem eq_of_append_cons_eq {α : Type} {related : α → α → Prop} {first last first' last' : List α}
    {item item' : α} (hpairwise : (first ++ item :: last).Pairwise related)
    (heq : first ++ item :: last = first' ++ item' :: last') (hitem : ¬related item item')
    (hitem' : ¬related item' item) : first = first' ∧ item = item' ∧ last = last' := by
  obtain ⟨_, htail, hfirst⟩ := List.pairwise_append.1 hpairwise
  have hlast := (List.pairwise_cons.1 htail).1
  rcases List.append_eq_append_iff.1 heq with ⟨between, rfl, hrest⟩ | ⟨between, rfl, hrest⟩
  · cases between with
    | nil =>
      obtain ⟨rfl, rfl⟩ := List.cons.inj hrest
      exact ⟨(List.append_nil _).symm, rfl, rfl⟩
    | cons head others =>
      obtain ⟨rfl, rfl⟩ := List.cons.inj hrest
      exact absurd (hlast item' (by simp)) hitem
  · cases between with
    | nil =>
      obtain ⟨rfl, rfl⟩ := List.cons.inj hrest
      exact ⟨List.append_nil _, rfl, rfl⟩
    | cons head others =>
      obtain ⟨rfl, rfl⟩ := List.cons.inj hrest
      exact absurd (hfirst item' (by simp) item List.mem_cons_self) hitem'

theorem exists_of_flatMap_eq {α β : Type} {items : List α} {parts : α → List β}
    {before after : List β} {found : β} (heq : items.flatMap parts = before ++ found :: after) :
    ∃ first item last inside rest, items = first ++ item :: last ∧
      parts item = inside ++ found :: rest ∧ before = first.flatMap parts ++ inside := by
  induction items generalizing before with
  | nil => simp at heq
  | cons item others ih =>
    rw [List.flatMap_cons, List.append_eq_append_iff] at heq
    have hlater {behind : List β} (hbefore : before = parts item ++ behind)
        (hothers : others.flatMap parts = behind ++ found :: after) :
        ∃ first other last inside rest, item :: others = first ++ other :: last ∧
          parts other = inside ++ found :: rest ∧ before = first.flatMap parts ++ inside := by
      obtain ⟨first, other, last, inside, rest, rfl, hpart, rfl⟩ := ih hothers
      refine ⟨item :: first, other, last, inside, rest, rfl, hpart, ?_⟩
      rw [hbefore, List.flatMap_cons, List.append_assoc]
    rcases heq with ⟨behind, hbefore, hothers⟩ | ⟨inner, hitem, hrest⟩
    · exact hlater hbefore hothers
    · -- what is found may be the head of a later part
      cases inner with
      | nil =>
        have hbefore : before = parts item ++ [] := by rw [hitem, List.append_nil, List.append_nil]
        exact hlater hbefore hrest.symm
      | cons head inside =>
        obtain ⟨rfl, _⟩ := List.cons.inj hrest
        exact ⟨[], item, others, before, inside, rfl, hitem, rfl⟩

/-- A result of a filter map is that of one element, and the results before it are those of the elements
before. -/
theorem exists_of_filterMap_eq {α β : Type} {select : α → Option β} {items : List α}
    {before after : List β} {found : β} (heq : items.filterMap select = before ++ found :: after) :
    ∃ first item last, items = first ++ item :: last ∧ first.filterMap select = before ∧
      select item = some found := by
  obtain ⟨first, rest, rfl, hbefore, hrest⟩ := List.filterMap_eq_append_iff.1 heq
  obtain ⟨silent, item, last, rfl, hnone, hitem, _⟩ := List.filterMap_eq_cons_iff.1 hrest
  refine ⟨first ++ silent, item, last, (List.append_assoc ..).symm, ?_, hitem⟩
  rw [List.filterMap_append, hbefore, List.filterMap_eq_nil_iff.2 hnone, List.append_nil]

/-- An element without a result, or with a result behind its own, does not change the last one. -/
theorem getLast?_filterMap_erase {α : Type u} {β : Type v} {select : α → Option β}
    {before after : List α} {item : α}
    (hitem : select item = none ∨ ∃ later ∈ after, (select later).isSome = true) :
    ((before ++ after).filterMap select).getLast? =
      ((before ++ item :: after).filterMap select).getLast? := by
  rw [List.filterMap_append, List.filterMap_append, List.filterMap_cons]
  cases hselect : select item with
  | none => rfl
  | some value =>
    obtain ⟨later, hmem, hselected⟩ := hitem.resolve_left (by simp [hselect])
    obtain ⟨result, hresult⟩ := Option.isSome_iff_exists.1 hselected
    have hafter : after.filterMap select ≠ [] :=
      List.ne_nil_of_mem (List.mem_filterMap.2 ⟨later, hmem, hresult⟩)
    rw [List.getLast?_append_of_ne_nil _ hafter,
      List.getLast?_append_of_ne_nil _ (List.cons_ne_nil _ _), List.getLast?_cons_of_ne_nil hafter]

/-- Neighbours of which one has no result can be exchanged. -/
theorem filterMap_exchange {α : Type u} {β : Type v} {select : α → Option β} {first second : α}
    (hnone : select first = none ∨ select second = none) (before after : List α) :
    (before ++ second :: first :: after).filterMap select =
      (before ++ first :: second :: after).filterMap select := by
  rw [List.filterMap_append, List.filterMap_append]
  rcases hnone with hfirst | hsecond
  · simp only [List.filterMap_cons, hfirst]
  · simp only [List.filterMap_cons, hsecond]

/-- What is read off a fold is the result of the last step that has one. -/
theorem foldl_eq_getLast? {α β γ : Type} (read : β → Option γ) (f : β → α → β)
    {select : α → Option γ} {items : List α}
    (hstep : ∀ state, ∀ item ∈ items, read (f state item) = (select item).or (read state))
    (state : β) : read (items.foldl f state) = (items.filterMap select).getLast?.or (read state) := by
  induction items generalizing state with
  | nil => rfl
  | cons item rest ih =>
    have hrest := ih (fun state other hother => hstep state other (.tail item hother))
    rw [List.foldl_cons, hrest, hstep state item List.mem_cons_self, ← Option.or_assoc,
      List.filterMap_cons]
    cases select item with
    | none => rw [Option.or_none]
    | some value =>
      rw [List.getLast?_cons, Option.or_some]

/-- Where every part of a list holds at most one element of a kind, the parts that hold one are as
many as the elements. -/
theorem countP_flatMap_eq_countP {α β : Type} {items : List α} {parts : α → List β}
    {p : β → Bool} {q : α → Bool}
    (hparts : ∀ item ∈ items, (parts item).countP p = (q item).toNat) :
    (items.flatMap parts).countP p = items.countP q := by
  induction items with
  | nil => rfl
  | cons item rest ih =>
    obtain ⟨hitem, hrest⟩ := List.forall_mem_cons.1 hparts
    rw [List.flatMap_cons, List.countP_append, hitem, ih hrest, List.countP_cons, Nat.add_comm]
    cases q item with
    | false => rfl
    | true => rfl

/-- A list of parts is as long as what is counted and gathered of the items that are kept, if this is
so of every part. -/
theorem length_flatMap_eq_add {α β γ δ : Type} {items : List α} {parts : α → List β}
    {kept : α → Bool} {view : α → γ} {p : γ → Bool} {gathered : γ → List δ}
    (hparts : ∀ item ∈ items, (parts item).length =
      if kept item then (p (view item)).toNat + (gathered (view item)).length else 0) :
    (items.flatMap parts).length =
      ((items.filter kept).map view).countP p +
        (((items.filter kept).map view).flatMap gathered).length := by
  induction items with
  | nil => rfl
  | cons item rest ih =>
    obtain ⟨hitem, hrest⟩ := List.forall_mem_cons.1 hparts
    rw [List.flatMap_cons, List.length_append, hitem, ih hrest, List.filter_cons]
    cases kept item with
    | false => exact Nat.zero_add _
    | true =>
      simp only [if_true, List.map_cons, List.countP_cons, List.flatMap_cons, List.length_append]
      cases p (view item) with
      | false =>
        simp only [Bool.toNat_false, Bool.false_eq_true, if_false]
        omega
      | true =>
        simp only [Bool.toNat_true, if_true]
        omega

/-- In joined parts of one length an element is found by its part and its place there. -/
theorem getElem?_flatMap_of_length {α β : Type} {items : List α} {part : α → List β} {length : Nat}
    (hlength : ∀ item ∈ items, (part item).length = length) {index inner : Nat} {item : α}
    {found : β} (hitem : items[index]? = some item) (hfound : (part item)[inner]? = some found) :
    (items.flatMap part)[index * length + inner]? = some found := by
  induction items generalizing index with
  | nil => cases hitem
  | cons head rest ih =>
    obtain ⟨hhead, hrest⟩ := List.forall_mem_cons.1 hlength
    rw [List.flatMap_cons]
    cases index with
    | zero =>
      have hsame : head = item := Option.some.inj hitem
      rw [← hsame] at hfound
      have hinner : inner < (part head).length := (List.getElem?_eq_some_iff.1 hfound).1
      rw [Nat.zero_mul, Nat.zero_add, List.getElem?_append_left hinner]
      exact hfound
    | succ index =>
      have hplace : (index + 1) * length + inner = length + (index * length + inner) := by
        rw [Nat.succ_mul]
        omega
      rw [hplace, List.getElem?_append_right (by omega), hhead, Nat.add_sub_cancel_left]
      exact ih hrest hitem

theorem length_flatMap_of_length {α β : Type} {items : List α} {part : α → List β} {length : Nat}
    (hlength : ∀ item ∈ items, (part item).length = length) :
    (items.flatMap part).length = items.length * length := by
  rw [List.length_flatMap, List.map_congr_left hlength, List.map_const', List.sum_replicate_nat]

end FramePlan
