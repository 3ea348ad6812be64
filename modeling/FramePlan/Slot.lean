/-!
# Resource slots

A shader finds a resource at a slot: a group and a binding inside the group. Slots are ordered by
group first.

`ResourceSlot` is the engine's type of that name.
-/

namespace FramePlan

/-- The place at which a shader finds a resource. -/
structure ResourceSlot where
  group : UInt32
  binding : UInt32
deriving DecidableEq, Repr, Inhabited

namespace ResourceSlot

/-- The order of slots by group, then by binding. -/
def order : ResourceSlot → ResourceSlot → Ordering :=
  compareLex (fun first second => compare first.group second.group)
    (fun first second => compare first.binding second.binding)

instance : Ord ResourceSlot := ⟨order⟩

/-- Words are compared by a total order. -/
private theorem word_trans : Std.TransCmp (compare : UInt32 → UInt32 → Ordering) := inferInstance

instance : Std.TransCmp (fun first second : ResourceSlot => compare first.group second.group) where
  eq_swap := word_trans.eq_swap
  isLE_trans := word_trans.isLE_trans

instance : Std.TransCmp
    (fun first second : ResourceSlot => compare first.binding second.binding) where
  eq_swap := word_trans.eq_swap
  isLE_trans := word_trans.isLE_trans

instance : Std.TransOrd ResourceSlot := inferInstanceAs (Std.TransCmp (compareLex
  (fun first second : ResourceSlot => compare first.group second.group)
  (fun first second : ResourceSlot => compare first.binding second.binding)))

theorem compare_eq_iff {first second : ResourceSlot} :
    compare first second = .eq ↔ first = second := by
  obtain ⟨group, binding⟩ := first
  obtain ⟨otherGroup, otherBinding⟩ := second
  show order _ _ = .eq ↔ _
  simp [order, compareLex, Ordering.then_eq_eq]

end ResourceSlot

end FramePlan
