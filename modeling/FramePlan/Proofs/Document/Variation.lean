import FramePlan.Document.Decode
import FramePlan.Pipeline.Encode
import FramePlan.Proofs.Number.Rounding

/-!
# Other writings of a tree

A tree that is written for a value is not the only tree that stands for it. The members of a record have
no order, a field that holds its default may be left out, and members that nobody asks for may be added.
A variation says, for a type, which trees may stand in the place of the written one.

* `Variation.record`: the fields are reordered, left out and joined by unknown members.
* `Node.IsJson.skip_eq`: what an unknown member holds is passed over, whatever it is.
-/

namespace FramePlan

namespace Node

/-- The tree of a value that JSON can write; the content of a text may be no Unicode text, and a number
may be beyond every range. -/
inductive IsJson : Node → Prop where
  | null : IsJson .null
  | bool (value : Bool) : IsJson (.bool value)
  | number (value : Numeral) : IsJson (.number value)
  | text (content : Option String) : IsJson (.text ⟨content, none⟩)
  | list {items : List Node} (hitems : ∀ item ∈ items, IsJson item) : IsJson (.list items none)
  | record {members : List (Key × Node)}
      (hkeys : ∀ member ∈ members, ∃ content, member.1 = .text ⟨content, none⟩)
      (hvalues : ∀ member ∈ members, IsJson member.2) : IsJson (.record members none)

/-- Anything but null, and nothing whose type is open. -/
def isPresent : Node → Bool
  | .null | .plain _ | .tagged _ => false
  | _ => true

end Node

theorem skipItems_eq {items : List Node} (hitems : ∀ item ∈ items, item.skip = .ok ()) :
    skipItems items = .ok () := by
  induction items with
  | nil => simp [skipItems]
  | cons item rest ih =>
    obtain ⟨hitem, hrest⟩ := List.forall_mem_cons.1 hitems
    rw [skipItems, hitem]
    exact ih hrest

theorem skipMembers_eq {members : List (Key × Node)}
    (hkeys : ∀ member ∈ members, member.1.skip = .ok ())
    (hvalues : ∀ member ∈ members, member.2.skip = .ok ()) : skipMembers members = .ok () := by
  induction members with
  | nil => simp [skipMembers]
  | cons member rest ih =>
    obtain ⟨hkey, hrestKeys⟩ := List.forall_mem_cons.1 hkeys
    obtain ⟨hvalue, hrestValues⟩ := List.forall_mem_cons.1 hvalues
    rw [skipMembers, hkey, hvalue]
    exact ih hrestKeys hrestValues

/-- Whatever JSON can write is passed over. -/
theorem Node.IsJson.skip_eq {node : Node} (hjson : node.IsJson) : node.skip = .ok () := by
  induction hjson with
  | null => simp [Node.skip]
  | bool value => simp [Node.skip]
  | number value => simp [Node.skip]
  | text content => simp [Node.skip, Quoted.skip]
  | list _ ih =>
    rw [Node.skip, skipItems_eq ih]
    rfl
  | record hkeys _ ih =>
    rw [Node.skip, skipMembers_eq _ ih]
    · rfl
    · intro member hmember
      obtain ⟨content, hkey⟩ := hkeys member hmember
      rw [hkey]
      rfl

/-- Which trees may stand in the place of the written one, named first. -/
abbrev Variation := Node → Node → Prop

namespace Variation

/-- There is no other writing. -/
def same : Variation := fun written tree => tree = written

/-- A number is written with a fraction or, if it has none, without one. -/
inductive number : Node → Node → Prop where
  | asWritten (node : Node) : number node node
  | natural {x : Double} {n : Nat} (hinteger : x.IsInteger n) :
      number (.number (.real x)) (.number (.natural n))
  | negative {x : Double} {n : Int} (hnegative : n < 0) (hinteger : x.IsInteger n) :
      number (.number (.real x)) (.number (.negative n))

/-- A missing value stays null, and one that is there varies as its content. -/
def option (content : Variation) : Variation := fun written tree =>
  match written with
  | .null => tree = .null
  | written => content written tree

/-- The items vary and keep their places. -/
def list (item : Variation) : Variation := fun written tree =>
  ∃ before after, written = .ofItems before ∧ tree = .ofItems after ∧ List.Forall₂ item before after

/-- The values vary under their keys, and the entries have no order. -/
def table (value : Variation) : Variation := fun written tree =>
  ∃ entries varied after, written = .ofMembers entries ∧ tree = .ofMembers after ∧
    List.Forall₂ (fun entry other => entry.1 = other.1 ∧ value entry.2 other.2) entries varied ∧
    varied.Perm after

/-- How a field is written: its name, what it holds where it may be left out, and how what it holds
varies. -/
structure FieldRule where
  name : String
  default? : Option Node
  value : Variation

/-- The rule of a field that has to be there. -/
def FieldRule.required (name : String) (value : Variation) : FieldRule := ⟨name, none, value⟩

/-- The rule of a field that may be left out where it holds the given default. -/
def FieldRule.optional (name : String) (default : Node) (value : Variation) : FieldRule :=
  ⟨name, some default, value⟩

/-- What is kept of the fields of a record, in their order. -/
inductive Kept : List FieldRule → List (String × Node) → List (String × Node) → Prop where
  | nil : Kept [] [] []
  | keep {rule : FieldRule} {rules : List FieldRule} {written tree : Node}
      {members kept : List (String × Node)} (hvalue : rule.value written tree)
      (hrest : Kept rules members kept) :
      Kept (rule :: rules) ((rule.name, written) :: members) ((rule.name, tree) :: kept)
  | leaveOut {rule : FieldRule} {rules : List FieldRule} {written : Node}
      {members kept : List (String × Node)} (hdefault : rule.default? = some written)
      (hrest : Kept rules members kept) :
      Kept (rule :: rules) ((rule.name, written) :: members) kept

def names (rules : List FieldRule) : List String := rules.map FieldRule.name

/-- The fields are kept or left out, unknown members with any value are added, and all members are
brought into any order. -/
def record (rules : List FieldRule) : Variation := fun written tree =>
  ∃ members kept unknown after, written = .ofMembers members ∧ tree = .ofMembers after ∧
    Kept rules members kept ∧
    (∀ member ∈ unknown, member.1 ∉ names rules ∧ member.2.IsJson) ∧
    (kept ++ unknown).Perm after

/-- A variant keeps its name, and what follows the name varies. -/
def variants (payloads : List (String × Variation)) : Variation := fun written tree =>
  (∃ name, written = .ofString name ∧ tree = written) ∨
  ∃ name payload content after, payloads.lookup name = some payload ∧
    written = Encode.tagged name content ∧ tree = Encode.tagged name after ∧ payload content after

/-- Null is no writing of the value. -/
def Present (varies : Variation) (written : Node) : Prop :=
  ∀ tree, varies written tree → tree.isPresent = true

theorem present_same {written : Node} (hpresent : written.isPresent = true) :
    same.Present written := by
  rintro tree rfl
  exact hpresent

theorem present_number {written : Node} (hpresent : written.isPresent = true) :
    Present number written := by
  intro tree hvaries
  cases hvaries with
  | asWritten => exact hpresent
  | natural _ => rfl
  | negative _ _ => rfl

theorem present_variants (payloads : List (String × Variation)) (written : Node) :
    (variants payloads).Present written := by
  rintro tree (⟨_, rfl, rfl⟩ | ⟨_, _, _, _, _, rfl, rfl, _⟩)
  · rfl
  · rfl

theorem list_refl {item : Variation} {items : List Node} (hitems : ∀ node ∈ items, item node node) :
    list item (.ofItems items) (.ofItems items) :=
  ⟨items, items, rfl, rfl, List.forall₂_same.2 hitems⟩

theorem table_refl {value : Variation} {entries : List (String × Node)}
    (hvalues : ∀ entry ∈ entries, value entry.2 entry.2) :
    table value (.ofMembers entries) (.ofMembers entries) := by
  refine ⟨entries, entries, entries, rfl, rfl, List.forall₂_same.2 ?_, .refl _⟩
  intro entry hentry
  exact ⟨rfl, hvalues entry hentry⟩

theorem record_refl {rules : List FieldRule} {members : List (String × Node)}
    (hkept : Kept rules members members) :
    record rules (.ofMembers members) (.ofMembers members) :=
  ⟨members, members, [], members, rfl, rfl, hkept, by simp, by simp⟩

@[simp]
theorem names_append (rules others : List FieldRule) :
    names (rules ++ others) = names rules ++ names others := List.map_append

/-- What is kept has the names of the fields, each at most once. -/
theorem Kept.sublist {rules : List FieldRule} {members kept : List (String × Node)}
    (hkept : Kept rules members kept) : (kept.map Prod.fst).Sublist (names rules) := by
  induction hkept with
  | nil => exact .refl _
  | keep _ _ ih => exact ih.cons_cons _
  | leaveOut _ _ ih => exact ih.cons _

theorem Kept.append {rules others : List FieldRule}
    {members kept otherMembers otherKept : List (String × Node)} (hkept : Kept rules members kept)
    (hothers : Kept others otherMembers otherKept) :
    Kept (rules ++ others) (members ++ otherMembers) (kept ++ otherKept) := by
  induction hkept with
  | nil => exact hothers
  | keep hvalue _ ih => exact .keep hvalue ih
  | leaveOut hdefault _ ih => exact .leaveOut hdefault ih

theorem Kept.length_eq {rules : List FieldRule} {members kept : List (String × Node)}
    (hkept : Kept rules members kept) : rules.length = members.length := by
  induction hkept with
  | nil => rfl
  | keep _ _ ih => simp [ih]
  | leaveOut _ _ ih => simp [ih]

/-- What is kept of the fields of two parts is what is kept of each. -/
theorem Kept.exists_of_append {rules others : List FieldRule}
    {members otherMembers kept : List (String × Node)} (hlength : rules.length = members.length)
    (hkept : Kept (rules ++ others) (members ++ otherMembers) kept) :
    ∃ front back, kept = front ++ back ∧ Kept rules members front ∧
      Kept others otherMembers back := by
  induction rules generalizing members kept with
  | nil =>
    obtain rfl := List.length_eq_zero_iff.1 hlength.symm
    exact ⟨[], kept, rfl, .nil, hkept⟩
  | cons rule rules ih =>
    obtain ⟨member, members, rfl⟩ := List.exists_cons_of_length_eq_add_one hlength.symm
    cases hkept with
    | keep hvalue hrest =>
      obtain ⟨front, back, rfl, hfront, hback⟩ := ih (Nat.succ.inj hlength) hrest
      exact ⟨_ :: front, back, rfl, .keep hvalue hfront, hback⟩
    | leaveOut hdefault hrest =>
      obtain ⟨front, back, rfl, hfront, hback⟩ := ih (Nat.succ.inj hlength) hrest
      exact ⟨front, back, rfl, .leaveOut hdefault hfront, hback⟩

end Variation

end FramePlan
