import FramePlan.Proofs.Document.Variation
import FramePlan.Proofs.Outcomes
import FramePlan.Proofs.Table
import Mathlib.Data.List.Perm.Basic

/-!
# Reading whatever stands for a value

A decoder restores a value from a written tree if it reads the value from every tree that may stand in
its place. How a type is put together says how its values are restored: lists and tables from their
elements, records from their fields, and variants from what follows the name.

* `Restored.table`: entries in any order make the same table.
* `Fields.Gathers.acceptAll_eq`: members in any order, unknown ones among them, fill the fields.
* `Restored.record`: a record is restored if its fields are, one after the other.
-/

namespace FramePlan

variable {α β : Type}

/-- Every tree that may stand in the place of the written one is read as the value. The written tree is
such a tree. -/
structure Restored (varies : Variation) (decode : Decoder α) (written : Node) (value : α) : Prop where
  refl : varies written written
  decode_eq {tree : Node} (hvaries : varies written tree) : decode tree = .ok value

namespace Restored

variable {varies : Variation} {decode : Decoder α} {written : Node} {value : α}

theorem same (hread : decode written = .ok value) : Restored .same decode written value where
  refl := rfl
  decode_eq := by
    rintro tree rfl
    exact hread

/-- A reader that goes on from what another one has read restores what it makes of that. -/
theorem map {f : α → β} (hrestored : Restored varies decode written value) :
    Restored varies (fun node => (decode node).map f) written (f value) where
  refl := hrestored.refl
  decode_eq hvaries := by
    rw [hrestored.decode_eq hvaries]
    rfl

/-! ## Scalars -/

theorem bool (value : Bool) : Restored .same Decode.bool (.bool value) value := same rfl

theorem string (value : String) : Restored .same Decode.string (.ofString value) value := same rfl

theorem index {n : Nat} (hword : n < UInt64.size) :
    Restored .same Decode.index (Encode.natural n) n := by
  have hle : n ≤ UInt64.size - 1 := Nat.le_sub_one_of_lt hword
  exact same (if_pos hle)

theorem uint32 (n : UInt32) : Restored .same Decode.uint32 (Encode.uint32 n) n := by
  have hle : n.toNat ≤ UInt32.size - 1 := Nat.le_sub_one_of_lt n.toNat_lt
  have hread : Decode.natural (UInt32.size - 1) "u32" (Encode.uint32 n) = .ok n.toNat := if_pos hle
  apply same
  rw [Decode.uint32, hread, Except.map, Nat.toUInt32_eq, UInt32.ofNat_toNat]

theorem int32OfInt_toInt (n : Int32) : Decode.int32OfInt n.toInt = .ok n := by
  have hlow := n.le_toInt
  have hhigh := n.toInt_lt
  rw [Decode.int32OfInt, if_pos, Int32.ofInt_toInt]
  rw [Bool.and_eq_true, decide_eq_true_eq, decide_eq_true_eq]
  omega

theorem int32 (n : Int32) : Restored .same Decode.int32 (Encode.int32 n) n := by
  apply same
  unfold Encode.int32
  split
  · exact int32OfInt_toInt n
  · next hnegative =>
    have hnatural : (n.toInt.toNat : Int) = n.toInt := by
      rw [Int32.lt_iff_toInt_lt] at hnegative
      exact Int.toNat_of_nonneg (by simpa using hnegative)
    calc Decode.int32 (Encode.natural n.toInt.toNat)
        = Decode.int32OfInt (n.toInt.toNat : Int) := rfl
      _ = .ok n := by rw [hnatural, int32OfInt_toInt]

/-- A finite single is read back bit for bit, whether it is written with a fraction or without. -/
theorem single {x : Single} (hfinite : x.isFinite = true) :
    Restored .number Decode.single (Encode.single x) x := by
  rw [Encode.single, if_pos hfinite]
  refine ⟨.asWritten _, ?_⟩
  intro tree hvaries
  cases hvaries with
  | asWritten => exact congrArg Except.ok (Double.toSingle_ofSingle hfinite)
  | natural hinteger => exact congrArg Except.ok (Single.ofInt_eq hfinite hinteger)
  | negative _ hinteger => exact congrArg Except.ok (Single.ofInt_eq hfinite hinteger)

theorem isPresent_single {x : Single} (hfinite : x.isFinite = true) :
    (Encode.single x).isPresent = true := by
  rw [Encode.single, if_pos hfinite]
  rfl

end Restored

theorem Decode.option_eq_map {decode : Decoder α} {node : Node} (hpresent : node.isPresent = true) :
    Decode.option decode node = (decode node).map some := by
  cases node with
  | null | plain _ | tagged _ => cases hpresent
  | _ => rfl

theorem Variation.option_of_isPresent {content : Variation} {written : Node}
    (hpresent : written.isPresent = true) : option content written = content written := by
  cases written with
  | null => cases hpresent
  | _ => rfl

theorem Restored.null {varies : Variation} {decode : Decoder α} :
    Restored (.option varies) (Decode.option decode) .null none where
  refl := rfl
  decode_eq := by
    rintro tree rfl
    rfl

/-- A value that may be missing is restored if it is missing, or if it is restored and is not null. -/
theorem Restored.option {varies : Variation} {decode : Decoder α} {encode : Encoder α}
    {value? : Option α}
    (hvalue : ∀ value ∈ value?, Restored varies decode (encode value) value)
    (hpresent : ∀ value ∈ value?, varies.Present (encode value)) :
    Restored (.option varies) (Decode.option decode) (Encode.option encode value?) value? := by
  cases value? with
  | none => exact .null
  | some value =>
    have hrestored := hvalue value rfl
    have hcontent : varies.option (encode value) = varies (encode value) :=
      Variation.option_of_isPresent (hpresent value rfl _ hrestored.refl)
    simp only [Encode.option]
    refine ⟨by rw [hcontent]; exact hrestored.refl, ?_⟩
    intro tree hvaries
    rw [hcontent] at hvaries
    rw [Decode.option_eq_map (hpresent value rfl tree hvaries), hrestored.decode_eq hvaries]
    rfl

/-! ## Lists and tables -/

section Elements

variable {varies : Variation} {decode : Decoder α} {encode : Encoder α}

theorem forall₂_decode_eq {values : List α}
    (hvalues : ∀ value ∈ values, Restored varies decode (encode value) value) {items : List Node}
    (hvaries : List.Forall₂ varies (values.map encode) items) :
    List.Forall₂ (fun item value => decode item = .ok value) items values := by
  rw [List.forall₂_map_left_iff] at hvaries
  apply List.Forall₂.flip
  apply ((List.forall₂_and_left _ _).2 ⟨hvalues, hvaries⟩).imp
  rintro value item ⟨hrestored, hitem⟩
  exact hrestored.decode_eq hitem

theorem Decode.list_ofItems (items : List Node) :
    Decode.list decode (.ofItems items) = items.mapM decode := by
  show (items.mapM decode >>= fun values => .ok values) = items.mapM decode
  cases items.mapM decode with
  | ok values => rfl
  | error error => rfl

theorem Restored.list {values : List α}
    (hvalues : ∀ value ∈ values, Restored varies decode (encode value) value) :
    Restored (.list varies) (Decode.list decode) (Encode.list encode values) values where
  refl := by
    apply Variation.list_refl
    intro node hnode
    obtain ⟨value, hvalue, rfl⟩ := List.mem_map.1 hnode
    exact (hvalues value hvalue).refl
  decode_eq := by
    rintro tree ⟨before, after, hwritten, rfl, hvaries⟩
    obtain ⟨rfl, -⟩ := Node.list.inj hwritten
    rw [Decode.list_ofItems]
    exact mapM_eq_ok_of_forall₂ (forall₂_decode_eq hvalues hvaries)

theorem Restored.emptyList : Restored (.list varies) (Decode.list decode) (.ofItems []) [] := by
  have hempty : Restored (.list varies) (Decode.list decode) (Encode.list (fun _ => .null) []) [] :=
    .list (by simp)
  exact hempty

theorem Decode.leading_eq {items : List Node} {values : List α}
    (hitems : List.Forall₂ (fun item value => decode item = .ok value) items values)
    (expected : String) (start : Nat) {count : Nat} (hcount : values.length = count) :
    Decode.leading decode expected none start count items =
      .ok (⟨values.toArray, by simp [hcount]⟩, []) := by
  induction hitems generalizing start count with
  | nil =>
    obtain rfl := hcount
    rfl
  | cons hitem _ ih =>
    obtain rfl := hcount
    have hrest := ih (start + 1) rfl
    simp only [List.length_cons, Decode.leading, hitem, hrest]
    simp [bind, Except.bind, pure, Except.pure]

theorem Restored.vector {count : Nat} {values : Vector α count}
    (hvalues : ∀ value ∈ values, Restored varies decode (encode value) value) :
    Restored (.list varies) (Decode.vector decode count) (Encode.vector encode values) values where
  refl := by
    apply Variation.list_refl
    intro node hnode
    obtain ⟨value, hvalue, rfl⟩ := List.mem_map.1 hnode
    exact (hvalues value (by simpa using hvalue)).refl
  decode_eq := by
    rintro tree ⟨before, after, hwritten, rfl, hvaries⟩
    obtain ⟨rfl, -⟩ := Node.list.inj hwritten
    have hitems : List.Forall₂ (fun item value => decode item = .ok value) after values.toList :=
      forall₂_decode_eq (fun value hvalue => hvalues value (by simpa using hvalue)) hvaries
    have hread := Decode.leading_eq hitems s!"an array of length {count}" 0 values.length_toList
    show (Decode.leading decode s!"an array of length {count}" none 0 count after >>=
      fun read => if !read.2.isEmpty then .error .malformed else .ok read.1) = .ok values
    rw [hread]
    rfl

theorem Decode.foldlM_insert_eq {members : List (String × Node)} {entries : List (String × α)}
    (hmembers : List.Forall₂
      (fun member entry => member.1 = entry.1 ∧ decode member.2 = .ok entry.2) members entries)
    (filled : Table String α) :
    (members.map fun (name, node) => (Key.text ⟨some name, none⟩, node)).foldlM
        (fun (filled : Table String α) (key, node) => do
          let name ← key.read
          let value ← decode node
          return filled.insert name value) filled =
      .ok (entries.foldl (fun filled entry => filled.insert entry.1 entry.2) filled) := by
  induction hmembers generalizing filled with
  | nil => rfl
  | @cons member entry _ _ hmember _ ih =>
    obtain ⟨name, node⟩ := member
    obtain ⟨stored, value⟩ := entry
    obtain ⟨rfl, hvalue⟩ : name = stored ∧ decode node = .ok value := hmember
    rw [List.map_cons, List.foldlM_cons, List.foldl_cons, ← ih]
    simp only [hvalue]
    rfl

theorem Decode.table_ofMembers_eq {members : List (String × Node)} {entries : List (String × α)}
    (hmembers : List.Forall₂
      (fun member entry => member.1 = entry.1 ∧ decode member.2 = .ok entry.2) members entries) :
    Decode.table decode (.ofMembers members) = .ok (Table.ofList entries) := by
  have hread : Decode.members "a map" (.ofMembers members) =
      .ok (members.map fun (name, node) => (.text ⟨some name, none⟩, node), none) := rfl
  rw [Decode.table, hread]
  simp only [bind, Except.bind]
  have hfilled := Decode.foldlM_insert_eq hmembers Table.empty
  simp only [bind, Except.bind] at hfilled
  rw [hfilled]
  rfl

theorem Node.ofMembers_inj {members others : List (String × Node)} :
    Node.ofMembers members = .ofMembers others ↔ members = others := by
  have hinjective : Function.Injective fun ((name, node) : String × Node) =>
      ((.text ⟨some name, none⟩, node) : Key × Node) := by
    rintro ⟨name, node⟩ ⟨other, otherNode⟩ heq
    simpa using heq
  simp only [Node.ofMembers, Node.record.injEq, and_true]
  exact (List.map_injective_iff.2 hinjective).eq_iff

/-- A table is restored if its values are, in whatever order its entries stand. -/
theorem Restored.table {filled : Table String α}
    (hvalues : ∀ entry ∈ filled.entries, Restored varies decode (encode entry.2) entry.2) :
    Restored (.table varies) (Decode.table decode) (Encode.table encode filled) filled where
  refl := by
    apply Variation.table_refl
    intro member hmember
    obtain ⟨entry, hentry, rfl⟩ := List.mem_map.1 hmember
    exact (hvalues entry hentry).refl
  decode_eq := by
    rintro tree ⟨members, varied, after, hwritten, rfl, hvaried, hperm⟩
    obtain rfl := Node.ofMembers_inj.1 hwritten
    have hread : List.Forall₂ (fun member entry => member.1 = entry.1 ∧ decode member.2 = .ok entry.2)
        varied filled.entries := by
      rw [List.forall₂_map_left_iff] at hvaried
      apply List.Forall₂.flip
      apply ((List.forall₂_and_left _ _).2 ⟨hvalues, hvaried⟩).imp
      rintro entry member ⟨hrestored, hname, hvaries⟩
      exact ⟨hname.symm, hrestored.decode_eq hvaries⟩
    obtain ⟨entries, hentries, hsame⟩ := List.perm_comp_forall₂ hperm.symm hread
    rw [Decode.table_ofMembers_eq hentries, Table.ofList_eq_of_perm hsame]

theorem Restored.emptyTable :
    Restored (.table varies) (Decode.table decode) (.ofMembers []) .empty := by
  have hempty : Restored (.table varies) (Decode.table decode)
      (Encode.table (fun _ => .null) .empty) .empty := .table (by simp [Table.empty])
  exact hempty

end Elements

/-! ## Records -/

namespace Fields

/-- The kept members fill the fields, in any order, and then make up the value. The states are those
that are reached once the members with some names are met. -/
structure Gathers (fields : Fields α) (names : List String) (kept : List (String × Node)) (value : α)
    (stateAt : List String → fields.State) : Prop where
  known {member : String × Node} (hmember : member ∈ kept) : member.1 ∈ names
  start : stateAt [] = fields.start
  accept {met : List String} {member : String × Node} (hmember : member ∈ kept)
    (hnew : member.1 ∉ met) :
    fields.accept member.1 member.2 (stateAt met) = some (.ok (stateAt (member.1 :: met)))
  pass {met : List String} {name : String} {node : Node} (hunknown : name ∉ names) :
    fields.accept name node (stateAt met) = none
  stay {met : List String} {name : String} (hunknown : name ∉ names) :
    stateAt (name :: met) = stateAt met
  close {met : List String} (hmet : ∀ name ∈ names, name ∈ met ↔ name ∈ kept.map Prod.fst) :
    fields.close (stateAt met) = .ok value

theorem gathers_pure (value : α) : (pure value).Gathers [] [] value fun _ => () where
  known hmember := by cases hmember
  start := rfl
  accept hmember := by cases hmember
  pass _ := rfl
  stay _ := rfl
  close _ := rfl

/-- A field that is there. -/
theorem gathers_field {decode : Decoder α} {node : Node} {value : α} (hread : decode node = .ok value)
    (name : String) (absent : Option α) :
    (field name decode absent).Gathers [name] [(name, node)] value
      fun met => if name ∈ met then some value else none where
  known hmember := by simpa using congrArg Prod.fst (List.mem_singleton.1 hmember)
  start := rfl
  accept hmember hnew := by
    obtain rfl := List.mem_singleton.1 hmember
    simp [field, hnew, hread, Except.map]
  pass hunknown := by
    rw [List.mem_singleton] at hunknown
    simp [field, hunknown]
  stay hunknown := by
    rw [List.mem_singleton] at hunknown
    simp [Ne.symm hunknown]
  close hmet := by
    have hmet : name ∈ _ := (hmet name (by simp)).2 (by simp)
    simp [field, hmet]

/-- A field that is left out. -/
theorem gathers_field_absent (name : String) (decode : Decoder α) (value : α) :
    (field name decode (some value)).Gathers [name] [] value fun _ => none where
  known hmember := by cases hmember
  start := rfl
  accept hmember := by cases hmember
  pass hunknown := by
    rw [List.mem_singleton] at hunknown
    simp [field, hunknown]
  stay _ := rfl
  close _ := rfl

theorem accept_apply_of_some {function : Fields (α → β)} {argument : Fields α} {name : String}
    {node : Node} {state reached : function.State} {other : argument.State}
    (haccept : function.accept name node state = some (.ok reached)) :
    (function <*> argument).accept name node (state, other) = some (.ok (reached, other)) := by
  simp only [Seq.seq, Fields.apply, both, haccept]
  rfl

theorem accept_apply_of_none {function : Fields (α → β)} {argument : Fields α} {name : String}
    {node : Node} {state : function.State} {other : argument.State}
    (haccept : function.accept name node state = none) :
    (function <*> argument).accept name node (state, other) =
      (argument.accept name node other).map fun result => result.map fun next => (state, next) := by
  simp only [Seq.seq, Fields.apply, both, haccept]

/-- Two parts whose fields have different names are filled independently of each other. -/
theorem Gathers.apply {function : Fields (α → β)} {argument : Fields α} {names others : List String}
    {kept otherKept : List (String × Node)} {f : α → β} {value : α}
    {stateAt : List String → function.State} {otherAt : List String → argument.State}
    (hfunction : function.Gathers names kept f stateAt)
    (hargument : argument.Gathers others otherKept value otherAt)
    (hdisjoint : names.Disjoint others) :
    (function <*> argument).Gathers (names ++ others) (kept ++ otherKept) (f value)
      fun met => (stateAt met, otherAt met) where
  known hmember := by
    rw [List.mem_append] at hmember ⊢
    exact hmember.imp hfunction.known hargument.known
  start := by rw [hfunction.start, hargument.start]; rfl
  accept {met member} hmember hnew := by
    rcases List.mem_append.1 hmember with hfirst | hsecond
    · have hother : member.1 ∉ others := hdisjoint (hfunction.known hfirst)
      rw [accept_apply_of_some (hfunction.accept hfirst hnew), hargument.stay hother]
    · have hother : member.1 ∉ names := fun hname => hdisjoint hname (hargument.known hsecond)
      rw [accept_apply_of_none (hfunction.pass hother), hargument.accept hsecond hnew,
        hfunction.stay hother]
      rfl
  pass {met name node} hunknown := by
    rw [List.mem_append, not_or] at hunknown
    rw [accept_apply_of_none (hfunction.pass hunknown.1), hargument.pass hunknown.2]
    rfl
  stay hunknown := by
    rw [List.mem_append, not_or] at hunknown
    rw [hfunction.stay hunknown.1, hargument.stay hunknown.2]
  close {met} hmet := by
    have hfirst : ∀ name ∈ names, name ∈ met ↔ name ∈ kept.map Prod.fst := by
      intro name hname
      rw [hmet name (List.mem_append_left _ hname), List.map_append, List.mem_append, or_iff_left]
      intro hother
      obtain ⟨member, hmember, rfl⟩ := List.mem_map.1 hother
      exact hdisjoint hname (hargument.known hmember)
    have hsecond : ∀ name ∈ others, name ∈ met ↔ name ∈ otherKept.map Prod.fst := by
      intro name hname
      rw [hmet name (List.mem_append_right _ hname), List.map_append, List.mem_append, or_iff_right]
      intro hother
      obtain ⟨member, hmember, rfl⟩ := List.mem_map.1 hother
      exact hdisjoint (hfunction.known hmember) hname
    show (do
      let left ← function.close (stateAt met)
      let right ← argument.close (otherAt met)
      return left right) = .ok (f value)
    rw [hfunction.close hfirst, hargument.close hsecond]
    rfl

theorem acceptAll_cons_of_some {fields : Fields α} {name : String} {node : Node}
    {state reached : fields.State} (haccept : fields.accept name node state = some (.ok reached))
    (rest : List (Key × Node)) :
    fields.acceptAll ((.text ⟨some name, none⟩, node) :: rest) state =
      fields.acceptAll rest reached := by
  simp only [acceptAll, Key.read, Quoted.read, bind, Except.bind, haccept]

theorem acceptAll_cons_of_none {fields : Fields α} {name : String} {node : Node}
    {state : fields.State} (haccept : fields.accept name node state = none) (hjson : node.IsJson)
    (rest : List (Key × Node)) :
    fields.acceptAll ((.text ⟨some name, none⟩, node) :: rest) state =
      fields.acceptAll rest state := by
  simp only [acceptAll, Key.read, Quoted.read, bind, Except.bind, haccept, hjson.skip_eq]

/-- Members in any order, and unknown ones among them, fill the fields. -/
theorem Gathers.acceptAll_eq {fields : Fields α} {names : List String}
    {kept members : List (String × Node)} {value : α} {stateAt : List String → fields.State}
    (hgathers : fields.Gathers names kept value stateAt) (met : List String)
    (hmembers : ∀ member ∈ members, member ∈ kept ∨ member.1 ∉ names ∧ member.2.IsJson)
    (hdistinct : ((members.map Prod.fst).filter (· ∈ names)).Nodup)
    (hnew : ∀ member ∈ members, member.1 ∈ names → member.1 ∉ met) :
    ∃ last, fields.acceptAll (members.map fun (name, node) => (.text ⟨some name, none⟩, node))
        (stateAt met) = .ok (stateAt last) ∧
      ∀ name ∈ names, name ∈ last ↔ name ∈ met ∨ name ∈ members.map Prod.fst := by
  -- a known member moves the state on, an unknown one leaves it; no name is met twice
  induction members generalizing met with
  | nil => exact ⟨met, rfl, by simp⟩
  | cons member rest ih =>
    obtain ⟨hmember, hrest⟩ := List.forall_mem_cons.1 hmembers
    obtain ⟨hfirst, hrestNew⟩ := List.forall_mem_cons.1 hnew
    rw [List.map_cons] at hdistinct
    rcases hmember with hkept | ⟨hunknown, hjson⟩
    · have hname : member.1 ∈ names := hgathers.known hkept
      rw [List.filter_cons_of_pos (by simpa using hname), List.nodup_cons] at hdistinct
      have hunmet : ∀ other ∈ rest, other.1 ∈ names → other.1 ∉ member.1 :: met := by
        intro other hother hknown hmet
        rcases List.mem_cons.1 hmet with heq | hmet
        · apply hdistinct.1
          rw [List.mem_filter, ← heq]
          exact ⟨List.mem_map_of_mem hother, by simpa using hknown⟩
        · exact hrestNew other hother hknown hmet
      obtain ⟨last, hlast, hiff⟩ := ih (member.1 :: met) hrest hdistinct.2 hunmet
      refine ⟨last, ?_, ?_⟩
      · rw [List.map_cons, acceptAll_cons_of_some (hgathers.accept hkept (hfirst hname)), hlast]
      · intro name hknown
        rw [hiff name hknown, List.map_cons, List.mem_cons, List.mem_cons]
        tauto
    · rw [List.filter_cons_of_neg (by simpa using hunknown)] at hdistinct
      obtain ⟨last, hlast, hiff⟩ := ih met hrest hdistinct hrestNew
      refine ⟨last, ?_, ?_⟩
      · rw [List.map_cons, acceptAll_cons_of_none (hgathers.pass hunknown) hjson, hlast]
      · intro name hknown
        have hne : name ≠ member.1 := fun heq => hunknown (heq ▸ hknown)
        rw [hiff name hknown, List.map_cons, List.mem_cons, or_iff_right hne]

/-- A record is read from its members in any order, and unknown ones among them. -/
theorem Gathers.decode_eq {fields : Fields α} {names : List String}
    {kept unknown after : List (String × Node)} {value : α} {stateAt : List String → fields.State}
    (hgathers : fields.Gathers names kept value stateAt) (hkept : (kept.map Prod.fst).Nodup)
    (hunknown : ∀ member ∈ unknown, member.1 ∉ names ∧ member.2.IsJson)
    (hperm : (kept ++ unknown).Perm after) (called : String) :
    fields.decode called (.ofMembers after) = .ok value := by
  have hmembers : ∀ member ∈ after, member ∈ kept ∨ member.1 ∉ names ∧ member.2.IsJson := by
    intro member hmember
    exact (List.mem_append.1 (hperm.mem_iff.2 hmember)).imp_right (hunknown member)
  have hkeptNames : (kept.map Prod.fst).filter (· ∈ names) = kept.map Prod.fst := by
    simpa using fun name node hmember => hgathers.known hmember
  have hunknownNames : (unknown.map Prod.fst).filter (· ∈ names) = [] := by
    simpa using fun name node hmember => (hunknown (name, node) hmember).1
  have hdistinct : ((after.map Prod.fst).filter (· ∈ names)).Nodup := by
    rw [← ((hperm.map Prod.fst).filter _).nodup_iff, List.map_append, List.filter_append, hkeptNames,
      hunknownNames, List.append_nil]
    exact hkept
  obtain ⟨last, haccepted, hlast⟩ := hgathers.acceptAll_eq [] hmembers hdistinct (by simp)
  have hclosed : fields.close (stateAt last) = .ok value := by
    apply hgathers.close
    intro name hname
    rw [hlast name hname, or_iff_right List.not_mem_nil, ← (hperm.map Prod.fst).mem_iff, List.map_append,
      List.mem_append, or_iff_left]
    intro hother
    obtain ⟨member, hmember, rfl⟩ := List.mem_map.1 hother
    exact (hunknown member hmember).1 hname
  rw [hgathers.start] at haccepted
  show (do
    let state ← fields.acceptAll (after.map fun (name, node) => (.text ⟨some name, none⟩, node))
      fields.start
    fields.close state) = .ok value
  rw [haccepted]
  exact hclosed

/-- The fields make up the value from whatever is kept of the written members. -/
structure Restores (fields : Fields α) (rules : List Variation.FieldRule)
    (members : List (String × Node)) (value : α) : Prop where
  whole : Variation.Kept rules members members
  gathers {kept : List (String × Node)} (hkept : Variation.Kept rules members kept)
    (hdistinct : (Variation.names rules).Nodup) :
    ∃ stateAt, fields.Gathers (Variation.names rules) kept value stateAt

namespace Restores

theorem pure (value : α) : (Fields.pure value).Restores [] [] value where
  whole := .nil
  gathers hkept _ := by
    cases hkept
    exact ⟨_, gathers_pure value⟩

theorem required {varies : Variation} {decode : Decoder α} {written : Node} {value : α}
    (name : String) (hvalue : Restored varies decode written value) :
    (field name decode).Restores [.required name varies] [(name, written)] value where
  whole := .keep hvalue.refl .nil
  gathers hkept _ := by
    cases hkept with
    | keep hvaries hrest =>
      cases hrest
      exact ⟨_, gathers_field (hvalue.decode_eq hvaries) name none⟩
    | leaveOut hdefault _ => cases hdefault

/-- A field that may be left out is restored if its value is, and if its default is what it holds where
it is left out. -/
theorem optional {varies : Variation} {decode : Decoder α} {written default : Node} {value absent : α}
    (name : String) (hvalue : Restored varies decode written value)
    (hdefault : Restored varies decode default absent) :
    (field name decode (some absent)).Restores [.optional name default varies] [(name, written)]
      value where
  whole := .keep hvalue.refl .nil
  gathers hkept _ := by
    cases hkept with
    | keep hvaries hrest =>
      cases hrest
      exact ⟨_, gathers_field (hvalue.decode_eq hvaries) name (some absent)⟩
    | leaveOut heq hrest =>
      cases hrest
      obtain rfl : default = written := Option.some.inj heq
      have hsame : (Except.ok absent : Except LoadError α) = .ok value := by
        rw [← hdefault.decode_eq hdefault.refl, hvalue.decode_eq hvalue.refl]
      obtain rfl := Except.ok.inj hsame
      exact ⟨_, gathers_field_absent name decode absent⟩

theorem apply {function : Fields (α → β)} {argument : Fields α} {rules others : List Variation.FieldRule}
    {members otherMembers : List (String × Node)} {f : α → β} {value : α}
    (hfunction : function.Restores rules members f)
    (hargument : argument.Restores others otherMembers value) :
    (function <*> argument).Restores (rules ++ others) (members ++ otherMembers) (f value) where
  whole := hfunction.whole.append hargument.whole
  gathers hkept hdistinct := by
    rw [Variation.names_append, List.nodup_append'] at hdistinct
    obtain ⟨front, back, rfl, hfront, hback⟩ := hkept.exists_of_append hfunction.whole.length_eq
    obtain ⟨stateAt, hfirst⟩ := hfunction.gathers hfront hdistinct.1
    obtain ⟨otherAt, hsecond⟩ := hargument.gathers hback hdistinct.2.1
    rw [Variation.names_append]
    exact ⟨_, hfirst.apply hsecond hdistinct.2.2⟩

end Restores

end Fields

theorem Restored.record {fields : Fields α} {rules : List Variation.FieldRule}
    {members : List (String × Node)} {value : α} (hfields : fields.Restores rules members value)
    (hdistinct : (Variation.names rules).Nodup) (called : String) :
    Restored (.record rules) (fields.decode called) (.ofMembers members) value where
  refl := Variation.record_refl hfields.whole
  decode_eq := by
    rintro tree ⟨written, kept, unknown, after, hwritten, rfl, hkept, hunknown, hperm⟩
    obtain rfl := Node.ofMembers_inj.1 hwritten
    obtain ⟨stateAt, hgathers⟩ := hfields.gathers hkept hdistinct
    exact hgathers.decode_eq (hkept.sublist.nodup hdistinct) hunknown hperm called

/-! ## Variants -/

def Payload.read : Payload α → Decoder α
  | .unit chosen => fun node => (Decode.unit node).map fun _ => chosen
  | .value decode => decode
  | .fields called members => members.decode called

section Variants

variable {known : List (String × Payload α)} {payloads : List (String × Variation)} {name : String}
  {value : α}

theorem Decode.variant_ofString (hknown : known.lookup name = some (.unit value)) :
    Decode.variant known (.ofString name) = .ok value := by
  simp only [Decode.variant, Node.ofString, Quoted.read, bind, Except.bind, hknown]

theorem Decode.variant_tagged {payload : Payload α} (hknown : known.lookup name = some payload)
    (node : Node) : Decode.variant known (Encode.tagged name node) = payload.read node := by
  have hname : Decode.variantName (.text ⟨some name, none⟩) = .ok name := rfl
  have hnode : Encode.tagged name node = .record [(.text ⟨some name, none⟩, node)] none := rfl
  simp only [Decode.variant, hnode, hname, bind, Except.bind, hknown, finish, pure, Except.pure]
  cases payload with
  | unit chosen =>
    dsimp only [Payload.read]
    cases Decode.unit node <;> rfl
  | value decode =>
    dsimp only [Payload.read]
    cases decode node <;> rfl
  | fields called members =>
    dsimp only [Payload.read]
    cases members.decode called node <;> rfl

theorem Restored.unitVariant (hknown : known.lookup name = some (.unit value)) :
    Restored (.variants payloads) (Decode.variant known) (.ofString name) value where
  refl := .inl ⟨name, rfl, rfl⟩
  decode_eq := by
    rintro tree (⟨_, _, rfl⟩ | ⟨_, _, _, _, _, hwritten, _⟩)
    · exact Decode.variant_ofString hknown
    · cases hwritten

theorem Restored.variant {payload : Payload α} {varies : Variation} {content : Node}
    (hpayload : payloads.lookup name = some varies) (hknown : known.lookup name = some payload)
    (hcontent : Restored varies payload.read content value) :
    Restored (.variants payloads) (Decode.variant known) (Encode.tagged name content) value where
  refl := .inr ⟨name, varies, content, content, hpayload, rfl, rfl, hcontent.refl⟩
  decode_eq := by
    rintro tree (⟨_, hwritten, _⟩ | ⟨other, _, _, after, hother, hwritten, rfl, hvaries⟩)
    · cases hwritten
    · have hmember := List.head_eq_of_cons_eq (Node.ofMembers_inj.1 hwritten)
      cases hmember
      cases hpayload.symm.trans hother
      rw [Decode.variant_tagged hknown, hcontent.decode_eq hvaries]

end Variants

end FramePlan
