import FramePlan.Proofs.Device.Reflection
import FramePlan.Proofs.Frame.Origin
import FramePlan.Proofs.Frame.Skip
import FramePlan.Proofs.Slots

/-!
# Layouts that the host and the shaders share

A value is packed by the host and read by a shader, and neither asks the other where the components
are: the host packs words of four bytes, the shader reads scalars of its own type. The two agree on how
many components there are and how columns are padded, since the type of a value is settled by the type
of the shader. They agree on the bytes just when the scalars of the shader take four bytes, which
reflection does not ask for.

* `Value.Fills`: bytes are laid out as a type of the language is.
* `Value.fills_withLeaf`: a value is packed for scalars of four bytes.
* `Value.fills_iff`: it fills a type just when the scalars of the type take four bytes.
* `packing_fills_words`: so it is for the uniforms of a program, and for its inputs likewise.
* `packing_overfills_half`: a value that is longer than its uniform.
-/

namespace FramePlan

open Shader (ProgramStage Interface UniformInfo InputInfo StageValue ModuleVariable CompiledStage
  DataType ScalarType Layouts)

theorem take_drop_flatMap_littleEndian {words : List UInt32} {index : Nat} {word : UInt32}
    (hget : words[index]? = some word) :
    ((words.flatMap littleEndian).drop (4 * index)).take 4 = littleEndian word := by
  induction words generalizing index with
  | nil => cases hget
  | cons head rest ih =>
    cases index with
    | zero =>
      cases hget
      rfl
    | succ index => exact ih hget

/-! ## Components of types and of values -/

namespace Shader.DataType

/-- The number of columns; what is no matrix has one. -/
def columnCount : DataType → Nat
  | .matrix columns _ _ => columns.size
  | _ => 1

/-- The number of components in a column. -/
def rowCount : DataType → Nat
  | .vector size _ => size.size
  | .matrix _ rows _ => rows.size
  | _ => 1

/-- Where the language places the component of a column and a row: components follow each other, and
columns keep their stride. -/
def componentOffset (type : DataType) (column row : Nat) : Nat :=
  match type with
  | .scalar leaf | .vector _ leaf => row * leaf.width
  | .matrix _ rows leaf => column * columnStride rows leaf + row * leaf.width
  | _ => 0

theorem inputType?_eq_vector {type : DataType} {scalar : Scalar} {width : Width}
    (hinput : type.inputType? = some (.vector scalar width)) :
    ∃ leaf : ScalarType, leaf.kind? = some scalar ∧
      (type = .scalar leaf ∧ width.size = 1 ∨
        ∃ size : Side, type = .vector size leaf ∧ width.size = size.size) := by
  unfold inputType? at hinput
  split at hinput
  · next leaf =>
    obtain ⟨_, hkind, heq⟩ := Option.map_eq_some_iff.1 hinput
    cases heq
    exact ⟨leaf, hkind, .inl ⟨rfl, rfl⟩⟩
  · next leaf =>
    obtain ⟨_, hkind, heq⟩ := Option.map_eq_some_iff.1 hinput
    cases heq
    exact ⟨leaf, hkind, .inr ⟨.two, rfl, rfl⟩⟩
  · next leaf =>
    obtain ⟨_, hkind, heq⟩ := Option.map_eq_some_iff.1 hinput
    cases heq
    exact ⟨leaf, hkind, .inr ⟨.three, rfl, rfl⟩⟩
  · next leaf =>
    obtain ⟨_, hkind, heq⟩ := Option.map_eq_some_iff.1 hinput
    cases heq
    exact ⟨leaf, hkind, .inr ⟨.four, rfl, rfl⟩⟩
  · split at hinput
    · cases hinput
    · cases hinput
  · cases hinput

theorem inputType?_eq_matrix {type : DataType} {side : Side}
    (hinput : type.inputType? = some (.matrix side)) :
    ∃ leaf : ScalarType, type = .matrix side side leaf := by
  unfold inputType? at hinput
  split at hinput
  · obtain ⟨_, _, heq⟩ := Option.map_eq_some_iff.1 hinput
    cases heq
  · obtain ⟨_, _, heq⟩ := Option.map_eq_some_iff.1 hinput
    cases heq
  · obtain ⟨_, _, heq⟩ := Option.map_eq_some_iff.1 hinput
    cases heq
  · obtain ⟨_, _, heq⟩ := Option.map_eq_some_iff.1 hinput
    cases heq
  · next columns rows leaf =>
    split at hinput
    · next hsquare =>
      cases hinput
      obtain ⟨rfl, _⟩ := hsquare
      exact ⟨leaf, rfl⟩
    · cases hinput
  · cases hinput

/-- A type of values is that of a scalar, of vectors or of square matrices. -/
theorem exists_leaf_of_inputType? {type : DataType} {input : InputType}
    (hinput : type.inputType? = some input) :
    ∃ leaf : ScalarType, type = .scalar leaf ∨ (∃ size, type = .vector size leaf) ∨
      ∃ side, type = .matrix side side leaf := by
  cases input with
  | vector scalar width =>
    obtain ⟨leaf, _, ⟨rfl, _⟩ | ⟨size, rfl, _⟩⟩ := inputType?_eq_vector hinput
    · exact ⟨leaf, .inl rfl⟩
    · exact ⟨leaf, .inr (.inl ⟨size, rfl⟩)⟩
  | matrix side =>
    obtain ⟨leaf, rfl⟩ := inputType?_eq_matrix hinput
    exact ⟨leaf, .inr (.inr ⟨side, rfl⟩)⟩
  | texture kind => cases isSampler_of_inputType? hinput

/-- The scalars that the size of a type counts, those that pad columns among them. -/
def scalarCount : DataType → Nat
  | .scalar _ => 1
  | .vector size _ => size.size
  | .matrix columns rows _ => columns.size * if rows == .two then 2 else 4
  | _ => 0

/-- A type of values takes as many bytes as its scalars, whatever they are. -/
theorem size_withLeaf {type : DataType} {input : InputType}
    (hinput : type.inputType? = some input) (layouts : Layouts) (leaf : ScalarType) :
    (type.withLeaf leaf).size layouts = type.scalarCount * leaf.width := by
  obtain ⟨own, rfl | ⟨size, rfl⟩ | ⟨side, rfl⟩⟩ := exists_leaf_of_inputType? hinput
  · exact (Nat.one_mul _).symm
  · rfl
  · exact (Nat.mul_assoc ..).symm

theorem scalarCount_pos {type : DataType} {input : InputType}
    (hinput : type.inputType? = some input) : 0 < type.scalarCount := by
  obtain ⟨leaf, rfl | ⟨size, rfl⟩ | ⟨side, rfl⟩⟩ := exists_leaf_of_inputType? hinput
  · exact Nat.one_pos
  · show 0 < size.size
    cases size <;> decide
  · show 0 < side.size * if side == .two then 2 else 4
    cases side <;> decide

theorem leaf?_eq_some {type : DataType} {input : InputType}
    (hinput : type.inputType? = some input) :
    ∃ leaf, type.leaf? = some leaf ∧ type.withLeaf leaf = type := by
  obtain ⟨leaf, rfl | ⟨size, rfl⟩ | ⟨side, rfl⟩⟩ := exists_leaf_of_inputType? hinput
  · exact ⟨leaf, rfl, rfl⟩
  · exact ⟨leaf, rfl, rfl⟩
  · exact ⟨leaf, rfl, rfl⟩

/-- Where components are depends on the width of the leaf alone. -/
theorem componentOffset_withLeaf {type : DataType} {input : InputType}
    (hinput : type.inputType? = some input) {leaf other : ScalarType}
    (hwidth : leaf.width = other.width) (column row : Nat) :
    (type.withLeaf leaf).componentOffset column row =
      (type.withLeaf other).componentOffset column row := by
  obtain ⟨own, rfl | ⟨size, rfl⟩ | ⟨side, rfl⟩⟩ := exists_leaf_of_inputType? hinput
  · exact congrArg (row * ·) hwidth
  · exact congrArg (row * ·) hwidth
  · simp only [withLeaf, componentOffset, columnStride, hwidth]

theorem shape_withLeaf (type : DataType) (leaf : ScalarType) :
    (type.withLeaf leaf).columnCount = type.columnCount ∧
      (type.withLeaf leaf).rowCount = type.rowCount := by
  cases type <;> exact ⟨rfl, rfl⟩

end Shader.DataType

namespace Value

/-- The components of a value as words, column by column. -/
def columns : Value → List (List UInt32)
  | .bools _ components => [components.toList.map boolWord]
  | .words _ components => [components.toList]
  | .ints _ components => [components.toList.map Int32.toUInt32]
  | .floats _ components => [components.toList.map Single.bits]
  | .matrix _ columns => columns.toList.map fun column => column.toList.map Single.bits

/-- The packed bytes of a value are laid out as something of a type is: they are as many, there is a
component for each of the type, and each stands where the language places it. -/
structure Fills (value : Value) (layouts : Layouts) (type : DataType) : Prop where
  size : value.packed.length = type.size layouts
  shape : value.columns.map List.length = List.replicate type.columnCount type.rowCount
  places : ∀ ⦃column row words word⦄, value.columns[column]? = some words →
    words[row]? = some word →
    (value.packed.drop (type.componentOffset column row)).take 4 = littleEndian word

theorem length_packed (value : Value) : value.packed.length = 4 * value.packedWords.length := by
  rw [packed, length_flatMap_of_length fun word _ => length_littleEndian word, Nat.mul_comm]

/-- A value that is no matrix has one column, which is packed as it is. -/
theorem packedWords_of_vector {value : Value} {scalar : Scalar} {width : Width}
    (htype : value.inputType = .vector scalar width) :
    value.columns = [value.packedWords] ∧ value.packedWords.length = width.size := by
  cases value with
  | bools other components =>
    cases htype
    exact ⟨rfl, by rw [packedWords, List.length_map, Vector.length_toList]⟩
  | words other components =>
    cases htype
    exact ⟨rfl, Vector.length_toList⟩
  | ints other components =>
    cases htype
    exact ⟨rfl, by rw [packedWords, List.length_map, Vector.length_toList]⟩
  | floats other components =>
    cases htype
    exact ⟨rfl, by rw [packedWords, List.length_map, Vector.length_toList]⟩
  | matrix side columns => cases htype

theorem length_columnWords {side : Side} (column : Vector Single side.size) :
    (columnWords column).length = if side == .two then 2 else 4 := by
  rw [columnWords, List.length_append, List.length_map, Vector.length_toList]
  cases side <;> rfl

/-- A value that is no matrix fills a type with one column of as many components. -/
theorem fills_of_vector {value : Value} {scalar : Scalar} {width : Width}
    (htype : value.inputType = .vector scalar width) {layouts : Layouts} {type : DataType}
    (hsize : type.size layouts = 4 * width.size) (hcolumns : type.columnCount = 1)
    (hrows : type.rowCount = width.size)
    (hoffset : ∀ row, type.componentOffset 0 row = 4 * row) : value.Fills layouts type := by
  obtain ⟨hwords, hlength⟩ := packedWords_of_vector htype
  constructor
  · rw [length_packed, hlength, hsize]
  · rw [hwords, hcolumns, hrows, ← hlength]
    rfl
  · intro column row words word hcolumn hrow
    rw [hwords] at hcolumn
    cases column with
    | zero =>
      cases hcolumn
      rw [hoffset]
      exact take_drop_flatMap_littleEndian hrow
    | succ column => cases hcolumn

theorem fills_of_matrix {side : Side} (components : Vector (Vector Single side.size) side.size)
    (layouts : Layouts) : (matrix side components).Fills layouts (.matrix side side .float) := by
  have hstride : ∀ column ∈ components.toList,
      (columnWords column).length = if side == .two then 2 else 4 :=
    fun column _ => length_columnWords column
  constructor
  · have hwords := length_flatMap_of_length hstride
    rw [Vector.length_toList] at hwords
    rw [length_packed, packedWords, hwords, DataType.size, DataType.columnStride,
      Nat.mul_comm, Nat.mul_assoc]
    rfl
  · have hcolumn : ∀ column ∈ components.toList,
        (column.toList.map Single.bits).length = side.size := by
      intro column _
      rw [List.length_map, Vector.length_toList]
    rw [columns, List.map_map]
    show components.toList.map (fun column => (column.toList.map Single.bits).length) = _
    rw [List.map_congr_left hcolumn, List.map_const', Vector.length_toList]
    rfl
  · intro column row words word hcolumn hrow
    rw [columns, List.getElem?_map, Option.map_eq_some_iff] at hcolumn
    obtain ⟨own, hown, rfl⟩ := hcolumn
    have hrow : (columnWords own)[row]? = some word := by
      rw [columnWords, List.getElem?_append_left (List.getElem?_eq_some_iff.1 hrow).1]
      exact hrow
    have hword := getElem?_flatMap_of_length hstride hown hrow
    have hoffset : (DataType.matrix side side .float).componentOffset column row =
        4 * (column * (if side == .two then 2 else 4) + row) := by
      show column * ((if side == .two then 2 else 4) * 4) + row * 4 = _
      rw [← Nat.mul_assoc, ← Nat.add_mul, Nat.mul_comm]
    rw [hoffset]
    exact take_drop_flatMap_littleEndian hword

theorem exists_written_vector (scalar : Scalar) (width : Width) :
    ∃ written, (InputType.vector scalar width).written = .vector written width := by
  cases scalar with
  | bool => exact ⟨.word, rfl⟩
  | word => exact ⟨.word, rfl⟩
  | int => exact ⟨.int, rfl⟩
  | float => exact ⟨.float, rfl⟩

/-- A value is packed as the type it is written to would be if its scalars took four bytes. -/
theorem fills_withLeaf {value : Value} {type : DataType}
    (hinput : type.inputType? = some value.inputType.written) (layouts : Layouts) :
    value.Fills layouts (type.withLeaf .float) := by
  have hvector {scalar : Scalar} {width : Width} (htype : value.inputType = .vector scalar width) :
      value.Fills layouts (type.withLeaf .float) := by
    obtain ⟨written, hwritten⟩ := exists_written_vector scalar width
    rw [htype, hwritten] at hinput
    obtain ⟨leaf, _, ⟨rfl, hwidth⟩ | ⟨size, rfl, hwidth⟩⟩ := DataType.inputType?_eq_vector hinput
    · refine fills_of_vector htype ?_ rfl hwidth.symm fun row => Nat.mul_comm row 4
      rw [hwidth]
      rfl
    · refine fills_of_vector htype ?_ rfl hwidth.symm fun row => Nat.mul_comm row 4
      rw [hwidth, Nat.mul_comm]
      rfl
  cases value with
  | bools width components => exact hvector rfl
  | words width components => exact hvector rfl
  | ints width components => exact hvector rfl
  | floats width components => exact hvector rfl
  | matrix side components =>
    obtain ⟨leaf, rfl⟩ := DataType.inputType?_eq_matrix hinput
    exact fills_of_matrix components layouts

/-- A value is as long as the type it is written to just when the scalars of the type take four
bytes. -/
theorem length_packed_eq_iff {value : Value} {type : DataType}
    (hinput : type.inputType? = some value.inputType.written) {leaf : ScalarType}
    (hleaf : type.leaf? = some leaf) (layouts : Layouts) :
    value.packed.length = type.size layouts ↔ leaf.width = 4 := by
  obtain ⟨own, hown, htype⟩ := DataType.leaf?_eq_some hinput
  cases hleaf.symm.trans hown
  have hsize := DataType.size_withLeaf hinput layouts leaf
  rw [htype] at hsize
  rw [(fills_withLeaf hinput layouts).size, DataType.size_withLeaf hinput, hsize,
    Nat.mul_right_inj (Nat.ne_of_gt (DataType.scalarCount_pos hinput))]
  exact eq_comm

/-- A value fills the type it is written to just when the scalars of the type take four bytes. -/
theorem fills_iff {value : Value} {type : DataType}
    (hinput : type.inputType? = some value.inputType.written) {leaf : ScalarType}
    (hleaf : type.leaf? = some leaf) (layouts : Layouts) :
    value.Fills layouts type ↔ leaf.width = 4 := by
  have hlength := length_packed_eq_iff hinput hleaf layouts
  constructor
  · intro hfills
    exact hlength.1 hfills.size
  · intro hwidth
    obtain ⟨own, hown, htype⟩ := DataType.leaf?_eq_some hinput
    cases hleaf.symm.trans hown
    have hfills := fills_withLeaf hinput layouts
    obtain ⟨hcolumns, hrows⟩ := type.shape_withLeaf .float
    refine ⟨hlength.2 hwidth, ?_, ?_⟩
    · rw [← hcolumns, ← hrows]
      exact hfills.shape
    · intro column row words word hcolumn hrow
      have hoffset := DataType.componentOffset_withLeaf hinput
        (show leaf.width = ScalarType.float.width from hwidth) column row
      rw [htype] at hoffset
      rw [hoffset]
      exact hfills.places hcolumn hrow

end Value

/-! ## What programs declare -/

namespace Shader

/-- A stage declares a uniform of a type under a name. -/
structure CompiledStage.Declares (stage : CompiledStage) (name : String) (info : UniformInfo)
    (type : DataType) : Prop where
  exists_variable : ∃ declared ∈ stage.module.moduleVariables, declared.name = name ∧
    declared.space = .uniform ∧ declared.slot = some info.slot ∧ declared.type = type
  size : info.size = type.size stage.module.scope.layouts
  type : info.type = type.inputType?

theorem CompiledStage.exists_declares {stage : CompiledStage} {name : String} {info : UniformInfo}
    (hget : stage.interface.uniforms.get? name = some info) :
    ∃ type, stage.Declares name info type := by
  have hmem : (name, info) ∈
      Interface.uniformEntries stage.module.scope.layouts stage.module.moduleVariables :=
    Table.mem_of_mem_ofList (Table.get?_eq_some_iff.1 hget)
  obtain ⟨declared, hdeclared, hentry⟩ := List.mem_filterMap.1 hmem
  split at hentry
  · next slot hspace hslot =>
    cases hentry
    exact ⟨declared.type, ⟨declared, hdeclared, rfl, hspace, hslot, rfl⟩, rfl, rfl⟩
  · cases hentry

/-- An input that a format feeds is as long as the format just when its scalars take four bytes. -/
theorem StageValue.size_eq_iff {input : StageValue} {format : VertexFormat}
    (hformat : input.type.vertexFormat? = some format) :
    ∃ leaf, input.type.leaf? = some leaf ∧
      ∀ layouts, input.type.size layouts = format.size ↔ leaf.width = 4 := by
  obtain ⟨type, hinput, hformat⟩ := Option.bind_eq_some_iff.1 hformat
  cases type with
  | vector scalar width =>
    cases hformat
    obtain ⟨leaf, hleaf, htype⟩ := DataType.leaf?_eq_some hinput
    refine ⟨leaf, hleaf, fun layouts => ?_⟩
    have hcount : input.type.scalarCount = width.size := by
      obtain ⟨own, _, ⟨heq, hwidth⟩ | ⟨size, heq, hwidth⟩⟩ := DataType.inputType?_eq_vector hinput
      · rw [heq, hwidth]
        rfl
      · rw [heq, hwidth]
        rfl
    have hsize := DataType.size_withLeaf hinput layouts leaf
    have hpos := DataType.scalarCount_pos hinput
    rw [htype] at hsize
    rw [hsize, VertexFormat.size, ← hcount, Nat.mul_comm 4,
      Nat.mul_right_inj (Nat.ne_of_gt hpos)]
  | matrix side => cases hformat
  | texture kind => cases hformat

end Shader

section Programs

variable {handles : Handles}

/-- Every uniform of a program is declared by the first stage that has its name. Whatever value is let
through for it is packed as this declaration would be if its scalars took four bytes: the bytes are as
many as the reflected size, and every component is where the language places it, just when they do. -/
def CompiledProgram.PacksWords (program : CompiledProgram handles)
    (vertex fragment : CompiledStage) : Prop :=
  ∀ name slot, program.uniforms.get? name = some slot →
    ∃ stage info type leaf,
      (stage = vertex ∨ vertex.interface.uniforms.get? name = none ∧ stage = fragment) ∧
      stage.interface.uniforms.get? name = some info ∧ info.slot = slot.slot ∧
      stage.Declares name info type ∧ type.leaf? = some leaf ∧
      ∀ (object : Option (Object handles.Buffer)) (scene : Scene handles.Buffer)
        (policy : UnboundUniformPolicy) (value : Value),
        uniformValue name slot object scene policy = .ok value →
          value.Fills stage.module.scope.layouts (type.withLeaf .float) ∧
          (value.packed.length = info.size ↔ leaf.width = 4) ∧
          (value.Fills stage.module.scope.layouts type ↔ leaf.width = 4)

/-- Every input that has a format is as long as the format just when its scalars take four bytes. -/
def Shader.CompiledStage.ReadsWords (stage : CompiledStage) : Prop :=
  ∀ name location format, stage.interface.inputs.get? name = some ⟨location, some format⟩ →
    ∃ input ∈ stage.entry.inputs, input.name = name ∧ input.location? = some location ∧
      ∃ leaf, input.type.leaf? = some leaf ∧
        ∀ layouts, input.type.size layouts = format.size ↔ leaf.width = 4

/-- Whatever program is compiled, values are packed for uniforms whose scalars take four bytes, and
formats are given to inputs as if their scalars did. -/
theorem packing_fills_words {State : Type} [Device State handles] [Device.Reflects State]
    {config : Config} {descriptor : Program} {program : CompiledProgram handles}
    {before after : State}
    (hok : compileProgram config descriptor before = (.ok program, after)) :
    ∃ vertex fragment : CompiledStage,
      CompiledStage.ofSource descriptor.vertexShader .vertex config.vertexEntryPoint = .ok vertex ∧
      CompiledStage.ofSource descriptor.fragmentShader .fragment config.fragmentEntryPoint =
        .ok fragment ∧
      program.PacksWords vertex fragment ∧ vertex.ReadsWords := by
  obtain ⟨vertexShader, fragmentShader, hmade⟩ := CompiledProgram.exists_madeFrom hok
  obtain ⟨_, _, hvertex⟩ := hmade.vertex_compiled
  obtain ⟨_, _, hfragment⟩ := hmade.fragment_compiled
  obtain ⟨vertex, hvertex, hvertexInterface⟩ := Device.Reflects.exists_stage hvertex
  obtain ⟨fragment, hfragment, hfragmentInterface⟩ := Device.Reflects.exists_stage hfragment
  refine ⟨vertex, fragment, hvertex, hfragment, ?_, ?_⟩
  · intro name slot hget
    rw [hmade.uniforms, get?_uniformSlots_eq_some_iff, hvertexInterface, hfragmentInterface] at hget
    obtain ⟨_, info, hinfo, hslot, htype⟩ := hget
    have hstage : ∃ stage, (stage = vertex ∨
        vertex.interface.uniforms.get? name = none ∧ stage = fragment) ∧
        stage.interface.uniforms.get? name = some info := by
      rcases ofStages_eq_some_iff.1 hinfo with hfirst | ⟨hnone, hsecond⟩
      · exact ⟨vertex, .inl rfl, hfirst⟩
      · exact ⟨fragment, .inr ⟨hnone, rfl⟩, hsecond⟩
    obtain ⟨stage, hstage, hexposed⟩ := hstage
    obtain ⟨type, hdeclares⟩ := CompiledStage.exists_declares hexposed
    have hinput : type.inputType? = some slot.type.written := hdeclares.type.symm.trans htype
    obtain ⟨leaf, hleaf, _⟩ := DataType.leaf?_eq_some hinput
    refine ⟨stage, info, type, leaf, hstage, hexposed, hslot, hdeclares, hleaf, ?_⟩
    intro object scene policy value hvalue
    rw [← inputType_of_uniformValue hvalue] at hinput
    refine ⟨Value.fills_withLeaf hinput _, ?_, Value.fills_iff hinput hleaf _⟩
    rw [hdeclares.size]
    exact Value.length_packed_eq_iff hinput hleaf _
  · intro name location format hget
    obtain ⟨earlier, input, later, hinputs, hname, hlocation, hformat, _⟩ :=
      CompiledStage.get?_inputs_eq_some_iff.1 hget
    have hmem : input ∈ vertex.entry.inputs := by
      rw [hinputs]
      exact List.mem_append_cons_self
    exact ⟨input, hmem, hname, hlocation, StageValue.size_eq_iff hformat⟩

end Programs

/-! ## A uniform of half precision -/

namespace Sample

/-- A program with a uniform of two bytes. -/
def halfUniform : Program where
  uniforms := .ofList [("h", .vector .float .one)]
  streams := .empty
  textures := .empty
  vertexShader :=
    "enable f16;@group(0)@binding(0)var<uniform>h:f16;" ++
    "@vertex fn v()->@builtin(position)vec4f\x7breturn vec4f();\x7d"
  geometryShader := none
  fragmentShader := "@fragment fn f()->@location(0)vec4f\x7breturn vec4f();\x7d"

/-- Where the uniform is submitted. -/
def halfSlot : UniformSlot := ⟨⟨0, 0⟩, .vector .float .one⟩

/-- The reflected size and type of the uniform. -/
def halfInfo : UniformInfo := ⟨halfSlot.slot, 2, some (.vector .float .one)⟩

/-- What is submitted where nothing is given. -/
def halfZero : Value := .floats .one (.replicate 1 .zero)

theorem uniformValue_half :
    uniformValue "h" halfSlot none (scene recordedBuffer) .zero = .ok halfZero := rfl

theorem length_packed_halfZero : halfZero.packed.length = 4 := halfZero.length_packed

theorem recorder_compiles_half : ∃ program after,
    compileProgram config halfUniform recorder = (.ok program, after) ∧
    program.uniforms.get? "h" = some halfSlot ∧
    (CompiledStage.ofSource halfUniform.vertexShader .vertex "v").toOption.map
      (·.interface.uniforms.get? "h") =
        some (some halfInfo) :=
  Attempt.exists_of_yields (by decide +kernel)

end Sample

/-- What is packed for the uniform of half precision. -/
theorem packing_fills_words_half : ∃ program after,
    compileProgram Sample.config Sample.halfUniform Sample.recorder = (.ok program, after) ∧
    ∃ vertex fragment : CompiledStage,
      CompiledStage.ofSource Sample.halfUniform.vertexShader .vertex "v" = .ok vertex ∧
      CompiledStage.ofSource Sample.halfUniform.fragmentShader .fragment "f" = .ok fragment ∧
      program.PacksWords vertex fragment ∧ vertex.ReadsWords := by
  obtain ⟨program, after, hok, _, _⟩ := Sample.recorder_compiles_half
  have hwords := packing_fills_words hok
  exact ⟨program, after, hok, hwords⟩

/-- Packed bytes need not fill the type of the shader: the uniform has two bytes, and gets four. -/
theorem packing_overfills_half : ∃ stage program after info value,
    CompiledStage.ofSource Sample.halfUniform.vertexShader .vertex "v" = .ok stage ∧
    compileProgram Sample.config Sample.halfUniform Sample.recorder = (.ok program, after) ∧
    program.uniforms.get? "h" = some Sample.halfSlot ∧
    stage.interface.uniforms.get? "h" = some info ∧
    uniformValue "h" Sample.halfSlot none (Sample.scene Sample.recordedBuffer) .zero = .ok value ∧
    value.packed.length = 4 ∧ info.size = 2 := by
  obtain ⟨program, after, hok, hslot, hexposed⟩ := Sample.recorder_compiles_half
  obtain ⟨stage, hstage, hinfo⟩ := Attempt.exists_of_map_toOption hexposed
  exact ⟨stage, program, after, Sample.halfInfo, Sample.halfZero, hstage, hok, hslot, hinfo,
    Sample.uniformValue_half, Sample.length_packed_halfZero, rfl⟩

end FramePlan
