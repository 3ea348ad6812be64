import FramePlan.Pipeline

/-!
# Validity of references

Every index in a pipeline has to lie in the list that it refers to. The references are listed once,
in the order in which they are declared, and a pipeline is checked against that list; the first one
out of range is reported.

`Pipeline.validate` is `validate` of the description format, and a dangling reference is its
`IndexOutOfRange`.
-/

namespace FramePlan

/-- The lists of a pipeline that are referred to by index. -/
inductive ResourceKind where
  | texture
  | program
  | target
  | slot
  | stream
deriving DecidableEq, Repr

def ResourceKind.name : ResourceKind → String
  | .texture => "texture"
  | .program => "program"
  | .target => "target"
  | .slot => "slot"
  | .stream => "stream"

inductive ReferenceSite where
  | targetItem (target item : Nat)
  | slot (index : Nat)
  | stream (index : Nat)
  | command (index : Nat)
deriving DecidableEq, Repr

def ReferenceSite.text : ReferenceSite → String
  | .targetItem target item => s!"target {target} item {item}"
  | .slot index => s!"slot {index}"
  | .stream index => s!"stream {index}"
  | .command index => s!"command {index}"

/-- A reference by index, with the place where it stands. -/
structure Reference where
  site : ReferenceSite
  kind : ResourceKind
  index : Nat
deriving DecidableEq, Repr

/-- A reference beyond the end of the list that it points into. -/
structure DanglingReference where
  reference : Reference
  length : Nat
deriving DecidableEq, Repr

def DanglingReference.message (dangling : DanglingReference) : String :=
  let reference := dangling.reference
  s!"{reference.site.text} references {reference.kind.name} {reference.index}, " ++
    s!"but the pipeline only has {dangling.length}"

/-- The reference of a command, if it has one. -/
def Command.reference? : Command → Option (ResourceKind × Nat)
  | .setTexture _ texture => some (.texture, texture)
  | .setProgram program => some (.program, program)
  | .setRenderTarget target => some (.target, target)
  | .renderSlot slot => some (.slot, slot)
  | .renderStream stream => some (.stream, stream)
  | .setRasterContext _ | .setAccumulationContext _ | .clearRenderTarget _
  | .setSamplerUniform _ _ => none

namespace Pipeline

def count (pipeline : Pipeline) : ResourceKind → Nat
  | .texture => pipeline.textures.length
  | .program => pipeline.programs.length
  | .target => pipeline.targets.length
  | .slot => pipeline.slots.length
  | .stream => pipeline.streams.length

def targetReferences (pipeline : Pipeline) : List Reference :=
  pipeline.targets.zipIdx.flatMap fun (target, targetIndex) =>
    target.items.zipIdx.filterMap fun (item, itemIndex) =>
      item.textureIndex?.map (⟨.targetItem targetIndex itemIndex, .texture, ·⟩)

def slotReferences (pipeline : Pipeline) : List Reference :=
  pipeline.slots.zipIdx.flatMap fun (slot, index) =>
    slot.programs.map (⟨.slot index, .program, ·⟩)

def streamReferences (pipeline : Pipeline) : List Reference :=
  pipeline.streams.zipIdx.flatMap fun (stream, index) =>
    stream.programs.map (⟨.stream index, .program, ·⟩)

def commandReferences (pipeline : Pipeline) : List Reference :=
  pipeline.commands.zipIdx.filterMap fun (command, index) =>
    command.reference?.map fun (kind, referred) => ⟨.command index, kind, referred⟩

/-- Every reference: those of targets, of slots, of stream data and of commands. -/
def references (pipeline : Pipeline) : List Reference :=
  pipeline.targetReferences ++ pipeline.slotReferences ++ pipeline.streamReferences ++
    pipeline.commandReferences

/-- The reference as a defect, if its index is beyond the end of its list. -/
def dangling? (pipeline : Pipeline) (reference : Reference) : Option DanglingReference :=
  let length := pipeline.count reference.kind
  if reference.index < length then none else some ⟨reference, length⟩

/-- The first reference out of range, if any. -/
def validate (pipeline : Pipeline) : Except DanglingReference Unit :=
  match pipeline.references.findSome? pipeline.dangling? with
  | some dangling => .error dangling
  | none => .ok ()

end Pipeline

end FramePlan
