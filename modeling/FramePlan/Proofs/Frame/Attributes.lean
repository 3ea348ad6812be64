import FramePlan.Proofs.Device.Drawing
import FramePlan.Proofs.Device.InputLayout
import FramePlan.Proofs.Frame.Origin

/-!
# What the attributes of a draw read

An input layout lists what a vertex stage takes, but a frame binds streams for what the program
declares. An attribute that is declared, with a type of its format, reads a stream of the drawable that
is drawn, whatever was bound at its location before. For any other attribute nothing is bound, so it
reads what an earlier draw has left at its location, of another program or of an earlier frame, and
where nothing was left the draw is refused.

* `Program.Feeds`: which attributes a program declares a stream for.
* `CompiledProgram.MadeFrom.mem_streams_iff`: the streams of a program are those that feed an attribute.
* `draw_reads_declared_streams`: what the attributes of an accepted draw read.
* `draw_reads_left_stream`: an attribute that reads what another program has left.
-/

namespace FramePlan

open Shader (CompiledStage)

variable {State : Type} {handles : Handles}

/-- A program declares a stream for an attribute: by its name, and with a type of its format. -/
def Program.Feeds (descriptor : Program) (listed : VertexAttribute) (parameter : Parameter) : Prop :=
  descriptor.streams.get? listed.name = some parameter ∧
    VertexFormat.ofInputType? parameter.type = some listed.format

/-- The slot of a stream that is declared for an attribute. -/
def VertexAttribute.slot (listed : VertexAttribute) (parameter : Parameter) : StreamSlot :=
  ⟨parameter.name, listed.location, parameter.type⟩

namespace CompiledProgram.MadeFrom

variable {config : Config} {descriptor : Program} {program : CompiledProgram handles}
  {vertex fragment : CompiledShader handles.Shader}

/-- Of the streams of a program, the one at the location of an attribute is the one declared for it. -/
theorem mem_streams_iff [Device State handles] [Device.Reflects State]
    (hmade : program.MadeFrom State config descriptor vertex fragment) {listed : VertexAttribute}
    (hlisted : listed ∈ inputAttributes vertex.interface) {entry : String × StreamSlot} :
    entry ∈ program.streams.entries ∧ entry.2.location = listed.location ↔
      ∃ parameter, descriptor.Feeds listed parameter ∧
        entry = (listed.name, listed.slot parameter) := by
  obtain ⟨name, slot⟩ := entry
  have hinput := mem_inputAttributes.1 hlisted
  rw [hmade.streams, ← Table.get?_eq_some_iff, get?_streamSlots_eq_some_iff]
  constructor
  · rintro ⟨⟨hdeclared, format, hget, hformat⟩, hlocation⟩
    -- inputs that arrive at one location have one name
    obtain ⟨_, _, hvertex⟩ := hmade.vertex_compiled
    obtain ⟨stage, hstage, hinterface⟩ := Device.Reflects.exists_stage hvertex
    rw [hinterface] at hget hinput
    have hname : name = listed.name :=
      CompiledStage.name_eq_of_location_eq hstage hget hinput hlocation
    rw [hname, hinput] at hget
    obtain ⟨stream, location, type⟩ := slot
    cases hget
    rw [hname] at hdeclared
    exact ⟨⟨stream, type⟩, ⟨hdeclared, hformat⟩, by rw [hname]; rfl⟩
  · rintro ⟨parameter, ⟨hdeclared, hformat⟩, hentry⟩
    cases hentry
    exact ⟨⟨hdeclared, listed.format, hinput, hformat⟩, rfl⟩

/-- The layout that a GPU makes lists the inputs of the vertex stage. -/
theorem attributes_eq {program : CompiledProgram Gpu.handles}
    {vertex fragment : CompiledShader GpuShader}
    (hmade : program.MadeFrom Gpu config descriptor vertex fragment) :
    program.inputLayout.attributes = inputAttributes vertex.interface := by
  obtain ⟨before, after, hok⟩ := hmade.layout_created
  have hok : Gpu.createInputLayout vertex.handle (inputAttributes vertex.interface) before =
    (.ok program.inputLayout, after) := hok
  unfold Gpu.createInputLayout at hok
  split at hok
  · have hlayout := Except.ok.inj (congrArg Prod.fst hok)
    exact congrArg GpuInputLayout.attributes hlayout.symm
  · exact absurd hok Attempt.throw_ne_ok

end CompiledProgram.MadeFrom

namespace Submission

/-- With all its streams a drawable gets at a location what the program has there. -/
theorem mem_bindings_iff {submission : Submission handles} {policy : UnboundUniformPolicy}
    (hstreams : submission.hasStreams = true) {location : Nat}
    {binding : StreamBinding handles.Buffer} :
    .setVertexStream location binding ∈ submission.bindings policy ↔
      ∃ entry ∈ submission.program.streams.entries, entry.2.location = location ∧
        streamBinding entry.2 submission.drawable.streams = .ok binding := by
  constructor
  · intro hmem
    have hactions : .setVertexStream location binding ∈ submission.actions policy := by
      rw [actions_eq policy hstreams]
      exact List.mem_append_left _ hmem
    exact exists_of_setVertexStream_mem hactions
  · rintro ⟨entry, hentry, rfl, hbound⟩
    refine List.mem_append_right _ (List.mem_filterMap.2 ⟨entry.2, List.mem_map_of_mem hentry, ?_⟩)
    rw [streamAction?, hbound]

/-- Every stream of a program can be bound for a drawable that has its streams. -/
theorem exists_streamBinding {submission : Submission handles}
    (hstreams : submission.hasStreams = true) {entry : String × StreamSlot}
    (hentry : entry ∈ submission.program.streams.entries) :
    ∃ binding, streamBinding entry.2 submission.drawable.streams = .ok binding := by
  have hbound := List.all_eq_true.1 hstreams entry.2 (List.mem_map_of_mem hentry)
  cases hbinding : streamBinding entry.2 submission.drawable.streams with
  | ok binding => exact ⟨binding, rfl⟩
  | error error =>
    rw [hbinding] at hbound
    cases hbound

/-- What an attribute of a draw reads: if it is declared, the stream of the drawable that has been bound
for it, and otherwise what was left at its location before. -/
structure Reads (submission : Submission Gpu.handles) (policy : UnboundUniformPolicy)
    (descriptor : Program) (left : Gpu) (listed : VertexAttribute)
    (read : Nat × StreamBinding GpuBuffer) : Prop where
  location : read.1 = listed.location
  declared : ∀ parameter, descriptor.Feeds listed parameter →
    streamBinding (listed.slot parameter) submission.drawable.streams = .ok read.2 ∧
      .setVertexStream listed.location read.2 ∈ submission.bindings policy
  undeclared : (∀ parameter, ¬descriptor.Feeds listed parameter) →
    left.bound.streams.get? listed.location = some read.2 ∧
      ∀ binding, .setVertexStream listed.location binding ∉ submission.bindings policy

/-- At the location of an attribute a drawable gets the stream that is declared for it. -/
theorem mem_bindings_iff_feeds {submission : Submission handles} {policy : UnboundUniformPolicy}
    [Device State handles] [Device.Reflects State] (hstreams : submission.hasStreams = true)
    {config : Config} {descriptor : Program} {vertex fragment : CompiledShader handles.Shader}
    (hmade : submission.program.MadeFrom State config descriptor vertex fragment)
    {listed : VertexAttribute} (hlisted : listed ∈ inputAttributes vertex.interface)
    {binding : StreamBinding handles.Buffer} :
    .setVertexStream listed.location binding ∈ submission.bindings policy ↔
      ∃ parameter, descriptor.Feeds listed parameter ∧
        streamBinding (listed.slot parameter) submission.drawable.streams = .ok binding := by
  rw [mem_bindings_iff hstreams]
  constructor
  · rintro ⟨entry, hentry, hlocation, hbound⟩
    obtain ⟨parameter, hfeeds, rfl⟩ := (hmade.mem_streams_iff hlisted).1 ⟨hentry, hlocation⟩
    exact ⟨parameter, hfeeds, hbound⟩
  · rintro ⟨parameter, hfeeds, hbound⟩
    obtain ⟨hentry, hlocation⟩ := (hmade.mem_streams_iff hlisted).2 ⟨parameter, hfeeds, rfl⟩
    exact ⟨_, hentry, hlocation, hbound⟩

/-- After a drawable has been bound, an attribute of its program reads its own stream if it is declared,
and otherwise what was there before. -/
theorem reads_of_get?_streams {submission : Submission Gpu.handles}
    {policy : UnboundUniformPolicy} (hstreams : submission.hasStreams = true) {config : Config}
    {descriptor : Program} {vertex fragment : CompiledShader GpuShader}
    (hmade : submission.program.MadeFrom Gpu config descriptor vertex fragment)
    {listed : VertexAttribute} (hlisted : listed ∈ submission.program.inputLayout.attributes)
    (left : Gpu) {read : Nat × StreamBinding GpuBuffer} (hlocation : read.1 = listed.location)
    (hget : ((submission.bindings policy).foldl (fun device action => action.apply device)
      left).bound.streams.get? listed.location = some read.2) :
    submission.Reads policy descriptor left listed read := by
  rw [hmade.attributes_eq] at hlisted
  rcases Gpu.setVertexStream_mem_or_of_get?_streams hget with hmem | ⟨hnone, hbefore⟩
  · obtain ⟨declared, hdeclared, hbound⟩ := (mem_bindings_iff_feeds hstreams hmade hlisted).1 hmem
    refine ⟨hlocation, ?_, fun hundeclared => absurd hdeclared (hundeclared declared)⟩
    intro parameter hfeeds
    cases Option.some.inj (hdeclared.1.symm.trans hfeeds.1)
    exact ⟨hbound, hmem⟩
  · refine ⟨hlocation, ?_, fun _ => ⟨hbefore, hnone⟩⟩
    -- a declared attribute would have been bound
    intro parameter hfeeds
    have hentry := ((hmade.mem_streams_iff hlisted).2 ⟨parameter, hfeeds, rfl⟩).1
    obtain ⟨binding, hbound⟩ := exists_streamBinding hstreams hentry
    refine absurd ?_ (hnone binding)
    exact (mem_bindings_iff_feeds hstreams hmade hlisted).2 ⟨parameter, hfeeds, hbound⟩

end Submission

/-- Whatever has happened before on a GPU, when a draw of at least one vertex is accepted there in a
frame, it is the turn of a drawable, and everything for the draw has been put together: the program is
that of the drawable, and there is a stream for every attribute of its layout. Where the program
declares a stream for the attribute, with a type of its format, this is the stream of that name of the
drawable itself, which has been bound in this turn. Any other attribute reads what was bound last at its
location before this turn. -/
theorem draw_reads_declared_streams {pipeline : Pipeline} {width height : UInt32} {config : Config}
    {start ready : Gpu} {compiled : CompiledPipeline Gpu.handles}
    (hcompile : CompiledPipeline.compile pipeline width height config start = (.ok compiled, ready))
    (scene : Option (Scene GpuBuffer)) (gpu : Gpu)
    {before after : List (Action Gpu.handles)} {primitive : Primitive} {vertexCount : UInt32}
    (hplan : compiled.plan scene = before ++ .draw primitive vertexCount :: after)
    (hcount : vertexCount ≠ 0)
    (haccepted : isAccepted (Device.draw primitive vertexCount
      (before.foldl (fun device action => action.apply device) gpu)).1 = true) :
    let reached := before.foldl (fun device action => action.apply device) gpu
    (compiled.render scene gpu).2 =
        after.foldl (fun device action => action.apply device)
          (Device.draw primitive vertexCount reached).2 ∧
    ∃ passed submission rest others, ∃ index : Nat, ∃ descriptor call,
      compiled.submissions scene = passed ++ submission :: rest ∧
      before.countP Action.isDraw = passed.countP (·.hasStreams) ∧
      before = others ++ submission.bindings config.unboundUniforms ∧
      .draw primitive vertexCount = submission.drawAction ∧
      compiled.resources.programs[index]? = some submission.program ∧
      pipeline.programs[index]? = some descriptor ∧
      reached.drawCall? vertexCount = some call ∧
      call.program = .ofShaders submission.program.shaders ∧
      List.Forall₂ (submission.Reads config.unboundUniforms descriptor
        (others.foldl (fun device action => action.apply device) gpu))
        submission.program.inputLayout.attributes call.streams := by
  intro reached
  have hcompiled := CompiledPipeline.isCompiled_of_compile_eq_ok hcompile
  obtain ⟨passed, submission, rest, others, index, hsubmissions, hpassed, hstreams, hbefore, hlast,
    hindex, hshaders⟩ := compiled.exists_turn hplan rfl
  obtain ⟨descriptor, vertex, fragment, hdescriptor, hmade⟩ := hcompiled.exists_madeFrom hindex
  obtain ⟨call, hcall, _⟩ := Gpu.exists_drawCall?_of_isAccepted hcount haccepted
  obtain ⟨hprogram, hreads⟩ := Gpu.drawCall?_eq_some hcall
  rw [Gpu.program_foldl_apply, hshaders] at hprogram
  have hown : call.program = .ofShaders submission.program.shaders :=
    (Option.some.inj hprogram).symm
  rw [hcompiled.config] at hbefore
  constructor
  · rw [compiled.render_device, hplan, List.foldl_append]
    rfl
  refine ⟨passed, submission, rest, others, index, descriptor, call, hsubmissions, hpassed, hbefore,
    hlast, hindex, hdescriptor, hcall, hown, ?_⟩
  rw [hown, hbefore] at hreads
  have hlisted := (List.forall₂_and_left submission.program.inputLayout.attributes
    call.streams).2 ⟨fun _ hmem => hmem, hreads⟩
  refine hlisted.imp fun listed read ⟨hmem, hlocation, hget⟩ => ?_
  rw [List.foldl_append] at hget
  exact Submission.reads_of_get?_streams hstreams hmade hmem _ hlocation hget

/-! ## Streams that are left -/

namespace Sample

/-- A program that draws at the positions it takes. -/
def plain : Program where
  uniforms := .empty
  streams := .ofList [("p", ⟨"position", vector⟩)]
  textures := .empty
  vertexShader := "@vertex fn v(@location(0)p:vec4f)->@builtin(position)vec4f\x7breturn p;\x7d"
  geometryShader := none
  fragmentShader := "@fragment fn f()->@location(0)vec4f\x7breturn vec4f();\x7d"

/-- Twice as many corners as the triangle has. -/
def hexagon : StreamData :=
  ⟨.ofList [("position", .floats (List.replicate 24 .one))], .ofList [("position", vector)],
    .triangles, [0]⟩

/-- Draws the triangle after the hexagon. -/
def hexagonFirst : Pipeline :=
  { pipeline with
    programs := [plain]
    streams := [hexagon, triangle]
    commands := [.setRenderTarget 0, .setProgram 0, .renderStream 0, .renderStream 1] }

/-- The same with another program for the triangle, which declares no stream for the position. -/
def undeclared : Pipeline :=
  { hexagonFirst with
    programs := [plain, { plain with streams := .empty }]
    commands := [.setRenderTarget 0, .setProgram 0, .renderStream 0, .setProgram 1,
      .renderStream 1] }

/-- The position, read from the beginning of a buffer of some size. -/
def position (size : Nat) : StreamBinding GpuBuffer := ⟨⟨size⟩, 0, ⟨.float, .four⟩, .perVertex⟩

/-- What a GPU draws last in a frame. -/
def lastDraw? (compiled : CompiledPipeline Gpu.handles) : Option (Primitive × UInt32) :=
  (compiled.plan (some (scene ⟨48⟩))).getLast?.bind Action.draw?

/-- A GPU just before its last draw of a frame. -/
def beforeLastDraw (compiled : CompiledPipeline Gpu.handles) (gpu : Gpu) : Gpu :=
  (compiled.plan (some (scene ⟨48⟩))).dropLast.foldl (fun device action => action.apply device) gpu

theorem plan_of_lastDraw? {compiled : CompiledPipeline Gpu.handles} {primitive : Primitive}
    {vertexCount : UInt32} (hlast : lastDraw? compiled = some (primitive, vertexCount)) :
    compiled.plan (some (scene ⟨48⟩)) =
      (compiled.plan (some (scene ⟨48⟩))).dropLast ++ [.draw primitive vertexCount] := by
  obtain ⟨action, hget, hdraw⟩ := Option.bind_eq_some_iff.1 hlast
  cases action with
  | draw other count =>
    cases hdraw
    exact (List.dropLast_append_getLast? _ hget).symm
  | _ => cases hdraw

/-- The attributes of the last draw of a frame with what they read, if it is accepted. -/
def lastReads? (compiled : CompiledPipeline Gpu.handles) (gpu : Gpu) :
    Option (List VertexAttribute × List (Nat × StreamBinding GpuBuffer)) := do
  let (primitive, vertexCount) ← lastDraw? compiled
  let call ← (beforeLastDraw compiled gpu).drawCall? vertexCount
  if isAccepted (Gpu.draw primitive vertexCount (beforeLastDraw compiled gpu)).1 then
    some (call.program.layout.attributes, call.streams)
  else none

theorem exists_of_lastReads? {compiled : CompiledPipeline Gpu.handles} {gpu : Gpu}
    {primitive : Primitive} {vertexCount : UInt32}
    (hlast : lastDraw? compiled = some (primitive, vertexCount)) {listed : List VertexAttribute}
    {reads : List (Nat × StreamBinding GpuBuffer)}
    (hreads : lastReads? compiled gpu = some (listed, reads)) :
    isAccepted (Device.draw primitive vertexCount (beforeLastDraw compiled gpu)).1 = true ∧
      ∃ call, (beforeLastDraw compiled gpu).drawCall? vertexCount = some call ∧
        call.program.layout.attributes = listed ∧ call.streams = reads := by
  obtain ⟨_, hasked, hreads⟩ := Option.bind_eq_some_iff.1 hreads
  cases hlast.symm.trans hasked
  obtain ⟨call, hcall, hreads⟩ := Option.bind_eq_some_iff.1 hreads
  split at hreads
  · next haccepted =>
    cases hreads
    exact ⟨haccepted, call, hcall, rfl, rfl⟩
  · cases hreads

theorem gpu_draws_hexagonFirst : ∃ compiled ready,
    CompiledPipeline.compile hexagonFirst 8 8 config ({} : Gpu) = (.ok compiled, ready) ∧
    lastDraw? compiled = some (.triangleList, 3) ∧
    lastReads? compiled ready = some ([⟨"p", 0, ⟨.float, .four⟩⟩], [(0, position 48)]) :=
  Attempt.exists_of_yields (by decide +kernel)

theorem gpu_draws_undeclared : ∃ compiled ready,
    CompiledPipeline.compile undeclared 8 8 config ({} : Gpu) = (.ok compiled, ready) ∧
    lastDraw? compiled = some (.triangleList, 3) ∧
    lastReads? compiled ready = some ([⟨"p", 0, ⟨.float, .four⟩⟩], [(0, position 96)]) ∧
    ((compiled.submissions (some (scene ⟨48⟩))).getLast?.map fun submission =>
      submission.drawable.streams.values.map fun stream => stream.buffer.handle.size) =
        some [48] :=
  Attempt.exists_of_yields (by decide +kernel)

end Sample

/-- The triangle is read from its own buffer, of half the size of the one that is bound when its turn
comes. -/
theorem draw_reads_declared_streams_hexagonFirst : ∃ compiled ready submission others call read,
    CompiledPipeline.compile Sample.hexagonFirst 8 8 Sample.config ({} : Gpu) =
      (.ok compiled, ready) ∧
    submission ∈ compiled.submissions (some (Sample.scene ⟨48⟩)) ∧
    compiled.plan (some (Sample.scene ⟨48⟩)) =
      others ++ submission.bindings .zero ++ [.draw .triangleList 3] ∧
    Gpu.drawCall? 3 ((others ++ submission.bindings .zero).foldl
      (fun device action => action.apply device) ready) = some call ∧
    call.streams = [(0, read)] ∧ read = Sample.position 48 ∧
    streamBinding ⟨"position", 0, Sample.vector⟩ submission.drawable.streams = .ok read ∧
    .setVertexStream 0 read ∈ submission.bindings .zero := by
  obtain ⟨compiled, ready, hcompile, hlast, hreads⟩ := Sample.gpu_draws_hexagonFirst
  have hplan := Sample.plan_of_lastDraw? hlast
  obtain ⟨haccepted, made, hmade, hlisted, hstreams⟩ := Sample.exists_of_lastReads? hlast hreads
  obtain ⟨_, passed, submission, rest, others, index, descriptor, call, hsubmissions, _, hbefore, _,
    _, hdescriptor, hcall, hprogram, hall⟩ :=
    draw_reads_declared_streams hcompile _ ready hplan (by decide) haccepted
  cases hmade.symm.trans hcall
  have hattributes : submission.program.inputLayout.attributes = [⟨"p", 0, ⟨.float, .four⟩⟩] := by
    rw [← hlisted, hprogram]
    rfl
  rw [hattributes, hstreams] at hall
  have hreads := (List.forall₂_cons.1 hall).1
  have hdeclared : descriptor = Sample.plain := by
    cases index with
    | zero => exact (Option.some.inj hdescriptor).symm
    | succ index => cases hdescriptor
  rw [hdeclared] at hreads
  obtain ⟨hown, hset⟩ := hreads.declared ⟨"position", Sample.vector⟩ ⟨rfl, rfl⟩
  refine ⟨compiled, ready, submission, others, made, _, hcompile, ?_, ?_, ?_, hstreams, rfl, hown, hset⟩
  · rw [hsubmissions]
    exact List.mem_append_cons_self
  · exact hplan.trans (congrArg (· ++ [.draw .triangleList 3]) hbefore)
  · have hreached := hmade
    rw [Sample.beforeLastDraw, hbefore] at hreached
    exact hreached

/-- The triangle has one buffer, of forty-eight bytes, but is read from the one that the other program
has left, of ninety-six. -/
theorem draw_reads_left_stream : ∃ compiled ready before passed submission call,
    CompiledPipeline.compile Sample.undeclared 8 8 Sample.config ({} : Gpu) =
      (.ok compiled, ready) ∧
    compiled.submissions (some (Sample.scene ⟨48⟩)) = passed ++ [submission] ∧
    compiled.plan (some (Sample.scene ⟨48⟩)) = before ++ [.draw .triangleList 3] ∧
    isAccepted (Device.draw .triangleList 3
      (before.foldl (fun device action => action.apply device) ready)).1 = true ∧
    Gpu.drawCall? 3 (before.foldl (fun device action => action.apply device) ready) = some call ∧
    call.program.layout.attributes = [⟨"p", 0, ⟨.float, .four⟩⟩] ∧
    call.streams = [(0, Sample.position 96)] ∧
    ∀ slot, streamBinding slot submission.drawable.streams ≠ .ok (Sample.position 96) := by
  obtain ⟨compiled, ready, hcompile, hlast, hreads, hsizes⟩ := Sample.gpu_draws_undeclared
  obtain ⟨haccepted, call, hcall, hlisted, hstreams⟩ := Sample.exists_of_lastReads? hlast hreads
  obtain ⟨submission, hsubmission, hsizes⟩ := Option.map_eq_some_iff.1 hsizes
  obtain ⟨passed, hsubmissions⟩ := List.getLast?_eq_some_iff.1 hsubmission
  refine ⟨compiled, ready, _, passed, submission, call, hcompile, hsubmissions,
    Sample.plan_of_lastDraw? hlast, haccepted, hcall, hlisted, hstreams, ?_⟩
  intro slot hbound
  obtain ⟨stream, hget, _, hbinding⟩ := streamBinding_eq_ok hbound
  have hhandle := (Stream.binding_eq_ok hbinding).2.1
  have hsize : stream.buffer.handle.size ∈ [48] := by
    rw [← hsizes]
    exact List.mem_map_of_mem (List.mem_map_of_mem (Table.get?_eq_some_iff.1 hget))
  rw [← hhandle] at hsize
  exact absurd hsize (by decide)

end FramePlan
