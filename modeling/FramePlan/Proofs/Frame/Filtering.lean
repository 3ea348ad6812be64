import FramePlan.Proofs.Device.Collection
import FramePlan.Proofs.Device.Rules
import FramePlan.Proofs.Frame.Attributes
import FramePlan.Proofs.Frame.History

/-!
# Textures that are filtered

Whether a sampler filters is settled when its texture is made: by the filters that the texture asks for,
and by whether the GPU can filter floats at all. Whether the texture can be filtered is settled when
something is drawn with it: by the same ability, and by what the image holds, for depths are never
filtered. A sampler that filters is therefore only met where floats can be filtered, and with a texture
that can be filtered unless it holds depths.

* `Gpu.filterableFloats_of_samplerBinding`: without the ability no sampler filters.
* `filtering_refused_for_depths`: what a sampler that filters is met with in a frame, and what a draw is
  refused for.
* `filtering_meets_depths`: a draw that is refused only because floats can be filtered.
-/

namespace FramePlan

open Shader (Interface)

namespace Gpu

/-- A sampler only filters where floats can be filtered. -/
theorem filterableFloats_of_samplerBinding {features : GpuFeatures} {descriptor : SamplerDescriptor}
    (hbinding : samplerBinding features descriptor = .filtering) :
    features.filterableFloats = true := by
  unfold samplerBinding samplerFilters at hbinding
  split at hbinding
  · cases hbinding
  · cases hability : features.filterableFloats with
    | true => rfl
    | false =>
      rw [hability] at hbinding
      cases hbinding

/-- Where floats can be filtered, a texture that compares nothing can be filtered unless its descriptor
asks for depths. -/
theorem sampleType_of_makes {features : GpuFeatures} {descriptor : TextureDescriptor}
    {texture : BoundTexture} (hmakes : descriptor.Makes features texture)
    (hability : features.filterableFloats = true)
    (hbinding : texture.sampler.binding ≠ .comparison) :
    texture.sampleType features = .float (descriptor.semantic = .color) := by
  rw [BoundTexture.sampleType, hmakes.format]
  cases hsemantic : descriptor.semantic with
  | color => exact congrArg SampleType.float hability
  | depth => exact if_neg hbinding
  | stencil => exact if_neg hbinding

theorem collect_of_assemble_eq_ok {features : GpuFeatures} {bound : BoundState}
    {program : BoundProgram} {target : GpuView} {vertexCount : UInt32} {call : DrawCall}
    (hok : assemble features bound program target vertexCount = .ok call) :
    collect features bound program.vertex.interface program.fragment.interface =
      .ok call.resources := by
  obtain ⟨streams, _, hok⟩ := exists_of_bind_eq_ok hok
  obtain ⟨resources, hresources, hok⟩ := exists_of_bind_eq_ok hok
  cases hok
  exact hresources

/-- What a draw is made of has been gathered from what is bound. -/
theorem exists_collect_of_drawCall? {vertexCount : UInt32} {gpu : Gpu} {call : DrawCall}
    (hcall : gpu.drawCall? vertexCount = some call) :
    ∃ vertex fragment, collect gpu.features gpu.bound vertex fragment = .ok call.resources := by
  obtain ⟨program, _, hcall⟩ := Option.bind_eq_some_iff.1 hcall
  obtain ⟨target, _, hcall⟩ := Option.bind_eq_some_iff.1 hcall
  cases hok : assemble gpu.features gpu.bound program target vertexCount with
  | error error =>
    rw [hok] at hcall
    cases hcall
  | ok made =>
    rw [hok] at hcall
    cases hcall
    exact ⟨_, _, collect_of_assemble_eq_ok hok⟩

end Gpu

/-- Whatever pipelines have been compiled on a GPU and whatever frames have been rendered, a draw finds
this: where a texture and a sampler that filters share a unit, floats can be filtered, and the texture
can be filtered if its descriptor asks for color, but not otherwise. A draw is refused for filtering only
where floats can be filtered and some texture holds no color. -/
theorem filtering_refused_for_depths {features : GpuFeatures}
    {made : List (CompiledPipeline Gpu.handles)} {gpu : Gpu}
    (hreached : Gpu.Reached features made gpu) {compiled : CompiledPipeline Gpu.handles}
    (hmem : compiled ∈ made) {scene : Option (Scene GpuBuffer)}
    {before after : List (Action Gpu.handles)} {primitive : Primitive} {vertexCount : UInt32}
    (hplan : compiled.plan scene = before ++ .draw primitive vertexCount :: after) :
    let reached := before.foldl (fun device action => action.apply device) gpu
    (∀ (vertex fragment : Interface) (resources : Gpu.Resources),
      Gpu.collect reached.features reached.bound vertex fragment = .ok resources →
      ∀ textureSlot samplerSlot image sampleType,
        reached.bound.unitOf textureSlot = reached.bound.unitOf samplerSlot →
        resources.get? textureSlot = some (.texture image sampleType) →
        resources.get? samplerSlot = some (.sampler .filtering) →
          features.filterableFloats = true ∧
          ∃ owner ∈ made, ∃ descriptor ∈ owner.description.textures,
            descriptor.Makes features ⟨image, ⟨.filtering⟩⟩ ∧
            sampleType = .float (descriptor.semantic = .color)) ∧
    ((Device.draw primitive vertexCount reached).1 = .error (.validation .filtering) →
      features.filterableFloats = true ∧
      ∃ owner ∈ made, ∃ descriptor ∈ owner.description.textures, descriptor.semantic ≠ .color) := by
  intro reached
  have hholds : Gpu.HoldsMade features made reached := hreached.holdsMade_within hmem hplan
  have hability {resources : Gpu.Resources}
      (hserved : Gpu.IsServed reached.features reached.bound resources) {slot : ResourceSlot}
      (hsampler : resources.get? slot = some (.sampler .filtering)) :
      ∃ texture, reached.bound.reached? slot = some texture ∧
        texture.sampler.binding = .filtering ∧ features.filterableFloats = true := by
    obtain ⟨texture, hheld, hbinding⟩ := hserved hsampler
    obtain ⟨_, _, descriptor, _, hmakes⟩ := hholds.units hheld
    refine ⟨texture, hheld, hbinding, ?_⟩
    exact Gpu.filterableFloats_of_samplerBinding (hmakes.binding.symm.trans hbinding)
  constructor
  · intro vertex fragment resources hcollect textureSlot samplerSlot image sampleType hunit htexture
      hsampler
    have hserved := Gpu.served_of_collect hcollect
    obtain ⟨texture, hheld, hbinding, hfilterable⟩ := hability hserved hsampler
    obtain ⟨other, hother, rfl, rfl⟩ := hserved htexture
    -- both slots are pointed at one unit, so they reach one texture
    rw [BoundState.reached?, hunit] at hother
    cases hheld.symm.trans hother
    obtain ⟨owner, howner, descriptor, hdescriptor, hmakes⟩ := hholds.units hheld
    refine ⟨hfilterable, owner, howner, descriptor, hdescriptor, ?_, ?_⟩
    · exact ⟨hmakes.format, hbinding.symm.trans hmakes.binding⟩
    · rw [hholds.features_eq]
      exact Gpu.sampleType_of_makes hmakes hfilterable (by rw [hbinding]; decide)
  · intro hdraw
    obtain ⟨program, target, call, hcall, hrejection⟩ := Gpu.exists_of_draw_eq_validation hdraw
    have hserved := Gpu.served_of_collect (Gpu.collect_of_assemble_eq_ok hcall)
    obtain ⟨textureSlot, samplerSlot, image, htexture, hsampler⟩ :=
      DrawCall.LawfulRules.exists_of_filtering hrejection
    obtain ⟨_, _, _, hfilterable⟩ := hability hserved hsampler
    obtain ⟨texture, hheld, rfl, hsampleType⟩ := hserved htexture
    obtain ⟨owner, howner, descriptor, hdescriptor, hmakes⟩ := hholds.units hheld
    refine ⟨hfilterable, owner, howner, descriptor, hdescriptor, ?_⟩
    intro hcolor
    rw [BoundTexture.sampleType, hmakes.format, hcolor, hholds.features_eq] at hsampleType
    cases hfilterable.symm.trans (SampleType.float.inj hsampleType)

/-! ## Depths that are to be filtered -/

namespace Sample

/-- A program that reads a texture through its sampler. -/
def sampled : Program :=
  { plain with
    textures := .ofList [("s", .texture .float)]
    fragmentShader :=
      "@group(0)@binding(0)var s:texture_2d<f32>;@group(0)@binding(1)var s_sampler:sampler;" ++
      "@fragment fn f()->@location(0)vec4f\x7breturn textureSample(s,s_sampler,vec2f());\x7d" }

/-- A texture of depths that is to be filtered. -/
def depths : TextureDescriptor where
  textureType := .texture2D
  width := 4
  height := 4
  semantic := .depth
  sampler := { magFilter := .linear }
  baseLevel := 0
  maxLevel := 0

/-- Draws the triangle with the depths. -/
def sampledPipeline : Pipeline :=
  { pipeline with
    textures := [depths]
    programs := [sampled]
    commands := [.setTexture 0 0, .setRenderTarget 0, .setProgram 0, .setSamplerUniform "s" 0,
      .renderStream 0] }

/-- A GPU that can filter floats or not, and has no other ability. -/
def filteringGpu (able : Bool) : Gpu := { features := { filterableFloats := able } }

/-- What the last draw of a frame finds at the slots of the texture and of its sampler. -/
def lastSampled? (compiled : CompiledPipeline Gpu.handles) (gpu : Gpu) :
    Option (Option BoundResource × Option BoundResource) :=
  ((beforeLastDraw compiled gpu).drawCall? 3).map fun call =>
    (call.resources.get? ⟨0, 0⟩, call.resources.get? ⟨0, 1⟩)

/-- The depths cannot be filtered either way, but their sampler filters where it can. -/
theorem gpu_draws_sampled (able : Bool) : ∃ compiled ready,
    CompiledPipeline.compile sampledPipeline 8 8 config (filteringGpu able) =
      (.ok compiled, ready) ∧
    lastDraw? compiled = some (.triangleList, 3) ∧
    (beforeLastDraw compiled ready).bound.unitOf ⟨0, 0⟩ =
      (beforeLastDraw compiled ready).bound.unitOf ⟨0, 1⟩ ∧
    lastSampled? compiled ready =
      some (some (.texture ⟨2, 4, 4, 1, .depth⟩ (.float false)),
        some (.sampler (if able then .filtering else .nonFiltering))) ∧
    (compiled.render (some (scene ⟨48⟩)) ready).1 =
      if able then { errors := [.device (.validation .filtering)] } else { drawCalls := 1 } := by
  cases able with
  | false => exact Attempt.exists_of_yields (by decide +kernel)
  | true => exact Attempt.exists_of_yields (by decide +kernel)

theorem exists_of_lastSampled? {compiled : CompiledPipeline Gpu.handles} {gpu : Gpu}
    {texture sampler : Option BoundResource}
    (hsampled : lastSampled? compiled gpu = some (texture, sampler)) :
    ∃ vertex fragment resources,
      Gpu.collect (beforeLastDraw compiled gpu).features (beforeLastDraw compiled gpu).bound vertex
        fragment = .ok resources ∧
      resources.get? ⟨0, 0⟩ = texture ∧ resources.get? ⟨0, 1⟩ = sampler := by
  obtain ⟨call, hcall, hfound⟩ := Option.map_eq_some_iff.1 hsampled
  obtain ⟨vertex, fragment, hcollect⟩ := Gpu.exists_collect_of_drawCall? hcall
  cases hfound
  exact ⟨vertex, fragment, call.resources, hcollect, rfl, rfl⟩

theorem reached_of_compile {able : Bool} {compiled : CompiledPipeline Gpu.handles} {ready : Gpu}
    (hcompile : CompiledPipeline.compile sampledPipeline 8 8 config (filteringGpu able) =
      (.ok compiled, ready)) :
    Gpu.Reached { filterableFloats := able } [compiled] ready := by
  have hreached : Gpu.Reached { filterableFloats := able }
      ((CompiledPipeline.compile sampledPipeline 8 8 config (filteringGpu able)).1.toOption.toList ++
        [])
      (CompiledPipeline.compile sampledPipeline 8 8 config (filteringGpu able)).2 :=
    .compile .new sampledPipeline 8 8 config
  rw [hcompile] at hreached
  exact hreached

end Sample

/-- The sampler that filters belongs to the depths. -/
theorem filtering_refused_for_depths_sampled : ∃ compiled ready,
    CompiledPipeline.compile Sample.sampledPipeline 8 8 Sample.config (Sample.filteringGpu true) =
      (.ok compiled, ready) ∧
    Gpu.Reached { filterableFloats := true } [compiled] ready ∧
    compiled.plan (some (Sample.scene ⟨48⟩)) =
      (compiled.plan (some (Sample.scene ⟨48⟩))).dropLast ++ [.draw .triangleList 3] ∧
    ∃ owner ∈ [compiled], ∃ descriptor ∈ owner.description.textures,
      descriptor.Makes { filterableFloats := true } ⟨⟨2, 4, 4, 1, .depth⟩, ⟨.filtering⟩⟩ ∧
      SampleType.float false = .float (descriptor.semantic = .color) := by
  obtain ⟨compiled, ready, hcompile, hlast, hunit, hsampled, _⟩ := Sample.gpu_draws_sampled true
  obtain ⟨vertex, fragment, resources, hcollect, htexture, hsampler⟩ :=
    Sample.exists_of_lastSampled? hsampled
  have hreached := Sample.reached_of_compile hcompile
  have hplan := Sample.plan_of_lastDraw? hlast
  have hmet := (filtering_refused_for_depths hreached List.mem_cons_self hplan).1
    vertex fragment resources hcollect _ _ _ _ hunit htexture hsampler
  exact ⟨compiled, ready, hcompile, hreached, hplan, hmet.2⟩

/-- A sampler that filters is met with a texture that cannot be filtered: the depths, on a GPU that can
filter floats. The draw is refused for it, and it is accepted on a GPU that cannot. -/
theorem filtering_meets_depths :
    (∃ compiled ready vertex fragment resources image,
      CompiledPipeline.compile Sample.sampledPipeline 8 8 Sample.config (Sample.filteringGpu true) =
        (.ok compiled, ready) ∧
      compiled.plan (some (Sample.scene ⟨48⟩)) =
        (compiled.plan (some (Sample.scene ⟨48⟩))).dropLast ++ [.draw .triangleList 3] ∧
      let reached := Sample.beforeLastDraw compiled ready
      Gpu.collect reached.features reached.bound vertex fragment = .ok resources ∧
      reached.bound.unitOf ⟨0, 0⟩ = reached.bound.unitOf ⟨0, 1⟩ ∧
      resources.get? ⟨0, 0⟩ = some (.texture image (.float false)) ∧
      resources.get? ⟨0, 1⟩ = some (.sampler .filtering) ∧
      (compiled.render (some (Sample.scene ⟨48⟩)) ready).1 =
        { errors := [.device (.validation .filtering)] }) ∧
    ∃ compiled ready,
      CompiledPipeline.compile Sample.sampledPipeline 8 8 Sample.config (Sample.filteringGpu false) =
        (.ok compiled, ready) ∧
      (compiled.render (some (Sample.scene ⟨48⟩)) ready).1 = { drawCalls := 1 } := by
  constructor
  · obtain ⟨compiled, ready, hcompile, hlast, hunit, hsampled, hreport⟩ :=
      Sample.gpu_draws_sampled true
    obtain ⟨vertex, fragment, resources, hcollect, htexture, hsampler⟩ :=
      Sample.exists_of_lastSampled? hsampled
    exact ⟨compiled, ready, vertex, fragment, resources, _, hcompile,
      Sample.plan_of_lastDraw? hlast, hcollect, hunit, htexture, hsampler, hreport⟩
  · obtain ⟨compiled, ready, hcompile, _, _, _, hreport⟩ := Sample.gpu_draws_sampled false
    exact ⟨compiled, ready, hcompile, hreport⟩

end FramePlan
