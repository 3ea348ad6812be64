import FramePlan.Proofs.Lists
import FramePlan.Proofs.Parts
import FramePlan.Sample

/-!
# The order of construction

A recorder makes the parts of a pipeline one after the other. The first part that fails ends the
construction: it gives the error, and nothing later is asked for. If none fails, the resources hold what
was made of each part, from what the parts before it have left.

* `Recorder.Leaves`: the recorder that some parts leave.
* `Part.IsMadeIn`: what has been made of a part.
* `Resources.isMadeOf_of_compile_eq_ok`: resources hold what was made of each part.
* `construction_in_order`: what becomes of a pipeline.
-/

namespace FramePlan

open Request (firstFault?)

variable {site : ConstructionSite} {recorder reached last : Recorder}

/-! ## What has been made -/

/-- The recorder that parts leave when each of them can be made. -/
structure Recorder.Leaves (recorder : Recorder) (site : ConstructionSite) (parts : List Part)
    (reached : Recorder) : Prop where
  granted : firstFault? (requestsFrom site recorder.nextId parts) = none
  eq_after : reached = recorder.after (requestsFrom site recorder.nextId parts)

namespace Recorder.Leaves

theorem greatestSide {parts : List Part} (hleaves : recorder.Leaves site parts reached)
    (hside : recorder.greatestSide = site.greatestSide) :
    reached.greatestSide = site.greatestSide := by
  rw [hleaves.eq_after]
  exact greatestSide_after hside _

theorem nextId {parts : List Part} (hleaves : recorder.Leaves site parts reached) :
    reached.nextId = recorder.nextId + (requestsFrom site recorder.nextId parts).length := by
  rw [hleaves.eq_after, nextId_after_of_granted hleaves.granted]

theorem append {first later : List Part} (hfirst : recorder.Leaves site first reached)
    (hlater : reached.Leaves site later last) : recorder.Leaves site (first ++ later) last := by
  have hrequests : requestsFrom site recorder.nextId (first ++ later) =
      requestsFrom site recorder.nextId first ++ requestsFrom site reached.nextId later := by
    rw [requestsFrom_append, hfirst.nextId]
  constructor
  · rw [hrequests, Request.firstFault?_append, hfirst.granted, hlater.granted]
    rfl
  · rw [hrequests, after_append_of_granted hfirst.granted, ← hfirst.eq_after, ← hlater.eq_after]

end Recorder.Leaves

namespace Asks

variable {β γ : Type}

/-- What has been made by an attempt that asks for parts is left by them. -/
theorem leaves {attempt : Attempt Recorder CompileError β} {parts : List Part} {made : β → Prop}
    {result : β} (hasks : Asks recorder attempt (requestsFrom site recorder.nextId parts) made)
    (hok : attempt recorder = (.ok result, reached)) : recorder.Leaves site parts reached := by
  have hisOk := hasks.isOk_eq
  have hafter := hasks.recorder_eq
  rw [hok] at hisOk hafter
  exact ⟨Option.isNone_iff_eq_none.1 hisOk.symm, hafter⟩

/-- Of items in turn, each is made from what the parts of the items before it have left. -/
theorem exists_leaves_of_mapM {items passed later : List γ} {item : γ}
    {attempt : γ → Attempt Recorder CompileError β} {part : γ → Part} {made : Nat → β → Prop}
    (hitem : ∀ item ∈ items, ∀ reached : Recorder, reached.greatestSide = site.greatestSide →
      Asks reached (attempt item) ((part item).requests site reached.nextId) (made reached.nextId))
    (hside : recorder.greatestSide = site.greatestSide) {results : List β}
    (hok : items.mapM attempt recorder = (.ok results, last))
    (hitems : items = passed ++ item :: later) :
    ∃ reached after result, recorder.Leaves site (passed.map part) reached ∧
      results[passed.length]? = some result ∧ attempt item reached = (.ok result, after) := by
  subst hitems
  rw [List.mapM_append] at hok
  obtain ⟨first, reached, hfirst, hok⟩ := Attempt.bind_eq_ok.1 hok
  obtain ⟨rest, _, hrest, hreturn⟩ := Attempt.bind_eq_ok.1 hok
  cases hreturn
  rw [List.mapM_cons] at hrest
  obtain ⟨result, after, hresult, hrest⟩ := Attempt.bind_eq_ok.1 hrest
  obtain ⟨others, _, _, hreturn⟩ := Attempt.bind_eq_ok.1 hrest
  cases hreturn
  have hpassed := Asks.mapM made (fun other hmem => hitem other (List.mem_append_left _ hmem)) hside
  have hlength := (Attempt.forall₂_of_mapM_eq_ok hfirst).length_eq
  refine ⟨reached, after, result, hpassed.leaves hfirst, ?_, hresult⟩
  rw [hlength, List.getElem?_append_right (Nat.le_refl _), Nat.sub_self]
  rfl

end Asks

/-- An element of a list of results is what an attempt makes from a recorder on. -/
def IsMadeAt {Error β : Type} (results : List β) (index : Nat)
    (attempt : Attempt Recorder Error β) (reached : Recorder) : Prop :=
  ∃ result after, results[index]? = some result ∧ attempt reached = (.ok result, after)

/-- What resources hold for a part is made from a recorder on. -/
def Part.IsMadeIn (site : ConstructionSite) (resources : Resources Recorder.handles)
    (reached : Recorder) : Part → Prop
  | .backBuffer =>
    ∃ after, BackBuffer.create site.width site.height reached = (.ok resources.backBuffer, after)
  | .texture index descriptor =>
    IsMadeAt resources.textures index (compileTexture descriptor) reached
  | .target index descriptor =>
    IsMadeAt resources.targets index
      (compileTarget resources.textures resources.backBuffer descriptor) reached
  | .program index descriptor =>
    IsMadeAt resources.programs index (compileProgramAt site.config descriptor index) reached
  | .streams index descriptor =>
    IsMadeAt resources.streams index (compileStreamsAt descriptor index) reached

/-- Resources that a recorder makes of a description: what they hold for a part is made from what the
parts before it have left. -/
def Resources.IsMadeOf (resources : Resources Recorder.handles) (pipeline : Pipeline)
    (site : ConstructionSite) (recorder : Recorder) : Prop :=
  ∀ passed part later, pipeline.parts = passed ++ part :: later →
    part.IsMadeIn site resources (recorder.after (requestsFrom site recorder.nextId passed))

/-- Descriptors that are made in turn after some parts leave what their own parts do, and give results at
their own indices, each from what the parts before it have left. -/
theorem Recorder.Leaves.mapM {α β : Type} {descriptors : List α} {earlier : List Part}
    {attempt : α × Nat → Attempt Recorder CompileError β} (part : α × Nat → Part)
    (made : Nat → β → Prop) (hleaves : recorder.Leaves site earlier reached)
    (hside : recorder.greatestSide = site.greatestSide)
    (hitem : ∀ entry ∈ descriptors.zipIdx, ∀ reached : Recorder,
      reached.greatestSide = site.greatestSide →
        Asks reached (attempt entry) ((part entry).requests site reached.nextId)
          (made reached.nextId))
    {results : List β} (hok : descriptors.zipIdx.mapM attempt reached = (.ok results, last)) :
    recorder.Leaves site (earlier ++ descriptors.zipIdx.map part) last ∧
      List.Forall₂ made (startsFrom site reached.nextId (descriptors.zipIdx.map part)) results ∧
      ∀ passed other later, descriptors.zipIdx.map part = passed ++ other :: later →
        ∃ entry, part entry = other ∧ IsMadeAt results entry.2 (attempt entry)
          (recorder.after (requestsFrom site recorder.nextId (earlier ++ passed))) := by
  have hasks := Asks.mapM made hitem (hleaves.greatestSide hside)
  refine ⟨hleaves.append (hasks.leaves hok), hasks.made_of_eq_ok hok, ?_⟩
  intro passed other later hparts
  obtain ⟨before, rest, hzip, hbefore, hrest⟩ := List.map_eq_append_iff.1 hparts
  obtain ⟨entry, others, rfl, hentry, _⟩ := List.map_eq_cons_iff.1 hrest
  obtain ⟨state, after, result, hstate, hget, hresult⟩ :=
    Asks.exists_leaves_of_mapM hitem (hleaves.greatestSide hside) hok hzip
  have hindex : before.length = entry.2 := by
    have hentries : descriptors.zipIdx[before.length]? = some entry := by simp [hzip]
    rw [List.getElem?_zipIdx] at hentries
    obtain ⟨_, _, rfl⟩ := Option.map_eq_some_iff.1 hentries
    exact (Nat.zero_add _).symm
  rw [hbefore] at hstate
  rw [hindex] at hget
  rw [(hleaves.append hstate).eq_after] at hresult
  exact ⟨entry, hentry, result, after, hget, hresult⟩

/-- Resources hold what was made of each part, from what the parts before it have left. -/
theorem Resources.isMadeOf_of_compile_eq_ok {pipeline : Pipeline}
    (hvalid : pipeline.validate = .ok ()) (hside : recorder.greatestSide = site.greatestSide)
    (hfirst : recorder.nextId = site.firstId) {resources : Resources Recorder.handles}
    (hok : Resources.compile pipeline site.width site.height site.config recorder =
      (.ok resources, last)) : resources.IsMadeOf pipeline site recorder := by
  unfold Resources.compile at hok
  obtain ⟨backBuffer, _, hback, hok⟩ := Attempt.bind_eq_ok.1 hok
  obtain ⟨textures, _, htextures, hok⟩ := Attempt.bind_eq_ok.1 hok
  obtain ⟨targets, _, htargets, hok⟩ := Attempt.bind_eq_ok.1 hok
  obtain ⟨programs, _, hprograms, hok⟩ := Attempt.bind_eq_ok.1 hok
  obtain ⟨streams, _, hstreams, hreturn⟩ := Attempt.bind_eq_ok.1 hok
  cases hreturn
  have hbackLeaves : recorder.Leaves site [.backBuffer] _ :=
    Asks.leaves (by simpa [requestsFrom] using asks_createBackBuffer hside) hback
  obtain ⟨htexturesLeave, hids, htexturesMade⟩ := hbackLeaves.mapM
    (fun entry => .texture entry.2 entry.1) (fun id texture => texture.image.id = id) hside
    (fun entry _ _ hside => asks_compileTexture hside entry.2 entry.1) htextures
  rw [hbackLeaves.nextId, hfirst] at hids
  obtain ⟨htargetsLeave, _, htargetsMade⟩ := htexturesLeave.mapM
    (fun entry => .target entry.2 entry.1) (fun _ _ => True) hside
    (fun entry hmem _ _ => asks_compileTargetAt (fun item hitem index hindex =>
      exists_texture_of_forall₂ hids (Pipeline.index_lt_of_mem_targets hvalid
        (List.fst_mem_of_mem_zipIdx hmem) hitem hindex)) backBuffer entry.2) htargets
  obtain ⟨hprogramsLeave, _, hprogramsMade⟩ := htargetsLeave.mapM
    (fun entry => .program entry.2 entry.1) (fun _ _ => True) hside
    (fun entry _ _ _ => asks_compileProgramAt entry.2 entry.1) hprograms
  obtain ⟨_, _, hstreamsMade⟩ := hprogramsLeave.mapM
    (fun entry => .streams entry.2 entry.1) (fun _ _ => True) hside
    (fun entry _ _ _ => asks_compileStreamsAt entry.2 entry.1) hstreams
  intro passed part later hparts
  -- the part is the back buffer, or belongs to one of the four lists
  rw [Pipeline.parts, ← List.singleton_append, ← List.append_assoc, ← List.append_assoc,
    ← List.append_assoc] at hparts
  rcases exists_of_append_eq_append_cons hparts with ⟨_, hparts⟩ | ⟨others, rfl, hplace⟩
  case inr =>
    obtain ⟨entry, rfl, hmade⟩ := hstreamsMade _ _ _ hplace
    exact hmade
  rcases exists_of_append_eq_append_cons hparts with ⟨_, hparts⟩ | ⟨others, rfl, hplace⟩
  case inr =>
    obtain ⟨entry, rfl, hmade⟩ := hprogramsMade _ _ _ hplace
    exact hmade
  rcases exists_of_append_eq_append_cons hparts with ⟨_, hparts⟩ | ⟨others, rfl, hplace⟩
  case inr =>
    obtain ⟨entry, rfl, result, after, hget, hresult⟩ := htargetsMade _ _ _ hplace
    exact ⟨result, after, hget, Attempt.adapt_eq_ok.1 hresult⟩
  rcases exists_of_append_eq_append_cons hparts with ⟨_, hparts⟩ | ⟨others, rfl, hplace⟩
  case inr =>
    obtain ⟨entry, rfl, result, after, hget, hresult⟩ := htexturesMade _ _ _ hplace
    exact ⟨result, after, hget, Attempt.adapt_eq_ok.1 hresult⟩
  rcases List.append_eq_singleton_iff.1 hparts.symm with ⟨rfl, hback'⟩ | ⟨_, hempty⟩
  · cases hback'
    exact ⟨_, Attempt.adapt_eq_ok.1 hback⟩
  · cases hempty

namespace Part

/-- A part fails with an error of its own, not with one of the check of the whole pipeline. -/
theorem fault?_ne {part : Part} {error : CompileError} (hfault : part.fault? site = some error) :
    (∀ expected found, error ≠ .unsupportedBackend expected found) ∧
      ∀ dangling, error ≠ .invalidPipeline dangling := by
  cases part with
  | backBuffer =>
    obtain ⟨_, _, rfl⟩ := Option.map_eq_some_iff.1 hfault
    simp
  | texture index descriptor =>
    obtain ⟨_, _, rfl⟩ := Option.map_eq_some_iff.1 hfault
    simp
  | target index descriptor => cases hfault
  | program index descriptor =>
    rw [fault?] at hfault
    split at hfault
    · cases hfault
      simp
    · obtain ⟨_, _, rfl⟩ := Option.map_eq_some_iff.1 hfault
      simp
  | streams index descriptor =>
    rw [fault?] at hfault
    split at hfault
    · cases hfault
      simp
    · cases hfault

/-- A part that fails for no error of the device asks it for nothing. -/
theorem requests_of_cause?_eq_none {part : Part} {error : CompileError}
    (hfault : part.fault? site = some error) (hcause : error.cause? = none) (nextId : Nat) :
    part.requests site nextId = [.refuse error] := by
  cases part with
  | backBuffer =>
    obtain ⟨_, _, rfl⟩ := Option.map_eq_some_iff.1 hfault
    cases hcause
  | texture index descriptor =>
    obtain ⟨_, _, rfl⟩ := Option.map_eq_some_iff.1 hfault
    cases hcause
  | target index descriptor => cases hfault
  | program index descriptor =>
    rw [fault?] at hfault
    rw [requests]
    split at hfault
    · next hgeometry =>
      cases hfault
      rw [if_pos hgeometry]
    · obtain ⟨_, _, rfl⟩ := Option.map_eq_some_iff.1 hfault
      cases hcause
  | streams index descriptor =>
    rw [fault?] at hfault
    rw [requests]
    split at hfault
    · next hadjacency =>
      cases hfault
      rw [Option.isNone_iff_eq_none.1 hadjacency]
    · cases hfault

end Part

namespace CompiledPipeline

variable {pipeline : Pipeline} (width height : UInt32) (config : Config)

theorem compile_eq_error {error : CompileError}
    (hcheck : check recorder.backend pipeline = .error error) :
    compile pipeline width height config recorder =
      ((.error error, recorder) :
        Except CompileError (CompiledPipeline Recorder.handles) × Recorder) := by
  show ((liftM (check recorder.backend pipeline) >>= fun _ => _) : Attempt Recorder CompileError _)
    recorder = _
  rw [hcheck]
  rfl

theorem asks_compile (hcheck : check recorder.backend pipeline = .ok ()) :
    Asks recorder (compile pipeline width height config :
        Attempt Recorder CompileError (CompiledPipeline Recorder.handles))
      (requestsFrom (recorder.site width height config) recorder.nextId pipeline.parts)
      fun compiled => compiled.resources.IsMadeOf pipeline (recorder.site width height config)
        recorder := by
  have hresources := (Resources.asks_compile (check_eq_ok.1 hcheck).2
    (recorder.site width height config) rfl rfl).with_outcome
  have hcompile : compile pipeline width height config recorder =
      (do
        liftM (check recorder.backend pipeline)
        let resources ← Resources.compile pipeline width height config
        return ⟨pipeline, config, resources⟩ :
          Attempt Recorder CompileError (CompiledPipeline Recorder.handles)) recorder := rfl
  rw [Asks, hcompile]
  refine Asks.bind_lift hcheck ?_
  rw [← List.append_nil (requestsFrom _ _ _)]
  exact hresources.bind fun _ resources hok =>
    Asks.pure (Resources.isMadeOf_of_compile_eq_ok (check_eq_ok.1 hcheck).2 rfl rfl hok)

theorem compile_of_fault (hcheck : check recorder.backend pipeline = .ok ())
    {passed later : List Part} {part : Part} {error : CompileError}
    (hparts : pipeline.parts = passed ++ part :: later)
    (hpassed : ∀ other ∈ passed, other.fault? (recorder.site width height config) = none)
    (hfault : part.fault? (recorder.site width height config) = some error) :
    compile pipeline width height config recorder =
      ((.error error, recorder.after (requestsFrom (recorder.site width height config)
          recorder.nextId (passed ++ [part]))) :
        Except CompileError (CompiledPipeline Recorder.handles) × Recorder) := by
  have hfirst : firstFault? (requestsFrom (recorder.site width height config) recorder.nextId
      (passed ++ [part])) = some error := by
    rw [firstFault?_requestsFrom, List.findSome?_append, List.findSome?_eq_none_iff.2 hpassed]
    simp [hfault]
  have hall : pipeline.parts = (passed ++ [part]) ++ later := by
    rw [hparts, List.append_assoc, List.singleton_append]
  have hasks := asks_compile width height config hcheck
  rw [hall, requestsFrom_append] at hasks
  rw [← Recorder.after_append_of_fault hfirst]
  apply hasks.eq_error
  rw [Request.firstFault?_append, hfirst, Option.some_or]

theorem exists_fault_of_error (hcheck : check recorder.backend pipeline = .ok ())
    {error : CompileError}
    (herror : ((compile pipeline width height config recorder :
      Except CompileError (CompiledPipeline Recorder.handles) × Recorder)).1 = .error error) :
    ∃ part ∈ pipeline.parts, part.fault? (recorder.site width height config) = some error := by
  have hasks := asks_compile width height config hcheck
  cases hfirst : firstFault? (requestsFrom (recorder.site width height config) recorder.nextId
      pipeline.parts) with
  | none =>
    obtain ⟨compiled, hok, _⟩ := hasks.exists_ok hfirst
    rw [hok] at herror
    cases herror
  | some fault =>
    rw [hasks.eq_error hfirst] at herror
    cases herror
    rw [firstFault?_requestsFrom] at hfirst
    exact List.exists_of_findSome?_eq_some hfirst

/-- If no part fails, the construction is complete. -/
theorem compile_of_no_fault (hcheck : check recorder.backend pipeline = .ok ())
    (hnone : ∀ part ∈ pipeline.parts, part.fault? (recorder.site width height config) = none) :
    ∃ compiled : CompiledPipeline Recorder.handles,
      compile pipeline width height config recorder = (.ok compiled, recorder.after
        (requestsFrom (recorder.site width height config) recorder.nextId pipeline.parts)) ∧
      (∀ kind, compiled.count kind = pipeline.count kind) ∧
      compiled.resources.IsMadeOf pipeline (recorder.site width height config) recorder := by
  have hfirst : firstFault? (requestsFrom (recorder.site width height config) recorder.nextId
      pipeline.parts) = none := by
    rw [firstFault?_requestsFrom]
    exact List.findSome?_eq_none_iff.2 hnone
  obtain ⟨compiled, hok, hmade⟩ := (asks_compile width height config hcheck).exists_ok hfirst
  exact ⟨compiled, hok, (isCompiled_of_compile_eq_ok hok).count_eq, hmade⟩

/-- A pipeline for another backend is refused, then one with a dangling reference; past that only a part
that fails makes an error. -/
theorem compile_cases (pipeline : Pipeline) (recorder : Recorder) :
    let result : Except CompileError (CompiledPipeline Recorder.handles) × Recorder :=
      compile pipeline width height config recorder
    (pipeline.backend ≠ recorder.backend ∧
      result = (.error (.unsupportedBackend recorder.backend pipeline.backend), recorder)) ∨
    (∃ dangling, pipeline.backend = recorder.backend ∧ pipeline.validate = .error dangling ∧
      result = (.error (.invalidPipeline dangling), recorder)) ∨
    (pipeline.backend = recorder.backend ∧ pipeline.validate = .ok () ∧
      ∀ error, result.1 = .error error →
        ∃ part ∈ pipeline.parts, part.fault? (recorder.site width height config) = some error) := by
  by_cases hsame : pipeline.backend = recorder.backend
  · right
    cases hvalid : pipeline.validate with
    | error dangling =>
      have hcheck : check recorder.backend pipeline = .error (.invalidPipeline dangling) := by
        simp [check, hsame, hvalid, Except.mapError]
      exact .inl ⟨dangling, hsame, rfl, compile_eq_error width height config hcheck⟩
    | ok _ =>
      have hcheck := check_eq_ok.2 ⟨hsame, hvalid⟩
      exact .inr ⟨hsame, rfl, fun error => exists_fault_of_error width height config hcheck⟩
  · have hcheck : check recorder.backend pipeline =
        .error (.unsupportedBackend recorder.backend pipeline.backend) := by
      simp [check, hsame]
    exact .inl ⟨hsame, compile_eq_error width height config hcheck⟩

theorem compile_eq_unsupportedBackend_iff (expected found : Backend) :
    ((compile pipeline width height config recorder :
        Except CompileError (CompiledPipeline Recorder.handles) × Recorder)).1 =
      .error (.unsupportedBackend expected found) ↔
    recorder.backend = expected ∧ pipeline.backend = found ∧ found ≠ expected := by
  rcases compile_cases width height config pipeline recorder with
    ⟨hother, hresult⟩ | ⟨dangling, hsame, _, hresult⟩ | ⟨hsame, _, hparts⟩
  · rw [hresult]
    constructor
    · rintro ⟨⟩
      exact ⟨rfl, rfl, hother⟩
    · rintro ⟨rfl, rfl, _⟩
      rfl
  · rw [hresult]
    constructor
    · exact nofun
    · rintro ⟨rfl, rfl, hother⟩
      exact absurd hsame hother
  · constructor
    · intro herror
      obtain ⟨part, _, hfault⟩ := hparts _ herror
      exact absurd rfl ((Part.fault?_ne hfault).1 expected found)
    · rintro ⟨rfl, rfl, hother⟩
      exact absurd hsame hother

theorem compile_eq_invalidPipeline_iff (dangling : DanglingReference) :
    ((compile pipeline width height config recorder :
        Except CompileError (CompiledPipeline Recorder.handles) × Recorder)).1 =
      .error (.invalidPipeline dangling) ↔
    pipeline.backend = recorder.backend ∧ pipeline.validate = .error dangling := by
  rcases compile_cases width height config pipeline recorder with
    ⟨hother, hresult⟩ | ⟨first, hsame, hvalid, hresult⟩ | ⟨_, hvalid, hparts⟩
  · rw [hresult]
    constructor
    · exact nofun
    · exact fun hsame => absurd hsame.1 hother
  · rw [hresult]
    constructor
    · rintro ⟨⟩
      exact ⟨hsame, hvalid⟩
    · rintro ⟨_, hfirst⟩
      rw [hvalid] at hfirst
      cases hfirst
      rfl
  · constructor
    · intro herror
      obtain ⟨part, _, hfault⟩ := hparts _ herror
      exact absurd rfl ((Part.fault?_ne hfault).2 dangling)
    · rintro ⟨_, hinvalid⟩
      rw [hvalid] at hinvalid
      cases hinvalid

end CompiledPipeline

/-- A recorder makes a pipeline only for its own backend and with all references in range, and is left as
it was otherwise: the backend counts before the references. It makes the parts in their order. The first
part that fails gives the error, with its kind and index; by then the calls for the parts before it have
been recorded, and those for itself up to the one that fails, which are none for a geometry stage and for
adjacency. If no part fails, all have been asked for, and the back buffer and each element of a list are
what was made of their part, from what the parts before it have left. -/
theorem construction_in_order (pipeline : Pipeline) (width height : UInt32) (config : Config)
    (recorder : Recorder) :
    let result : Except CompileError (CompiledPipeline Recorder.handles) × Recorder :=
      CompiledPipeline.compile pipeline width height config recorder
    let site := recorder.site width height config
    (∀ expected found, result.1 = .error (.unsupportedBackend expected found) ↔
      recorder.backend = expected ∧ pipeline.backend = found ∧ found ≠ expected) ∧
    (∀ dangling, result.1 = .error (.invalidPipeline dangling) ↔
      pipeline.backend = recorder.backend ∧ pipeline.validate = .error dangling) ∧
    (pipeline.backend ≠ recorder.backend ∨ pipeline.validate ≠ .ok () → result.2 = recorder) ∧
    (pipeline.backend = recorder.backend → pipeline.validate = .ok () →
      (∀ passed part later error, pipeline.parts = passed ++ part :: later →
        (∀ other ∈ passed, other.fault? site = none) → part.fault? site = some error →
          result = (.error error,
            recorder.after (requestsFrom site recorder.nextId (passed ++ [part]))) ∧
          (error.cause? = none →
            result.2 = recorder.after (requestsFrom site recorder.nextId passed))) ∧
      ((∀ part ∈ pipeline.parts, part.fault? site = none) →
        ∃ compiled, result = (.ok compiled,
            recorder.after (requestsFrom site recorder.nextId pipeline.parts)) ∧
          (∀ kind, compiled.count kind = pipeline.count kind) ∧
          compiled.resources.IsMadeOf pipeline site recorder)) := by
  intro result site
  refine ⟨CompiledPipeline.compile_eq_unsupportedBackend_iff width height config,
    CompiledPipeline.compile_eq_invalidPipeline_iff width height config, fun hrefused => ?_,
    fun hsame hvalid => ⟨?_, ?_⟩⟩
  · rcases CompiledPipeline.compile_cases width height config pipeline recorder with
      ⟨_, hresult⟩ | ⟨_, _, _, hresult⟩ | ⟨hsame, hvalid, _⟩
    · exact congrArg Prod.snd hresult
    · exact congrArg Prod.snd hresult
    · exact absurd hrefused (by simp [hsame, hvalid])
  · intro passed part later error hparts hpassed hfault
    have hcheck := CompiledPipeline.check_eq_ok.2 ⟨hsame, hvalid⟩
    have hresult : result = _ :=
      CompiledPipeline.compile_of_fault width height config hcheck hparts hpassed hfault
    refine ⟨hresult, fun hcause => ?_⟩
    have hgranted : firstFault? (requestsFrom site recorder.nextId passed) = none := by
      rw [firstFault?_requestsFrom]
      exact List.findSome?_eq_none_iff.2 hpassed
    rw [hresult, requestsFrom_append, Recorder.after_append_of_granted hgranted, requestsFrom,
      Part.requests_of_cause?_eq_none hfault hcause]
    rfl
  · exact CompiledPipeline.compile_of_no_fault width height config
      (CompiledPipeline.check_eq_ok.2 ⟨hsame, hvalid⟩)

namespace Sample

def sampler : SamplerDescriptor := {}

/-- A texture of a width. -/
def texture (width : UInt32) : TextureDescriptor := ⟨.texture2D, width, 4, .color, sampler, 0, 0⟩

/-- The sample with three textures, of which the second one has no texels, and with a geometry stage. -/
def emptyTexture : Pipeline :=
  { pipeline with
    textures := [texture 4, texture 0, texture 4]
    programs := [{ program with geometryShader := some "" }] }

/-- The calls of the back buffer. -/
def backBufferCalls : List DeviceCall :=
  [.createImage ⟨8, 8, 1, .depth, .depthStencil⟩, .createDepthView 0,
    .createImage ⟨8, 8, 1, .color, .renderTarget⟩, .createRenderView 2]

end Sample

/-- The second texture of this pipeline is the first part that fails; neither the third one nor the
program is asked for. Without textures, and with a program that can be compiled, nothing fails. -/
theorem construction_in_order_sample :
    Sample.emptyTexture.parts =
      [.backBuffer, .texture 0 (Sample.texture 4)] ++ .texture 1 (Sample.texture 0) ::
        Sample.emptyTexture.parts.drop 3 ∧
    ((CompiledPipeline.compile Sample.emptyTexture 8 8 Sample.config Sample.recorder :
        Except CompileError (CompiledPipeline Recorder.handles) × Recorder)).1 =
      .error (.texture 1 (.resourceCreation (.imageSize 0 4 8192))) ∧
    ((CompiledPipeline.compile Sample.emptyTexture 8 8 Sample.config Sample.recorder :
        Except CompileError (CompiledPipeline Recorder.handles) × Recorder)).2.calls.toList =
      Sample.backBufferCalls ++ [.createImage (Sample.texture 4).image,
        .createSampler Sample.sampler, .createImage (Sample.texture 0).image] ∧
    ∃ compiled last,
      CompiledPipeline.compile Sample.pipeline 8 8 Sample.config Sample.recorder =
        (.ok compiled, last) ∧
      (∀ kind, compiled.count kind = Sample.pipeline.count kind) ∧
      compiled.resources.IsMadeOf Sample.pipeline (Sample.recorder.site 8 8 Sample.config)
        Sample.recorder := by
  have hempty := (construction_in_order Sample.emptyTexture 8 8 Sample.config
    Sample.recorder).2.2.2 rfl rfl
  have hfailed := (hempty.1 [.backBuffer, .texture 0 (Sample.texture 4)]
    (.texture 1 (Sample.texture 0)) (Sample.emptyTexture.parts.drop 3)
    (.texture 1 (.resourceCreation (.imageSize 0 4 8192))) rfl (by decide) rfl).1
  have hsample := (construction_in_order Sample.pipeline 8 8 Sample.config
    Sample.recorder).2.2.2 rfl rfl
  have hnone : ∀ part ∈ Sample.pipeline.parts,
      part.fault? (Sample.recorder.site 8 8 Sample.config) = none := by
    decide +kernel
  obtain ⟨compiled, hok, hcount, hmade⟩ := hsample.2 hnone
  exact ⟨rfl, congrArg Prod.fst hfailed, congrArg (·.2.calls.toList) hfailed, compiled, _, hok,
    hcount, hmade⟩

end FramePlan
