import FramePlan.Proofs.Frame.Skip
import FramePlan.Proofs.Frame.Turn
import Mathlib.Data.List.Nodup

/-!
# The order of objects

The objects of a slot are drawn by their order values, and those with one value as they were registered.
Each gets its turn, whatever became of the objects before it. So a frame does not show disabled objects,
nor the sequence in which objects with different order values were registered.

* `filter_drawnObjects`: objects with one order value keep their sequence.
* `Scene.get?_foldl_addObject`: what is under a name once objects are registered.
* `Rearranged.drawnObjects_eq`: rearranged objects are drawn alike.
* `Frame.plan_withObjects`: a plan depends on the objects only through those that are drawn.
* `slots_draw_in_order`: what becomes of the objects of a slot.
-/

namespace FramePlan

section Sorting

variable {Handle : Type}

theorem drawnObjects_perm (objects : List (Object Handle)) :
    (drawnObjects objects).Perm (objects.filter (·.enabled)) := List.mergeSort_perm _ _

theorem le_order_trans (first second third : Object Handle)
    (hfirst : decide (first.order ≤ second.order) = true)
    (hsecond : decide (second.order ≤ third.order) = true) :
    decide (first.order ≤ third.order) = true :=
  decide_eq_true (Int.le_trans (of_decide_eq_true hfirst) (of_decide_eq_true hsecond))

theorem le_order_total (first second : Object Handle) :
    (decide (first.order ≤ second.order) || decide (second.order ≤ first.order)) = true := by
  rw [Bool.or_eq_true, decide_eq_true_iff, decide_eq_true_iff]
  exact Int.le_total _ _

theorem pairwise_drawnObjects (objects : List (Object Handle)) :
    (drawnObjects objects).Pairwise fun first second => first.order ≤ second.order := by
  have hsorted := List.pairwise_mergeSort le_order_trans le_order_total (objects.filter (·.enabled))
  exact hsorted.imp of_decide_eq_true

/-- Sorting keeps objects with one order value as they are. -/
theorem filter_drawnObjects (objects : List (Object Handle)) (order : Int) :
    (drawnObjects objects).filter (·.order = order) =
      (objects.filter (·.enabled)).filter (·.order = order) := by
  -- those with this order value are sorted already, so they stay a sublist
  have hsorted : ((objects.filter (·.enabled)).filter (·.order = order)).Pairwise
      fun first second => decide (first.order ≤ second.order) = true := by
    apply List.pairwise_of_forall_mem_list
    intro first hfirst second hsecond
    have hfirstOrder := of_decide_eq_true (List.mem_filter.1 hfirst).2
    have hsecondOrder := of_decide_eq_true (List.mem_filter.1 hsecond).2
    exact decide_eq_true (Int.le_of_eq (hfirstOrder.trans hsecondOrder.symm))
  have hsublist : ((objects.filter (·.enabled)).filter (·.order = order)).Sublist
      (drawnObjects objects) :=
    List.sublist_mergeSort le_order_trans le_order_total hsorted List.filter_sublist
  have hkept := hsublist.filter (·.order = order)
  have hself : ((objects.filter (·.enabled)).filter (·.order = order)).filter (·.order = order) =
      (objects.filter (·.enabled)).filter (·.order = order) :=
    List.filter_eq_self.2 fun object hmem => (List.mem_filter.1 hmem).2
  rw [hself] at hkept
  have hlength := ((drawnObjects_perm objects).filter (·.order = order)).length_eq
  exact (hkept.eq_of_length hlength.symm).symm

/-- Objects that are registered under a name come behind those that are there already. -/
theorem Scene.get?_foldl_addObject (scene : Scene Handle) (name : String) (first : Object Handle)
    (others : List (Object Handle)) :
    ((first :: others).foldl (fun scene object => scene.addObject name object) scene).objects.get?
        name =
      some ((scene.objects.get? name).getD [] ++ first :: others) := by
  induction others generalizing scene first with
  | nil => exact Table.get?_insert_self ..
  | cons second rest ih =>
    rw [List.foldl_cons, ih, addObject, Table.get?_insert_self, Option.getD_some, List.append_assoc,
      List.singleton_append]

/-- Objects that are registered in another way: with disabled objects put in or taken out anywhere, or,
if the enabled ones have pairwise different order values, in another sequence. -/
inductive Rearranged : List (Object Handle) → List (Object Handle) → Prop
  | disabled {objects others : List (Object Handle)}
      (henabled : objects.filter (·.enabled) = others.filter (·.enabled)) :
      Rearranged objects others
  | permuted {objects others : List (Object Handle)} (hperm : objects.Perm others)
      (horders : ((objects.filter (·.enabled)).map (·.order)).Nodup) : Rearranged objects others
  | trans {first second third : List (Object Handle)} (hfirst : Rearranged first second)
      (hsecond : Rearranged second third) : Rearranged first third

/-- Rearranged objects are drawn alike. -/
theorem Rearranged.drawnObjects_eq {objects others : List (Object Handle)}
    (hrearranged : Rearranged objects others) : drawnObjects objects = drawnObjects others := by
  induction hrearranged with
  | disabled henabled => rw [drawnObjects, henabled, drawnObjects]
  | permuted hperm horders =>
    rename_i objects others
    have henabled := (drawnObjects_perm objects).symm
    have hdrawn : (drawnObjects objects).Perm (drawnObjects others) :=
      (drawnObjects_perm objects).trans
        ((hperm.filter _).trans (drawnObjects_perm others).symm)
    refine hdrawn.eq_of_pairwise ?_ (pairwise_drawnObjects objects) (pairwise_drawnObjects others)
    intro first second hfirst hsecond hle hge
    have hfirstEnabled := (drawnObjects_perm objects).mem_iff.1 hfirst
    have hsecondEnabled := (drawnObjects_perm objects).mem_iff.1 (hdrawn.mem_iff.2 hsecond)
    exact List.inj_on_of_nodup_map horders hfirstEnabled hsecondEnabled (Int.le_antisymm hle hge)
  | trans _ _ ihfirst ihsecond => exact ihfirst.trans ihsecond

theorem map_drawnObjects_eq {group other : Option (List (Object Handle))}
    (hrel : Option.Rel Rearranged group other) : group.map drawnObjects = other.map drawnObjects := by
  cases hrel with
  | none => rfl
  | some hrearranged => exact congrArg some hrearranged.drawnObjects_eq

end Sorting

variable {State : Type} {handles : Handles}

def Scene.withObjects {Handle : Type} (scene : Scene Handle)
    (others : Table String (List (Object Handle))) : Scene Handle :=
  { scene with objects := others }

namespace Submission

def withObjects (others : Table String (List (Object handles.Buffer)))
    (submission : Submission handles) : Submission handles :=
  { submission with scene := submission.scene.withObjects others }

/-- What is done for a drawable does not depend on the objects of the scene. -/
theorem actions_withObjects (others : Table String (List (Object handles.Buffer)))
    (policy : UnboundUniformPolicy) (submission : Submission handles) :
    (submission.withObjects others).actions policy = submission.actions policy := by
  have hstreams (slots : List StreamSlot) :
      (submission.withObjects others).streamActions slots = submission.streamActions slots := by
    induction slots with
    | nil => rfl
    | cons slot rest ih =>
      rw [streamActions, streamActions, ih]
      rfl
  rw [actions, actions, hstreams]
  rfl

end Submission

namespace Frame

def withObjects (others : Table String (List (Object handles.Buffer))) (frame : Frame handles) :
    Frame handles :=
  { frame with scene := frame.scene.map (·.withObjects others) }

variable {frame : Frame handles} {others : Table String (List (Object handles.Buffer))}

theorem viewport?_withObjects : (frame.withObjects others).viewport? = frame.viewport? := by
  rw [viewport?, viewport?, withObjects, Option.map_map]
  rfl

theorem cursorAfter_withObjects (commands : List Command) :
    (frame.withObjects others).cursorAfter commands = frame.cursorAfter commands := by
  have hadvance : (frame.withObjects others).advance = frame.advance := by
    funext cursor command
    cases command with
    | setRenderTarget index =>
      rw [advance, advance, viewport?_withObjects]
      rfl
    | _ => rfl
  rw [cursorAfter, cursorAfter, hadvance]

theorem renderActions_withObjects (submissions : Option (List (Submission handles))) :
    (frame.withObjects others).renderActions
        (submissions.map (List.map (·.withObjects others))) =
      frame.renderActions submissions := by
  cases submissions with
  | none => rfl
  | some submissions =>
    rw [Option.map_some, renderActions, renderActions, List.flatMap_map]
    congr 1
    funext submission
    exact submission.actions_withObjects others frame.policy

variable (hdrawn : ∀ scene, frame.scene = some scene → ∀ name,
  (scene.objects.get? name).map drawnObjects = (others.get? name).map drawnObjects)

include hdrawn in
theorem submissions?_withObjects (cursor : Cursor) (command : Command) :
    (frame.withObjects others).submissions? cursor command =
      (frame.submissions? cursor command).map (List.map (·.withObjects others)) := by
  have hprogram : (frame.withObjects others).boundProgram? cursor = frame.boundProgram? cursor := rfl
  have hslots : (frame.withObjects others).slots = frame.slots := rfl
  have hresources : (frame.withObjects others).resources = frame.resources := rfl
  have hscene : (frame.withObjects others).scene = frame.scene.map (·.withObjects others) := rfl
  cases command with
  | renderSlot slot =>
    simp only [submissions?, hprogram, hslots, hscene]
    cases frame.boundProgram? cursor with
    | none => rfl
    | some program =>
      cases hsome : frame.scene with
      | none => rfl
      | some scene =>
        dsimp only [Option.map_some]
        cases frame.slots[slot]? with
        | none => rfl
        | some slot =>
          have hgroup := congrArg (Option.map (List.map fun object =>
            (⟨program, scene.withObjects others, .ofObject object⟩ : Submission handles)))
            (hdrawn scene hsome slot.name)
          simp only [Option.bind_some, Option.map_map, Function.comp_def, List.map_map] at hgroup ⊢
          exact hgroup.symm
  | renderStream stream =>
    simp only [submissions?, hprogram, hresources, hscene]
    cases frame.boundProgram? cursor with
    | none => rfl
    | some program =>
      cases frame.scene with
      | none => rfl
      | some scene =>
        dsimp only [Option.map_some]
        rw [Option.map_map]
        rfl
  | _ => rfl

include hdrawn in
theorem actions_withObjects (cursor : Cursor) (command : Command) :
    (frame.withObjects others).actions cursor command = frame.actions cursor command := by
  cases command with
  | setRenderTarget index =>
    rw [actions, actions, viewport?_withObjects]
    rfl
  | renderSlot slot =>
    rw [actions, actions, submissions?_withObjects hdrawn, renderActions_withObjects]
  | renderStream stream =>
    rw [actions, actions, submissions?_withObjects hdrawn, renderActions_withObjects]
  | _ => rfl

include hdrawn in
/-- A plan depends on the objects only through those that are drawn. -/
theorem plan_withObjects (commands : List Command) :
    (frame.withObjects others).plan commands = frame.plan commands := by
  rw [plan, plan]
  congr 1
  funext place
  rw [cursorAfter_withObjects, actions_withObjects hdrawn]

end Frame

/-- Scenes whose objects are rearranged under every name render alike. -/
theorem CompiledPipeline.render_withObjects [Device State handles]
    (compiled : CompiledPipeline handles) {scene : Scene handles.Buffer}
    {others : Table String (List (Object handles.Buffer))}
    (hothers : ∀ name, Option.Rel Rearranged (scene.objects.get? name) (others.get? name))
    (device : State) :
    compiled.render (some (scene.withObjects others)) device =
      compiled.render (some scene) device := by
  have hdrawn : ∀ shown, (compiled.frame (some scene)).scene = some shown → ∀ name,
      (shown.objects.get? name).map drawnObjects = (others.get? name).map drawnObjects := by
    rintro shown ⟨⟩ name
    exact map_drawnObjects_eq (hothers name)
  have hplan : compiled.plan (some (scene.withObjects others)) = compiled.plan (some scene) :=
    Frame.plan_withObjects hdrawn compiled.description.commands
  apply Prod.ext
  · rw [render_report, render_report, hplan]
  · rw [render_device, render_device, hplan]

/-- Drawing a slot tries the enabled objects under its name, each once, in ascending order, and objects
with one order value as they were registered. An attempt performs the actions of its object, wherever it
takes place: they end with a draw that the device is asked for, or with one error about a stream, and the
next object is tried whatever came of it. Therefore a frame reports and does the same if disabled objects
are put in or taken out anywhere, or if objects with pairwise different order values are registered in
another sequence. -/
theorem slots_draw_in_order [Device State handles] (compiled : CompiledPipeline handles)
    (scene : Scene handles.Buffer) (device : State) {earlier later : List Command} {index : Nat}
    (hcommands : compiled.description.commands = earlier ++ .renderSlot index :: later)
    {program : CompiledProgram handles} {slot : Slot} {objects : List (Object handles.Buffer)}
    (hbound : (compiled.frame (some scene)).boundProgram?
      ((compiled.frame (some scene)).run earlier device).cursor = some program)
    (hslot : compiled.description.slots[index]? = some slot)
    (hobjects : scene.objects.get? slot.name = some objects) :
    let frame := compiled.frame (some scene)
    let attempt := fun (reached : FrameState State) (object : Object handles.Buffer) =>
      frame.draw program scene reached (.ofObject object)
    let next := (drawnObjects objects).foldl attempt (frame.run earlier device)
    compiled.render (some scene) device =
        ((later.foldl frame.step next).report, (later.foldl frame.step next).device) ∧
      (drawnObjects objects).Perm (objects.filter (·.enabled)) ∧
      ((drawnObjects objects).Pairwise fun first second => first.order ≤ second.order) ∧
      (∀ order, (drawnObjects objects).filter (·.order = order) =
        (objects.filter (·.enabled)).filter (·.order = order)) ∧
      (∀ object ∈ drawnObjects objects,
        let actions := Submission.actions frame.policy ⟨program, scene, .ofObject object⟩
        actions.countP Action.isDraw + actions.countP Action.isStreamFault = 1 ∧
        ∀ reached, attempt reached object = actions.foldl FrameState.perform reached) ∧
      ∀ others : Table String (List (Object handles.Buffer)),
        (∀ name, Option.Rel Rearranged (scene.objects.get? name) (others.get? name)) →
        compiled.render (some { scene with objects := others }) device =
          compiled.render (some scene) device := by
  intro frame attempt next
  refine ⟨?_, drawnObjects_perm objects, pairwise_drawnObjects objects, filter_drawnObjects objects,
    ?_, fun others hothers => compiled.render_withObjects hothers device⟩
  · have hslots : frame.slots[index]? = some slot := hslot
    have hscene : frame.scene = some scene := rfl
    have hstep : frame.step (frame.run earlier device) (.renderSlot index) = next := by
      have hfound : frame.boundProgram? (frame.run earlier device).cursor = some program := hbound
      simp only [Frame.step, Frame.renderSlot, hfound, hscene, hslots, Option.bind_some, hobjects]
      exact List.foldl_map
    have hrun : frame.run compiled.description.commands device = later.foldl frame.step next := by
      rw [hcommands, Frame.run, List.foldl_append, List.foldl_cons, ← hstep]
      rfl
    rw [← hrun]
    rfl
  · intro object _
    let submission : Submission handles := ⟨program, scene, .ofObject object⟩
    have honce : (submission.actions frame.policy).countP Action.isDraw +
        (submission.actions frame.policy).countP Action.isStreamFault = 1 := by
      rw [submission.countP_isDraw_actions, submission.countP_isStreamFault_actions]
      cases submission.hasStreams with
      | true => rfl
      | false => rfl
    exact ⟨honce, Submission.draw_eq_perform frame submission⟩

namespace Sample

variable {Handle : Type} (handle : Handle)

def lastObject : Object Handle := { object handle with order := 2, vertexCount := 9 }

/-- It lacks its stream, so it cannot be drawn. -/
def firstObject : Object Handle :=
  { object handle with order := -1, vertexCount := 6, streams := .empty }

/-- Three objects that are not registered in their order, and one that is turned off. -/
def crowd : List (Object Handle) :=
  [lastObject handle, firstObject handle, { object handle with enabled := false }, object handle]

/-- The three objects in their order. -/
def orderedCrowd : List (Object Handle) :=
  [firstObject handle, object handle, lastObject handle]

/-- A scene in which the objects are registered one after the other. -/
def crowdedScene : Scene Handle :=
  (crowd handle).foldl (fun scene object => scene.addObject "objects" object)
    { scene handle with objects := .empty }

theorem rearranged_crowd : Rearranged (crowd handle) (orderedCrowd handle) := by
  have hdisabled : Rearranged (crowd handle)
      [lastObject handle, firstObject handle, object handle] := .disabled rfl
  refine hdisabled.trans (.permuted ?_ ?_)
  · have hperm : ([lastObject handle] ++ [firstObject handle, object handle]).Perm
        ([firstObject handle, object handle] ++ [lastObject handle]) := List.perm_append_comm
    exact hperm
  · have horders : [2, -1, (0 : Int)].Nodup := by decide
    exact horders

theorem drawnObjects_crowd : drawnObjects (crowd handle) = orderedCrowd handle := by
  have hsorted : (orderedCrowd handle).Pairwise
      fun first second => decide (first.order ≤ second.order) = true := by
    simp [orderedCrowd, firstObject, lastObject, object]
  exact (rearranged_crowd handle).drawnObjects_eq.trans (List.mergeSort_of_pairwise hsorted)

end Sample

/-- The sample tries its objects in their order, and does the same if they are registered in it and
without the one that is turned off. -/
theorem slots_draw_in_order_crowd : ∃ compiled ready program,
    let scene := Sample.crowdedScene Sample.recordedBuffer
    let frame := compiled.frame (some scene)
    let reached := frame.run (Sample.commands.take 4) ready
    let next := (Sample.orderedCrowd Sample.recordedBuffer).foldl
      (fun reached object => frame.draw program scene reached (.ofObject object)) reached
    CompiledPipeline.compile Sample.pipeline 8 8 Sample.config Sample.recorder =
      (.ok compiled, ready) ∧
    frame.boundProgram? reached.cursor = some program ∧
    (compiled.render (some scene) ready).1 =
      ((Sample.commands.drop 5).foldl frame.step next).report ∧
    compiled.render (some { scene with
      objects := .ofList [("objects", Sample.orderedCrowd Sample.recordedBuffer)] }) ready =
        compiled.render (some scene) ready := by
  obtain ⟨compiled, ready, hcompile, _⟩ := Sample.recorder_compiles
  have hcompiled := CompiledPipeline.isCompiled_of_compile_eq_ok hcompile
  have hprograms : List.Forall₂ (fun descriptor program => ∃ before after : Recorder,
      compileProgram Sample.config descriptor before = (.ok program, after))
      [Sample.program] compiled.resources.programs := hcompiled.resources.programs
  obtain ⟨program, _, _, _, hlist⟩ := List.forall₂_cons_left_iff.1 hprograms
  have hbound : (compiled.frame (some (Sample.crowdedScene Sample.recordedBuffer))).boundProgram?
      ((compiled.frame (some (Sample.crowdedScene Sample.recordedBuffer))).run
        (Sample.commands.take 4) ready).cursor = some program := by
    rw [Frame.run_eq_perform]
    refine (Frame.boundProgram?_cursorAfter _ _).trans ?_
    simp [Sample.commands, Frame.programOf?, CompiledPipeline.frame, hlist]
  have hcommands : compiled.description.commands =
      Sample.commands.take 4 ++ .renderSlot 0 :: Sample.commands.drop 5 := by
    rw [hcompiled.description]
    rfl
  have hslot : compiled.description.slots[0]? = some (Sample.slot "objects") := by
    rw [hcompiled.description]
    rfl
  have hobjects : (Sample.crowdedScene Sample.recordedBuffer).objects.get? "objects" =
      some (Sample.crowd Sample.recordedBuffer) := Scene.get?_foldl_addObject _ _ _ _
  have hscene : (Sample.crowdedScene Sample.recordedBuffer).objects =
      .ofList [("objects", Sample.crowd Sample.recordedBuffer)] := rfl
  have hget (name : String) (group : List (Object RecordedBuffer)) :
      (Table.ofList [("objects", group)]).get? name =
        if compare name "objects" = .eq then some group else none := rfl
  have hothers : ∀ name, Option.Rel Rearranged
      ((Sample.crowdedScene Sample.recordedBuffer).objects.get? name)
      ((Table.ofList [("objects", Sample.orderedCrowd Sample.recordedBuffer)]).get? name) := by
    intro name
    rw [hscene, hget, hget]
    by_cases hname : compare name "objects" = .eq
    · rw [if_pos hname, if_pos hname]
      exact .some (Sample.rearranged_crowd Sample.recordedBuffer)
    · rw [if_neg hname, if_neg hname]
      exact .none
  obtain ⟨hrender, _, _, _, _, hsame⟩ := slots_draw_in_order compiled
    (Sample.crowdedScene Sample.recordedBuffer) ready hcommands hbound hslot hobjects
  rw [Sample.drawnObjects_crowd] at hrender
  exact ⟨compiled, ready, program, hcompile, hbound, congrArg Prod.fst hrender, hsame _ hothers⟩

end FramePlan
