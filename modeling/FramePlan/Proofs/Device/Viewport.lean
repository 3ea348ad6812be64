import FramePlan.Proofs.Device.Rules

/-!
# The viewport on a target

A viewport may overlap the edges of the target, lie beyond it, or end behind the greatest machine
word. A draw is mapped to what the viewport and the target have in common, pixel by pixel. The rules for
draws only ask whether this is empty, so a viewport never adds a reason to refuse a draw.

* `Viewport.toNat_cut`: cutting a viewport down never leaves the machine words.
* `Viewport.covers_clip_iff`: the rest covers the pixels that both have.
* `viewport_meets_target`: what draws are mapped to, and that a viewport does not make them fail.
-/

namespace FramePlan

namespace Viewport

/-! ## What a viewport covers -/

/-- A side of a rectangle, cut down to the length of a target, in whole numbers of any size: where it
starts and how long it is. -/
def cut (start length side : Int) : Int × Int :=
  (min start side, min length (side - min start side))

/-- Machine words are enough for cutting a side down: what is subtracted is never greater than what it is
subtracted from. -/
theorem toNat_cut (start length side : UInt32) :
    (((min start side).toNat : Int), ((min length (side - min start side)).toNat : Int)) =
      cut start.toNat length.toNat side.toNat := by
  have hstart : min start side ≤ side := by
    rw [UInt32.le_iff_toNat_le, UInt32.toNat_min]
    exact Nat.min_le_right _ _
  have hrest : (side - min start side).toNat = side.toNat - min start.toNat side.toNat := by
    rw [UInt32.toNat_sub_of_le _ _ hstart, UInt32.toNat_min]
  rw [cut, UInt32.toNat_min, UInt32.toNat_min, hrest, Prod.mk.injEq]
  omega

/-- What is left of a side holds the places of the target that the side holds. -/
theorem mem_cut_iff (start length side place : Int) :
    (cut start length side).1 ≤ place ∧
        place < (cut start length side).1 + (cut start length side).2 ↔
      place < side ∧ start ≤ place ∧ place < start + length := by
  simp only [cut]
  omega

theorem cut_le (start length side : Int) :
    (cut start length side).1 + (cut start length side).2 ≤ side := by
  simp only [cut]
  omega

/-- Whether a pixel lies in a rectangle, however far this reaches. -/
def Covers (area : Viewport) (column row : Nat) : Prop :=
  (area.x.toNat ≤ column ∧ column < area.x.toNat + area.width.toNat) ∧
    area.y.toNat ≤ row ∧ row < area.y.toNat + area.height.toNat

instance (area : Viewport) (column row : Nat) : Decidable (area.Covers column row) :=
  inferInstanceAs (Decidable ((_ ∧ _) ∧ _ ∧ _))

/-- The part of a target that is set: a viewport, or all of it where there is none. -/
def wanted (viewport : Option Viewport) (target : GpuView) : Viewport :=
  viewport.getD ⟨0, 0, target.width, target.height⟩

/-- Whether a pixel of a target lies in the viewport, if there is one. -/
def Shows (viewport : Option Viewport) (target : GpuView) (column row : Nat) : Prop :=
  (column < target.width.toNat ∧ row < target.height.toNat) ∧
    ∀ given ∈ viewport, given.Covers column row

instance (viewport : Option Viewport) (target : GpuView) (column row : Nat) :
    Decidable (Shows viewport target column row) :=
  inferInstanceAs (Decidable ((_ ∧ _) ∧ ∀ given ∈ viewport, given.Covers column row))

theorem shows_iff {viewport : Option Viewport} {target : GpuView} {column row : Nat} :
    Shows viewport target column row ↔
      (column < target.width.toNat ∧ row < target.height.toNat) ∧
        (wanted viewport target).Covers column row := by
  cases viewport with
  | none => simp [Shows, wanted, Covers]
  | some given => simp [Shows, wanted]

theorem exists_covers_iff {area : Viewport} :
    (∃ column row, area.Covers column row) ↔ area.width ≠ 0 ∧ area.height ≠ 0 := by
  rw [← one_le_toNat_iff, ← one_le_toNat_iff]
  constructor
  · rintro ⟨column, row, ⟨_, hcolumn⟩, _, hrow⟩
    omega
  · rintro ⟨hwidth, hheight⟩
    exact ⟨area.x.toNat, area.y.toNat, ⟨Nat.le_refl _, Nat.lt_add_of_pos_right hwidth⟩,
      Nat.le_refl _, Nat.lt_add_of_pos_right hheight⟩

section Clip

variable (viewport : Option Viewport) (target : GpuView)

theorem clip_columns :
    (((clip viewport target.width target.height).x.toNat : Int),
        ((clip viewport target.width target.height).width.toNat : Int)) =
      cut (wanted viewport target).x.toNat (wanted viewport target).width.toNat
        target.width.toNat :=
  toNat_cut _ _ _

theorem clip_rows :
    (((clip viewport target.width target.height).y.toNat : Int),
        ((clip viewport target.width target.height).height.toNat : Int)) =
      cut (wanted viewport target).y.toNat (wanted viewport target).height.toNat
        target.height.toNat :=
  toNat_cut _ _ _

theorem clip_le :
    (clip viewport target.width target.height).x.toNat +
        (clip viewport target.width target.height).width.toNat ≤ target.width.toNat ∧
      (clip viewport target.width target.height).y.toNat +
        (clip viewport target.width target.height).height.toNat ≤ target.height.toNat := by
  have hcolumns := cut_le (wanted viewport target).x.toNat (wanted viewport target).width.toNat
    target.width.toNat
  have hrows := cut_le (wanted viewport target).y.toNat (wanted viewport target).height.toNat
    target.height.toNat
  rw [← clip_columns] at hcolumns
  rw [← clip_rows] at hrows
  omega

/-- A target and a viewport have those pixels in common that the clipped viewport covers. -/
theorem covers_clip_iff {column row : Nat} :
    (clip viewport target.width target.height).Covers column row ↔
      Shows viewport target column row := by
  have hcolumn := mem_cut_iff (wanted viewport target).x.toNat (wanted viewport target).width.toNat
    target.width.toNat column
  have hrow := mem_cut_iff (wanted viewport target).y.toNat (wanted viewport target).height.toNat
    target.height.toNat row
  rw [← clip_columns] at hcolumn
  rw [← clip_rows] at hrow
  rw [shows_iff, Covers, Covers]
  omega

end Clip

end Viewport

/-! ## Draws in a viewport -/

namespace DrawCall

/-- A draw is encoded just if its part of the target has a pixel. -/
theorem isDrawn_iff {call : DrawCall} :
    call.isDrawn = true ↔ ∃ column row, call.area.Covers column row := by
  rw [Viewport.exists_covers_iff, isDrawn, Bool.and_eq_true, bne_iff_ne, bne_iff_ne]

end DrawCall

namespace Gpu

/-- The GPU with another viewport, or without one. -/
def withViewport (viewport : Option Viewport) (gpu : Gpu) : Gpu :=
  gpu.bind fun bound => { bound with viewport }

example (given : Viewport) (gpu : Gpu) :
    gpu.withViewport (some given) = Device.setViewport given gpu := rfl

/-- The viewport only decides the part of the target that a draw is mapped to. -/
theorem assemble_withViewport (features : GpuFeatures) (bound : BoundState)
    (viewport : Option Viewport) (program : BoundProgram) (target : GpuView)
    (vertexCount : UInt32) :
    assemble features { bound with viewport } program target vertexCount =
      (assemble features bound program target vertexCount).map
        (DrawCall.withArea (Viewport.clip viewport target.width target.height)) := by
  have hstreams : ({ bound with viewport } : BoundState).streamFor = bound.streamFor := rfl
  have hresources : collect features { bound with viewport } = collect features bound := rfl
  rw [assemble, assemble, hstreams, hresources]
  cases program.layout.attributes.mapM bound.streamFor with
  | error error => rfl
  | ok streams =>
    cases collect features bound program.vertex.interface program.fragment.interface with
    | error error => rfl
    | ok resources => rfl

/-- A draw does not depend on the viewport before it is put together, and then only for the part of the
target that it is mapped to. -/
theorem draw_withViewport (primitive : Primitive) (vertexCount : UInt32) {gpu : Gpu}
    {target : GpuView} (htarget : gpu.bound.targetView? = some target) :
    (∃ outcome, ∀ viewport, (draw primitive vertexCount (gpu.withViewport viewport)).1 = outcome) ∨
    ∃ call, ∀ viewport, (draw primitive vertexCount (gpu.withViewport viewport)).1 =
      check (DrawCall.withArea (Viewport.clip viewport target.width target.height) call) := by
  cases hsupported : primitive.isSupported with
  | false =>
    refine .inl ⟨.error (.unsupportedPrimitive primitive), fun viewport => ?_⟩
    show drawBound gpu.features (gpu.withViewport viewport).bound primitive vertexCount = _
    rw [drawBound, hsupported]
    rfl
  | true =>
    cases hprogram : gpu.bound.program with
    | none =>
      refine .inl ⟨.error (.incompleteState .shaders), fun viewport => ?_⟩
      have hbound : (gpu.withViewport viewport).bound.program = none := hprogram
      show drawBound gpu.features (gpu.withViewport viewport).bound primitive vertexCount = _
      rw [drawBound, hsupported, hbound]
      rfl
    | some program =>
      have hbound (viewport : Option Viewport) :
          (gpu.withViewport viewport).bound.program = some program := hprogram
      have htarget (viewport : Option Viewport) :
          (gpu.withViewport viewport).bound.targetView? = some target := htarget
      by_cases hcount : vertexCount = 0
      · refine .inl ⟨.ok (), fun viewport => ?_⟩
        show drawBound gpu.features (gpu.withViewport viewport).bound primitive vertexCount = _
        rw [drawBound, hsupported, hbound, htarget, hcount]
        rfl
      · have hdraw (viewport : Option Viewport) :=
          (draw_eq hsupported hcount (hbound viewport) (htarget viewport)).trans
            (congrArg (· >>= check) (assemble_withViewport gpu.features gpu.bound viewport program
              target vertexCount))
        cases hmade : assemble gpu.features gpu.bound program target vertexCount with
        | error error =>
          refine .inl ⟨.error error, fun viewport => (hdraw viewport).trans ?_⟩
          rw [hmade]
          rfl
        | ok call =>
          refine .inr ⟨call, fun viewport => (hdraw viewport).trans ?_⟩
          rw [hmade]
          rfl

section Target

variable {gpu : Gpu} {target : GpuView} (htarget : gpu.bound.targetView? = some target)

include htarget

/-- A draw in one viewport fails only with what it fails with in another one that shows something of the
target if the first does. -/
theorem draw_eq_error_of_shows {viewport other : Option Viewport}
    (hshows : (∃ column row, Viewport.Shows viewport target column row) →
      ∃ column row, Viewport.Shows other target column row)
    {primitive : Primitive} {vertexCount : UInt32} {error : DeviceError}
    (herror : (draw primitive vertexCount (gpu.withViewport viewport)).1 = .error error) :
    (draw primitive vertexCount (gpu.withViewport other)).1 = .error error := by
  rcases draw_withViewport primitive vertexCount htarget with ⟨outcome, hdraw⟩ | ⟨call, hdraw⟩
  · rw [hdraw] at herror ⊢
    exact herror
  · rw [hdraw, check_eq_error_iff] at herror ⊢
    obtain ⟨rejection, hrejection, rfl⟩ := herror
    refine ⟨rejection, DrawCall.LawfulRules.withArea ?_ hrejection, rfl⟩
    simp only [DrawCall.isDrawn_iff, DrawCall.withArea, Viewport.covers_clip_iff]
    exact hshows

/-- Where both show something of the target, it makes no difference which viewport there is. -/
theorem draw_eq_of_shows {viewport other : Option Viewport}
    (hshows : ∃ column row, Viewport.Shows viewport target column row)
    (hother : ∃ column row, Viewport.Shows other target column row) (primitive : Primitive)
    (vertexCount : UInt32) :
    (draw primitive vertexCount (gpu.withViewport viewport)).1 =
      (draw primitive vertexCount (gpu.withViewport other)).1 := by
  cases hhere : (draw primitive vertexCount (gpu.withViewport viewport)).1 with
  | error error => exact (draw_eq_error_of_shows htarget (fun _ => hother) hhere).symm
  | ok done =>
    cases hthere : (draw primitive vertexCount (gpu.withViewport other)).1 with
    | error error =>
      have hback := draw_eq_error_of_shows htarget (fun _ => hshows) hthere
      rw [hhere] at hback
      cases hback
    | ok done => rfl

theorem area_of_drawCall? {viewport : Option Viewport} {vertexCount : UInt32} {call : DrawCall}
    (hcall : (gpu.withViewport viewport).drawCall? vertexCount = some call) :
    call.area = Viewport.clip viewport target.width target.height := by
  obtain ⟨program, _, hcall⟩ := Option.bind_eq_some_iff.1 hcall
  obtain ⟨bound, hbound, hcall⟩ := Option.bind_eq_some_iff.1 hcall
  have hsame : target = bound := Option.some.inj (htarget.symm.trans hbound)
  have hmade : ((assemble gpu.features gpu.bound program bound vertexCount).map (DrawCall.withArea
      (Viewport.clip viewport bound.width bound.height))).toOption = some call := by
    rw [← assemble_withViewport]
    exact hcall
  cases hassembled : assemble gpu.features gpu.bound program bound vertexCount with
  | error error =>
    rw [hassembled] at hmade
    cases hmade
  | ok whole =>
    rw [hassembled] at hmade
    cases hmade
    rw [hsame]
    rfl

end Target

end Gpu

/-- With any viewport on any target, or none, a draw is mapped to a rectangle that comes out as if its
sides were whole numbers of any size, lies within the target and covers just the pixels of the target that
the viewport shows. The draw is encoded just if there are such pixels. What it fails with, it fails with
in the absence of a viewport too; where there are such pixels the viewport makes no difference at all. -/
theorem viewport_meets_target {gpu : Gpu} {target : GpuView}
    (htarget : gpu.bound.targetView? = some target) (viewport : Option Viewport) :
    let area := Viewport.clip viewport target.width target.height
    let wanted := Viewport.wanted viewport target
    (((area.x.toNat : Int), (area.width.toNat : Int)) =
        Viewport.cut wanted.x.toNat wanted.width.toNat target.width.toNat ∧
      ((area.y.toNat : Int), (area.height.toNat : Int)) =
        Viewport.cut wanted.y.toNat wanted.height.toNat target.height.toNat) ∧
    (area.x.toNat + area.width.toNat ≤ target.width.toNat ∧
      area.y.toNat + area.height.toNat ≤ target.height.toNat) ∧
    (∀ column row, area.Covers column row ↔ Viewport.Shows viewport target column row) ∧
    (∀ vertexCount call, (gpu.withViewport viewport).drawCall? vertexCount = some call →
      call.area = area ∧
      (call.isDrawn = true ↔ ∃ column row, Viewport.Shows viewport target column row)) ∧
    ∀ primitive vertexCount,
      (∀ error, (Gpu.draw primitive vertexCount (gpu.withViewport viewport)).1 = .error error →
        (Gpu.draw primitive vertexCount (gpu.withViewport none)).1 = .error error) ∧
      ((∃ column row, Viewport.Shows viewport target column row) →
        (Gpu.draw primitive vertexCount (gpu.withViewport viewport)).1 =
          (Gpu.draw primitive vertexCount (gpu.withViewport none)).1) := by
  have hwhole : (∃ column row, Viewport.Shows viewport target column row) →
      ∃ column row, Viewport.Shows none target column row := by
    rintro ⟨column, row, hinside, _⟩
    exact ⟨column, row, hinside, fun _ hgiven => nomatch hgiven⟩
  refine ⟨⟨Viewport.clip_columns viewport target, Viewport.clip_rows viewport target⟩,
    Viewport.clip_le viewport target, fun column row => Viewport.covers_clip_iff viewport target,
    fun vertexCount call hcall => ?_, fun primitive vertexCount => ⟨fun error herror => ?_, ?_⟩⟩
  · have harea := Gpu.area_of_drawCall? htarget hcall
    refine ⟨harea, ?_⟩
    rw [DrawCall.isDrawn_iff, harea]
    simp only [Viewport.covers_clip_iff]
  · exact Gpu.draw_eq_error_of_shows htarget hwhole herror
  · intro hshows
    exact Gpu.draw_eq_of_shows htarget hshows (hwhole hshows) primitive vertexCount

/-! ## A viewport that overlaps a corner -/

namespace Sample

/-- A stage that takes nothing in, gives nothing out and uses nothing. -/
def bareShader (entryPoint : String) : GpuShader := ⟨entryPoint, {}, ⟨[], [], [], []⟩⟩

/-- A GPU that draws without streams to a target of eight pixels square. -/
def bareGpu : Gpu where
  bound := { program := some ⟨bareShader "v", bareShader "f", ⟨[]⟩⟩, color := some ⟨0, 8, 8⟩ }

/-- A viewport of the greatest size, so that it ends behind the greatest machine word. -/
def hanging : Viewport := ⟨6, 7, 4294967295, 4294967295⟩

end Sample

/-- Two pixels of the target are left in the viewport, and the draw is encoded and not refused. -/
theorem viewport_meets_target_hanging :
    Sample.bareGpu.bound.targetView? = some ⟨0, 8, 8⟩ ∧
    Viewport.Shows (some Sample.hanging) ⟨0, 8, 8⟩ 7 7 ∧
    ∃ call, (Sample.bareGpu.withViewport (some Sample.hanging)).drawCall? 3 = some call ∧
      call.area = ⟨6, 7, 2, 1⟩ ∧ call.isDrawn = true ∧
      (Gpu.draw .triangleList 3 (Sample.bareGpu.withViewport (some Sample.hanging))).1 = .ok () := by
  have htarget : Sample.bareGpu.bound.targetView? = some ⟨0, 8, 8⟩ := rfl
  have hshows : Viewport.Shows (some Sample.hanging) ⟨0, 8, 8⟩ 7 7 := by decide
  obtain ⟨_, _, _, hencoded, hdraws⟩ := viewport_meets_target htarget (some Sample.hanging)
  obtain ⟨call, hcall⟩ : ∃ call,
      (Sample.bareGpu.withViewport (some Sample.hanging)).drawCall? 3 = some call := ⟨_, rfl⟩
  obtain ⟨harea, hdrawn⟩ := hencoded 3 call hcall
  refine ⟨htarget, hshows, call, hcall, harea, hdrawn.2 ⟨7, 7, hshows⟩, ?_⟩
  rw [(hdraws .triangleList 3).2 ⟨7, 7, hshows⟩]
  rfl

end FramePlan
