import FramePlan.Device.Recorder
import FramePlan.Proofs.Attempt
import FramePlan.Resources.Compile

/-!
# What a recorder is asked for

Creating things is asking a recorder for one after the other, up to the first that it refuses. The list of
what would be asked for determines which error there is, which calls are recorded, and which number the
next thing has. A caller may also refuse by itself, without asking the recorder.

* `Recorder.after`: a recorder that has been asked for a list of things.
* `Asks`: an attempt that asks for a list of things.
* `Asks.bind`: attempts in turn ask for one list after the other.
-/

namespace FramePlan

open Shader (ProgramStage Interface)

variable {Error Failure α β : Type}

/-- Something to be created, by a call that may have a fault, or a refusal to ask for it. -/
inductive Request (Error : Type) where
  | create (call : DeviceCall) (fault? : Option Error)
  | refuse (error : Error)

namespace Request

/-- Why a request fails, if it does. -/
def fault? : Request Error → Option Error
  | .create _ fault? => fault?
  | .refuse error => some error

def mapError (wrap : Error → Failure) : Request Error → Request Failure
  | .create call fault? => .create call (fault?.map wrap)
  | .refuse error => .refuse (wrap error)

/-- Why the first request fails that does. -/
def firstFault? (requests : List (Request Error)) : Option Error :=
  requests.findSome? fault?

theorem firstFault?_cons (request : Request Error) (rest : List (Request Error)) :
    firstFault? (request :: rest) = request.fault?.or (firstFault? rest) := by
  rw [firstFault?, List.findSome?_cons]
  cases request.fault? <;> rfl

theorem firstFault?_append (first last : List (Request Error)) :
    firstFault? (first ++ last) = (firstFault? first).or (firstFault? last) :=
  List.findSome?_append

theorem firstFault?_mapError (wrap : Error → Failure) (requests : List (Request Error)) :
    firstFault? (requests.map (mapError wrap)) = (firstFault? requests).map wrap := by
  induction requests with
  | nil => rfl
  | cons request rest ih =>
    rw [List.map_cons, firstFault?_cons, firstFault?_cons, ih]
    cases request with
    | create call fault? => cases fault? <;> rfl
    | refuse error => rfl

theorem firstFault?_granted (calls : List DeviceCall) :
    firstFault? (calls.map (.create · none) : List (Request Error)) = none := by
  rw [firstFault?, List.findSome?_map, List.findSome?_eq_none_iff]
  intro call _
  rfl

end Request

open Request (firstFault?)

namespace Recorder

/-- The recorder after it has been asked for things, up to the first fault. All their calls are recorded,
and what is created takes a number; what is bound stays as it is. -/
def after (recorder : Recorder) : List (Request Error) → Recorder
  | [] => recorder
  | .create call none :: rest =>
    { recorder.record call with nextId := recorder.nextId + 1 }.after rest
  | .create call (some _) :: _ => recorder.record call
  | .refuse _ :: _ => recorder

theorem greatestSide_after {recorder : Recorder} {greatestSide : UInt32}
    (hside : recorder.greatestSide = greatestSide) (requests : List (Request Error)) :
    (recorder.after requests).greatestSide = greatestSide := by
  induction requests generalizing recorder with
  | nil => exact hside
  | cons request rest ih =>
    rcases request with ⟨call, _ | error⟩ | error
    · exact ih hside
    · exact hside
    · exact hside

theorem after_mapError (wrap : Error → Failure) (recorder : Recorder)
    (requests : List (Request Error)) :
    recorder.after (requests.map (Request.mapError wrap)) = recorder.after requests := by
  induction requests generalizing recorder with
  | nil => rfl
  | cons request rest ih =>
    rcases request with ⟨call, _ | error⟩ | error
    · exact ih _
    · rfl
    · rfl

/-- What comes after a fault is not asked for. -/
theorem after_append_of_fault {first : List (Request Error)} {error : Error}
    (hfault : firstFault? first = some error) (recorder : Recorder)
    (last : List (Request Error)) : recorder.after (first ++ last) = recorder.after first := by
  induction first generalizing recorder with
  | nil => cases hfault
  | cons request rest ih =>
    rcases request with ⟨call, _ | error⟩ | error
    · exact ih hfault _
    · rfl
    · rfl

/-- What comes after things that are all created is asked for next. -/
theorem after_append_of_granted {first : List (Request Error)}
    (hgranted : firstFault? first = none) (recorder : Recorder) (last : List (Request Error)) :
    recorder.after (first ++ last) = (recorder.after first).after last := by
  induction first generalizing recorder with
  | nil => rfl
  | cons request rest ih =>
    rcases request with ⟨call, _ | error⟩ | error
    · exact ih hgranted _
    · cases hgranted
    · cases hgranted

theorem nextId_after_of_granted {requests : List (Request Error)}
    (hgranted : firstFault? requests = none) (recorder : Recorder) :
    (recorder.after requests).nextId = recorder.nextId + requests.length := by
  induction requests generalizing recorder with
  | nil => rfl
  | cons request rest ih =>
    rcases request with ⟨call, _ | error⟩ | error
    · exact (ih hgranted _).trans (Nat.add_right_comm ..)
    · cases hgranted
    · cases hgranted

theorem nextId_after_singleton {request : Request Error} (hgranted : request.fault? = none)
    (recorder : Recorder) : (recorder.after [request]).nextId = recorder.nextId + 1 := by
  rcases request with ⟨call, _ | error⟩ | error
  · rfl
  · cases hgranted
  · cases hgranted

/-- Calls that are all granted are recorded in order, and take one number each. -/
theorem after_granted (recorder : Recorder) (calls : List DeviceCall) :
    recorder.after (calls.map (.create · none) : List (Request Error)) =
      { recorder with
        calls := recorder.calls ++ calls
        nextId := recorder.nextId + calls.length } := by
  induction calls generalizing recorder with
  | nil => simp [after]
  | cons call rest ih =>
    rw [List.map_cons, after, ih]
    simp [record, Nat.add_comm, Nat.add_left_comm]

end Recorder

/-- An attempt at a recorder that asks for a list of things. It fails just as the first of them does that
fails, and otherwise makes something of a kind. -/
def Asks (recorder : Recorder) (attempt : Attempt Recorder Error α)
    (requests : List (Request Error)) (made : α → Prop) : Prop :=
  match firstFault? requests with
  | some error => attempt recorder = (.error error, recorder.after requests)
  | none => ∃ value, attempt recorder = (.ok value, recorder.after requests) ∧ made value

namespace Asks

variable {recorder : Recorder} {attempt : Attempt Recorder Error α}
  {requests : List (Request Error)} {made : α → Prop}

theorem of_fault {error : Error} (hfault : firstFault? requests = some error)
    (hattempt : attempt recorder = (.error error, recorder.after requests)) :
    Asks recorder attempt requests made := by
  rw [Asks, hfault]
  exact hattempt

theorem of_granted (hgranted : firstFault? requests = none) {value : α}
    (hattempt : attempt recorder = (.ok value, recorder.after requests)) (hmade : made value) :
    Asks recorder attempt requests made := by
  rw [Asks, hgranted]
  exact ⟨value, hattempt, hmade⟩

theorem eq_error (hasks : Asks recorder attempt requests made) {error : Error}
    (hfault : firstFault? requests = some error) :
    attempt recorder = (.error error, recorder.after requests) := by
  rw [Asks, hfault] at hasks
  exact hasks

theorem exists_ok (hasks : Asks recorder attempt requests made)
    (hgranted : firstFault? requests = none) :
    ∃ value, attempt recorder = (.ok value, recorder.after requests) ∧ made value := by
  rw [Asks, hgranted] at hasks
  exact hasks

theorem isOk_eq (hasks : Asks recorder attempt requests made) :
    (attempt recorder).1.isOk = (firstFault? requests).isNone := by
  cases hfault : firstFault? requests with
  | some error =>
    rw [hasks.eq_error hfault]
    rfl
  | none =>
    obtain ⟨value, hvalue, _⟩ := hasks.exists_ok hfault
    rw [hvalue]
    rfl

/-- However an attempt ends, the recorder has been asked for things up to the first fault. -/
theorem recorder_eq (hasks : Asks recorder attempt requests made) :
    (attempt recorder).2 = recorder.after requests := by
  cases hfault : firstFault? requests with
  | some error => rw [hasks.eq_error hfault]
  | none =>
    obtain ⟨value, hvalue, _⟩ := hasks.exists_ok hfault
    rw [hvalue]

theorem made_of_eq_ok (hasks : Asks recorder attempt requests made) {value : α} {last : Recorder}
    (hok : attempt recorder = (.ok value, last)) : made value := by
  cases hfault : firstFault? requests with
  | some error =>
    rw [hasks.eq_error hfault] at hok
    cases hok
  | none =>
    obtain ⟨result, hresult, hmade⟩ := hasks.exists_ok hfault
    rw [hresult] at hok
    cases hok
    exact hmade

theorem with_outcome (hasks : Asks recorder attempt requests made) :
    Asks recorder attempt requests fun value =>
      attempt recorder = (.ok value, recorder.after requests) := by
  cases hfault : firstFault? requests with
  | some error => exact of_fault hfault (hasks.eq_error hfault)
  | none =>
    obtain ⟨value, hvalue, _⟩ := hasks.exists_ok hfault
    exact of_granted hfault hvalue hvalue

theorem imp {made' : α → Prop} (hasks : Asks recorder attempt requests made)
    (himp : ∀ value, made value → made' value) : Asks recorder attempt requests made' := by
  cases hfault : firstFault? requests with
  | some error => exact of_fault hfault (hasks.eq_error hfault)
  | none =>
    obtain ⟨value, hvalue, hmade⟩ := hasks.exists_ok hfault
    exact of_granted hfault hvalue (himp value hmade)

theorem pure {value : α} (hmade : made value) :
    Asks recorder (Pure.pure value : Attempt Recorder Error α) [] made :=
  of_granted rfl rfl hmade

theorem throw {error : Error} :
    Asks recorder (MonadExcept.throw error : Attempt Recorder Error α) [.refuse error] made :=
  of_fault rfl rfl

/-- What is made by one attempt and then another is asked for in this order. -/
theorem bind {next : α → Attempt Recorder Error β} {later : List (Request Error)}
    {made' : β → Prop} (hasks : Asks recorder attempt requests made)
    (hnext : firstFault? requests = none → ∀ value, made value →
      Asks (recorder.after requests) (next value) later made') :
    Asks recorder (attempt >>= next) (requests ++ later) made' := by
  cases hfault : firstFault? requests with
  | some error =>
    have hboth : firstFault? (requests ++ later) = some error := by
      rw [Request.firstFault?_append, hfault, Option.some_or]
    apply of_fault hboth
    rw [Recorder.after_append_of_fault hfault]
    exact Attempt.bind_eq_error (hasks.eq_error hfault)
  | none =>
    obtain ⟨value, hvalue, hmade⟩ := hasks.exists_ok hfault
    have hboth : firstFault? (requests ++ later) = firstFault? later := by
      rw [Request.firstFault?_append, hfault, Option.none_or]
    have hlater := hnext hfault value hmade
    rw [Asks, hboth, Recorder.after_append_of_granted hfault,
      Attempt.bind_eq_of_ok hvalue]
    exact hlater

theorem bind_cons {request : Request Error} {next : α → Attempt Recorder Error β}
    {later : List (Request Error)} {made' : β → Prop} (hasks : Asks recorder attempt [request] made)
    (hnext : request.fault? = none → ∀ value, made value →
      Asks (recorder.after [request]) (next value) later made') :
    Asks recorder (attempt >>= next) (request :: later) made' := by
  refine hasks.bind fun hgranted => hnext ?_
  rw [Request.firstFault?_cons] at hgranted
  exact (Option.or_eq_none_iff.1 hgranted).1

/-- What does not ask for anything does not show. -/
theorem bind_lift {outcome : Except Error β} {value : β} (hok : outcome = .ok value)
    {next : β → Attempt Recorder Error α} (hnext : Asks recorder (next value) requests made) :
    Asks recorder (liftM outcome >>= next) requests made := by
  rw [Asks, Attempt.bind_eq_of_ok (Attempt.liftM_eq_ok.2 ⟨hok, rfl⟩)]
  exact hnext

theorem adapt {wrap : Error → Failure} (hasks : Asks recorder attempt requests made) :
    Asks recorder (ExceptT.adapt wrap attempt : Attempt Recorder Failure α)
      (requests.map (Request.mapError wrap)) made := by
  rw [Asks, Request.firstFault?_mapError, Recorder.after_mapError]
  cases hfault : firstFault? requests with
  | some error => exact Attempt.adapt_eq_error (hasks.eq_error hfault)
  | none =>
    obtain ⟨value, hvalue, hmade⟩ := hasks.exists_ok hfault
    exact ⟨value, Attempt.adapt_eq_ok.2 hvalue, hmade⟩

end Asks

namespace Recorder

/-- What is asked for an image. -/
def imageRequest (greatestSide : UInt32) (descriptor : ImageDescriptor) : Request DeviceError :=
  .create (.createImage descriptor)
    ((imageFault? greatestSide descriptor).map .resourceCreation)

/-- Why a stage of a source cannot be compiled, if it cannot. -/
def shaderFault? (stage : ProgramStage) (source entryPoint : String) : Option DeviceError :=
  match Interface.ofSource source stage entryPoint with
  | .ok _ => none
  | .error fault => some (.ofStageFault stage entryPoint fault)

/-- What is asked for a stage. -/
def shaderRequest (stage : ProgramStage) (source entryPoint profile : String) :
    Request DeviceError :=
  .create (.compileShader stage entryPoint profile) (shaderFault? stage source entryPoint)

theorem asks_create (recorder : Recorder) (call : DeviceCall) (make : Nat → α) :
    Asks recorder (create call (.ok make)) [.create call none]
      fun result => result = make recorder.nextId :=
  .of_granted rfl rfl rfl

theorem asks_createImage {recorder : Recorder} {greatestSide : UInt32}
    (hside : recorder.greatestSide = greatestSide) (descriptor : ImageDescriptor) :
    Asks recorder (createImage descriptor) [imageRequest greatestSide descriptor]
      fun image => image.id = recorder.nextId := by
  subst hside
  unfold Asks createImage create imageRequest
  cases imageFault? recorder.greatestSide descriptor with
  | some fault => rfl
  | none => exact ⟨⟨recorder.nextId, descriptor⟩, rfl, rfl⟩

theorem asks_compileTexture {recorder : Recorder} {greatestSide : UInt32}
    (hside : recorder.greatestSide = greatestSide) (descriptor : TextureDescriptor) :
    Asks recorder
      (compileTexture descriptor : Attempt Recorder DeviceError (CompiledTexture handles))
      [imageRequest greatestSide descriptor.image,
        .create (.createSampler descriptor.sampler) none]
      fun texture => texture.image.id = recorder.nextId := by
  refine (asks_createImage hside descriptor.image).bind_cons fun _ image himage => ?_
  exact (asks_create _ _ _).bind_cons fun _ sampler _ => Asks.pure himage

theorem asks_compileShader (recorder : Recorder) (stage : ProgramStage)
    (source entryPoint profile : String) :
    Asks recorder (compileShader stage source entryPoint profile)
      [shaderRequest stage source entryPoint profile] fun shader =>
        shader.handle.id = recorder.nextId ∧
          Interface.ofSource source stage entryPoint = .ok shader.interface := by
  unfold Asks compileShader create shaderRequest shaderFault?
  cases Interface.ofSource source stage entryPoint with
  | error fault => rfl
  | ok interface => exact ⟨⟨⟨recorder.nextId, stage⟩, interface⟩, rfl, rfl, rfl⟩

end Recorder

end FramePlan
