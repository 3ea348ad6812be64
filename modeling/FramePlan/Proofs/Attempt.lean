import FramePlan.Device
import FramePlan.Proofs.Outcomes

/-!
# Laws of attempts

An attempt that is made of several succeeds just when each of them does, one after the other from the
state that the one before left behind. The laws take a success apart, and put it together again.

* `bind_eq_ok`, `forall₂_of_mapM_eq_ok`: what a success is made of.
* `exists_of_yields`: a success that is found by evaluation.
* `Keeps`: however an attempt ends, something that is seen of the state is what it was.
* `Grants`: wherever one attempt succeeds, so does another from every related state.

Attempts that are made of attempts that keep or grant something do so again.
-/

namespace FramePlan.Attempt

variable {State Error Failure α β : Type}

theorem bind_eq_ok {first : Attempt State Error α} {next : α → Attempt State Error β}
    {state last : State} {result : β} :
    (first >>= next) state = (.ok result, last) ↔
      ∃ value reached, first state = (.ok value, reached) ∧
        next value reached = (.ok result, last) := by
  show (match first state with | (outcome, reached) => ExceptT.bindCont next outcome reached) =
    _ ↔ _
  rcases first state with ⟨error | value, reached⟩
  · constructor
    · intro h
      cases h
    · rintro ⟨_, _, h, _⟩
      cases h
  · constructor
    · intro h
      exact ⟨value, reached, rfl, h⟩
    · rintro ⟨_, _, h, hnext⟩
      cases h
      exact hnext

theorem adapt_eq_ok {first : Attempt State Error α} {wrap : Error → Failure}
    {state last : State} {value : α} :
    (ExceptT.adapt wrap first : Attempt State Failure α) state = (.ok value, last) ↔
      first state = (.ok value, last) := by
  show (match first state with | (outcome, reached) => (Except.mapError wrap outcome, reached)) =
    _ ↔ _
  rcases first state with ⟨error | result, reached⟩
  · constructor
    · intro h
      cases h
    · intro h
      cases h
  · constructor
    · intro h
      cases h
      rfl
    · intro h
      cases h
      rfl

theorem bind_eq_error {first : Attempt State Error α} {next : α → Attempt State Error β}
    {state last : State} {error : Error} (hfirst : first state = (.error error, last)) :
    (first >>= next) state = (.error error, last) := by
  show (match first state with | (outcome, reached) => ExceptT.bindCont next outcome reached) = _
  rw [hfirst]
  rfl

theorem bind_eq_of_ok {first : Attempt State Error α} {next : α → Attempt State Error β}
    {state reached : State} {value : α} (hfirst : first state = (.ok value, reached)) :
    (first >>= next) state = next value reached := by
  show (match first state with | (outcome, reached) => ExceptT.bindCont next outcome reached) = _
  rw [hfirst]
  rfl

theorem adapt_eq_error {first : Attempt State Error α} {wrap : Error → Failure}
    {state last : State} {error : Error} (hfirst : first state = (.error error, last)) :
    (ExceptT.adapt wrap first : Attempt State Failure α) state = (.error (wrap error), last) := by
  show (match first state with | (outcome, reached) => (Except.mapError wrap outcome, reached)) = _
  rw [hfirst]
  rfl

theorem liftM_eq_ok {outcome : Except Error α} {state last : State} {value : α} :
    (liftM outcome : Attempt State Error α) state = (.ok value, last) ↔
      outcome = .ok value ∧ state = last := by
  show (outcome, state) = (.ok value, last) ↔ _
  exact Prod.mk.injEq .. ▸ Iff.rfl

theorem throw_ne_ok {error : Error} {state last : State} {value : α} :
    (throw error : Attempt State Error α) state ≠ (.ok value, last) := by
  intro h
  cases h

/-- Whether an attempt succeeds with something of a kind. -/
def yields (attempt : Attempt State Error α) (state : State) (p : α → State → Prop)
    [∀ result last, Decidable (p result last)] : Bool :=
  match attempt state with
  | (.ok result, last) => decide (p result last)
  | (.error _, _) => false

theorem exists_of_yields {attempt : Attempt State Error α} {state : State}
    {p : α → State → Prop} [∀ result last, Decidable (p result last)]
    (hyields : attempt.yields state p = true) :
    ∃ result last, attempt state = (.ok result, last) ∧ p result last := by
  unfold yields at hyields
  rcases hrun : attempt state with ⟨error | result, last⟩
  · rw [hrun] at hyields
    cases hyields
  · rw [hrun] at hyields
    exact ⟨result, last, rfl, of_decide_eq_true hyields⟩

/-- What an outcome is seen as, it is seen as when it is a success. -/
theorem exists_of_map_toOption {outcome : Except Error α} {view : α → β} {seen : β}
    (hseen : outcome.toOption.map view = some seen) :
    ∃ result, outcome = .ok result ∧ view result = seen := by
  cases outcome with
  | error error => cases hseen
  | ok result => exact ⟨result, rfl, Option.some.inj hseen⟩

/-! ## What attempts leave as it is -/

section Keeps

variable {γ : Type} {view : State → γ}

/-- However an attempt ends, a view of the state is what it was. -/
def Keeps (view : State → γ) (attempt : Attempt State Error α) : Prop :=
  ∀ state, view (attempt state).2 = view state

theorem Keeps.pure (result : α) : Keeps view (Pure.pure result : Attempt State Error α) :=
  fun _ => rfl

theorem Keeps.throw (error : Error) :
    Keeps view (MonadExcept.throw error : Attempt State Error α) :=
  fun _ => rfl

theorem Keeps.lift (outcome : Except Error α) :
    Keeps view (liftM outcome : Attempt State Error α) :=
  fun _ => rfl

theorem Keeps.bind {first : Attempt State Error α} {next : α → Attempt State Error β}
    (hfirst : Keeps view first) (hnext : ∀ value, Keeps view (next value)) :
    Keeps view (first >>= next) := by
  intro state
  have hkept := hfirst state
  rcases hrun : first state with ⟨error | value, reached⟩
  · rw [hrun] at hkept
    rw [bind_eq_error hrun]
    exact hkept
  · rw [hrun] at hkept
    rw [bind_eq_of_ok hrun]
    exact (hnext value reached).trans hkept

theorem Keeps.adapt {attempt : Attempt State Error α} (wrap : Error → Failure)
    (hkeeps : Keeps view attempt) :
    Keeps view (ExceptT.adapt wrap attempt : Attempt State Failure α) := by
  intro state
  have hkept := hkeeps state
  rcases hrun : attempt state with ⟨error | value, reached⟩
  · rw [hrun] at hkept
    rw [adapt_eq_error hrun]
    exact hkept
  · rw [hrun] at hkept
    rw [adapt_eq_ok.2 hrun]
    exact hkept

theorem Keeps.mapM {items : List α} {attempt : α → Attempt State Error β}
    (hkeeps : ∀ item, Keeps view (attempt item)) : Keeps view (items.mapM attempt) := by
  induction items with
  | nil => exact Keeps.pure []
  | cons item rest ih =>
    rw [List.mapM_cons]
    exact (hkeeps item).bind fun result => ih.bind fun results => Keeps.pure _

theorem Keeps.foldlM {items : List α} {step : β → α → Attempt State Error β}
    (hkeeps : ∀ value item, Keeps view (step value item)) (start : β) :
    Keeps view (items.foldlM step start) := by
  induction items generalizing start with
  | nil => exact Keeps.pure start
  | cons item rest ih =>
    rw [List.foldlM_cons]
    exact (hkeeps start item).bind ih

/-- A list of attempts succeeds if one after the other does, and gives their results in order. Each is
made in a state that is seen as the first one, if they keep this view. -/
theorem forall₂_of_mapM_of_keeps {attempt : α → Attempt State Error β} {items : List α}
    {results : List β} {state last : State} (hkeeps : ∀ item, Keeps view (attempt item))
    (hok : items.mapM attempt state = (.ok results, last)) :
    List.Forall₂ (fun item result => ∃ before after, view before = view state ∧
      attempt item before = (.ok result, after)) items results := by
  induction items generalizing results state with
  | nil =>
    cases hok
    exact .nil
  | cons item rest ih =>
    rw [List.mapM_cons] at hok
    obtain ⟨result, reached, hitem, hrest⟩ := bind_eq_ok.1 hok
    obtain ⟨others, after, hothers, hpure⟩ := bind_eq_ok.1 hrest
    cases hpure
    have hkept : view reached = view state := by
      have hkept := hkeeps item state
      rw [hitem] at hkept
      exact hkept
    have hall := ih hothers
    rw [hkept] at hall
    exact .cons ⟨state, reached, rfl, hitem⟩ hall

theorem forall₂_of_mapM_eq_ok {attempt : α → Attempt State Error β} {items : List α}
    {results : List β} {state last : State}
    (hok : items.mapM attempt state = (.ok results, last)) :
    List.Forall₂ (fun item result => ∃ before after, attempt item before = (.ok result, after))
      items results := by
  refine @forall₂_of_mapM _ _ (Attempt State Error) _ _
    (fun attempt result => ∃ before after, attempt before = (.ok result, after)) ?_ ?_ _ _ _
    ⟨state, last, hok⟩
  · rintro γ value result ⟨before, after, hpure⟩
    cases hpure
    rfl
  · rintro γ δ first next result ⟨before, after, hnext⟩
    obtain ⟨value, reached, hfirst, hnext⟩ := bind_eq_ok.1 hnext
    exact ⟨value, ⟨before, reached, hfirst⟩, reached, after, hnext⟩

end Keeps

/-! ## Attempts that succeed where others do -/

section Grants

variable {Twin Error' α' β' : Type} {related : State → Twin → Prop}

/-- From related states the second attempt succeeds wherever the first does, with a matching result and
again in related states. -/
def Grants (related : State → Twin → Prop) (matched : α → α' → Prop)
    (first : Attempt State Error α) (second : Attempt Twin Error' α') : Prop :=
  ∀ ⦃state twin⦄, related state twin → ∀ ⦃result last⦄, first state = (.ok result, last) →
    ∃ result' last', second twin = (.ok result', last') ∧ matched result result' ∧
      related last last'

theorem Grants.pure {matched : α → α' → Prop} {result : α} {result' : α'}
    (hmatched : matched result result') :
    Grants related matched (Pure.pure result : Attempt State Error α)
      (Pure.pure result' : Attempt Twin Error' α') := by
  intro state twin hrelated value last hfirst
  cases hfirst
  exact ⟨result', twin, rfl, hmatched, hrelated⟩

theorem Grants.bind {matched : α → α' → Prop} {matched' : β → β' → Prop}
    {first : Attempt State Error α} {second : Attempt Twin Error' α'}
    {next : α → Attempt State Error β} {next' : α' → Attempt Twin Error' β'}
    (hgrants : Grants related matched first second)
    (hnext : ∀ value value', matched value value' →
      Grants related matched' (next value) (next' value')) :
    Grants related matched' (first >>= next) (second >>= next') := by
  intro state twin hrelated result last hfirst
  obtain ⟨value, reached, hvalue, hrest⟩ := bind_eq_ok.1 hfirst
  obtain ⟨value', reached', hvalue', hmatched, hreached⟩ := hgrants hrelated hvalue
  obtain ⟨result', last', hrest', hresult, hlast⟩ := hnext value value' hmatched hreached hrest
  exact ⟨result', last', bind_eq_ok.2 ⟨value', reached', hvalue', hrest'⟩, hresult, hlast⟩

theorem Grants.adapt {Failure Failure' : Type} {matched : α → α' → Prop}
    {first : Attempt State Error α} {second : Attempt Twin Error' α'} {wrap : Error → Failure}
    {wrap' : Error' → Failure'} (hgrants : Grants related matched first second) :
    Grants related matched (ExceptT.adapt wrap first : Attempt State Failure α)
      (ExceptT.adapt wrap' second : Attempt Twin Failure' α') := by
  intro state twin hrelated result last hfirst
  obtain ⟨result', last', hsecond, hmatched, hlast⟩ := hgrants hrelated (adapt_eq_ok.1 hfirst)
  exact ⟨result', last', adapt_eq_ok.2 hsecond, hmatched, hlast⟩

theorem Grants.throw {matched : α → α' → Prop} {error : Error}
    {second : Attempt Twin Error' α'} :
    Grants related matched (MonadExcept.throw error : Attempt State Error α) second := by
  intro state twin _ result last hfirst
  exact absurd hfirst throw_ne_ok

theorem Grants.lift {matched : α → α' → Prop} {outcome : Except Error α}
    {outcome' : Except Error' α'}
    (hmatched : ∀ result, outcome = .ok result →
      ∃ result', outcome' = .ok result' ∧ matched result result') :
    Grants related matched (liftM outcome : Attempt State Error α)
      (liftM outcome' : Attempt Twin Error' α') := by
  intro state twin hrelated result last hfirst
  obtain ⟨houtcome, rfl⟩ := liftM_eq_ok.1 hfirst
  obtain ⟨result', houtcome', hresult⟩ := hmatched result houtcome
  exact ⟨result', twin, liftM_eq_ok.2 ⟨houtcome', rfl⟩, hresult, hrelated⟩

/-- Lists of attempts that grant one another give results with one view. -/
theorem Grants.mapM {γ δ : Type} {view : β → δ} {view' : β' → δ} {items : List γ}
    {attempt : γ → Attempt State Error β} {attempt' : γ → Attempt Twin Error' β'}
    (hgrants : ∀ item, Grants related (fun result result' => view result = view' result')
      (attempt item) (attempt' item)) :
    Grants related (fun results results' => results.map view = results'.map view')
      (items.mapM attempt) (items.mapM attempt') := by
  induction items with
  | nil => exact Grants.pure rfl
  | cons item rest ih =>
    rw [List.mapM_cons, List.mapM_cons]
    apply (hgrants item).bind
    intro result result' hresult
    apply ih.bind
    intro results results' hresults
    apply Grants.pure
    rw [List.map_cons, List.map_cons, hresult, hresults]

theorem Grants.foldlM {γ : Type} {matched : β → β' → Prop} {items : List γ}
    {step : β → γ → Attempt State Error β} {step' : β' → γ → Attempt Twin Error' β'}
    (hgrants : ∀ value value', matched value value' → ∀ item,
      Grants related matched (step value item) (step' value' item))
    {start : β} {start' : β'} (hstart : matched start start') :
    Grants related matched (items.foldlM step start) (items.foldlM step' start') := by
  induction items generalizing start start' with
  | nil => exact Grants.pure hstart
  | cons item rest ih =>
    rw [List.foldlM_cons, List.foldlM_cons]
    exact (hgrants start start' hstart item).bind fun value value' hvalue => ih hvalue

end Grants

end FramePlan.Attempt
