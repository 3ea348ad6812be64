import Mathlib.Data.List.Forall2

/-!
# Laws of outcomes

A computation that is made of several ends with the first failure among them, and succeeds just when all
of them do. The laws take successes and failures of sequences and lists apart.

* `forall₂_of_mapM`: a list of computations succeeds one by one, whatever kind of computations they are.
* `exists_of_bind_eq_ok`, `forall₂_of_mapM_eq_ok`: what a success is made of.
* `mapM_eq_error_iff`: the first failure is the one that counts.
-/

namespace FramePlan

variable {Error α β : Type}

/-! ## Successes -/

/-- Let some results be given by computations, where a sequence gives only what its second part gives
after its first part has given something. Then what a list of computations gives are results of its
members, in order. -/
theorem forall₂_of_mapM {m : Type → Type} [Monad m] [LawfulMonad m]
    {gives : ∀ {γ : Type}, m γ → γ → Prop}
    (hpure : ∀ {γ : Type} {value result : γ}, gives (pure value) result → value = result)
    (hbind : ∀ {γ δ : Type} {first : m γ} {next : γ → m δ} {result : δ},
      gives (first >>= next) result → ∃ value, gives first value ∧ gives (next value) result)
    {step : α → m β} {items : List α} {results : List β} (hgives : gives (items.mapM step) results) :
    List.Forall₂ (fun item result => gives (step item) result) items results := by
  induction items generalizing results with
  | nil =>
    rw [List.mapM_nil] at hgives
    cases hpure hgives
    exact .nil
  | cons item rest ih =>
    rw [List.mapM_cons] at hgives
    obtain ⟨result, hitem, hgives⟩ := hbind hgives
    obtain ⟨others, hrest, hgives⟩ := hbind hgives
    cases hpure hgives
    exact .cons hitem (ih hrest)

theorem eq_ok_of_mem_toOption {outcome : Except Error α} {result : α}
    (hmem : result ∈ outcome.toOption.toList) : outcome = .ok result := by
  cases outcome with
  | error error => cases hmem
  | ok made => rw [List.mem_singleton.1 hmem]

theorem exists_of_bind_eq_ok {first : Except Error α}
    {next : α → Except Error β} {result : β} (hok : first >>= next = .ok result) :
    ∃ value, first = .ok value ∧ next value = .ok result := by
  cases first with
  | error error => cases hok
  | ok value => exact ⟨value, rfl, hok⟩

/-- Outcomes for the elements of a list, taken together, are those for each of them. -/
theorem forall₂_of_mapM_eq_ok {outcome : α → Except Error β} {items : List α}
    {results : List β} (hok : items.mapM outcome = .ok results) :
    List.Forall₂ (fun item result => outcome item = .ok result) items results :=
  @forall₂_of_mapM _ _ (Except Error) _ _ (fun outcome result => outcome = .ok result)
    Except.ok.inj exists_of_bind_eq_ok _ _ _ hok

/-- Where every element has an outcome, they are taken together. -/
theorem mapM_eq_ok_of_forall₂ {outcome : α → Except Error β} {items : List α} {results : List β}
    (hitems : List.Forall₂ (fun item result => outcome item = .ok result) items results) :
    items.mapM outcome = .ok results := by
  induction hitems with
  | nil => rfl
  | cons hitem _ ih =>
    rw [List.mapM_cons, hitem, ih]
    rfl

/-! ## Failures -/

theorem eq_error_or_of_bind_eq_error {first : Except Error α} {next : α → Except Error β}
    {error : Error} (herror : first >>= next = .error error) :
    first = .error error ∨ ∃ value, first = .ok value ∧ next value = .error error := by
  cases first with
  | error other =>
    cases herror
    exact .inl rfl
  | ok value => exact .inr ⟨value, rfl, herror⟩

/-- Outcomes for the elements of a list, taken together, fail with the first that fails. -/
theorem mapM_eq_error_of_first {outcome : α → Except Error β} {first rest : List α} {item : α}
    {error : Error} (hfirst : ∀ other ∈ first, ∃ result, outcome other = .ok result)
    (hitem : outcome item = .error error) :
    (first ++ item :: rest).mapM outcome = .error error := by
  induction first with
  | nil =>
    rw [List.nil_append, List.mapM_cons, hitem]
    rfl
  | cons head others ih =>
    obtain ⟨⟨result, hhead⟩, hothers⟩ := List.forall_mem_cons.1 hfirst
    rw [List.cons_append, List.mapM_cons, hhead]
    show (_ : Except Error (List β)) >>= _ = _
    rw [ih hothers]
    rfl

/-- Outcomes for the elements of a list, taken together, fail just as the first of them does that
fails. -/
theorem mapM_eq_error_iff {outcome : α → Except Error β} {items : List α} {error : Error} :
    items.mapM outcome = .error error ↔
      ∃ first item rest, items = first ++ item :: rest ∧
        (∀ other ∈ first, ∃ result, outcome other = .ok result) ∧ outcome item = .error error := by
  constructor
  · intro herror
    induction items with
    | nil => cases herror
    | cons item rest ih =>
      rw [List.mapM_cons] at herror
      rcases eq_error_or_of_bind_eq_error herror with hitem | ⟨result, hitem, herror⟩
      · exact ⟨[], item, rest, rfl, fun _ hother => absurd hother List.not_mem_nil, hitem⟩
      · rcases eq_error_or_of_bind_eq_error herror with hrest | ⟨_, _, herror⟩
        · obtain ⟨first, other, last, rfl, hfirst, hother⟩ := ih hrest
          exact ⟨item :: first, other, last, rfl,
            List.forall_mem_cons.2 ⟨⟨result, hitem⟩, hfirst⟩, hother⟩
        · cases herror
  · rintro ⟨first, item, rest, rfl, hfirst, hitem⟩
    exact mapM_eq_error_of_first hfirst hitem

theorem exists_of_mapM_eq_error {outcome : α → Except Error β} {items : List α} {error : Error}
    (herror : items.mapM outcome = .error error) : ∃ item ∈ items, outcome item = .error error := by
  obtain ⟨first, item, rest, rfl, _, hitem⟩ := mapM_eq_error_iff.1 herror
  exact ⟨item, by simp, hitem⟩

end FramePlan
