/-!
Computations that may fail: what it means that one of them succeeded, alone, one after another, or
on each item of a list.
-/

namespace SqlComposer

variable {ε α β γ : Type} {first : Except ε α}

theorem bind_eq_ok {next : α → Except ε β} {result : β} :
    first >>= next = .ok result ↔ ∃ value, first = .ok value ∧ next value = .ok result := by
  cases first with
  | error fault => simp [bind, Except.bind]
  | ok value => simp [bind, Except.bind]

theorem bind_eq_error {next : α → Except ε β} {fault : ε} :
    first >>= next = .error fault ↔
      first = .error fault ∨ ∃ value, first = .ok value ∧ next value = .error fault := by
  cases first with
  | error fault => simp [bind, Except.bind]
  | ok value => simp [bind, Except.bind]

theorem map_eq_ok {change : α → β} {result : β} :
    first.map change = .ok result ↔ ∃ value, first = .ok value ∧ change value = result := by
  cases first with
  | error fault => simp [Except.map]
  | ok value => simp [Except.map]

theorem mapError_error {δ : Type} (change : ε → δ) (fault : ε) :
    (Except.error fault : Except ε α).mapError change = .error (change fault) :=
  rfl

theorem mapError_ok {δ : Type} (change : ε → δ) (value : α) :
    (Except.ok value : Except ε α).mapError change = .ok value :=
  rfl

theorem mapError_eq_ok {δ : Type} {change : ε → δ} {value : α} :
    first.mapError change = .ok value ↔ first = .ok value := by
  cases first with
  | error fault => simp [mapError_error]
  | ok value => simp [mapError_ok]

theorem mapM_cons_eq_ok {γ : Type} {make : γ → Except ε β} {item : γ} {items : List γ}
    {results : List β} :
    (item :: items).mapM make = .ok results ↔
      ∃ result others, make item = .ok result ∧ items.mapM make = .ok others ∧
        results = result :: others := by
  rw [List.mapM_cons, bind_eq_ok]
  constructor
  · rintro ⟨result, made, rest⟩
    obtain ⟨others, madeOthers, all⟩ := bind_eq_ok.mp rest
    exact ⟨result, others, made, madeOthers, (Except.ok.inj all).symm⟩
  · rintro ⟨result, others, made, madeOthers, rfl⟩
    exact ⟨result, made, bind_eq_ok.mpr ⟨others, madeOthers, rfl⟩⟩

theorem mapM_map_eq (make : γ → Except ε α) (change : α → β) (items : List γ) :
    items.mapM (fun item => (make item).map change) = (items.mapM make).map (List.map change) := by
  induction items with
  | nil => rfl
  | cons item items ih =>
      rw [List.mapM_cons, List.mapM_cons, ih]
      cases make item with
      | error fault => rfl
      | ok result =>
          cases items.mapM make with
          | error fault => rfl
          | ok results => rfl

theorem bind_map_eq (first : Except ε γ) (next : γ → Except ε α) (change : α → β) :
    (first >>= fun value => (next value).map change) = (first >>= next).map change := by
  cases first with
  | error fault => rfl
  | ok value => rfl

end SqlComposer
