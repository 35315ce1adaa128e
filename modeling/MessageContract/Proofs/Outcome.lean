import Mathlib.Tactic

/-!
How computations that may fail are taken apart: one that succeeds has succeeded
at each of its steps.
-/

namespace MessageContract.Outcome

variable {ε α β : Type}

theorem bind_eq_ok {x : Except ε α} {next : α → Except ε β} {b : β} :
    (x >>= next) = .ok b ↔ ∃ a, x = .ok a ∧ next a = .ok b := by
  cases x with
  | error e => simp [bind, Except.bind]
  | ok a => simp [bind, Except.bind]

@[simp] theorem ok_bind (a : α) (next : α → Except ε β) :
    ((Except.ok a : Except ε α) >>= next) = next a := rfl

@[simp] theorem error_bind (e : ε) (next : α → Except ε β) :
    ((Except.error e : Except ε α) >>= next) = .error e := rfl

theorem map_eq_ok {f : α → β} {x : Except ε α} {b : β} :
    f <$> x = .ok b ↔ ∃ a, x = .ok a ∧ f a = b := by
  cases x with
  | error e => simp
  | ok a => simp

/-- A computation comes to a result if each of its steps does. -/
theorem bind_isOk {x : Except ε α} {next : α → Except ε β} :
    (∃ b, (x >>= next) = .ok b) ↔ ∃ a, x = .ok a ∧ ∃ b, next a = .ok b := by
  simp only [bind_eq_ok]
  constructor
  · rintro ⟨b, a, ha, hb⟩
    exact ⟨a, ha, b, hb⟩
  · rintro ⟨a, ha, b, hb⟩
    exact ⟨b, a, ha, hb⟩

theorem map_isOk {f : α → β} {x : Except ε α} : (∃ b, f <$> x = .ok b) ↔ ∃ a, x = .ok a := by
  cases x <;> simp

theorem pure_isOk (a : α) : ∃ b, (pure a : Except ε α) = .ok b := ⟨a, rfl⟩

theorem exists_of_isOk {x : Except ε α} (h : x.isOk = true) : ∃ a, x = .ok a := by
  cases x with
  | error e => cases h
  | ok a => exact ⟨a, rfl⟩

theorem toOption_eq_some {x : Except ε α} {a : α} : x.toOption = some a ↔ x = .ok a := by
  cases x <;> simp [Except.toOption]

theorem toOption_bind (x : Except ε α) (next : α → Except ε β) :
    (x >>= next).toOption = x.toOption.bind fun a => (next a).toOption := by
  cases x <;> rfl

/-- A list is mapped if each of its items is. -/
theorem mapM_eq_some_iff {f : α → Option β} {items : List α} {results : List β} :
    items.mapM f = some results ↔ List.Forall₂ (fun a b => f a = some b) items results := by
  induction items generalizing results with
  | nil => simp [eq_comm]
  | cons a rest ih =>
      rw [List.mapM_cons, List.forall₂_cons_left_iff]
      constructor
      · intro hread
        obtain ⟨b, hb, hread⟩ := Option.bind_eq_some_iff.mp hread
        obtain ⟨others, hothers, hread⟩ := Option.bind_eq_some_iff.mp hread
        exact ⟨b, others, hb, ih.mp hothers, (Option.some.inj hread).symm⟩
      · rintro ⟨b, others, hb, hothers, rfl⟩
        rw [hb, ih.mpr hothers]
        rfl

/-- In related lists whatever is among the items is related to something. -/
theorem exists_of_forall₂ {R : α → β → Prop} {items : List α} {results : List β}
    (hall : List.Forall₂ R items results) : ∀ a ∈ items, ∃ b ∈ results, R a b := by
  induction hall with
  | nil => simp
  | cons hfirst _ ih =>
      intro a ha
      rcases List.mem_cons.mp ha with rfl | hrest
      · exact ⟨_, List.mem_cons_self, hfirst⟩
      · obtain ⟨b, hb, hab⟩ := ih a hrest
        exact ⟨b, List.mem_cons_of_mem _ hb, hab⟩

/-- Related lists are mapped to the same list if what is related is. -/
theorem map_eq_map_of_forall₂ {γ : Type} {R : α → β → Prop} {items : List α} {results : List β}
    (hall : List.Forall₂ R items results) {f : α → γ} {g : β → γ}
    (hsame : ∀ a ∈ items, ∀ b, R a b → g b = f a) : results.map g = items.map f := by
  induction hall with
  | nil => rfl
  | cons hfirst _ ih =>
      obtain ⟨hhead, hrest⟩ := List.forall_mem_cons.mp hsame
      rw [List.map_cons, List.map_cons, hhead _ hfirst, ih hrest]

/-- Whatever is among the items has its result. -/
theorem exists_of_mapM {f : α → Option β} {items : List α} {results : List β}
    (hread : items.mapM f = some results) : ∀ a ∈ items, ∃ b ∈ results, f a = some b :=
  exists_of_forall₂ (mapM_eq_some_iff.mp hread)

/-- Whatever is among the results has come from an item. -/
theorem mem_of_mapM {f : α → Option β} {items : List α} {results : List β}
    (hread : items.mapM f = some results) : ∀ b ∈ results, ∃ a ∈ items, f a = some b :=
  exists_of_forall₂ (mapM_eq_some_iff.mp hread).flip

theorem getElem?_mapM {f : α → Option β} {items : List α} {results : List β}
    (hread : items.mapM f = some results) (i : Nat) : results[i]? = items[i]?.bind f := by
  have hall := mapM_eq_some_iff.mp hread
  clear hread
  induction hall generalizing i with
  | nil => rfl
  | cons hhead hrest ih =>
      cases i with
      | zero => exact hhead.symm
      | succ i => exact ih i

theorem mapM_isSome {f : α → Option β} {items : List α} :
    (items.mapM f).isSome ↔ ∀ a ∈ items, (f a).isSome := by
  induction items with
  | nil => simp
  | cons a rest ih =>
      rw [List.mapM_cons, List.forall_mem_cons, ← ih]
      cases f a <;> cases rest.mapM f <;> simp

/-- A list is mapped to what another function makes of it if each item is. -/
theorem mapM_eq_some_map {f : α → Option β} {g : α → β} {items : List α} :
    items.mapM f = some (items.map g) ↔ ∀ a ∈ items, f a = some (g a) := by
  rw [mapM_eq_some_iff, List.forall₂_map_right_iff, List.forall₂_same]

/-- The results may be worked on one by one. -/
theorem map_mapM {γ : Type} (f : α → Option β) (g : β → γ) (items : List α) :
    (items.mapM f).map (List.map g) = items.mapM fun a => (f a).map g := by
  induction items with
  | nil => rfl
  | cons a rest ih =>
      rw [List.mapM_cons, List.mapM_cons, ← ih]
      cases f a <;> cases rest.mapM f <;> rfl

/-! What also changes a state runs through its steps until one fails. -/

variable {σ : Type}

theorem run_bind (x : ExceptT ε (StateM σ) α) (next : α → ExceptT ε (StateM σ) β) (s : σ) :
    (x >>= next) s =
      match x s with
      | (.ok a, after) => next a after
      | (.error e, after) => (.error e, after) := by
  change (match x s with | (outcome, after) => ExceptT.bindCont next outcome after) = _
  rcases x s with ⟨_ | _, after⟩ <;> rfl

theorem run_get (s : σ) : (get : ExceptT ε (StateM σ) σ) s = (.ok s, s) := rfl

theorem run_modify (f : σ → σ) (s : σ) :
    (modify f : ExceptT ε (StateM σ) PUnit) s = (.ok (), f s) := rfl

theorem run_lift (x : Except ε α) (s : σ) :
    (liftM x : ExceptT ε (StateM σ) α) s = (x, s) := rfl

theorem run_tryCatch (x : ExceptT ε (StateM σ) α) (handle : ε → ExceptT ε (StateM σ) α) (s : σ) :
    (tryCatch x handle) s =
      match x s with
      | (.ok a, after) => (.ok a, after)
      | (.error e, after) => handle e after := by
  change (match x s with
    | (outcome, after) => (match outcome with
      | .ok a => pure (.ok a)
      | .error e => handle e : StateM σ (Except ε α)) after) = _
  rcases x s with ⟨_ | _, after⟩ <;> rfl

end MessageContract.Outcome
