import Mathlib.Data.List.Forall2

namespace FederationConfig

variable {ε ε' α β : Type}

theorem mapError_ok (f : ε → ε') (a : α) : (Except.ok a).mapError f = .ok a :=
  rfl

theorem mapError_error (f : ε → ε') (cause : ε) :
    (Except.error cause : Except ε α).mapError f = .error (f cause) :=
  rfl

theorem mapError_eq_ok {outcome : Except ε α} {f : ε → ε'} {a : α} :
    outcome.mapError f = .ok a ↔ outcome = .ok a := by
  cases outcome <;> simp [mapError_ok, mapError_error]

theorem mapError_eq_error {outcome : Except ε α} {f : ε → ε'} {error : ε'} :
    outcome.mapError f = .error error ↔ ∃ cause, outcome = .error cause ∧ f cause = error := by
  cases outcome <;> simp [mapError_ok, mapError_error]

theorem eq_ok_of_toOption {outcome : Except ε α} {a : α} (given : outcome.toOption = some a) :
    outcome = .ok a := by
  cases outcome with
  | error error => cases given
  | ok found => exact congrArg Except.ok (Option.some.inj given)

theorem toOption_congr {outcome other : Except ε α}
    (same : ∀ a, outcome = .ok a ↔ other = .ok a) : outcome.toOption = other.toOption := by
  cases outcome with
  | ok a => rw [(same a).mp rfl]
  | error cause =>
      cases other with
      | error other => rfl
      | ok a => exact nomatch (same a).mpr rfl

theorem map_eq_ok {outcome : Except ε α} {f : α → β} {b : β} :
    outcome.map f = .ok b ↔ ∃ a, outcome = .ok a ∧ f a = b := by
  cases outcome <;> simp [Except.map]

theorem bind_eq_ok {outcome : Except ε α} {f : α → Except ε β} {b : β} :
    outcome >>= f = .ok b ↔ ∃ a, outcome = .ok a ∧ f a = .ok b := by
  cases outcome <;> simp [bind, Except.bind]

theorem bind_eq_error {outcome : Except ε α} {f : α → Except ε β} {error : ε} :
    outcome >>= f = .error error ↔
      outcome = .error error ∨ ∃ a, outcome = .ok a ∧ f a = .error error := by
  cases outcome <;> simp [bind, Except.bind]

theorem mapM_eq_ok {f : α → Except ε β} {as : List α} {bs : List β} :
    as.mapM f = .ok bs ↔ List.Forall₂ (fun a b => f a = .ok b) as bs := by
  induction as generalizing bs with
  | nil =>
      rw [List.mapM_nil, List.forall₂_nil_left_iff]
      constructor
      · intro given
        cases given
        rfl
      · intro none
        rw [none]
        rfl
  | cons a as ih =>
      simp only [List.mapM_cons, bind_eq_ok, ih, List.forall₂_cons_left_iff]
      constructor
      · rintro ⟨b, first, bs, rest, same⟩
        cases same
        exact ⟨b, bs, first, rest, rfl⟩
      · rintro ⟨b, bs, first, rest, rfl⟩
        exact ⟨b, first, bs, rest, rfl⟩

theorem exists_mapM_eq_ok {f : α → Except ε β} {as : List α} :
    (∃ bs, as.mapM f = .ok bs) ↔ ∀ a ∈ as, ∃ b, f a = .ok b := by
  induction as with
  | nil => exact ⟨fun _ => List.forall_mem_nil _, fun _ => ⟨[], rfl⟩⟩
  | cons a as ih =>
      simp only [mapM_eq_ok] at ih ⊢
      rw [List.forall_mem_cons, ← ih]
      constructor
      · rintro ⟨_, each⟩
        cases each with
        | cons first rest => exact ⟨⟨_, first⟩, _, rest⟩
      · rintro ⟨⟨b, first⟩, bs, rest⟩
        exact ⟨b :: bs, .cons first rest⟩

theorem getElem?_of_mapM {f : α → Except ε β} {as : List α} {bs : List β}
    (given : as.mapM f = .ok bs) (index : Nat) (b : β) :
    bs[index]? = some b ↔ ∃ a, as[index]? = some a ∧ f a = .ok b := by
  have each := mapM_eq_ok.mp given
  clear given
  induction each generalizing index with
  | nil => simp
  | cons first rest ih =>
      cases index with
      | zero => simp [first]
      | succ index => exact ih index

theorem mapM_set {f : α → Except ε β} {as : List α} {bs : List β} (given : as.mapM f = .ok bs)
    {index : Nat} {a : α} {b : β} (there : bs[index]? = some b) {change : β → β}
    (image : f a = .ok (change b)) :
    (as.set index a).mapM f = .ok (bs.modify index change) := by
  have each := mapM_eq_ok.mp given
  clear given
  rw [mapM_eq_ok]
  induction each generalizing index with
  | nil => cases there
  | cons first rest ih =>
      cases index with
      | zero =>
          cases there
          exact .cons image rest
      | succ index => exact .cons first (ih there)

theorem mapM_congr_item {f : α → Except ε β} {a other : α}
    (same : ∀ b, f a = .ok b ↔ f other = .ok b) (front back : List α) (bs : List β) :
    (front ++ a :: back).mapM f = .ok bs ↔ (front ++ other :: back).mapM f = .ok bs := by
  induction front generalizing bs with
  | nil => simp only [List.nil_append, List.mapM_cons, bind_eq_ok, same]
  | cons first front ih => simp only [List.cons_append, List.mapM_cons, bind_eq_ok, ih]

/-- A run ends with the error of the first item that gives one. -/
theorem mapM_eq_error {f : α → Except ε β} {as : List α} {error : ε} :
    as.mapM f = .error error ↔
      ∃ front a back, as = front ++ a :: back ∧ (∀ earlier ∈ front, ∃ b, f earlier = .ok b) ∧
        f a = .error error := by
  induction as with
  | nil =>
      constructor
      · intro failed
        cases failed
      · rintro ⟨front, a, back, parts, _⟩
        cases front <;> cases parts
  | cons first as ih =>
      rw [List.mapM_cons, bind_eq_error]
      constructor
      · rintro (failed | ⟨b, given, failed⟩)
        · exact ⟨[], first, as, rfl, List.forall_mem_nil _, failed⟩
        · rcases bind_eq_error.mp failed with failed | ⟨_, _, failed⟩
          · obtain ⟨front, a, back, rfl, passed, failed⟩ := ih.mp failed
            exact ⟨first :: front, a, back, rfl,
              List.forall_mem_cons.mpr ⟨⟨b, given⟩, passed⟩, failed⟩
          · cases failed
      · rintro ⟨front, a, back, parts, passed, failed⟩
        cases front with
        | nil =>
            cases parts
            exact .inl failed
        | cons head front =>
            cases parts
            obtain ⟨⟨b, given⟩, passed⟩ := List.forall_mem_cons.mp passed
            have rest := ih.mpr ⟨front, a, back, rfl, passed, failed⟩
            exact .inr ⟨b, given, bind_eq_error.mpr (.inl rest)⟩

theorem forall_mem_of_mapM {f : α → Except ε β} {P : β → Prop}
    (each : ∀ a b, f a = .ok b → P b) {as : List α} {bs : List β} (given : as.mapM f = .ok bs) :
    ∀ b ∈ bs, P b := by
  induction as generalizing bs with
  | nil =>
      cases given
      exact fun b member => nomatch member
  | cons a as ih =>
      rw [List.mapM_cons, bind_eq_ok] at given
      obtain ⟨b, first, given⟩ := given
      obtain ⟨later, rest, same⟩ := bind_eq_ok.mp given
      cases same
      exact List.forall_mem_cons.mpr ⟨each a b first, ih rest⟩

theorem of_foldlM {step : β → α → Except ε β} {P : β → Prop}
    (keeps : ∀ before a after, P before → step before a = .ok after → P after)
    {as : List α} {start result : β} (initial : P start)
    (given : as.foldlM step start = .ok result) : P result := by
  induction as generalizing start with
  | nil =>
      cases given
      exact initial
  | cons a as ih =>
      rw [List.foldlM_cons, bind_eq_ok] at given
      obtain ⟨between, first, rest⟩ := given
      exact ih (keeps start a between initial first) rest

end FederationConfig
