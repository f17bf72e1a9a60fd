import Intercept.Fault

/-!
# Intercept.Proofs.Fault -- computations that end well

What ends without a fault is taken apart into its steps, each of which ended without one.
-/

namespace Intercept

variable {ε α β : Type}

theorem bind_eq_ok {x : Except ε α} {f : α → Except ε β} {b : β} :
    x >>= f = .ok b ↔ ∃ a, x = .ok a ∧ f a = .ok b := by
  cases x with
  | error e =>
    constructor
    · intro h
      cases h
    · rintro ⟨a, h, -⟩
      cases h
  | ok a =>
    constructor
    · intro h
      exact ⟨a, rfl, h⟩
    · rintro ⟨a', h, hb⟩
      cases h
      exact hb

theorem map_eq_ok {x : Except ε α} {f : α → β} {b : β} :
    x.map f = .ok b ↔ ∃ a, x = .ok a ∧ f a = b := by
  cases x with
  | error e =>
    constructor
    · intro h
      cases h
    · rintro ⟨a, h, -⟩
      cases h
  | ok a =>
    constructor
    · intro h
      exact ⟨a, rfl, Except.ok.inj h⟩
    · rintro ⟨a', h, rfl⟩
      cases h
      rfl

/-- What is made of a list one by one without a fault is made of its elements. -/
theorem exists_of_mem_mapM {f : α → Except ε β} {as : List α} {bs : List β}
    (h : as.mapM f = .ok bs) {b : β} (hb : b ∈ bs) : ∃ a ∈ as, f a = .ok b := by
  induction as generalizing bs with
  | nil =>
    cases h
    cases hb
  | cons a as ih =>
    rw [List.mapM_cons] at h
    obtain ⟨first, hfirst, h⟩ := bind_eq_ok.mp h
    obtain ⟨rest, hrest, h⟩ := bind_eq_ok.mp h
    cases h
    rcases List.mem_cons.mp hb with rfl | hb
    · exact ⟨a, List.mem_cons_self, hfirst⟩
    · obtain ⟨a', ha', hmade⟩ := ih hrest hb
      exact ⟨a', List.mem_cons_of_mem a ha', hmade⟩

/-- Where it is known what a step needs and what it makes then, so it is for all steps. -/
theorem mapM_eq_ok {f : α → Except ε β} {P : α → Prop} {g : α → β}
    (h : ∀ a b, f a = .ok b ↔ P a ∧ b = g a) {as : List α} {bs : List β} :
    as.mapM f = .ok bs ↔ (∀ a ∈ as, P a) ∧ bs = as.map g := by
  induction as generalizing bs with
  | nil =>
    rw [List.mapM_nil, List.map_nil]
    refine ⟨fun hbs => ⟨fun _ ha => absurd ha List.not_mem_nil, (Except.ok.inj hbs).symm⟩, ?_⟩
    rintro ⟨-, rfl⟩
    rfl
  | cons a as ih =>
    rw [List.mapM_cons, bind_eq_ok, List.forall_mem_cons, List.map_cons]
    constructor
    · rintro ⟨b, hb, hrest⟩
      obtain ⟨bs', hbs', hpure⟩ := bind_eq_ok.mp hrest
      obtain ⟨ha, rfl⟩ := (h a b).mp hb
      obtain ⟨has, rfl⟩ := ih.mp hbs'
      exact ⟨⟨ha, has⟩, (Except.ok.inj hpure).symm⟩
    · rintro ⟨⟨ha, has⟩, rfl⟩
      exact ⟨g a, (h a _).mpr ⟨ha, rfl⟩, bind_eq_ok.mpr ⟨_, ih.mpr ⟨has, rfl⟩, rfl⟩⟩

/-- Steps that all end well make the list of what they make. -/
theorem mapM_of_pure {m : Type → Type} [Monad m] [LawfulMonad m] {f : α → m β} {g : α → β}
    {as : List α} (h : ∀ a ∈ as, f a = pure (g a)) : as.mapM f = pure (as.map g) := by
  induction as with
  | nil => rw [List.mapM_nil, List.map_nil]
  | cons a as ih =>
    rw [List.mapM_cons, h a List.mem_cons_self, pure_bind,
      ih fun b hb => h b (List.mem_cons_of_mem a hb), pure_bind, List.map_cons]

/-- Steps that all end well make a list of things of which holds what holds of all that they make. -/
theorem exists_mapM_eq_ok {f : α → Except ε β} {P : β → Prop} {as : List α}
    (h : ∀ a ∈ as, ∃ b, f a = .ok b ∧ P b) : ∃ bs, as.mapM f = .ok bs ∧ ∀ b ∈ bs, P b := by
  induction as with
  | nil => exact ⟨[], rfl, fun _ hb => absurd hb List.not_mem_nil⟩
  | cons a as ih =>
    obtain ⟨b, hb, hP⟩ := h a List.mem_cons_self
    obtain ⟨bs, hbs, hall⟩ := ih fun a' ha' => h a' (List.mem_cons_of_mem a ha')
    refine ⟨b :: bs, ?_, List.forall_mem_cons.mpr ⟨hP, hall⟩⟩
    rw [List.mapM_cons]
    exact bind_eq_ok.mpr ⟨b, hb, bind_eq_ok.mpr ⟨bs, hbs, rfl⟩⟩

/-- In the list of what is made of a list one by one, a search finds what is made of the element
that a search in the list itself finds, as long as both ask the same. -/
theorem map_find?_mapM {γ : Type} {f : α → Except ε β} {asks : α → Bool} {asks' : β → Bool}
    {k : α → γ} {k' : β → γ}
    (hmade : ∀ {a b}, f a = .ok b → asks' b = asks a ∧ (asks a = true → k' b = k a))
    {as : List α} {bs : List β} (h : as.mapM f = .ok bs) :
    (bs.find? asks').map k' = (as.find? asks).map k := by
  induction as generalizing bs with
  | nil =>
    cases h
    rfl
  | cons a as ih =>
    rw [List.mapM_cons] at h
    obtain ⟨b, hb, h⟩ := bind_eq_ok.mp h
    obtain ⟨rest, hrest, h⟩ := bind_eq_ok.mp h
    cases h
    obtain ⟨hasks, hk⟩ := hmade hb
    rw [List.find?_cons, List.find?_cons, hasks]
    cases ha : asks a with
    | true => exact congrArg some (hk ha)
    | false => exact ih hrest

/-- A property that no step loses holds at the end of all steps. -/
theorem foldlM_induction {P : β → Prop} {step : β → α → Except ε β} {as : List α} {b b' : β}
    (hstep : ∀ {b b' : β} {a : α}, P b → step b a = .ok b' → P b') (hb : P b)
    (h : as.foldlM step b = .ok b') : P b' := by
  induction as generalizing b with
  | nil =>
    cases h
    exact hb
  | cons a as ih =>
    rw [List.foldlM_cons] at h
    obtain ⟨next, hnext, h⟩ := bind_eq_ok.mp h
    exact ih (hstep hb hnext) h

end Intercept
