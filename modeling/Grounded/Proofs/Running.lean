import Grounded.Error

/-!
# Running actions

Actions that can fail and change a state run one after the other: the next starts in the state that the
last one left, and nothing follows a failure. `Yields` is for actions of any kind. It says that whatever
the action does, its result has a property.
-/

namespace Grounded

/-! ## Results of any action -/

section Yields

variable {m : Type → Type} [Monad m] {α β : Type}

/-- Whatever the action does, its result has the property. -/
def Yields (P : α → Prop) (x : m α) : Prop := ∃ y : m {a // P a}, Subtype.val <$> y = x

variable [LawfulMonad m]

theorem yields_pure {P : α → Prop} {a : α} (h : P a) : Yields P (pure a : m α) :=
  ⟨pure ⟨a, h⟩, map_pure ..⟩

theorem yields_true (x : m α) : Yields (fun _ => True) x := by
  refine ⟨(⟨·, trivial⟩) <$> x, ?_⟩
  rw [← comp_map]
  exact id_map x

theorem Yields.bind {P : α → Prop} {Q : β → Prop} {x : m α} {f : α → m β} (hx : Yields P x)
    (hf : ∀ a, P a → Yields Q (f a)) : Yields Q (x >>= f) := by
  obtain ⟨y, rfl⟩ := hx
  refine ⟨y >>= fun a => (hf a.1 a.2).choose, ?_⟩
  rw [map_bind, bind_map_left]
  refine bind_congr ?_
  intro a
  exact (hf a.1 a.2).choose_spec

/-- If each of several actions yields such a result, so do all of them together. -/
theorem yields_mapM {γ : Type} {P : β → Prop} {f : γ → m β} (hf : ∀ c, Yields P (f c))
    (cs : List γ) : Yields (∀ b ∈ ·, P b) (cs.mapM f) := by
  induction cs with
  | nil =>
      rw [List.mapM_nil]
      exact yields_pure (fun b hb => absurd hb List.not_mem_nil)
  | cons c cs ih =>
      rw [List.mapM_cons]
      refine (hf c).bind ?_
      intro b hb
      refine ih.bind ?_
      intro bs hbs
      exact yields_pure (List.forall_mem_cons.mpr ⟨hb, hbs⟩)

end Yields

theorem Yields.of_id {α : Type} {P : α → Prop} {x : Id α} (h : Yields P x) : P x.run := by
  obtain ⟨y, rfl⟩ := h
  exact y.run.2

theorem Yields.of_run {σ α : Type} {P : α → Prop} {x : StateM σ α} (h : Yields P x) {s s' : σ}
    {a : α} (hx : x.run s = (a, s')) : P a := by
  obtain ⟨y, rfl⟩ := h
  have hval : (Subtype.val <$> y).run s = ((y.run s).1.val, (y.run s).2) := rfl
  rw [hval] at hx
  rw [← (Prod.mk.inj hx).1]
  exact (y.run s).1.2

/-! ## Failing actions with a state -/

theorem mapError_ok {ε ε' α : Type} (f : ε → ε') (a : α) :
    (Except.ok a : Except ε α).mapError f = .ok a := rfl

section Run

variable {σ α β : Type}

/-- What was done stays done when a later step fails. -/
theorem run_bind (x : ExceptT Error (StateM σ) α) (k : α → ExceptT Error (StateM σ) β) (s : σ) :
    (x >>= k).run.run s = match x.run.run s with
      | (.error e, s') => (.error e, s')
      | (.ok a, s') => (k a).run.run s' := by
  have h : (x >>= k).run.run s = match x.run.run s with
    | (r, s') => (ExceptT.bindCont k r).run s' := rfl
  rw [h]
  cases x.run.run s with
  | mk r s' =>
      cases r with
      | error e => rfl
      | ok a => rfl

/-- What went well went well step by step. -/
theorem of_run_bind {x : ExceptT Error (StateM σ) α} {k : α → ExceptT Error (StateM σ) β}
    {s s' : σ} {b : β} (h : (x >>= k).run.run s = (.ok b, s')) :
    ∃ a s₁, x.run.run s = (.ok a, s₁) ∧ (k a).run.run s₁ = (.ok b, s') := by
  rw [run_bind] at h
  cases hx : x.run.run s with
  | mk r s₁ =>
      rw [hx] at h
      cases r with
      | error e => cases h
      | ok a => exact ⟨a, s₁, rfl, h⟩

end Run

end Grounded
