import Grounded.Chat.Engine
import Grounded.Proofs.Running

/-!
# Runs with a record

What a program asks of its backends, and the time that it lets pass, is seen from outside. An `Event` is
one such call with the answer to it. A recorded backend writes each call down, after the one it stands
for has answered; it gives the same answer and leaves the same state. So the record of a run tells which
calls were made, in which order, and what came back. `Records` says of an action that it does the same
with recorded backends as with the plain ones, and which events it adds.
-/

namespace Grounded

/-- A call of something outside of the program, with the answer to it. -/
inductive Event where
  | embedded (text : String) (answer : Except Error (List Single))
  | embeddedBatch (texts : List String) (answer : Except Error (List (List Single)))
  | generated (messages : List ChatMessage) (bounds : GenerationBounds)
      (answer : Except Error String)
  | paused (millis : Nat)

namespace Event

/-- Whether the embedder was called. -/
def isEmbedding : Event → Bool
  | embedded .. | embeddedBatch .. => true
  | _ => false

/-- Whether the generator was called. -/
def isGeneration : Event → Bool
  | generated .. => true
  | _ => false

/-- The error of a call that failed. -/
def failure? : Event → Option Error
  | embedded _ (.error cause) | embeddedBatch _ (.error cause) | generated _ _ (.error cause) =>
    some cause
  | _ => none

end Event

section Recording

variable {σ α β : Type}

/-- The action with an event written down for its result. The oldest event comes first. -/
def noting (event : α → Event) (x : StateM σ α) : StateM (σ × List Event) α := fun (s, events) =>
  match x.run s with
  | (a, s') => (a, (s', events ++ [event a]))

/-- The call with an event written down for its answer, be it a failure. -/
def notingCall (event : Except Error α → Event) (x : ExceptT Error (StateM σ) α) :
    ExceptT Error (StateM (σ × List Event)) α :=
  ExceptT.mk (noting event x.run)

/-- The action, of which nothing is written down. -/
def silently (x : StateM σ α) : StateM (σ × List Event) α := fun (s, events) =>
  match x.run s with
  | (a, s') => (a, (s', events))

theorem silently_pure (a : α) : silently (pure a : StateM σ α) = pure a := rfl

theorem silently_bind (x : StateM σ α) (k : α → StateM σ β) :
    silently (x >>= k) = silently x >>= fun a => silently (k a) := rfl

/-- Several actions of which nothing is written down. -/
theorem silently_mapM {γ : Type} (f : γ → StateM σ β) (cs : List γ) :
    silently (cs.mapM f) = cs.mapM fun c => silently (f c) := by
  induction cs with
  | nil => rw [List.mapM_nil, List.mapM_nil, silently_pure]
  | cons c cs ih =>
      rw [List.mapM_cons, List.mapM_cons, silently_bind]
      refine bind_congr fun b => ?_
      rw [silently_bind, ih]
      rfl

/-- The embedder that writes its calls down. -/
def Embedder.recorded (e : Embedder (StateM σ)) : Embedder (StateM (σ × List Event)) where
  model := e.model
  embed text := notingCall (.embedded text) (e.embed text)
  embedBatch texts := notingCall (.embeddedBatch texts) (e.embedBatch texts)

/-- The generator that writes its calls down. -/
def Generator.recorded (g : Generator (StateM σ)) : Generator (StateM (σ × List Event)) where
  model := g.model
  generate messages bounds := notingCall (.generated messages bounds) (g.generate messages bounds)

/-- The backends that write their calls down. -/
def Backends.recorded (b : Backends (StateM σ)) : Backends (StateM (σ × List Event)) :=
  ⟨b.embedder.recorded, b.generator.recorded⟩

/-- The pauses with each one written down. -/
def recordedPause (pause : Nat → StateM σ Unit) (millis : Nat) : StateM (σ × List Event) Unit :=
  noting (fun _ => .paused millis) (pause millis)

/-! ## What an action adds to the record -/

/--
From a state, the action has a result and leaves another state; done with a record, it has the same
result, leaves the same state, and adds just these events.
-/
structure Records (x : StateM σ α) (recorded : StateM (σ × List Event) α) (s : σ) (a : α)
    (events : List Event) (s' : σ) : Prop where
  plain : x.run s = (a, s')
  noted : ∀ before, recorded.run (s, before) = (a, (s', before ++ events))

theorem records_pure (a : α) (s : σ) : Records (pure a) (pure a) s a [] s where
  plain := rfl
  noted := fun before => by rw [List.append_nil]; rfl

theorem records_noting (event : α → Event) {x : StateM σ α} {s s' : σ} {a : α}
    (h : x.run s = (a, s')) : Records x (noting event x) s a [event a] s' where
  plain := h
  noted := by
    intro before
    show (match x.run s with | (a, s') => (a, (s', before ++ [event a]))) = _
    rw [h]

theorem records_silently {x : StateM σ α} {s s' : σ} {a : α} (h : x.run s = (a, s')) :
    Records x (silently x) s a [] s' where
  plain := h
  noted := by
    intro before
    show (match x.run s with | (a, s') => (a, (s', before))) = _
    rw [h, List.append_nil]

/-- An action does one thing in a state. -/
theorem Records.unique {x : StateM σ α} {xr : StateM (σ × List Event) α} {s s₁ s₂ : σ} {a b : α}
    {first second : List Event} (h₁ : Records x xr s a first s₁) (h₂ : Records x xr s b second s₂) :
    a = b ∧ first = second ∧ s₁ = s₂ := by
  have hrun := (h₁.noted []).symm.trans (h₂.noted [])
  rw [List.nil_append, List.nil_append] at hrun
  obtain ⟨hresult, hleft⟩ := Prod.mk.inj hrun
  obtain ⟨hstate, hevents⟩ := Prod.mk.inj hleft
  exact ⟨hresult, hevents, hstate⟩

/-- What one action does after another adds its events after those of the other. -/
theorem Records.bind {x : StateM σ α} {xr : StateM (σ × List Event) α} {k : α → StateM σ β}
    {kr : α → StateM (σ × List Event) β} {s s₁ s' : σ} {a : α} {b : β} {first others : List Event}
    (hx : Records x xr s a first s₁) (hk : Records (k a) (kr a) s₁ b others s') :
    Records (x >>= k) (xr >>= kr) s b (first ++ others) s' where
  plain := by rw [StateT.run_bind, hx.plain]; exact hk.plain
  noted := by
    intro before
    rw [StateT.run_bind, hx.noted, ← List.append_assoc]
    exact hk.noted (before ++ first)

/-- What adds no events may come last. -/
theorem Records.bind_silent {x : StateM σ α} {xr : StateM (σ × List Event) α} {k : α → StateM σ β}
    {kr : α → StateM (σ × List Event) β} {s s₁ s' : σ} {a : α} {b : β} {events : List Event}
    (hx : Records x xr s a events s₁) (hk : Records (k a) (kr a) s₁ b [] s') :
    Records (x >>= k) (xr >>= kr) s b events s' := by
  rw [← List.append_nil events]
  exact hx.bind hk

/-- An action that cannot fail goes well among those that can. -/
theorem Records.lift {x : StateM σ α} {xr : StateM (σ × List Event) α} {s s' : σ} {a : α}
    {events : List Event} (h : Records x xr s a events s') :
    Records (liftM x : ExceptT Error (StateM σ) α).run
      (liftM xr : ExceptT Error (StateM (σ × List Event)) α).run s (.ok a) events s' where
  plain := by
    show (Except.ok (x.run s).1, (x.run s).2) = _
    rw [h.plain]
  noted := by
    intro before
    show (Except.ok (xr.run (s, before)).1, (xr.run (s, before)).2) = _
    rw [h.noted]

/-- Nothing follows a failure. -/
theorem Records.bind_error {x : ExceptT Error (StateM σ) α}
    {xr : ExceptT Error (StateM (σ × List Event)) α} {k : α → ExceptT Error (StateM σ) β}
    {kr : α → ExceptT Error (StateM (σ × List Event)) β} {s s' : σ} {cause : Error}
    {events : List Event} (hx : Records x.run xr.run s (.error cause) events s') :
    Records (x >>= k).run (xr >>= kr).run s (.error cause) events s' where
  plain := by rw [run_bind, hx.plain]
  noted := by
    intro before
    rw [run_bind, hx.noted]

/-- What comes after an action that went well adds its events after those of the action. -/
theorem Records.bind_ok {x : ExceptT Error (StateM σ) α}
    {xr : ExceptT Error (StateM (σ × List Event)) α} {k : α → ExceptT Error (StateM σ) β}
    {kr : α → ExceptT Error (StateM (σ × List Event)) β} {s s₁ s' : σ} {a : α}
    {r : Except Error β} {first others : List Event} (hx : Records x.run xr.run s (.ok a) first s₁)
    (hk : Records (k a).run (kr a).run s₁ r others s') :
    Records (x >>= k).run (xr >>= kr).run s r (first ++ others) s' where
  plain := by rw [run_bind, hx.plain]; exact hk.plain
  noted := by
    intro before
    rw [run_bind, hx.noted, ← List.append_assoc]
    exact hk.noted (before ++ first)

/-- What adds no events may come last. -/
theorem Records.bind_ok_silent {x : ExceptT Error (StateM σ) α}
    {xr : ExceptT Error (StateM (σ × List Event)) α} {k : α → ExceptT Error (StateM σ) β}
    {kr : α → ExceptT Error (StateM (σ × List Event)) β} {s s₁ s' : σ} {a : α}
    {r : Except Error β} {events : List Event} (hx : Records x.run xr.run s (.ok a) events s₁)
    (hk : Records (k a).run (kr a).run s₁ r [] s') :
    Records (x >>= k).run (xr >>= kr).run s r events s' := by
  rw [← List.append_nil events]
  exact hx.bind_ok hk

end Recording

end Grounded
