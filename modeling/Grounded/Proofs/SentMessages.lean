import Grounded.Proofs.AnswerRules
import Grounded.Proofs.TemplateText

/-!
# Messages to the generator

What the generator gets is put together of three parts: the rules, the recent turns of the history, and the
question with its context. The history comes from the caller, who may write anything into it. So it is cut
to the window first, and what is left of it loses its system messages; the only system message is the first
one, and it is the configured one.
-/

namespace Grounded

namespace Engine

section Composition

variable {m : Type → Type} {e : Engine m}

/--
What a conversation for the generator is made of: the rules, those of the last turns that are no system
messages, and the question with one labelled block for every result.
-/
structure Composed (e : Engine m) (results : List Passage) (question : String)
    (history sent : List ChatMessage) : Prop where
  parts : ∃ older recent last, history = older ++ recent ∧
    recent.length = min e.limits.historyWindow history.length ∧
    sent = ⟨.system, e.prompts.rag.system⟩ ::
      (recent.filter (·.role != .system) ++ [⟨.user, last⟩]) ∧
    e.prompts.Fills e.prompts.rag.user
      [("context", "\n\n---\n\n".intercalate
          (results.map fun r => "[Source: " ++ r.label ++ "]\n" ++ r.chunk.text)),
        ("question", question)] last
  oneSystem : sent.filter (·.role == .system) = [⟨.system, e.prompts.rag.system⟩]
  size : sent.length ≤ e.limits.historyWindow + 2

/-- The history is the turns before the window and those in it. -/
theorem exists_window (e : Engine m) (history : List ChatMessage) :
    ∃ older recent, history = older ++ recent ∧
      recent.length = min e.limits.historyWindow history.length ∧
      e.recentTurns history = recent.filter (·.role != .system) := by
  refine ⟨history.take (history.length - e.limits.historyWindow), _,
    (List.take_append_drop _ history).symm, ?_, rfl⟩
  rw [List.length_drop]
  omega

/-- No turn that a caller supplies is sent as a system message. -/
theorem filter_recentTurns (e : Engine m) (history : List ChatMessage) :
    (e.recentTurns history).filter (·.role == .system) = [] := by
  rw [recentTurns, List.filter_filter, List.filter_eq_nil_iff]
  intro turn _ hboth
  rw [Bool.and_eq_true, beq_iff_eq, bne_iff_ne] at hboth
  exact hboth.2 hboth.1

/-- **Whatever the history and the results are, the conversation is made of its three parts.** -/
theorem composed_messages (e : Engine m) (results : List Passage) (question : String)
    (history : List ChatMessage) :
    e.Composed results question history (e.messages results question history) := by
  obtain ⟨older, recent, hhistory, hlength, hrecent⟩ := e.exists_window history
  have hfills := e.prompts.fills_render e.prompts.rag.user (questionVariables results question)
  have hmessages : e.messages results question history = ⟨.system, e.prompts.rag.system⟩ ::
      (e.recentTurns history ++
        [⟨.user, e.prompts.render e.prompts.rag.user (questionVariables results question)⟩]) :=
    rfl
  refine ⟨⟨older, recent, _, hhistory, hlength, ?_, hfills⟩, ?_, ?_⟩
  · rw [hmessages, hrecent]
  · rw [hmessages, List.filter_cons_of_pos (by rfl), List.filter_append, filter_recentTurns]
    rfl
  · have hfew : (e.recentTurns history).length ≤ e.limits.historyWindow := by
      rw [hrecent]
      have hfilter := List.length_filter_le (·.role != .system) recent
      omega
    rw [hmessages, List.length_cons, List.length_append, List.length_singleton]
    omega

end Composition

variable {σ : Type} {e : Engine (StateM σ)} {question : String} {history : List ChatMessage} {s s' : σ}

/-- What is sent to the generator rests on what a search finds. -/
theorem Resolves.sent {outcome : Outcome} {events : List Event}
    (h : e.Resolves question history s outcome events s') {sent : List ChatMessage}
    {bounds : GenerationBounds} {answer : Except Error String}
    (hsent : .generated sent bounds answer ∈ events) :
    ∃ results, results ≠ [] ∧ e.FoundBySearch question s results ∧
      sent = e.messages results question history := by
  cases h with
  | refused | unconfigured | unindexed => cases hsent
  | embeddingFailed | nothingFound => cases List.mem_singleton.mp hsent
  | generationFailed ready embeds found | answered ready embeds found =>
      rcases List.mem_pair.mp hsent with hembedded | hgenerated
      · cases hembedded
      · cases hgenerated
        exact ⟨_, found, ⟨_, ⟨_, embeds⟩, fun _ _ hanswer => run_search hanswer⟩, rfl⟩

/--
**Only the configured rules speak as the system.** Whatever the history, the question and the results are,
a conversation for the generator begins with the configured rules, goes on with the turns of the window that
are no system messages, unchanged and in order, and ends with the question and its context; it has no other
system message and at most two messages more than the window. What an answer sends to the generator is such
a conversation, over the passages that a search for the question finds.
-/
theorem sent_composed (e : Engine (StateM σ)) (question : String) (history : List ChatMessage) (s : σ) :
    (∀ results, e.Composed results question history (e.messages results question history)) ∧
    ∃ reply passages events s',
      Records (e.answerWithSources question history) (e.recorded.answerWithSources question history)
        s (reply, passages) events s' ∧
      ∀ sent bounds answer, .generated sent bounds answer ∈ events →
        ∃ results, results ≠ [] ∧ e.FoundBySearch question s results ∧
          e.Composed results question history sent := by
  refine ⟨fun results => e.composed_messages results question history, ?_⟩
  obtain ⟨outcome, events, s', hrecords, hresolves⟩ := e.exists_resolves question history s
  refine ⟨_, _, events, s', records_answerWithSources hrecords, ?_⟩
  intro sent bounds answer hsent
  obtain ⟨results, hne, hfound, rfl⟩ := hresolves.sent hsent
  exact ⟨results, hne, hfound, e.composed_messages results question history⟩

end Engine

end Grounded
