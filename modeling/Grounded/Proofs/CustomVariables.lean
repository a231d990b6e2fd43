import Grounded.Proofs.SentMessages

/-!
# Customized variables

Customized variables are meant for all prompts. The last turn for the generator and the reply to a question
that is too long are filled in with them; the system message and the other replies are used as they are
written (`Prompts.fixed`). So what the variables are meant for holds where no placeholder in one of these
other texts has a value, as with the built-in ones, and it fails where a customized one of them has such a
placeholder.
-/

namespace Grounded

namespace Prompts

/-- The texts that are used as they are written. -/
def fixed (p : Prompts) : List String :=
  [p.rag.system, p.replies.emptyQuestion, p.replies.sessionLimit, p.replies.notConfigured,
    p.replies.indexUnavailable, p.replies.noResults, p.replies.rateLimited, p.replies.failure]

/-- No placeholder in a text that is used as it is written has a value. -/
def Settled (p : Prompts) : Prop := ∀ template ∈ p.fixed, Template.Settled p.bindings template

/-- A text that is used as it is written is filled in if none of its placeholders has a value. -/
theorem fills_fixed {p : Prompts} (h : p.Settled) {template : String} (hfixed : template ∈ p.fixed) :
    p.Fills template [] template := by
  have hfills := p.fills_render template []
  rw [render, List.nil_append, Template.render_of_settled (h template hfixed)] at hfills
  exact hfills

/-- The built-in texts have no placeholders, whatever the other two texts and the variables are. -/
theorem settled_builtIn (bindings : Variables) (user tooLong : String) :
    Settled { rag := { user }, replies := { tooLong }, bindings } := by
  have hplain : ∀ template ∈ fixed {}, '\x7b' ∉ template.toList := by
    simp only [fixed, List.forall_mem_cons, String.toList_append, List.mem_append, not_or]
    and_intros
    all_goals first
      | exact Template.not_mem_ofList (by decide)
      | exact fun _ h => absurd h List.not_mem_nil
  have hfixed : fixed { rag := { user }, replies := { tooLong }, bindings } = fixed {} := rfl
  intro template hmem
  rw [hfixed] at hmem
  exact Template.settled_of_not_mem (hplain template hmem)

end Prompts

/--
The template that a reply comes from, with the variables that are supplied for it. A text of the generator
comes from none.
-/
def Outcome.template? (p : Prompts) : Outcome → Option (String × Variables)
  | emptyQuestion => some (p.replies.emptyQuestion, [])
  | tooLong limit length =>
    some (p.replies.tooLong, [("limit", toString limit), ("length", toString length)])
  | sessionLimit => some (p.replies.sessionLimit, [])
  | notConfigured => some (p.replies.notConfigured, [])
  | indexUnavailable => some (p.replies.indexUnavailable, [])
  | embeddingFailed cause | generationFailed cause =>
    some (if cause.rateLimited then p.replies.rateLimited else p.replies.failure, [])
  | noResults => some (p.replies.noResults, [])
  | answered .. => none

/-- A reply that comes from a template is used as it is written, or it is the one to a long question. -/
theorem Outcome.reply_of_template? {p : Prompts} {outcome : Outcome} {template : String}
    {vars : Variables} (h : outcome.template? p = some (template, vars)) :
    template ∈ p.fixed ∧ vars = [] ∧ outcome.reply p = template ∨
      outcome.reply p = p.render template vars := by
  have hfailure : ∀ cause : Error,
      (if cause.rateLimited then p.replies.rateLimited else p.replies.failure) ∈ p.fixed := by
    intro cause
    split
    · simp [Prompts.fixed]
    · simp [Prompts.fixed]
  cases outcome with
  | tooLong limit length =>
      cases h
      exact Or.inr rfl
  | embeddingFailed cause | generationFailed cause =>
      cases h
      exact Or.inl ⟨hfailure cause, rfl, rfl⟩
  | emptyQuestion | sessionLimit | notConfigured | indexUnavailable | noResults =>
      cases h
      exact Or.inl ⟨by simp [Prompts.fixed], rfl, rfl⟩
  | answered => cases h

namespace Engine

variable {σ : Type}

/-- Every text that the engine takes from a template for a question is the template filled in. -/
def FillsAll (e : Engine (StateM σ)) (question : String) (history : List ChatMessage) (s : σ) : Prop :=
  ∃ outcome events s',
    Records (e.resolve question history) (e.recorded.resolve question history) s outcome events s' ∧
    (∀ template vars, outcome.template? e.prompts = some (template, vars) →
      e.prompts.Fills template vars ((e.answer question history).run s).1) ∧
    ∀ sent bounds answer, .generated sent bounds answer ∈ events → ∃ results rules last,
      sent.head? = some ⟨.system, rules⟩ ∧ e.prompts.Fills e.prompts.rag.system [] rules ∧
      sent.getLast? = some ⟨.user, last⟩ ∧ e.prompts.Fills e.prompts.rag.user
        [("context", Passage.context results), ("question", question)] last

/--
**Customized variables are filled in wherever they are looked for.** If no placeholder with a customized
value stands in a text that is used as it is written, every reply that comes from a template, the first
message for the generator and the last one are their templates filled in: whatever the question, the
history and the answers of the backends are, no placeholder with a value is left in any of them.
-/
theorem fillsAll_of_settled {e : Engine (StateM σ)} (h : e.prompts.Settled) (question : String)
    (history : List ChatMessage) (s : σ) : e.FillsAll question history s := by
  obtain ⟨outcome, events, s', hrecords, hresolves⟩ := e.exists_resolves question history s
  refine ⟨outcome, events, s', hrecords, ?_, ?_⟩
  · intro template vars htemplate
    have hreply : ((e.answer question history).run s).1 = outcome.reply e.prompts :=
      congrArg Prod.fst (records_answer hrecords).plain
    rw [hreply]
    rcases Outcome.reply_of_template? htemplate with ⟨hfixed, rfl, hwritten⟩ | hrendered
    · rw [hwritten]
      exact Prompts.fills_fixed h hfixed
    · rw [hrendered]
      exact e.prompts.fills_render template vars
  · intro sent bounds answer hsent
    obtain ⟨results, -, -, rfl⟩ := hresolves.sent hsent
    have hrules : e.prompts.rag.system ∈ e.prompts.fixed := List.mem_cons_self
    exact ⟨results, _, _, rfl, Prompts.fills_fixed h hrules, List.getLast?_concat,
      e.prompts.fills_render e.prompts.rag.user _⟩

/-- An engine that names a product in both texts that are filled in; the others are the built-in ones. -/
def naming : Engine (StateM Unit) where
  prompts :=
    { rag := { user := "\x7b\x7bquestion\x7d\x7d (about \x7b\x7bproduct\x7d\x7d)\n\x7b\x7bcontext\x7d\x7d" }
      replies := { tooLong := "\x7b\x7bproduct\x7d\x7d reads \x7b\x7blimit\x7d\x7d characters." }
      bindings := [("product", "Lore")] }
  limits := { maxInputChars := 3 }

theorem fillsAll_naming : naming.prompts.Settled ∧ naming.FillsAll "What?" [] () :=
  ⟨Prompts.settled_builtIn _ _ _, fillsAll_of_settled (Prompts.settled_builtIn _ _ _) "What?" [] ()⟩

/-- An engine that names a product in its reply to a blank question. -/
def unfilled : Engine (StateM Unit) where
  prompts :=
    { replies := { emptyQuestion := "Ask about \x7b\x7bproduct\x7d\x7d." }
      bindings := [("product", "Lore")] }

/-- A placeholder in a text that is used as it is written reaches the user as it is written. -/
theorem not_fillsAll_unfilled : ¬ unfilled.FillsAll "" [] () := by
  rintro ⟨outcome, events, s', hrecords, hreply, -⟩
  have hblank : unfilled.refusal? "" [] = some .emptyQuestion := by decide
  have hplain := hrecords.plain
  rw [resolve_of_refusal hblank] at hplain
  have houtcome : Outcome.emptyQuestion = outcome := congrArg Prod.fst hplain
  subst houtcome
  have hwritten : ((unfilled.answer "" []).run ()).1 = "Ask about \x7b\x7bproduct\x7d\x7d." := by
    rw [(records_answer hrecords).plain]
    rfl
  have hfilled : unfilled.prompts.render unfilled.prompts.replies.emptyQuestion []
      = "Ask about Lore." := by
    decide +kernel
  have hrendered := (hreply _ _ rfl).rendered
  rw [hwritten, hfilled] at hrendered
  exact absurd hrendered (by decide)

end Engine

end Grounded
