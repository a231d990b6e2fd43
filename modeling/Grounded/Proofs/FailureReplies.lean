import Grounded.Proofs.AnswerRules
import Grounded.Proofs.TextSearch

/-!
# Replies to failures

When a backend fails, all that the reply takes from the error is whether it tells of too many requests. That
is read off the text of the error, which has a heading for the kind of error before what is told in detail.
The words that are looked for are in no heading, and none of them begins at the end of one
(`clears_heading`), so it is the detail alone that decides.
-/

namespace Grounded

namespace Error

/-- What the text of an error begins with, by its kind. -/
def heading : Error → String
  | config _ => "Configuration error: "
  | ingest _ => "Ingestion error: "
  | embedding _ => "Embedding generation failed: "
  | generation _ => "Generation failed: "
  | backend _ => "Backend API error: "
  | indexMissing _ => "Index not found: "
  | indexCorrupt _ => "Index is corrupt: "
  | file _ => "IO error: "
  | json _ => "JSON error: "
  | toml _ => "TOML parse error: "
  | http _ => "HTTP error: "
  | invalidInput _ => "Invalid input: "

/-- The message that an error carries. -/
def detail : Error → String
  | config m | ingest m | embedding m | generation m | backend m | indexMissing m | indexCorrupt m
  | json m | toml m | http m | invalidInput m => m
  | file cause => cause.message

theorem message_eq (e : Error) : e.message = e.heading ++ e.detail := by
  cases e <;> rfl

/-- No heading holds one of the words, nor does one of them begin in it. -/
theorem clears_heading (e : Error) :
    Text.clears "rate".toList (e.heading.toList.flatMap Text.lowerChar) = true ∧
      Text.clears "429".toList e.heading.toList = true := by
  cases e
  all_goals
    dsimp only [heading]
    decide +kernel

/-- **Only the message decides** whether an error tells of too many requests. -/
theorem rateLimited_iff (e : Error) : e.rateLimited = true ↔
    "rate".toList <:+: e.detail.toList.flatMap Text.lowerChar ∨ "429".toList <:+: e.detail.toList := by
  obtain ⟨hrate, hstatus⟩ := e.clears_heading
  rw [rateLimited, tellsRateLimit, message_eq, String.toList_append, List.flatMap_append,
    Text.includes_append_of_clears hrate, Text.includes_append_of_clears hstatus, Bool.or_eq_true,
    Text.includes_iff_infix, Text.includes_iff_infix]

end Error

namespace Engine

variable {σ : Type} {e : Engine (StateM σ)} {question : String} {history : List ChatMessage} {s s' : σ}

/-- A backend fails on the way to the reply, and this is the reply with its passages. -/
def FailsWith (e : Engine (StateM σ)) (question : String) (history : List ChatMessage) (s : σ)
    (cause : Error) (reply : String) (passages : List Passage) : Prop :=
  ∃ events s', Records (e.answerWithSources question history)
    (e.recorded.answerWithSources question history) s (reply, passages) events s' ∧
    cause ∈ events.filterMap Event.failure?

/-- A backend that fails decides how the question ends. -/
theorem Resolves.failed {outcome : Outcome} {events : List Event}
    (h : e.Resolves question history s outcome events s') {cause : Error}
    (hcause : cause ∈ events.filterMap Event.failure?) :
    outcome = .embeddingFailed cause ∨ outcome = .generationFailed cause := by
  cases h with
  | refused | unconfigured | unindexed | nothingFound | answered => cases hcause
  | embeddingFailed =>
      cases List.mem_singleton.mp hcause
      exact Or.inl rfl
  | generationFailed =>
      cases List.mem_singleton.mp hcause
      exact Or.inr rfl

/-- The reply to a failure is one of two texts, by the class of the error, and it comes without passages. -/
theorem FailsWith.reply_eq {cause : Error} {reply : String} {passages : List Passage}
    (h : e.FailsWith question history s cause reply passages) :
    reply = Outcome.failureReply e.prompts cause ∧ passages = [] := by
  obtain ⟨events, s', hrecords, hcause⟩ := h
  obtain ⟨outcome, events', s'', hresolve, hresolves⟩ := e.exists_resolves question history s
  obtain ⟨hresult, hevents, -⟩ := hrecords.unique (records_answerWithSources hresolve)
  obtain ⟨rfl, rfl⟩ := Prod.mk.inj hresult
  rw [hevents] at hcause
  rcases hresolves.failed hcause with rfl | rfl
  · exact ⟨rfl, rfl⟩
  · exact ⟨rfl, rfl⟩

/--
**What a backend says in an error does not reach the user.** Two runs in which a backend fails, be it the
embedder or the generator, have the same reply if their errors are of the same class, and no passages. The
class depends on nothing but the message that an error carries: an error tells of too many requests exactly
if "rate" is in the lower case of its message, or "429" in the message.
-/
theorem failures_alike (e : Engine (StateM σ)) :
    (∀ question₁ history₁ s₁ cause₁ reply₁ passages₁ question₂ history₂ s₂ cause₂ reply₂ passages₂,
      e.FailsWith question₁ history₁ s₁ cause₁ reply₁ passages₁ →
      e.FailsWith question₂ history₂ s₂ cause₂ reply₂ passages₂ →
      (cause₁.rateLimited = cause₂.rateLimited → reply₁ = reply₂) ∧ passages₁ = [] ∧ passages₂ = []) ∧
    ∀ error : Error, error.rateLimited = true ↔
      "rate".toList <:+: error.detail.toList.flatMap Text.lowerChar ∨
        "429".toList <:+: error.detail.toList := by
  refine ⟨?_, Error.rateLimited_iff⟩
  intro _ _ _ cause₁ _ _ _ _ _ cause₂ _ _ first second
  obtain ⟨rfl, rfl⟩ := first.reply_eq
  obtain ⟨rfl, rfl⟩ := second.reply_eq
  refine ⟨?_, rfl, rfl⟩
  intro hclass
  rw [Outcome.failureReply, Outcome.failureReply, hclass]

/-- Backends of which the embedder fails in one state of the outside, and the generator always. -/
def overrun : Backends (StateM Bool) where
  embedder :=
    { model := "embedder"
      embed := fun _ => ExceptT.mk fun down =>
        (if down then .error (.backend "status 429 from 10.0.0.7") else .ok [], down)
      embedBatch := fun _ => throw (.backend "status 429 from 10.0.0.7") }
  generator :=
    { model := "generator"
      generate := fun _ _ => throw (.generation "Rate limit exceeded") }

/-- An engine with these backends, over an index in which every question finds the one passage. -/
def faulty : Engine (StateM Bool) where
  backends := some overrun
  index := some ⟨[⟨"one", "a", "", .docs⟩], ⟨1, 0, #[], (Nat.mul_zero 1).symm⟩, rfl⟩
  retrieval := { topK := 1, minScore := ⟨0xBF800000⟩ }

/-- There is a passage for the generator to fail on. -/
theorem passages_faulty : faulty.passages [] ≠ [] := by
  have hrank : rank [⟨⟨"one", "a", "", .docs⟩, .negativeZero⟩]
      = [⟨⟨"one", "a", "", .docs⟩, .negativeZero⟩] :=
    List.mergeSort_singleton _
  have hpassages : faulty.passages [] = ((rank [⟨⟨"one", "a", "", .docs⟩, .negativeZero⟩]).take 1).filter
      (·.score.gt ⟨0xBF800000⟩) :=
    rfl
  rw [hpassages, hrank]
  exact List.cons_ne_nil _ _

/-- Too many requests to the embedder and too many to the generator are told alike. -/
theorem failures_alike_faulty : ∃ reply₁ reply₂,
    faulty.FailsWith "What?" [] true (.backend "status 429 from 10.0.0.7") reply₁ [] ∧
    faulty.FailsWith "What?" [] false (.generation "Rate limit exceeded") reply₂ [] ∧
    reply₁ = reply₂ := by
  have hready : faulty.refusal? "What?" [] = none := rfl
  have hplain := resolve_of_ready hready rfl (Option.some_ne_none _)
  have hnoted := resolve_of_ready (e := faulty.recorded) (b := overrun.recorded) hready rfl
    (Option.some_ne_none _)
  have hembedder : faulty.FailsWith "What?" [] true (.backend "status 429 from 10.0.0.7")
      (Outcome.failureReply faulty.prompts (.backend "status 429 from 10.0.0.7")) [] := by
    have hembed : (overrun.embedder.embed "What?").run.run true
        = (.error (.backend "status 429 from 10.0.0.7"), true) :=
      rfl
    have hrecords : Records (faulty.resolve "What?" []) (faulty.recorded.resolve "What?" []) true
        (.embeddingFailed (.backend "status 429 from 10.0.0.7"))
        [.embedded "What?" (.error (.backend "status 429 from 10.0.0.7"))] true := by
      rw [hplain, hnoted]
      exact (records_noting (.embedded "What?") hembed).bind_silent (records_pure _ true)
    exact ⟨_, true, records_answerWithSources hrecords, List.mem_singleton_self _⟩
  have hgenerator : faulty.FailsWith "What?" [] false (.generation "Rate limit exceeded")
      (Outcome.failureReply faulty.prompts (.generation "Rate limit exceeded")) [] := by
    have hembed : (overrun.embedder.embed "What?").run.run false = (.ok [], false) := rfl
    have hrecords : Records (faulty.resolve "What?" []) (faulty.recorded.resolve "What?" []) false
        (.generationFailed (.generation "Rate limit exceeded"))
        ([.embedded "What?" (.ok [])] ++ [.generated (faulty.messages (faulty.passages []) "What?" [])
          faulty.bounds (.error (.generation "Rate limit exceeded"))]) false := by
      rw [hplain, hnoted]
      refine (records_noting (.embedded "What?") hembed).bind ?_
      rw [afterEmbedding_of_found passages_faulty,
        afterEmbedding_of_found (e := faulty.recorded) passages_faulty]
      exact records_generate rfl rfl rfl
    exact ⟨_, false, records_answerWithSources hrecords, List.mem_singleton_self _⟩
  have hclass : (Error.backend "status 429 from 10.0.0.7").rateLimited
      = (Error.generation "Rate limit exceeded").rateLimited := by
    decide +kernel
  have halike := (failures_alike faulty).1 _ _ _ _ _ _ _ _ _ _ _ _ hembedder hgenerator
  exact ⟨_, _, hembedder, hgenerator, halike.1 hclass⟩

end Engine

end Grounded
