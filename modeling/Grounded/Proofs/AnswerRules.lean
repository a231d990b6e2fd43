import Grounded.Proofs.Recording
import Grounded.Proofs.Trimming

/-!
# The rules of answering

An engine goes through a fixed list of rules and stops at the first one that matches. `Resolves` lists
all that can happen to a question, each way with the calls that it makes. `Rule` and `Matches` say the
same from outside: a rule is a condition on the engine, on the question with its history, and on what the
backends would answer. What is proved is that the first rule that matches decides over the reply, over
the passages, and over whether a backend is called at all.
-/

namespace Grounded

/-! ## What can happen to a question -/

namespace Engine

section Ways

variable {m : Type → Type} [Monad m]

/-- What is done with the answer of the embedder. -/
def afterEmbedding (e : Engine m) (b : Backends m) (question : String) (history : List ChatMessage) :
    Except Error (List Single) → m Outcome
  | .error cause => return .embeddingFailed cause
  | .ok query =>
    match e.passages query with
    | [] => return .noResults
    | found => e.generate b.generator found question history

/-- What is done with the answer of the generator. -/
def afterGeneration (passages : List Passage) : Except Error String → m Outcome
  | .ok text => return .answered text passages
  | .error cause => return .generationFailed cause

theorem generate_eq (e : Engine m) (generator : Generator m) (passages : List Passage)
    (question : String) (history : List ChatMessage) :
    e.generate generator passages question history
      = (generator.generate (e.messages passages question history) e.bounds).run
        >>= afterGeneration passages := by
  rw [generate]
  rfl

variable {e : Engine m} {question : String} {history : List ChatMessage}

theorem resolve_of_refusal {outcome : Outcome} (h : e.refusal? question history = some outcome) :
    e.resolve question history = pure outcome := by
  simp only [resolve, h]

theorem resolve_of_noBackends (h : e.refusal? question history = none) (hb : e.backends = none) :
    e.resolve question history = pure .notConfigured := by
  simp only [resolve, h, hb]

theorem resolve_of_noIndex {b : Backends m} (h : e.refusal? question history = none)
    (hb : e.backends = some b) (hi : e.index = none) :
    e.resolve question history = pure .indexUnavailable := by
  simp only [resolve, h, hb, hi]

theorem resolve_of_ready {b : Backends m} (h : e.refusal? question history = none)
    (hb : e.backends = some b) (hi : e.index ≠ none) : e.resolve question history
      = (b.embedder.embed question).run >>= e.afterEmbedding b question history := by
  obtain ⟨index, hindex⟩ := Option.ne_none_iff_exists'.mp hi
  simp only [resolve, h, hb, hindex]
  rfl

theorem afterEmbedding_of_nothing {b : Backends m} {query : List Single}
    (h : e.passages query = []) :
    e.afterEmbedding b question history (.ok query) = pure .noResults := by
  simp only [afterEmbedding, h]

theorem afterEmbedding_of_found {b : Backends m} {query : List Single}
    (h : e.passages query ≠ []) : e.afterEmbedding b question history (.ok query)
      = e.generate b.generator (e.passages query) question history := by
  rw [afterEmbedding]
  split
  · rename_i hnil
    exact absurd hnil h
  · rfl

end Ways

variable {σ : Type}

/-- The engine whose backends write their calls down. -/
def recorded (e : Engine (StateM σ)) : Engine (StateM (σ × List Event)) where
  backends := e.backends.map .recorded
  index := e.index
  prompts := e.prompts
  limits := e.limits
  retrieval := e.retrieval
  generation := e.generation

/-- The embedder answers a question that is asked in a state, and leaves another state. -/
def Embeds (e : Engine (StateM σ)) (question : String) (s : σ) (answer : Except Error (List Single))
    (s' : σ) : Prop :=
  ∃ b, e.backends = some b ∧ (b.embedder.embed question).run.run s = (answer, s')

/-- The generator answers from the passages for a query, and leaves another state. -/
def Generates (e : Engine (StateM σ)) (question : String) (history : List ChatMessage)
    (query : List Single) (s : σ) (answer : Except Error String) (s' : σ) : Prop :=
  ∃ b, e.backends = some b ∧
    (b.generator.generate (e.messages (e.passages query) question history) e.bounds).run.run s
      = (answer, s')

/-- Nothing speaks against asking the embedder. -/
structure Ready (e : Engine (StateM σ)) (question : String) (history : List ChatMessage) : Prop where
  accepted : e.refusal? question history = none
  backends : e.backends ≠ none
  index : e.index ≠ none

/-- All that can happen to a question: how it ends, the events, and the state then. -/
inductive Resolves (e : Engine (StateM σ)) (question : String) (history : List ChatMessage) (s : σ) :
    Outcome → List Event → σ → Prop
  | refused {outcome : Outcome} (reason : e.refusal? question history = some outcome) :
      Resolves e question history s outcome [] s
  | unconfigured (accepted : e.refusal? question history = none) (none : e.backends = none) :
      Resolves e question history s .notConfigured [] s
  | unindexed (accepted : e.refusal? question history = none) (backends : e.backends ≠ none)
      (none : e.index = none) : Resolves e question history s .indexUnavailable [] s
  | embeddingFailed {cause : Error} {s' : σ} (ready : e.Ready question history)
      (answer : e.Embeds question s (.error cause) s') :
      Resolves e question history s (.embeddingFailed cause) [.embedded question (.error cause)] s'
  | nothingFound {query : List Single} {s' : σ} (ready : e.Ready question history)
      (answer : e.Embeds question s (.ok query) s') (none : e.passages query = []) :
      Resolves e question history s .noResults [.embedded question (.ok query)] s'
  | generationFailed {query : List Single} {cause : Error} {s₁ s' : σ}
      (ready : e.Ready question history) (answer : e.Embeds question s (.ok query) s₁)
      (found : e.passages query ≠ [])
      (failure : e.Generates question history query s₁ (.error cause) s') :
      Resolves e question history s (.generationFailed cause)
        [.embedded question (.ok query),
          .generated (e.messages (e.passages query) question history) e.bounds (.error cause)] s'
  | answered {query : List Single} {text : String} {s₁ s' : σ} (ready : e.Ready question history)
      (answer : e.Embeds question s (.ok query) s₁) (found : e.passages query ≠ [])
      (success : e.Generates question history query s₁ (.ok text) s') :
      Resolves e question history s (.answered text (e.passages query))
        [.embedded question (.ok query),
          .generated (e.messages (e.passages query) question history) e.bounds (.ok text)] s'

/-- The generator is called once, with the passages, and its answer decides. -/
theorem records_generate {e : Engine (StateM σ)} {b : Backends (StateM σ)} {question : String}
    {history : List ChatMessage} {s s' : σ} {passages : List Passage} {answer : Except Error String}
    {outcome : Outcome}
    (h : (b.generator.generate (e.messages passages question history) e.bounds).run.run s
      = (answer, s'))
    (hplain : (afterGeneration passages answer : StateM σ Outcome) = pure outcome)
    (hnoted : (afterGeneration passages answer : StateM (σ × List Event) Outcome) = pure outcome) :
    Records (e.generate b.generator passages question history)
      (e.recorded.generate b.recorded.generator passages question history) s outcome
      [.generated (e.messages passages question history) e.bounds answer] s' := by
  rw [generate_eq, generate_eq]
  have hcall := records_noting (.generated (e.messages passages question history) e.bounds) h
  refine hcall.bind_silent ?_
  rw [hplain, hnoted]
  exact records_pure outcome s'

/-- What follows an embedding that went well. -/
theorem records_afterEmbedding {e : Engine (StateM σ)} {b : Backends (StateM σ)} {question : String}
    {history : List ChatMessage} {query : List Single} {s s₁ : σ} (ready : e.Ready question history)
    (hb : e.backends = some b)
    (hembed : (b.embedder.embed question).run.run s = (.ok query, s₁)) :
    ∃ outcome events s', Records (e.afterEmbedding b question history (.ok query))
      (e.recorded.afterEmbedding b.recorded question history (.ok query)) s₁ outcome events s' ∧
      e.Resolves question history s outcome ([.embedded question (.ok query)] ++ events) s' := by
  by_cases hfound : e.passages query = []
  · refine ⟨.noResults, [], s₁, ?_, .nothingFound ready ⟨b, hb, hembed⟩ hfound⟩
    rw [afterEmbedding_of_nothing hfound, afterEmbedding_of_nothing (e := e.recorded) hfound]
    exact records_pure _ s₁
  · rw [afterEmbedding_of_found hfound, afterEmbedding_of_found (e := e.recorded) hfound]
    cases hgen : (b.generator.generate (e.messages (e.passages query) question history)
        e.bounds).run.run s₁ with
    | mk answer s₂ =>
        cases answer with
        | error cause =>
            exact ⟨_, _, s₂, records_generate hgen rfl rfl,
              .generationFailed ready ⟨b, hb, hembed⟩ hfound ⟨b, hb, hgen⟩⟩
        | ok text =>
            exact ⟨_, _, s₂, records_generate hgen rfl rfl,
              .answered ready ⟨b, hb, hembed⟩ hfound ⟨b, hb, hgen⟩⟩

/-- **Whatever is asked, one of these ways is taken,** and the record shows the calls of this way. -/
theorem exists_resolves (e : Engine (StateM σ)) (question : String) (history : List ChatMessage)
    (s : σ) : ∃ outcome events s', Records (e.resolve question history)
      (e.recorded.resolve question history) s outcome events s' ∧
      e.Resolves question history s outcome events s' := by
  cases hr : e.refusal? question history with
  | some outcome =>
      have hrecorded : e.recorded.refusal? question history = some outcome := hr
      refine ⟨outcome, [], s, ?_, .refused hr⟩
      rw [resolve_of_refusal hr, resolve_of_refusal hrecorded]
      exact records_pure outcome s
  | none =>
      have hrecorded : e.recorded.refusal? question history = none := hr
      cases hb : e.backends with
      | none =>
          have hnone : e.recorded.backends = none := congrArg (Option.map Backends.recorded) hb
          refine ⟨.notConfigured, [], s, ?_, .unconfigured hr hb⟩
          rw [resolve_of_noBackends hr hb, resolve_of_noBackends hrecorded hnone]
          exact records_pure _ s
      | some b =>
          have hsome : e.recorded.backends = some b.recorded :=
            congrArg (Option.map Backends.recorded) hb
          have hbackends : e.backends ≠ none := fun h => nomatch hb.symm.trans h
          by_cases hi : e.index = none
          · refine ⟨.indexUnavailable, [], s, ?_, .unindexed hr hbackends hi⟩
            rw [resolve_of_noIndex hr hb hi, resolve_of_noIndex hrecorded hsome hi]
            exact records_pure _ s
          · have hready : e.Ready question history := ⟨hr, hbackends, hi⟩
            rw [resolve_of_ready hr hb hi, resolve_of_ready hrecorded hsome hi]
            cases hembed : (b.embedder.embed question).run.run s with
            | mk answer s₁ =>
                have hcall := records_noting (.embedded question) hembed
                cases answer with
                | error cause =>
                    exact ⟨_, _, s₁, hcall.bind_silent (records_pure _ s₁),
                      .embeddingFailed hready ⟨b, hb, hembed⟩⟩
                | ok query =>
                    obtain ⟨outcome, events, s', hrecords, hresolves⟩ :=
                      records_afterEmbedding hready hb hembed
                    exact ⟨outcome, _, s', hcall.bind hrecords, hresolves⟩

end Engine

/-! ## The rules -/

/-- The rules that a question can end by. -/
inductive Rule where
  | blank
  | tooLong
  | sessionOver
  | backendMissing
  | indexMissing
  | embeddingError
  | noPassage
  | generationError
  | generated
deriving DecidableEq, Repr

namespace Rule

/-- The rules in the order in which they are tried. -/
def all : List Rule :=
  [blank, tooLong, sessionOver, backendMissing, indexMissing, embeddingError, noPassage,
    generationError, generated]

/-- The rules that are tried before one. -/
def before (rule : Rule) : List Rule := all.takeWhile (· != rule)

/-- What comes before one element comes before another, if that one does not come before the first. -/
theorem mem_takeWhile_ne {rules : List Rule} {limit rule r : Rule}
    (h : rule ∉ rules.takeWhile (· != limit)) (hr : r ∈ rules.takeWhile (· != limit)) :
    r ∈ rules.takeWhile (· != rule) := by
  induction rules with
  | nil => cases hr
  | cons x rules ih =>
      by_cases hx : x = limit
      · rw [hx, List.takeWhile_cons_of_neg (by simp)] at hr
        cases hr
      · rw [List.takeWhile_cons_of_pos (by simpa using hx)] at h hr
        rw [List.mem_cons, not_or] at h
        obtain ⟨hne, hnot⟩ := h
        rw [List.takeWhile_cons_of_pos (by simpa using Ne.symm hne)]
        rcases List.mem_cons.mp hr with rfl | hmem
        · exact List.mem_cons_self
        · exact List.mem_cons_of_mem x (ih hnot hmem)

end Rule

/-- The rule that a question ends by. -/
def Outcome.rule : Outcome → Rule
  | emptyQuestion => .blank
  | tooLong .. => .tooLong
  | sessionLimit => .sessionOver
  | notConfigured => .backendMissing
  | indexUnavailable => .indexMissing
  | embeddingFailed _ => .embeddingError
  | noResults => .noPassage
  | generationFailed _ => .generationError
  | answered .. => .generated

namespace Engine

variable {σ : Type}

/-- Whether a rule matches a question that is asked in a state. -/
def Matches (e : Engine (StateM σ)) (question : String) (history : List ChatMessage) (s : σ) :
    Rule → Prop
  | .blank => ∀ c ∈ question.toList, Text.isBlank c = true
  | .tooLong => e.limits.maxInputChars < question.length
  | .sessionOver =>
    e.limits.maxQuestionsPerSession ≤ (history.filter (·.role == .assistant)).length
  | .backendMissing => e.backends = none
  | .indexMissing => e.index = none
  | .embeddingError => ∃ cause s₁, e.Embeds question s (.error cause) s₁
  | .noPassage => ∃ query s₁, e.Embeds question s (.ok query) s₁ ∧
    retrieve e.index query e.retrieval.topK e.retrieval.minScore = []
  | .generationError => ∃ query s₁ cause s₂, e.Embeds question s (.ok query) s₁ ∧
    e.Generates question history query s₁ (.error cause) s₂
  | .generated => ∃ query s₁ text s₂, e.Embeds question s (.ok query) s₁ ∧
    e.Generates question history query s₁ (.ok text) s₂

/-- The rule matches, and none that is tried before it. -/
structure First (e : Engine (StateM σ)) (question : String) (history : List ChatMessage) (s : σ)
    (rule : Rule) : Prop where
  holds : e.Matches question history s rule
  earlier : ∀ r ∈ rule.before, ¬ e.Matches question history s r

/-- A number of calls is one if no rule before a limit matches, and else none. -/
structure OnceUnless (e : Engine (StateM σ)) (question : String) (history : List ChatMessage) (s : σ)
    (limit : Rule) (calls : Nat) : Prop where
  once : (∀ r ∈ limit.before, ¬ e.Matches question history s r) → calls = 1
  never : (∃ r ∈ limit.before, e.Matches question history s r) → calls = 0

/-- The reply that a rule has ready; an error that it depends on is one that was recorded. -/
def Canned (e : Engine (StateM σ)) (question : String) (events : List Event) (reply : String) :
    Rule → Prop
  | .blank => reply = e.prompts.replies.emptyQuestion
  | .tooLong => reply = e.prompts.render e.prompts.replies.tooLong
      [("limit", toString e.limits.maxInputChars), ("length", toString question.length)]
  | .sessionOver => reply = e.prompts.replies.sessionLimit
  | .backendMissing => reply = e.prompts.replies.notConfigured
  | .indexMissing => reply = e.prompts.replies.indexUnavailable
  | .embeddingError => ∃ cause, .embedded question (.error cause) ∈ events ∧
      reply = if cause.rateLimited then e.prompts.replies.rateLimited else e.prompts.replies.failure
  | .noPassage => reply = e.prompts.replies.noResults
  | .generationError => ∃ messages bounds cause, .generated messages bounds (.error cause) ∈ events ∧
      reply = if cause.rateLimited then e.prompts.replies.rateLimited else e.prompts.replies.failure
  | .generated => False

/--
The question has a vector, and whenever it gets this vector, a search without bounds of its own finds
the passages.
-/
def FoundBySearch (e : Engine (StateM σ)) (question : String) (s : σ) (passages : List Passage) : Prop :=
  ∃ query, (∃ s₁, e.Embeds question s (.ok query) s₁) ∧
    ∀ s₀ s₁, e.Embeds question s₀ (.ok query) s₁ →
      (e.search question none none).run.run s₀ = (.ok passages, s₁)

variable {e : Engine (StateM σ)} {question : String} {history : List ChatMessage} {s s' : σ}

/-- The first rule that matches tells whether a rule before a limit does. -/
theorem First.onceUnless {rule : Rule} (h : e.First question history s rule) {limit : Rule}
    {calls : Nat} (hcalls : calls = if rule ∈ limit.before then 0 else 1) :
    e.OnceUnless question history s limit calls := by
  by_cases hmem : rule ∈ limit.before
  · rw [if_pos hmem] at hcalls
    exact ⟨fun hnone => absurd h.holds (hnone rule hmem), fun _ => hcalls⟩
  · rw [if_neg hmem] at hcalls
    refine ⟨fun _ => hcalls, ?_⟩
    rintro ⟨r, hr, hmatches⟩
    exact absurd hmatches (h.earlier r (Rule.mem_takeWhile_ne hmem hr))

/-- One more rule that does not match. -/
theorem not_matches_concat (rules : List Rule) {rule : Rule}
    (h : ∀ r ∈ rules, ¬ e.Matches question history s r) (hrule : ¬ e.Matches question history s rule) :
    ∀ r ∈ rules ++ [rule], ¬ e.Matches question history s r := by
  intro r hr
  rcases List.mem_append.mp hr with hold | hnew
  · exact h r hold
  · rw [List.mem_singleton.mp hnew]
    exact hrule

/-! ## The first rule decides -/

/-- A question that is not refused matches none of the first three rules. -/
theorem not_matches_of_accepted (h : e.refusal? question history = none) :
    ∀ r ∈ Rule.backendMissing.before, ¬ e.Matches question history s r := by
  rw [refusal?] at h
  split at h
  · cases h
  · rename_i hblank
    split at h
    · cases h
    · rename_i hlong
      split at h
      · cases h
      · rename_i hover
        rw [Text.trim_isEmpty_iff] at hblank
        rw [List.countP_eq_length_filter] at hover
        refine not_matches_concat [.blank, .tooLong] ?_ hover
        refine not_matches_concat [.blank] ?_ hlong
        exact List.forall_mem_singleton.mpr hblank

/-- A question is refused by the first of the three rules that look at nothing else. -/
theorem first_of_refusal {outcome : Outcome} (h : e.refusal? question history = some outcome) :
    e.First question history s outcome.rule ∧ outcome.rule ∈ Rule.backendMissing.before ∧
      e.Canned question [] (outcome.reply e.prompts) outcome.rule ∧ outcome.passages = [] := by
  rw [refusal?] at h
  split at h
  · rename_i hblank
    cases h
    rw [Text.trim_isEmpty_iff] at hblank
    exact ⟨⟨hblank, fun r hr => absurd hr List.not_mem_nil⟩, by decide, rfl, rfl⟩
  · rename_i hblank
    rw [Text.trim_isEmpty_iff] at hblank
    have hfirst : ∀ r ∈ [Rule.blank], ¬ e.Matches question history s r :=
      List.forall_mem_singleton.mpr hblank
    split at h
    · rename_i hlong
      cases h
      have hmem : Rule.tooLong ∈ Rule.backendMissing.before := by decide
      exact ⟨⟨hlong, hfirst⟩, hmem, rfl, rfl⟩
    · rename_i hlong
      split at h
      · rename_i hover
        cases h
        rw [List.countP_eq_length_filter] at hover
        exact ⟨⟨hover, not_matches_concat [.blank] hfirst hlong⟩, by decide, rfl, rfl⟩
      · cases h

/-- A question that may be asked matches none of the first five rules. -/
theorem Ready.not_matches (h : e.Ready question history) :
    ∀ r ∈ Rule.embeddingError.before, ¬ e.Matches question history s r := by
  refine not_matches_concat Rule.indexMissing.before ?_ h.index
  refine not_matches_concat Rule.backendMissing.before ?_ h.backends
  exact not_matches_of_accepted h.accepted

/-- The embedder gives one answer in a state. -/
theorem Embeds.unique {answer answer' : Except Error (List Single)} {s₁ s₂ : σ}
    (h : e.Embeds question s answer s₁) (h' : e.Embeds question s answer' s₂) :
    answer = answer' ∧ s₁ = s₂ := by
  obtain ⟨b, hb, hrun⟩ := h
  obtain ⟨b', hb', hrun'⟩ := h'
  cases hb.symm.trans hb'
  exact Prod.mk.inj (hrun.symm.trans hrun')

/-- The generator gives one answer in a state. -/
theorem Generates.unique {query : List Single} {answer answer' : Except Error String} {s₁ s₂ : σ}
    (h : e.Generates question history query s answer s₁)
    (h' : e.Generates question history query s answer' s₂) : answer = answer' ∧ s₁ = s₂ := by
  obtain ⟨b, hb, hrun⟩ := h
  obtain ⟨b', hb', hrun'⟩ := h'
  cases hb.symm.trans hb'
  exact Prod.mk.inj (hrun.symm.trans hrun')

/-- A question that was embedded matches neither the rule of a failure nor any before it. -/
theorem not_matches_of_embeds {query : List Single} (ready : e.Ready question history)
    (h : e.Embeds question s (.ok query) s') :
    ∀ r ∈ Rule.noPassage.before, ¬ e.Matches question history s r := by
  refine not_matches_concat Rule.embeddingError.before ready.not_matches ?_
  rintro ⟨cause, s₁, hfailed⟩
  cases (h.unique hfailed).1

/-- A question for which there are passages matches no rule before those of the generator. -/
theorem not_matches_of_found {query : List Single} (ready : e.Ready question history)
    (h : e.Embeds question s (.ok query) s') (found : e.passages query ≠ []) :
    ∀ r ∈ Rule.generationError.before, ¬ e.Matches question history s r := by
  refine not_matches_concat Rule.noPassage.before (not_matches_of_embeds ready h) ?_
  rintro ⟨other, s₁, hother, hnone⟩
  cases (h.unique hother).1
  exact found hnone

/-- **A question ends by the first rule that matches.** -/
theorem Resolves.first {outcome : Outcome} {events : List Event}
    (h : e.Resolves question history s outcome events s') :
    e.First question history s outcome.rule := by
  cases h with
  | refused reason => exact (first_of_refusal reason).1
  | unconfigured accepted none => exact ⟨none, not_matches_of_accepted accepted⟩
  | unindexed accepted backends none =>
      refine ⟨none, ?_⟩
      exact not_matches_concat Rule.backendMissing.before
        (not_matches_of_accepted accepted) backends
  | embeddingFailed ready answer => exact ⟨⟨_, _, answer⟩, ready.not_matches⟩
  | nothingFound ready answer none =>
      exact ⟨⟨_, _, answer, none⟩, not_matches_of_embeds ready answer⟩
  | generationFailed ready answer found failure =>
      exact ⟨⟨_, _, _, _, answer, failure⟩, not_matches_of_found ready answer found⟩
  | answered ready answer found success =>
      refine ⟨⟨_, _, _, _, answer, success⟩, ?_⟩
      refine not_matches_concat Rule.generationError.before
        (not_matches_of_found ready answer found) ?_
      rintro ⟨other, s₁, cause, s₂, hother, hfailed⟩
      obtain ⟨hquery, hstate⟩ := answer.unique hother
      cases hquery
      cases hstate
      cases (success.unique hfailed).1

/-- **The embedder is called once,** unless one of the first five rules decides. -/
theorem Resolves.embeddings {outcome : Outcome} {events : List Event}
    (h : e.Resolves question history s outcome events s') :
    events.countP (·.isEmbedding) = if outcome.rule ∈ Rule.embeddingError.before then 0 else 1 := by
  cases h with
  | refused reason =>
      have hmem : outcome.rule ∈ Rule.embeddingError.before :=
        Rule.mem_takeWhile_ne (by decide) (first_of_refusal (s := s) reason).2.1
      rw [if_pos hmem]
      rfl
  | unconfigured => rfl
  | unindexed => rfl
  | embeddingFailed => rfl
  | nothingFound => rfl
  | generationFailed => rfl
  | answered => rfl

/-- **The generator is called once,** unless one of the first five rules or of the next two decides. -/
theorem Resolves.generations {outcome : Outcome} {events : List Event}
    (h : e.Resolves question history s outcome events s') :
    events.countP (·.isGeneration) = if outcome.rule ∈ Rule.generationError.before then 0 else 1 := by
  cases h with
  | refused reason =>
      have hmem : outcome.rule ∈ Rule.generationError.before :=
        Rule.mem_takeWhile_ne (by decide) (first_of_refusal (s := s) reason).2.1
      rw [if_pos hmem]
      rfl
  | unconfigured => rfl
  | unindexed => rfl
  | embeddingFailed => rfl
  | nothingFound => rfl
  | generationFailed => rfl
  | answered => rfl

/-- **The reply of every rule but the last one is ready,** and no passage comes with it. -/
theorem Resolves.canned {outcome : Outcome} {events : List Event}
    (h : e.Resolves question history s outcome events s') (hrule : outcome.rule ≠ .generated) :
    e.Canned question events (outcome.reply e.prompts) outcome.rule ∧ outcome.passages = [] := by
  cases h with
  | refused reason => exact (first_of_refusal (s := s) reason).2.2
  | unconfigured => exact ⟨rfl, rfl⟩
  | unindexed => exact ⟨rfl, rfl⟩
  | embeddingFailed => exact ⟨⟨_, List.mem_cons_self, rfl⟩, rfl⟩
  | nothingFound => exact ⟨rfl, rfl⟩
  | generationFailed =>
      exact ⟨⟨_, _, _, List.mem_cons_of_mem _ List.mem_cons_self, rfl⟩, rfl⟩
  | answered => exact absurd rfl hrule

/-- The text of the generator is the reply under the last rule, and under no other. -/
theorem Resolves.verbatim {outcome : Outcome} {events : List Event}
    (h : e.Resolves question history s outcome events s') : outcome.rule = .generated ↔
      ∃ messages bounds, .generated messages bounds (.ok (outcome.reply e.prompts)) ∈ events := by
  cases h with
  | answered => exact iff_of_true rfl ⟨_, _, List.mem_cons_of_mem _ List.mem_cons_self⟩
  | refused reason =>
      have hmem := (first_of_refusal (s := s) reason).2.1
      refine iff_of_false ?_ (fun ⟨_, _, hgen⟩ => absurd hgen List.not_mem_nil)
      intro hrule
      rw [hrule] at hmem
      exact absurd hmem (by decide)
  | unconfigured => simp [Outcome.rule]
  | unindexed => simp [Outcome.rule]
  | embeddingFailed => simp [Outcome.rule]
  | nothingFound => simp [Outcome.rule]
  | generationFailed => simp [Outcome.rule]

/-- A search without bounds of its own finds what the answer would rest on. -/
theorem run_search {query : List Single} (h : e.Embeds question s (.ok query) s') :
    (e.search question none none).run.run s = (.ok (e.passages query), s') := by
  obtain ⟨b, hb, hrun⟩ := h
  simp only [search, hb]
  rw [run_bind, hrun]
  rfl

/-- The passages of a generated reply are what a search finds. -/
theorem Resolves.searched {outcome : Outcome} {events : List Event}
    (h : e.Resolves question history s outcome events s') (hrule : outcome.rule = .generated) :
    outcome.passages ≠ [] ∧ e.FoundBySearch question s outcome.passages := by
  cases h with
  | answered ready answer found success =>
      exact ⟨found, _, ⟨_, answer⟩, fun _ _ hanswer => run_search hanswer⟩
  | refused reason =>
      have hmem := (first_of_refusal (s := s) reason).2.1
      rw [hrule] at hmem
      exact absurd hmem (by decide)
  | unconfigured => cases hrule
  | unindexed => cases hrule
  | embeddingFailed => cases hrule
  | nothingFound => cases hrule
  | generationFailed => cases hrule

theorem records_answerWithSources {outcome : Outcome} {events : List Event}
    (h : Records (e.resolve question history) (e.recorded.resolve question history) s outcome events
      s') : Records (e.answerWithSources question history)
      (e.recorded.answerWithSources question history) s (outcome.reply e.prompts, outcome.passages)
      events s' := by
  unfold answerWithSources
  exact h.bind_silent (records_pure _ s')

theorem records_answer {outcome : Outcome} {events : List Event}
    (h : Records (e.resolve question history) (e.recorded.resolve question history) s outcome events
      s') : Records (e.answer question history) (e.recorded.answer question history) s
      (outcome.reply e.prompts) events s' := by
  unfold answer
  exact (records_answerWithSources h).bind_silent (records_pure _ s')

/--
**The first rule that matches decides.** Whatever the engine, the question, the history and the answers
of the backends are, the question ends by the first of the nine rules that matches. The embedder is called
once if none of the first five matches, and else never; the generator is called once if none of the first
seven matches, and else never. The reply is a text of the generator exactly under the last rule, and then
there are passages, those that a search for the question finds; under every other rule the reply is the
one that this rule has ready, and there are no passages.
-/
theorem answer_by_first_rule (e : Engine (StateM σ)) (question : String) (history : List ChatMessage)
    (s : σ) : ∃ rule reply passages events s',
      Records (e.answerWithSources question history) (e.recorded.answerWithSources question history)
        s (reply, passages) events s' ∧
      e.First question history s rule ∧
      e.OnceUnless question history s .embeddingError (events.countP (·.isEmbedding)) ∧
      e.OnceUnless question history s .generationError (events.countP (·.isGeneration)) ∧
      (rule = .generated ↔ ∃ messages bounds, .generated messages bounds (.ok reply) ∈ events) ∧
      (rule = .generated → passages ≠ [] ∧ e.FoundBySearch question s passages) ∧
      (rule ≠ .generated → e.Canned question events reply rule ∧ passages = []) := by
  obtain ⟨outcome, events, s', hrecords, hresolves⟩ := e.exists_resolves question history s
  exact ⟨outcome.rule, _, _, events, s', records_answerWithSources hrecords, hresolves.first,
    hresolves.first.onceUnless hresolves.embeddings, hresolves.first.onceUnless hresolves.generations,
    hresolves.verbatim, hresolves.searched, hresolves.canned⟩

end Engine

end Grounded
