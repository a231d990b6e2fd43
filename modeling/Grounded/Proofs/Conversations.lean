import Grounded.Chat.Session
import Grounded.Proofs.AnswerRules

/-!
# Conversations

The lines of a session make one conversation after the other: a line that clears ends one and begins the
next. Within a conversation the engine is handed just what has been asked and replied in it so far. Every
question adds one reply to that, whatever came of it, and the engine counts the replies that it is handed.
So its limit is one on the questions of a conversation.

To see what the engine is handed, a session is run with an engine that writes down every question with its
history, the reply, and the calls of the backends (`Engine.observed`). `Conversation` is what such a record
keeps to; an exchange after those of a conversation keeps it one, and a run only ever adds such exchanges.
-/

namespace Grounded

/-- A question with the history that came with it, the reply, and the calls of the backends for it. -/
structure Exchange where
  question : String
  history : List ChatMessage
  reply : String
  calls : List Event

/-- The text of a reply. -/
def Reaction.reply? : Reaction → Option String
  | replied text => some text
  | _ => none

/-! ## The answer to one question -/

namespace Engine

variable {σ : Type}

/-- Answers a question, and writes the exchange down. The oldest exchange comes first. -/
def observed (e : Engine (StateM σ)) (question : String) (history : List ChatMessage) :
    StateM (σ × List Exchange) String := fun (s, exchanges) =>
  match (e.recorded.answer question history).run (s, []) with
  | (reply, (s', calls)) => (reply, (s', exchanges ++ [⟨question, history, reply, calls⟩]))

/-- The limit on the questions of a conversation, for an answer with the calls for it. -/
structure Limited (e : Engine (StateM σ)) (question : String) (history : List ChatMessage)
    (reply : String) (calls : List Event) : Prop where
  once : calls.countP (·.isEmbedding) ≤ 1
  spent : e.limits.maxQuestionsPerSession ≤ history.countP (·.role == .assistant) → calls = []
  told : e.limits.maxQuestionsPerSession ≤ history.countP (·.role == .assistant) →
    (Text.trim question.toList).isEmpty = false → question.length ≤ e.limits.maxInputChars →
    reply = e.prompts.replies.sessionLimit

variable {e : Engine (StateM σ)} {question : String} {history : List ChatMessage} {s s' : σ}

/-- A question for which the limit is reached is refused, if for no other reason then for the limit. -/
theorem exists_refusal (question : String)
    (h : e.limits.maxQuestionsPerSession ≤ history.countP (·.role == .assistant)) :
    ∃ outcome, e.refusal? question history = some outcome ∧
      ((Text.trim question.toList).isEmpty = false → question.length ≤ e.limits.maxInputChars →
        outcome = .sessionLimit) := by
  rw [refusal?]
  split
  · rename_i hblank
    refine ⟨_, rfl, ?_⟩
    intro hvisible
    rw [hblank] at hvisible
    cases hvisible
  · split
    · rename_i hlong
      refine ⟨_, rfl, ?_⟩
      intro _ hshort
      exact absurd hlong (Nat.not_lt.mpr hshort)
    · exact ⟨_, rfl, fun _ _ => rfl⟩

/-- Every answer keeps to the limit. -/
theorem exists_answer (e : Engine (StateM σ)) (question : String) (history : List ChatMessage) (s : σ) :
    ∃ reply calls s', Records (e.answer question history) (e.recorded.answer question history) s reply
      calls s' ∧ e.Limited question history reply calls := by
  obtain ⟨outcome, calls, s', hrecords, hresolves⟩ := e.exists_resolves question history s
  refine ⟨_, calls, s', records_answer hrecords, ?_, ?_, ?_⟩
  · rw [hresolves.embeddings]
    split
    · exact Nat.zero_le 1
    · exact Nat.le_refl 1
  · intro hlimit
    obtain ⟨refusal, hrefusal, -⟩ := exists_refusal question hlimit
    cases hresolves with
    | refused | unconfigured | unindexed => rfl
    | embeddingFailed ready | nothingFound ready | generationFailed ready | answered ready =>
        -- what is accepted is not refused
        cases ready.accepted.symm.trans hrefusal
  · intro hlimit hvisible hshort
    obtain ⟨refusal, hrefusal, htold⟩ := exists_refusal question hlimit
    have hplain := hrecords.plain
    rw [resolve_of_refusal hrefusal, htold hvisible hshort] at hplain
    have houtcome : Outcome.sessionLimit = outcome := congrArg Prod.fst hplain
    rw [← houtcome]
    rfl

/-- What is observed of an answer is what is recorded of it. -/
theorem run_observed {reply : String} {calls : List Event}
    (h : Records (e.answer question history) (e.recorded.answer question history) s reply calls s')
    (before : List Exchange) : (e.observed question history).run (s, before)
      = (reply, (s', before ++ [⟨question, history, reply, calls⟩])) := by
  have hnoted := h.noted []
  rw [List.nil_append] at hnoted
  have hrun : (e.observed question history).run (s, before)
      = match (e.recorded.answer question history).run (s, []) with
        | (reply, (s', calls)) => (reply, (s', before ++ [Exchange.mk question history reply calls])) :=
    rfl
  rw [hrun, hnoted]

end Engine

/-! ## Conversations of a session -/

namespace Session

/-- The turns that exchanges leave in the history. -/
def turnsOf (exchanges : List Exchange) : List ChatMessage :=
  exchanges.flatMap fun x => turns x.question x.reply

/-- Whether a line is a word, in any case of its letters and with any blanks around it. -/
def isWordLine (word line : String) : Bool := (Text.trim line.toList).map Char.toLower == word.toList

/-- Whether a line ends the session. -/
def leaves (line : String) : Bool := isWordLine "exit" line || isWordLine "quit" line

/-- A line without the blanks around it, if there is anything else. -/
def questionOf? (line : String) : Option String :=
  if Text.trim line.toList = [] then none else some (String.ofList (Text.trim line.toList))

/--
The questions of every conversation that lines make, in order. What follows a line that leaves is not read
any more, and every line that clears ends a conversation.
-/
def conversations (lines : List String) : List (List String) :=
  ((lines.takeWhile (!leaves ·)).splitOnP (isWordLine "clear")).map (·.filterMap questionOf?)

theorem turnsOf_concat (exchanges : List Exchange) (x : Exchange) :
    turnsOf (exchanges ++ [x]) = turnsOf exchanges ++ turns x.question x.reply := by
  rw [turnsOf, List.flatMap_append, List.flatMap_singleton]
  rfl

/-- There is one reply in the history for every exchange. -/
theorem countP_turnsOf (exchanges : List Exchange) :
    (turnsOf exchanges).countP (·.role == .assistant) = exchanges.length := by
  induction exchanges with
  | nil => rfl
  | cons x exchanges ih =>
      have hcons : turnsOf (x :: exchanges) = turns x.question x.reply ++ turnsOf exchanges :=
        List.flatMap_cons
      rw [hcons, List.countP_append, ih, List.length_cons, Nat.add_comm]
      rfl

section Lines

variable {line : String} {rest : List String}

theorem isWordLine_iff {word : String} : isWordLine word line = true ↔
    String.ofList ((String.ofList (Text.trim line.toList)).toList.map Char.toLower) = word := by
  rw [isWordLine, beq_iff_eq, String.toList_ofList]
  constructor
  · intro h
    rw [h, String.ofList_toList]
  · rintro rfl
    rw [String.toList_ofList]

/-- A blank line is no word. -/
theorem not_isWordLine_of_blank (h : Text.trim line.toList = []) {word : String} (hword : word ≠ "") :
    isWordLine word line = false := by
  rw [Bool.eq_false_iff, ne_eq, isWordLine_iff, h]
  exact fun heq => hword heq.symm

/-- What a line asks for. -/
theorem ofLine_eq (line : String) : Request.ofLine line =
    if Text.trim line.toList = [] then .blank
    else if leaves line then .leave
    else if isWordLine "clear" line then .clear
    else .ask (String.ofList (Text.trim line.toList)) := by
  have hempty : (String.ofList (Text.trim line.toList)).isEmpty = true ↔ Text.trim line.toList = [] := by
    rw [String.isEmpty_iff, String.ofList_eq_empty_iff]
  have hleaves : Request.leaveWords.contains
      (String.ofList ((String.ofList (Text.trim line.toList)).toList.map Char.toLower)) = leaves line := by
    rw [Bool.eq_iff_iff, List.contains_iff_mem, leaves, Bool.or_eq_true, isWordLine_iff, isWordLine_iff,
      Request.leaveWords, List.mem_cons, List.mem_singleton]
  have hclear : (String.ofList ((String.ofList (Text.trim line.toList)).toList.map Char.toLower)
      == Request.clearWord) = isWordLine "clear" line := by
    rw [Bool.eq_iff_iff, beq_iff_eq, isWordLine_iff, Request.clearWord]
  simp only [Request.ofLine, hempty, hleaves, hclear]

/-- A line that neither leaves nor clears, and the question that it asks, if it asks one. -/
structure Within (line : String) (question? : Option String) : Prop where
  stays : leaves line = false
  keeps : isWordLine "clear" line = false
  asks : questionOf? line = question?

/-- What a line is like that is read as a request. -/
inductive ReadsAs (line : String) : Request → Prop
  | blank (within : Within line none) : ReadsAs line .blank
  | leave (leaves : leaves line = true) : ReadsAs line .leave
  | clear (stays : leaves line = false) (clears : isWordLine "clear" line = true) : ReadsAs line .clear
  | ask {question : String} (within : Within line (some question)) : ReadsAs line (.ask question)

theorem readsAs_ofLine (line : String) : ReadsAs line (Request.ofLine line) := by
  rw [ofLine_eq]
  by_cases hblank : Text.trim line.toList = []
  · have hword {word : String} (hne : word ≠ "") : isWordLine word line = false :=
      not_isWordLine_of_blank hblank hne
    have hstays : leaves line = false := by
      rw [leaves, hword (by decide), hword (by decide), Bool.or_self]
    rw [if_pos hblank]
    exact .blank ⟨hstays, hword (by decide), if_pos hblank⟩
  · rw [if_neg hblank]
    by_cases hleaves : leaves line = true
    · rw [if_pos hleaves]
      exact .leave hleaves
    · rw [if_neg hleaves]
      have hstays : leaves line = false := Bool.eq_false_iff.mpr hleaves
      by_cases hclears : isWordLine "clear" line = true
      · rw [if_pos hclears]
        exact .clear hstays hclears
      · rw [if_neg hclears]
        exact .ask ⟨hstays, Bool.eq_false_iff.mpr hclears, if_neg hblank⟩

theorem conversations_leave (h : leaves line = true) : conversations (line :: rest) = [[]] := by
  rw [conversations, List.takeWhile_cons_of_neg (by rw [h]; decide)]
  rfl

theorem conversations_clear (h : leaves line = false) (hclear : isWordLine "clear" line = true) :
    conversations (line :: rest) = [] :: conversations rest := by
  rw [conversations, List.takeWhile_cons_of_pos (by rw [h]; rfl),
    List.splitOnP_cons_eq_if_modifyHead, if_pos hclear]
  rfl

theorem Within.conversations_cons {question? : Option String} (h : Within line question?) :
    conversations (line :: rest) = (conversations rest).modifyHead (question?.toList ++ ·) := by
  rw [conversations, List.takeWhile_cons_of_pos (by rw [h.stays]; rfl),
    List.splitOnP_cons_eq_if_modifyHead, if_neg (by rw [h.keeps]; decide), conversations]
  cases List.splitOnP (isWordLine "clear") (rest.takeWhile (!leaves ·)) with
  | nil => rfl
  | cons first others =>
      rw [List.modifyHead_cons, List.map_cons, List.map_cons, List.modifyHead_cons, List.filterMap_cons,
        h.asks]
      cases question? <;> rfl

example : conversations ["a?", " Clear", "", "b?", "c?", "EXIT", "d?"] = [["a?"], ["b?", "c?"]] := by
  decide

/-- A line asks no blank question. -/
theorem Within.visible {question : String} (h : Within line (some question)) :
    (Text.trim question.toList).isEmpty = false := by
  have hasks := h.asks
  rw [questionOf?] at hasks
  split at hasks
  · cases hasks
  · rename_i hne
    obtain rfl := Option.some.inj hasks
    rw [String.toList_ofList, Bool.eq_false_iff]
    intro hblank
    -- the first character of a trimmed text is not blank
    obtain ⟨c, rest, hcons⟩ := List.exists_cons_of_ne_nil hne
    have hfirst : Text.isBlank c = false := (Text.trimmed_trim line.toList).head c (by rw [hcons]; rfl)
    have hall := (Text.trim_isEmpty_iff _).mp hblank c (by rw [hcons]; exact List.mem_cons_self)
    rw [hfirst] at hall
    cases hall

end Lines

/-! ## Runs -/

section Run

variable {m : Type → Type} [Monad m] [LawfulMonad m]
variable {answer : String → List ChatMessage → m String} {history : List ChatMessage} {line : String}
  {rest : List String}

theorem run_leave (h : Request.ofLine line = .leave) :
    run answer history (line :: rest) = pure [.left] := by
  simp only [run, step, h, pure_bind, if_true]

theorem run_blank (h : Request.ofLine line = .blank) : run answer history (line :: rest)
    = run answer history rest >>= fun reactions => pure (.skipped :: reactions) := by
  simp only [run, step, h, pure_bind, reduceCtorEq, if_false]

theorem run_clear (h : Request.ofLine line = .clear) : run answer history (line :: rest)
    = run answer [] rest >>= fun reactions => pure (.cleared :: reactions) := by
  simp only [run, step, h, pure_bind, reduceCtorEq, if_false]

theorem run_ask {question : String} (h : Request.ofLine line = .ask question) :
    run answer history (line :: rest) = answer question history >>= fun reply =>
      run answer (history ++ turns question reply) rest >>= fun reactions =>
        pure (.replied reply :: reactions) := by
  simp only [run, step, h, bind_assoc, pure_bind, reduceCtorEq, if_false]

end Run

section Traces

variable {σ : Type} {e : Engine (StateM σ)} {history : List ChatMessage} {line : String}
  {rest : List String} {s s' : σ} {reactions : List Reaction} {exchanges : List Exchange}

/-- What comes of lines, with the exchanges in which the engine is asked. -/
structure Traced (e : Engine (StateM σ)) (history : List ChatMessage) (lines : List String) (s : σ)
    (reactions : List Reaction) (exchanges : List Exchange) (s' : σ) : Prop where
  records : Records (run e.answer history lines) (run e.recorded.answer history lines) s reactions
    (exchanges.flatMap (·.calls)) s'
  observed : ∀ before, (run e.observed history lines).run (s, before)
    = (reactions, (s', before ++ exchanges))
  replies : reactions.filterMap Reaction.reply? = exchanges.map (·.reply)

theorem traced_nil (e : Engine (StateM σ)) (history : List ChatMessage) (s : σ) :
    Traced e history [] s [] [] s where
  records := records_pure [] s
  observed := fun before => by rw [List.append_nil]; rfl
  replies := rfl

theorem traced_leave (h : Request.ofLine line = .leave) :
    Traced e history (line :: rest) s [.left] [] s where
  records := by
    rw [run_leave h, run_leave h]
    exact records_pure [Reaction.left] s
  observed := by
    intro before
    rw [run_leave h, List.append_nil]
    rfl
  replies := rfl

theorem Traced.blank (hrest : Traced e history rest s reactions exchanges s')
    (h : Request.ofLine line = .blank) :
    Traced e history (line :: rest) s (.skipped :: reactions) exchanges s' where
  records := by
    rw [run_blank h, run_blank h]
    exact hrest.records.bind_silent (records_pure _ s')
  observed := by
    intro before
    rw [run_blank h, StateT.run_bind, hrest.observed]
    rfl
  replies := hrest.replies

theorem Traced.clear (hrest : Traced e [] rest s reactions exchanges s')
    (h : Request.ofLine line = .clear) :
    Traced e history (line :: rest) s (.cleared :: reactions) exchanges s' where
  records := by
    rw [run_clear h, run_clear h]
    exact hrest.records.bind_silent (records_pure _ s')
  observed := by
    intro before
    rw [run_clear h, StateT.run_bind, hrest.observed]
    rfl
  replies := hrest.replies

theorem Traced.ask {question reply : String} {calls : List Event} {s₁ : σ}
    (hrest : Traced e (history ++ turns question reply) rest s₁ reactions exchanges s')
    (h : Request.ofLine line = .ask question)
    (hanswer : Records (e.answer question history) (e.recorded.answer question history) s reply calls
      s₁) :
    Traced e history (line :: rest) s (.replied reply :: reactions)
      (⟨question, history, reply, calls⟩ :: exchanges) s' where
  records := by
    rw [run_ask h, run_ask h, List.flatMap_cons]
    exact hanswer.bind (hrest.records.bind_silent (records_pure _ s'))
  observed := by
    intro before
    rw [run_ask h, StateT.run_bind, Engine.run_observed hanswer]
    have hrun := hrest.observed (before ++ [⟨question, history, reply, calls⟩])
    rw [List.append_assoc] at hrun
    have hnext : (run e.observed (history ++ turns question reply) rest
        >>= fun reactions => pure (Reaction.replied reply :: reactions)).run
          (s₁, before ++ [⟨question, history, reply, calls⟩])
        = (.replied reply :: reactions,
            (s', before ++ ([⟨question, history, reply, calls⟩] ++ exchanges))) := by
      rw [StateT.run_bind, hrun]
      rfl
    exact hnext
  replies := by
    rw [List.map_cons, ← hrest.replies]
    rfl

end Traces

end Session

/-! ## The limit over a conversation -/

/-- What is at a place of a list with one more element is at this place of the list, or it is new. -/
theorem of_getElem?_concat {α : Type} {as : List α} {a b : α} {i : Nat}
    (h : (as ++ [a])[i]? = some b) : i < as.length ∧ as[i]? = some b ∨ i = as.length ∧ a = b := by
  rcases Nat.lt_trichotomy i as.length with hlt | heq | hgt
  · rw [List.getElem?_append_left hlt] at h
    exact Or.inl ⟨hlt, h⟩
  · rw [heq, List.getElem?_concat_length] at h
    exact Or.inr ⟨heq, Option.some.inj h⟩
  · rw [List.getElem?_eq_none (by rw [List.length_append, List.length_singleton]; omega)] at h
    cases h

namespace Engine

variable {σ : Type} {e : Engine (StateM σ)}

/--
What the exchanges of one conversation keep to: the history is what was asked and replied before, and no
backend is called any more once the limit of questions is reached.
-/
structure Conversation (e : Engine (StateM σ)) (exchanges : List Exchange) : Prop where
  history : ∀ i x, exchanges[i]? = some x → x.history = Session.turnsOf (exchanges.take i)
  embeddings : (exchanges.flatMap (·.calls)).countP (·.isEmbedding)
    ≤ min exchanges.length e.limits.maxQuestionsPerSession
  limit : ∀ i x, exchanges[i]? = some x → e.limits.maxQuestionsPerSession ≤ i →
    x.calls = [] ∧
      (x.question.length ≤ e.limits.maxInputChars → x.reply = e.prompts.replies.sessionLimit)

theorem conversation_nil (e : Engine (StateM σ)) : e.Conversation [] where
  history := by
    intro i x h
    cases h
  embeddings := Nat.zero_le _
  limit := by
    intro i x h
    cases h

/-- **One more exchange keeps a conversation one,** if its history is that of the conversation. -/
theorem Conversation.concat {exchanges : List Exchange} {question reply : String} {calls : List Event}
    (h : e.Conversation exchanges)
    (hlimited : e.Limited question (Session.turnsOf exchanges) reply calls)
    (hvisible : (Text.trim question.toList).isEmpty = false) :
    e.Conversation (exchanges ++ [⟨question, Session.turnsOf exchanges, reply, calls⟩]) where
  history := by
    intro i x hx
    rcases of_getElem?_concat hx with ⟨hlt, hold⟩ | ⟨rfl, rfl⟩
    · rw [List.take_append_of_le_length (Nat.le_of_lt hlt)]
      exact h.history i x hold
    · rw [List.take_left]
  embeddings := by
    have hold := h.embeddings
    rw [List.flatMap_append, List.flatMap_singleton, List.countP_append, List.length_append,
      List.length_singleton]
    rcases Nat.lt_or_ge exchanges.length e.limits.maxQuestionsPerSession with hlt | hge
    · have honce : calls.countP (·.isEmbedding) ≤ 1 := hlimited.once
      show _ + calls.countP (·.isEmbedding) ≤ _
      omega
    · have hcalls : calls = [] := by
        refine hlimited.spent ?_
        rw [Session.countP_turnsOf]
        exact hge
      rw [hcalls, List.countP_nil]
      omega
  limit := by
    intro i x hx hlimit
    rcases of_getElem?_concat hx with ⟨-, hold⟩ | ⟨rfl, rfl⟩
    · exact h.limit i x hold hlimit
    · rw [← Session.countP_turnsOf exchanges] at hlimit
      exact ⟨hlimited.spent hlimit, hlimited.told hlimit hvisible⟩

end Engine

namespace Session

variable {σ : Type}

/--
The exchanges of a run go on with the conversation that the history is of, and then make the next ones;
their questions are those of the lines.
-/
theorem exists_traced (e : Engine (StateM σ)) (lines : List String) (earlier : List Exchange) (s : σ)
    (hearlier : e.Conversation earlier) : ∃ reactions first others s',
      Traced e (turnsOf earlier) lines s reactions (first ++ others.flatten) s' ∧
      (first :: others).map (·.map (·.question)) = conversations lines ∧
      e.Conversation (earlier ++ first) ∧ ∀ c ∈ others, e.Conversation c := by
  induction lines generalizing earlier s with
  | nil =>
      refine ⟨[], [], [], s, traced_nil e _ s, rfl, ?_, fun c hc => absurd hc List.not_mem_nil⟩
      rw [List.append_nil]
      exact hearlier
  | cons line rest ih =>
      obtain ⟨request, hline⟩ : ∃ request, Request.ofLine line = request := ⟨_, rfl⟩
      have hreads : ReadsAs line request := hline ▸ readsAs_ofLine line
      cases hreads with
      | leave hleaves =>
          refine ⟨[.left], [], [], s, traced_leave hline, (conversations_leave hleaves).symm, ?_,
            fun c hc => absurd hc List.not_mem_nil⟩
          rw [List.append_nil]
          exact hearlier
      | blank hwithin =>
          obtain ⟨reactions, first, others, s', htraced, hquestions, hfirst, hothers⟩ :=
            ih earlier s hearlier
          refine ⟨.skipped :: reactions, first, others, s', htraced.blank hline, ?_, hfirst, hothers⟩
          rw [hwithin.conversations_cons, ← hquestions]
          rfl
      | clear hstays hclears =>
          obtain ⟨reactions, first, others, s', htraced, hquestions, hfirst, hothers⟩ :=
            ih [] s (Engine.conversation_nil e)
          refine ⟨.cleared :: reactions, [], first :: others, s', ?_, ?_, ?_, ?_⟩
          · rw [List.nil_append, List.flatten_cons]
            exact htraced.clear hline
          · rw [conversations_clear hstays hclears, ← hquestions]
            rfl
          · rw [List.append_nil]
            exact hearlier
          · exact List.forall_mem_cons.mpr ⟨hfirst, hothers⟩
      | @ask question hwithin =>
          obtain ⟨reply, calls, s₁, hanswer, hlimited⟩ := e.exists_answer question (turnsOf earlier) s
          have hnext := hearlier.concat hlimited hwithin.visible
          obtain ⟨reactions, first, others, s', htraced, hquestions, hfirst, hothers⟩ :=
            ih _ s₁ hnext
          rw [turnsOf_concat] at htraced
          refine ⟨.replied reply :: reactions, ⟨question, turnsOf earlier, reply, calls⟩ :: first, others, s',
            htraced.ask hline hanswer, ?_, ?_, hothers⟩
          · rw [hwithin.conversations_cons, ← hquestions]
            rfl
          · rw [List.append_assoc] at hfirst
            exact hfirst

end Session

end Grounded
