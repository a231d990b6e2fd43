import Mathlib.Data.List.Basic
import Grounded.Backend.Embedding
import Grounded.Proofs.JsonRoundTrip
import Grounded.Proofs.Running

/-!
# The order of embeddings

A server answers a list of texts with entries that carry indexes. The client sorts the entries by their
indexes and compares their number with that of the texts; it looks at no index again. If the indexes are
those of the texts, each once, every text gets its own vector. If they are not, an answer of the right
length is taken all the same, and its vectors go to texts that they are not for.
-/

namespace Grounded

namespace EmbeddingEntry

/-- The entries by their indexes. -/
def sorted (entries : List EmbeddingEntry) : List EmbeddingEntry :=
  entries.mergeSort fun a b => a.index ≤ b.index

theorem sorted_perm (entries : List EmbeddingEntry) : (sorted entries).Perm entries :=
  List.mergeSort_perm _ _

theorem pairwise_sorted (entries : List EmbeddingEntry) :
    (sorted entries).Pairwise fun a b => a.index ≤ b.index := by
  have htrans : ∀ a b c : EmbeddingEntry, decide (a.index ≤ b.index) = true →
      decide (b.index ≤ c.index) = true → decide (a.index ≤ c.index) = true := by
    intro a b c hab hbc
    rw [decide_eq_true_eq] at hab hbc ⊢
    exact Nat.le_trans hab hbc
  have htotal : ∀ a b : EmbeddingEntry,
      (decide (a.index ≤ b.index) || decide (b.index ≤ a.index)) = true := by
    intro a b
    rw [Bool.or_eq_true, decide_eq_true_eq, decide_eq_true_eq]
    exact Nat.le_total ..
  exact (List.pairwise_mergeSort htrans htotal entries).imp of_decide_eq_true

/-- If the indexes are the numbers up to some number, the sorted entries have them in order. -/
theorem map_index_sorted {entries : List EmbeddingEntry} {n : Nat}
    (h : (entries.map (·.index)).Perm (List.range n)) :
    (sorted entries).map (·.index) = List.range n := by
  refine List.Perm.eq_of_pairwise (fun a b _ _ => Nat.le_antisymm) ?_ ?_
    (((sorted_perm entries).map _).trans h)
  · exact List.pairwise_map.mpr (pairwise_sorted entries)
  · exact List.pairwise_le_range

/-- **Every vector stands at the index of its entry.** -/
theorem inOrder_index {entries : List EmbeddingEntry} {n : Nat}
    (h : (entries.map (·.index)).Perm (List.range n)) :
    ∀ entry ∈ entries, (inOrder entries)[entry.index]? = some entry.vector := by
  intro entry hentry
  obtain ⟨k, hk, hat⟩ := List.mem_iff_getElem.mp ((sorted_perm entries).mem_iff.mpr hentry)
  have hplace : (sorted entries)[k]? = some entry := by rw [List.getElem?_eq_getElem hk, hat]
  -- the entry stands where its index says
  have hindex : k = entry.index := by
    have hrange : (List.range n)[k]? = some entry.index := by
      rw [← map_index_sorted h, List.getElem?_map, hplace]
      rfl
    obtain ⟨_, hvalue⟩ := List.getElem?_eq_some_iff.mp hrange
    rwa [List.getElem_range] at hvalue
  rw [← hindex]
  show ((sorted entries).map (·.vector))[k]? = some entry.vector
  rw [List.getElem?_map, hplace]
  rfl

end EmbeddingEntry

namespace BackendClient

variable {σ : Type} (c : BackendClient (StateM σ))

/-- A request with a value, as it is sent to an endpoint. -/
def requestFor (path : String) (body : Json) : HttpRequest where
  method := "POST"
  url := c.endpoint path
  authorization := some ("Bearer " ++ c.apiKey)
  body := some body
  timeoutSecs := c.timeoutSecs

/-- What is made of an answer, or of the reason why there is none. -/
def afterAnswer {α : Type} (read : Json → Option α) :
    Except String HttpResponse → ExceptT ClientError (StateM σ) α
  | .ok response => ExceptT.mk (pure (decode read response))
  | .error reason => throw (.unanswered reason)

variable {c}

theorem run_post {α : Type} {path : String} {body : Json} {read : Json → Option α} {s s' : σ}
    {response : HttpResponse}
    (h : (c.transport (c.requestFor path body)).run s = (.ok response, s')) :
    (c.post path body read).run.run s = (decode read response, s') := by
  have hpost : (c.post path body read).run.run s
      = (afterAnswer read ((c.transport (c.requestFor path body)).run s).1).run.run
          ((c.transport (c.requestFor path body)).run s).2 := rfl
  rw [hpost, h]
  rfl

theorem run_adapt {α ε ε' : Type} (f : ε → ε') (x : ExceptT ε (StateM σ) α) (s : σ) :
    (x.adapt f).run.run s = ((x.run.run s).1.mapError f, (x.run.run s).2) := rfl

/-- From a state, the request for the vectors of texts is answered with entries. -/
def Answers (c : BackendClient (StateM σ)) (model : String) (texts : List String) (s : σ)
    (entries : List EmbeddingEntry) (s' : σ) : Prop :=
  ∃ response, (c.transport (c.requestFor "/embeddings" (embeddingRequest model texts))).run s
      = (.ok response, s') ∧
    decode EmbeddingEntry.listOfJson? response = .ok entries

/-- Of entries that can be read, only the number is checked. -/
theorem run_embedBatch {model : String} {texts : List String} (hne : texts ≠ []) {s s' : σ}
    {entries : List EmbeddingEntry} (h : c.Answers model texts s entries s') :
    (c.embedBatch model texts).run.run s = (EmbeddingEntry.vectors texts.length entries, s') := by
  obtain ⟨response, hanswer, hread⟩ := h
  have hempty : texts.isEmpty = false := by
    rw [List.isEmpty_eq_false_iff]
    exact hne
  rw [embedBatch, hempty, if_neg Bool.false_ne_true, run_bind, run_adapt, run_post hanswer, hread]
  rfl

/--
**Vectors come in the order of the indexes.** A request for the vectors of texts succeeds exactly if it is
answered with as many entries as there are texts, and the vectors are then those of the entries by their
indexes. So if the indexes are those of the texts, each once, the vector of every text is the one of the
entry with its index.
-/
theorem embedBatch_by_index (c : BackendClient (StateM σ)) (model : String) (texts : List String)
    (s s' : σ) (entries : List EmbeddingEntry) (hne : texts ≠ [])
    (h : c.Answers model texts s entries s') :
    ((∃ vectors, (c.embedBatch model texts).run.run s = (.ok vectors, s')) ↔
      entries.length = texts.length) ∧
    (∀ vectors, (c.embedBatch model texts).run.run s = (.ok vectors, s') →
      ∃ sorted : List EmbeddingEntry, sorted.Perm entries ∧
        sorted.Pairwise (fun a b => a.index ≤ b.index) ∧ vectors = sorted.map (·.vector)) ∧
    ((entries.map (·.index)).Perm (List.range texts.length) →
      ∃ vectors, (c.embedBatch model texts).run.run s = (.ok vectors, s') ∧
        ∀ entry ∈ entries, vectors[entry.index]? = some entry.vector) := by
  rw [run_embedBatch hne h]
  by_cases hlength : entries.length = texts.length
  · rw [EmbeddingEntry.vectors, if_pos hlength]
    refine ⟨iff_of_true ⟨_, rfl⟩ hlength, ?_, ?_⟩
    · intro vectors hvectors
      cases hvectors
      exact ⟨EmbeddingEntry.sorted entries, EmbeddingEntry.sorted_perm entries,
        EmbeddingEntry.pairwise_sorted entries, rfl⟩
    · exact fun hindexes => ⟨_, rfl, EmbeddingEntry.inOrder_index hindexes⟩
  · rw [EmbeddingEntry.vectors, if_neg hlength]
    refine ⟨iff_of_false ?_ hlength, ?_, ?_⟩
    · rintro ⟨vectors, hok⟩
      cases hok
    · intro vectors hok
      cases hok
    intro hindexes
    have hcount := hindexes.length_eq
    rw [List.length_map, List.length_range] at hcount
    exact absurd hcount hlength

/-- An answer with one number for each index. -/
def answerJson (numbers : List (Nat × Nat)) : Json :=
  let entry := fun (index, number) => Json.ofFields
    [("index", Json.ofNat index), ("object", Json.ofText "embedding"),
      ("embedding", .array [Json.ofNat number])]
  Json.ofFields
    [("object", Json.ofText "list"), ("model", Json.ofText "m"),
      ("data", .array (numbers.map entry)),
      ("usage", Json.ofFields [("prompt_tokens", Json.ofNat 0), ("total_tokens", Json.ofNat 0)])]

theorem plain_answerJson (numbers : List (Nat × Nat)) : (answerJson numbers).Plain := by
  refine .record _ ?_
  intro f hf
  simp only [List.mem_cons, List.not_mem_nil, or_false] at hf
  rcases hf with rfl | rfl | rfl | rfl
  · exact .text _
  · exact .text _
  · refine .list _ ?_
    intro j hj
    obtain ⟨⟨index, number⟩, _, rfl⟩ := List.mem_map.mp hj
    refine .record _ ?_
    intro f hf
    simp only [List.mem_cons, List.not_mem_nil, or_false] at hf
    rcases hf with rfl | rfl | rfl
    · exact .nat _
    · exact .text _
    · exact .list _ (List.forall_mem_singleton.mpr (.nat _))
  · refine .record _ ?_
    intro f hf
    simp only [List.mem_cons, List.not_mem_nil, or_false] at hf
    rcases hf with rfl | rfl
    · exact .nat _
    · exact .nat _

/-- A client of a server that gives one answer to everything. -/
def answeredWith (numbers : List (Nat × Nat)) : BackendClient (StateM Unit) where
  apiBase := "http://localhost"
  apiKey := "key"
  timeoutSecs := 1
  transport _ :=
    return .ok ⟨200, (String.ofList ((answerJson numbers).pretty 0)).toUTF8.data.toList⟩

/-- The client reads the entries of the answer. -/
theorem answers_answeredWith {numbers : List (Nat × Nat)} {entries : List EmbeddingEntry}
    (h : EmbeddingEntry.listOfJson? (answerJson numbers) = some entries) (model : String)
    (texts : List String) : (answeredWith numbers).Answers model texts () entries () := by
  refine ⟨_, rfl, ?_⟩
  have hutf8 : String.fromUTF8?
      ⟨((String.ofList ((answerJson numbers).pretty 0)).toUTF8.data.toList).toArray⟩
      = some (String.ofList ((answerJson numbers).pretty 0)) := by
    rw [Array.toArray_toList, String.fromUTF8?, String.toUTF8_eq_toByteArray,
      dif_pos (String.ofList ((answerJson numbers).pretty 0)).isValidUTF8]
    rfl
  rw [decode]
  dsimp only
  rw [hutf8, Option.bind_some, Json.parse?_pretty (plain_answerJson numbers), Option.bind_some, h]
  rfl

/-- Two entries, of which the first is for the second text. -/
theorem embedBatch_by_index_swapped : ["a", "b"] ≠ [] ∧
    (answeredWith [(1, 2), (0, 1)]).Answers "m" ["a", "b"] ()
      [⟨1, [⟨0x40000000⟩]⟩, ⟨0, [⟨0x3F800000⟩]⟩] () ∧
    ∃ vectors, ((answeredWith [(1, 2), (0, 1)]).embedBatch "m" ["a", "b"]).run.run ()
      = (.ok vectors, ()) ∧ vectors[0]? = some [⟨0x3F800000⟩] := by
  have hne : ["a", "b"] ≠ [] := List.cons_ne_nil _ _
  have hanswers : (answeredWith [(1, 2), (0, 1)]).Answers "m" ["a", "b"] ()
      [⟨1, [⟨0x40000000⟩]⟩, ⟨0, [⟨0x3F800000⟩]⟩] () :=
    answers_answeredWith (by decide +kernel) "m" ["a", "b"]
  obtain ⟨vectors, hok, hat⟩ :=
    (embedBatch_by_index _ "m" ["a", "b"] () () _ hne hanswers).2.2 (by decide)
  exact ⟨hne, hanswers, vectors, hok, hat ⟨0, [⟨0x3F800000⟩]⟩ (by decide)⟩

/--
**An answer with an index twice is taken.** Not every answer that is taken has the indexes of the texts,
each once: two entries with the index of the first text are taken for the vectors of two texts.
-/
theorem not_embedBatch_checks_indexes : ¬ ∀ (c : BackendClient (StateM Unit)) (model : String)
    (texts : List String) (entries : List EmbeddingEntry), texts ≠ [] →
    c.Answers model texts () entries () →
    (∃ vectors, (c.embedBatch model texts).run.run () = (.ok vectors, ())) →
    (entries.map (·.index)).Perm (List.range texts.length) := by
  intro h
  have hanswers : (answeredWith [(0, 1), (0, 2)]).Answers "m" ["a", "b"] ()
      [⟨0, [⟨0x3F800000⟩]⟩, ⟨0, [⟨0x40000000⟩]⟩] () :=
    answers_answeredWith (by decide +kernel) "m" ["a", "b"]
  have hne : ["a", "b"] ≠ [] := List.cons_ne_nil _ _
  have hindexes := h _ "m" ["a", "b"] _ hne hanswers ⟨_, run_embedBatch hne hanswers⟩
  exact absurd hindexes (by decide)

end BackendClient

end Grounded
