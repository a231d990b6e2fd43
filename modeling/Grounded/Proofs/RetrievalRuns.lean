import Grounded.Proofs.BatchAlign
import Grounded.Proofs.TopPassages

/-!
# Retrievals compared

What a retrieval answers hangs together with what other retrievals answer for the same query. Whoever asks for
more passages, or for less of a score, gets the same passages first. The threshold may as well come before the
cut. And the passages that are not answered do not matter: without them, and without their rows, the index gives
the same answer.

All three rest on the ranking of the positions. It is strictly ordered, and what passes a threshold comes first
in it, so that a threshold leaves a first part of it (`filter_prefix_of_pairwise`). A ranking of fewer positions
is the ranking of all of them without the others, because the sort is stable (`mergeSort_filter`).
-/

namespace Grounded

/-- Whether `x` is as great as `y` as a number. A NaN is not as great as anything, nor is anything as a NaN. -/
def Single.ge (x y : Single) : Bool := !x.isNaN && !y.isNaN && y.signed ≤ x.signed

/-- What is above a threshold is above every lower one. -/
theorem Single.gt_of_ge {x bound lower : Single} (h : bound.ge lower = true)
    (hx : x.gt bound = true) : x.gt lower = true := by
  rw [ge, Bool.and_eq_true, Bool.and_eq_true, decide_eq_true_eq] at h
  rw [gt, Bool.and_eq_true, Bool.and_eq_true, decide_eq_true_eq] at hx ⊢
  exact ⟨⟨hx.1.1, h.1.2⟩, Int.lt_of_le_of_lt h.2 hx.2⟩

/-! ## First parts of lists -/

section Lists

variable {α : Type}

/-- If those that have a property come first, they are a first part of the list. -/
theorem filter_prefix_of_pairwise {p : α → Bool} {xs : List α}
    (h : xs.Pairwise fun a b => p b = true → p a = true) : xs.filter p <+: xs := by
  induction xs with
  | nil => exact List.nil_prefix
  | cons x xs ih =>
      obtain ⟨hx, hxs⟩ := List.pairwise_cons.mp h
      by_cases hpx : p x = true
      · rw [List.filter_cons_of_pos hpx]
        exact (List.prefix_cons_inj x).mpr (ih hxs)
      · have hnone : xs.filter p = [] :=
          List.filter_eq_nil_iff.mpr fun y hy hpy => hpx (hx y hy hpy)
        rw [List.filter_cons_of_neg hpx, hnone]
        exact List.nil_prefix

/-- A filter that keeps the first elements does not change them. -/
theorem take_filter_of_take {p : α → Bool} {xs : List α} {n : Nat} (h : ∀ x ∈ xs.take n, p x = true) :
    (xs.filter p).take n = xs.take n := by
  induction xs generalizing n with
  | nil => rw [List.filter_nil]
  | cons x xs ih =>
      cases n with
      | zero => rw [List.take_zero, List.take_zero]
      | succ n =>
          rw [List.take_succ_cons] at h ⊢
          obtain ⟨hx, hxs⟩ := List.forall_mem_cons.mp h
          rw [List.filter_cons_of_pos hx, List.take_succ_cons, ih hxs]

end Lists

/-! ## Some of the chunks -/

namespace Matrix

theorem length_row (m : Matrix) {n : Nat} (h : n < m.rows) : (m.row n).length = m.dims := by
  have hsize : (n + 1) * m.dims ≤ m.data.toList.length := by
    rw [Array.length_toList, m.size_data]
    exact Nat.mul_le_mul_right m.dims h
  rw [Nat.succ_mul] at hsize
  rw [row_eq, List.length_take, List.length_drop]
  omega

theorem length_flatMap_row (m : Matrix) {places : List Nat} (h : ∀ n ∈ places, n < m.rows) :
    (places.flatMap m.row).length = places.length * m.dims := by
  induction places with
  | nil => rw [List.flatMap_nil, List.length_nil, List.length_nil, Nat.zero_mul]
  | cons n places ih =>
      obtain ⟨hn, hplaces⟩ := List.forall_mem_cons.mp h
      rw [List.flatMap_cons, List.length_append, m.length_row hn, ih hplaces, List.length_cons,
        Nat.succ_mul, Nat.add_comm]

/-- The matrix of the rows at some places, as wide as before. -/
def select (m : Matrix) (places : List Nat) (h : ∀ n ∈ places, n < m.rows) : Matrix where
  rows := places.length
  dims := m.dims
  data := (places.flatMap m.row).toArray
  size_data := by rw [List.size_toArray, m.length_flatMap_row h]

theorem vectors_select (m : Matrix) {places : List Nat} (h : ∀ n ∈ places, n < m.rows) :
    (m.select places h).vectors = places.map m.row := by
  refine vectors_eq (List.length_map _).symm ?_ (List.flatMap_def ..)
  intro v hv
  obtain ⟨n, hn, rfl⟩ := List.mem_map.mp hv
  exact m.length_row (h n hn)

end Matrix

namespace KnowledgeIndex

/-- The positions that are kept, in the order of the index. -/
def kept (i : KnowledgeIndex) (keep : Fin i.chunks.length → Bool) : List (Fin i.chunks.length) :=
  (List.finRange i.chunks.length).filter keep

theorem lt_rows_of_mem_kept (i : KnowledgeIndex) (keep : Fin i.chunks.length → Bool) :
    ∀ n ∈ (i.kept keep).map Fin.val, n < i.matrix.rows := by
  intro n hn
  obtain ⟨place, _, rfl⟩ := List.mem_map.mp hn
  exact Nat.lt_of_lt_of_eq place.isLt i.aligned

/-- The index without the chunks that are not kept and without their rows. -/
def keeping (i : KnowledgeIndex) (keep : Fin i.chunks.length → Bool) : KnowledgeIndex where
  chunks := (i.kept keep).map i.chunks.get
  matrix := i.matrix.select ((i.kept keep).map Fin.val) (i.lt_rows_of_mem_kept keep)
  aligned := (List.length_map _).trans (List.length_map _).symm

variable (i : KnowledgeIndex) (query : List Single)

/-- What is kept has the scores that it had before. -/
theorem scored_keeping (keep : Fin i.chunks.length → Bool) :
    (i.keeping keep).scored query = (i.kept keep).map (i.passageAt query) := by
  rw [scored, Matrix.dot, keeping, Matrix.vectors_select, List.map_map, List.map_map, List.zipWith_map,
    List.zipWith_self]
  refine List.map_congr_left fun n _ => ?_
  rw [passageAt, scoreAt_eq_dot]
  rfl

/-- **The ranking of what is kept is the ranking without the rest.** -/
theorem rank_scored_keeping (keep : Fin i.chunks.length → Bool) :
    rank ((i.keeping keep).scored query)
      = ((i.ranking query).filter keep).map (i.passageAt query) := by
  rw [scored_keeping, rank_map_passageAt, kept, List.filter_comm,
    mergeSort_filter (i.rank_trans query) (i.rank_total query), ranking]

/-! ## Which positions are answered -/

/-- The positions that a retrieval answers with. -/
def answered (topK : Nat) (minScore : Single) : List (Fin i.chunks.length) :=
  if query.length = i.matrix.dims then
    ((i.ranking query).take topK).filter fun n => (i.scoreAt query n).gt minScore
  else []

end KnowledgeIndex

/-- A retrieval with a query of the right width ranks, cuts and filters. -/
theorem retrieve_of_width {i : KnowledgeIndex} {query : List Single}
    (h : query.length = i.matrix.dims) (topK : Nat) (minScore : Single) :
    retrieve (some i) query topK minScore
      = ((rank (i.scored query)).take topK).filter (·.score.gt minScore) := by
  by_cases hempty : i.isEmpty = true
  · have hscored : i.scored query = [] := by
      rw [KnowledgeIndex.scored, List.isEmpty_iff.mp hempty, List.zipWith_nil_left]
    simp only [retrieve, hempty, Bool.true_or, if_true]
    rw [hscored, rank, List.filter_nil, List.mergeSort_nil, List.take_nil, List.filter_nil]
  · simp only [retrieve, hempty, h, bne_self_eq_false, Bool.or_self, Bool.false_eq_true, if_false]

theorem retrieve_of_otherWidth {i : KnowledgeIndex} {query : List Single}
    (h : query.length ≠ i.matrix.dims) (topK : Nat) (minScore : Single) :
    retrieve (some i) query topK minScore = [] := by
  have hnone : (i.isEmpty || query.length != i.matrix.dims) = true := by
    rw [Bool.or_eq_true, bne_iff_ne]
    exact Or.inr h
  rw [retrieve, if_pos hnone]

namespace KnowledgeIndex

variable (i : KnowledgeIndex) (query : List Single)

/-- **The positions that are answered are those of the passages.** -/
theorem retrieve_eq_map_answered (topK : Nat) (minScore : Single) :
    retrieve (some i) query topK minScore
      = (i.answered query topK minScore).map (i.passageAt query) := by
  rw [answered]
  by_cases hwidth : query.length = i.matrix.dims
  · rw [if_pos hwidth, retrieve_of_width hwidth, rank_scored_eq_map, ← List.map_take, List.filter_map]
    rfl
  · rw [if_neg hwidth, retrieve_of_otherWidth hwidth, List.map_nil]

/-- Only finite scores are answered. -/
theorem isFinite_of_mem_answered {topK : Nat} {minScore : Single} {n : Fin i.chunks.length}
    (h : n ∈ i.answered query topK minScore) : (i.scoreAt query n).isFinite = true := by
  rw [answered] at h
  split at h
  · exact (i.mem_ranking query).mp (List.mem_of_mem_take (List.mem_filter.mp h).1)
  · cases h

/-- In the ranking, what is above a threshold comes first. -/
theorem pairwise_gt_ranking (minScore : Single) : (i.ranking query).Pairwise fun m n =>
    (i.scoreAt query n).gt minScore = true → (i.scoreAt query m).gt minScore = true := by
  refine (i.pairwise_ranking query).imp_of_mem ?_
  intro m n hm hn hbefore hgt
  have hpasses : i.passes query minScore n = true := by
    rw [passes, (i.mem_ranking query).mp hn, hgt, Bool.and_self]
  have hfirst := i.passes_of_before query ((i.mem_ranking query).mp hm) hbefore hpasses
  rw [passes, Bool.and_eq_true] at hfirst
  exact hfirst.2

/-- **The cut and the threshold change places,** also where only some positions are ranked. -/
theorem filter_take_sublist_ranking {positions : List (Fin i.chunks.length)}
    (h : positions.Sublist (i.ranking query)) (topK : Nat) (minScore : Single) :
    (positions.take topK).filter (fun n => (i.scoreAt query n).gt minScore)
      = (positions.filter fun n => (i.scoreAt query n).gt minScore).take topK :=
  filter_take_of_pairwise ((i.pairwise_gt_ranking query minScore).sublist h) topK

/-- **A higher threshold and an earlier cut answer with a first part.** -/
theorem answered_isPrefix {topK more : Nat} {minScore lower : Single} (hmore : topK ≤ more)
    (hlower : minScore.ge lower = true) :
    i.answered query topK minScore <+: i.answered query more lower := by
  rw [answered, answered]
  by_cases hwidth : query.length = i.matrix.dims
  · rw [if_pos hwidth, if_pos hwidth, i.filter_take_sublist_ranking query (List.Sublist.refl _),
      i.filter_take_sublist_ranking query (List.Sublist.refl _)]
    have hboth : (i.ranking query).filter (fun n => (i.scoreAt query n).gt minScore)
        = ((i.ranking query).filter fun n => (i.scoreAt query n).gt lower).filter
          fun n => (i.scoreAt query n).gt minScore := by
      rw [List.filter_filter]
      refine List.filter_congr fun n _ => ?_
      by_cases hn : (i.scoreAt query n).gt minScore = true
      · rw [hn, Single.gt_of_ge hlower hn, Bool.and_self]
      · rw [Bool.not_eq_true] at hn
        rw [hn, Bool.false_and]
    rw [hboth]
    refine (List.IsPrefix.take ?_ topK).trans (List.take_prefix_take_left hmore)
    exact filter_prefix_of_pairwise
      ((i.pairwise_gt_ranking query minScore).sublist List.filter_sublist)
  · rw [if_neg hwidth]
    exact List.nil_prefix

/-- **Without chunks that are not answered the answer is the same.** -/
theorem retrieve_keeping {topK : Nat} {minScore : Single} {keep : Fin i.chunks.length → Bool}
    (hkeep : ∀ n ∈ i.answered query topK minScore, keep n = true) :
    retrieve (some (i.keeping keep)) query topK minScore = retrieve (some i) query topK minScore := by
  by_cases hwidth : query.length = i.matrix.dims
  · rw [answered, if_pos hwidth, i.filter_take_sublist_ranking query (List.Sublist.refl _)] at hkeep
    have hsub : ((i.ranking query).filter keep).Sublist (i.ranking query) := List.filter_sublist
    have hsame : (((i.ranking query).filter keep).take topK).filter
          (fun n => (i.scoreAt query n).gt minScore)
        = ((i.ranking query).take topK).filter fun n => (i.scoreAt query n).gt minScore := by
      rw [i.filter_take_sublist_ranking query hsub, List.filter_comm, take_filter_of_take hkeep,
        i.filter_take_sublist_ranking query (List.Sublist.refl _)]
    rw [i.retrieve_eq_map_answered, answered, if_pos hwidth, ← hsame,
      retrieve_of_width (i := i.keeping keep) hwidth, rank_scored_keeping, ← List.map_take,
      List.filter_map]
    rfl
  · rw [retrieve_of_otherWidth hwidth, retrieve_of_otherWidth (i := i.keeping keep) hwidth]

end KnowledgeIndex

/-! ## Pairs of retrievals -/

/-- A retrieval that applies the threshold before the cut. -/
def retrieveCutLast (index : Option KnowledgeIndex) (query : List Single) (topK : Nat)
    (minScore : Single) : List Passage :=
  match index with
  | none => []
  | some i =>
    if i.isEmpty || query.length != i.matrix.dims then []
    else ((rank (i.scored query)).filter (·.score.gt minScore)).take topK

theorem retrieve_eq_cutLast (index : Option KnowledgeIndex) (query : List Single) (topK : Nat)
    (minScore : Single) :
    retrieve index query topK minScore = retrieveCutLast index query topK minScore := by
  cases index with
  | none => rfl
  | some i =>
      have hswap : ((rank (i.scored query)).take topK).filter (·.score.gt minScore)
          = ((rank (i.scored query)).filter (·.score.gt minScore)).take topK := by
        have hpositions := i.filter_take_sublist_ranking query (List.Sublist.refl _) topK minScore
        rw [i.rank_scored_eq_map, ← List.map_take, List.filter_map, List.filter_map, ← List.map_take]
        exact congrArg (List.map (i.passageAt query)) hpositions
      rw [retrieve, retrieveCutLast, hswap]

/-- The threshold may even come before the ranking. -/
theorem rank_filter (p : Passage → Bool) (passages : List Passage) :
    rank (passages.filter p) = (rank passages).filter p := by
  have htrans : ∀ a b c : Passage, decide (b.score.rank ≤ a.score.rank) = true →
      decide (c.score.rank ≤ b.score.rank) = true → decide (c.score.rank ≤ a.score.rank) = true := by
    intro a b c hab hbc
    rw [decide_eq_true_eq] at hab hbc ⊢
    omega
  have htotal : ∀ a b : Passage, (decide (b.score.rank ≤ a.score.rank) ||
      decide (a.score.rank ≤ b.score.rank)) = true := by
    intro a b
    rw [Bool.or_eq_true, decide_eq_true_eq, decide_eq_true_eq]
    omega
  rw [rank, rank, List.filter_comm, mergeSort_filter htrans htotal]

/--
**Retrievals for one query agree.** Whoever asks for no more passages and for no lower a score gets a first part of
the answer. The threshold can be applied after the cut, before it or before the ranking. And if chunks are removed
with their rows, none of them at a position that is answered, the answer stays the same; positions whose score is
not finite are never answered.
-/
theorem retrieve_consistent (query : List Single) :
    (∀ (index : Option KnowledgeIndex) (topK more : Nat) (minScore lower : Single),
      topK ≤ more → minScore.ge lower = true →
        retrieve index query topK minScore <+: retrieve index query more lower) ∧
    (∀ (index : Option KnowledgeIndex) (topK : Nat) (minScore : Single),
      retrieve index query topK minScore = retrieveCutLast index query topK minScore) ∧
    (∀ (passages : List Passage) (minScore : Single),
      rank (passages.filter (·.score.gt minScore)) = (rank passages).filter (·.score.gt minScore)) ∧
    ∀ (i : KnowledgeIndex) (topK : Nat) (minScore : Single),
      retrieve (some i) query topK minScore
        = (i.answered query topK minScore).map (i.passageAt query) ∧
      (∀ n ∈ i.answered query topK minScore, (i.scoreAt query n).isFinite = true) ∧
      ∀ keep : Fin i.chunks.length → Bool,
        (∀ n ∈ i.answered query topK minScore, keep n = true) →
          retrieve (some (i.keeping keep)) query topK minScore
            = retrieve (some i) query topK minScore := by
  refine ⟨?_, fun index topK minScore => retrieve_eq_cutLast index query topK minScore,
    fun passages minScore => rank_filter _ passages, fun i topK minScore => ⟨?_, ?_, ?_⟩⟩
  · intro index topK more minScore lower hmore hlower
    cases index with
    | none => exact List.prefix_rfl
    | some i =>
        rw [i.retrieve_eq_map_answered, i.retrieve_eq_map_answered]
        exact (i.answered_isPrefix query hmore hlower).map _
  · exact i.retrieve_eq_map_answered query topK minScore
  · exact fun n hn => i.isFinite_of_mem_answered query hn
  · exact fun keep hkeep => i.retrieve_keeping query hkeep

/-- Without the broken passage, and without one that was cut, the same two are answered. -/
theorem retrieve_consistent_graded :
    2 ≤ 4 ∧ (⟨0x3F000000⟩ : Single).ge ⟨0xBF800000⟩ = true ∧
      retrieve (some graded) ones 2 ⟨0x3F000000⟩ <+: retrieve (some graded) ones 4 ⟨0xBF800000⟩ ∧
      (∀ n ∈ graded.answered ones 2 ⟨0x3F000000⟩, [0, 2, 4].contains n.val = true) ∧
      retrieve (some (graded.keeping fun n => [0, 2, 4].contains n.val)) ones 2 ⟨0x3F000000⟩
        = retrieve (some graded) ones 2 ⟨0x3F000000⟩ := by
  -- the finite scores stand in the index from the highest to the lowest
  have hranking : graded.ranking ones = (List.finRange graded.chunks.length).filter (·.val ≠ 1) := by
    have hfinite : (List.finRange graded.chunks.length).filter (fun n => (graded.scoreAt ones n).isFinite)
        = (List.finRange graded.chunks.length).filter (·.val ≠ 1) := by
      decide +kernel
    rw [KnowledgeIndex.ranking, hfinite]
    exact List.mergeSort_of_pairwise (by decide +kernel)
  have hkeep : ∀ n ∈ graded.answered ones 2 ⟨0x3F000000⟩, [0, 2, 4].contains n.val = true := by
    rw [KnowledgeIndex.answered, hranking]
    decide +kernel
  obtain ⟨hfirst, _, _, hremoved⟩ := retrieve_consistent ones
  exact ⟨by decide, by decide, hfirst (some graded) 2 4 ⟨0x3F000000⟩ ⟨0xBF800000⟩ (by decide) (by decide), hkeep,
    (hremoved graded 2 ⟨0x3F000000⟩).2.2 _ hkeep⟩

end Grounded
