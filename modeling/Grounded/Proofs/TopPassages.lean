import Mathlib.Data.List.Basic
import Mathlib.Data.List.Perm.Subperm
import Grounded.Proofs.BatchAlign
import Grounded.Proofs.IndexBounds

/-!
# The best passages

Retrieval sorts the finite scores, cuts the list and only then applies the threshold. `TopPositions` says
what comes out without any of these steps: which positions of the index are answered, in which order,
how many of them there are, and that nothing better was left out.

Two facts carry the proof. A stable sort keeps every class of equal scores as it stood in the index. And
the total order of the scores agrees with their order as numbers as far as a threshold can tell, so that
what passes the threshold comes first in the sorted list, and the cut and the threshold can change places.
-/

namespace Grounded

/-! ## The total order and the threshold -/

namespace Single

/-- The total order tells all bit patterns apart. -/
theorem eq_of_rank_eq {x y : Single} (h : x.rank = y.rank) : x = y := by
  have hx : x.bits.toNat < 0x100000000 := x.bits.toNat_lt
  have hy : y.bits.toNat < 0x100000000 := y.bits.toNat_lt
  have hbits : x.bits.toNat = y.bits.toNat := by
    simp only [rank, isNegative, magnitude] at h
    by_cases hnx : 0x80000000 ≤ x.bits.toNat
    · by_cases hny : 0x80000000 ≤ y.bits.toNat
      · simp only [hnx, hny, decide_true, if_true] at h
        omega
      · simp only [hnx, hny, decide_true, decide_false, if_true, Bool.false_eq_true, if_false] at h
        omega
    · by_cases hny : 0x80000000 ≤ y.bits.toNat
      · simp only [hnx, hny, decide_true, decide_false, if_true, Bool.false_eq_true, if_false] at h
        omega
      · simp only [hnx, hny, decide_false, Bool.false_eq_true, if_false] at h
        omega
  cases x
  cases y
  rw [mk.injEq, ← UInt32.toNat_inj]
  exact hbits

/-- What is not lower in the total order is not less as a number. -/
theorem signed_le_of_rank_le {x y : Single} (h : x.rank ≤ y.rank) : x.signed ≤ y.signed := by
  rw [rank, rank] at h
  rw [signed, signed]
  -- only the negative zero has a place below another zero
  by_cases hx : x.isNegative = true
  · by_cases hy : y.isNegative = true
    · rw [if_pos hx, if_pos hy] at h ⊢
      omega
    · rw [if_pos hx, if_neg hy] at h ⊢
      omega
  · by_cases hy : y.isNegative = true
    · rw [if_neg hx, if_pos hy] at h ⊢
      omega
    · rw [if_neg hx, if_neg hy] at h ⊢
      omega

theorem not_isNaN_of_isFinite {x : Single} (h : x.isFinite = true) : x.isNaN = false := by
  rw [isFinite, decide_eq_true_eq] at h
  rw [isNaN, decide_eq_false_iff_not]
  omega

/-- **A threshold that a finite score exceeds is exceeded by every finite score that is not lower.** -/
theorem gt_of_rank_le {x y bound : Single} (hy : y.isFinite = true) (h : x.rank ≤ y.rank)
    (hx : x.gt bound = true) : y.gt bound = true := by
  rw [gt, Bool.and_eq_true, Bool.and_eq_true, decide_eq_true_eq] at hx ⊢
  obtain ⟨⟨_, hbound⟩, hlt⟩ := hx
  refine ⟨⟨?_, hbound⟩, Int.lt_of_lt_of_le hlt (signed_le_of_rank_le h)⟩
  rw [not_isNaN_of_isFinite hy]
  rfl

end Single

/-! ## Stable sorting and cutting -/

section Lists

variable {α : Type} {le : α → α → Bool}

/-- A new element stands behind those that it is not below, and before all others. -/
theorem parts_mergeSort (trans : ∀ a b c, le a b = true → le b c = true → le a c = true)
    (total : ∀ a b, (le a b || le b a) = true) {x : α} {xs front back : List α}
    (h : (x :: xs).mergeSort le = front ++ x :: back) (hfront : ∀ y ∈ front, (!le x y) = true) :
    front = (front ++ back).filter (fun y => !le x y) ∧ back = (front ++ back).filter (le x) := by
  have hsorted := List.pairwise_mergeSort trans total (x :: xs)
  rw [h] at hsorted
  have hback : ∀ y ∈ back, le x y = true :=
    (List.pairwise_cons.mp (List.pairwise_append.mp hsorted).2.1).1
  have hnotBack : back.filter (fun y => !le x y) = [] :=
    List.filter_eq_nil_iff.mpr fun y hy => by rw [hback y hy]; decide
  have hnotFront : front.filter (le x) = [] :=
    List.filter_eq_nil_iff.mpr fun y hy => by
      rw [Bool.not_eq_true, ← Bool.not_eq_true']
      exact hfront y hy
  rw [List.filter_append, List.filter_append, List.filter_eq_self.mpr hfront, hnotBack, hnotFront,
    List.filter_eq_self.mpr hback, List.append_nil]
  exact ⟨rfl, rfl⟩

/-- **A stable sort and a filter change places.** -/
theorem mergeSort_filter (trans : ∀ a b c, le a b = true → le b c = true → le a c = true)
    (total : ∀ a b, (le a b || le b a) = true) (p : α → Bool) (xs : List α) :
    (xs.filter p).mergeSort le = (xs.mergeSort le).filter p := by
  induction xs with
  | nil => rw [List.filter_nil, List.mergeSort_nil, List.filter_nil]
  | cons x xs ih =>
      obtain ⟨l₁, l₂, hall, hrest, hfront⟩ := List.mergeSort_cons trans total x xs
      by_cases hx : p x = true
      · obtain ⟨k₁, k₂, hkept, hothers, hkfront⟩ := List.mergeSort_cons trans total x (xs.filter p)
        obtain ⟨hl₁, hl₂⟩ := parts_mergeSort trans total hall hfront
        obtain ⟨hk₁, hk₂⟩ := parts_mergeSort trans total hkept hkfront
        rw [ih, hrest] at hothers
        have hfirst : k₁ = l₁.filter p := by
          rw [hk₁, ← hothers, List.filter_comm, ← hl₁]
        have hsecond : k₂ = l₂.filter p := by
          rw [hk₂, ← hothers, List.filter_comm, ← hl₂]
        rw [List.filter_cons_of_pos hx, hkept, hall, List.filter_append, List.filter_cons_of_pos hx,
          hfirst, hsecond]
      · rw [List.filter_cons_of_neg hx, ih, hrest, hall, List.filter_append, List.filter_append,
          List.filter_cons_of_neg hx]

/-- **A stable sort keeps a class of elements that are all equal to it in their order.** -/
theorem filter_mergeSort (trans : ∀ a b c, le a b = true → le b c = true → le a c = true)
    (total : ∀ a b, (le a b || le b a) = true) {p : α → Bool}
    (hp : ∀ a b, p a = true → p b = true → le a b = true) (xs : List α) :
    (xs.mergeSort le).filter p = xs.filter p := by
  have hsorted : (xs.filter p).Pairwise fun a b => le a b = true := by
    refine List.pairwise_of_forall_mem_list ?_
    intro a ha b hb
    exact hp a b (List.mem_filter.mp ha).2 (List.mem_filter.mp hb).2
  rw [← mergeSort_filter trans total, List.mergeSort_of_pairwise hsorted]

/-- What a property leaves of the first elements, if those that have it come first. -/
theorem filter_take_of_pairwise {p : α → Bool} {xs : List α}
    (h : xs.Pairwise fun a b => p b = true → p a = true) (n : Nat) :
    (xs.take n).filter p = (xs.filter p).take n := by
  induction xs generalizing n with
  | nil => rw [List.take_nil, List.filter_nil, List.take_nil]
  | cons x xs ih =>
      obtain ⟨hx, hxs⟩ := List.pairwise_cons.mp h
      cases n with
      | zero => rw [List.take_zero, List.take_zero, List.filter_nil]
      | succ n =>
          by_cases hpx : p x = true
          · rw [List.take_succ_cons, List.filter_cons_of_pos hpx, List.filter_cons_of_pos hpx,
              List.take_succ_cons, ih hxs]
          · -- then no later element has the property either
            have hnone : ∀ ys : List α, (∀ y ∈ ys, y ∈ xs) → ys.filter p = [] := by
              intro ys hys
              rw [List.filter_eq_nil_iff]
              intro y hy hpy
              exact hpx (hx y (hys y hy) hpy)
            rw [List.take_succ_cons, List.filter_cons_of_neg hpx, List.filter_cons_of_neg hpx,
              hnone xs (fun y hy => hy), hnone (xs.take n) (fun y hy => List.mem_of_mem_take hy),
              List.take_nil]

end Lists

/-! ## Positions -/

namespace KnowledgeIndex

variable (i : KnowledgeIndex) (query : List Single)

/--
The score at a position: the products of the numbers of its row and of the query, summed up from left to
right. The numbers of a row stand behind those of the rows before it, and are as many as the matrix is wide.
-/
def scoreAt (n : Fin i.chunks.length) : Single :=
  (List.zipWith Single.mul ((i.matrix.data.toList.drop (n * i.matrix.dims)).take i.matrix.dims)
    query).foldl Single.add Single.negativeZero

theorem scoreAt_eq_dot (n : Fin i.chunks.length) :
    i.scoreAt query n = Single.dot (i.matrix.row n) query := by
  rw [scoreAt, Single.dot, Single.sum, Matrix.row_eq]

/-- The chunk at a position with the dot product of its own row. -/
def passageAt (n : Fin i.chunks.length) : Passage := ⟨i.chunks[n], i.scoreAt query n⟩

/-- Whether the score at a position is finite and above the threshold. -/
def passes (minScore : Single) (n : Fin i.chunks.length) : Bool :=
  (i.scoreAt query n).isFinite && (i.scoreAt query n).gt minScore

/--
Whether a position comes before another: by the higher score in the total order, and by the place in the
index where the scores are the same.
-/
def Before (m n : Fin i.chunks.length) : Prop :=
  (i.scoreAt query n).rank < (i.scoreAt query m).rank ∨
    i.scoreAt query m = i.scoreAt query n ∧ m < n

/-- The positions of the best passages above a threshold, the best first. -/
structure TopPositions (topK : Nat) (minScore : Single) (positions : List (Fin i.chunks.length)) :
    Prop where
  distinct : positions.Nodup
  passing : ∀ n ∈ positions, i.passes query minScore n = true
  ordered : positions.Pairwise (i.Before query)
  length : positions.length
    = min topK ((List.finRange i.chunks.length).countP (i.passes query minScore))
  best : ∀ n, n ∉ positions → i.passes query minScore n = true → ∀ m ∈ positions, i.Before query m n

instance (m n : Fin i.chunks.length) : Decidable (i.Before query m n) :=
  inferInstanceAs (Decidable (_ ∨ _))

theorem Before.asymm {i : KnowledgeIndex} {query : List Single} {m n : Fin i.chunks.length}
    (h : i.Before query m n) : ¬ i.Before query n m := by
  intro hback
  rcases h with hlt | ⟨heq, hlt⟩
  · rcases hback with hgt | ⟨heq, _⟩
    · exact absurd hlt (Int.lt_asymm hgt)
    · rw [heq] at hlt
      exact Int.lt_irrefl _ hlt
  · rcases hback with hgt | ⟨_, hgt⟩
    · rw [heq] at hgt
      exact Int.lt_irrefl _ hgt
    · exact absurd hlt (Fin.lt_asymm hgt)

/-- The best positions are determined. -/
theorem TopPositions.unique {i : KnowledgeIndex} {query : List Single} {topK : Nat} {minScore : Single}
    {positions others : List (Fin i.chunks.length)} (h : i.TopPositions query topK minScore positions)
    (hother : i.TopPositions query topK minScore others) : positions = others := by
  have hsubset : ∀ {ms ns}, i.TopPositions query topK minScore ms → i.TopPositions query topK minScore ns →
      ms ⊆ ns := by
    intro ms ns hms hns n hn
    by_contra hout
    -- as there are as many of both, one of the others is missing too, and each would come before the other
    obtain ⟨m, hm, hmissing⟩ : ∃ m ∈ ns, m ∉ ms := by
      by_contra hnone
      have hback : ns ⊆ ms := fun m hm => by_contra fun hmissing => hnone ⟨m, hm, hmissing⟩
      have hsame := (List.subperm_of_subset hns.distinct hback).perm_of_length_le
        (Nat.le_of_eq (hms.length.trans hns.length.symm))
      exact hout (hsame.mem_iff.mpr hn)
    have hafter := hns.best n hout (hms.passing n hn) m hm
    exact hafter.asymm (hms.best m hmissing (hns.passing m hm) n hn)
  have hperm : positions.Perm others := (List.perm_ext_iff_of_nodup h.distinct hother.distinct).mpr
    fun n => ⟨fun hn => hsubset h hother hn, fun hn => hsubset hother h hn⟩
  exact List.Perm.eq_of_pairwise (fun _ _ _ _ hbefore hafter => absurd hafter hbefore.asymm) h.ordered
    hother.ordered hperm

/-- The positions with finite scores, the best first. -/
def ranking : List (Fin i.chunks.length) :=
  ((List.finRange i.chunks.length).filter fun n => (i.scoreAt query n).isFinite).mergeSort
    fun m n => (i.scoreAt query n).rank ≤ (i.scoreAt query m).rank

/-- The passages of an index are those of its positions. -/
theorem scored_eq_map : i.scored query = (List.finRange i.chunks.length).map (i.passageAt query) := by
  refine List.ext_getElem ?_ ?_
  · rw [scored, List.length_zipWith, List.length_map, List.length_finRange,
      RawIndex.length_dot, Nat.min_self]
  · intro n hn hn'
    simp only [scored, List.getElem_zipWith, List.getElem_map, List.getElem_finRange, passageAt,
      scoreAt_eq_dot, Matrix.dot, Matrix.vectors, List.getElem_range]
    rfl

/-- Ranking passages ranks their positions. -/
theorem rank_map_passageAt (positions : List (Fin i.chunks.length)) :
    rank (positions.map (i.passageAt query))
      = ((positions.filter fun n => (i.scoreAt query n).isFinite).mergeSort fun m n =>
          (i.scoreAt query n).rank ≤ (i.scoreAt query m).rank).map (i.passageAt query) := by
  rw [rank, List.filter_map, List.map_mergeSort]
  · rfl
  · intro m _ n _
    rfl

theorem rank_scored_eq_map :
    rank (i.scored query) = (i.ranking query).map (i.passageAt query) := by
  rw [scored_eq_map, rank_map_passageAt, ranking]

theorem mem_ranking {n : Fin i.chunks.length} :
    n ∈ i.ranking query ↔ (i.scoreAt query n).isFinite = true := by
  rw [ranking, List.mem_mergeSort, List.mem_filter]
  exact ⟨fun h => h.2, fun h => ⟨List.mem_finRange n, h⟩⟩

theorem rank_trans (a b c : Fin i.chunks.length)
    (hab : decide ((i.scoreAt query b).rank ≤ (i.scoreAt query a).rank) = true)
    (hbc : decide ((i.scoreAt query c).rank ≤ (i.scoreAt query b).rank) = true) :
    decide ((i.scoreAt query c).rank ≤ (i.scoreAt query a).rank) = true := by
  rw [decide_eq_true_eq] at hab hbc ⊢
  omega

theorem rank_total (a b : Fin i.chunks.length) :
    (decide ((i.scoreAt query b).rank ≤ (i.scoreAt query a).rank) ||
      decide ((i.scoreAt query a).rank ≤ (i.scoreAt query b).rank)) = true := by
  rw [Bool.or_eq_true, decide_eq_true_eq, decide_eq_true_eq]
  omega

/-- **The ranking is ordered,** equal scores as they stand in the index. -/
theorem pairwise_ranking : (i.ranking query).Pairwise (i.Before query) := by
  refine List.pairwise_of_forall_sublist ?_
  intro m n hsub
  have hsorted := List.pairwise_mergeSort (i.rank_trans query) (i.rank_total query)
    ((List.finRange i.chunks.length).filter fun n => (i.scoreAt query n).isFinite)
  have hle : (i.scoreAt query n).rank ≤ (i.scoreAt query m).rank :=
    of_decide_eq_true (List.pairwise_iff_forall_sublist.mp hsorted hsub)
  by_cases heq : (i.scoreAt query n).rank = (i.scoreAt query m).rank
  · -- the class of this score stands in the ranking as in the index
    have hclass := filter_mergeSort (i.rank_trans query) (i.rank_total query)
      (p := fun l => (i.scoreAt query l).rank == (i.scoreAt query m).rank)
      (by
        intro a b ha hb
        rw [beq_iff_eq] at ha hb
        rw [decide_eq_true_eq]
        omega)
      ((List.finRange i.chunks.length).filter fun n => (i.scoreAt query n).isFinite)
    have hfiltered := hsub.filter fun l => (i.scoreAt query l).rank == (i.scoreAt query m).rank
    rw [ranking, hclass] at hfiltered
    have hpair : [m, n].filter (fun l => (i.scoreAt query l).rank == (i.scoreAt query m).rank)
        = [m, n] := by
      rw [List.filter_eq_self]
      intro l hl
      rw [beq_iff_eq]
      rcases List.mem_cons.mp hl with rfl | hl
      · rfl
      · rw [List.mem_singleton.mp hl]
        exact heq
    rw [hpair] at hfiltered
    have hindex := (hfiltered.trans List.filter_sublist).trans List.filter_sublist
    refine Or.inr ⟨Single.eq_of_rank_eq heq.symm, ?_⟩
    exact List.pairwise_iff_forall_sublist.mp (List.pairwise_lt_finRange _) hindex
  · exact Or.inl (by omega)

theorem nodup_ranking : (i.ranking query).Nodup := by
  rw [ranking, (List.mergeSort_perm _ _).nodup_iff]
  exact (List.nodup_finRange _).filter _

/-- What comes first passes the threshold if anything after it does. -/
theorem passes_of_before {minScore : Single} {m n : Fin i.chunks.length}
    (hm : (i.scoreAt query m).isFinite = true) (h : i.Before query m n)
    (hn : i.passes query minScore n = true) : i.passes query minScore m = true := by
  rw [passes, Bool.and_eq_true] at hn ⊢
  refine ⟨hm, ?_⟩
  rcases h with hlt | ⟨heq, _⟩
  · exact Single.gt_of_rank_le hm (Int.le_of_lt hlt) hn.2
  · rw [heq]
    exact hn.2

/-- The positions that are answered: those of the ranking that pass the threshold, up to the cut. -/
def topPositions (topK : Nat) (minScore : Single) : List (Fin i.chunks.length) :=
  ((i.ranking query).filter (i.passes query minScore)).take topK

/-- The cut and the threshold change places. -/
theorem filter_take_ranking (topK : Nat) (minScore : Single) :
    ((rank (i.scored query)).take topK).filter (·.score.gt minScore)
      = (i.topPositions query topK minScore).map (i.passageAt query) := by
  have hpairwise : (i.ranking query).Pairwise fun m n =>
      i.passes query minScore n = true → i.passes query minScore m = true := by
    refine (i.pairwise_ranking query).imp_of_mem ?_
    intro m n hm _ hbefore
    exact i.passes_of_before query ((i.mem_ranking query).mp hm) hbefore
  -- in the ranking every score is finite, so the threshold is all that is left to check
  have hfinite : ((i.ranking query).take topK).filter (fun n => (i.scoreAt query n).gt minScore)
      = ((i.ranking query).take topK).filter (i.passes query minScore) := by
    refine List.filter_congr ?_
    intro n hn
    have hn := (i.mem_ranking query).mp (List.mem_of_mem_take hn)
    rw [passes, hn, Bool.true_and]
  rw [rank_scored_eq_map, ← List.map_take, List.filter_map, topPositions,
    ← filter_take_of_pairwise hpairwise, ← hfinite]
  rfl

/-- **The positions that are answered are the best ones.** -/
theorem isTop_topPositions (topK : Nat) (minScore : Single) :
    i.TopPositions query topK minScore (i.topPositions query topK minScore) := by
  have hsub : (i.topPositions query topK minScore).Sublist (i.ranking query) :=
    (List.take_sublist _ _).trans List.filter_sublist
  have hpass : ((i.ranking query).filter (i.passes query minScore)).Pairwise (i.Before query) :=
    (i.pairwise_ranking query).sublist List.filter_sublist
  refine ⟨(i.nodup_ranking query).sublist hsub, ?_, (i.pairwise_ranking query).sublist hsub, ?_, ?_⟩
  · intro n hn
    exact (List.mem_filter.mp (List.mem_of_mem_take hn)).2
  · -- everything that passes is finite, so the ranking has all of it
    have hcount : ((i.ranking query).filter (i.passes query minScore)).length
        = (List.finRange i.chunks.length).countP (i.passes query minScore) := by
      rw [ranking, ((List.mergeSort_perm _ _).filter _).length_eq, List.filter_filter,
        List.countP_eq_length_filter]
      refine congrArg List.length (List.filter_congr ?_)
      intro n _
      rw [passes, Bool.and_right_comm, Bool.and_self]
    rw [topPositions, List.length_take, hcount]
  · -- what passes and was cut stands behind the cut
    intro n hout hn m hm
    have hfinite : (i.scoreAt query n).isFinite = true := by
      rw [passes, Bool.and_eq_true] at hn
      exact hn.1
    have hmem : n ∈ (i.ranking query).filter (i.passes query minScore) :=
      List.mem_filter.mpr ⟨(i.mem_ranking query).mpr hfinite, hn⟩
    rw [← List.take_append_drop topK ((i.ranking query).filter _)] at hmem hpass
    rcases List.mem_append.mp hmem with hin | hafter
    · exact absurd hin hout
    · exact (List.pairwise_append.mp hpass).2.2 m hm n hafter

end KnowledgeIndex

/--
**Retrieval answers with the best passages.** For a query as wide as the index, the passages answered are
those at distinct positions, each with the score of its own row, finite and above the threshold; they are
ordered by the total order of the scores and by the index where scores are the same; there are as many of
them as asked for, or all there are; and whatever passes and is not among them comes after all of them.
Without an index, with an empty one or with a query of another width there is no passage.
-/
theorem retrieve_best (query : List Single) (topK : Nat) (minScore : Single) :
    (∀ i : KnowledgeIndex, query.length = i.matrix.dims →
      ∃ positions : List (Fin i.chunks.length), i.TopPositions query topK minScore positions ∧
        retrieve (some i) query topK minScore = positions.map (i.passageAt query)) ∧
    retrieve none query topK minScore = [] ∧
    ∀ i : KnowledgeIndex, i.chunks = [] ∨ query.length ≠ i.matrix.dims →
      retrieve (some i) query topK minScore = [] := by
  refine ⟨?_, rfl, ?_⟩
  · intro i hwidth
    refine ⟨i.topPositions query topK minScore, i.isTop_topPositions query topK minScore, ?_⟩
    rw [← i.filter_take_ranking query topK minScore]
    by_cases hempty : i.isEmpty = true
    · -- an empty index has no positions to rank
      have hscored : i.scored query = [] := by
        rw [KnowledgeIndex.scored, List.isEmpty_iff.mp hempty, List.zipWith_nil_left]
      simp only [retrieve, hempty, Bool.true_or, if_true]
      rw [hscored, rank, List.filter_nil, List.mergeSort_nil, List.take_nil, List.filter_nil]
    · simp only [retrieve, hempty, hwidth, bne_self_eq_false, Bool.or_self, Bool.false_eq_true,
        if_false]
  · intro i h
    have hnone : (i.isEmpty || query.length != i.matrix.dims) = true := by
      rw [Bool.or_eq_true, bne_iff_ne]
      rcases h with hempty | hwidth
      · exact Or.inl (List.isEmpty_iff.mpr hempty)
      · exact Or.inr hwidth
    rw [retrieve, if_pos hnone]

/--
An index whose rows have the products 3, none that is a number, 1, 1 again and 0 with the query of two ones.
-/
def graded : KnowledgeIndex where
  chunks := [⟨"best", "a", "", .docs⟩, ⟨"broken", "b", "", .code⟩, ⟨"first", "c", "", .docs⟩,
    ⟨"second", "d", "", .design⟩, ⟨"low", "e", "", .docs⟩]
  matrix :=
    { rows := 5
      dims := 2
      data := #[⟨0x40000000⟩, ⟨0x3F800000⟩, .nan, ⟨0x3F800000⟩, ⟨0x3F800000⟩, ⟨0⟩, ⟨0⟩, ⟨0x3F800000⟩,
        ⟨0⟩, ⟨0⟩]
      size_data := rfl }
  aligned := rfl

/-- The query of two ones. -/
def ones : List Single := [⟨0x3F800000⟩, ⟨0x3F800000⟩]

/-- Of the passages with equal scores the first one is answered, and the broken one is not. -/
theorem retrieve_best_graded : ones.length = graded.matrix.dims ∧
    retrieve (some graded) ones 2 ⟨0x3F000000⟩
      = [⟨⟨"best", "a", "", .docs⟩, ⟨0x40400000⟩⟩, ⟨⟨"first", "c", "", .docs⟩, ⟨0x3F800000⟩⟩] := by
  refine ⟨rfl, ?_⟩
  obtain ⟨positions, htop, hpositions⟩ := (retrieve_best ones 2 ⟨0x3F000000⟩).1 graded rfl
  have hbest : graded.TopPositions ones 2 ⟨0x3F000000⟩ [⟨0, by decide⟩, ⟨2, by decide⟩] :=
    ⟨by decide, by decide +kernel, by decide +kernel, by decide +kernel, by decide +kernel⟩
  rw [hpositions, htop.unique hbest]
  decide +kernel

end Grounded
