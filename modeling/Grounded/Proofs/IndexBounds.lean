import Grounded.Proofs.RawIndex
import Grounded.Retrieval.Basic

/-!
# Retrieval in bounds

Rows are slices of the numbers, and passages are found by the number of their row. Here both are looked
up with bounds: a slice whose ends overflow a machine word or lie outside of the numbers is `none`, and
so is a chunk that is not there. `Pool` is a program that makes matrices and indexes in any order and
from anything. Each index that it ever holds has a row for every chunk and the numbers of its shape, so
that no lookup is `none` and retrieval gives what it gives on the index with its proofs.
-/

namespace Grounded

open Text

/-! ## Checked lookups -/

namespace RawMatrix

/-- The sum, unless it is too large for a machine word. -/
def checkedAdd (a b : Nat) : Option Nat := if a + b < wordBound then some (a + b) else none

/-- The row at an index, if the ends of its slice are machine words within the numbers. -/
def row? (m : RawMatrix) (i : Nat) : Option (List Single) := do
  let first ← checkedMul i m.dims
  let last ← checkedMul (← checkedAdd i 1) m.dims
  if first ≤ last ∧ last ≤ m.data.size then some (m.data.extract first last).toList else none

/-- The dot product of every row with a vector, if there are all rows. -/
def dot? (m : RawMatrix) (query : List Single) : Option (List Single) :=
  (List.range m.rows).mapM fun i => (m.row? i).map (Single.dot · query)

end RawMatrix

namespace RawIndex

/-- The numbers of the rows with finite scores, the best first; equal scores stay in order. -/
def ranked (scores : List Single) : List (Single × Nat) :=
  (scores.zipIdx.filter (·.1.isFinite)).mergeSort fun a b => b.1.rank ≤ a.1.rank

/-- The passage of a row, if there is a chunk for it. -/
def passage? (i : RawIndex) (scored : Single × Nat) : Option Passage :=
  i.chunks[scored.2]?.map (Passage.mk · scored.1)

/-- The best `topK` passages that score above `minScore`, if every row and every chunk is there. -/
def retrieve? (index : Option RawIndex) (query : List Single) (topK : Nat) (minScore : Single) :
    Option (List Passage) :=
  match index with
  | none => some []
  | some i =>
    if i.chunks.isEmpty || query.length != i.matrix.dims then some []
    else do
      let scores ← i.matrix.dot? query
      (((ranked scores).take topK).filter (·.1.gt minScore)).mapM i.passage?

end RawIndex

/-! ## What lookups rest on -/

namespace RawMatrix

/-- The numbers of rows and of numbers are machine words, as those of any list in memory. -/
def Fits (m : RawMatrix) : Prop := m.rows < wordBound ∧ m.data.size < wordBound

instance (m : RawMatrix) : Decidable m.Fits := inferInstanceAs (Decidable (_ ∧ _))

/-- The numbers are as many as the shape says, and can be counted. -/
structure Sound (m : RawMatrix) : Prop where
  size : m.data.size = m.rows * m.dims
  fits : m.Fits

theorem sound_empty : empty.Sound := ⟨rfl, by decide, by decide⟩

theorem sound_of_read {bytes : List UInt8} {m : RawMatrix} (h : read bytes = .ok m) : m.Sound := by
  rw [read_eq] at h
  cases hd : Npy.decode bytes with
  | error fault => rw [hd] at h; cases h
  | ok found =>
      rw [hd] at h
      cases h
      have ha := Npy.addressable_of_decode hd
      refine ⟨found.size_data, ha.rows, ?_⟩
      have hbytes := ha.bytes
      rw [Matrix.erase_data, found.size_data]
      omega

theorem sound_of_ofRows {vectors : List (List Single)} {m : RawMatrix} (h : ofRows vectors = .ok m)
    (hfits : m.Fits) : m.Sound := by
  rw [ofRows_eq] at h
  cases hm : Matrix.ofRows vectors with
  | error e => rw [hm] at h; cases h
  | ok found =>
      rw [hm] at h
      cases h
      exact ⟨found.size_data, hfits⟩

/-- **Every row of a sound matrix is there.** -/
theorem Sound.row? {m : RawMatrix} (h : m.Sound) {i : Nat} (hi : i < m.rows) :
    m.row? i = some (m.data.extract (i * m.dims) ((i + 1) * m.dims)).toList := by
  have hlast : (i + 1) * m.dims ≤ m.data.size := by
    rw [h.size]
    exact Nat.mul_le_mul_right m.dims hi
  have hfirst : i * m.dims ≤ (i + 1) * m.dims := Nat.mul_le_mul_right m.dims (Nat.le_succ i)
  obtain ⟨hrows, hsize⟩ := h.fits
  rw [RawMatrix.row?, checkedMul, if_pos (by omega), checkedAdd, if_pos (by omega)]
  simp only [Option.bind_eq_bind, Option.bind_some]
  rw [checkedMul, if_pos (by omega), Option.bind_some, if_pos ⟨hfirst, hlast⟩]

end RawMatrix

/-- Lookups that all succeed succeed together. -/
theorem mapM_of_forall {α β : Type} {f : α → Option β} {g : α → β} {xs : List α}
    (h : ∀ x ∈ xs, f x = some (g x)) : xs.mapM f = some (xs.map g) := by
  induction xs with
  | nil => rfl
  | cons x xs ih =>
      obtain ⟨hx, hxs⟩ := List.forall_mem_cons.mp h
      rw [List.mapM_cons, hx, ih hxs]
      rfl

theorem RawMatrix.Sound.dot? {m : Matrix} (h : m.erase.Sound) (query : List Single) :
    m.erase.dot? query = some (m.dot query) := by
  rw [Matrix.dot, Matrix.vectors, List.map_map]
  refine mapM_of_forall ?_
  intro i hi
  rw [h.row? (List.mem_range.mp hi)]
  rfl

namespace RawIndex

/-- The matrix is sound and has a row for every chunk. -/
structure Sound (i : RawIndex) : Prop where
  aligned : i.chunks.length = i.matrix.rows
  matrix : i.matrix.Sound

/-- A sound index is one whose proofs were left out. -/
theorem Sound.erased {r : RawIndex} (h : r.Sound) : ∃ i : KnowledgeIndex, r = i.erase :=
  ⟨⟨r.chunks, ⟨r.matrix.rows, r.matrix.dims, r.matrix.data, h.matrix.size⟩, h.aligned⟩, rfl⟩

theorem sound_of_pair {chunks : List Chunk} {m : RawMatrix} {r : RawIndex}
    (h : pair chunks m = .ok r) (hm : m.Sound) : r.Sound := by
  rw [pair] at h
  split at h
  · cases h
  · rename_i hlen
    cases h
    exact ⟨Decidable.of_not_not hlen, hm⟩

theorem sound_of_loadMatrix {d : Disk} {path : String} {m : RawMatrix}
    (h : loadMatrix d path = .ok m) : m.Sound := by
  rw [loadMatrix] at h
  cases hread : d.read path with
  | error e => rw [hread] at h; cases h
  | ok bytes =>
      rw [hread] at h
      simp only [mapError_ok, bind, Except.bind] at h
      cases hm : RawMatrix.read bytes.toList with
      | error fault => rw [hm] at h; cases h
      | ok found =>
          rw [hm] at h
          cases h
          exact RawMatrix.sound_of_read hm

theorem sound_of_load {d : Disk} {dir : String} {r : RawIndex} (h : load d dir = .ok r) :
    r.Sound := by
  rw [load] at h
  dsimp only at h
  cases hc : d.exists? (IndexPaths.inDir dir).chunks with
  | false => rw [hc] at h; cases h
  | true =>
      cases he : d.exists? (IndexPaths.inDir dir).embeddings with
      | false => rw [hc, he] at h; cases h
      | true =>
          rw [hc, he] at h
          simp only [Bool.not_true, Bool.false_eq_true, if_false, bind, Except.bind] at h
          cases hchunks : KnowledgeIndex.loadChunks d (IndexPaths.inDir dir).chunks with
          | error e => rw [hchunks] at h; cases h
          | ok chunks =>
              cases hm : loadMatrix d (IndexPaths.inDir dir).embeddings with
              | error e => rw [hchunks, hm] at h; cases h
              | ok m =>
                  rw [hchunks, hm] at h
                  dsimp only at h
                  cases hp : pair chunks m with
                  | error e => rw [hp] at h; cases h
                  | ok found =>
                      rw [hp] at h
                      cases h
                      exact sound_of_pair hp (sound_of_loadMatrix hm)

theorem sound_of_embed {σ : Type} {b : IndexBuilder (StateM σ)} {chunks : List Chunk} {s s' : σ}
    {r : RawIndex} (h : (embed b chunks).run.run s = (.ok r, s')) (hfits : r.matrix.Fits) :
    r.Sound := by
  rw [run_embed] at h
  cases he : (b.embed chunks).run.run s with
  | mk found s₁ =>
      rw [he] at h
      cases found with
      | error e => cases h
      | ok i =>
          cases h
          exact ⟨i.aligned, i.matrix.size_data, hfits⟩

/-! ## Retrieval -/

/-- The chunk of a row, with another one where there is none. -/
def passageOr (i : RawIndex) (other : Chunk) (scored : Single × Nat) : Passage :=
  ⟨i.chunks.getD scored.2 other, scored.1⟩

theorem length_dot (i : KnowledgeIndex) (query : List Single) :
    (i.matrix.dot query).length = i.chunks.length := by
  rw [Matrix.dot, List.length_map, Matrix.vectors, List.length_map, List.length_range, i.aligned]

theorem scored_eq (i : KnowledgeIndex) (query : List Single) (other : Chunk) :
    i.scored query = (i.matrix.dot query).zipIdx.map (i.erase.passageOr other) := by
  refine List.ext_getElem ?_ ?_
  · rw [KnowledgeIndex.scored, List.length_zipWith, List.length_map, List.length_zipIdx, length_dot,
      Nat.min_self]
  · intro n hn hn'
    rw [List.length_map, List.length_zipIdx, length_dot] at hn'
    have hchunk : i.erase.chunks.getD n other = i.chunks[n] := by
      rw [KnowledgeIndex.erase_chunks, List.getD_eq_getElem?_getD, List.getElem?_eq_getElem hn']
      rfl
    simp only [KnowledgeIndex.scored, List.getElem_zipWith, List.getElem_map, List.getElem_zipIdx,
      passageOr, Nat.zero_add, hchunk]

/-- Ranking rows ranks their passages. -/
theorem rank_scored (i : KnowledgeIndex) (query : List Single) (other : Chunk) :
    rank (i.scored query) = (ranked (i.matrix.dot query)).map (i.erase.passageOr other) := by
  rw [scored_eq i query other, rank, ranked, List.filter_map, List.map_mergeSort]
  · rfl
  · intro a _ b _
    rfl

/-- **Retrieval from a sound index finds all that it looks up,** for every query and every bound. -/
theorem retrieve?_erase (i : KnowledgeIndex) (h : i.erase.Sound) (query : List Single) (topK : Nat)
    (minScore : Single) :
    retrieve? (some i.erase) query topK minScore = some (retrieve (some i) query topK minScore) := by
  rw [retrieve?, retrieve]
  by_cases hnone : (i.isEmpty || query.length != i.matrix.dims) = true
  · rw [if_pos hnone]
    exact if_pos hnone
  · rw [if_neg hnone]
    refine (if_neg hnone).trans ?_
    have hdot : i.matrix.erase.dot? query = some (i.matrix.dot query) := h.matrix.dot? query
    rw [KnowledgeIndex.erase_matrix, hdot, rank_scored i query ⟨"", "", "", .docs⟩, ← List.map_take, List.filter_map]
    refine mapM_of_forall ?_
    -- every number that is ranked is the number of a row
    rintro ⟨score, n⟩ hmem
    have hrow : (score, n) ∈ ranked (i.matrix.dot query) :=
      List.mem_of_mem_take (List.mem_filter.mp hmem).1
    rw [ranked, List.mem_mergeSort] at hrow
    have hscore := List.mk_mem_zipIdx_iff_getElem?.mp (List.mem_filter.mp hrow).1
    obtain ⟨hn, _⟩ := List.getElem?_eq_some_iff.mp hscore
    rw [length_dot] at hn
    have hchunk : i.erase.chunks[n]? = some i.chunks[n] := List.getElem?_eq_getElem hn
    rw [passage?, passageOr, List.getD_eq_getElem?_getD, hchunk]
    rfl

end RawIndex

/-! ## Shapes that are too large -/

namespace Npy

/-- A header with a shape declares it, or has a fault of its own, unless a number is too large. -/
theorem declaredShape_of_shape? {text rowDigits dimDigits : List Char} {rows dims : Nat}
    (hs : shape? text = some (rowDigits, dimDigits)) (hr : digitsValue? 10 rowDigits = some rows)
    (hd : digitsValue? 10 dimDigits = some dims) (hrows : rowDigits ≠ []) (hdims : dimDigits ≠ []) :
    declaredShape text = .error .notSingles ∨ declaredShape text = .error .columnMajor ∨
      declaredShape text = .error .badRows ∨ declaredShape text = .error .badDims ∨
      declaredShape text = .ok (rows, dims) := by
  -- what the header says of the numbers and of their order is left open
  unfold declaredShape
  generalize includes "'<f4'".toList text = singles
  generalize includes "'fortran_order': True".toList text = columns
  cases singles with
  | false => exact Or.inl rfl
  | true =>
      cases columns with
      | true => exact Or.inr (Or.inl rfl)
      | false =>
          have hempty : dimDigits.isEmpty = false := List.isEmpty_eq_false_iff.mpr hdims
          rw [if_neg (by decide), if_neg (by decide), hs]
          simp only [natural?_of_digitsValue? hrows hr, natural?_of_digitsValue? hdims hd, hempty]
          by_cases hrow : rows < wordBound
          · rw [if_pos hrow]
            by_cases hdim : dims < wordBound
            · rw [if_pos hdim]
              exact Or.inr (Or.inr (Or.inr (Or.inr rfl)))
            · rw [if_neg hdim]
              exact Or.inr (Or.inr (Or.inr (Or.inl rfl)))
          · rw [if_neg hrow]
            exact Or.inr (Or.inr (Or.inl rfl))

/-- **A shape whose size is not a machine word is corrupt,** also if its numbers are not machine words. -/
theorem decode_of_tooLarge {pre text : List UInt8} (hp : Preamble pre text.length)
    (hmax : text.length ≤ maxHeader) {rowDigits dimDigits : List Char} {rows dims : Nat}
    (hs : shape? (decodeLossy text) = some (rowDigits, dimDigits))
    (hr : digitsValue? 10 rowDigits = some rows) (hd : digitsValue? 10 dimDigits = some dims)
    (hbound : wordBound ≤ rows * dims * 4) (body : List UInt8) :
    ∃ message, (decode (pre ++ (text ++ body))).mapError Fault.toError
      = .error (.indexCorrupt message) := by
  have hrows : rowDigits ≠ [] := by
    rintro rfl
    cases hr
    rw [Nat.zero_mul, Nat.zero_mul] at hbound
    exact absurd hbound (by decide)
  have hdims : dimDigits ≠ [] := by
    rintro rfl
    cases hd
    rw [Nat.mul_zero, Nat.zero_mul] at hbound
    exact absurd hbound (by decide)
  rw [decode_eq, opened_append hp hmax]
  rcases declaredShape_of_shape? hs hr hd hrows hdims with h | h | h | h | h
  · rw [h]; exact ⟨_, rfl⟩
  · rw [h]; exact ⟨_, rfl⟩
  · rw [h]; exact ⟨_, rfl⟩
  · rw [h]; exact ⟨_, rfl⟩
  · rw [h]
    dsimp only [Except.map]
    rw [ofShape, if_pos hbound]
    exact ⟨_, rfl⟩

end Npy

/-! ## Everything that can be made -/

/-- The matrices and the indexes that a program holds, the latest first. -/
structure Pool where
  matrices : List RawMatrix
  indexes : List RawIndex

namespace Pool

/-- What can be done to get one more matrix or one more index. -/
inductive Action : Type 1 where
  /-- Makes the matrix without rows. -/
  | empty
  /-- Stacks vectors, whatever they are. -/
  | stack (vectors : List (List Single))
  /-- Reads a file, whatever it holds. -/
  | read (bytes : List UInt8)
  /-- Copies the matrix of an index that is held. -/
  | copy (index : Nat)
  /-- Pairs chunks with a matrix that is held. -/
  | pair (chunks : List Chunk) (matrix : Nat)
  /-- Loads a directory, whatever its files hold. -/
  | load (d : Disk) (dir : String)
  /-- Embeds chunks, whatever the embedder answers. -/
  | embed {σ : Type} (b : IndexBuilder (StateM σ)) (s : σ) (chunks : List Chunk)

/-- The matrix that an action makes, if any. Vectors that memory cannot hold are never stacked. -/
def matrix? (p : Pool) : Action → Option RawMatrix
  | .empty => some .empty
  | .stack vectors => (RawMatrix.ofRows vectors).toOption.filter (decide ·.Fits)
  | .read bytes => (RawMatrix.read bytes).toOption
  | .copy index => p.indexes[index]?.map (·.matrix)
  | .pair _ _ | .load _ _ | .embed _ _ _ => none

/-- The index that an action makes, if any. -/
def index? (p : Pool) : Action → Option RawIndex
  | .pair chunks matrix => p.matrices[matrix]?.bind fun m => (RawIndex.pair chunks m).toOption
  | .load d dir => (RawIndex.load d dir).toOption
  | .embed b s chunks =>
    ((RawIndex.embed b chunks).run.run s).1.toOption.filter (decide ·.matrix.Fits)
  | .empty | .stack _ | .read _ | .copy _ => none

/-- What is held after an action. One that fails changes nothing. -/
def step (p : Pool) (a : Action) : Pool :=
  ⟨(p.matrix? a).toList ++ p.matrices, (p.index? a).toList ++ p.indexes⟩

/-- What is held after actions that start from nothing. -/
def run (actions : List Action) : Pool := actions.foldl step ⟨[], []⟩

/-- Everything that is held is sound. -/
structure Sound (p : Pool) : Prop where
  matrices : ∀ m ∈ p.matrices, m.Sound
  indexes : ∀ i ∈ p.indexes, i.Sound

theorem toOption_eq_some {ε α : Type} {r : Except ε α} {a : α} (h : r.toOption = some a) :
    r = .ok a := by
  cases r with
  | error e => cases h
  | ok found =>
      injection h with h
      rw [h]

theorem Sound.matrix? {p : Pool} (h : p.Sound) {a : Action} {m : RawMatrix}
    (hm : p.matrix? a = some m) : m.Sound := by
  cases a with
  | empty =>
      injection hm with hm
      rw [← hm]
      exact RawMatrix.sound_empty
  | stack vectors =>
      obtain ⟨hmade, hfits⟩ := Option.filter_eq_some_iff.mp hm
      exact RawMatrix.sound_of_ofRows (toOption_eq_some hmade) (of_decide_eq_true hfits)
  | read bytes => exact RawMatrix.sound_of_read (toOption_eq_some hm)
  | copy index =>
      obtain ⟨i, hi, rfl⟩ := Option.map_eq_some_iff.mp hm
      exact (h.indexes i (List.mem_of_getElem? hi)).matrix
  | pair chunks matrix => cases hm
  | load d dir => cases hm
  | embed b s chunks => cases hm

theorem Sound.index? {p : Pool} (h : p.Sound) {a : Action} {i : RawIndex}
    (hi : p.index? a = some i) : i.Sound := by
  cases a with
  | pair chunks matrix =>
      obtain ⟨m, hm, hpair⟩ := Option.bind_eq_some_iff.mp hi
      exact RawIndex.sound_of_pair (toOption_eq_some hpair)
        (h.matrices m (List.mem_of_getElem? hm))
  | load d dir => exact RawIndex.sound_of_load (toOption_eq_some hi)
  | embed b s chunks =>
      obtain ⟨hmade, hfits⟩ := Option.filter_eq_some_iff.mp hi
      exact RawIndex.sound_of_embed (Prod.ext (toOption_eq_some hmade) rfl)
        (of_decide_eq_true hfits)
  | empty => cases hi
  | stack vectors => cases hi
  | read bytes => cases hi
  | copy index => cases hi

/-- **Every action keeps what is held sound.** -/
theorem sound_step {p : Pool} (h : p.Sound) (a : Action) : (p.step a).Sound where
  matrices := by
    intro m hm
    rcases List.mem_append.mp hm with hnew | hold
    · exact h.matrix? (Option.mem_toList.mp hnew)
    · exact h.matrices m hold
  indexes := by
    intro i hi
    rcases List.mem_append.mp hi with hnew | hold
    · exact h.index? (Option.mem_toList.mp hnew)
    · exact h.indexes i hold

/-- **Whatever is done, everything that is held is sound.** -/
theorem sound_run (actions : List Action) : (run actions).Sound := by
  -- from any sound start, since the actions are taken one by one
  have hall : ∀ p : Pool, p.Sound → (actions.foldl step p).Sound := by
    induction actions with
    | nil => exact fun p h => h
    | cons a actions ih => exact fun p h => ih (p.step a) (sound_step h a)
  exact hall _
    ⟨fun m hm => absurd hm List.not_mem_nil, fun i hi => absurd hi List.not_mem_nil⟩

end Pool

/--
**Retrieval stays in bounds.** Every index that any sequence of actions makes has a row for every chunk
and the numbers of its shape; all its rows, all dot products and all passages are found, and they are
those of the index with its proofs, for every query, every number of passages and every threshold. And a
file with a shape whose size is not a machine word is never read, but corrupt.
-/
theorem retrieval_in_bounds :
    (∀ (actions : List Pool.Action) (r : RawIndex), r ∈ (Pool.run actions).indexes →
      r.chunks.length = r.matrix.rows ∧ r.matrix.data.size = r.matrix.rows * r.matrix.dims ∧
      ∃ i : KnowledgeIndex, r = i.erase ∧
        (∀ n < r.matrix.rows, r.matrix.row? n = some (i.matrix.row n)) ∧
        (∀ query, r.matrix.dot? query = some (i.matrix.dot query)) ∧
        ∀ query topK minScore, RawIndex.retrieve? (some r) query topK minScore
          = some (retrieve (some i) query topK minScore)) ∧
    ∀ (pre text body : List UInt8) (rowDigits dimDigits : List Char) (rows dims : Nat),
      Npy.Preamble pre text.length → text.length ≤ Npy.maxHeader →
      Npy.shape? (decodeLossy text) = some (rowDigits, dimDigits) →
      digitsValue? 10 rowDigits = some rows → digitsValue? 10 dimDigits = some dims →
      wordBound ≤ rows * dims * 4 →
      ∃ message, (RawMatrix.read (pre ++ (text ++ body))).mapError Npy.Fault.toError
        = .error (.indexCorrupt message) := by
  constructor
  · intro actions r hr
    have hsound := (Pool.sound_run actions).indexes r hr
    obtain ⟨i, rfl⟩ := hsound.erased
    refine ⟨hsound.aligned, hsound.matrix.size, i, rfl, ?_, ?_, ?_⟩
    · intro n hn
      exact hsound.matrix.row? hn
    · intro query
      exact RawMatrix.Sound.dot? hsound.matrix query
    · intro query topK minScore
      exact RawIndex.retrieve?_erase i hsound query topK minScore
  · intro pre text body rowDigits dimDigits rows dims hp hmax hs hr hd hbound
    obtain ⟨message, hmessage⟩ := Npy.decode_of_tooLarge hp hmax hs hr hd hbound body
    refine ⟨message, ?_⟩
    rw [RawMatrix.read_eq]
    cases hfound : Npy.decode (pre ++ (text ++ body)) with
    | error fault =>
        rw [hfound] at hmessage
        injection hmessage with hfault
        exact congrArg Except.error hfault
    | ok m => rw [hfound] at hmessage; cases hmessage

/-- An index of two chunks, one of them with a NaN for its row. -/
def withNaN : RawIndex :=
  ⟨[⟨"one", "a", "", .docs⟩, ⟨"two", "b", "", .code⟩], ⟨2, 1, #[.nan, ⟨0x3F800000⟩]⟩⟩

/-- The header of a matrix whose size is the first that is not a machine word. -/
def hugeHeader : List Char :=
  "\x7b'descr': '<f4', 'fortran_order': False, 'shape': (4611686018427387904, 1), \x7d\n".toList

theorem retrieval_in_bounds_withNaN :
    (withNaN ∈ (Pool.run [.stack [[.nan], [⟨0x3F800000⟩]], .pair withNaN.chunks 0]).indexes ∧
      ∀ query topK minScore, (RawIndex.retrieve? (some withNaN) query topK minScore).isSome) ∧
    ∃ message, (RawMatrix.read (Npy.magic ++ [1, 0] ++ [78, 0] ++
        (hugeHeader.map (·.toNat.toUInt8) ++ []))).mapError Npy.Fault.toError
      = .error (.indexCorrupt message) := by
  have hmade : withNaN ∈
      (Pool.run [.stack [[.nan], [⟨0x3F800000⟩]], .pair withNaN.chunks 0]).indexes :=
    List.mem_singleton_self withNaN
  refine ⟨⟨hmade, ?_⟩, ?_⟩
  · intro query topK minScore
    obtain ⟨_, _, i, _, _, _, hretrieve⟩ := retrieval_in_bounds.1 _ withNaN hmade
    rw [hretrieve]
    rfl
  · have hread : decodeLossy (hugeHeader.map (·.toNat.toUInt8)) = hugeHeader :=
      decodeLossy_ascii (Npy.ascii_of_all (by decide))
    refine retrieval_in_bounds.2 _ _ [] "4611686018427387904".toList "1".toList 4611686018427387904 1
      (.narrow 0 [78, 0] rfl) (by decide) ?_ (by decide) (by decide) (by decide)
    rw [hread]
    rfl

end Grounded
