import Grounded.Proofs.CutFiles

/-!
# Saves that stop

A save replaces one file after the other. When it stops, some files are new, one may be cut short and
the others are old: `Stopped` says which disks this leaves. A load then sees the old index, the new one
or a broken file, with one exception. Between the first file and the second nothing is broken, and the
number of rows is all that a load compares.
-/

namespace Grounded

open Grounded.Path IndexPaths

/-! ## Writes that stop -/

/--
`Stopped dir files d d'`: the files are written into the directory one after the other, and when this
stops, before a file, within one or after the last, the disk is `d'`.
-/
inductive Stopped (dir : String) : List (String × ByteArray) → Disk → Disk → Prop where
  | here (files : List (String × ByteArray)) (d : Disk) : Stopped dir files d d
  | within {name : String} {content part : ByteArray} {files : List (String × ByteArray)}
      {d d' : Disk} : Cut part content → d.write (join dir name) part = .ok d' →
      Stopped dir ((name, content) :: files) d d'
  | later {name : String} {content : ByteArray} {files : List (String × ByteArray)}
      {d d₁ d' : Disk} : d.write (join dir name) content = .ok d₁ → Stopped dir files d₁ d' →
      Stopped dir ((name, content) :: files) d d'

/-- Wherever the writes stop, they leave alone what they do not write. -/
theorem Stopped.get_other {dir : String} {files : List (String × ByteArray)} {d d' : Disk}
    (h : Stopped dir files d d') {place : List String} (hd : d.LeadsTo dir place)
    (hnames : ∀ f ∈ files, FileName f.1) {other : String} (hother : FileName other)
    (hnot : ∀ f ∈ files, f.1 ≠ other) : d'.get (join dir other) = d.get (join dir other) := by
  induction h with
  | here files d => rfl
  | within hcut hw =>
      obtain ⟨_, _, hkept⟩ := hd.after_write (hnames _ List.mem_cons_self) hw
      exact hkept other hother (hnot _ List.mem_cons_self)
  | later hw _ ih =>
      obtain ⟨hd₁, _, hkept⟩ := hd.after_write (hnames _ List.mem_cons_self) hw
      have hrest := ih hd₁ (fun f hf => hnames f (List.mem_cons_of_mem _ hf))
        (fun f hf => hnot f (List.mem_cons_of_mem _ hf))
      exact hrest.trans (hkept other hother (hnot _ List.mem_cons_self))

namespace KnowledgeIndex

/-- The files of an index, in the order in which they are written. -/
def files (i : KnowledgeIndex) (manifest : Manifest) : List (String × ByteArray) :=
  [(chunksFile, bytesOf i.chunksText),
    (embeddingsFile, ⟨(Npy.written i.matrix).toArray⟩),
    (manifestFile, bytesOf (manifest.toJson.pretty 0))]

/-- A save that stops at some point, or does not, may turn the disk into this one. -/
def Leaves (i : KnowledgeIndex) (dir : String) (manifest : Manifest) (d d' : Disk) : Prop :=
  d' = d ∨ ∃ d₁, d.createDirs dir = .ok d₁ ∧ Stopped dir (i.files manifest) d₁ d'

/-- Whatever a save comes to, it has stopped somewhere. -/
theorem leaves_of_run {i : KnowledgeIndex} {dir : String} {manifest : Manifest} {d d' : Disk}
    {r : Except Error IndexPaths} (ha : i.matrix.Addressable)
    (h : (i.save dir manifest).run.run d = (r, d')) : i.Leaves dir manifest d d' := by
  rw [run_save, Npy.encode_eq ha] at h
  cases h1 : d.createDirs dir with
  | error e =>
      rw [h1] at h
      cases h
      exact Or.inl rfl
  | ok d₁ =>
      rw [h1] at h
      refine Or.inr ⟨d₁, h1, ?_⟩
      dsimp only at h
      cases h2 : d₁.write (inDir dir).chunks (bytesOf i.chunksText) with
      | error e =>
          rw [h2] at h
          cases h
          exact .here _ _
      | ok d₂ =>
          rw [h2] at h
          refine .later h2 ?_
          dsimp only at h
          cases h3 : d₂.write (inDir dir).embeddings ⟨(Npy.written i.matrix).toArray⟩ with
          | error e =>
              rw [h3] at h
              cases h
              exact .here _ _
          | ok d₃ =>
              rw [h3] at h
              refine .later h3 ?_
              dsimp only at h
              cases h4 : d₃.write (inDir dir).manifest (bytesOf (manifest.toJson.pretty 0)) with
              | error e =>
                  rw [h4] at h
                  cases h
                  exact .here _ _
              | ok d₄ =>
                  rw [h4] at h
                  cases h
                  exact .later h4 (.here _ _)

/-! ## What a load sees -/

theorem loadChunks_congr {d d' : Disk} {path : String} (h : d'.get path = d.get path) :
    loadChunks d' path = loadChunks d path := by
  rw [loadChunks, loadChunks, Disk.readText, Disk.readText, Disk.read, Disk.read, h]

theorem loadMatrix_congr {d d' : Disk} {path : String} (h : d'.get path = d.get path) :
    loadMatrix d' path = loadMatrix d path := by
  rw [loadMatrix, loadMatrix, Disk.read, Disk.read, h]

theorem load_fails {d : Disk} {dir : String} (h : ∀ i, load d dir ≠ .ok i) :
    ∃ e, load d dir = .error e := by
  cases hload : load d dir with
  | error e => exact ⟨e, rfl⟩
  | ok i => exact absurd hload (h i)

/-- Without its chunks there is no index. -/
theorem load_fails_of_chunks {d : Disk} {dir : String}
    (h : ∃ e, loadChunks d (inDir dir).chunks = .error e) : ∃ e, load d dir = .error e := by
  obtain ⟨e, he⟩ := h
  refine load_fails ?_
  intro i hload
  rw [(load_eq_ok_iff.mp hload).1] at he
  cases he

/-- Nor is there one without its matrix. -/
theorem load_fails_of_matrix {d : Disk} {dir : String}
    (h : ∃ e, loadMatrix d (inDir dir).embeddings = .error e) : ∃ e, load d dir = .error e := by
  obtain ⟨e, he⟩ := h
  refine load_fails ?_
  intro i hload
  rw [(load_eq_ok_iff.mp hload).2] at he
  cases he

/-- A directory that an index is loaded from is there. -/
theorem leadsTo_of_load {d : Disk} {dir : String} {i : KnowledgeIndex}
    (h : load d dir = .ok i) : ∃ place, d.LeadsTo dir place := by
  have hexists := exists_of_loadChunks (load_eq_ok_iff.mp h).1
  cases hplace : d.place (join dir chunksFile) with
  | error e =>
      rw [Disk.exists?, Disk.get, inDir, hplace] at hexists
      cases hexists
  | ok q =>
      obtain ⟨place, hd, _⟩ := Disk.leadsTo_of_place_join fileName_chunks hplace
      exact ⟨place, hd⟩

/-! ## Where a save can stop -/

variable {A B : KnowledgeIndex} {dir : String} {manifest : Manifest} {d d' : Disk}

/-- **Between the first two files, the chunks are new and the matrix is old.** -/
theorem parts_of_chunks_written (hA : load d dir = .ok A)
    (hw : d.write (inDir dir).chunks (bytesOf B.chunksText) = .ok d') :
    loadChunks d' (inDir dir).chunks = .ok B.chunks ∧
      loadMatrix d' (inDir dir).embeddings = .ok A.matrix := by
  obtain ⟨place, hd⟩ := leadsTo_of_load hA
  obtain ⟨_, hget, hkept⟩ := hd.after_write fileName_chunks hw
  refine ⟨loadChunks_of_get hget, ?_⟩
  have hmatrix : d'.get (inDir dir).embeddings = d.get (inDir dir).embeddings :=
    hkept _ fileName_embeddings (by decide)
  rw [loadMatrix_congr hmatrix]
  exact (load_eq_ok_iff.mp hA).2

/-- So the one is loaded with the other if there is a row for each chunk. -/
theorem load_of_chunks_written (hA : load d dir = .ok A)
    (hw : d.write (inDir dir).chunks (bytesOf B.chunksText) = .ok d')
    (h : B.chunks.length = A.matrix.rows) : load d' dir = .ok ⟨B.chunks, A.matrix, h⟩ := by
  obtain ⟨hchunks, hmatrix⟩ := parts_of_chunks_written hA hw
  exact load_eq_ok_iff.mpr ⟨hchunks, hmatrix⟩

theorem load_fails_of_chunks_written (hA : load d dir = .ok A)
    (hw : d.write (inDir dir).chunks (bytesOf B.chunksText) = .ok d')
    (h : B.chunks.length ≠ A.matrix.rows) : ∃ e, load d' dir = .error e := by
  obtain ⟨hchunks, hmatrix⟩ := parts_of_chunks_written hA hw
  refine load_fails ?_
  intro i hload
  obtain ⟨hc, hm⟩ := load_eq_ok_iff.mp hload
  rw [hchunks] at hc
  rw [hmatrix] at hm
  injection hc with hc
  injection hm with hm
  exact h (by rw [hc, hm, i.aligned])

/-- **From the second file on,** a load sees that file cut short or the whole new index. -/
theorem load_of_matrix_begun {place : List String} (hd : d.LeadsTo dir place)
    (ha : B.matrix.Addressable) (hchunks : loadChunks d (inDir dir).chunks = .ok B.chunks)
    (h : Stopped dir (B.files manifest).tail d d') :
    d' = d ∨ load d' dir = .ok B ∨ ∃ e, load d' dir = .error e := by
  have hwritten := Npy.decode_written ha
  rw [files, List.tail_cons] at h
  cases h with
  | here => exact Or.inl rfl
  | within hcut hw =>
      obtain ⟨_, hget, _⟩ := hd.after_write fileName_embeddings hw
      exact Or.inr (Or.inr (load_fails_of_matrix (loadMatrix_of_cut hwritten hcut hget)))
  | later hw hstop =>
      rename_i d₁
      obtain ⟨hd₁, hget, hkept⟩ := hd.after_write fileName_embeddings hw
      -- no load reads the manifest
      have hnames : ∀ f ∈ [(manifestFile, bytesOf (manifest.toJson.pretty 0))], FileName f.1 := by
        intro f hf
        rw [List.mem_singleton.mp hf]
        exact fileName_manifest
      have hother : ∀ other, other ≠ manifestFile →
          ∀ f ∈ [(manifestFile, bytesOf (manifest.toJson.pretty 0))], f.1 ≠ other := by
        intro other hne f hf
        rw [List.mem_singleton.mp hf]
        exact hne.symm
      have hembeddings := hstop.get_other hd₁ hnames fileName_embeddings
        (hother embeddingsFile (by decide))
      have hsame : d'.get (inDir dir).chunks = d.get (inDir dir).chunks :=
        (hstop.get_other hd₁ hnames fileName_chunks (hother chunksFile (by decide))).trans
          (hkept chunksFile fileName_chunks (by decide))
      refine Or.inr (Or.inl (load_eq_ok_iff.mpr ⟨?_, ?_⟩))
      · rw [loadChunks_congr hsame]
        exact hchunks
      · exact loadMatrix_of_get (hembeddings.trans hget) hwritten

/--
**A save that stops leaves the old index, the new one or none that loads,** unless it stops between its
first two files. There a load pairs the new chunks with the old matrix as soon as their numbers agree.
-/
theorem load_of_stopped (A B : KnowledgeIndex) (manifest : Manifest) (d : Disk) (dir : String)
    (hA : load d dir = .ok A) (ha : B.matrix.Addressable) :
    (∀ r d', (B.save dir manifest).run.run d = (r, d') → B.Leaves dir manifest d d') ∧
    (∀ d', B.Leaves dir manifest d d' →
      (load d' dir = .ok A ∨ load d' dir = .ok B ∨ ∃ e, load d' dir = .error e) ∨
        (d.write (inDir dir).chunks (bytesOf B.chunksText) = .ok d' ∧
          B.chunks.length = A.chunks.length)) ∧
    ∀ d', d.write (inDir dir).chunks (bytesOf B.chunksText) = .ok d' →
      B.chunks.length = A.chunks.length → B.Leaves dir manifest d d' ∧
        ∃ h, load d' dir = .ok ⟨B.chunks, A.matrix, h⟩ := by
  obtain ⟨place, hd⟩ := leadsTo_of_load hA
  refine ⟨fun r d' => leaves_of_run ha, ?_, ?_⟩
  · intro d' hleaves
    rcases hleaves with rfl | ⟨d₁, hcreate, hstop⟩
    · exact Or.inl (Or.inl hA)
    · -- the directory is there already
      rw [hd.createDirs] at hcreate
      injection hcreate with hcreate
      subst hcreate
      cases hstop with
      | here => exact Or.inl (Or.inl hA)
      | within hcut hw =>
          obtain ⟨_, hget, _⟩ := hd.after_write fileName_chunks hw
          exact Or.inl (Or.inr (Or.inr (load_fails_of_chunks (loadChunks_of_cut hcut hget))))
      | later hw hstop =>
          obtain ⟨hd₁, _, _⟩ := hd.after_write fileName_chunks hw
          have hchunks := (parts_of_chunks_written hA hw).1
          rcases load_of_matrix_begun hd₁ ha hchunks hstop with rfl | hB | hfails
          · by_cases h : B.chunks.length = A.chunks.length
            · exact Or.inr ⟨hw, h⟩
            · rw [A.aligned] at h
              exact Or.inl (Or.inr (Or.inr (load_fails_of_chunks_written hA hw h)))
          · exact Or.inl (Or.inr (Or.inl hB))
          · exact Or.inl (Or.inr (Or.inr hfails))
  · intro d' hw h
    refine ⟨Or.inr ⟨d, hd.createDirs, .later hw (.here _ _)⟩, h.trans A.aligned, ?_⟩
    exact load_of_chunks_written hA hw _

/-- An index of one chunk. -/
def older : KnowledgeIndex := ⟨[⟨"a", "", "", .docs⟩], ⟨1, 1, #[⟨0x3F800000⟩], rfl⟩, rfl⟩

/-- Another index of one chunk, with another vector. -/
def newer : KnowledgeIndex := ⟨[⟨"b", "", "", .docs⟩], ⟨1, 1, #[⟨0x40000000⟩], rfl⟩, rfl⟩

/-- A disk with a directory of two files. -/
def diskOf (chunks embeddings : ByteArray) : Disk :=
  ⟨.dir [("index", .dir [(chunksFile, .file chunks), (embeddingsFile, .file embeddings)])], []⟩

/-- The files of an index. -/
def stored (i : KnowledgeIndex) : Disk :=
  diskOf (bytesOf i.chunksText) ⟨(Npy.written i.matrix).toArray⟩

theorem load_stored {i : KnowledgeIndex} (ha : i.matrix.Addressable) :
    load (stored i) "index" = .ok i :=
  load_eq_ok_iff.mpr ⟨loadChunks_of_get rfl, loadMatrix_of_get rfl (Npy.decode_written ha)⟩

theorem write_chunks_stored (i : KnowledgeIndex) (content : ByteArray) :
    (stored i).write (inDir "index").chunks content
      = .ok (diskOf content ⟨(Npy.written i.matrix).toArray⟩) := rfl

theorem load_of_stopped_sameSize :
    load (stored older) "index" = .ok older ∧ newer.matrix.Addressable ∧
      ∃ d', newer.Leaves "index" (newer.manifest "m" ⟨0, 0⟩) (stored older) d' ∧
        ∃ h, load d' "index" = .ok ⟨newer.chunks, older.matrix, h⟩ := by
  have ha : older.matrix.Addressable := ⟨by decide, by decide, by decide⟩
  have hb : newer.matrix.Addressable := ⟨by decide, by decide, by decide⟩
  obtain ⟨_, _, hbetween⟩ := load_of_stopped older newer (newer.manifest "m" ⟨0, 0⟩) (stored older)
    "index" (load_stored ha) hb
  exact ⟨load_stored ha, hb, _, hbetween _ (write_chunks_stored older _) rfl⟩

/-- What is loaded need be neither of the two indexes. -/
theorem not_load_of_stopped :
    ¬ ∀ (A B : KnowledgeIndex) (manifest : Manifest) (d d' : Disk) (dir : String),
      load d dir = .ok A → B.matrix.Addressable → B.Leaves dir manifest d d' →
      load d' dir = .ok A ∨ load d' dir = .ok B ∨ ∃ e, load d' dir = .error e := by
  intro h
  have ha : older.matrix.Addressable := ⟨by decide, by decide, by decide⟩
  have hb : newer.matrix.Addressable := ⟨by decide, by decide, by decide⟩
  have hw := write_chunks_stored older (bytesOf newer.chunksText)
  have hleaves : newer.Leaves "index" (newer.manifest "m" ⟨0, 0⟩) (stored older)
      (diskOf (bytesOf newer.chunksText) ⟨(Npy.written older.matrix).toArray⟩) :=
    Or.inr ⟨stored older, rfl, .later hw (.here _ _)⟩
  have hmixed := load_of_chunks_written (B := newer) (load_stored ha) hw rfl
  rcases h older newer (newer.manifest "m" ⟨0, 0⟩) _ _ "index" (load_stored ha) hb hleaves with
    hold | hnew | ⟨e, he⟩
  · rw [hmixed] at hold
    injection hold with hold
    exact absurd (congrArg KnowledgeIndex.chunks hold) (by decide)
  · rw [hmixed] at hnew
    injection hnew with hnew
    exact absurd (congrArg KnowledgeIndex.matrix hnew) (by decide)
  · rw [hmixed] at he
    cases he

end KnowledgeIndex

end Grounded
