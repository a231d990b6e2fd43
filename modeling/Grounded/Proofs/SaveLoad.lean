import Grounded.Index.Store
import Grounded.Proofs.DiskCreate
import Grounded.Proofs.JsonRoundTrip
import Grounded.Proofs.NpyRoundTrip
import Grounded.Proofs.Running

/-!
# Saved and loaded indexes

A save writes three files into one directory; a load reads the first two. `Stores` says what the three
files hold after a save that went well. From there on a load depends only on the two codecs: the records
of the chunks and the bytes of the matrix read back as what was written.
-/

namespace Grounded

/-! ## Records of chunks -/

namespace Chunk

theorem ofName?_kind (k : ChunkKind) : ChunkKind.ofName? k.name = some k := by
  cases k <;> decide

/-- **A chunk is read back from its record,** whatever texts it holds. -/
theorem ofJson?_toJson (c : Chunk) : ofJson? c.toJson = some c := by
  have hfields : c.toJson.fields? fieldNames
      = some [some (Json.ofText c.text), some (Json.ofText c.source), some (Json.ofText c.heading),
        some (Json.ofText c.kind.name)] := rfl
  rw [ofJson?, hfields]
  simp only [Option.bind_eq_bind, Option.bind_some, Json.ofText, Json.text?, Json.constant?,
    ofName?_kind]

theorem listOfJson?_listToJson (chunks : List Chunk) :
    listOfJson? (listToJson chunks) = some chunks := by
  have hmap : (chunks.map toJson).mapM ofJson? = some chunks := by
    induction chunks with
    | nil => rfl
    | cons c chunks ih =>
        rw [List.map_cons, List.mapM_cons, ofJson?_toJson, ih]
        rfl
  exact hmap

theorem plain_toJson (c : Chunk) : c.toJson.Plain := by
  refine .record _ ?_
  intro f hf
  simp only [List.mem_cons, List.not_mem_nil, or_false] at hf
  rcases hf with rfl | rfl | rfl | rfl
  · exact .text _
  · exact .text _
  · exact .text _
  · exact .text _

theorem plain_listToJson (chunks : List Chunk) : (listToJson chunks).Plain := by
  refine .list _ ?_
  intro j hj
  obtain ⟨c, _, rfl⟩ := List.mem_map.mp hj
  exact plain_toJson c

end Chunk

theorem Manifest.plain_toJson (m : Manifest) : m.toJson.Plain := by
  refine .record _ ?_
  intro f hf
  simp only [List.mem_cons, List.not_mem_nil, or_false] at hf
  rcases hf with rfl | rfl | rfl | rfl | rfl
  · exact .text _
  · exact .text _
  · exact .nat _
  · exact .nat _
  · refine .record _ ?_
    intro f hf
    obtain ⟨count, _, rfl⟩ := List.mem_map.mp hf
    exact .nat _

/-! ## Running actions -/

namespace DiskM

theorem run_change (f : Disk → Except FileError Disk) (d : Disk) :
    (DiskM.change f).run.run d = match f d with
      | .error e => (.error (.file e), d)
      | .ok d' => (.ok (), d') := by
  -- only what becomes of this disk matters
  have hconst : (DiskM.change f).run.run d = (DiskM.change fun _ => f d).run.run d := rfl
  rw [hconst]
  cases f d with
  | error e => rfl
  | ok d' => rfl

/-- A change comes before the rest, which does not happen if it fails. -/
theorem run_change_bind {α : Type} (f : Disk → Except FileError Disk) (k : Unit → DiskM α)
    (d : Disk) : (DiskM.change f >>= k).run.run d = match f d with
      | .error e => (.error (.file e), d)
      | .ok d' => (k ()).run.run d' := by
  rw [run_bind, run_change]
  cases f d with
  | error e => rfl
  | ok d' => rfl

end DiskM

/-! ## What a save leaves in the directory -/

namespace IndexPaths

open Grounded.Path

theorem fileName_chunks : FileName chunksFile :=
  ⟨by decide, by decide, by decide, by decide⟩

theorem fileName_embeddings : FileName embeddingsFile :=
  ⟨by decide, by decide, by decide, by decide⟩

theorem fileName_manifest : FileName manifestFile :=
  ⟨by decide, by decide, by decide, by decide⟩

end IndexPaths

namespace KnowledgeIndex

open Grounded.Path IndexPaths

/-- The text of the file of the chunks. -/
def chunksText (i : KnowledgeIndex) : List Char := (Chunk.listToJson i.chunks).pretty 0

/-- The three files of a directory hold the index and the manifest, and nothing else. -/
structure Stores (d : Disk) (dir : String) (i : KnowledgeIndex) (manifest : Manifest) : Prop where
  chunks : d.get (inDir dir).chunks = .ok (.file (bytesOf i.chunksText))
  embeddings : ∃ bytes, Npy.encode i.matrix = .ok bytes ∧
    d.get (inDir dir).embeddings = .ok (.file ⟨bytes.toArray⟩)
  manifest : d.get (inDir dir).manifest = .ok (.file (bytesOf (manifest.toJson.pretty 0)))

/-- A save is the creation of the directory and three writes, each only after the one before. -/
theorem run_save (i : KnowledgeIndex) (dir : String) (manifest : Manifest) (d : Disk) :
    (i.save dir manifest).run.run d =
      match d.createDirs dir with
      | .error e => (.error (.file e), d)
      | .ok d₁ =>
        match d₁.write (inDir dir).chunks (bytesOf i.chunksText) with
        | .error e => (.error (.file e), d₁)
        | .ok d₂ =>
          match Npy.encode i.matrix with
          | .error fault => (.error fault.toError, d₂)
          | .ok bytes =>
            match d₂.write (inDir dir).embeddings ⟨bytes.toArray⟩ with
            | .error e => (.error (.file e), d₂)
            | .ok d₃ =>
              match d₃.write (inDir dir).manifest (bytesOf (manifest.toJson.pretty 0)) with
              | .error e => (.error (.file e), d₃)
              | .ok d₄ => (.ok (inDir dir), d₄) := by
  rw [save, DiskM.run_change_bind]
  cases d.createDirs dir with
  | error e => rfl
  | ok d₁ =>
      dsimp only
      rw [DiskM.write, DiskM.run_change_bind, ← chunksText]
      cases d₁.write (inDir dir).chunks (bytesOf i.chunksText) with
      | error e => rfl
      | ok d₂ =>
          dsimp only
          cases Npy.encode i.matrix with
          | error fault => rfl
          | ok bytes =>
              dsimp only
              rw [DiskM.write, DiskM.run_change_bind]
              cases d₂.write (inDir dir).embeddings ⟨bytes.toArray⟩ with
              | error e => rfl
              | ok d₃ =>
                  dsimp only
                  rw [DiskM.write, DiskM.run_change_bind]
                  cases d₃.write (inDir dir).manifest (bytesOf (manifest.toJson.pretty 0)) with
                  | error e => rfl
                  | ok d₄ => rfl

/-- A save that went well went well step by step. -/
theorem of_save {i : KnowledgeIndex} {dir : String} {manifest : Manifest} {d d' : Disk}
    {paths : IndexPaths} (h : (i.save dir manifest).run.run d = (.ok paths, d')) :
    paths = inDir dir ∧ ∃ d₁ d₂ d₃ bytes, d.createDirs dir = .ok d₁ ∧
      d₁.write (join dir chunksFile) (bytesOf i.chunksText) = .ok d₂ ∧
      Npy.encode i.matrix = .ok bytes ∧
      d₂.write (join dir embeddingsFile) ⟨bytes.toArray⟩ = .ok d₃ ∧
      d₃.write (join dir manifestFile) (bytesOf (manifest.toJson.pretty 0)) = .ok d' := by
  rw [run_save] at h
  cases h1 : d.createDirs dir with
  | error e => rw [h1] at h; cases h
  | ok d₁ =>
      rw [h1] at h
      dsimp only at h
      cases h2 : d₁.write (inDir dir).chunks (bytesOf i.chunksText) with
      | error e => rw [h2] at h; cases h
      | ok d₂ =>
          rw [h2] at h
          dsimp only at h
          cases h3 : Npy.encode i.matrix with
          | error fault => rw [h3] at h; cases h
          | ok bytes =>
              rw [h3] at h
              dsimp only at h
              cases h4 : d₂.write (inDir dir).embeddings ⟨bytes.toArray⟩ with
              | error e => rw [h4] at h; cases h
              | ok d₃ =>
                  rw [h4] at h
                  dsimp only at h
                  cases h5 : d₃.write (inDir dir).manifest (bytesOf (manifest.toJson.pretty 0)) with
                  | error e => rw [h5] at h; cases h
                  | ok d₄ =>
                      rw [h5] at h
                      cases h
                      exact ⟨rfl, d₁, d₂, d₃, bytes, rfl, h2, rfl, h4, h5⟩

/-- **A save that went well has stored the index,** whatever was in the three files before. -/
theorem stores_of_save {i : KnowledgeIndex} {dir : String} {manifest : Manifest} {d d' : Disk}
    {paths : IndexPaths} (h : (i.save dir manifest).run.run d = (.ok paths, d')) :
    paths = inDir dir ∧ Stores d' dir i manifest := by
  obtain ⟨hpaths, d₁, d₂, d₃, bytes, _, h2, h3, h4, h5⟩ := of_save h
  obtain ⟨place, hd₁, _, _⟩ := Disk.of_write_join fileName_chunks h2
  obtain ⟨hd₂, hc₂, _⟩ := hd₁.after_write fileName_chunks h2
  obtain ⟨hd₃, he₃, hk₃⟩ := hd₂.after_write fileName_embeddings h4
  obtain ⟨_, hm₄, hk₄⟩ := hd₃.after_write fileName_manifest h5
  refine ⟨hpaths, ⟨?_, ⟨bytes, h3, ?_⟩, hm₄⟩⟩
  · -- the two later writes are to other files
    exact (hk₄ _ fileName_chunks (by decide)).trans
      ((hk₃ _ fileName_chunks (by decide)).trans hc₂)
  · exact (hk₄ _ fileName_embeddings (by decide)).trans he₃

end KnowledgeIndex

/-! ## Loading -/

theorem Disk.toList_loop (contents : ByteArray) : ∀ (left i : Nat) (read : List UInt8),
    contents.size - i = left →
    ByteArray.toList.loop contents i read = read.reverse ++ contents.data.toList.drop i := by
  -- by what is left to read; `read` holds what came before, backwards
  intro left
  induction left with
  | zero =>
      intro i read hleft
      have hi : contents.data.toList.length ≤ i := Nat.le_of_sub_eq_zero hleft
      rw [ByteArray.toList.loop, if_neg (by omega), List.drop_eq_nil_of_le hi, List.append_nil]
  | succ left ih =>
      intro i read hleft
      have hi : i < contents.data.size := by
        show i < contents.size
        omega
      have hget : contents.get! i = contents.data[i] := by
        show contents.data[i]! = contents.data[i]
        exact getElem!_pos contents.data i hi
      rw [ByteArray.toList.loop, if_pos (by omega), ih (i + 1) _ (by omega), List.reverse_cons,
        List.append_assoc, List.drop_eq_getElem_cons (i := i) (by rwa [Array.length_toList]), hget]
      rfl

theorem Disk.toList_bytes (bytes : List UInt8) : (ByteArray.mk bytes.toArray).toList = bytes := by
  rw [ByteArray.toList, toList_loop _ _ 0 [] rfl]
  rfl

theorem Disk.readText_of_get {d : Disk} {path : String} {text : List Char}
    (h : d.get path = .ok (.file (KnowledgeIndex.bytesOf text))) :
    d.readText path = .ok (String.ofList text) := by
  have hutf8 : String.fromUTF8? (KnowledgeIndex.bytesOf text) = some (String.ofList text) := by
    rw [KnowledgeIndex.bytesOf, String.fromUTF8?, String.toUTF8_eq_toByteArray,
      dif_pos (String.ofList text).isValidUTF8]
    rfl
  rw [readText, read, h]
  simp only [bind, Except.bind, hutf8]

namespace KnowledgeIndex

open Grounded.Path IndexPaths

theorem loadChunks_of_get {d : Disk} {path : String} {chunks : List Chunk}
    (h : d.get path = .ok (.file (bytesOf ((Chunk.listToJson chunks).pretty 0)))) :
    loadChunks d path = .ok chunks := by
  rw [loadChunks, Disk.readText_of_get h]
  simp only [bind, Except.bind, mapError_ok, Json.parse?_pretty (Chunk.plain_listToJson chunks),
    Option.bind_some, Chunk.listOfJson?_listToJson]
  rfl

theorem loadMatrix_of_get {d : Disk} {path : String} {bytes : List UInt8} {m : Matrix}
    (h : d.get path = .ok (.file ⟨bytes.toArray⟩)) (hm : Npy.decode bytes = .ok m) :
    loadMatrix d path = .ok m := by
  rw [loadMatrix, Disk.read, h]
  simp only [bind, Except.bind, mapError_ok, Disk.toList_bytes, hm]

theorem pair_self (i : KnowledgeIndex) : pair i.chunks i.matrix = .ok i := dif_pos i.aligned

theorem of_pair {chunks : List Chunk} {matrix : Matrix} {i : KnowledgeIndex}
    (h : pair chunks matrix = .ok i) : i.chunks = chunks ∧ i.matrix = matrix := by
  rw [pair] at h
  split at h
  · cases h
    exact ⟨rfl, rfl⟩
  · cases h

theorem exists_of_loadChunks {d : Disk} {path : String} {chunks : List Chunk}
    (h : loadChunks d path = .ok chunks) : d.exists? path = true := by
  rw [Disk.exists?]
  cases hget : d.get path with
  | error e =>
      rw [loadChunks, Disk.readText, Disk.read, hget] at h
      cases h
  | ok t => rfl

theorem exists_of_loadMatrix {d : Disk} {path : String} {m : Matrix}
    (h : loadMatrix d path = .ok m) : d.exists? path = true := by
  rw [Disk.exists?]
  cases hget : d.get path with
  | error e =>
      rw [loadMatrix, Disk.read, hget] at h
      cases h
  | ok t => rfl

/-- **An index is loaded when its two parts are.** -/
theorem load_eq_ok_iff {d : Disk} {dir : String} {i : KnowledgeIndex} :
    load d dir = .ok i ↔ loadChunks d (inDir dir).chunks = .ok i.chunks ∧
      loadMatrix d (inDir dir).embeddings = .ok i.matrix := by
  constructor
  · intro h
    rw [load] at h
    dsimp only at h
    cases hc : d.exists? (inDir dir).chunks with
    | false => rw [hc] at h; cases h
    | true =>
        cases he : d.exists? (inDir dir).embeddings with
        | false => rw [hc, he] at h; cases h
        | true =>
            rw [hc, he] at h
            simp only [Bool.not_true, Bool.false_eq_true, if_false, bind, Except.bind] at h
            cases hchunks : loadChunks d (inDir dir).chunks with
            | error e => rw [hchunks] at h; cases h
            | ok chunks =>
                cases hmatrix : loadMatrix d (inDir dir).embeddings with
                | error e => rw [hchunks, hmatrix] at h; cases h
                | ok m =>
                    rw [hchunks, hmatrix] at h
                    dsimp only at h
                    cases hpair : pair chunks m with
                    | error e => rw [hpair] at h; cases h
                    | ok found =>
                        rw [hpair] at h
                        cases h
                        obtain ⟨rfl, rfl⟩ := of_pair hpair
                        exact ⟨rfl, rfl⟩
  · rintro ⟨hchunks, hmatrix⟩
    rw [load]
    dsimp only
    rw [exists_of_loadChunks hchunks, exists_of_loadMatrix hmatrix, hchunks, hmatrix]
    simp only [Bool.not_true, Bool.false_eq_true, if_false, bind, Except.bind, pair_self,
      mapError_ok]

/-- **What is stored is loaded,** bit for bit. -/
theorem load_of_stores {d : Disk} {dir : String} {i : KnowledgeIndex} {manifest : Manifest}
    (h : Stores d dir i manifest) (ha : i.matrix.Addressable) : load d dir = .ok i := by
  obtain ⟨bytes, hbytes, hget⟩ := h.embeddings
  have hwritten : Npy.decode bytes = .ok i.matrix := by
    rw [Npy.encode_eq ha] at hbytes
    injection hbytes with hbytes
    rw [← hbytes]
    exact Npy.decode_written ha
  exact load_eq_ok_iff.mpr ⟨loadChunks_of_get h.chunks, loadMatrix_of_get hget hwritten⟩

/-! ## Saving into a directory -/

/--
A directory can hold a stored index: it is there or can be created, and then each of the three places in
it is free or an ordinary file.
-/
structure CanHold (d : Disk) (dir : String) : Prop where
  rooted : isAbsolute dir = false → d.Rooted
  created : ∃ d₁, d.createDirs dir = .ok d₁ ∧ ∀ path ∈ (inDir dir).toList, d₁.isDir path = false

/-- A directory that exists can hold an index if its three places can. -/
theorem canHold_of_leadsTo {d : Disk} {dir : String} {place : List String}
    (hd : d.LeadsTo dir place) (hfree : ∀ path ∈ (inDir dir).toList, d.isDir path = false) :
    CanHold d dir := by
  refine ⟨?_, d, hd.createDirs, hfree⟩
  intro hrelative
  have hstart := hd.dirAt_start
  rw [Disk.start, hrelative, if_neg (by decide)] at hstart
  exact hstart

/-- So can one that is still missing, if its path has no step upward. -/
theorem canHold_of_noStepUp {d d₁ : Disk} {dir : String} (hr : isAbsolute dir = false → d.Rooted)
    (hup : ".." ∉ parts dir) (hc : d.createDirs dir = .ok d₁)
    (hfree : ∀ path ∈ (inDir dir).toList, d.isDir path = false) : CanHold d dir := by
  obtain ⟨place, hd⟩ := Disk.leadsTo_of_createDirs hr hc
  refine ⟨hr, d₁, hc, ?_⟩
  intro path hpath
  have hbefore := hfree path hpath
  simp only [inDir, toList, List.mem_cons, List.not_mem_nil, or_false] at hpath
  rcases hpath with rfl | rfl | rfl
  · exact Disk.isDir_join_of_createDirs hup hc hd fileName_chunks hbefore
  · exact Disk.isDir_join_of_createDirs hup hc hd fileName_embeddings hbefore
  · exact Disk.isDir_join_of_createDirs hup hc hd fileName_manifest hbefore

/-- **A save succeeds wherever an index can be held.** -/
theorem stores_of_canHold (i : KnowledgeIndex) (manifest : Manifest) {d : Disk} {dir : String}
    (h : CanHold d dir) (ha : i.matrix.Addressable) :
    ∃ d', (i.save dir manifest).run.run d = (.ok (inDir dir), d') ∧ Stores d' dir i manifest := by
  obtain ⟨d₁, hcreate, hfree⟩ := h.created
  obtain ⟨place, hd₁⟩ := Disk.leadsTo_of_createDirs h.rooted hcreate
  obtain ⟨d₂, hw₂, hd₂, hk₂⟩ := hd₁.write_of_free fileName_chunks
    (hfree (join dir chunksFile) (by simp [inDir, toList])) (bytesOf i.chunksText)
  -- a write takes no place but its own
  have hfree₂ : d₂.isDir (join dir embeddingsFile) = false := by
    rw [hk₂ _ fileName_embeddings (by decide)]
    exact hfree (join dir embeddingsFile) (by simp [inDir, toList])
  obtain ⟨d₃, hw₃, hd₃, hk₃⟩ := hd₂.write_of_free fileName_embeddings hfree₂
    ⟨(Npy.written i.matrix).toArray⟩
  have hfree₃ : d₃.isDir (join dir manifestFile) = false := by
    rw [hk₃ _ fileName_manifest (by decide), hk₂ _ fileName_manifest (by decide)]
    exact hfree (join dir manifestFile) (by simp [inDir, toList])
  obtain ⟨d₄, hw₄, _, _⟩ := hd₃.write_of_free fileName_manifest hfree₃
    (bytesOf (manifest.toJson.pretty 0))
  have hsave : (i.save dir manifest).run.run d = (.ok (inDir dir), d₄) := by
    rw [run_save, hcreate]
    dsimp only
    rw [inDir]
    dsimp only
    rw [hw₂, Npy.encode_eq ha]
    dsimp only
    rw [hw₃]
    dsimp only
    rw [hw₄]
  exact ⟨d₄, hsave, (stores_of_save hsave).2⟩

/-- Nor does a save succeed anywhere else. -/
theorem canHold_of_save {i : KnowledgeIndex} {dir : String} {manifest : Manifest} {d d' : Disk}
    {paths : IndexPaths} (hr : isAbsolute dir = false → d.Rooted)
    (h : (i.save dir manifest).run.run d = (.ok paths, d')) : CanHold d dir := by
  obtain ⟨_, d₁, d₂, d₃, _, h1, h2, _, h4, h5⟩ := of_save h
  obtain ⟨place, hd₁⟩ := Disk.leadsTo_of_createDirs hr h1
  obtain ⟨hd₂, _, hk₂⟩ := hd₁.after_write fileName_chunks h2
  obtain ⟨_, _, hk₃⟩ := hd₂.after_write fileName_embeddings h4
  refine ⟨hr, d₁, h1, ?_⟩
  intro path hpath
  simp only [inDir, toList, List.mem_cons, List.not_mem_nil, or_false] at hpath
  -- each write found its place free, and so it was before the writes to the others
  rcases hpath with rfl | rfl | rfl
  · exact Disk.isDir_of_write h2
  · rw [Disk.isDir, ← hk₂ _ fileName_embeddings (by decide), ← Disk.isDir]
    exact Disk.isDir_of_write h4
  · rw [Disk.isDir, ← hk₂ _ fileName_manifest (by decide),
      ← hk₃ _ fileName_manifest (by decide), ← Disk.isDir]
    exact Disk.isDir_of_write h5

/--
**A saved index is loaded again.** Whatever the index holds, a save into a directory that can hold it
succeeds, leaves nothing of what was in the three files before, and is read back as the same chunks and
the same matrix, bit for bit.
-/
theorem save_load (i : KnowledgeIndex) (manifest : Manifest) (d : Disk) (dir : String)
    (ha : i.matrix.Addressable) (h : CanHold d dir) :
    ∃ d', (i.save dir manifest).run.run d = (.ok (inDir dir), d') ∧ Stores d' dir i manifest ∧
      load d' dir = .ok i := by
  obtain ⟨d', hsave, hstored⟩ := stores_of_canHold i manifest h ha
  exact ⟨d', hsave, hstored, load_of_stores hstored ha⟩

/-- An index whose one chunk needs escapes and whose one number is a NaN. -/
def escaped : KnowledgeIndex :=
  ⟨[⟨"a \"quoted\"\nline\x01", "C:\\docs", "", .code⟩], Npy.nanCell, rfl⟩

/-- A directory with a broken file of old. -/
def stale : Disk := ⟨.dir [("index", .dir [("chunks.json", .file ⟨#[0x5B]⟩)])], []⟩

theorem save_load_stale : escaped.matrix.Addressable ∧ CanHold stale "index" ∧
    ∃ d', (escaped.save "index" (escaped.manifest "m" ⟨0, 0⟩)).run.run stale
        = (.ok (inDir "index"), d') ∧
      Stores d' "index" escaped (escaped.manifest "m" ⟨0, 0⟩) ∧ load d' "index" = .ok escaped := by
  have ha : escaped.matrix.Addressable := ⟨by decide, by decide, by decide⟩
  have hc : CanHold stale "index" := ⟨fun _ => ⟨_, rfl⟩, stale, rfl, by decide⟩
  exact ⟨ha, hc, save_load escaped (escaped.manifest "m" ⟨0, 0⟩) stale "index" ha hc⟩

/--
That the three places are free before the directory is created is not enough: the path of a missing
directory can step down into one of them and up again, and is then created with a directory there.
-/
theorem not_save_load_of_free :
    ¬ ∀ (i : KnowledgeIndex) (manifest : Manifest) (d : Disk) (dir : String),
      i.matrix.Addressable → d.Rooted → (∃ d₁, d.createDirs dir = .ok d₁) →
      (∀ path ∈ (inDir dir).toList, d.isDir path = false) →
      ∃ d', (i.save dir manifest).run.run d = (.ok (inDir dir), d') ∧ load d' dir = .ok i := by
  intro h
  -- the file of the chunks would have to be where this directory is
  have hmade : Disk.createDirs ⟨.empty, []⟩ "x/chunks.json/.."
      = .ok ⟨.dir [("x", .dir [("chunks.json", .dir [])])], []⟩ := rfl
  obtain ⟨d', hsave, _⟩ := h escaped (escaped.manifest "m" ⟨0, 0⟩) ⟨.empty, []⟩ "x/chunks.json/.."
    ⟨by decide, by decide, by decide⟩ ⟨[], rfl⟩ ⟨_, hmade⟩ (by decide)
  rw [run_save, hmade] at hsave
  cases hsave

end KnowledgeIndex

end Grounded
