import Grounded.Proofs.JsonLookahead
import Grounded.Proofs.SaveLoad

/-!
# Files that are cut short

Neither file of an index can be mistaken for another one when it is cut. The text of the chunks is cut
within a character, and is then no text, or between two, and is then a list without its end. A matrix
file says how many numbers there are before the first of them.
-/

namespace Grounded

/-- A first part of the content, which leaves something out. -/
def Cut (part content : ByteArray) : Prop := ∃ rest, rest ≠ ByteArray.empty ∧ part ++ rest = content

theorem Cut.ne {part content : ByteArray} (h : Cut part content) : part ≠ content := by
  rintro rfl
  obtain ⟨rest, hrest, heq⟩ := h
  have hsize := congrArg ByteArray.size heq
  rw [ByteArray.size_append] at hsize
  exact hrest (ByteArray.size_eq_zero_iff.mp (by omega))

/-! ## Texts -/

namespace Text

/-- **Text of whole characters that begins another one as bytes** begins it as characters. -/
theorem prefix_of_utf8Encode {p s : List Char} {rest : ByteArray}
    (h : p.utf8Encode ++ rest = s.utf8Encode) : p <+: s := by
  induction p generalizing s with
  | nil => exact List.nil_prefix
  | cons c p ih =>
      cases s with
      | nil =>
          rw [List.utf8Encode_nil, ByteArray.append_eq_empty_iff, List.utf8Encode_eq_empty] at h
          cases h.1
      | cons d s =>
          rw [List.utf8Encode_cons, ByteArray.append_assoc, List.utf8Encode_singleton,
            List.utf8Encode_cons, List.utf8Encode_singleton] at h
          -- the first character can be told from the bytes
          have hc := ByteArray.utf8DecodeChar?_utf8EncodeChar_append (b := p.utf8Encode ++ rest) (c := c)
          rw [h, ByteArray.utf8DecodeChar?_utf8EncodeChar_append] at hc
          injection hc with hc
          subst hc
          exact List.cons_prefix_cons.mpr ⟨rfl, ih ((ByteArray.append_right_inj _).mp h)⟩

end Text

/-! ## Matrices -/

namespace Npy

/-- **A matrix file that is cut short is refused.** -/
theorem decode_of_cut {first rest : List UInt8} {m : Matrix} (hrest : rest ≠ [])
    (h : decode (first ++ rest) = .ok m) : ∃ fault, decode first = .error fault := by
  cases hfirst : decode first with
  | error fault => exact ⟨fault, rfl⟩
  | ok m' =>
      rw [decode_eq] at h hfirst
      cases ho : opened first with
      | error fault => rw [ho] at hfirst; cases hfirst
      | ok found =>
          obtain ⟨⟨rows, dims⟩, body⟩ := found
          obtain ⟨pre, text, hb, hp, hmax, hs⟩ := of_opened ho
          -- the same header, and behind it all of the numbers or only the first of them
          have hlong : opened (first ++ rest) = .ok ((rows, dims), body ++ rest) := by
            rw [hb, List.append_assoc, List.append_assoc, opened_append hp hmax, hs]
            rfl
          rw [ho] at hfirst
          rw [hlong] at h
          obtain ⟨rfl, rfl, _, hshort, _⟩ := of_ofShape hfirst
          obtain ⟨hrows, hdims, _, hlen, _⟩ := of_ofShape h
          rw [hrows, hdims, List.length_append, hshort] at hlen
          have hnil : rest.length = 0 := by omega
          exact absurd (List.eq_nil_of_length_eq_zero hnil) hrest

end Npy

/-! ## The two files of an index -/

namespace Disk

theorem toList_eq (contents : ByteArray) : contents.toList = contents.data.toList := by
  have h := toList_bytes contents.data.toList
  rwa [Array.toArray_toList] at h

theorem text_of_readText {d : Disk} {path text : String} {contents : ByteArray}
    (hget : d.get path = .ok (.file contents)) (h : d.readText path = .ok text) :
    text.toList.utf8Encode = contents := by
  rw [readText, read, hget] at h
  simp only [bind, Except.bind, String.fromUTF8?] at h
  split at h
  · rename_i found hfound
    cases h
    split at hfound
    · cases hfound
      exact String.utf8Encode_toList
    · cases hfound
  · cases h

end Disk

namespace KnowledgeIndex

theorem loadChunks_of_cut {d : Disk} {path : String} {chunks : List Chunk} {part : ByteArray}
    (hcut : Cut part (bytesOf ((Chunk.listToJson chunks).pretty 0)))
    (h : d.get path = .ok (.file part)) : ∃ e, loadChunks d path = .error e := by
  rw [loadChunks]
  cases htext : d.readText path with
  | error e => exact ⟨.file e, rfl⟩
  | ok text =>
      have hbytes := Disk.text_of_readText h htext
      have hnone : Json.parse? text = none := by
        have hcontent : bytesOf ((Chunk.listToJson chunks).pretty 0)
            = ((Chunk.listToJson chunks).pretty 0).utf8Encode := by
          rw [bytesOf, String.toUTF8_eq_toByteArray, String.toByteArray_ofList]
        rw [hcontent, ← hbytes] at hcut
        have hne := hcut.ne
        obtain ⟨rest, _, heq⟩ := hcut
        rw [← String.ofList_toList (s := text)]
        refine Json.parse?_eq_none_of_cut (Chunk.plain_listToJson chunks) 0
          (Text.prefix_of_utf8Encode heq) ?_
        intro he
        exact hne (congrArg List.utf8Encode he)
      simp only [bind, Except.bind, mapError_ok, hnone, Option.bind_none]
      exact ⟨badChunks, rfl⟩

theorem loadMatrix_of_cut {d : Disk} {path : String} {bytes : List UInt8} {m : Matrix}
    {part : ByteArray} (hm : Npy.decode bytes = .ok m) (hcut : Cut part ⟨bytes.toArray⟩)
    (h : d.get path = .ok (.file part)) : ∃ e, loadMatrix d path = .error e := by
  obtain ⟨rest, hrest, heq⟩ := hcut
  have hlist : bytes = part.data.toList ++ rest.data.toList := by
    have hdata := congrArg (·.data.toList) heq
    simp only [ByteArray.data_append, Array.toList_append] at hdata
    exact hdata.symm
  have hne : rest.data.toList ≠ [] := by
    intro hnil
    refine hrest (ByteArray.size_eq_zero_iff.mp ?_)
    exact congrArg List.length hnil
  rw [hlist] at hm
  obtain ⟨fault, hfault⟩ := Npy.decode_of_cut hne hm
  refine ⟨fault.toError, ?_⟩
  rw [loadMatrix, Disk.read, h]
  simp only [bind, Except.bind, mapError_ok, Disk.toList_eq, hfault]
  rfl

end KnowledgeIndex

end Grounded
