import TexFlat.Encoding.Korean
import TexFlat.Proofs.Encoding.Japanese

/-!
# Korean text read back

EUC-KR reads every character that it writes as that character.
-/

namespace TexFlat.Encoding.EucKr

variable {lead trail : UInt8} {c : Char} {written : Bytes} {pointer : Nat}

theorem front?_pair (leads : 0x81 ≤ lead.toNat ∧ lead.toNat ≤ 0xFE)
    (trails : 0x41 ≤ trail.toNat ∧ trail.toNat ≤ 0xFE) (rest : Bytes) :
    front? (lead :: trail :: rest) =
      (Index.ksPairs.charAt? ((lead.toNat - 0x81) * 190 + (trail.toNat - 0x41))).map
        fun c => ⟨[c], 1⟩ := by
  have high : ¬ lead < 0x80 := fun low => by have := ascii_iff.mp low; omega
  unfold front?
  dsimp only
  rw [if_neg high, if_pos]
  rw [Bool.and_eq_true, isWithin_eq_true, isWithin_eq_true]
  exact ⟨leads, trails⟩

theorem readsAs_pair (found : Index.ksPairs.charAt? pointer = some c) :
    ReadsAs front? [byteAt 0x81 (pointer / 190), byteAt 0x41 (pointer % 190)] (some c) := by
  have inside := Index.lt_size_of_charAt? found
  rw [Index.ksPairs, Index.size_ofRuns] at inside
  have lead := toNat_byteAt 0x81 (pointer / 190) (by omega)
  have trail := toNat_byteAt 0x41 (pointer % 190) (by omega)
  have place : ((byteAt 0x81 (pointer / 190)).toNat - 0x81) * 190 +
      ((byteAt 0x41 (pointer % 190)).toNat - 0x41) = pointer := by omega
  refine ⟨List.cons_ne_nil _ _, fun rest => ?_⟩
  rw [List.cons_append, List.cons_append, front?_pair (by omega) (by omega), place, found]
  rfl

theorem reads (spelt : bytesOf? c = some written) : ReadsAs front? written (some c) := by
  unfold bytesOf? at spelt
  split at spelt
  · rename_i ascii
    obtain rfl := Option.some.inj spelt
    refine readsAs_ascii 0x80 (by omega) (fun byte rest below => ?_) ascii
    unfold front?
    dsimp only
    rw [if_pos (ascii_iff.mpr below)]
  · obtain ⟨pointer, found, rfl⟩ := Option.map_eq_some_iff.mp spelt
    exact readsAs_pair (Index.charAt?_of_pointerOf? found)

end TexFlat.Encoding.EucKr
