import TexFlat.Encoding.Codec
import TexFlat.Proofs.Encoding.Index
import TexFlat.Proofs.Encoding.Unicode

/-!
# One byte to a character

A code page gives every character at most one byte, so that a byte and its character determine each
other; so they do in the encoding of the private characters. Bytes then stand for a text exactly when
it is written in them.
-/

namespace TexFlat

namespace CodePage

variable {page : CodePage} {byte : UInt8} {c : Char} {text : Text}

/-- No character stands for two bytes, and none for a byte beside its ASCII one. -/
def distinct : Text → Bool
  | [] => true
  | c :: text => 128 ≤ c.toNat && (c == '\ufffd' || !(Encoding.Index.codePoints text).testBit c.toNat) &&
    distinct text

theorem distinct_cons : distinct (c :: text) = true ↔
    128 ≤ c.toNat ∧ (c = '\ufffd' ∨ c ∉ text) ∧ distinct text = true := by
  have member : (Encoding.Index.codePoints text).testBit c.toNat = true ↔ c ∈ text := by
    rw [Encoding.Index.testBit_codePoints]
    constructor
    · rintro ⟨d, member, same⟩
      rwa [← Char.toNat_inj.mp same]
    · exact fun member => ⟨c, member, rfl⟩
  rw [distinct, Bool.and_eq_true, Bool.and_eq_true, Bool.or_eq_true, decide_eq_true_eq, beq_iff_eq,
    Bool.not_eq_true', ← member, Bool.not_eq_true, and_assoc]

theorem le_toNat_of_distinct (unlike : distinct text = true) : ∀ c ∈ text, 128 ≤ c.toNat := by
  induction text with
  | nil => exact List.forall_mem_nil _
  | cons c text ih =>
    obtain ⟨high, -, unlike⟩ := distinct_cons.mp unlike
    exact List.forall_mem_cons.mpr ⟨high, ih unlike⟩

theorem findIdx?_of_distinct {i : Nat} (unlike : distinct text = true) (present : c ≠ '\ufffd')
    (found : text[i]? = some c) : text.findIdx? (· == c) = some i := by
  induction text generalizing i with
  | nil => exact absurd found nofun
  | cons d text ih =>
    obtain ⟨-, once, unlike⟩ := distinct_cons.mp unlike
    rw [List.findIdx?_cons]
    cases i with
    | zero =>
      obtain rfl : d = c := Option.some.inj found
      rw [beq_self_eq_true]
      rfl
    | succ i =>
      rw [List.getElem?_cons_succ] at found
      have other : d ≠ c := by
        rintro rfl
        exact once.elim present fun missing => missing (List.mem_of_getElem? found)
      rw [beq_eq_false_iff_ne.mpr other, ih unlike found]
      rfl

set_option maxRecDepth 100000 in
theorem distinct_upper (page : CodePage) : distinct page.upper = true ∧ page.upper.length = 128 := by
  suffices spelt : ∃ letters, page.upper = letters ∧ distinct letters = true ∧ letters.length = 128 by
    obtain ⟨letters, same, facts⟩ := spelt
    rwa [same]
  cases page
  all_goals
    apply Exists.intro
    apply And.intro
    · unfold upper
      try unfold controls
      apply Encoding.Letters.toList_eq
      repeat constructor
    · decide +kernel

/-- A byte and its character determine each other. -/
theorem charOf?_eq_some_iff : page.charOf? byte = some c ↔ page.byteOf? c = some byte := by
  obtain ⟨unlike, length⟩ := page.distinct_upper
  have fits := byte.toNat_lt
  unfold charOf? byteOf?
  constructor
  · intro meaning
    split at meaning
    · rename_i ascii
      obtain rfl := Option.some.inj meaning
      have small : byte.toNat < 128 := UInt8.lt_iff_toNat_lt.mp ascii
      have value : (Char.ofNat byte.toNat).toNat = byte.toNat :=
        Encoding.toNat_ofNat_of_valid (by unfold Nat.isValidChar; omega)
      rw [value, if_pos small, UInt8.ofNat_toNat]
    · rename_i beyond
      have large : 128 ≤ byte.toNat := Nat.le_of_not_lt fun small => beyond (UInt8.lt_iff_toNat_lt.mpr small)
      obtain ⟨found, present⟩ := Option.filter_eq_some_iff.mp meaning
      rw [decide_eq_true_eq] at present
      have high := le_toNat_of_distinct unlike c (List.mem_of_getElem? found)
      rw [if_neg (by omega), if_neg present, findIdx?_of_distinct unlike present found, Option.map_some,
        Nat.add_sub_cancel' large, UInt8.ofNat_toNat]
  · intro written
    split at written
    · rename_i ascii
      obtain rfl := Option.some.inj written
      have value : (UInt8.ofNat c.toNat).toNat = c.toNat := by rw [UInt8.toNat_ofNat']; omega
      rw [if_pos (UInt8.lt_iff_toNat_lt.mpr (by rw [value]; exact ascii)), value, Char.ofNat_toNat]
    · split at written
      · exact absurd written nofun
      · rename_i present
        obtain ⟨i, search, rfl⟩ := Option.map_eq_some_iff.mp written
        obtain ⟨inside, same, -⟩ := List.findIdx?_eq_some_iff_getElem.mp search
        have value : (UInt8.ofNat (128 + i)).toNat = 128 + i := by rw [UInt8.toNat_ofNat']; omega
        have large : ¬ UInt8.ofNat (128 + i) < 128 := by
          rw [UInt8.lt_iff_toNat_lt, value]
          exact Nat.not_lt.mpr (Nat.le_add_right _ _)
        rw [if_neg large, value, Nat.add_sub_cancel_left, List.getElem?_eq_getElem inside, eq_of_beq same,
          Option.filter_some, if_pos (decide_eq_true present)]

end CodePage

namespace Encoding

variable {page : CodePage} {bytes : Bytes} {text : Text}

theorem decodeBy_codePage_eq_some_iff : decodeBy (codePageFront? page) bytes = some text ↔
    encodeBy (fun c => (page.byteOf? c).map ([·])) text = some bytes := by
  refine decodeBy_eq_some_iff_encodeBy page.charOf? (fun byte rest => rfl) ?_
  intro c written
  rw [Option.map_eq_some_iff]
  constructor
  · rintro ⟨byte, found, rfl⟩
    exact ⟨byte, rfl, CodePage.charOf?_eq_some_iff.mpr found⟩
  · rintro ⟨byte, rfl, meaning⟩
    exact ⟨byte, CodePage.charOf?_eq_some_iff.mp meaning, rfl⟩

theorem decodeBy_userDefined_eq_some_iff : decodeBy userDefinedFront? bytes = some text ↔
    encodeBy userDefinedByte? text = some bytes := by
  refine decodeBy_eq_some_iff_encodeBy (fun byte =>
    some (Char.ofNat (if byte < 128 then byte.toNat else 0xF700 + byte.toNat))) (fun byte rest => rfl) ?_
  intro c written
  unfold userDefinedByte?
  constructor
  · intro spelt
    split at spelt
    · rename_i ascii
      obtain rfl := Option.some.inj spelt
      have value : (UInt8.ofNat c.toNat).toNat = c.toNat := by rw [UInt8.toNat_ofNat']; omega
      refine ⟨_, rfl, ?_⟩
      rw [if_pos (UInt8.lt_iff_toNat_lt.mpr (by rw [value]; exact ascii)), value, Char.ofNat_toNat]
    · split at spelt
      · rename_i upper
        obtain rfl := Option.some.inj spelt
        have value : (UInt8.ofNat (c.toNat - 0xF700)).toNat = c.toNat - 0xF700 := by
          rw [UInt8.toNat_ofNat']
          omega
        have large : ¬ UInt8.ofNat (c.toNat - 0xF700) < 128 := by
          rw [UInt8.lt_iff_toNat_lt, value]
          exact Nat.not_lt.mpr (by change 128 ≤ _; omega)
        refine ⟨_, rfl, ?_⟩
        rw [if_neg large, value, Nat.add_sub_cancel' (by omega), Char.ofNat_toNat]
      · exact absurd spelt nofun
  · rintro ⟨byte, rfl, meaning⟩
    have fits := byte.toNat_lt
    obtain rfl := Option.some.inj meaning
    split
    · rename_i ascii
      have small : byte.toNat < 128 := UInt8.lt_iff_toNat_lt.mp ascii
      rw [toNat_ofNat_of_valid (by unfold Nat.isValidChar; omega), if_pos small, UInt8.ofNat_toNat]
    · rename_i beyond
      have large : 128 ≤ byte.toNat := Nat.le_of_not_lt fun small => beyond (UInt8.lt_iff_toNat_lt.mpr small)
      rw [toNat_ofNat_of_valid (by unfold Nat.isValidChar; omega), if_neg (by omega), if_pos (by omega),
        Nat.add_sub_cancel_left, UInt8.ofNat_toNat]

end Encoding
end TexFlat
