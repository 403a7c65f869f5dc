import Mathlib.Data.List.Chain
import TexFlat.Encoding.Chinese
import TexFlat.Proofs.Encoding.Japanese

/-!
# Chinese text read back

GBK and GB 18030 write a few private characters in the bytes of the signs that they once stood for,
and these bytes are read as the signs. Every other character is read back: the two-byte form has each
character once, and the stretches of the four-byte form leave out only characters that need no four
bytes. In Big5 no character that is written is lost.
-/

namespace TexFlat.Encoding

variable {byte lead trail : UInt8} {c : Char} {written : Bytes} {pointer : Nat}

/-! ### Two bytes of GB 18030 -/

namespace Gb18030

theorem front?_ascii (below : byte.toNat < 0x80) (rest : Bytes) :
    front? (byte :: rest) = some ⟨[Char.ofNat byte.toNat], 0⟩ := by
  unfold front?
  dsimp only
  rw [if_pos (ascii_iff.mpr below)]

theorem front?_pair (leads : 0x81 ≤ lead.toNat ∧ lead.toNat ≤ 0xFE)
    (trails : isWithin 0x30 0x39 trail = false) (rest : Bytes) : front? (lead :: trail :: rest) =
      ((pairPointer? lead trail).bind Index.gb18030Pairs.charAt?).map fun c => ⟨[c], 1⟩ := by
  have high : ¬ lead < 0x80 := fun low => by have := ascii_iff.mp low; omega
  have other (byte : UInt8) (unlike : byte.toNat < 0x81 ∨ 0xFE < byte.toNat) : lead ≠ byte := by
    rintro rfl
    omega
  unfold front?
  dsimp only
  rw [if_neg high, if_neg (other 0x80 (by decide)), if_neg (other 0xFF (by decide)), trails]
  rfl

theorem readsAs_pairAt (found : Index.gb18030Pairs.charAt? pointer = some c) :
    ReadsAs front? (pairAt pointer) (some c) := by
  have inside := Index.lt_size_of_charAt? found
  rw [Index.gb18030Pairs, Index.size_ofRuns] at inside
  refine ⟨List.cons_ne_nil _ _, fun rest => ?_⟩
  have row := toNat_byteAt 0x81 (pointer / 190) (by omega)
  have cell : (byteAt (if pointer % 190 < 0x3F then 0x40 else 0x41) (pointer % 190)).toNat =
      (if pointer % 190 < 0x3F then 0x40 else 0x41) + pointer % 190 :=
    toNat_byteAt _ _ (by split <;> omega)
  unfold pairAt
  dsimp only
  generalize byteAt 0x81 (pointer / 190) = lead at row
  generalize byteAt (if pointer % 190 < 0x3F then 0x40 else 0x41) (pointer % 190) = trail at cell
  have cellBack : trail.toNat - (if trail < 0x7F then 0x40 else 0x41) = pointer % 190 := by
    simp only [UInt8.lt_iff_toNat_lt, UInt8.reduceToNat]
    split at cell <;> split <;> omega
  have place : pairPointer? lead trail = some pointer := by
    unfold pairPointer?
    rw [if_pos (by rw [Bool.or_eq_true, isWithin_eq_true, isWithin_eq_true]; split at cell <;> omega)]
    dsimp only
    rw [row, cellBack, Nat.add_sub_cancel_left, Nat.div_add_mod']
  have letter : isWithin 0x30 0x39 trail = false := by
    rw [isWithin_eq_false]
    split at cell <;> omega
  rw [List.cons_append, List.cons_append, front?_pair (by omega) letter, place, Option.bind_some, found]
  rfl

/-! ### What the index holds -/

def privatePoints : Nat := privatePairs.foldr (fun pair points => points ||| 1 <<< pair.1) 0

theorem testBit_privatePoints {n : Nat} :
    privatePoints.testBit n = true ↔ n ∈ privatePairs.map Prod.fst := by
  unfold privatePoints
  induction privatePairs with
  | nil => simp
  | cons pair pairs ih =>
    rw [List.foldr_cons, Nat.testBit_or, Bool.or_eq_true, ih, Nat.one_shiftLeft, Nat.testBit_two_pow,
      decide_eq_true_eq, List.map_cons, List.mem_cons]
    exact ⟨fun either => either.symm.imp_left Eq.symm, fun either => (either.imp_left Eq.symm).symm⟩

def interval (low high : Nat) : Nat := (1 <<< (high - low) - 1) <<< low

theorem testBit_interval {low high n : Nat} :
    (interval low high).testBit n = true ↔ low ≤ n ∧ n < high := by
  unfold interval
  rw [Nat.testBit_shiftLeft, Nat.one_shiftLeft, Nat.testBit_two_pow_sub_one, Bool.and_eq_true, decide_eq_true_eq,
    decide_eq_true_eq]
  omega

/-- The code points between one stretch of the four-byte form and the next. The pointers end at 39419
and go on at 189000. -/
def gaps : List (Nat × Nat) → Nat
  | (start, first) :: (start', first') :: ranges =>
    gaps ((start', first') :: ranges) ||| interval (first + (min start' 39420 - start)) first'
  | _ => 0

theorem testBit_gaps {before after : List (Nat × Nat)} {start first start' first' n : Nat}
    (least : first + (min start' 39420 - start) ≤ n) (most : n < first') :
    (gaps (before ++ (start, first) :: (start', first') :: after)).testBit n = true := by
  induction before with
  | nil => rw [List.nil_append, gaps, Nat.testBit_or, testBit_interval.mpr ⟨least, most⟩, Bool.or_true]
  | cons range before ih =>
    cases before with
    | nil =>
      rw [List.nil_append] at ih
      rw [List.cons_append, List.nil_append, gaps, Nat.testBit_or, ih, Bool.true_or]
    | cons range' before =>
      rw [List.cons_append] at ih
      rw [List.cons_append, List.cons_append, gaps, Nat.testBit_or, ih, Bool.true_or]

/-- The code points that the four-byte form leaves out. The one at pointer 7457 is among them: the pointer
has become that of a private character. -/
def leftOut : Nat := gaps Index.gb18030Ranges ||| Index.codePoints ['\u1e3f']

set_option maxRecDepth 100000 in
theorem exists_stretches : ∃ stretches, Index.Spelt Index.gb18030PairsRuns stretches ∧
    Index.SideBySide 23940 stretches Index.gb18030PairsSpans ∧
    Index.stretchPoints (stretches ++ Index.gb18030PairsSpans.map Index.Span.stretch) &&& privatePoints = 0 ∧
    leftOut &&& (Index.stretchPoints (stretches ++ Index.gb18030PairsSpans.map Index.Span.stretch) |||
      privatePoints ||| interval 0xD800 0xE000 ||| Index.codePoints ['\ue5e5', '\ue7c7']) = leftOut ∧
    leftOut.testBit 0xFFFD = false := by
  apply Exists.intro
  apply And.intro
  · unfold Index.gb18030PairsRuns
    repeat constructor
  · refine ⟨⟨?_, ?_, ?_, ?_⟩, ?_⟩ <;> decide +kernel

/-- A sign never shares its place with a private character that is written there. -/
theorem not_private (found : Index.gb18030Pairs.charAt? pointer = some c) :
    c.toNat ∉ privatePairs.map Prod.fst := by
  obtain ⟨stretches, spelt, -, apart, -⟩ := exists_stretches
  obtain ⟨stretch, member, -, letter⟩ := Index.exists_stretch spelt found
  intro key
  have bit := congrArg (fun points => points.testBit c.toNat) apart
  rw [Nat.testBit_and, Index.testBit_stretchPoints.mpr ⟨stretch, member, c, letter, rfl⟩,
    testBit_privatePoints.mpr key, Nat.zero_testBit] at bit
  exact absurd bit nofun

/-- The four-byte form leaves out only characters that need no four bytes. -/
theorem testBit_leftOut (unlisted : c.toNat ∉ privatePairs.map Prod.fst)
    (unpaired : Index.gb18030Pairs.pointerOf? c = none) (missing : c ≠ '\ue5e5') (special : c ≠ '\ue7c7') :
    leftOut.testBit c.toNat = false := by
  obtain ⟨stretches, spelt, laid, -, covered, blank⟩ := exists_stretches
  rw [← Bool.not_eq_true]
  intro out
  have bit := congrArg (fun points => points.testBit c.toNat) covered
  rw [Nat.testBit_and, out, Bool.true_and, Nat.testBit_or, Nat.testBit_or, Nat.testBit_or, Bool.or_eq_true,
    Bool.or_eq_true, Bool.or_eq_true] at bit
  rcases bit with ((paired | key) | surrogate) | other
  · obtain ⟨stretch, member, d, letter, same⟩ := Index.testBit_stretchPoints.mp paired
    rw [Char.toNat_inj.mp same] at letter
    have present : c ≠ '\ufffd' := by
      rintro rfl
      exact absurd (out.symm.trans blank) nofun
    obtain ⟨pointer, -, found⟩ := laid.charAt? spelt member letter present
    obtain ⟨earlier, first, -⟩ := Index.exists_pointerOf?_le found
    exact absurd (first.symm.trans unpaired) nofun
  · exact unlisted (testBit_privatePoints.mp key)
  · have bounds := testBit_interval.mp surrogate
    have valid : c.toNat.isValidChar := c.valid
    unfold Nat.isValidChar at valid
    omega
  · obtain ⟨d, member, same⟩ := Index.testBit_codePoints.mp other
    rw [Char.toNat_inj.mp same] at member
    rcases List.mem_cons.mp member with rfl | member
    · exact missing rfl
    · exact special (List.mem_singleton.mp member)

/-! ### Four bytes -/

theorem exists_range {key : Nat × Nat → Nat} {place : Nat} {range : Nat × Nat} :
    range? key place = some range ↔ ∃ before after, Index.gb18030Ranges = before ++ range :: after ∧
      key range ≤ place ∧ ∀ later ∈ after, place < key later := by
  unfold range?
  rw [List.find?_eq_some_iff_append, decide_eq_true_eq]
  constructor
  · rintro ⟨reached, after, before, split, beyond⟩
    refine ⟨before.reverse, after.reverse, ?_, reached, fun later member => ?_⟩
    · rw [← List.reverse_inj, split]
      simp
    · have := beyond later (List.mem_reverse.mp member)
      rw [Bool.not_eq_true', decide_eq_false_iff_not] at this
      exact Nat.lt_of_not_le this
  · rintro ⟨before, after, split, reached, beyond⟩
    refine ⟨reached, after.reverse, before.reverse, ?_, fun later member => ?_⟩
    · rw [split]
      simp
    · rw [Bool.not_eq_true', decide_eq_false_iff_not]
      exact Nat.not_le.mpr (beyond later (List.mem_reverse.mp member))

theorem ranges_ascend : Index.gb18030Ranges.Pairwise (fun range later => range.1 < later.1) := by
  have chain : Index.gb18030Ranges.IsChain (fun range later => range.1 < later.1) := by decide +kernel
  have : Trans (fun range later : Nat × Nat => range.1 < later.1)
      (fun range later : Nat × Nat => range.1 < later.1)
      (fun range later : Nat × Nat => range.1 < later.1) := ⟨Nat.lt_trans⟩
  exact List.isChain_iff_pairwise.mp chain

theorem getLast?_ranges : Index.gb18030Ranges.getLast? = some (189000, 0x10000) := by
  decide +kernel

theorem range?_7457 : range? Prod.fst 7457 = some (820, 0x452) := by
  decide +kernel

/-- The pointer of a character that is not left out lies in front of the next stretch. -/
theorem range?_longPointer (inside : leftOut.testBit c.toNat = false) {start first : Nat}
    (search : range? Prod.snd c.toNat = some (start, first)) :
    first ≤ c.toNat ∧ range? Prod.fst (start + (c.toNat - first)) = some (start, first) ∧
      (start + (c.toNat - first) ≤ 39419 ∨ 189000 ≤ start + (c.toNat - first)) ∧
        start + (c.toNat - first) ≤ 1237575 := by
  obtain ⟨before, after, split, reached, beyond⟩ := exists_range.mp search
  have valid : c.toNat.isValidChar := c.valid
  unfold Nat.isValidChar at valid
  dsimp only at reached
  cases after with
  | nil =>
    have last := getLast?_ranges
    rw [split, List.getLast?_append, List.getLast?_singleton, Option.some_or, Option.some.injEq,
      Prod.mk.injEq] at last
    obtain ⟨rfl, rfl⟩ := last
    exact ⟨reached, exists_range.mpr ⟨before, [], split, Nat.le_add_right _ _, nofun⟩, by omega, by omega⟩
  | cons next after =>
    obtain ⟨start', first'⟩ := next
    have most : c.toNat < first' := beyond _ List.mem_cons_self
    rw [leftOut, Nat.testBit_or, Bool.or_eq_false_iff, split] at inside
    have least : c.toNat < first + (min start' 39420 - start) := by
      refine Nat.lt_of_not_le fun least => ?_
      exact absurd ((testBit_gaps least most).symm.trans inside.1) nofun
    refine ⟨reached, exists_range.mpr ⟨before, (start', first') :: after, split, ?_, ?_⟩, ?_, ?_⟩
    · exact Nat.le_add_right _ _
    · have ascend := ranges_ascend
      rw [split] at ascend
      have behind := (List.pairwise_cons.mp (List.pairwise_cons.mp (List.pairwise_append.mp ascend).2.1).2).1
      rw [List.forall_mem_cons]
      refine ⟨by dsimp only; omega, fun later member => ?_⟩
      have := behind later member
      dsimp only at this
      omega
    · omega
    · omega

theorem longChar?_of_longPointer? (inside : c ≠ '\ue7c7' → leftOut.testBit c.toNat = false)
    (spelt : longPointer? c = some pointer) : longChar? pointer = some c ∧ pointer ≤ 1237575 := by
  unfold longPointer? at spelt
  split at spelt
  · rename_i special
    subst special
    obtain rfl := Option.some.inj spelt
    decide
  · rename_i plain
    obtain ⟨⟨start, first⟩, search, rfl⟩ := Option.map_eq_some_iff.mp spelt
    obtain ⟨reached, back, bounds, most⟩ := range?_longPointer (inside plain) search
    have other : start + (c.toNat - first) ≠ 7457 := by
      intro same
      rw [same, range?_7457, Option.some.injEq, Prod.mk.injEq] at back
      have out : c.toNat = 0x1E3F := by omega
      have bit : (Index.codePoints ['\u1e3f']).testBit c.toNat = true :=
        Index.testBit_codePoints.mpr ⟨'\u1e3f', List.mem_singleton_self _, out.symm⟩
      have clear := inside plain
      rw [leftOut, Nat.testBit_or, bit, Bool.or_true] at clear
      exact absurd clear nofun
    refine ⟨?_, most⟩
    dsimp only
    rw [longChar?, if_neg (by omega), if_neg other, back, Option.map_some]
    dsimp only
    rw [Nat.add_sub_cancel_left, Nat.add_sub_cancel' reached, Char.ofNat_toNat]

theorem readsAs_longAt (found : longChar? pointer = some c) (inside : pointer ≤ 1237575) :
    ReadsAs front? (longAt pointer) (some c) := by
  have a := toNat_byteAt 0x81 (pointer / 12600) (by omega)
  have b := toNat_byteAt 0x30 (pointer / 1260 % 10) (by omega)
  have c := toNat_byteAt 0x81 (pointer / 10 % 126) (by omega)
  have d := toNat_byteAt 0x30 (pointer % 10) (by omega)
  refine ⟨List.cons_ne_nil _ _, fun rest => ?_⟩
  unfold longAt
  generalize byteAt 0x81 (pointer / 12600) = first at a
  generalize byteAt 0x30 (pointer / 1260 % 10) = second at b
  generalize byteAt 0x81 (pointer / 10 % 126) = third at c
  generalize byteAt 0x30 (pointer % 10) = fourth at d
  have high : ¬ first < 0x80 := fun low => by have := ascii_iff.mp low; omega
  have other (byte : UInt8) (unlike : byte.toNat < 0x81 ∨ 0xFE < byte.toNat) : first ≠ byte := by
    rintro rfl
    omega
  have place : (((first.toNat - 0x81) * 10 + (second.toNat - 0x30)) * 126 + (third.toNat - 0x81)) * 10 +
      (fourth.toNat - 0x30) = pointer := by omega
  simp only [List.cons_append, List.nil_append]
  unfold front?
  dsimp only
  rw [if_neg high, if_neg (other 0x80 (by decide)), if_neg (other 0xFF (by decide)),
    if_pos (isWithin_eq_true.mpr (by omega)), if_pos, place, found]
  · rfl
  · rw [Bool.and_eq_true, isWithin_eq_true, isWithin_eq_true]
    omega

/-! ### Characters -/

theorem mem_privatePairs (key : privatePairs.lookup c.toNat = some written) :
    (c.toNat, written) ∈ privatePairs := by
  obtain ⟨before, after, split, -⟩ := List.lookup_eq_some_iff.mp key
  rw [split]
  exact List.mem_append_right _ List.mem_cons_self

/-- The bytes of a private character are those of a sign, which is another one. -/
theorem reads_private (member : (c.toNat, written) ∈ privatePairs) :
    ∃ result, ReadsAs front? written result ∧ result ≠ some c := by
  have paired : ∀ pair ∈ privatePairs, ∃ lead ∈ [0xFE, 0xA6], ∃ trail ∈ pair.2.tail,
      pair.2 = [lead, trail] ∧ isWithin 0x30 0x39 trail = false := by decide
  obtain ⟨lead, leads, trail, -, same, letter⟩ := paired _ member
  obtain rfl : written = [lead, trail] := same
  have bounds : ∀ lead : UInt8, lead ∈ [0xFE, 0xA6] → 0x81 ≤ lead.toNat ∧ lead.toNat ≤ 0xFE := by
    intro lead either
    rcases List.mem_cons.mp either with rfl | either
    · decide
    · rw [List.mem_singleton.mp either]
      decide
  refine ⟨(pairPointer? lead trail).bind Index.gb18030Pairs.charAt?,
    ⟨List.cons_ne_nil _ _, fun rest => front?_pair (bounds lead leads) letter rest⟩, fun read => ?_⟩
  obtain ⟨pointer, -, found⟩ := Option.bind_eq_some_iff.mp read
  exact not_private found (List.mem_map_of_mem member)

theorem reads_short (spelt : shortBytes? c = some written) :
    ∃ result, ReadsAs front? written result ∧ (result = some c ↔ c.toNat ∉ privatePairs.map Prod.fst) := by
  unfold shortBytes? at spelt
  split at spelt
  · rename_i ascii
    obtain rfl := Option.some.inj spelt
    refine ⟨some c, readsAs_ascii 0x80 (by omega) (fun byte rest below => front?_ascii below rest) ascii, ?_⟩
    have large : ∀ n ∈ privatePairs.map Prod.fst, 0x80 ≤ n := by decide
    exact iff_of_true rfl fun key => absurd (large _ key) (Nat.not_le.mpr ascii)
  · split at spelt
    · rename_i bytes key
      obtain rfl := Option.some.inj spelt
      have member := mem_privatePairs key
      obtain ⟨result, reads, other⟩ := reads_private member
      exact ⟨result, reads, iff_of_false other (not_not_intro (List.mem_map_of_mem member))⟩
    · obtain ⟨pointer, found, rfl⟩ := Option.map_eq_some_iff.mp spelt
      have there := Index.charAt?_of_pointerOf? found
      exact ⟨some c, readsAs_pairAt there, iff_of_true rfl (not_private there)⟩

/-- A character without a short form is not left out of the long one. -/
theorem unpaired_of_shortBytes? (long : shortBytes? c = none) :
    c.toNat ∉ privatePairs.map Prod.fst ∧ Index.gb18030Pairs.pointerOf? c = none := by
  unfold shortBytes? at long
  split at long
  · exact absurd long nofun
  · split at long
    · exact absurd long nofun
    · rename_i unlisted
      refine ⟨fun key => ?_, Option.map_eq_none_iff.mp long⟩
      obtain ⟨pair, member, same⟩ := List.mem_map.mp key
      have other := List.lookup_eq_none_iff.mp unlisted pair member
      rw [bne_iff_ne] at other
      exact other same.symm

/-- A character is read back unless it is one of the private ones. -/
theorem reads (spelt : bytesOf? c = some written) :
    ∃ result, ReadsAs front? written result ∧ (result = some c ↔ c.toNat ∉ privatePairs.map Prod.fst) := by
  unfold bytesOf? at spelt
  split at spelt
  · exact absurd spelt nofun
  · rename_i missing
    split at spelt
    · rename_i bytes short
      obtain rfl := Option.some.inj spelt
      exact reads_short short
    · rename_i long
      obtain ⟨pointer, place, rfl⟩ := Option.map_eq_some_iff.mp spelt
      obtain ⟨unlisted, unpaired⟩ := unpaired_of_shortBytes? long
      obtain ⟨found, inside⟩ := longChar?_of_longPointer? (testBit_leftOut unlisted unpaired missing) place
      exact ⟨some c, readsAs_longAt found inside, iff_of_true rfl unlisted⟩

end Gb18030

/-- GBK is read as GB 18030 is, and has a byte of its own for the euro sign. -/
theorem Gbk.reads (spelt : Gbk.bytesOf? c = some written) :
    ∃ result, ReadsAs Gb18030.front? written result ∧
      (result = some c ↔ c.toNat ∉ Gb18030.privatePairs.map Prod.fst) := by
  unfold Gbk.bytesOf? at spelt
  split at spelt
  · rename_i euro
    subst euro
    obtain rfl := Option.some.inj spelt
    exact ⟨some '€', ⟨List.cons_ne_nil _ _, fun rest => rfl⟩, by decide⟩
  · exact Gb18030.reads_short spelt

/-! ### Big5 -/

namespace Big5

theorem front?_pair (leads : 0x81 ≤ lead.toNat ∧ lead.toNat ≤ 0xFE) (rest : Bytes) :
    front? (lead :: trail :: rest) = ((pointer? lead trail).bind charsAt?).map fun chars => ⟨chars, 1⟩ := by
  have high : ¬ lead < 0x80 := fun low => by have := ascii_iff.mp low; omega
  unfold front?
  dsimp only
  rw [if_neg high, if_pos (isWithin_eq_true.mpr leads)]

theorem charsAt?_of_le (large : 5024 ≤ pointer) :
    charsAt? pointer = (Index.big5Pairs.charAt? pointer).map ([·]) := by
  have plain : accented.lookup pointer = none := by
    rw [List.lookup_eq_none_iff]
    intro pair member
    have small : ∀ pair ∈ accented, pair.1 < 5024 := by decide
    have := small pair member
    rw [bne_iff_ne]
    omega
  rw [charsAt?, plain]

theorem readsAs_bytesAt (found : Index.big5Pairs.charAt? pointer = some c) (large : 5024 ≤ pointer) :
    ReadsAs front? (bytesAt pointer) (some c) := by
  have inside := Index.lt_size_of_charAt? found
  rw [Index.big5Pairs, Index.size_ofRuns] at inside
  refine ⟨List.cons_ne_nil _ _, fun rest => ?_⟩
  have row := toNat_byteAt 0x81 (pointer / 157) (by omega)
  have cell : (byteAt (if pointer % 157 < 0x3F then 0x40 else 0x62) (pointer % 157)).toNat =
      (if pointer % 157 < 0x3F then 0x40 else 0x62) + pointer % 157 :=
    toNat_byteAt _ _ (by split <;> omega)
  unfold bytesAt
  dsimp only
  generalize byteAt 0x81 (pointer / 157) = lead at row
  generalize byteAt (if pointer % 157 < 0x3F then 0x40 else 0x62) (pointer % 157) = trail at cell
  have cellBack : trail.toNat - (if trail < 0x7F then 0x40 else 0x62) = pointer % 157 := by
    simp only [UInt8.lt_iff_toNat_lt, UInt8.reduceToNat]
    split at cell <;> split <;> omega
  have place : pointer? lead trail = some pointer := by
    unfold pointer?
    rw [if_pos (by rw [Bool.or_eq_true, isWithin_eq_true, isWithin_eq_true]; split at cell <;> omega)]
    dsimp only
    rw [row, cellBack, Nat.add_sub_cancel_left, Nat.div_add_mod']
  rw [List.cons_append, List.cons_append, front?_pair (by omega), place, Option.bind_some,
    charsAt?_of_le large, found]
  rfl

theorem reads (spelt : bytesOf? c = some written) : ReadsAs front? written (some c) := by
  unfold bytesOf? at spelt
  split at spelt
  · rename_i ascii
    obtain rfl := Option.some.inj spelt
    refine readsAs_ascii 0x80 (by omega) (fun byte rest below => ?_) ascii
    unfold front?
    dsimp only
    rw [if_pos (ascii_iff.mpr below)]
  · obtain ⟨pointer, chosen, rfl⟩ := Option.map_eq_some_iff.mp spelt
    have member : pointer ∈ (Index.big5Pairs.pointersOf c).filter (5024 ≤ ·) := by
      split at chosen
      · exact List.mem_of_getLast? chosen
      · exact List.mem_of_head? chosen
    obtain ⟨member, large⟩ := List.mem_filter.mp member
    exact readsAs_bytesAt (Index.charAt?_of_mem_pointersOf member) (of_decide_eq_true large)

end Big5

end TexFlat.Encoding
