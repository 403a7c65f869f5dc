import TexFlat.Encoding.Japanese
import TexFlat.Proofs.Encoding.Index
import TexFlat.Proofs.Encoding.Stepwise

/-!
# Japanese text read back

What an encoder writes for a character is read as that character, unless it wrote another one in its
place: an ASCII byte for the yen sign or the overline, the full-width form of a minus sign or of half-width
katakana. The extensions of JIS X 0208 repeat characters beyond the rows that EUC-JP and ISO-2022-JP
have, and the first pointer of a character is never out there: `pointerOf?_jisX0208_lt`.
-/

namespace TexFlat.Encoding

variable {byte lead trail : UInt8} {c : Char} {written : Bytes} {low high base offset pointer : Nat}

/-! ### Bytes -/

theorem toNat_byteAt (base offset : Nat) (fits : base + offset < 256) :
    (byteAt base offset).toNat = base + offset := by
  rw [byteAt, UInt8.toNat_ofNat']
  omega

theorem isWithin_eq_true : isWithin low high byte = true ↔ low ≤ byte.toNat ∧ byte.toNat ≤ high := by
  unfold isWithin
  rw [Bool.and_eq_true, decide_eq_true_eq, decide_eq_true_eq]

theorem isWithin_eq_false : isWithin low high byte = false ↔ ¬ (low ≤ byte.toNat ∧ byte.toNat ≤ high) := by
  rw [← Bool.not_eq_true, isWithin_eq_true]

theorem ascii_iff : byte < 0x80 ↔ byte.toNat < 0x80 := UInt8.lt_iff_toNat_lt

/-- An ASCII character is its own byte. -/
theorem readsAs_ascii {front? : Bytes → Option Front} (limit : Nat) (fits : limit ≤ 256)
    (front : ∀ byte rest, byte.toNat < limit → front? (byte :: rest) = some ⟨[Char.ofNat byte.toNat], 0⟩)
    (ascii : c.toNat < limit) : ReadsAs front? [UInt8.ofNat c.toNat] (some c) := by
  refine ⟨List.cons_ne_nil _ _, fun rest => ?_⟩
  have value : (UInt8.ofNat c.toNat).toNat = c.toNat := by rw [UInt8.toNat_ofNat']; omega
  rw [List.cons_append, front _ _ (by omega), value, Char.ofNat_toNat]
  rfl

theorem toNat_katakanaByte? (kana : katakanaByte? c = some byte) :
    0xA1 ≤ byte.toNat ∧ byte.toNat ≤ 0xDF ∧ katakana? byte = some c := by
  unfold katakanaByte? at kana
  split at kana
  · rename_i inside
    obtain rfl := Option.some.inj kana
    have value := toNat_byteAt 0xA1 (c.toNat - 0xFF61) (by omega)
    refine ⟨by omega, by omega, ?_⟩
    rw [katakana?, if_pos (isWithin_eq_true.mpr (by omega)), value,
      show 0xFF61 + (0xA1 + (c.toNat - 0xFF61) - 0xA1) = c.toNat by omega, Char.ofNat_toNat]
  · exact absurd kana nofun

/-! ### The extensions -/

namespace Index

set_option maxRecDepth 100000 in
theorem exists_jisX0208_stretches : ∃ stretches, Spelt jisX0208Runs stretches ∧
    SideBySide 11104 stretches [] ∧
    (stretches.all fun stretch => stretch.1 + stretch.2.length ≤ 8836 || 10716 ≤ stretch.1) = true ∧
    stretchPoints (stretches.filter (8836 < ·.1)) ||| stretchPoints (stretches.filter (·.1 ≤ 8836)) =
      stretchPoints (stretches.filter (·.1 ≤ 8836)) := by
  apply Exists.intro
  apply And.intro
  · unfold jisX0208Runs
    repeat constructor
  · refine ⟨⟨?_, ?_, ?_, ?_⟩, ?_, ?_⟩ <;> decide +kernel

theorem lt_of_jisX0208 (found : jisX0208.charAt? pointer = some c) :
    pointer < 11104 ∧ (pointer < 8836 ∨ 10716 ≤ pointer) := by
  obtain ⟨stretches, spelt, -, clear, -⟩ := exists_jisX0208_stretches
  constructor
  · have inside := lt_size_of_charAt? found
    rwa [jisX0208, size_ofRuns] at inside
  · obtain ⟨stretch, member, cover, -⟩ := exists_stretch spelt found
    rw [List.map_nil, List.append_nil] at member
    have apart := List.all_eq_true.mp clear stretch member
    rw [Bool.or_eq_true, decide_eq_true_eq, decide_eq_true_eq] at apart
    unfold covers at cover
    omega

/-- The extensions beyond the rows of the standard only repeat characters. -/
theorem pointerOf?_jisX0208_lt (found : jisX0208.pointerOf? c = some pointer) : pointer < 8836 := by
  obtain ⟨stretches, spelt, laid, clear, repeated⟩ := exists_jisX0208_stretches
  have there := charAt?_of_pointerOf? found
  have present := (charAt?_eq_some_iff.mp there).2
  refine Nat.lt_of_not_le fun beyond => ?_
  obtain ⟨stretch, member, cover, letter⟩ := exists_stretch spelt there
  rw [List.map_nil, List.append_nil] at member
  have apart := List.all_eq_true.mp clear stretch member
  rw [Bool.or_eq_true, decide_eq_true_eq, decide_eq_true_eq] at apart
  unfold covers at cover
  have bit : (stretchPoints (stretches.filter (8836 < ·.1))).testBit c.toNat = true := by
    refine testBit_stretchPoints.mpr ⟨stretch, ?_, c, letter, rfl⟩
    exact List.mem_filter.mpr ⟨member, decide_eq_true (by omega)⟩
  -- the same character stands in one of the rows before
  have again : (stretchPoints (stretches.filter (·.1 ≤ 8836))).testBit c.toNat = true := by
    rw [← repeated, Nat.testBit_or, bit, Bool.true_or]
  obtain ⟨other, lower, d, letter', same⟩ := testBit_stretchPoints.mp again
  obtain ⟨member', below⟩ := List.mem_filter.mp lower
  rw [Char.toNat_inj.mp same] at letter'
  obtain ⟨place, cover', found'⟩ := laid.charAt? spelt (List.mem_append_left _ member') letter' present
  obtain ⟨earlier, first, le⟩ := exists_pointerOf?_le found'
  obtain rfl := Option.some.inj (first.symm.trans found)
  have apart' := List.all_eq_true.mp clear other member'
  rw [Bool.or_eq_true, decide_eq_true_eq, decide_eq_true_eq] at apart'
  rw [decide_eq_true_eq] at below
  unfold covers at cover'
  omega

end Index

/-! ### Characters that are written as others -/

/-- The yen sign and the overline, for which Shift_JIS and EUC-JP write ASCII, and the minus sign. -/
def lenient : Text := ['\u00a5', '\u203e', '\u2212']

theorem not_mem_lenient_of_ascii (ascii : c.toNat ≤ 0x80) : c ∉ lenient := by
  have large : (lenient.all fun d => 0x80 < d.toNat) = true := by decide
  exact fun member => absurd (of_decide_eq_true (List.all_eq_true.mp large c member)) (Nat.not_lt.mpr ascii)

theorem not_mem_lenient_of_katakanaByte? (kana : katakanaByte? c = some byte) : c ∉ lenient := by
  have none : (lenient.all fun d => (katakanaByte? d).isNone) = true := by decide
  have found : (katakanaByte? c).isNone = false := by rw [kana]; rfl
  exact fun member => absurd ((List.all_eq_true.mp none c member).symm.trans found) nofun

/-- The ASCII byte that is written for a character is read as another one. -/
theorem of_romanByte? (roman : romanByte? c = some byte) :
    c ∈ lenient ∧ byte.toNat < 0x80 ∧ Char.ofNat byte.toNat ≠ c := by
  unfold romanByte? at roman
  split at roman
  · rename_i yen
    subst yen
    obtain rfl := Option.some.inj roman
    decide
  · split at roman
    · rename_i overline
      subst overline
      obtain rfl := Option.some.inj roman
      decide
    · exact absurd roman nofun

theorem fullWidthMinus_eq_iff (other : romanByte? c = none) : fullWidthMinus c = c ↔ c ∉ lenient := by
  unfold romanByte? at other
  split at other
  · exact absurd other nofun
  · split at other
    · exact absurd other nofun
    · rename_i yen overline
      unfold fullWidthMinus
      split
      · rename_i minus
        subst minus
        decide
      · rename_i plain
        simp [lenient, yen, overline, plain]

/-! ### Shift_JIS -/

namespace ShiftJis

theorem front?_pair (double : 0x81 ≤ lead.toNat ∧ lead.toNat ≤ 0x9F ∨ 0xE0 ≤ lead.toNat ∧ lead.toNat ≤ 0xFC)
    (rest : Bytes) : front? (lead :: trail :: rest) =
      ((pointer? lead trail).bind charAt?).map fun c => ⟨[c], 1⟩ := by
  have above : ¬ lead ≤ 0x80 := by
    rw [UInt8.le_iff_toNat_le]
    change ¬ lead.toNat ≤ 0x80
    omega
  have plain : katakana? lead = none := by
    rw [katakana?, if_neg]
    rw [isWithin_eq_true]
    omega
  unfold front?
  dsimp only
  rw [if_neg above, plain]
  dsimp only
  rw [if_pos]
  rwa [Bool.or_eq_true, isWithin_eq_true, isWithin_eq_true]

theorem front?_single (below : byte.toNat < 0x81) (rest : Bytes) :
    front? (byte :: rest) = some ⟨[Char.ofNat byte.toNat], 0⟩ := by
  have low : byte ≤ 0x80 := UInt8.le_iff_toNat_le.mpr (Nat.le_of_lt_succ below)
  unfold front?
  dsimp only
  rw [if_pos low]

theorem readsAs_bytesAt (found : Index.jisX0208.charAt? pointer = some c) :
    ReadsAs front? (bytesAt pointer) (some c) := by
  obtain ⟨inside, clear⟩ := Index.lt_of_jisX0208 found
  refine ⟨List.cons_ne_nil _ _, fun rest => ?_⟩
  have row : (byteAt (if pointer / 188 < 0x1F then 0x81 else 0xC1) (pointer / 188)).toNat =
      (if pointer / 188 < 0x1F then 0x81 else 0xC1) + pointer / 188 :=
    toNat_byteAt _ _ (by split <;> omega)
  have cell : (byteAt (if pointer % 188 < 0x3F then 0x40 else 0x41) (pointer % 188)).toNat =
      (if pointer % 188 < 0x3F then 0x40 else 0x41) + pointer % 188 :=
    toNat_byteAt _ _ (by split <;> omega)
  unfold bytesAt
  dsimp only
  generalize byteAt (if pointer / 188 < 0x1F then 0x81 else 0xC1) (pointer / 188) = lead at row
  generalize byteAt (if pointer % 188 < 0x3F then 0x40 else 0x41) (pointer % 188) = trail at cell
  have rowBack : lead.toNat - (if lead < 0xA0 then 0x81 else 0xC1) = pointer / 188 := by
    simp only [UInt8.lt_iff_toNat_lt, UInt8.reduceToNat]
    split at row <;> split <;> omega
  have cellBack : trail.toNat - (if trail < 0x7F then 0x40 else 0x41) = pointer % 188 := by
    simp only [UInt8.lt_iff_toNat_lt, UInt8.reduceToNat]
    split at cell <;> split <;> omega
  have place : pointer? lead trail = some pointer := by
    unfold pointer?
    rw [if_pos (by rw [Bool.or_eq_true, isWithin_eq_true, isWithin_eq_true]; split at cell <;> omega)]
    dsimp only
    rw [rowBack, cellBack, Nat.div_add_mod']
  rw [List.cons_append, List.cons_append, front?_pair (by split at row <;> omega), place]
  have shown : charAt? pointer = some c := by
    rw [charAt?, if_neg (by omega), found]
  rw [Option.bind_some, shown]
  rfl

/-- A character is read back unless it is among the three. -/
theorem reads (spelt : bytesOf? c = some written) :
    ∃ result, ReadsAs front? written result ∧ (result = some c ↔ c ∉ lenient) := by
  unfold bytesOf? at spelt
  split at spelt
  · rename_i ascii
    obtain rfl := Option.some.inj spelt
    refine ⟨some c, readsAs_ascii 0x81 (by omega) (fun byte rest below => front?_single below rest) (by omega), ?_⟩
    exact iff_of_true rfl (not_mem_lenient_of_ascii ascii)
  · split at spelt
    · rename_i _ _ byte roman
      obtain rfl := Option.some.inj spelt
      obtain ⟨member, below, other⟩ := of_romanByte? roman
      refine ⟨some (Char.ofNat byte.toNat), ⟨List.cons_ne_nil _ _, fun rest => ?_⟩, ?_⟩
      · rw [List.cons_append, front?_single (by omega)]
        rfl
      · exact iff_of_false (fun same => other (Option.some.inj same)) (not_not_intro member)
    · rename_i byte _ kana
      obtain rfl := Option.some.inj spelt
      obtain ⟨least, most, meaning⟩ := toNat_katakanaByte? kana
      refine ⟨some c, ⟨List.cons_ne_nil _ _, fun rest => ?_⟩, ?_⟩
      · have above : ¬ byte ≤ 0x80 := by
          rw [UInt8.le_iff_toNat_le]
          change ¬ byte.toNat ≤ 0x80
          omega
        rw [List.cons_append]
        unfold front?
        dsimp only
        rw [if_neg above, meaning]
        rfl
      · exact iff_of_true rfl (not_mem_lenient_of_katakanaByte? kana)
    · rename_i roman _
      obtain ⟨pointer, search, rfl⟩ := Option.map_eq_some_iff.mp spelt
      have found := Index.charAt?_of_mem_pointersOf (List.mem_of_find?_eq_some search)
      refine ⟨_, readsAs_bytesAt found, ?_⟩
      rw [Option.some.injEq, fullWidthMinus_eq_iff roman]

end ShiftJis

/-! ### Rows and cells -/

/-- The bytes of a pointer inside the 94 rows, and the pointer that they make again. -/
theorem exists_rowAndCell (base : Nat) (fits : base + 94 ≤ 256) (inside : pointer < 8836) :
    ∃ row cell : UInt8, rowAndCell base pointer = [row, cell] ∧
      (base ≤ row.toNat ∧ row.toNat ≤ base + 93) ∧ (base ≤ cell.toNat ∧ cell.toNat ≤ base + 93) ∧
        (row.toNat - base) * 94 + (cell.toNat - base) = pointer := by
  have row := toNat_byteAt base (pointer / 94) (by omega)
  have cell := toNat_byteAt base (pointer % 94) (by omega)
  exact ⟨_, _, rfl, by omega, by omega, by omega⟩

namespace EucJp

theorem front?_ascii (below : byte.toNat < 0x80) (rest : Bytes) :
    front? (byte :: rest) = some ⟨[Char.ofNat byte.toNat], 0⟩ := by
  unfold front?
  dsimp only
  rw [if_pos (ascii_iff.mpr below)]

theorem front?_kana (rest : Bytes) :
    front? (0x8E :: byte :: rest) = (katakana? byte).map fun c => ⟨[c], 1⟩ := rfl

theorem front?_pair (above : 0xA1 ≤ lead.toNat) (rest : Bytes) :
    front? (lead :: trail :: rest) = (charAt? Index.jisX0208 lead trail).map fun c => ⟨[c], 1⟩ := by
  have high : ¬ lead < 0x80 := fun low => by have := ascii_iff.mp low; omega
  have other (byte : UInt8) (below : byte.toNat < 0xA1) : lead ≠ byte := by
    rintro rfl
    omega
  unfold front?
  dsimp only
  rw [if_neg high, if_neg (other 0x8E (by decide)), if_neg (other 0x8F (by decide))]

theorem readsAs_rowAndCell (found : Index.jisX0208.pointerOf? c = some pointer) :
    ReadsAs front? (rowAndCell 0xA1 pointer) (some c) := by
  have inside := Index.pointerOf?_jisX0208_lt found
  obtain ⟨row, cell, same, rows, cells, place⟩ := exists_rowAndCell 0xA1 (by omega) inside
  rw [same]
  refine ⟨List.cons_ne_nil _ _, fun rest => ?_⟩
  have shown : charAt? Index.jisX0208 row cell = some c := by
    rw [charAt?, if_pos, place, Index.charAt?_of_pointerOf? found]
    rw [Bool.and_eq_true, isWithin_eq_true, isWithin_eq_true]
    exact ⟨rows, cells⟩
  rw [List.cons_append, List.cons_append, front?_pair rows.1, shown]
  rfl

/-- A character is read back unless it is among the three. -/
theorem reads (spelt : bytesOf? c = some written) :
    ∃ result, ReadsAs front? written result ∧ (result = some c ↔ c ∉ lenient) := by
  unfold bytesOf? at spelt
  split at spelt
  · rename_i ascii
    obtain rfl := Option.some.inj spelt
    refine ⟨some c, readsAs_ascii 0x80 (by omega) (fun byte rest below => front?_ascii below rest) ascii, ?_⟩
    exact iff_of_true rfl (not_mem_lenient_of_ascii (Nat.le_of_lt ascii))
  · split at spelt
    · rename_i _ _ byte roman
      obtain rfl := Option.some.inj spelt
      obtain ⟨member, below, other⟩ := of_romanByte? roman
      refine ⟨some (Char.ofNat byte.toNat), ⟨List.cons_ne_nil _ _, fun rest => ?_⟩, ?_⟩
      · rw [List.cons_append, front?_ascii below]
        rfl
      · exact iff_of_false (fun same => other (Option.some.inj same)) (not_not_intro member)
    · rename_i byte _ kana
      obtain rfl := Option.some.inj spelt
      refine ⟨some c, ⟨List.cons_ne_nil _ _, fun rest => ?_⟩, ?_⟩
      · rw [List.cons_append, List.cons_append, front?_kana, (toNat_katakanaByte? kana).2.2]
        rfl
      · exact iff_of_true rfl (not_mem_lenient_of_katakanaByte? kana)
    · rename_i roman _
      obtain ⟨pointer, found, rfl⟩ := Option.map_eq_some_iff.mp spelt
      refine ⟨_, readsAs_rowAndCell found, ?_⟩
      rw [Option.some.injEq, fullWidthMinus_eq_iff roman]

end EucJp

/-! ### ISO-2022-JP -/

namespace Iso2022Jp

variable {charset current : Charset} {idle : Bool} {text done : Text} {rest bytes : Bytes}

theorem not_escape_of_single? (meaning : single? charset byte = some c) : byte ≠ 0x1B := by
  rintro rfl
  cases charset <;> exact absurd meaning nofun

theorem decodeFrom?_single (double : charset ≠ .jisX0208) (meaning : single? charset byte = some c)
    (rest : Bytes) : decodeFrom? done charset idle (byte :: rest) =
      decodeFrom? (c :: done) charset false rest := by
  have plain := not_escape_of_single? meaning
  match rest with
  | [] => rw [decodeFrom?, decodeFrom?, meaning, Option.map_some]
  | [b] => simp only [decodeFrom?, if_neg double, meaning]
  | b :: c :: others => rw [decodeFrom?, if_neg plain, if_neg double, meaning]

theorem decodeFrom?_pair (meaning : pair? lead trail = some c) (rest : Bytes) :
    decodeFrom? done .jisX0208 idle (lead :: trail :: rest) =
      decodeFrom? (c :: done) .jisX0208 false rest := by
  have plain : lead ≠ 0x1B := by
    rintro rfl
    exact absurd meaning nofun
  match rest with
  | [] => rw [decodeFrom?, decodeFrom?, if_pos rfl, meaning, Option.map_some]
  | c :: others => rw [decodeFrom?, if_neg plain, if_pos rfl, meaning]

theorem decodeFrom?_escape (charset : Charset) (rest : Bytes) :
    decodeFrom? done current false (charset.escape ++ rest) = decodeFrom? done charset true rest := by
  cases charset <;> rfl

theorem encodeFrom?_eq (before : Bytes) (current : Charset) (text : Text) :
    encodeFrom? before current text = (encodeFrom? [] current text).map (before.reverse ++ ·) := by
  induction text generalizing before current with
  | nil => rfl
  | cons c text ih =>
    rw [encodeFrom?, encodeFrom?]
    cases written? current c with
    | none => rfl
    | some written =>
      dsimp only
      rw [ih, ih (_ ++ [])]
      simp [Function.comp_def]

theorem encodeFrom?_cons_eq_some (spelt : encodeFrom? [] current (c :: text) = some bytes) :
    ∃ charset front rest, written? current c = some (charset, front) ∧
      encodeFrom? [] charset text = some rest ∧
        bytes = (if charset = current then front else charset.escape ++ front) ++ rest := by
  rw [encodeFrom?] at spelt
  split at spelt
  · exact absurd spelt nofun
  · rename_i charset front here
    rw [encodeFrom?_eq] at spelt
    obtain ⟨rest, later, rfl⟩ := Option.map_eq_some_iff.mp spelt
    refine ⟨charset, front, rest, here, later, ?_⟩
    rw [List.append_nil, List.reverse_reverse]

theorem fullWidth_of_katakanaByte? (other : katakanaByte? c = none) : fullWidth c = fullWidthMinus c := by
  rw [fullWidth, other]

theorem fullWidth_of_ascii (ascii : c.toNat < 0x80) : fullWidth c = c := by
  have other : katakanaByte? c = none := by
    rw [katakanaByte?, if_neg]
    omega
  rw [fullWidth_of_katakanaByte? other, fullWidthMinus, if_neg]
  rintro rfl
  exact absurd ascii (by decide)

theorem single?_ascii (ascii : c.toNat < 0x80) (plain : isControl c.toNat = false) :
    single? .ascii (UInt8.ofNat c.toNat) = some c := by
  have value : (UInt8.ofNat c.toNat).toNat = c.toNat := by rw [UInt8.toNat_ofNat']; omega
  have below : UInt8.ofNat c.toNat < 0x80 := UInt8.lt_iff_toNat_lt.mpr (by rw [value]; exact ascii)
  unfold single?
  dsimp only
  rw [value, plain, decide_eq_true below, Char.ofNat_toNat]
  rfl

theorem single?_roman (ascii : c.toNat < 0x80) (plain : isControl c.toNat = false)
    (slash : c ≠ '\\') (tilde : c ≠ '~') : single? .roman (UInt8.ofNat c.toNat) = some c := by
  have value : (UInt8.ofNat c.toNat).toNat = c.toNat := by rw [UInt8.toNat_ofNat']; omega
  have unlike (byte : UInt8) (other : c ≠ Char.ofNat byte.toNat) : UInt8.ofNat c.toNat ≠ byte := by
    rintro rfl
    exact other (by rw [value, Char.ofNat_toNat])
  have read := single?_ascii ascii plain
  unfold single? at read ⊢
  dsimp only at read ⊢
  rw [if_neg (unlike 0x5C slash), if_neg (unlike 0x7E tilde)]
  exact read

theorem single?_of_romanByte? (roman : romanByte? c = some byte) : single? .roman byte = some c ∧ fullWidth c = c := by
  unfold romanByte? at roman
  split at roman
  · rename_i yen
    subst yen
    obtain rfl := Option.some.inj roman
    exact ⟨rfl, rfl⟩
  · split at roman
    · rename_i overline
      subst overline
      obtain rfl := Option.some.inj roman
      exact ⟨rfl, rfl⟩
    · exact absurd roman nofun

theorem pair?_rowAndCell (found : Index.jisX0208.pointerOf? c = some pointer) :
    ∃ row cell, rowAndCell 0x21 pointer = [row, cell] ∧ pair? row cell = some c := by
  have inside := Index.pointerOf?_jisX0208_lt found
  obtain ⟨row, cell, same, rows, cells, place⟩ := exists_rowAndCell 0x21 (by omega) inside
  refine ⟨row, cell, same, ?_⟩
  rw [pair?, if_pos, place, Index.charAt?_of_pointerOf? found]
  rw [Bool.and_eq_true, isWithin_eq_true, isWithin_eq_true]
  exact ⟨rows, cells⟩

/-- What is written for a character is read as its full-width form. -/
theorem decodeFrom?_written (here : written? current c = some (charset, bytes)) (rest : Bytes) :
    decodeFrom? done charset idle (bytes ++ rest) =
      decodeFrom? (fullWidth c :: done) charset false rest := by
  unfold written? at here
  split at here
  · rename_i ascii
    split at here
    · exact absurd here nofun
    · rename_i plain
      rw [Bool.not_eq_true] at plain
      obtain ⟨rfl, rfl⟩ := Prod.mk.inj (Option.some.inj here)
      rw [fullWidth_of_ascii ascii, List.cons_append, List.nil_append]
      split
      · rename_i stays
        exact decodeFrom?_single (by decide) (single?_roman ascii plain stays.2.1 stays.2.2) rest
      · exact decodeFrom?_single (by decide) (single?_ascii ascii plain) rest
  · split at here
    · rename_i byte roman
      obtain ⟨rfl, rfl⟩ := Prod.mk.inj (Option.some.inj here)
      obtain ⟨meaning, kept⟩ := single?_of_romanByte? roman
      rw [kept]
      exact decodeFrom?_single (by decide) meaning rest
    · obtain ⟨pointer, found, same⟩ := Option.map_eq_some_iff.mp here
      obtain ⟨rfl, rfl⟩ := Prod.mk.inj same
      obtain ⟨row, cell, same, meaning⟩ := pair?_rowAndCell found
      rw [same]
      exact decodeFrom?_pair meaning rest

theorem decodeFrom?_of_encodeFrom? (spelt : encodeFrom? [] current text = some bytes) :
    decodeFrom? done current false bytes = some (done.reverse ++ text.map fullWidth) := by
  induction text generalizing current done bytes with
  | nil =>
    obtain rfl := Option.some.inj spelt
    cases current <;> simp [decodeFrom?, Charset.escape, Charset.ofEscape?]
  | cons c text ih =>
    obtain ⟨charset, front, rest, here, later, rfl⟩ := encodeFrom?_cons_eq_some spelt
    have read (idle : Bool) : decodeFrom? done charset idle (front ++ rest) =
        some (done.reverse ++ (c :: text).map fullWidth) := by
      rw [decodeFrom?_written here, ih later, List.reverse_cons, List.map_cons, List.append_assoc]
      rfl
    split
    · rename_i same
      subst same
      exact read false
    · rw [List.append_assoc, decodeFrom?_escape, read]

set_option maxRecDepth 100000 in
theorem fullWidthKatakana_spelt : fullWidthKatakana.length = 63 ∧
    (fullWidthKatakana.all fun c => c.toNat < 0xFF61) = true := by
  suffices spelt : ∃ letters, fullWidthKatakana = letters ∧ letters.length = 63 ∧
      (letters.all fun c => c.toNat < 0xFF61) = true by
    obtain ⟨letters, same, facts⟩ := spelt
    rwa [same]
  apply Exists.intro
  apply And.intro
  · unfold fullWidthKatakana
    apply Letters.toList_eq
    repeat constructor
  · decide +kernel

/-- No half-width katakana is its own full-width form. -/
theorem fullWidth_ne (kana : katakanaByte? c = some byte) : fullWidth c ≠ c := by
  obtain ⟨length, small⟩ := fullWidthKatakana_spelt
  obtain ⟨least, most, -⟩ := toNat_katakanaByte? kana
  have large : 0xFF61 ≤ c.toNat := by
    unfold katakanaByte? at kana
    split at kana
    · rename_i inside
      exact inside.1
    · exact absurd kana nofun
  have inside : byte.toNat - 0xA1 < fullWidthKatakana.length := by omega
  rw [fullWidth, kana]
  dsimp only
  rw [List.getElem?_eq_getElem inside, Option.getD_some]
  intro same
  have below := List.all_eq_true.mp small _ (List.getElem_mem inside)
  rw [same, decide_eq_true_eq] at below
  omega

theorem fullWidth_eq_iff : fullWidth c = c ↔ ¬ (c = '\u2212' ∨ (katakanaByte? c).isSome) := by
  cases kana : katakanaByte? c with
  | some byte =>
    refine iff_of_false (fullWidth_ne kana) ?_
    simp
  | none =>
    rw [fullWidth_of_katakanaByte? kana, fullWidthMinus]
    split
    · rename_i minus
      subst minus
      decide
    · rename_i plain
      simp [plain]

end Iso2022Jp

end TexFlat.Encoding
