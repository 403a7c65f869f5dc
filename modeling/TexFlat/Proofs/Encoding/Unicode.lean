import TexFlat.Encoding.Unicode
import TexFlat.Proofs.Encoding.Stepwise

/-!
# UTF-8 read back, and UTF-16 misread

In UTF-8 the bytes of a text stand for that text and no other bytes do. What is written in UTF-8 is
never read as the same text in UTF-16, unless there is nothing to read: `decodeUtf16?_encodeUtf8`
weighs the bytes below 80 and the lengths of the two forms against each other.
-/

namespace TexFlat.Encoding

variable {text a b : Text} {bytes : Bytes} {order : ByteOrder} {c : Char}

/-! ### UTF-8 -/

theorem encodeUtf8_eq_flatMap (text : Text) :
    encodeUtf8 text = text.flatMap String.utf8EncodeChar := by
  simp [encodeUtf8, String.toUTF8_eq_toByteArray, List.utf8Encode, List.data_toByteArray]

theorem encodeUtf8_append (a b : Text) : encodeUtf8 (a ++ b) = encodeUtf8 a ++ encodeUtf8 b := by
  simp only [encodeUtf8_eq_flatMap, List.flatMap_append]

theorem encodeUtf8_eq_nil_iff : encodeUtf8 text = [] ↔ text = [] := by
  rw [encodeUtf8_eq_flatMap, List.flatMap_eq_nil_iff]
  constructor
  · intro none
    exact List.eq_nil_iff_forall_not_mem.mpr fun c member =>
      String.utf8EncodeChar_ne_nil (none c member)
  · rintro rfl
    exact List.forall_mem_nil _

/-- The bytes that stand for a text are those that it is written in. -/
theorem decodeUtf8?_eq_some_iff : decodeUtf8? bytes = some text ↔ encodeUtf8 text = bytes := by
  unfold decodeUtf8? String.fromUTF8?
  split
  · rename_i valid
    have read : (String.fromUTF8 ⟨bytes.toArray⟩ valid).toUTF8.data.toList = bytes := rfl
    rw [Option.map_some, Option.some.injEq]
    constructor
    · rintro rfl
      rw [encodeUtf8, String.ofList_toList, read]
    · intro written
      have same : String.ofList text = String.fromUTF8 ⟨bytes.toArray⟩ valid := by
        rw [← String.toByteArray_inj, ← String.toUTF8_eq_toByteArray]
        exact ByteArray.ext (Array.toList_inj.mp (written.trans read.symm))
      rw [← same, String.toList_ofList]
  · rename_i invalid
    constructor
    · exact nofun
    · rintro rfl
      refine absurd ?_ invalid
      have valid : (String.ofList text).toUTF8.IsValidUTF8 := (String.ofList text).isValidUTF8
      exact valid

/-! ### UTF-16 -/

theorem toNat_ofNat_of_valid {n : Nat} (valid : n.isValidChar) : (Char.ofNat n).toNat = n := by
  rw [Char.ofNat, dif_pos valid]
  rfl

/-- The bytes that are read as one character: a code unit, or two surrogates. -/
inductive Units (order : ByteOrder) : Char → Bytes → Prop
  | one {a b : UInt8} : ByteOrder.unit order a b < 0xD800 ∨ 0xE000 ≤ ByteOrder.unit order a b →
    Units order (Char.ofNat (ByteOrder.unit order a b)) [a, b]
  | two {a b c d : UInt8} : 0xD800 ≤ ByteOrder.unit order a b → ByteOrder.unit order a b < 0xDC00 →
    0xDC00 ≤ ByteOrder.unit order c d → ByteOrder.unit order c d < 0xE000 →
    Units order (Char.ofNat (0x10000 + (ByteOrder.unit order a b - 0xD800) * 0x400 + (ByteOrder.unit order c d - 0xDC00)))
      [a, b, c, d]

theorem exists_units_of_utf16Front? {front : Front} (h : utf16Front? order bytes = some front) :
    ∃ c taken rest, bytes = taken ++ rest ∧ front = ⟨[c], taken.length - 1⟩ ∧ Units order c taken := by
  unfold utf16Front? at h
  split at h
  · rename_i a b others
    dsimp only at h
    split at h
    · rename_i plain
      obtain rfl := Option.some.inj h
      exact ⟨_, [a, b], others, rfl, rfl, .one plain⟩
    · split at h
      · exact absurd h nofun
      · split at h
        · rename_i c d rest
          split at h
          · rename_i low
            obtain rfl := Option.some.inj h
            exact ⟨_, [a, b, c, d], rest, rfl, rfl, .two (by omega) (by omega) low.1 low.2⟩
          · exact absurd h nofun
        · exact absurd h nofun
  · exact absurd h nofun

theorem unit_lt (order : ByteOrder) (a b : UInt8) : ByteOrder.unit order a b < 0x10000 := by
  have := a.toNat_lt
  have := b.toNat_lt
  cases order <;> simp only [ByteOrder.unit] <;> omega

theorem Units.toNat_cases {taken : Bytes} (units : Units order c taken) :
    (∃ a b, taken = [a, b] ∧ c.toNat = ByteOrder.unit order a b) ∨ 0x10000 ≤ c.toNat := by
  cases units with
  | @one a b plain =>
    have small := unit_lt order a b
    exact .inl ⟨a, b, rfl, toNat_ofNat_of_valid (by unfold Nat.isValidChar; omega)⟩
  | two _ _ _ _ =>
    right
    rw [toNat_ofNat_of_valid (by unfold Nat.isValidChar; omega)]
    omega

/-- The number of bytes that could be ASCII. -/
def lows (bytes : Bytes) : Nat := bytes.countP fun byte => byte.toNat < 0x80

theorem lows_append (x y : Bytes) : lows (x ++ y) = lows x + lows y := List.countP_append

theorem lows_cons_of_le {n : Nat} (high : 0x80 ≤ n) (fits : n < 0x100) (bytes : Bytes) :
    lows (UInt8.ofNat n :: bytes) = lows bytes := by
  refine List.countP_cons_of_neg ?_
  rw [UInt8.toNat_ofNat', decide_eq_true_eq]
  omega

theorem utf8_cases (c : Char) :
    (c.toNat < 0x80 ∧ lows (String.utf8EncodeChar c) = 1 ∧ (String.utf8EncodeChar c).length = 1) ∨
      (c.toNat < 0x800 ∧ lows (String.utf8EncodeChar c) = 0 ∧ (String.utf8EncodeChar c).length = 2) ∨
      (c.toNat < 0x10000 ∧ lows (String.utf8EncodeChar c) = 0 ∧
        (String.utf8EncodeChar c).length = 3) ∨
      lows (String.utf8EncodeChar c) = 0 ∧ (String.utf8EncodeChar c).length = 4 := by
  have value : c.val.toNat = c.toNat := rfl
  unfold String.utf8EncodeChar
  dsimp only
  rw [value]
  split
  · rename_i ascii
    left
    refine ⟨by omega, ?_, rfl⟩
    refine List.countP_eq_length.mpr ?_
    rw [List.forall_mem_singleton, UInt8.toNat_ofNat', decide_eq_true_eq]
    omega
  · right
    have high (n : Nat) : lows [UInt8.ofNat (n % 0x40 + 0x80)] = 0 :=
      lows_cons_of_le (by omega) (by omega) []
    split
    · refine .inl ⟨by omega, ?_, rfl⟩
      rw [lows_cons_of_le (by omega) (by omega), high]
    · right
      split
      · refine .inl ⟨by omega, ?_, rfl⟩
        rw [lows_cons_of_le (by omega) (by omega), lows_cons_of_le (by omega) (by omega), high]
      · refine .inr ⟨?_, rfl⟩
        rw [lows_cons_of_le (by omega) (by omega), lows_cons_of_le (by omega) (by omega),
          lows_cons_of_le (by omega) (by omega), high]

/-- Read as UTF-16, a character takes more bytes below 80 than in UTF-8, or takes fewer bytes. Only those
beyond the sixteen-bit characters weigh the same in both. -/
theorem Units.weight {taken : Bytes} (units : Units order c taken) :
    2 * lows (String.utf8EncodeChar c) + taken.length + (if c.toNat < 0x10000 then 1 else 0) ≤
      2 * lows taken + (String.utf8EncodeChar c).length := by
  have cases := utf8_cases c
  rcases units.toNat_cases with ⟨a, b, rfl, value⟩ | large
  · have pair : lows [a, b] = (if b.toNat < 0x80 then 1 else 0) + (if a.toNat < 0x80 then 1 else 0) := by
      simp [lows, List.countP_cons]
    have small := unit_lt order a b
    have bound := a.toNat_lt
    have bound' := b.toNat_lt
    rw [if_pos (by omega), pair, List.length_cons, List.length_singleton]
    cases order <;> simp only [ByteOrder.unit] at value small <;> split <;> split <;> omega
  · rw [if_neg (by omega)]
    have four : taken.length = 4 := by
      cases units with
      | @one a b plain =>
        have small := unit_lt order a b
        rw [toNat_ofNat_of_valid (by unfold Nat.isValidChar; omega)] at large
        omega
      | two => rfl
    omega

theorem decodeUtf16?_cons_eq_some {byte : UInt8}
    (read : decodeUtf16? order (byte :: bytes) = some text) : ∃ c taken rest text',
      byte :: bytes = taken ++ rest ∧ Units order c taken ∧ decodeUtf16? order rest = some text' ∧
        text = c :: text' := by
  unfold decodeUtf16? at read
  rw [decodeBy_cons] at read
  obtain ⟨front, here, read⟩ := Option.bind_eq_some_iff.mp read
  obtain ⟨c, taken, rest, split, rfl, units⟩ := exists_units_of_utf16Front? here
  obtain ⟨text', later, rfl⟩ := Option.map_eq_some_iff.mp read
  refine ⟨c, taken, rest, text', split, units, ?_, rfl⟩
  have taken_ne : taken ≠ [] := by cases units <;> exact List.cons_ne_nil _ _
  obtain ⟨first, more, rfl⟩ := List.exists_cons_of_ne_nil taken_ne
  have behind : bytes.drop more.length = rest := by
    rw [(List.cons.inj split).2]
    exact List.drop_left
  rwa [← behind]

/-- Bytes that are read as a text in UTF-16 weigh at least as much as the text in UTF-8. -/
theorem weight_of_decodeUtf16? (read : decodeUtf16? order bytes = some text) :
    2 * lows (encodeUtf8 text) + bytes.length + text.countP (fun c => c.toNat < 0x10000) ≤
      2 * lows bytes + (encodeUtf8 text).length := by
  induction text generalizing bytes with
  | nil =>
    cases bytes with
    | nil => exact Nat.le_refl _
    | cons byte bytes =>
      obtain ⟨c, taken, rest, text', -, -, -, same⟩ := decodeUtf16?_cons_eq_some read
      exact absurd same.symm (List.cons_ne_nil _ _)
  | cons c text ih =>
    cases bytes with
    | nil => exact absurd read nofun
    | cons byte bytes =>
      obtain ⟨c', taken, rest, text', split, units, read, same⟩ := decodeUtf16?_cons_eq_some read
      obtain ⟨rfl, rfl⟩ := List.cons.inj same
      have front := units.weight
      have behind := ih read
      rw [split, encodeUtf8_eq_flatMap, List.flatMap_cons, ← encodeUtf8_eq_flatMap, lows_append,
        lows_append, List.length_append, List.length_append, List.countP_cons]
      simp only [decide_eq_true_eq]
      omega

/-- The first byte of a character in UTF-8 is none of those that only go on with one, and the second
is. -/
theorem utf8_large (large : 0x10000 ≤ c.toNat) : ∃ a b rest, String.utf8EncodeChar c = a :: b :: rest ∧
    0xF0 ≤ a.toNat ∧ 0x80 ≤ b.toNat ∧ b.toNat < 0xC0 := by
  have value : c.val.toNat = c.toNat := rfl
  unfold String.utf8EncodeChar
  dsimp only
  rw [value, if_neg (by omega), if_neg (by omega), if_neg (by omega)]
  refine ⟨_, _, _, rfl, ?_, ?_, ?_⟩ <;> rw [UInt8.toNat_ofNat'] <;> omega

/-- Nothing that is written in UTF-8 is the same text in UTF-16. -/
theorem decodeUtf16?_encodeUtf8 : decodeUtf16? order (encodeUtf8 text) = some text ↔ text = [] := by
  constructor
  · intro read
    cases text with
    | nil => rfl
    | cons c text =>
      exfalso
      have weight := weight_of_decodeUtf16? read
      have none : ¬ c.toNat < 0x10000 := by
        intro small
        have counted : 0 < (c :: text).countP (fun c => c.toNat < 0x10000) :=
          List.countP_pos_iff.mpr ⟨c, List.mem_cons_self, decide_eq_true small⟩
        omega
      obtain ⟨a, b, rest, front, lead, trail⟩ := utf8_large (Nat.le_of_not_lt none)
      have written : encodeUtf8 (c :: text) = a :: b :: (rest ++ encodeUtf8 text) := by
        rw [encodeUtf8_eq_flatMap, List.flatMap_cons, front, ← encodeUtf8_eq_flatMap]
        rfl
      rw [written] at read
      obtain ⟨c', taken, rest', text', split, units, -, same⟩ := decodeUtf16?_cons_eq_some read
      obtain ⟨rfl, rfl⟩ := List.cons.inj same
      -- the two bytes make a whole code unit, so that the character is a small one after all
      cases units with
      | @one x y plain =>
        have small := unit_lt order x y
        rw [toNat_ofNat_of_valid (by unfold Nat.isValidChar; omega)] at none
        exact none small
      | two high high' _ _ =>
        obtain ⟨first, split⟩ := List.cons.inj split
        obtain ⟨second, -⟩ := List.cons.inj split
        rw [← first, ← second] at high high'
        have fits := a.toNat_lt
        cases order <;> simp only [ByteOrder.unit] at high high' <;> omega
  · rintro rfl
    rfl

end TexFlat.Encoding
