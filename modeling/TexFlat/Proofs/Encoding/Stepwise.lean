import TexFlat.Encoding.Stepwise

/-!
# Character by character

A decoder that reads one character after the other reads the front of the bytes and then what is
behind it. If it reads the bytes of each character alike, whatever follows them, then a text that was
written character by character is read back as itself exactly when each of its characters is:
`decodeBy_eq_some_iff`.
-/

namespace TexFlat.Encoding

variable {front? : Bytes → Option Front} {bytesOf? : Char → Option Bytes} {bytes rest : Bytes}
  {byte : UInt8} {c : Char} {text a b : Text}

/-! ### Reading -/

theorem decodeFrom_eq (front? : Bytes → Option Front) (done : Text) (pending : Nat) (bytes : Bytes) :
    decodeFrom front? done pending bytes =
      (decodeFrom front? [] pending bytes).map (done.reverse ++ ·) := by
  induction bytes generalizing done pending with
  | nil => cases pending <;> simp [decodeFrom]
  | cons byte bytes ih =>
    cases pending with
    | succ pending =>
      rw [decodeFrom, decodeFrom]
      exact ih done pending
    | zero =>
      rw [decodeFrom, decodeFrom]
      cases front? (byte :: bytes) with
      | none => rfl
      | some front =>
        dsimp only
        rw [ih, ih (front.chars.reverse ++ [])]
        simp [Function.comp_def]

theorem decodeFrom_pending (front? : Bytes → Option Front) (pending : Nat) (bytes : Bytes) :
    decodeFrom front? [] pending bytes = decodeBy front? (bytes.drop pending) := by
  induction bytes generalizing pending with
  | nil => cases pending <;> rfl
  | cons byte bytes ih =>
    cases pending with
    | zero => rfl
    | succ pending =>
      rw [decodeFrom]
      exact ih pending

@[simp]
theorem decodeBy_nil (front? : Bytes → Option Front) : decodeBy front? [] = some [] := rfl

theorem decodeBy_cons (front? : Bytes → Option Front) (byte : UInt8) (bytes : Bytes) :
    decodeBy front? (byte :: bytes) = (front? (byte :: bytes)).bind fun front =>
      (decodeBy front? (bytes.drop front.more)).map (front.chars ++ ·) := by
  rw [decodeBy, decodeFrom]
  cases front? (byte :: bytes) with
  | none => rfl
  | some front =>
    dsimp only [Option.bind_some]
    rw [decodeFrom_eq, decodeFrom_pending]
    simp

/-- Whatever follows the bytes, they are read as one character, or reading fails there. -/
structure ReadsAs (front? : Bytes → Option Front) (bytes : Bytes) (result : Option Char) : Prop where
  nonempty : bytes ≠ []
  front : ∀ rest, front? (bytes ++ rest) = result.map fun c => ⟨[c], bytes.length - 1⟩

theorem ReadsAs.decodeBy_append {result : Option Char} (reads : ReadsAs front? bytes result)
    (rest : Bytes) : decodeBy front? (bytes ++ rest) =
      result.bind fun c => (decodeBy front? rest).map (c :: ·) := by
  obtain ⟨byte, more, rfl⟩ := List.exists_cons_of_ne_nil reads.nonempty
  have front := reads.front rest
  rw [List.cons_append] at front ⊢
  rw [decodeBy_cons, front]
  cases result with
  | none => rfl
  | some c => simp

/-! ### Writing -/

@[simp]
theorem encodeBy_nil (bytesOf? : Char → Option Bytes) : encodeBy bytesOf? [] = some [] := rfl

theorem encodeBy_cons (bytesOf? : Char → Option Bytes) (c : Char) (text : Text) :
    encodeBy bytesOf? (c :: text) =
      (bytesOf? c).bind fun front => (encodeBy bytesOf? text).map (front ++ ·) := by
  unfold encodeBy
  rw [List.mapM_cons]
  cases bytesOf? c with
  | none => rfl
  | some front => cases text.mapM bytesOf? <;> rfl

theorem encodeBy_cons_eq_some_iff : encodeBy bytesOf? (c :: text) = some bytes ↔
    ∃ front rest, bytesOf? c = some front ∧ encodeBy bytesOf? text = some rest ∧
      front ++ rest = bytes := by
  rw [encodeBy_cons]
  simp only [Option.bind_eq_some_iff, Option.map_eq_some_iff]
  constructor
  · rintro ⟨front, first, rest, second, same⟩
    exact ⟨front, rest, first, second, same⟩
  · rintro ⟨front, rest, first, second, same⟩
    exact ⟨front, first, rest, second, same⟩

theorem encodeBy_append_eq_some_iff : encodeBy bytesOf? (a ++ b) = some bytes ↔
    ∃ x y, encodeBy bytesOf? a = some x ∧ encodeBy bytesOf? b = some y ∧ x ++ y = bytes := by
  induction a generalizing bytes with
  | nil =>
    constructor
    · exact fun written => ⟨[], bytes, rfl, written, rfl⟩
    · rintro ⟨x, y, first, second, rfl⟩
      obtain rfl := Option.some.inj first
      exact second
  | cons c a ih =>
    rw [List.cons_append, encodeBy_cons_eq_some_iff]
    constructor
    · rintro ⟨front, rest, here, later, rfl⟩
      obtain ⟨x, y, first, second, rfl⟩ := ih.mp later
      refine ⟨front ++ x, y, ?_, second, List.append_assoc _ _ _⟩
      exact encodeBy_cons_eq_some_iff.mpr ⟨front, x, here, first, rfl⟩
    · rintro ⟨x, y, first, second, rfl⟩
      obtain ⟨front, rest, here, later, rfl⟩ := encodeBy_cons_eq_some_iff.mp first
      exact ⟨front, rest ++ y, here, ih.mpr ⟨rest, y, later, second, rfl⟩, (List.append_assoc _ _ _).symm⟩

/-- A text is read back as itself unless one of its characters is lost: written so that it is read as
another one, or not at all. -/
theorem decodeBy_eq_some_iff {lost : Char → Prop}
    (each : ∀ c bytes, bytesOf? c = some bytes →
      ∃ result, ReadsAs front? bytes result ∧ (result = some c ↔ ¬ lost c))
    (written : encodeBy bytesOf? text = some bytes) :
    decodeBy front? bytes = some text ↔ ∀ c ∈ text, ¬ lost c := by
  induction text generalizing bytes with
  | nil =>
    obtain rfl := Option.some.inj written
    simp
  | cons c text ih =>
    obtain ⟨front, rest, here, later, rfl⟩ := encodeBy_cons_eq_some_iff.mp written
    obtain ⟨result, reads, kept⟩ := each c front here
    rw [reads.decodeBy_append, List.forall_mem_cons, ← kept, ← ih later]
    cases result with
    | none => simp
    | some other =>
      cases decodeBy front? rest with
      | none => simp
      | some text' => simp

/-- Where a character takes one byte and the two determine each other, bytes stand for a text exactly
when it is written in them. -/
theorem decodeBy_eq_some_iff_encodeBy (charOf? : UInt8 → Option Char)
    (front : ∀ byte rest, front? (byte :: rest) = (charOf? byte).map fun c => ⟨[c], 0⟩)
    (inverse : ∀ c written,
      bytesOf? c = some written ↔ ∃ byte, written = [byte] ∧ charOf? byte = some c) :
    decodeBy front? bytes = some text ↔ encodeBy bytesOf? text = some bytes := by
  induction bytes generalizing text with
  | nil =>
    cases text with
    | nil => simp
    | cons c text =>
      refine ⟨nofun, fun written => ?_⟩
      obtain ⟨front, rest, here, -, same⟩ := encodeBy_cons_eq_some_iff.mp written
      obtain ⟨byte, rfl, -⟩ := (inverse c front).mp here
      exact absurd same (List.cons_ne_nil _ _)
  | cons byte bytes ih =>
    rw [decodeBy_cons, front]
    constructor
    · intro read
      obtain ⟨first, here, read⟩ := Option.bind_eq_some_iff.mp read
      obtain ⟨c, meaning, rfl⟩ := Option.map_eq_some_iff.mp here
      obtain ⟨others, later, rfl⟩ := Option.map_eq_some_iff.mp read
      exact encodeBy_cons_eq_some_iff.mpr
        ⟨[byte], bytes, (inverse c _).mpr ⟨byte, rfl, meaning⟩, ih.mp later, rfl⟩
    · intro written
      cases text with
      | nil => exact absurd written nofun
      | cons c text =>
        obtain ⟨first, rest, here, later, same⟩ := encodeBy_cons_eq_some_iff.mp written
        obtain ⟨byte', rfl, meaning⟩ := (inverse c first).mp here
        obtain ⟨rfl, rfl⟩ := List.cons.inj same
        rw [meaning]
        have behind := ih.mpr later
        simp only [Option.map_some, Option.bind_some, List.drop_zero, behind, List.cons_append,
          List.nil_append]

end TexFlat.Encoding
