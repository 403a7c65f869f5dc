/-!
# Text

A text is a list of characters. Here are the blank characters, trimming, cutting at a separator
and the length in UTF-8. `join_pieces` says that cutting loses nothing.
-/

namespace TexFlat

abbrev Text := List Char

namespace Text

/-- The code points with the Unicode property White_Space, as closed ranges. -/
def blankRanges : List (Nat × Nat) :=
  [(0x09, 0x0D), (0x20, 0x20), (0x85, 0x85), (0xA0, 0xA0), (0x1680, 0x1680), (0x2000, 0x200A),
    (0x2028, 0x2029), (0x202F, 0x202F), (0x205F, 0x205F), (0x3000, 0x3000)]

def isBlank (c : Char) : Bool :=
  blankRanges.any fun (low, high) => low ≤ c.toNat && c.toNat ≤ high

theorem isBlank_of_isWhitespace {c : Char} (h : c.isWhitespace = true) : isBlank c = true := by
  simp only [Char.isWhitespace, Bool.or_eq_true, decide_eq_true_eq] at h
  rcases h with ((rfl | rfl) | rfl) | rfl <;> rfl

/-- The text without the characters satisfying `p` at its two ends. -/
def trimBy (p : Char → Bool) (text : Text) : Text :=
  ((text.dropWhile p).reverse.dropWhile p).reverse

def trim (text : Text) : Text := trimBy isBlank text

/-- The bytes that the text takes in UTF-8. -/
def utf8Length (text : Text) : Nat := text.foldr (fun c bytes => c.utf8Size + bytes) 0

/-- What follows `word` at the front of a text. -/
def after? : (word : Text) → Text → Option Text
  | [], text => some text
  | _ :: _, [] => none
  | w :: word, c :: text => if w = c then after? word text else none

/-- The pieces between the separators: one more than there are separators. -/
def pieces (separator : Char) : Text → List Text
  | [] => [[]]
  | c :: text =>
    match pieces separator text with
    | [] => [[]]
    | piece :: others =>
      if c = separator then [] :: piece :: others else (c :: piece) :: others

/-- The pieces with a separator between each two. -/
def join (separator : Char) : List Text → Text
  | [] => []
  | [piece] => piece
  | piece :: others => piece ++ separator :: join separator others

theorem after?_eq_some_iff {word text rest : Text} :
    after? word text = some rest ↔ text = word ++ rest := by
  induction word generalizing text with
  | nil => simp [after?, eq_comm]
  | cons w word ih =>
    cases text with
    | nil => simp [after?]
    | cons c text =>
      by_cases h : w = c
      · simp [after?, h, ih]
      · simp [after?, h, Ne.symm h]

theorem pieces_ne_nil (separator : Char) (text : Text) : pieces separator text ≠ [] := by
  cases text with
  | nil => simp [pieces]
  | cons c text =>
    simp only [pieces]
    split
    · simp
    · split <;> simp

theorem join_pieces (separator : Char) (text : Text) :
    join separator (pieces separator text) = text := by
  induction text with
  | nil => rfl
  | cons c text ih =>
    cases h : pieces separator text with
    | nil => exact absurd h (pieces_ne_nil separator text)
    | cons piece others =>
      rw [h] at ih
      by_cases hc : c = separator
      · simp [pieces, h, hc, join, ih]
      · cases others with
        | nil => simp [pieces, h, hc, join] at ih ⊢; exact ih
        | cons next others => simp [pieces, h, hc, join] at ih ⊢; exact ih

theorem utf8Length_append (a b : Text) : utf8Length (a ++ b) = utf8Length a + utf8Length b := by
  induction a with
  | nil => simp [utf8Length]
  | cons c a ih => simp_all [utf8Length, Nat.add_assoc]

end Text
end TexFlat
