import TexFlat.Encoding.Index.Basic

/-!
# What an index holds

An index is laid out from stretches of characters, each with the pointer of its first one. Every
character of an index comes from a stretch, and where no stretch covers another one, every character of
a stretch is in the index. `codePoints` lets a finite computation say which characters those are.
-/

namespace TexFlat.Encoding

/-- The letters of a literal, or of literals put together. -/
inductive Letters : String → Text → Prop
  | append {s s' : String} {letters letters' : Text} : Letters s letters → Letters s' letters' →
    Letters (s ++ s') (letters ++ letters')
  | literal {letters : Text} : Letters (String.ofList letters) letters

theorem Letters.toList_eq {s : String} {letters : Text} (spelt : Letters s letters) : s.toList = letters := by
  induction spelt with
  | append _ _ first second => rw [String.toList_append, first, second]
  | literal => exact String.toList_ofList

namespace Index

variable {index : Index} {c : Char} {cells : Array Char} {chars text : Text} {pointer first size n : Nat}
  {runs : List (Nat × String)} {spans : List Span} {stretches behind : List (Nat × Text)}

/-! ### Finding characters and pointers -/

theorem charAt?_eq_some_iff :
    index.charAt? pointer = some c ↔ index.cells[pointer]? = some c ∧ c ≠ '\ufffd' := by
  unfold charAt?
  rw [Option.filter_eq_some_iff, decide_eq_true_eq]

theorem lt_size_of_charAt? (found : index.charAt? pointer = some c) : pointer < index.cells.size :=
  (Array.getElem?_eq_some_iff.mp (charAt?_eq_some_iff.mp found).1).1

theorem charAt?_of_pointerOf? (found : index.pointerOf? c = some pointer) :
    index.charAt? pointer = some c := by
  unfold pointerOf? at found
  split at found
  · exact absurd found nofun
  · rename_i present
    obtain ⟨inside, same, -⟩ := Array.findIdx?_eq_some_iff_getElem.mp found
    rw [charAt?_eq_some_iff, Array.getElem?_eq_getElem inside, eq_of_beq same]
    exact ⟨rfl, present⟩

theorem charAt?_of_mem_pointersOf (found : pointer ∈ index.pointersOf c) :
    index.charAt? pointer = some c := by
  unfold pointersOf at found
  split at found
  · exact absurd found List.not_mem_nil
  · rename_i present
    exact charAt?_eq_some_iff.mpr ⟨eq_of_beq (List.mem_filter.mp found).2, present⟩

/-- A character of the index has a first pointer. -/
theorem exists_pointerOf?_le (found : index.charAt? pointer = some c) :
    ∃ earlier, index.pointerOf? c = some earlier ∧ earlier ≤ pointer := by
  obtain ⟨there, present⟩ := charAt?_eq_some_iff.mp found
  obtain ⟨inside, same⟩ := Array.getElem?_eq_some_iff.mp there
  unfold pointerOf?
  rw [if_neg present]
  cases search : index.cells.findIdx? (· == c) with
  | none =>
    have missing := Array.findIdx?_eq_none_iff.mp search c (same ▸ Array.getElem_mem inside)
    exact absurd missing (by simp)
  | some earlier =>
    obtain ⟨_, -, missing⟩ := Array.findIdx?_eq_some_iff_getElem.mp search
    refine ⟨earlier, rfl, Nat.le_of_not_lt fun later => ?_⟩
    exact missing pointer later (beq_iff_eq.mpr same)

/-! ### Laying out -/

theorem getElem?_put (cells : Array Char) (first pointer : Nat) (chars : Text) :
    (put cells first chars)[pointer]? =
      if first ≤ pointer ∧ pointer < first + chars.length ∧ pointer < cells.size then
        chars[pointer - first]?
      else cells[pointer]? := by
  unfold put
  induction chars generalizing cells first with
  | nil => simp; omega
  | cons c chars ih =>
    rw [List.zipIdx_cons, List.foldl_cons, ih, Array.size_setIfInBounds, Array.getElem?_setIfInBounds,
      List.length_cons]
    rcases Nat.lt_trichotomy pointer first with before | rfl | behind
    · rw [if_neg (by omega), if_neg (by omega), if_neg (by omega)]
    · rw [if_neg (by omega), if_pos rfl]
      split
      · rw [if_pos (by omega), Nat.sub_self]
        rfl
      · rename_i outside
        rw [if_neg (by omega), Array.getElem?_eq_none (by omega)]
    · rw [if_neg (show first ≠ pointer by omega)]
      obtain ⟨offset, rfl⟩ : ∃ offset, pointer = first + 1 + offset := ⟨pointer - (first + 1), by omega⟩
      rw [Nat.add_sub_cancel_left, show first + 1 + offset - first = offset + 1 by omega,
        List.getElem?_cons_succ]
      congr 1
      rw [eq_iff_iff]
      omega

theorem size_put (cells : Array Char) (first : Nat) (chars : Text) :
    (put cells first chars).size = cells.size := by
  unfold put
  induction chars generalizing cells first with
  | nil => rfl
  | cons c chars ih => rw [List.zipIdx_cons, List.foldl_cons, ih, Array.size_setIfInBounds]

def lay (cells : Array Char) (stretches : List (Nat × Text)) : Array Char :=
  stretches.foldl (fun cells stretch => put cells stretch.1 stretch.2) cells

@[simp]
theorem size_lay (cells : Array Char) (stretches : List (Nat × Text)) :
    (lay cells stretches).size = cells.size := by
  unfold lay
  induction stretches generalizing cells with
  | nil => rfl
  | cons stretch stretches ih => rw [List.foldl_cons, ih, size_put]

/-- The stretches that spell out runs. A run is matched with its letters, so that nothing has to take a
string apart. -/
inductive Spelt : List (Nat × String) → List (Nat × Text) → Prop
  | nil : Spelt [] []
  | cons {first : Nat} {letters : Text} {runs : List (Nat × String)} {stretches : List (Nat × Text)} :
    Spelt runs stretches → Spelt ((first, String.ofList letters) :: runs) ((first, letters) :: stretches)

def Span.stretch (span : Span) : Nat × Text := (span.pointer, span.chars)

theorem ofRuns_eq (spelt : Spelt runs stretches) : (ofRuns size runs spans).cells =
    lay (Array.replicate size '\ufffd') (stretches ++ spans.map Span.stretch) := by
  unfold ofRuns lay
  dsimp only
  rw [List.foldl_append, List.foldl_map]
  congr 1
  generalize Array.replicate size '\ufffd' = cells
  induction spelt generalizing cells with
  | nil => rfl
  | cons spelt ih =>
    rw [List.foldl_cons, List.foldl_cons, ih, String.toList_ofList]

theorem size_ofRuns (size : Nat) (runs : List (Nat × String)) (spans : List Span) :
    (ofRuns size runs spans).cells.size = size := by
  have spelt : Spelt runs (runs.map fun run => (run.1, run.2.toList)) := by
    induction runs with
    | nil => exact .nil
    | cons run runs ih =>
      have letters : Spelt ((run.1, String.ofList run.2.toList) :: runs) _ := .cons ih
      rwa [String.ofList_toList] at letters
  rw [ofRuns_eq spelt, size_lay, Array.size_replicate]

/-- What stands at a pointer stood there before, or comes from a stretch. -/
theorem getElem?_lay (found : (lay cells stretches)[pointer]? = some c) :
    cells[pointer]? = some c ∨
      ∃ stretch ∈ stretches, ∃ i, stretch.2[i]? = some c ∧ pointer = stretch.1 + i := by
  unfold lay at found
  induction stretches generalizing cells with
  | nil => exact .inl found
  | cons stretch stretches ih =>
    rw [List.foldl_cons] at found
    rcases ih found with earlier | ⟨other, member, i, letter, place⟩
    · rw [getElem?_put] at earlier
      split at earlier
      · exact .inr ⟨stretch, List.mem_cons_self, pointer - stretch.1, earlier, by omega⟩
      · exact .inl earlier
    · exact .inr ⟨other, List.mem_cons_of_mem _ member, i, letter, place⟩

/-- No stretch begins before the one in front of it has ended. -/
def ascends (low : Nat) : List (Nat × Text) → Bool
  | [] => true
  | (first, chars) :: stretches => low ≤ first && ascends (first + chars.length) stretches

def covers (pointer : Nat) (stretch : Nat × Text) : Prop :=
  stretch.1 ≤ pointer ∧ pointer < stretch.1 + stretch.2.length

theorem getElem?_lay_of_not_covered (clear : ∀ stretch ∈ stretches, ¬ covers pointer stretch) :
    (lay cells stretches)[pointer]? = cells[pointer]? := by
  unfold lay
  induction stretches generalizing cells with
  | nil => rfl
  | cons stretch stretches ih =>
    rw [List.forall_mem_cons] at clear
    rw [List.foldl_cons, ih clear.2, getElem?_put, if_neg]
    exact fun inside => clear.1 ⟨inside.1, inside.2.1⟩

theorem le_of_ascends {low : Nat} (order : ascends low stretches = true) :
    ∀ stretch ∈ stretches, low ≤ stretch.1 := by
  induction stretches generalizing low with
  | nil => exact List.forall_mem_nil _
  | cons stretch stretches ih =>
    simp only [ascends, Bool.and_eq_true, decide_eq_true_eq] at order
    rw [List.forall_mem_cons]
    exact ⟨order.1, fun other member => by have := ih order.2 other member; omega⟩

/-- A character of a stretch that nothing is laid over stands in its place. -/
theorem getElem?_lay_of_mem {low i : Nat} {stretch : Nat × Text} (order : ascends low stretches = true)
    (member : stretch ∈ stretches) (letter : stretch.2[i]? = some c) (inside : stretch.1 + i < cells.size) :
    (lay cells stretches)[stretch.1 + i]? = some c := by
  have short : i < stretch.2.length := (List.getElem?_eq_some_iff.mp letter).1
  induction stretches generalizing cells low with
  | nil => exact absurd member List.not_mem_nil
  | cons head stretches ih =>
    simp only [ascends, Bool.and_eq_true, decide_eq_true_eq] at order
    have unfolded : lay cells (head :: stretches) = lay (put cells head.1 head.2) stretches := rfl
    rw [unfolded]
    rcases List.mem_cons.mp member with rfl | member
    · rw [getElem?_lay_of_not_covered, getElem?_put, if_pos (by omega), Nat.add_sub_cancel_left, letter]
      intro other later cover
      have := le_of_ascends order.2 other later
      have := cover.1
      omega
    · exact ih order.2 member (by rwa [size_put])

/-- Every character of an index comes from a run or a span. -/
theorem exists_stretch (spelt : Spelt runs stretches)
    (found : (ofRuns size runs spans).charAt? pointer = some c) :
    ∃ stretch ∈ stretches ++ spans.map Span.stretch, covers pointer stretch ∧ c ∈ stretch.2 := by
  obtain ⟨there, present⟩ := charAt?_eq_some_iff.mp found
  rw [ofRuns_eq spelt] at there
  rcases getElem?_lay there with blank | ⟨stretch, member, i, letter, place⟩
  · rw [Array.getElem?_replicate] at blank
    split at blank
    · exact absurd (Option.some.inj blank).symm present
    · exact absurd blank nofun
  · have short : i < stretch.2.length := (List.getElem?_eq_some_iff.mp letter).1
    exact ⟨stretch, member, ⟨by omega, by omega⟩, List.mem_of_getElem? letter⟩

/-- Runs and spans that lie side by side inside an index. -/
structure SideBySide (size : Nat) (stretches : List (Nat × Text)) (spans : List Span) : Prop where
  runsAscend : ascends 0 stretches = true
  spansAscend : ascends 0 (spans.map Span.stretch) = true
  apart : (stretches.all fun stretch => spans.all fun span =>
    stretch.1 + stretch.2.length ≤ span.pointer || span.pointer + span.count ≤ stretch.1) = true
  inside : ((stretches ++ spans.map Span.stretch).all fun stretch =>
    stretch.1 + stretch.2.length ≤ size) = true

/-- No character is laid over another one. -/
theorem SideBySide.charAt? (laid : SideBySide size stretches spans) (spelt : Spelt runs stretches)
    {stretch : Nat × Text} (member : stretch ∈ stretches ++ spans.map Span.stretch)
    (letter : c ∈ stretch.2) (present : c ≠ '\ufffd') :
    ∃ pointer, covers pointer stretch ∧ (ofRuns size runs spans).charAt? pointer = some c := by
  obtain ⟨i, letter⟩ := List.mem_iff_getElem?.mp letter
  have short : i < stretch.2.length := (List.getElem?_eq_some_iff.mp letter).1
  have inside := List.all_eq_true.mp laid.inside stretch member
  rw [decide_eq_true_eq] at inside
  refine ⟨stretch.1 + i, ⟨by omega, by omega⟩, charAt?_eq_some_iff.mpr ⟨?_, present⟩⟩
  have split : lay (Array.replicate size '\ufffd') (stretches ++ spans.map Span.stretch) =
      lay (lay (Array.replicate size '\ufffd') stretches) (spans.map Span.stretch) := List.foldl_append
  rw [ofRuns_eq spelt, split]
  rcases List.mem_append.mp member with run | span
  · rw [getElem?_lay_of_not_covered, getElem?_lay_of_mem laid.runsAscend run letter]
    · rw [Array.size_replicate]
      omega
    · intro other later cover
      obtain ⟨span, member, rfl⟩ := List.mem_map.mp later
      have apart := List.all_eq_true.mp (List.all_eq_true.mp laid.apart stretch run) span member
      have length : span.stretch.2.length = span.count := by simp [Span.stretch, Span.chars]
      have start : span.stretch.1 = span.pointer := rfl
      unfold covers at cover
      rw [Bool.or_eq_true, decide_eq_true_eq, decide_eq_true_eq] at apart
      omega
  · refine getElem?_lay_of_mem laid.spansAscend span letter ?_
    rw [size_lay, Array.size_replicate]
    omega

/-! ### Sets of characters -/

/-- The code points of a text as the bits of a number. -/
def codePoints (text : Text) : Nat := text.foldr (fun c points => points ||| 1 <<< c.toNat) 0

theorem testBit_codePoints : (codePoints text).testBit n = true ↔ ∃ c ∈ text, c.toNat = n := by
  unfold codePoints
  induction text with
  | nil => simp
  | cons c text ih =>
    rw [List.foldr_cons, Nat.testBit_or, Bool.or_eq_true, ih, Nat.one_shiftLeft, Nat.testBit_two_pow,
      decide_eq_true_eq]
    simp only [List.mem_cons, exists_eq_or_imp]
    exact or_comm

def stretchPoints (stretches : List (Nat × Text)) : Nat :=
  stretches.foldr (fun stretch points => points ||| codePoints stretch.2) 0

theorem testBit_stretchPoints : (stretchPoints stretches).testBit n = true ↔
    ∃ stretch ∈ stretches, ∃ c ∈ stretch.2, c.toNat = n := by
  unfold stretchPoints
  induction stretches with
  | nil => simp
  | cons stretch stretches ih =>
    rw [List.foldr_cons, Nat.testBit_or, Bool.or_eq_true, ih, testBit_codePoints]
    simp only [List.mem_cons, exists_eq_or_imp]
    exact or_comm

end Index

end TexFlat.Encoding
