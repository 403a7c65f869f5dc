import Mathlib.Data.List.Infix
import TexFlat.Proofs.Directive.Grammar
import TexFlat.Proofs.Merge.Flat

/-!
# Longer control words

A control word is a backslash with all the letters behind it. An import or an include begins with its
own control word and with no longer one, as `\includegraphics` is. An input begins with a longer one
where its name is written bare, directly behind the command: `\inputencoding` asks for a file `encoding`.
-/

namespace TexFlat

namespace Directive

variable {kind : Kind} {text rest behind : Text} {d : Directive}

/-- The control word at the front of a text. -/
def controlWord : Text → Text
  | '\\' :: behind => '\\' :: behind.takeWhile Char.isAlpha
  | _ => []

/-- The control words that a directive of the kind has. -/
def controlWords : Kind → List Text
  | .inputFile => [command .inputFile]
  | .importFile => [command .importFile]
  | .includeFile => [command .includeFile, command .includeFile ++ "only".toList]

/-- An input with a name that makes one control word with the command. -/
def RunsOn (d : Directive) : Prop :=
  d.kind = .inputFile ∧ ∃ c name, c.isAlpha = true ∧ d.source = command .inputFile ++ c :: name

/-! ### Control words of the grammar -/

theorem controlWord_append {letters : Text} (all : ∀ c ∈ letters, c.isAlpha = true) (behind : Text) :
    controlWord ('\\' :: letters ++ behind) = '\\' :: letters ++ behind.takeWhile Char.isAlpha := by
  rw [List.cons_append, controlWord, List.takeWhile_append_of_pos all, List.cons_append]

theorem takeWhile_isAlpha_of_parted (parted : Parted text) : text.takeWhile Char.isAlpha = [] := by
  cases text with
  | nil => rfl
  | cons c text => simp [parted c rfl]

theorem controlWord_of_parted (parted : Parted behind) (kind : Kind) :
    controlWord (command kind ++ behind) = command kind := by
  have word := controlWord_append (fun c => @isAlpha_of_mem_word kind c) behind
  rw [takeWhile_isAlpha_of_parted parted, List.append_nil] at word
  exact word

theorem parted_blanks_braced {blanks : Text} (blank : Blank blanks) (name more : Text) :
    Parted (blanks ++ (braced name ++ more)) := by
  intro c first
  cases blanks with
  | nil =>
    obtain rfl := Option.some.inj first
    rfl
  | cons b blanks =>
    obtain rfl := Option.some.inj first
    rw [Bool.eq_false_iff]
    intro letter
    have apart := isBlank_eq_false_of_isLetter (Text.isLetter_of_isAlpha letter)
    rw [blank b List.mem_cons_self] at apart
    exact absurd apart nofun

/-- The control word of an input is longer than its command if what is behind that begins with a
letter, and this is part of the input. -/
theorem controlWord_input_iff {tail : Text} (input : d.kind = .inputFile) (filled : tail ≠ [])
    (source : d.source = command .inputFile ++ tail) (rest : Text) :
    controlWord (d.source ++ rest) ∈ controlWords .inputFile ↔ ¬ RunsOn d := by
  obtain ⟨c, name, rfl⟩ := List.exists_cons_of_ne_nil filled
  have word : controlWord (d.source ++ rest) =
      command .inputFile ++ (c :: (name ++ rest)).takeWhile Char.isAlpha := by
    rw [source, List.append_assoc]
    exact controlWord_append (fun c => @isAlpha_of_mem_word .inputFile c) _
  have runsOn : RunsOn d ↔ c.isAlpha = true := by
    constructor
    · rintro ⟨-, c', name', letter, same⟩
      rw [source, List.append_cancel_left_eq] at same
      rwa [(List.cons.inj same).1]
    · intro letter
      exact ⟨input, c, name, letter, source⟩
  rw [word, runsOn, controlWords, List.mem_singleton, List.append_right_eq_self]
  by_cases letter : c.isAlpha = true
  · simp [letter]
  · simp [letter]

theorem Bracketed.controlWord_mem (bracketed : Bracketed d) (rest : Text) :
    controlWord (d.source ++ rest) ∈ controlWords d.kind := by
  cases bracketed with
  | importFile blank argument blank' argument' =>
    rename_i blanks between directory name
    have parted := parted_blanks_braced blank directory (between ++ (braced name ++ rest))
    simp only [List.append_assoc, controlWord_of_parted parted]
    exact List.mem_singleton.mpr rfl
  | includeFile spelling blank argument =>
    rename_i only blanks name
    have parted := parted_blanks_braced blank name rest
    rcases spelling with rfl | rfl
    · simp only [List.append_assoc, List.nil_append, controlWord_of_parted parted]
      exact List.mem_cons_self
    · have letters : ∀ c ∈ Kind.includeFile.word ++ "only".toList, c.isAlpha = true :=
        List.all_eq_true.mp (by decide)
      have word := controlWord_append letters (blanks ++ (braced name ++ rest))
      rw [takeWhile_isAlpha_of_parted parted, List.append_nil] at word
      refine List.mem_cons_of_mem _ (List.mem_singleton.mpr ?_)
      simpa [command, List.append_assoc] using word

theorem Formed.controlWord_mem_iff (formed : Formed rest d) :
    controlWord (d.source ++ rest) ∈ controlWords d.kind ↔ ¬ RunsOn d := by
  cases formed with
  | bracedInput => exact controlWord_input_iff rfl (by simp [braced]) rfl rest
  | bareInput _ filled => exact controlWord_input_iff rfl (by simp [filled]) rfl rest
  | bracketed bracketed =>
    have other : ¬ RunsOn d := by
      rintro ⟨input, -⟩
      cases bracketed <;> simp at input
    exact ⟨fun _ => other, fun _ => bracketed.controlWord_mem rest⟩

theorem isBare_of_isAlpha {c : Char} (letter : c.isAlpha = true) : isBare c = true := by
  have blank := isBlank_eq_false_of_isLetter (Text.isLetter_of_isAlpha letter)
  have brace : c ≠ '{' := by
    rintro rfl
    exact absurd letter (by decide)
  simp [isBare, blank, brace]

/-- A letter directly behind the command of an input makes an input that runs on. -/
theorem exists_formed_of_letter {c : Char} (letter : c.isAlpha = true) (behind : Text) :
    ∃ d rest, command .inputFile ++ c :: behind = d.source ++ rest ∧ Formed rest d ∧ RunsOn d := by
  have name : (c :: behind).takeWhile isBare = c :: behind.takeWhile isBare :=
    List.takeWhile_cons_of_pos (isBare_of_isAlpha letter)
  have filled : (c :: behind).takeWhile isBare ≠ [] := by simp [name]
  refine ⟨_, _, ?_, formed_takeWhile_isBare (List.forall_mem_nil _) filled, rfl, c,
    behind.takeWhile isBare, letter, ?_⟩
  · simp only [List.nil_append, List.append_assoc, List.takeWhile_append_dropWhile]
  · rw [List.nil_append, name]

/-! ### Texts with longer control words only -/

/-- Every command in the text begins a longer control word, and none is that of an input. -/
def LongerWords (text : Text) : Prop :=
  Commands (fun kind behind => kind ≠ .inputFile ∧ controlWord behind ∉ controlWords kind) text

theorem longerWords_iff : LongerWords text ↔ ∀ rest ∈ text.tails, ∀ kind ∈ Kind.passes,
    command kind <+: rest → kind ≠ .inputFile ∧ ∀ word ∈ controlWords kind, word ≠ controlWord rest := by
  have every (kind : Kind) : kind ∈ Kind.passes := by cases kind <;> decide
  have apart (word : Text) (words : List Text) : word ∉ words ↔ ∀ other ∈ words, other ≠ word :=
    ⟨fun absent _ member same => absent (same ▸ member), fun differ member => differ word member rfl⟩
  simp only [LongerWords, Commands, List.mem_tails, every, forall_true_left, apart]

instance (text : Text) : Decidable (LongerWords text) := decidable_of_iff' _ longerWords_iff

theorem LongerWords.bare (longer : LongerWords text) : Merge.Bare text := by
  intro kind
  refine List.eq_nil_iff_forall_not_mem.mpr fun d member => ?_
  obtain ⟨behind, inside, read⟩ := exists_at?_of_mem_ofText member
  have begins : command kind <+: behind := by
    by_contra other
    have none := at?_eq_none_of_not_prefix other
    exact absurd (read.symm.trans none) nofun
  obtain ⟨other, word⟩ := longer behind inside kind begins
  obtain ⟨rfl, rest, rfl, formed⟩ := at?_eq_some_iff.mp read
  rw [formed.controlWord_mem_iff, not_not] at word
  exact other word.1

/-- A directive that a scan finds begins with a control word of its kind, unless it is an input that
runs on. Wherever a letter stands directly behind the command of an input and no input has begun before,
there is such an input. A document that has longer control words only, none of an input, is its own merge. -/
theorem scan_longer_words (text : Text) (kind : Kind) :
    (∀ o ∈ scan text kind, ∀ before behind, text = before ++ behind → Text.utf8Length before = o.start →
      (controlWord behind ∈ controlWords kind ↔ ¬ RunsOn o.directive)) ∧
    (∀ before c behind, text = before ++ (command .inputFile ++ c :: behind) → c.isAlpha = true →
      ∃ o ∈ scan text .inputFile, o.start ≤ Text.utf8Length before ∧ Text.utf8Length before < o.stop ∧
        (o.start = Text.utf8Length before → RunsOn o.directive)) ∧
    (LongerWords text → ∀ (store : Store) (options : Options) (root : Path),
      store.content? root = some text → (Merge.merge store.source options root).1 = .ok ⟨text, 1⟩) := by
  refine ⟨?_, ?_, ?_⟩
  · intro o member before behind whole place
    obtain ⟨before', rest, whole', place', kinds, formed⟩ := (leftmost_scan text kind).beginsAt member
    obtain ⟨-, rfl⟩ := Text.append_inj_of_utf8Length_eq (whole.symm.trans whole') (place.trans place'.symm)
    rw [← kinds]
    exact formed.controlWord_mem_iff
  · rintro before c behind rfl letter
    obtain ⟨d, rest, cut, formed, runsOn⟩ := exists_formed_of_letter letter behind
    have begins : BeginsAt (before ++ (command .inputFile ++ c :: behind)) .inputFile
        (Text.utf8Length before) d := ⟨before, rest, by rw [cut], rfl, runsOn.1, formed⟩
    obtain ⟨o, member, start, stop⟩ := (leftmost_scan _ .inputFile).covers (Nat.zero_le _) begins
    refine ⟨o, member, start, stop, fun same => ?_⟩
    have own := (leftmost_scan _ .inputFile).beginsAt member
    rw [same] at own
    rwa [own.unique begins]
  · intro longer store options root found
    exact longer.bare.merge_eq options found

/-- A list of the files to include, a figure, and an encoding that is taken for the name of a file. -/
theorem scan_longer_words_preamble :
    (∀ o ∈ scan "\\includegraphics\x7bp\x7d\\includeonly\x7ba\x7d".toList .includeFile,
      o.start = 19 ∧ ¬ RunsOn o.directive) ∧
    (∃ o ∈ scan "é\\inputencoding\x7butf8\x7d".toList .inputFile,
      o.start ≤ 2 ∧ 2 < o.stop ∧ RunsOn o.directive) ∧
    let text : Text := "\\includegraphics\x7bp\x7d\\importfoo\x7ba\x7d\x7bb\x7d".toList
    let store : Store := ⟨[(.ofString "/m.tex", text)]⟩
    (Merge.merge store.source {} (.ofString "/m.tex")).1 = .ok ⟨text, 1⟩ := by
  refine ⟨?_, ?_, ?_⟩
  · intro o member
    have starts : ∀ o ∈ scan "\\includegraphics\x7bp\x7d\\includeonly\x7ba\x7d".toList .includeFile,
        o.start = 19 := by decide +kernel
    have place : Text.utf8Length "\\includegraphics\x7bp\x7d".toList = 19 := by decide +kernel
    have own := (scan_longer_words _ .includeFile).1 o member _ "\\includeonly\x7ba\x7d".toList
      (by decide +kernel) (place.trans (starts o member).symm)
    exact ⟨starts o member, own.mp (by decide +kernel)⟩
  · obtain ⟨o, member, start, stop, runsOn⟩ := (scan_longer_words _ .inputFile).2.1 "é".toList 'e'
      "ncoding\x7butf8\x7d".toList rfl (by decide)
    have starts : ∀ o ∈ scan ("é".toList ++ (command .inputFile ++ 'e' :: "ncoding\x7butf8\x7d".toList))
        .inputFile, o.start = Text.utf8Length "é".toList := by decide +kernel
    exact ⟨o, member, start, stop, runsOn (starts o member)⟩
  · exact (scan_longer_words _ .inputFile).2.2 (by decide +kernel) _ _ _ (by decide +kernel)

/-- An input that runs on is reported, though the control word that it begins with is another one. -/
theorem scan_reports_longer_word :
    ¬ ∀ (text : Text) (kind : Kind), ∀ o ∈ scan text kind, ∀ before behind, text = before ++ behind →
      Text.utf8Length before = o.start → controlWord behind ∈ controlWords kind := by
  intro claim
  have found : ∃ o ∈ scan "\\inputencoding\x7butf8\x7d".toList .inputFile, o.start = 0 := by
    decide +kernel
  obtain ⟨o, member, start⟩ := found
  have word := claim _ _ o member [] _ rfl start.symm
  exact absurd word (by decide +kernel)

end Directive
end TexFlat
