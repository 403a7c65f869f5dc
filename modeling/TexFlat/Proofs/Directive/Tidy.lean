import TexFlat.Proofs.Directive.Silence
import TexFlat.Text.Alphanumeric

/-!
# Tidy texts

In a tidy text every command is the beginning of a directive that is written in full, or of a longer
command. Such a text has one reading for all kinds of directives at once: `segments_lexemes` says
that the scans for the single kinds find in it what this reading finds.
-/

namespace TexFlat.Directive

def Flat (text : Text) : Prop := ∀ c ∈ text, c ≠ '\\' ∧ c ≠ '{' ∧ c ≠ '}' ∧ c ≠ '\n'

instance (text : Text) : Decidable (Flat text) :=
  decidable_of_iff (text.all (fun c => c ≠ '\\' ∧ c ≠ '{' ∧ c ≠ '}' ∧ c ≠ '\n') = true) (by simp [Flat])

/-- An argument as it may stand between braces. -/
def Plain (written : Text) : Prop := written ≠ [] ∧ Flat written

instance (written : Text) : Decidable (Plain written) := inferInstanceAs (Decidable (_ ∧ _))

def braced (written : Text) : Text := '{' :: written ++ ['}']

def Blank (text : Text) : Prop := ∀ c ∈ text, Text.isBlank c = true

/-- Directives that are written in full. -/
inductive Spelled : Directive → Prop
  | inputFile {blanks name : Text} : Blank blanks → Plain name →
    Spelled
      { kind := .inputFile
        source := command .inputFile ++ (blanks ++ braced name)
        directory := none
        name := clean name }
  | importFile {blanks between directory name : Text} : Blank blanks → Plain directory →
    Blank between → Plain name →
    Spelled
      { kind := .importFile
        source := command .importFile ++ (blanks ++ braced directory ++ (between ++ braced name))
        directory := some (clean directory)
        name := clean name }
  | includeFile {only blanks name : Text} : only = [] ∨ only = "only".toList → Blank blanks →
    Plain name →
    Spelled
      { kind := .includeFile
        source := command .includeFile ++ (only ++ (blanks ++ braced name))
        directory := none
        name := clean name }

/-- A directive of the kind that is written in full stands at the front of the text. -/
def Begins (kind : Kind) (text : Text) : Prop :=
  ∃ d rest, Spelled d ∧ d.kind = kind ∧ text = d.source ++ rest

/-- The command at the front of the text goes on with a letter, as `\includegraphics` does. -/
def Longer (kind : Kind) (text : Text) : Prop :=
  kind ≠ .inputFile ∧ ¬ command .includeFile ++ "only".toList <+: text ∧
    ∃ c, Text.isLetter c = true ∧ command kind ++ [c] <+: text

/-- Every command in the text stands where `allowed` says it may. -/
def Commands (allowed : Kind → Text → Prop) (text : Text) : Prop :=
  ∀ rest, rest <:+ text → ∀ kind, command kind <+: rest → allowed kind rest

/-- Every command in the text begins a directive in full, or a longer command if it is no input's. -/
def Tidy (text : Text) : Prop := Commands (fun kind rest => Begins kind rest ∨ Longer kind rest) text

/-- Every command in the text begins a directive in full. -/
def Complete (text : Text) : Prop := Commands Begins text

section Commands

variable {allowed : Kind → Text → Prop} {text : Text}

theorem Complete.tidy (complete : Complete text) : Tidy text :=
  fun rest behind kind begins => .inl (complete rest behind kind begins)

theorem Commands.of_suffix {rest : Text} (commands : Commands allowed text) (behind : rest <:+ text) :
    Commands allowed rest :=
  fun inner inside => commands inner (inside.trans behind)

theorem commands_of_not_mem (absent : '\\' ∉ text) : Commands allowed text :=
  fun rest behind kind begins => absurd begins (mute_of_not_mem absent rest behind kind)

theorem Commands.cons {c : Char} (commands : Commands allowed text)
    (first : ∀ kind, command kind <+: c :: text → allowed kind (c :: text)) :
    Commands allowed (c :: text) := by
  intro rest behind kind begins
  rcases suffix_cons_cases behind with rfl | behind
  · exact first kind begins
  · exact commands rest behind kind begins

theorem Commands.append {front : Text} (commands : Commands allowed text) (absent : '\\' ∉ front) :
    Commands allowed (front ++ text) := by
  induction front with
  | nil => exact commands
  | cons c front ih =>
    refine (ih (List.not_mem_of_not_mem_cons absent)).cons fun kind begins => ?_
    have same := (List.cons_prefix_cons.mp begins).1
    exact absurd (same ▸ List.mem_cons_self) absent

end Commands

/-! ### Reading what is written in full -/

theorem takeWhile_append_of_head {p : Char → Bool} {front more : Text} (all : ∀ c ∈ front, p c = true)
    (stops : ∀ c, more.head? = some c → p c = false) : (front ++ more).takeWhile p = front := by
  rw [List.takeWhile_append_of_pos all]
  cases more with
  | nil => simp
  | cons c more => simp [stops c rfl]

theorem dropWhile_append_of_head {p : Char → Bool} {front more : Text} (all : ∀ c ∈ front, p c = true)
    (stops : ∀ c, more.head? = some c → p c = false) : (front ++ more).dropWhile p = more := by
  rw [List.dropWhile_append_of_pos all]
  cases more with
  | nil => rfl
  | cons c more => simp [stops c rfl]

/-- What the scan takes for an argument between braces. -/
def Argument (written : Text) : Prop := written ≠ [] ∧ '}' ∉ written

theorem Plain.argument {written : Text} (plain : Plain written) : Argument written :=
  ⟨plain.1, fun member => (plain.2 _ member).2.2.1 rfl⟩

theorem braced?_braced {written : Text} (argument : Argument written) (more : Text) :
    braced? (braced written ++ more) = some ⟨braced written, written, more⟩ := by
  have open' : ∀ c ∈ written, decide (c ≠ '}') = true := by
    intro c member
    apply decide_eq_true
    rintro rfl
    exact argument.2 member
  have stops : ∀ c, ('}' :: more).head? = some c → decide (c ≠ '}') = false := by
    intro c first
    obtain rfl := Option.some.inj first
    rfl
  have whole : braced written ++ more = '{' :: (written ++ '}' :: more) := by simp [braced]
  rw [whole]
  simp only [braced?]
  rw [takeWhile_append_of_head open' stops, dropWhile_append_of_head open' stops]
  simp [argument.1, braced]

theorem braced?_eq_none_of_ne {c : Char} {text : Text} (h : c ≠ '{') : braced? (c :: text) = none := by
  simp only [braced?]
  split
  · rfl
  · rw [if_neg fun both => h both.1]

theorem head?_braced_not_blank (written more : Text) :
    ∀ c, (braced written ++ more).head? = some c → Text.isBlank c = false := by
  intro c first
  obtain rfl := Option.some.inj first
  decide

theorem spaced?_blanks {argument? : Text → Option Stretch} {blanks written more : Text}
    (blank : Blank blanks)
    (read : argument? (braced written ++ more) = some ⟨braced written, written, more⟩) :
    spaced? argument? (blanks ++ (braced written ++ more)) =
      some ⟨blanks ++ braced written, written, more⟩ := by
  have stops := head?_braced_not_blank written more
  rw [spaced?, takeWhile_append_of_head blank stops, dropWhile_append_of_head blank stops, read]
  rfl

theorem onlyWord_blanks {blanks : Text} (blank : Blank blanks) (written more : Text) :
    onlyWord (blanks ++ (braced written ++ more)) = [] := by
  have absent : Text.after? "only".toList (blanks ++ (braced written ++ more)) = none := by
    cases blanks with
    | nil => rfl
    | cons c blanks =>
      apply after?_eq_none_of_not_prefix
      intro begins
      obtain ⟨same, -⟩ := List.cons_prefix_cons.mp begins
      exact absurd (same ▸ blank c List.mem_cons_self) (by decide)
  rw [onlyWord, absent]
  rfl

theorem onlyWord_only (more : Text) : onlyWord ("only".toList ++ more) = "only".toList := by
  rw [onlyWord, after?_append]
  rfl

/-- Imports and includes as they are found: up to the brace that closes the last argument. -/
inductive Bracketed : Directive → Prop
  | importFile {blanks between directory name : Text} : Blank blanks → Argument directory →
    Blank between → Argument name →
    Bracketed
      { kind := .importFile
        source := command .importFile ++ (blanks ++ braced directory ++ (between ++ braced name))
        directory := some (clean directory)
        name := clean name }
  | includeFile {only blanks name : Text} : only = [] ∨ only = "only".toList → Blank blanks →
    Argument name →
    Bracketed
      { kind := .includeFile
        source := command .includeFile ++ (only ++ (blanks ++ braced name))
        directory := none
        name := clean name }

theorem Bracketed.at?_eq {d : Directive} (bracketed : Bracketed d) (more : Text) :
    at? d.kind (d.source ++ more) = some d := by
  cases bracketed with
  | importFile blank argument blank' argument' =>
    rename_i blanks between directory name
    have first := spaced?_blanks blank (braced?_braced argument (between ++ (braced name ++ more)))
    have second := spaced?_blanks blank' (braced?_braced argument' more)
    simp only [at?, importAt?, List.append_assoc, after?_append, first, second, Option.bind_eq_bind,
      Option.bind_some]
  | includeFile spelling blank argument =>
    rename_i only blanks name
    have word : onlyWord (only ++ (blanks ++ (braced name ++ more))) = only := by
      rcases spelling with rfl | rfl
      · exact onlyWord_blanks blank name more
      · exact onlyWord_only _
    have read := spaced?_blanks blank (braced?_braced argument more)
    simp only [at?, includeAt?, List.append_assoc, after?_append, word, List.drop_left, read,
      Option.bind_eq_bind, Option.bind_some]

theorem Spelled.at?_eq {d : Directive} (spelled : Spelled d) (more : Text) :
    at? d.kind (d.source ++ more) = some d := by
  cases spelled with
  | inputFile blank plain =>
    rename_i blanks name
    have read : bracedOrBare? (braced name ++ more) = some ⟨braced name, name, more⟩ := by
      rw [bracedOrBare?, braced?_braced plain.argument]
    simp only [at?, inputAt?, List.append_assoc, after?_append, spaced?_blanks blank read,
      Option.bind_eq_bind, Option.bind_some]
  | importFile blank plain blank' plain' =>
    have bracketed := Bracketed.importFile blank plain.argument blank' plain'.argument
    exact bracketed.at?_eq more
  | includeFile spelling blank plain =>
    have bracketed := Bracketed.includeFile spelling blank plain.argument
    exact bracketed.at?_eq more

/-! ### Where a directive in full is silent -/

theorem clean_isInfix (written : Text) : clean written <:+: written := by
  have trimmed (p : Char → Bool) (text : Text) : Text.trimBy p text <:+: text := by
    have front : Text.trimBy p text <+: text.dropWhile p := by
      rw [Text.trimBy, ← List.reverse_suffix, List.reverse_reverse]
      exact List.dropWhile_suffix p
    exact front.isInfix.trans (List.dropWhile_suffix p).isInfix
  exact (trimmed _ _).trans ((trimmed _ _).trans (trimmed _ _))

theorem Plain.backslash_not_mem {written : Text} (plain : Plain written) : '\\' ∉ written :=
  fun member => (plain.2 _ member).1 rfl

theorem Blank.backslash_not_mem {blanks : Text} (blank : Blank blanks) : '\\' ∉ blanks :=
  fun member => absurd (blank _ member) (by decide)

theorem braced_isInfix (front written : Text) : written <:+: front ++ braced written :=
  ⟨front ++ ['{'], ['}'], by simp [braced]⟩

/-- What a directive names stands in it, between braces. -/
theorem Spelled.named {d : Directive} (spelled : Spelled d) :
    (d.name <:+: d.source ∧ Flat d.name) ∧
      ∀ directory, d.directory = some directory → directory <:+: d.source ∧ Flat directory := by
  have cleaned {written source : Text} (plain : Plain written) (inside : written <:+: source) :
      clean written <:+: source ∧ Flat (clean written) :=
    ⟨(clean_isInfix written).trans inside, fun c member => plain.2 c ((clean_isInfix written).subset member)⟩
  cases spelled with
  | inputFile _ plain =>
    refine ⟨cleaned plain ?_, nofun⟩
    rw [← List.append_assoc]
    exact braced_isInfix _ _
  | @importFile blanks between directory name _ plain _ plain' =>
    have first : directory <:+: command .importFile ++ (blanks ++ braced directory ++ (between ++ braced name)) :=
      ⟨command .importFile ++ blanks ++ ['{'], '}' :: (between ++ braced name), by simp [braced]⟩
    refine ⟨cleaned plain' ?_, fun _ same => ?_⟩
    · rw [← List.append_assoc, ← List.append_assoc]
      exact braced_isInfix _ _
    · obtain rfl := Option.some.inj same
      exact cleaned plain first
  | includeFile _ _ plain =>
    refine ⟨cleaned plain ?_, nofun⟩
    rw [← List.append_assoc, ← List.append_assoc]
    exact braced_isInfix _ _

theorem Spelled.backslash_not_mem {d : Directive} (spelled : Spelled d) :
    '\\' ∉ d.name ∧ ∀ directory, d.directory = some directory → '\\' ∉ directory :=
  ⟨fun member => (spelled.named.1.2 _ member).1 rfl,
    fun directory same member => ((spelled.named.2 directory same).2 _ member).1 rfl⟩

/-- The only backslash of a directive in full is that of its command. -/
theorem Spelled.source_eq {d : Directive} (spelled : Spelled d) :
    ∃ tail, d.source = '\\' :: (d.kind.word ++ tail) ∧ '\\' ∉ tail := by
  have argument {written : Text} (plain : Plain written) : '\\' ∉ braced written := by
    simp [braced, plain.backslash_not_mem]
  cases spelled with
  | inputFile blank plain =>
    refine ⟨_, List.cons_append, ?_⟩
    simp [blank.backslash_not_mem, argument plain]
  | importFile blank plain blank' plain' =>
    refine ⟨_, List.cons_append, ?_⟩
    simp [blank.backslash_not_mem, argument plain, blank'.backslash_not_mem, argument plain']
  | includeFile spelling blank plain =>
    refine ⟨_, List.cons_append, ?_⟩
    rcases spelling with rfl | rfl
    · simp [blank.backslash_not_mem, argument plain]
    · simp [blank.backslash_not_mem, argument plain]

theorem Spelled.length_lt {d : Directive} (spelled : Spelled d) (text : Text) :
    text.length < (d.source ++ text).length := by
  obtain ⟨tail, source, -⟩ := spelled.source_eq
  rw [source]
  simp only [List.length_append, List.length_cons]
  omega

theorem Spelled.closed {d : Directive} (spelled : Spelled d) {kind : Kind} (other : kind ≠ d.kind) :
    Closed kind d.source := by
  obtain ⟨tail, source, absent⟩ := spelled.source_eq
  intro rest behind filled more _
  rw [source] at behind
  rcases suffix_cons_cases behind with rfl | behind
  · apply at?_eq_none_of_not_prefix
    intro begins
    refine other (kind_eq_of_begins begins ⟨tail ++ more, ?_⟩)
    simp [command]
  · cases rest with
    | nil => exact absurd rfl filled
    | cons c rest =>
      apply at?_eq_none_of_ne
      intro same
      rcases List.mem_append.mp (behind.subset List.mem_cons_self) with inside | inside
      · exact absurd (isAlpha_of_mem_word inside) (by rw [same]; decide)
      · exact absent (same ▸ inside)

theorem Commands.directive {allowed : Kind → Text → Prop} {text : Text} {d : Directive}
    (commands : Commands allowed text) (spelled : Spelled d)
    (full : ∀ kind rest, Begins kind rest → allowed kind rest) :
    Commands allowed (d.source ++ text) := by
  obtain ⟨tail, source, absent⟩ := spelled.source_eq
  have behind : '\\' ∉ d.kind.word ++ tail :=
    List.not_mem_append (fun member => absurd (isAlpha_of_mem_word member) (by decide)) absent
  rw [source]
  refine (commands.append behind).cons fun kind begins => full kind _ ?_
  have own : command d.kind <+: '\\' :: (d.kind.word ++ tail ++ text) := ⟨tail ++ text, by simp [command]⟩
  exact ⟨d, text, spelled, kind_eq_of_begins own begins, by rw [source]; rfl⟩

theorem Complete.input {name text : Text} (complete : Complete text) (plain : Plain name) :
    Complete (command .inputFile ++ braced name ++ text) :=
  Commands.directive complete (.inputFile (List.forall_mem_nil _) plain) fun _ _ begins => begins

theorem Complete.imported {directory name text : Text} (complete : Complete text)
    (plain : Plain directory) (plain' : Plain name) :
    Complete (command .importFile ++ (braced directory ++ braced name) ++ text) :=
  Commands.directive complete
    (.importFile (List.forall_mem_nil _) plain (List.forall_mem_nil _) plain') fun _ _ begins => begins

theorem Complete.included {name text : Text} (complete : Complete text) (plain : Plain name) :
    Complete (command .includeFile ++ braced name ++ text) :=
  Commands.directive complete (.includeFile (.inl rfl) (List.forall_mem_nil _) plain)
    fun _ _ begins => begins

/-! ### Longer commands -/

theorem isBlank_eq_false_of_isLetter {c : Char} (letter : Text.isLetter c = true) :
    Text.isBlank c = false := by
  -- No range of letters meets a range of blanks.
  have apart : (Text.letterRanges.all fun l => Text.blankRanges.all fun b =>
      Nat.blt l.2 b.1 || Nat.blt b.2 l.1) = true := by decide +kernel
  rw [Bool.eq_false_iff]
  intro blank
  obtain ⟨l, inLetters, within⟩ := List.any_eq_true.mp letter
  obtain ⟨b, inBlanks, within'⟩ := List.any_eq_true.mp blank
  simp only [Bool.and_eq_true, decide_eq_true_eq] at within within'
  have disjoint := List.all_eq_true.mp (List.all_eq_true.mp apart l inLetters) b inBlanks
  rw [Bool.or_eq_true, Nat.blt_eq, Nat.blt_eq] at disjoint
  omega

theorem ne_of_isLetter {c other : Char} (letter : Text.isLetter c = true)
    (sign : Text.isLetter other = false) : c ≠ other := by
  rintro rfl
  rw [letter] at sign
  exact absurd sign nofun

theorem spaced?_braced?_eq_none {c : Char} (letter : Text.isLetter c = true) (text : Text) :
    spaced? braced? (c :: text) = none := by
  have brace : c ≠ '{' := ne_of_isLetter letter (by decide +kernel)
  rw [spaced?, List.dropWhile_cons_of_neg (by simp [isBlank_eq_false_of_isLetter letter]),
    braced?_eq_none_of_ne brace]
  rfl

theorem Longer.at?_eq_none {kind : Kind} {text : Text} (longer : Longer kind text) :
    at? kind text = none := by
  obtain ⟨notInput, notOnly, c, letter, rest, rfl⟩ := longer
  rw [List.append_assoc] at notOnly ⊢
  cases kind with
  | inputFile => exact absurd rfl notInput
  | importFile =>
    simp only [at?, importAt?, after?_append, List.singleton_append, spaced?_braced?_eq_none letter,
      Option.bind_eq_bind, Option.bind_some, Option.bind_none]
  | includeFile =>
    have word : onlyWord (c :: rest) = [] := by
      have absent : Text.after? "only".toList (c :: rest) = none := by
        apply after?_eq_none_of_not_prefix
        intro begins
        exact notOnly ((List.prefix_append_right_inj _).mpr begins)
      rw [onlyWord, absent]
      rfl
    simp only [at?, includeAt?, after?_append, List.singleton_append, word, List.length_nil,
      List.drop_zero, spaced?_braced?_eq_none letter, Option.bind_eq_bind, Option.bind_some,
      Option.bind_none]

end TexFlat.Directive
