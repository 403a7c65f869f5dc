import TexFlat.Proofs.Directive.Tidy

/-!
# One reading for all kinds

The directives of all kinds in a tidy text, and the characters between them, are one list of
segments. It is settled: where it has a character no directive begins, also when text that starts
with no letter comes in the place of a directive. `segments_lexemes` says what the scan for one kind
makes of settled segments, `scan_lexemes` where it finds the directives.
-/

namespace TexFlat.Directive

def lexemes (segments : List Segment) : Text := segments.flatMap Segment.lexeme

@[simp]
theorem lexemes_nil : lexemes [] = [] := rfl

@[simp]
theorem lexemes_cons (s : Segment) (others : List Segment) :
    lexemes (s :: others) = s.lexeme ++ lexemes others := rfl

@[simp]
theorem lexemes_append (a b : List Segment) : lexemes (a ++ b) = lexemes a ++ lexemes b :=
  List.flatMap_append

@[simp]
theorem lexemes_map_char (text : Text) : lexemes (text.map .char) = text := by
  induction text with
  | nil => rfl
  | cons c text ih => rw [List.map_cons, lexemes_cons, ih]; rfl

def front : List Segment → Text
  | .char c :: others => c :: front others
  | _ => []

/-- Directives are written in full, and none begins at a character even if the first directive
behind it gives way to a text that starts with no letter. -/
def Settled : List Segment → Prop
  | [] => True
  | .char c :: others =>
    (∀ kind more, Parted more → at? kind (c :: (front others ++ more)) = none) ∧ Settled others
  | .directive d :: others => Spelled d ∧ Settled others

/-- What a scan for one kind makes of a segment. -/
def Segment.only (kind : Kind) : Segment → List Segment
  | .char c => [.char c]
  | .directive d => if d.kind = kind then [.directive d] else d.source.map .char

/-- Behind the front there is nothing, or the backslash of a directive. -/
theorem lexemes_eq_front {segments : List Segment} (settled : Settled segments) :
    ∃ more, lexemes segments = front segments ++ more ∧ ∀ c, more.head? = some c → c = '\\' := by
  induction segments with
  | nil => exact ⟨[], rfl, nofun⟩
  | cons s others ih =>
    cases s with
    | char c =>
      obtain ⟨more, same, first⟩ := ih settled.2
      exact ⟨more, by rw [lexemes_cons, same]; rfl, first⟩
    | directive d =>
      obtain ⟨tail, source, -⟩ := settled.1.source_eq
      refine ⟨lexemes (.directive d :: others), rfl, fun c first => ?_⟩
      rw [lexemes_cons, show (Segment.directive d).lexeme = _ from source] at first
      exact (Option.some.inj first).symm

theorem parted_of_backslash {more : Text} (first : ∀ c, more.head? = some c → c = '\\') :
    Parted more := by
  intro c same
  rw [first c same]
  rfl

theorem segments_lexemes {segments' : List Segment} (settled : Settled segments') (kind : Kind) :
    segments kind (lexemes segments') = segments'.flatMap (Segment.only kind) := by
  induction segments' with
  | nil => rfl
  | cons s others ih =>
    cases s with
    | char c =>
      obtain ⟨silent, rest⟩ := settled
      obtain ⟨more, same, first⟩ := lexemes_eq_front rest
      have none := silent kind more (parted_of_backslash first)
      rw [← same] at none
      rw [List.flatMap_cons, ← ih rest]
      exact segments_cons none
    | directive d =>
      obtain ⟨spelled, rest⟩ := settled
      have source : (Segment.directive d).lexeme = d.source := rfl
      rw [List.flatMap_cons, ← ih rest, lexemes_cons, source]
      by_cases same : d.kind = kind
      · subst same
        rw [segments_of_at? (spelled.at?_eq (lexemes others)) rfl]
        simp [Segment.only]
      · have closed : Closed kind d.source := spelled.closed (Ne.symm same)
        rw [segments_append_of_silent closed trivial]
        simp [Segment.only, same]

/-! ### Places -/

theorem occurrencesFrom_map_char (start : Nat) (text : Text) (others : List Segment) :
    occurrencesFrom start (text.map .char ++ others) =
      occurrencesFrom (start + Text.utf8Length text) others := by
  induction text generalizing start with
  | nil => rfl
  | cons c text ih =>
    rw [List.map_cons, List.cons_append, occurrencesFrom, ih, Nat.add_assoc]
    rfl

theorem occurrencesFrom_only (start : Nat) (segments : List Segment) (kind : Kind) :
    occurrencesFrom start (segments.flatMap (Segment.only kind)) =
      (occurrencesFrom start segments).filter (·.directive.kind = kind) := by
  induction segments generalizing start with
  | nil => rfl
  | cons s others ih =>
    cases s with
    | char c => exact ih (start + c.utf8Size)
    | directive d =>
      rw [List.flatMap_cons, occurrencesFrom]
      by_cases same : d.kind = kind
      · simp only [Segment.only, same, if_true, List.singleton_append, occurrencesFrom, ih,
          List.filter_cons, decide_true]
      · simp only [Segment.only, same, if_false, occurrencesFrom_map_char, ih, List.filter_cons,
          decide_false, Bool.false_eq_true]

theorem scan_lexemes {segments : List Segment} (settled : Settled segments) (kind : Kind) :
    scan (lexemes segments) kind = (occurrencesFrom 0 segments).filter (·.directive.kind = kind) := by
  rw [scan, segments_lexemes settled, occurrencesFrom_only]

/-! ### The reading of a tidy text -/

theorem Longer.of_prefix {kind : Kind} {c : Char} {text behind more : Text}
    (longer : Longer kind (c :: text ++ behind)) (first : ∀ b, behind.head? = some b → b = '\\')
    (parted : Parted more) : Longer kind (c :: text ++ more) := by
  obtain ⟨notInput, notOnly, l, letter, begins⟩ := longer
  have apart : ∀ a ∈ kind.word ++ [l], behind.head? ≠ some a := by
    intro a member same
    have backslash := first a same
    rcases List.mem_append.mp member with member | member
    · exact absurd (isAlpha_of_mem_word member) (by rw [backslash]; decide)
    · rw [← List.mem_singleton.mp member, backslash] at letter
      exact absurd letter (by decide +kernel)
  have within : command kind ++ [l] <+: c :: text :=
    cons_prefix_of_prefix_append apart (List.cons_ne_nil c text) begins
  refine ⟨notInput, fun only => ?_, l, letter, within.trans (List.prefix_append _ _)⟩
  have letters : ∀ a ∈ Kind.includeFile.word ++ "only".toList, a.isAlpha = true :=
    List.all_eq_true.mp (by decide)
  have inside : command .includeFile ++ "only".toList <+: c :: text :=
    cons_prefix_of_prefix_append (fun a member => parted.head?_ne (letters a member))
      (List.cons_ne_nil c text) only
  exact notOnly (inside.trans (List.prefix_append _ _))

/-- No directive begins at a character of a tidy text where none is written in full. -/
theorem Tidy.settled_char {c : Char} {text : Text} {segments : List Segment} (tidy : Tidy (c :: text))
    (single : ∀ kind, ¬ Begins kind (c :: text)) (settled : Settled segments) (same : lexemes segments = text) :
    Settled (.char c :: segments) := by
  refine ⟨fun kind more parted => ?_, settled⟩
  obtain ⟨behind, cut, first⟩ := lexemes_eq_front settled
  rw [same] at cut
  rw [← List.cons_append]
  by_cases command : command kind <+: c :: front segments ++ more
  · -- The command lies within the front, so that the text itself has it.
    have inside := command_prefix_of_prefix_append parted (List.cons_ne_nil _ _) command
    have original := inside.trans (List.prefix_append (c :: front segments) behind)
    rw [List.cons_append, ← cut] at original
    rcases tidy _ (List.suffix_refl _) kind original with full | longer
    · exact absurd full (single kind)
    · rw [cut] at longer
      exact (longer.of_prefix first parted).at?_eq_none
  · exact at?_eq_none_of_not_prefix command

/-- A tidy text can be read for all kinds at once. -/
theorem Tidy.exists_settled {text : Text} (tidy : Tidy text) :
    ∃ segments, Settled segments ∧ lexemes segments = text := by
  generalize size : text.length = n
  induction n using Nat.strongRecOn generalizing text with
  | ind n ih =>
    cases text with
    | nil => exact ⟨[], trivial, rfl⟩
    | cons c text =>
      -- A directive is read as a whole if one begins here, and else one character.
      by_cases begins : ∃ kind, Begins kind (c :: text)
      · obtain ⟨kind, d, rest, spelled, -, whole⟩ := begins
        have behind : rest <:+ c :: text := ⟨d.source, whole.symm⟩
        have shorter : rest.length < n := by
          rw [← size, whole]
          exact spelled.length_lt rest
        obtain ⟨segments, settled, same⟩ := ih _ shorter (tidy.of_suffix behind) rfl
        exact ⟨.directive d :: segments, ⟨spelled, settled⟩, by rw [lexemes_cons, same, whole]; rfl⟩
      · have shorter : text.length < n := by rw [← size]; exact Nat.lt_succ_self _
        obtain ⟨segments, settled, same⟩ :=
          ih _ shorter (tidy.of_suffix (List.suffix_cons c text)) rfl
        have single : ∀ kind, ¬ Begins kind (c :: text) := fun kind here => begins ⟨kind, here⟩
        exact ⟨.char c :: segments, tidy.settled_char single settled same, by simp [same, Segment.lexeme]⟩

end TexFlat.Directive
