import TexFlat.Proofs.Directive.Finding
import TexFlat.Proofs.Text.Slice

/-!
# The grammar of directives

The forms of a directive, and what it is that a scan is to find in a text: from the place where the last
directive ended, the first one that begins, and so on until none begins any more. `scan_eq_iff_leftmost`
says that a scan finds this and nothing else.
-/

namespace TexFlat

namespace Directive

variable {kind : Kind} {text rest : Text} {d d' : Directive} {place : Nat} {found found' : List Occurrence}

/-- The forms of a directive with the text `rest` behind it. A bare name is as long as it can be; what
is in braces ends at the first closing one, whatever is behind it. -/
inductive Formed (rest : Text) : Directive → Prop
  | bracedInput {blanks name : Text} : Blank blanks → Argument name →
    Formed rest
      { kind := .inputFile
        source := command .inputFile ++ (blanks ++ braced name)
        directory := none
        name := clean name }
  | bareInput {blanks name : Text} : Blank blanks → name ≠ [] → (∀ c ∈ name, isBare c = true) →
    (∀ c, rest.head? = some c → isBare c = false) →
    Formed rest
      { kind := .inputFile
        source := command .inputFile ++ (blanks ++ name)
        directory := none
        name := clean name }
  | bracketed {d : Directive} : Bracketed d → Formed rest d

/-! ### Reading one directive -/

theorem spaced?_eq_some {argument? : Text → Option Stretch} {s : Stretch}
    (h : spaced? argument? text = some s) : ∃ blanks behind inner, Blank blanks ∧
      text = blanks ++ behind ∧ argument? behind = some inner ∧ s.source = blanks ++ inner.source ∧
      s.value = inner.value ∧ s.rest = inner.rest := by
  obtain ⟨inner, read, rfl⟩ := Option.map_eq_some_iff.mp h
  refine ⟨text.takeWhile Text.isBlank, text.dropWhile Text.isBlank, inner, ?_, ?_, read, rfl, rfl, rfl⟩
  · intro c member
    exact List.mem_takeWhile_imp member
  · exact List.takeWhile_append_dropWhile.symm

/-- The longest bare name at the front of a text. -/
theorem formed_takeWhile_isBare {blanks : Text} (blank : Blank blanks) (filled : text.takeWhile isBare ≠ []) :
    Formed (text.dropWhile isBare)
      { kind := .inputFile
        source := command .inputFile ++ (blanks ++ text.takeWhile isBare)
        directory := none
        name := clean (text.takeWhile isBare) } := by
  refine .bareInput blank filled ?_ ?_
  · intro c member
    exact List.mem_takeWhile_imp member
  · intro c first
    have stops := List.head?_dropWhile_not isBare text
    rw [first] at stops
    simpa using stops

theorem formed_of_inputAt? (h : inputAt? text = some d) : ∃ rest, text = d.source ++ rest ∧ Formed rest d := by
  simp only [inputAt?, Option.bind_eq_bind, Option.bind_eq_some_iff, Option.some.injEq] at h
  obtain ⟨behind, after, s, read, rfl⟩ := h
  obtain ⟨blanks, argument, inner, blank, rfl, named, source, value, -⟩ := spaced?_eq_some read
  rw [Text.after?_eq_some_iff.mp after, source, value]
  unfold bracedOrBare? at named
  split at named
  · rename_i s braces
    obtain rfl := Option.some.inj named
    obtain ⟨filled, same⟩ := braced?_eq_some braces
    refine ⟨s.rest, ?_, ?_⟩
    · simp only [List.append_assoc, source_append_of_braced? braces]
    · rw [same]
      exact .bracedInput blank filled
  · have cut := source_append_of_bare? named
    simp only [bare?] at named
    split at named
    · simp at named
    · rename_i filled
      obtain rfl := Option.some.inj named
      exact ⟨argument.dropWhile isBare, by simp only [List.append_assoc, cut],
        formed_takeWhile_isBare blank filled⟩

theorem isBlank_eq_false_of_isBare {c : Char} (h : isBare c = true) : Text.isBlank c = false := by
  simp only [isBare, Bool.and_eq_true, Bool.not_eq_true'] at h
  exact h.1

theorem inputAt?_bare {blanks name : Text} (blank : Blank blanks) (filled : name ≠ [])
    (bare : ∀ c ∈ name, isBare c = true) (ends : ∀ c, rest.head? = some c → isBare c = false) :
    inputAt? (command .inputFile ++ (blanks ++ name) ++ rest) = some
      { kind := .inputFile
        source := command .inputFile ++ (blanks ++ name)
        directory := none
        name := clean name } := by
  obtain ⟨c, more, rfl⟩ := List.exists_cons_of_ne_nil filled
  have first := bare c List.mem_cons_self
  have stops : ∀ b, (c :: more ++ rest).head? = some b → Text.isBlank b = false := by
    intro b same
    obtain rfl := Option.some.inj same
    exact isBlank_eq_false_of_isBare first
  have unbraced : braced? (c :: more ++ rest) = none := by
    apply braced?_eq_none_of_ne
    rintro rfl
    simp [isBare] at first
  have word : bare? (c :: more ++ rest) = some ⟨c :: more, c :: more, rest⟩ := by
    rw [bare?, takeWhile_append_of_head bare ends, dropWhile_append_of_head bare ends]
    simp
  have read : spaced? bracedOrBare? (blanks ++ (c :: more ++ rest)) =
      some ⟨blanks ++ c :: more, c :: more, rest⟩ := by
    rw [spaced?, takeWhile_append_of_head blank stops, dropWhile_append_of_head blank stops, bracedOrBare?,
      unbraced, word]
    rfl
  simp only [inputAt?, List.append_assoc, after?_append, read, Option.bind_eq_bind, Option.bind_some]

theorem inputAt?_braced {blanks name : Text} (blank : Blank blanks) (argument : Argument name) :
    inputAt? (command .inputFile ++ (blanks ++ braced name) ++ rest) = some
      { kind := .inputFile
        source := command .inputFile ++ (blanks ++ braced name)
        directory := none
        name := clean name } := by
  have read : bracedOrBare? (braced name ++ rest) = some ⟨braced name, name, rest⟩ := by
    rw [bracedOrBare?, braced?_braced argument]
  simp only [inputAt?, List.append_assoc, after?_append, spaced?_blanks blank read, Option.bind_eq_bind,
    Option.bind_some]

theorem Formed.at?_eq (formed : Formed rest d) : at? d.kind (d.source ++ rest) = some d := by
  cases formed with
  | bracedInput blank argument => exact inputAt?_braced blank argument
  | bareInput blank filled bare ends => exact inputAt?_bare blank filled bare ends
  | bracketed bracketed => exact bracketed.at?_eq rest

/-- A directive is read from the front of a text exactly if the text begins with one of the grammar. -/
theorem at?_eq_some_iff :
    at? kind text = some d ↔ d.kind = kind ∧ ∃ rest, text = d.source ++ rest ∧ Formed rest d := by
  constructor
  · intro h
    refine ⟨(kind_of_at? h).1, ?_⟩
    by_cases input : kind = .inputFile
    · subst input
      exact formed_of_inputAt? h
    · obtain ⟨rest, whole⟩ := source_append_of_at? h
      exact ⟨rest, whole.symm, .bracketed (bracketed_of_at? input h)⟩
  · rintro ⟨rfl, rest, rfl, formed⟩
    exact formed.at?_eq

/-! ### What a scan is to find -/

/-- A directive of the kind stands in the text and begins at the byte `place`. -/
def BeginsAt (text : Text) (kind : Kind) (place : Nat) (d : Directive) : Prop :=
  ∃ before rest, text = before ++ (d.source ++ rest) ∧ Text.utf8Length before = place ∧
    d.kind = kind ∧ Formed rest d

/-- Directives from the byte `place` on. The next one is the first that begins there or later, and the
others are sought from its end on. -/
inductive Leftmost (text : Text) (kind : Kind) : (place : Nat) → List Occurrence → Prop
  | none {place : Nat} : (∀ later d, place ≤ later → ¬ BeginsAt text kind later d) →
    Leftmost text kind place []
  | next {place : Nat} {o : Occurrence} {others : List Occurrence} : place ≤ o.start →
    BeginsAt text kind o.start o.directive → o.stop = o.start + Text.utf8Length o.directive.source →
    (∀ between d, place ≤ between → between < o.start → ¬ BeginsAt text kind between d) →
    Leftmost text kind o.stop others → Leftmost text kind place (o :: others)

theorem BeginsAt.unique (begins : BeginsAt text kind place d) (begins' : BeginsAt text kind place d') :
    d = d' := by
  obtain ⟨before, rest, rfl, rfl, rfl, formed⟩ := begins
  obtain ⟨before', rest', whole, same, kinds, formed'⟩ := begins'
  obtain ⟨-, behind⟩ := Text.append_inj_of_utf8Length_eq whole same.symm
  have read := formed.at?_eq
  rw [behind, ← kinds, formed'.at?_eq] at read
  exact (Option.some.inj read).symm

theorem Leftmost.unique (leftmost : Leftmost text kind place found)
    (leftmost' : Leftmost text kind place found') : found = found' := by
  induction leftmost generalizing found' with
  | none nothing =>
    cases leftmost' with
    | none => rfl
    | next behind begins => exact absurd begins (nothing _ _ behind)
  | @next place o others behind begins stop first _ ih =>
    cases leftmost' with
    | none nothing => exact absurd begins (nothing _ _ behind)
    | @next _ o' others' behind' begins' stop' first' rest' =>
      have start : o.start = o'.start := by
        rcases Nat.lt_trichotomy o.start o'.start with sooner | same | later
        · exact absurd begins (first' _ _ behind sooner)
        · exact same
        · exact absurd begins' (first _ _ behind' later)
      have directive : o.directive = o'.directive := begins.unique (start ▸ begins')
      have same : o = o' := by
        cases o
        cases o'
        simp_all
      subst same
      rw [ih rest']

theorem Leftmost.beginsAt (leftmost : Leftmost text kind place found) {o : Occurrence} (h : o ∈ found) :
    BeginsAt text kind o.start o.directive := by
  induction leftmost with
  | none => exact absurd h List.not_mem_nil
  | next _ begins _ _ _ ih =>
    rcases List.mem_cons.mp h with rfl | h
    · exact begins
    · exact ih h

/-- Every directive of the text begins within one that was found. -/
theorem Leftmost.covers (leftmost : Leftmost text kind place found) {later : Nat} (behind : place ≤ later)
    (begins : BeginsAt text kind later d) : ∃ o ∈ found, o.start ≤ later ∧ later < o.stop := by
  induction leftmost with
  | none nothing => exact absurd begins (nothing later d behind)
  | @next place o others _ _ _ first _ ih =>
    by_cases sooner : later < o.start
    · exact absurd begins (first later d behind sooner)
    · by_cases within : later < o.stop
      · exact ⟨o, List.mem_cons_self, by omega, within⟩
      · obtain ⟨other, member, spans⟩ := ih (by omega)
        exact ⟨other, List.mem_cons_of_mem o member, spans⟩

theorem Leftmost.sooner {later : Nat} (leftmost : Leftmost text kind later found) (order : place ≤ later)
    (nothing : ∀ between d, place ≤ between → between < later → ¬ BeginsAt text kind between d) :
    Leftmost text kind place found := by
  cases leftmost with
  | none none =>
    refine .none fun between d behind begins => ?_
    by_cases sooner : between < later
    · exact nothing between d behind sooner begins
    · exact none between d (by omega) begins
  | next behind begins stop first rest =>
    refine .next (by omega) begins stop (fun between d after before begins => ?_) rest
    by_cases sooner : between < later
    · exact nothing between d after sooner begins
    · exact first between d (by omega) before begins

/-! ### What a scan finds -/

/-- A directive that begins behind a cut begins in the text behind it. -/
theorem BeginsAt.behind {before : Text} (begins : BeginsAt (before ++ text) kind place d)
    (order : Text.utf8Length before ≤ place) : ∃ between rest, text = between ++ (d.source ++ rest) ∧
      Text.utf8Length before + Text.utf8Length between = place ∧ at? kind (d.source ++ rest) = some d := by
  obtain ⟨front, rest, whole, rfl, rfl, formed⟩ := begins
  obtain ⟨between, rfl, behind⟩ := Text.exists_append_of_utf8Length_le whole order
  exact ⟨between, rest, behind, (Text.utf8Length_append before between).symm, formed.at?_eq⟩

theorem leftmost_segments (kind : Kind) (before text : Text) :
    Leftmost (before ++ text) kind (Text.utf8Length before)
      (occurrencesFrom (Text.utf8Length before) (segments kind text)) := by
  induction text using segments_induction kind generalizing before with
  | nil =>
    refine .none fun later d order begins => ?_
    obtain ⟨between, rest, whole, -, read⟩ := begins.behind order
    have empty : d.source = [] := by
      have both := (List.append_eq_nil_iff.mp whole.symm).2
      exact (List.append_eq_nil_iff.mp both).1
    exact source_ne_nil_of_at? read empty
  | char c text none ih =>
    rw [segments_cons none, occurrencesFrom]
    have rest := ih (before ++ [c])
    have size : Text.utf8Length (before ++ [c]) = Text.utf8Length before + c.utf8Size := by
      rw [Text.utf8Length_append]
      rfl
    rw [size, List.append_assoc, List.singleton_append] at rest
    refine rest.sooner (Nat.le_add_right _ _) fun place d order short begins => ?_
    obtain ⟨between, rest, whole, rfl, read⟩ := begins.behind order
    -- A place before the end of the character is that of the character itself.
    cases between with
    | nil =>
      rw [whole, List.nil_append, read] at none
      exact absurd none nofun
    | cons b between =>
      obtain ⟨rfl, -⟩ := List.cons.inj whole
      rw [Text.utf8Length_cons] at short
      omega
  | directive d rest read ih =>
    rw [segments_of_at? read rfl, occurrencesFrom]
    have others := ih (before ++ d.source)
    rw [Text.utf8Length_append, List.append_assoc] at others
    obtain ⟨kinds, rest', whole, formed⟩ := at?_eq_some_iff.mp read
    refine .next (Nat.le_refl _) ⟨before, rest', by rw [whole], rfl, kinds, formed⟩ rfl ?_ others
    intro between _ order short
    exact absurd short (Nat.not_lt.mpr order)

theorem leftmost_scan (text : Text) (kind : Kind) : Leftmost text kind 0 (scan text kind) :=
  leftmost_segments kind [] text

/-- A scan finds the directives of the grammar: from the end of the last one the first that begins, and
no other. -/
theorem scan_eq_iff_leftmost (text : Text) (kind : Kind) (found : List Occurrence) :
    scan text kind = found ↔ Leftmost text kind 0 found := by
  constructor
  · rintro rfl
    exact leftmost_scan text kind
  · exact (leftmost_scan text kind).unique

/-- The first command has no second argument, and the second one begins inside what would be that. -/
example : (scan "é\\import\x7ba\x7d\\import\x7bb\x7d\u2003\x7b c \x7d".toList .importFile).map
    (fun o => (o.start, o.stop, o.directive.reference)) = [(12, 30, "b/c".toList)] := by decide +kernel

end Directive
end TexFlat
