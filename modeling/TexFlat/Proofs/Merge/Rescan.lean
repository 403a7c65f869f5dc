import Mathlib.Data.List.Find
import TexFlat.Proofs.Directive.Reading
import TexFlat.Proofs.Merge.Expansion
import TexFlat.Proofs.Merge.Insertion

/-!
# Passes and one substitution

Over a tidy text the passes of a merge come to one substitution, as long as what they put in is
inert: `rescan_eq_atOnce`. After each pass the text is the one that was read with some of its
directives replaced, `fillFrom`, and this has the segments that one expects.
-/

namespace TexFlat.Merge

open Directive

variable {replace : Run → Directive → Text × Run} {edits more : List Edit} {segments : List Segment}
  {place : Nat} {kind : Kind}

/-! ### Places -/

theorem utf8Length_source_pos {d : Directive} (spelled : Spelled d) : 0 < Text.utf8Length d.source := by
  obtain ⟨tail, source, -⟩ := spelled.source_eq
  rw [source]
  exact Nat.lt_of_lt_of_le (Char.utf8Size_pos '\\') (Nat.le_add_right _ _)

theorem le_start_of_mem_occurrencesFrom {o : Occurrence} (h : o ∈ occurrencesFrom place segments) :
    place ≤ o.start := by
  induction segments generalizing place with
  | nil => exact absurd h List.not_mem_nil
  | cons s others ih =>
    cases s with
    | char c =>
      have later := ih h
      omega
    | directive d =>
      rcases List.mem_cons.mp h with rfl | h
      · exact Nat.le_refl place
      · have later := ih h
        omega

/-- No two directives begin at one place. -/
theorem eq_of_start_eq {o o' : Occurrence} (settled : Settled segments)
    (h : o ∈ occurrencesFrom place segments) (h' : o' ∈ occurrencesFrom place segments)
    (same : o.start = o'.start) : o = o' := by
  induction segments generalizing place with
  | nil => exact absurd h List.not_mem_nil
  | cons s others ih =>
    cases s with
    | char c => exact ih settled.2 h h'
    | directive d =>
      have filled := utf8Length_source_pos settled.1
      have apart {o : Occurrence} (later : o ∈ occurrencesFrom (place + Text.utf8Length d.source) others) :
          place < o.start := by
        have := le_start_of_mem_occurrencesFrom later
        omega
      rcases List.mem_cons.mp h with rfl | later
      · rcases List.mem_cons.mp h' with rfl | later'
        · rfl
        · exact absurd same (Nat.ne_of_lt (apart later'))
      · rcases List.mem_cons.mp h' with rfl | later'
        · exact absurd same (Nat.ne_of_gt (apart later))
        · exact ih settled.2 later later'

theorem spelled_of_mem_occurrencesFrom {o : Occurrence} (settled : Settled segments)
    (h : o ∈ occurrencesFrom place segments) : Spelled o.directive := by
  induction segments generalizing place with
  | nil => exact absurd h List.not_mem_nil
  | cons s others ih =>
    cases s with
    | char c => exact ih settled.2 h
    | directive d =>
      rcases List.mem_cons.mp h with rfl | h
      · exact settled.1
      · exact ih settled.2 h

/-! ### Edits -/

theorem substitutions_append (run : Run) (a b : List Occurrence) :
    substitutions replace run (a ++ b) =
      ((substitutions replace run a).1 ++ (substitutions replace (substitutions replace run a).2 b).1,
        (substitutions replace (substitutions replace run a).2 b).2) := by
  induction a generalizing run with
  | nil => rfl
  | cons o a ih => simp only [List.cons_append, substitutions, ih]

theorem exists_of_mem_substitutions {run : Run} {found : List Occurrence} {edit : Edit}
    (h : edit ∈ (substitutions replace run found).1) :
    ∃ o ∈ found, edit.start = o.start ∧ edit.stop = o.stop ∧
      ∃ run, edit.text = (replace run o.directive).1 := by
  induction found generalizing run with
  | nil => exact absurd h List.not_mem_nil
  | cons o found ih =>
    rcases List.mem_cons.mp h with rfl | h
    · exact ⟨o, List.mem_cons_self, rfl, rfl, run, rfl⟩
    · obtain ⟨o', member, rest⟩ := ih h
      exact ⟨o', List.mem_cons_of_mem o member, rest⟩

theorem exists_mem_substitutions {run : Run} {found : List Occurrence} {o : Occurrence} (h : o ∈ found) :
    ∃ edit ∈ (substitutions replace run found).1, edit.start = o.start ∧ edit.stop = o.stop := by
  induction found generalizing run with
  | nil => exact absurd h List.not_mem_nil
  | cons first found ih =>
    rcases List.mem_cons.mp h with rfl | h
    · exact ⟨_, List.mem_cons_self, rfl, rfl⟩
    · obtain ⟨edit, member, spans⟩ := @ih (replace run first.directive).2 h
      exact ⟨edit, List.mem_cons_of_mem _ member, spans⟩

/-! ### Segments with some directives replaced -/

/-- The segments from a place on, after the edits. -/
def fillFrom (edits : List Edit) : (place : Nat) → List Segment → List Segment
  | _, [] => []
  | place, .char c :: others => .char c :: fillFrom edits (place + c.utf8Size) others
  | place, .directive d :: others =>
    (match edits.find? (·.start = place) with
    | some edit => edit.text.map .char
    | none => [.directive d]) ++ fillFrom edits (place + Text.utf8Length d.source) others

theorem fillFrom_nil (place : Nat) (segments : List Segment) : fillFrom [] place segments = segments := by
  induction segments generalizing place with
  | nil => rfl
  | cons s others ih =>
    cases s with
    | char c => rw [fillFrom, ih]
    | directive d => rw [fillFrom, ih]; rfl

theorem fillFrom_congr {edits' : List Edit}
    (h : ∀ later, place ≤ later → edits.find? (·.start = later) = edits'.find? (·.start = later)) :
    fillFrom edits place segments = fillFrom edits' place segments := by
  induction segments generalizing place with
  | nil => rfl
  | cons s others ih =>
    cases s with
    | char c =>
      rw [fillFrom, fillFrom, ih fun later behind => h later (by omega)]
    | directive d =>
      rw [fillFrom, fillFrom, h place (Nat.le_refl place), ih fun later behind => h later (by omega)]

theorem fillFrom_of_none {d : Directive} (unfilled : edits.find? (·.start = place) = none) :
    fillFrom edits place (.directive d :: segments) =
      .directive d :: fillFrom edits (place + Text.utf8Length d.source) segments := by
  rw [fillFrom, unfilled]
  rfl

theorem fillFrom_of_some {d : Directive} {edit : Edit}
    (filled : edits.find? (·.start = place) = some edit) :
    fillFrom edits place (.directive d :: segments) =
      edit.text.map .char ++ fillFrom edits (place + Text.utf8Length d.source) segments := by
  rw [fillFrom, filled]

theorem splice_map_char (done text : Text) (run : Run) (others : List Segment) :
    splice replace done run (text.map .char ++ others) =
      splice replace (text.reverse ++ done) run others := by
  induction text generalizing done with
  | nil => rfl
  | cons c text ih =>
    rw [List.map_cons, List.cons_append, splice, ih, List.reverse_cons, List.append_assoc]
    rfl

theorem flatMap_only_map_char (kind : Kind) (text : Text) :
    (text.map Segment.char).flatMap (Segment.only kind) = text.map .char := by
  induction text with
  | nil => rfl
  | cons c text ih => rw [List.map_cons, List.flatMap_cons, ih]; rfl

theorem find?_substitutions_eq_none {run : Run} {found : List Occurrence}
    (later : ∀ o ∈ found, place < o.start) :
    (substitutions replace run found).1.find? (·.start = place) = none := by
  refine List.find?_eq_none.mpr fun edit member same => ?_
  obtain ⟨o, inside, start, -⟩ := exists_of_mem_substitutions member
  have behind := later o inside
  have here := of_decide_eq_true same
  omega

/-- A pass over segments in which the directives of its kind still stand replaces them. -/
theorem splice_fillFrom (settled : Settled segments) (done : Text) (run : Run)
    (free : ∀ o ∈ occurrencesFrom place segments, o.directive.kind = kind →
      edits.find? (·.start = o.start) = none) :
    splice replace done run ((fillFrom edits place segments).flatMap (Segment.only kind)) =
      let found := (occurrencesFrom place segments).filter (·.directive.kind = kind)
      (done.reverse ++ lexemes (fillFrom (edits ++ (substitutions replace run found).1) place segments),
        (substitutions replace run found).2) := by
  induction segments generalizing place done run with
  | nil => simp [fillFrom, splice, occurrencesFrom, substitutions]
  | cons s others ih =>
    cases s with
    | char c =>
      have rest := ih settled.2 (c :: done) run free
      simp only [fillFrom, List.flatMap_cons, Segment.only, List.singleton_append, splice, rest,
        occurrencesFrom, lexemes_cons, Segment.lexeme, List.reverse_cons, List.append_assoc]
    | directive d =>
      have filled := utf8Length_source_pos settled.1
      have behind : ∀ o ∈ occurrencesFrom (place + Text.utf8Length d.source) others, place < o.start := by
        intro o member
        have := le_start_of_mem_occurrencesFrom member
        omega
      have rest (done : Text) (run : Run) := @ih (place + Text.utf8Length d.source) settled.2
        done run fun o member => free o (List.mem_cons_of_mem _ member)
      by_cases same : d.kind = kind
      · -- The edit of this directive begins in front of all that is behind it, which does not see it.
        have unfilled := free _ List.mem_cons_self same
        have kept (more : List Edit) (edit : Edit) (here : edit.start = place) :
            fillFrom (edits ++ edit :: more) (place + Text.utf8Length d.source) others =
              fillFrom (edits ++ more) (place + Text.utf8Length d.source) others := by
          refine fillFrom_congr fun later further => ?_
          have apart : ¬ edit.start = later := by omega
          simp [apart]
        have first (more : List Edit) (edit : Edit) (here : edit.start = place) :
            (edits ++ edit :: more).find? (·.start = place) = some edit := by
          simp [List.find?_append, show edits.find? (·.start = place) = none from unfilled, here]
        rw [fillFrom_of_none unfilled, List.flatMap_cons]
        simp only [Segment.only, same, if_true, List.singleton_append, splice, rest, occurrencesFrom,
          List.filter_cons, decide_true, substitutions]
        rw [fillFrom_of_some (first _ _ rfl), kept _ _ rfl]
        simp
      · have other : (substitutions replace run ((occurrencesFrom
            (place + Text.utf8Length d.source) others).filter (·.directive.kind = kind))).1.find?
              (·.start = place) = none :=
          find?_substitutions_eq_none fun o member => behind o (List.mem_filter.mp member).1
        simp only [occurrencesFrom, List.filter_cons, same, decide_false, Bool.false_eq_true, if_false]
        cases before : edits.find? (·.start = place) with
        | none =>
          rw [fillFrom_of_none before, fillFrom_of_none (by rw [List.find?_append, before, other]; rfl),
            List.flatMap_cons, Segment.only, if_neg same, splice_map_char, rest]
          simp [Segment.lexeme]
        | some edit =>
          rw [fillFrom_of_some before, fillFrom_of_some (by rw [List.find?_append, before]; rfl),
            List.flatMap_append, flatMap_only_map_char, splice_map_char, rest]
          simp

/-! ### Inert replacements -/

theorem front_map_char_append (text : Text) (segments : List Segment) :
    front (text.map .char ++ segments) = text ++ front segments := by
  induction text with
  | nil => rfl
  | cons c text ih => rw [List.map_cons, List.cons_append, front, ih]; rfl

theorem settled_map_char_append {text : Text} (closed : ∀ kind, Closed kind text)
    (settled : Settled segments) : Settled (text.map .char ++ segments) := by
  induction text with
  | nil => exact settled
  | cons c text ih =>
    refine ⟨fun kind more _ => ?_, ih fun kind rest behind => closed kind rest
      (behind.trans (List.suffix_cons c text))⟩
    show at? kind (c :: (front (text.map .char ++ segments) ++ more)) = none
    rw [front_map_char_append, List.append_assoc]
    exact closed kind (c :: text) (List.suffix_refl _) (List.cons_ne_nil c text) _ trivial

/-- Inert texts in the place of directives leave settled segments settled: what stood before a
directive still ends at a text that starts with no letter. -/
theorem settled_fillFrom (settled : Settled segments) (inert : ∀ edit ∈ edits, Inert edit.text) :
    Settled (fillFrom edits place segments) ∧
      ∃ more, Parted more ∧ front (fillFrom edits place segments) = front segments ++ more := by
  induction segments generalizing place with
  | nil => exact ⟨trivial, [], nofun, rfl⟩
  | cons s others ih =>
    cases s with
    | char c =>
      obtain ⟨rest, more, parted, same⟩ := @ih (place + c.utf8Size) settled.2
      refine ⟨⟨fun kind behind parted' => ?_, rest⟩, more, parted, by rw [fillFrom, front, same]; rfl⟩
      -- What stood between here and the next directive is followed by the text that replaces it.
      have both : Parted (more ++ behind) := by
        cases more with
        | nil => exact parted'
        | cons c more => exact parted_cons (parted c rfl)
      rw [same, List.append_assoc]
      exact settled.1 kind (more ++ behind) both
    | directive d =>
      obtain ⟨rest, -⟩ := @ih (place + Text.utf8Length d.source) settled.2
      cases found : edits.find? (·.start = place) with
      | none =>
        rw [fillFrom_of_none found]
        exact ⟨⟨settled.1, rest⟩, [], nofun, rfl⟩
      | some edit =>
        have replaced := inert edit (List.mem_of_find?_eq_some found)
        obtain ⟨c, text, whole, sign⟩ := replaced.starts
        rw [fillFrom_of_some found]
        refine ⟨settled_map_char_append replaced.closed rest,
          _, ?_, (List.nil_append _).symm⟩
        rw [whole]
        exact parted_cons sign

theorem quiet_of_settled {text : Text} (settled : Settled (text.map .char)) : Quiet text := by
  intro kind
  induction text with
  | nil => exact fun rest behind filled => absurd (List.suffix_nil.mp behind) filled
  | cons c text ih =>
    intro rest behind filled more parted
    rcases suffix_cons_cases behind with rfl | behind
    · have whole : front (text.map .char) = text := by simpa [front] using front_map_char_append text []
      have silent := settled.1 kind more parted
      rwa [whole] at silent
    · exact ih settled.2 rest behind filled more parted

theorem exists_find?_start {start : Nat} (h : ∃ edit ∈ edits, edit.start = start) :
    ∃ edit, edits.find? (·.start = start) = some edit := by
  obtain ⟨edit, member, begins⟩ := h
  exact Option.isSome_iff_exists.mp (List.find?_isSome.mpr ⟨edit, member, decide_eq_true begins⟩)

theorem exists_fillFrom_eq (filled : ∀ o ∈ occurrencesFrom place segments,
    ∃ edit ∈ edits, edit.start = o.start) :
    ∃ text : Text, fillFrom edits place segments = text.map .char := by
  induction segments generalizing place with
  | nil => exact ⟨[], rfl⟩
  | cons s others ih =>
    cases s with
    | char c =>
      obtain ⟨text, same⟩ := @ih (place + c.utf8Size) filled
      exact ⟨c :: text, by rw [fillFrom, same]; rfl⟩
    | directive d =>
      obtain ⟨text, same⟩ := ih fun o member => filled o (List.mem_cons_of_mem _ member)
      obtain ⟨edit, found⟩ := exists_find?_start (filled _ List.mem_cons_self)
      exact ⟨edit.text ++ text, by rw [fillFrom_of_some found, same, List.map_append]⟩

/-! ### One substitution -/

theorem rewrite_covered {text : Text} (rest : Text)
    (covered : ∀ later, place ≤ later → later < place + Text.utf8Length text → ∃ edit,
      edits.find? (fun edit => edit.start ≤ later ∧ later < edit.stop) = some edit ∧ edit.start < place) :
    rewrite edits place (text ++ rest) = rewrite edits (place + Text.utf8Length text) rest := by
  induction text generalizing place with
  | nil => rfl
  | cons c text ih =>
    have size : Text.utf8Length (c :: text) = c.utf8Size + Text.utf8Length text := rfl
    have filled := Char.utf8Size_pos c
    obtain ⟨edit, found, before⟩ := covered place (Nat.le_refl place) (by omega)
    have inner := @ih (place + c.utf8Size) fun later behind within => by
      obtain ⟨edit, found, before⟩ := covered later (by omega) (by omega)
      exact ⟨edit, found, by omega⟩
    simp only [List.cons_append, rewrite, found, inner, Nat.ne_of_lt before, if_false, size,
      Nat.add_assoc]

/-- An edit ends before the place, or is one of a directive behind it. -/
def Behind (edits : List Edit) (place : Nat) (segments : List Segment) : Prop :=
  ∀ edit ∈ edits, (edit.start < place ∧ edit.stop ≤ place) ∨
    ∃ o ∈ occurrencesFrom place segments, edit.start = o.start ∧ edit.stop = o.stop

theorem Behind.of_char {c : Char} (behind : Behind edits place (.char c :: segments)) :
    Behind edits (place + c.utf8Size) segments := by
  intro edit member
  rcases behind edit member with before | later
  · exact .inl (by omega)
  · exact .inr later

theorem Behind.of_directive {d : Directive} (spelled : Spelled d)
    (behind : Behind edits place (.directive d :: segments)) :
    Behind edits (place + Text.utf8Length d.source) segments := by
  intro edit member
  have size := utf8Length_source_pos spelled
  rcases behind edit member with before | ⟨o, inside, start, stop⟩
  · exact .inl (by omega)
  · rcases List.mem_cons.mp inside with rfl | inside
    · have start : edit.start = place := start
      have stop : edit.stop = place + Text.utf8Length d.source := stop
      exact .inl (by omega)
    · exact .inr ⟨o, inside, start, stop⟩

theorem Behind.find?_char {c : Char} (behind : Behind edits place (.char c :: segments)) :
    edits.find? (fun edit => edit.start ≤ place ∧ place < edit.stop) = none := by
  refine List.find?_eq_none.mpr fun edit member within => ?_
  have size := Char.utf8Size_pos c
  have within := of_decide_eq_true within
  rcases behind edit member with before | ⟨o, inside, start, -⟩
  · omega
  · have later : place + c.utf8Size ≤ o.start := le_start_of_mem_occurrencesFrom inside
    omega

theorem Behind.find?_directive {d : Directive} {later : Nat}
    (behind : Behind edits place (.directive d :: segments)) (further : place ≤ later)
    (short : later < place + Text.utf8Length d.source) :
    edits.find? (fun edit => edit.start ≤ later ∧ later < edit.stop) =
      edits.find? (·.start = place) := by
  refine List.find?_congr fun edit member => decide_eq_decide.mpr ?_
  rcases behind edit member with before | ⟨o, inside, start, stop⟩
  · omega
  · rcases List.mem_cons.mp inside with rfl | inside
    · have start : edit.start = place := start
      have stop : edit.stop = place + Text.utf8Length d.source := stop
      omega
    · have beyond := le_start_of_mem_occurrencesFrom inside
      omega

/-- To make all edits at once is to replace the directives where they stand. -/
theorem rewrite_lexemes (settled : Settled segments) (behind : Behind edits place segments)
    (filled : ∀ o ∈ occurrencesFrom place segments, ∃ edit ∈ edits, edit.start = o.start) :
    rewrite edits place (lexemes segments) = lexemes (fillFrom edits place segments) := by
  induction segments generalizing place with
  | nil => rfl
  | cons s others ih =>
    cases s with
    | char c =>
      have rest := ih settled.2 behind.of_char filled
      show rewrite edits place (c :: lexemes others) = _
      rw [rewrite, behind.find?_char, rest]
      rfl
    | directive d =>
      obtain ⟨edit, found⟩ := exists_find?_start (filled _ List.mem_cons_self)
      have start : edit.start = place := by simpa using List.find?_some found
      have rest := ih settled.2 (behind.of_directive settled.1) fun o member =>
        filled o (List.mem_cons_of_mem _ member)
      obtain ⟨tail, source, -⟩ := settled.1.source_eq
      have size := Char.utf8Size_pos '\\'
      have length : Text.utf8Length d.source =
          Char.utf8Size '\\' + Text.utf8Length (d.kind.word ++ tail) := by
        rw [source]
        rfl
      have covered : rewrite edits (place + Char.utf8Size '\\') (d.kind.word ++ tail ++ lexemes others) =
          rewrite edits (place + Text.utf8Length d.source) (lexemes others) := by
        rw [length, ← Nat.add_assoc]
        refine rewrite_covered _ fun later further short => ⟨edit, ?_, by omega⟩
        exact (behind.find?_directive (by omega) (by omega)).trans found
      rw [fillFrom_of_some found, lexemes_append, lexemes_map_char, ← rest, ← covered, lexemes_cons,
        show (Segment.directive d).lexeme = '\\' :: (d.kind.word ++ tail) from source, List.cons_append,
        rewrite, behind.find?_directive (Nat.le_refl place) (by omega), found]
      exact if_pos start

/-! ### The passes -/

theorem mem_scan_lexemes {o : Occurrence} (settled : Settled segments) :
    o ∈ scan (lexemes segments) kind ↔ o ∈ occurrencesFrom 0 segments ∧ o.directive.kind = kind := by
  rw [scan_lexemes settled, List.mem_filter, decide_eq_true_eq]

theorem inert_of_mem_substitutions {run : Run} {found : List Occurrence} {edit : Edit}
    (inert : ∀ run d, Spelled d → Inert (replace run d).1)
    (spelled : ∀ o ∈ found, Spelled o.directive) (h : edit ∈ (substitutions replace run found).1) :
    Inert edit.text := by
  obtain ⟨o, member, -, -, run, same⟩ := exists_of_mem_substitutions h
  rw [same]
  exact inert run o.directive (spelled o member)

theorem foldl_pass (settled : Settled segments) (inert : ∀ run d, Spelled d → Inert (replace run d).1)
    {kinds : List Kind} (distinct : kinds.Nodup) (run : Run) (done : ∀ edit ∈ edits, Inert edit.text)
    (free : ∀ edit ∈ edits, ∀ o ∈ occurrencesFrom 0 segments, o.directive.kind ∈ kinds →
      edit.start ≠ o.start) :
    kinds.foldl (pass replace) (lexemes (fillFrom edits 0 segments), run) =
      let made := substitutions replace run (kinds.flatMap (scan (lexemes segments)))
      (lexemes (fillFrom (edits ++ made.1) 0 segments), made.2) := by
  induction kinds generalizing edits run with
  | nil => simp [substitutions]
  | cons kind kinds ih =>
    obtain ⟨new, distinct⟩ := List.nodup_cons.mp distinct
    have unfilled : ∀ o ∈ occurrencesFrom 0 segments, o.directive.kind = kind →
        edits.find? (·.start = o.start) = none := by
      intro o member same
      refine List.find?_eq_none.mpr fun edit inside start => ?_
      exact free edit inside o member (same ▸ List.mem_cons_self) (of_decide_eq_true start)
    have first : pass replace (lexemes (fillFrom edits 0 segments), run) kind =
        (lexemes (fillFrom (edits ++ (substitutions replace run
            (scan (lexemes segments) kind)).1) 0 segments),
          (substitutions replace run (scan (lexemes segments) kind)).2) := by
      rw [pass, segments_lexemes (settled_fillFrom settled done).1, splice_fillFrom settled [] run unfilled,
        scan_lexemes settled]
      rfl
    have done' : ∀ edit ∈ edits ++ (substitutions replace run (scan (lexemes segments) kind)).1,
        Inert edit.text := by
      intro edit member
      rcases List.mem_append.mp member with member | member
      · exact done edit member
      · refine inert_of_mem_substitutions inert (fun o inside => ?_) member
        exact spelled_of_mem_occurrencesFrom settled ((mem_scan_lexemes settled).mp inside).1
    -- A directive of a later kind is none of those just replaced, so it begins somewhere else.
    have free' : ∀ edit ∈ edits ++ (substitutions replace run (scan (lexemes segments) kind)).1,
        ∀ o ∈ occurrencesFrom 0 segments, o.directive.kind ∈ kinds → edit.start ≠ o.start := by
      intro edit member o inside later start
      rcases List.mem_append.mp member with member | member
      · exact free edit member o inside (List.mem_cons_of_mem kind later) start
      · obtain ⟨own, found, begins, -⟩ := exists_of_mem_substitutions member
        obtain ⟨found, same⟩ := (mem_scan_lexemes settled).mp found
        obtain rfl := eq_of_start_eq settled found inside (begins.symm.trans start)
        exact new (same ▸ later)
    rw [List.foldl_cons, first, ih distinct _ done' free', List.flatMap_cons, substitutions_append]
    simp only [List.append_assoc]

theorem mem_flatMap_scan {o : Occurrence} (settled : Settled segments) :
    o ∈ Kind.passes.flatMap (scan (lexemes segments)) ↔ o ∈ occurrencesFrom 0 segments := by
  simp only [List.mem_flatMap, mem_scan_lexemes settled]
  constructor
  · rintro ⟨_, -, member, -⟩
    exact member
  · exact fun member => ⟨o.directive.kind, by cases o.directive.kind <;> decide, member, rfl⟩

/-- What is to be done to a text at once, and the run after the directives of all kinds. -/
abbrev editsOf (replace : Run → Directive → Text × Run) (run : Run) (text : Text) : List Edit × Run :=
  substitutions replace run (Kind.passes.flatMap (scan text))

theorem exists_edit_of_mem (settled : Settled segments) (replace : Run → Directive → Text × Run) (run : Run)
    {o : Occurrence} (h : o ∈ occurrencesFrom 0 segments) :
    ∃ edit ∈ (editsOf replace run (lexemes segments)).1, edit.start = o.start := by
  obtain ⟨edit, inside, start, -⟩ := exists_mem_substitutions ((mem_flatMap_scan settled).mpr h)
  exact ⟨edit, inside, start⟩

theorem atOnce_lexemes (settled : Settled segments) (replace : Run → Directive → Text × Run) (run : Run) :
    atOnce replace run (lexemes segments) =
      (lexemes (fillFrom (editsOf replace run (lexemes segments)).1 0 segments),
        (editsOf replace run (lexemes segments)).2) := by
  have behind : Behind (editsOf replace run (lexemes segments)).1 0 segments := by
    intro edit member
    obtain ⟨o, inside, start, stop, -⟩ := exists_of_mem_substitutions member
    exact .inr ⟨o, (mem_flatMap_scan settled).mp inside, start, stop⟩
  rw [← rewrite_lexemes settled behind fun o => exists_edit_of_mem settled replace run]
  rfl

/-- Over a tidy text the passes come to one substitution, and what they leave is quiet. -/
theorem rescan_eq_atOnce {text : Text} (tidy : Tidy text)
    (inert : ∀ run d, Spelled d → Inert (replace run d).1) (run : Run) :
    rescan replace run text = atOnce replace run text ∧ Quiet (atOnce replace run text).1 := by
  obtain ⟨segments, settled, rfl⟩ := tidy.exists_settled
  have passes := foldl_pass settled inert (show Kind.passes.Nodup by decide) run
    (List.forall_mem_nil _) (List.forall_mem_nil _)
  simp only [fillFrom_nil, List.nil_append] at passes
  have once := atOnce_lexemes settled replace run
  refine ⟨passes.trans once.symm, ?_⟩
  -- No directive is left, and characters in which none begins are a quiet text.
  obtain ⟨text, chars⟩ := exists_fillFrom_eq fun o => exists_edit_of_mem settled replace run
  have settled' : Settled (text.map .char) := by
    rw [← chars]
    refine (settled_fillFrom settled fun edit member => ?_).1
    exact inert_of_mem_substitutions inert (fun o inside =>
      spelled_of_mem_occurrencesFrom settled ((mem_flatMap_scan settled).mp inside)) member
  rw [once, chars, lexemes_map_char]
  exact quiet_of_settled settled'

end TexFlat.Merge
