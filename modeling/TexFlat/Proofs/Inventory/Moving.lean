import Mathlib.Data.List.Forall2
import TexFlat.Proofs.Inventory.Walk
import TexFlat.Proofs.Path.Letters

/-!
# A project that moves

When all documents of a store lie below one directory and refer to each other without leaving it, the
directory can be moved: an inventory of the moved store is the inventory as it was, with its paths moved.
What a run asks the store is answered alike (`resolve?_moved`), so the two runs go the same way
(`moves_visit`).
-/

namespace TexFlat

/-! ### Local references -/

theorem Text.mem_pieces_append {separator : Char} {text ending piece : Text} (clear : separator ∉ ending)
    (member : piece ∈ pieces separator (text ++ ending)) :
    piece ∈ pieces separator text ∨ ∃ front, piece = front ++ ending := by
  by_cases cut : separator ∈ text
  · obtain ⟨back, front, split, absent⟩ := List.eq_append_cons_of_mem (List.mem_reverse.mpr cut)
    have whole : text = front.reverse ++ separator :: back.reverse := by
      rw [← List.reverse_reverse text, split]
      simp
    have last : separator ∉ back.reverse ++ ending :=
      List.not_mem_append (fun inside => absent (List.mem_reverse.mp inside)) clear
    rw [whole, List.append_assoc, List.cons_append, pieces_append, pieces_of_not_mem last,
      List.mem_append] at member
    rw [whole, pieces_append, List.mem_append]
    rcases member with before | behind
    · exact .inl (.inl before)
    · exact .inr ⟨_, List.mem_singleton.mp behind⟩
  · rw [pieces_of_not_mem (List.not_mem_append cut clear)] at member
    exact .inr ⟨text, List.mem_singleton.mp member⟩

namespace Path

variable {path top : Path}

/-- A path that stays below the directory it is seen from. -/
def IsLocal (path : Path) : Prop := path.isAbsolute = false ∧ .up ∉ path.components

theorem IsLocal.isName (stays : path.IsLocal) : ∀ c ∈ path.steps, c.IsName := by
  intro c member
  have step := isStep_of_mem_steps member
  refine ⟨step, ?_⟩
  cases c with
  | root => exact absurd List.mem_cons_self step.2
  | here => exact absurd step.1 nofun
  | up => exact absurd (List.mem_append_right _ member) stays.2
  | name text => exact ⟨text, rfl⟩

/-- With the extension of a document a local path is still local. -/
theorem IsLocal.extended {name : Text} (stays : IsLocal ⟨name⟩) : IsLocal ⟨name ++ ".tex".toList⟩ := by
  constructor
  · cases name with
    | nil => decide
    | cons c name => exact stays.1
  · intro climbs
    rcases List.mem_append.mp climbs with front | step
    · rcases lead_cases ⟨name ++ ".tex".toList⟩ with lead | lead | lead
      all_goals rw [lead] at front
      · exact absurd front List.not_mem_nil
      · exact absurd (List.mem_singleton.mp front) nofun
      · exact absurd (List.mem_singleton.mp front) nofun
    · obtain ⟨piece, member, read⟩ := List.mem_filterMap.mp step
      have clear : '/' ∉ ".tex".toList := by decide
      rcases Text.mem_pieces_append clear member with before | ⟨front, spelled⟩
      · exact stays.2 (List.mem_append_right _ (List.mem_filterMap.mpr ⟨piece, before, read⟩))
      · have length := congrArg List.length (Component.text_of_ofPiece? read)
        rw [spelled, List.length_append] at length
        change 2 = front.length + 4 at length
        omega

/-- A normal path below a directory goes on from it by names. -/
theorem exists_goesOn (isTop : IsTop top) (normal : path.normalize = path) (below : path.StartsWith top) :
    ∃ rest, GoesOn top path rest := by
  obtain ⟨rest, split⟩ := below
  have split : path.components = .root :: (top.steps ++ rest) := by
    rw [← split, components_of_isAbsolute isTop.absolute]
    rfl
  have absolute := isAbsolute_of_components split
  have names := isName_of_mem_steps absolute normal
  rw [components_of_isAbsolute absolute] at split
  rw [(List.cons.inj split).2, List.forall_mem_append] at names
  refine ⟨rest, ?_, names.2⟩
  rw [components_of_isAbsolute absolute, components_of_isAbsolute isTop.absolute, (List.cons.inj split).2]
  rfl

end Path

/-- The directive names a document below the directory that it is seen from. -/
structure Directive.IsLocal (d : Directive) : Prop where
  name : Path.IsLocal ⟨d.name⟩
  directory : ∀ directory, d.directory = some directory → Path.IsLocal ⟨directory⟩

/-! ### The moved store -/

namespace Store

variable {store : Store} {old new path path' : Path}

/-- The store with every document moved from below `old` to below `new`. -/
def moved (store : Store) (old new : Path) : Store :=
  ⟨store.files.map fun file => (file.1.moved old new, file.2)⟩

/-- All documents lie strictly below the directory, under normal paths. -/
def IsBelow (store : Store) (top : Path) : Prop :=
  ∀ file ∈ store.files, file.1.normalize = file.1 ∧ file.1.StartsWith top ∧ ¬ file.1.Same top

theorem settle_of_absent (absent : store.present path = false) : store.source.settle path = path := by
  have missing : store.source.canonical path = .error (.noSuchFile path) :=
    if_neg (by rw [absent]; exact Bool.false_ne_true)
  rw [Source.settle, missing]

theorem settle_of_normal (normal : path.normalize = path) : store.source.settle path = path := by
  cases present : store.present path with
  | true => rw [settle_of_present present, normal]
  | false => exact settle_of_absent present

section Below

variable (top : Path.IsTop old) (top' : Path.IsTop new) (below : store.IsBelow old)

include top top' below

theorem moves_of_mem {file : Path × Text} (member : file ∈ store.files) :
    Path.Moves old new file.1 (file.1.moved old new) ∧
      file.1.normalize = file.1 ∧ (file.1.moved old new).normalize = file.1.moved old new := by
  obtain ⟨normal, starts, -⟩ := below file member
  obtain ⟨rest, on⟩ := Path.exists_goesOn top normal starts
  obtain ⟨on', normal'⟩ := on.moved top'
  exact ⟨⟨rest, on, on'⟩, normal, normal'⟩

theorem present_moved (moves : Path.Moves old new path path') :
    (store.moved old new).present path' = store.present path := by
  unfold present moved
  rw [Bool.eq_iff_iff, List.any_map, List.any_eq_true, List.any_eq_true]
  refine exists_congr fun file => and_congr_right fun member => ?_
  have starts := (moves_of_mem top top' below member).1.startsWith_iff (moves.normalize top top')
  rw [Function.comp_apply, decide_eq_true_eq, decide_eq_true_eq]
  exact starts.symm

theorem settle_moved (moves : Path.Moves old new path path') :
    Path.Moves old new (store.source.settle path) ((store.moved old new).source.settle path') := by
  have alike := present_moved top top' below moves
  cases present : store.present path with
  | true =>
    rw [settle_of_present present, settle_of_present (alike.trans present)]
    exact moves.normalize top top'
  | false =>
    rw [settle_of_absent present, settle_of_absent (alike.trans present)]
    exact moves

theorem content?_moved (moves : Path.Moves old new path path') :
    (store.moved old new).content? path' = store.content? path := by
  have same : ∀ file ∈ store.files,
      (file.1.moved old new == path'.normalize) = (file.1 == path.normalize) := by
    intro file member
    obtain ⟨along, normal, normal'⟩ := moves_of_mem top top' below member
    rw [Bool.eq_iff_iff, beq_iff_eq, beq_iff_eq]
    exact (along.eq_iff (moves.normalize top top') ⟨normal, normal'⟩
      ⟨Path.normalize_normalize _, Path.normalize_normalize _⟩).symm
  unfold content? moved
  dsimp only
  generalize store.files = files at same
  induction files with
  | nil => rfl
  | cons file files ih =>
    rw [List.forall_mem_cons] at same
    rw [List.map_cons, List.find?_cons, List.find?_cons, same.1]
    cases file.1 == path.normalize with
    | true => rfl
    | false => exact ih same.2

theorem find?_present_moved {paths paths' : List Path}
    (each : List.Forall₂ (Path.Moves old new) paths paths') :
    (paths.find? store.present = none ∧ paths'.find? (store.moved old new).present = none) ∨
      ∃ path path', paths.find? store.present = some path ∧
        paths'.find? (store.moved old new).present = some path' ∧ Path.Moves old new path path' := by
  induction each with
  | nil => exact .inl ⟨rfl, rfl⟩
  | @cons path path' paths paths' moves _ ih =>
    have alike := present_moved top top' below moves
    rw [List.find?_cons, List.find?_cons, alike]
    cases store.present path with
    | true => exact .inr ⟨path, path', rfl, rfl, moves⟩
    | false => exact ih

/-- What a local reference is resolved to is moved with the directory that it is seen from. -/
theorem resolve?_moved {name : Text} (stays : Path.IsLocal ⟨name⟩) (moves : Path.Moves old new path path') :
    (store.source.resolve? name path = none ∧ (store.moved old new).source.resolve? name path' = none) ∨
      ∃ target target', store.source.resolve? name path = some target ∧
        (store.moved old new).source.resolve? name path' = some target' ∧
        Path.Moves old new target target' := by
  have relative (dir : Path) :
      candidates name dir = [dir.join ⟨name ++ ".tex".toList⟩, dir.join ⟨name⟩] := by
    rw [candidates, if_neg]
    · rfl
    · rw [stays.1]
      exact Bool.false_ne_true
  have each : List.Forall₂ (Path.Moves old new) (candidates name path) (candidates name path') := by
    rw [relative, relative]
    exact .cons (moves.join top top' stays.extended.1 stays.extended.isName)
      (.cons (moves.join top top' stays.1 stays.isName) .nil)
  unfold Source.resolve?
  rcases find?_present_moved top top' below each with ⟨none, none'⟩ | ⟨found, found', here, here', along⟩
  · left
    rw [show store.source.present = store.present from rfl, none,
      show (store.moved old new).source.present = (store.moved old new).present from rfl, none']
    exact ⟨rfl, rfl⟩
  · right
    rw [show store.source.present = store.present from rfl, here,
      show (store.moved old new).source.present = (store.moved old new).present from rfl, here']
    exact ⟨_, _, rfl, rfl, settle_moved top top' below along⟩

end Below

end Store

/-! ### The two runs -/

namespace Inventory

variable {store : Store} {options : Options} {old new base base' file file' : Path} {survey survey' : Survey}

/-- The entry with its paths moved. -/
structure Entry.Moves (old new : Path) (entry entry' : Entry) : Prop where
  path : Path.Moves old new entry.path entry'.path
  normal : entry.path.normalize = entry.path ∧ entry'.path.normalize = entry'.path
  base : Path.Moves old new entry.base entry'.base
  letters : Path.SpelledAlike old new entry.base entry'.base
  origin : entry'.origin = entry.origin

def Survey.Moves (old new : Path) (survey survey' : Survey) : Prop :=
  List.Forall₂ (Entry.Moves old new) survey.entries survey'.entries

theorem Survey.Moves.lists_iff (moves : Survey.Moves old new survey survey')
    (path : Path.Moves old new file file') (dir : Path.Moves old new base base') :
    survey.Lists file base ↔ survey'.Lists file' base' := by
  unfold Survey.Lists
  unfold Survey.Moves at moves
  generalize survey.entries = entries at moves
  generalize survey'.entries = entries' at moves
  induction moves with
  | nil => simp
  | cons entry _ ih =>
    rw [List.exists_mem_cons_iff, List.exists_mem_cons_iff, ih, entry.path.same_iff path,
      entry.base.same_iff dir]

theorem Survey.Moves.add (moves : Survey.Moves old new survey survey') {entry entry' : Entry}
    (last : Entry.Moves old new entry entry') :
    Survey.Moves old new (survey.add entry) (survey'.add entry') :=
  List.rel_append moves (.cons last .nil)

section Calls

variable (top : Path.IsTop old) (top' : Path.IsTop new) (below : store.IsBelow old)

include top top' below

theorem moves_follow {visit visit' : Survey → (file base : Path) → Origin → Survey}
    (calls : ∀ {survey survey' : Survey} {file file' base base' : Path} (origin : Origin),
      Survey.Moves old new survey survey' → Path.Moves old new file file' →
      (file.normalize = file ∧ file'.normalize = file') → Path.Moves old new base base' →
      Path.SpelledAlike old new base base' →
      Survey.Moves old new (visit survey file base origin) (visit' survey' file' base' origin))
    {d : Directive} (stays : d.IsLocal) (moves : Survey.Moves old new survey survey')
    (dir : Path.Moves old new base base') (letters : Path.SpelledAlike old new base base') :
    Survey.Moves old new (follow store.source visit base survey d)
      (follow (store.moved old new).source visit' base' survey' d) := by
  obtain ⟨onward, spelled⟩ : Path.Moves old new (d.searchDir base) (d.searchDir base') ∧
      Path.SpelledAlike old new (d.searchDir base) (d.searchDir base') := by
    unfold Directive.searchDir
    cases named : d.directory with
    | none => exact ⟨dir, letters⟩
    | some directory =>
      have stays := stays.directory directory named
      exact ⟨dir.join top top' stays.1 stays.isName, letters.join top top' stays.1⟩
  unfold follow
  dsimp only
  rcases Store.resolve?_moved top top' below stays.name onward with
    ⟨none, none'⟩ | ⟨target, target', found, found', along⟩
  · rw [none, none']
    exact moves
  · rw [found, found']
    have normal := (Store.place_of_resolve? found).2
    have normal' := (Store.place_of_resolve? found').2
    exact calls (.reference d.kind) moves along ⟨normal, normal'⟩ onward spelled

variable (stays : ∀ path text kind d, store.content? path = some text → d ∈ Directive.ofText kind text →
  d.IsLocal)

include stays

/-- From surveys that are moved the two runs come to surveys that are moved. -/
theorem moves_visit (levels : Nat) (origin : Origin) (moves : Survey.Moves old new survey survey')
    (path : Path.Moves old new file file') (normal : file.normalize = file ∧ file'.normalize = file')
    (dir : Path.Moves old new base base') (letters : Path.SpelledAlike old new base base') :
    Survey.Moves old new (visit store.source options levels survey file base origin)
      (visit (store.moved old new).source options levels survey' file' base' origin) := by
  induction levels generalizing survey survey' file file' base base' origin with
  | zero =>
    have lists := moves.lists_iff path dir
    unfold visit
    dsimp only
    rw [Store.settle_of_normal normal.1, Store.settle_of_normal normal.2]
    by_cases listed : survey.Lists file base
    · rw [if_pos listed, if_pos (lists.mp listed)]
      exact moves
    · rw [if_neg listed, if_neg (mt lists.mpr listed)]
      exact moves
  | succ levels ih =>
    have lists := moves.lists_iff path dir
    unfold visit
    dsimp only
    rw [Store.settle_of_normal normal.1, Store.settle_of_normal normal.2]
    by_cases listed : survey.Lists file base
    · rw [if_pos listed, if_pos (lists.mp listed)]
      exact moves
    · rw [if_neg listed, if_neg (mt lists.mpr listed)]
      have last : Entry.Moves old new ⟨file, base, origin⟩ ⟨file', base', origin⟩ :=
        ⟨path, normal, dir, letters, rfl⟩
      have added := moves.add last
      have alike := Store.content?_moved top top' below path
      have reads (other : Store) (file : Path) : other.source.read options.encoding file = other.read file := rfl
      rw [reads, reads, Store.read, Store.read, alike]
      cases found : store.content? file with
      | none => exact added
      | some text =>
        have each : ∀ d ∈ references text, d.IsLocal := by
          intro d member
          obtain ⟨kind, -, inside⟩ := List.mem_flatMap.mp member
          exact stays file text kind d found inside
        dsimp only
        generalize references text = ds at each
        generalize survey.add ⟨file, base, origin⟩ = now at added
        generalize survey'.add ⟨file', base', origin⟩ = now' at added
        induction ds generalizing now now' with
        | nil => exact added
        | cons d ds next =>
          rw [List.forall_mem_cons] at each
          exact next each.2 _ _ (moves_follow top top' below ih each.1 added dir letters)

end Calls

/-- The entry with `new` in the place of `old` at the front of its paths. Its path is canonical, so that there is
one way to spell it; its base stays as it was spelled. -/
structure Entry.IsMoved (old new : Path) (entry entry' : Entry) : Prop where
  below : entry.path.StartsWith old ∧ entry.base.StartsWith old
  path : entry'.path = entry.path.moved old new
  base : entry'.base.Same (entry.base.moved old new)
  letters : Path.SpelledAlike old new entry.base entry'.base
  origin : entry'.origin = entry.origin

theorem Entry.Moves.isMoved (top' : Path.IsTop new) {entry entry' : Entry}
    (moves : Entry.Moves old new entry entry') : Entry.IsMoved old new entry entry' := by
  have starts {path path' : Path} (along : Path.Moves old new path path') : path.StartsWith old := by
    obtain ⟨rest, on, -⟩ := along
    exact ⟨rest, on.1.symm⟩
  exact ⟨⟨starts moves.path, starts moves.base⟩, moves.path.eq_moved top' moves.normal.2,
    moves.base.same_moved top', moves.letters, moves.origin⟩

/-- The inventory of a project that has moved is the inventory of the project with its paths moved, and
fails exactly where that one fails. -/
theorem discover_moved (options : Options) {store : Store} {old new root : Path} (top : Path.IsTop old)
    (top' : Path.IsTop new) (below : store.IsBelow old)
    (stays : ∀ path text kind d, store.content? path = some text → d ∈ Directive.ofText kind text →
      d.IsLocal)
    (normal : root.normalize = root) (inside : root.StartsWith old ∧ ¬ root.Same old) :
    ((discover store.source options root).1 = .error (.missingRoot root) ∧
      (discover (store.moved old new).source options (root.moved old new)).1 =
        .error (.missingRoot (root.moved old new))) ∨
    ∃ entries entries', (discover store.source options root).1 = .ok entries ∧
      (discover (store.moved old new).source options (root.moved old new)).1 = .ok entries' ∧
      List.Forall₂ (Entry.IsMoved old new) entries entries' := by
  obtain ⟨rest, on⟩ := Path.exists_goesOn top normal inside.1
  obtain ⟨on', normal'⟩ := on.moved top'
  have moves : Path.Moves old new root (root.moved old new) := ⟨rest, on, on'⟩
  have alike := Store.present_moved top top' below moves
  cases present : store.present root with
  | false =>
    have missing {other : Store} {root : Path} (absent : other.present root = false) :
        (discover other.source options root).1 = .error (.missingRoot root) := by
      have none : other.source.rootDocument root = .error (.missingRoot root) :=
        if_neg (by rw [show other.source.present root = false from absent]; exact Bool.false_ne_true)
      rw [discover, none]
    exact .inl ⟨missing present, missing (alike.trans present)⟩
  | true =>
    right
    have rest_ne : rest ≠ [] := by
      rintro rfl
      exact inside.2 (on.1.trans (List.append_nil _))
    have dir : Path.Moves old new root.directory (root.moved old new).directory :=
      ⟨_, on.directory top rest_ne, on'.directory top' rest_ne⟩
    have letters := Path.Moves.spelledAlike_directory top top' on on' ⟨normal, normal'⟩ rest_ne
    have begun : Survey.Moves old new {} {} := .nil
    have run : Survey.Moves old new
        (visit store.source options (options.maxDepth + 1) {} root root.directory .root) _ :=
      moves_visit top top' below stays (options.maxDepth + 1) .root begun moves ⟨normal, normal'⟩ dir letters
    refine ⟨_, _, congrArg Prod.fst (discover_of_present options present),
      congrArg Prod.fst (discover_of_present options (alike.trans present)), ?_⟩
    unfold fromRoot
    rw [normal, normal']
    exact run.imp fun _ _ entry => entry.isMoved top'

/-- A document with an import, an input beside it and a reference to nothing. -/
def suitcase : Store where
  files := [(.ofString "/home/m.tex", "\\import\x7bs\x7d\x7ba\x7d\\input\x7bs/a\x7d".toList),
    (.ofString "/home/s/a.tex", "\\include\x7bnone\x7d".toList)]

theorem isLocal_suitcase (path : Path) (text : Text) (kind : Directive.Kind) (d : Directive)
    (found : suitcase.content? path = some text) (member : d ∈ Directive.ofText kind text) : d.IsLocal := by
  obtain ⟨file, inside, rfl⟩ := Store.exists_of_content? found
  have all : ∀ file ∈ suitcase.files, ∀ kind ∈ Directive.Kind.passes, ∀ d ∈ Directive.ofText kind file.2,
      (Path.isAbsolute ⟨d.name⟩ = false ∧ .up ∉ Path.components ⟨d.name⟩) ∧
        ∀ directory ∈ d.directory.toList,
          Path.isAbsolute ⟨directory⟩ = false ∧ .up ∉ Path.components ⟨directory⟩ := by decide +kernel
  have passes : kind ∈ Directive.Kind.passes := by cases kind <;> decide
  obtain ⟨name, directories⟩ := all file inside kind passes d member
  exact ⟨name, fun directory named => directories directory (by rw [named]; exact List.mem_singleton_self _)⟩

theorem discover_moved_suitcase :
    let old := Path.ofString "/home"
    let new := Path.ofString "/mnt/home"
    let root := Path.ofString "/home/m.tex"
    Path.IsTop old ∧ Path.IsTop new ∧ suitcase.IsBelow old ∧
      ∃ entries entries', (discover suitcase.source {} root).1 = .ok entries ∧
        (discover (suitcase.moved old new).source {} (root.moved old new)).1 = .ok entries' ∧
        List.Forall₂ (Entry.IsMoved old new) entries entries' := by
  intro old new root
  have top : Path.IsTop old := ⟨by decide +kernel, by decide +kernel⟩
  have top' : Path.IsTop new := ⟨by decide +kernel, by decide +kernel⟩
  have below : suitcase.IsBelow old := by
    unfold Store.IsBelow
    decide +kernel
  have normal : root.normalize = root := by decide +kernel
  have inside : root.StartsWith old ∧ ¬ root.Same old := by decide +kernel
  have present : suitcase.present root = true := by decide +kernel
  have found := discover_of_present {} present
  refine ⟨top, top', below, ?_⟩
  rcases discover_moved {} top top' below isLocal_suitcase normal inside with ⟨failed, -⟩ | both
  · rw [found] at failed
    exact absurd failed nofun
  · exact both

end Inventory
end TexFlat
