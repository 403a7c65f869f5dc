import TexFlat.Proofs.Disk.Writing
import TexFlat.Proofs.Path.Moving

/-!
# Disks that are trees

On a disk that is a tree every entry stands in a directory under a name that a path can have. There the
canonical path of a place is its own canonical path, and no walk ends at a link. A file that is written takes no
way away: what a walk came to before, it comes to afterwards (`walk_set`), so what was present stays present and
what had a canonical path keeps it.
-/

namespace TexFlat.Disk

variable {disk : Disk} {file start place goal above : Place} {path other : Path} {bytes : Bytes} {name : Text}
  {steps : List Text} {links : Nat} {purpose : Purpose} {follow : Place → List Text → Except Fault Place}

/-! ### Trees -/

/-- A name that leads from a directory to an entry. -/
def IsName (name : Text) : Prop := Names name ∧ '/' ∉ name ∧ '\x00' ∉ name

instance (name : Text) : Decidable (Names name) := inferInstanceAs (Decidable (_ ∧ _))

instance (name : Text) : Decidable (IsName name) := inferInstanceAs (Decidable (_ ∧ _))

/-- The place is the root, or has a name in a directory. -/
def Stands (disk : Disk) : Place → Prop
  | [] => True
  | name :: above => IsName name ∧ disk.get? above = some .directory

instance (disk : Disk) : (place : Place) → Decidable (disk.Stands place)
  | [] => inferInstanceAs (Decidable True)
  | _ :: _ => inferInstanceAs (Decidable (_ ∧ _))

def IsTree (disk : Disk) : Prop := ∀ entry ∈ disk.entries, disk.Stands entry.1

instance (disk : Disk) : Decidable disk.IsTree :=
  inferInstanceAs (Decidable (∀ entry ∈ disk.entries, disk.Stands entry.1))

theorem IsTree.stands (tree : disk.IsTree) (there : (disk.get? place).isSome) : disk.Stands place := by
  unfold get? at there
  split at there
  · rename_i root
    rw [root]
    trivial
  · rw [Option.isSome_map] at there
    obtain ⟨entry, found⟩ := Option.isSome_iff_exists.mp there
    have same := List.find?_some found
    exact beq_iff_eq.mp same ▸ tree entry (List.mem_of_find?_eq_some found)

theorem IsTree.directory_of_suffix (tree : disk.IsTree) (here : disk.get? place = some .directory)
    (inside : above <:+ place) : disk.get? above = some .directory := by
  induction place with
  | nil =>
    rw [List.suffix_nil.mp inside]
    exact here
  | cons name rest ih =>
    rcases List.suffix_cons_iff.mp inside with rfl | inside
    · exact here
    · exact ih (tree.stands (Option.isSome_of_eq_some here)).2 inside

/-! ### Look-ups that succeed -/

theorem ite_error_eq_ok {stopped : Prop} [Decidable stopped] {cause : Fault} {onward : Except Fault Place} :
    (if stopped then .error cause else onward) = .ok goal ↔ ¬ stopped ∧ onward = .ok goal := by
  split
  · rename_i stops
    exact iff_of_false nofun fun both => both.1 stops
  · rename_i passes
    exact (and_iff_right passes).symm

theorem locate_eq_ok_iff : disk.locate purpose start path = .ok place ↔
    '\x00' ∉ path.text ∧ path.text ≠ [] ∧
      disk.walk purpose 40 (route start path.text).1 (route start path.text).2 = .ok place := by
  unfold locate
  rw [ite_error_eq_ok, ite_error_eq_ok]

theorem locateShort_eq_ok_iff : disk.locateShort purpose start path = .ok place ↔
    ¬ ('\x00' ∉ path.text ∧ 4096 ≤ Text.utf8Length path.text) ∧
      disk.locate purpose start path = .ok place := by
  unfold locateShort
  rw [ite_error_eq_ok]

theorem canonical_eq_ok_iff : disk.canonical start path = .ok other ↔
    ∃ place, disk.locate .find start path = .ok place ∧ (disk.get? place).isSome ∧ pathOf place = other := by
  unfold canonical
  cases located : disk.locate .find start path with
  | error cause => exact iff_of_false nofun nofun
  | ok place =>
    simp only [bind, Except.bind, Except.ok.injEq, exists_eq_left']
    cases disk.get? place with
    | none => exact iff_of_false nofun nofun
    | some entry => simp only [Except.ok.injEq, Option.isSome_some, true_and]

theorem present_eq_true_iff : disk.present start path = true ↔
    ∃ place, disk.locateShort .find start path = .ok place ∧ (disk.get? place).isSome := by
  unfold present
  cases disk.locateShort .find start path with
  | error cause => exact iff_of_false nofun nofun
  | ok place => simp only [Except.ok.injEq, exists_eq_left']

theorem exists_canonical_of_present (there : disk.present start path = true) :
    ∃ other, disk.canonical start path = .ok other := by
  obtain ⟨place, found, here⟩ := present_eq_true_iff.mp there
  exact ⟨_, canonical_eq_ok_iff.mpr ⟨place, (locateShort_eq_ok_iff.mp found).2, here, rfl⟩⟩

/-! ### The canonical path of a place -/

theorem get?_route (here : disk.get? start = some .directory) (text : Text) :
    disk.get? (route start text).1 = some .directory := by
  unfold route
  split
  · rfl
  · exact here

/-- A walk goes on from a link, wherever it leads. -/
theorem IsTree.not_link (tree : disk.IsTree) (here : disk.get? start = some .directory)
    (found : disk.locate purpose start path = .ok place) (target : Text) :
    disk.get? place ≠ some (.link target) := by
  have begun := get?_route here path.text
  by_cases inside : place <:+ (route start path.text).1
  · rw [tree.directory_of_suffix begun inside]
    exact nofun
  · have arrives := arrives_of_walk (locate_eq_ok_iff.mp found).2.2
    refine arrives.not_link inside ?_ target
    rintro rfl
    exact inside List.nil_suffix

/-- Down by its names, a walk from the root comes to any place that is no link. -/
theorem IsTree.walkWith_reverse (tree : disk.IsTree) (there : (disk.get? place).isSome)
    (plain : ∀ target, disk.get? place ≠ some (.link target)) (steps : List Text) :
    disk.walkWith .find follow [] (place.reverse ++ steps) = disk.walkWith .find follow place steps := by
  induction place generalizing steps with
  | nil => rfl
  | cons name above ih =>
    obtain ⟨named, directory⟩ := tree.stands there
    have down := ih (Option.isSome_of_eq_some directory) (by rw [directory]; exact nofun) (name :: steps)
    rw [List.reverse_cons, List.append_assoc, List.singleton_append, down, walkWith_name directory named.1]
    cases entry : disk.get? (name :: above) with
    | none =>
      rw [entry] at there
      exact absurd there nofun
    | some found =>
      cases found with
      | file | directory => rfl
      | link target => exact absurd entry (plain target)

theorem IsTree.mem_place (tree : disk.IsTree) (there : (disk.get? place).isSome) (member : name ∈ place) :
    IsName name := by
  induction place with
  | nil => exact absurd member List.not_mem_nil
  | cons first above ih =>
    obtain ⟨named, directory⟩ := tree.stands there
    rcases List.mem_cons.mp member with rfl | member
    · exact named
    · exact ih (Option.isSome_of_eq_some directory) member

theorem IsTree.pieces_pathOf (tree : disk.IsTree) (there : (disk.get? place).isSome) :
    Text.pieces '/' (pathOf place).text = [] :: if place = [] then [[]] else place.reverse := by
  have cut : Text.pieces '/' (pathOf place).text = [] :: Text.pieces '/' (Text.join '/' place.reverse) :=
    Text.pieces_cons_separator '/' _
  rw [cut]
  split
  · rename_i root
    rw [root]
    rfl
  · rename_i below
    rw [Text.pieces_join (mt List.reverse_eq_nil_iff.mp below) fun name member =>
      (tree.mem_place there (List.mem_reverse.mp member)).2.1]

theorem IsTree.locate_pathOf (tree : disk.IsTree) (there : (disk.get? place).isSome)
    (plain : ∀ target, disk.get? place ≠ some (.link target)) (start : Place) :
    disk.locate .find start (pathOf place) = .ok place := by
  have clear : '\x00' ∉ (pathOf place).text := by
    have hereditary : Path.Hereditary ('\x00' ∉ ·) := Path.hereditary_not_mem (by decide) (by decide)
    refine List.not_mem_cons_of_ne_of_not_mem (by decide) (hereditary.joinSlash fun name member => ?_)
    exact (tree.mem_place there (List.mem_reverse.mp member)).2.2
  have taken : disk.walkWith .find (disk.afterLink .find 40) [] (if place = [] then [[]] else place.reverse) =
      .ok place := by
    split
    · rename_i root
      rw [root]
      rfl
    · rw [← List.append_nil place.reverse]
      exact tree.walkWith_reverse there plain []
  have filled : (pathOf place).text ≠ [] := List.cons_ne_nil _ _
  have begun : route start (pathOf place).text = ([], [] :: if place = [] then [[]] else place.reverse) := by
    rw [route, tree.pieces_pathOf there]
    rfl
  rw [locate_eq_ok_iff, begun, walk_eq_walkWith]
  exact ⟨clear, filled, taken⟩

/-- The canonical path of a place is its own canonical path. -/
theorem IsTree.canonical_canonical (tree : disk.IsTree) (here : disk.get? start = some .directory)
    (found : disk.canonical start path = .ok other) : disk.canonical start other = .ok other := by
  obtain ⟨place, located, there, rfl⟩ := canonical_eq_ok_iff.mp found
  have again := tree.locate_pathOf there (tree.not_link here located) start
  exact canonical_eq_ok_iff.mpr ⟨place, again, there, rfl⟩

/-! ### Ways that stay open -/

/-- Nothing stands at the place, or a file. -/
def Takes (disk : Disk) (file : Place) : Prop :=
  disk.get? file ≠ some .directory ∧ ∀ target, disk.get? file ≠ some (.link target)

theorem Takes.ne_nil (takes : disk.Takes file) : file ≠ [] := by
  rintro rfl
  exact takes.1 rfl

theorem Takes.get?_set_of_directory (takes : disk.Takes file) (bytes : Bytes)
    (here : disk.get? place = some .directory) :
    (disk.set file (.file bytes)).get? place = some .directory := by
  rw [get?_set_of_ne disk _, here]
  rintro rfl
  exact takes.1 here

theorem Takes.isSome_get?_set (takes : disk.Takes file) (bytes : Bytes) (there : (disk.get? place).isSome) :
    ((disk.set file (.file bytes)).get? place).isSome := by
  by_cases same : place = file
  · rw [same, get?_set_self disk _ takes.ne_nil]
    rfl
  · rw [get?_set_of_ne disk _ same]
    exact there

/-- How a walk goes on from a directory by a name: to what is there, from where a link leads, or no further. -/
def enter (disk : Disk) (purpose : Purpose) (follow : Place → List Text → Except Fault Place) (place : Place)
    (step : Text) (steps : List Text) : Except Fault Place :=
  match disk.get? (step :: place) with
  | none => if steps = [] then .ok (step :: place) else .error .missing
  | some (.link target) => follow (route place target).1 ((route place target).2 ++ steps)
  | some _ => disk.walkWith purpose follow (step :: place) steps

theorem walkWith_cons (disk : Disk) (purpose : Purpose) (follow : Place → List Text → Except Fault Place)
    (place : Place) (step : Text) (steps : List Text) :
    disk.walkWith purpose follow place (step :: steps) =
      if disk.get? place ≠ some .directory then .error .notDirectory
      else if step = [] ∨ step = ['.'] then disk.walkWith purpose follow place steps
      else if step = ['.', '.'] then disk.walkWith purpose follow place.tail steps
      else if purpose = .create ∧ steps ≠ [] ∧ steps.all (· = []) then .error .isDirectory
      else if 255 < Text.utf8Length step then .error .nameTooLong
      else disk.enter purpose follow place step steps := by
  rw [walkWith]
  rfl

/-- A walk that comes to a file ends there, whether the file was there before or not. -/
theorem Takes.enter_set {follow' : Place → List Text → Except Fault Place} {step : Text}
    (takes : disk.Takes file)
    (onward : ∀ place steps, follow place steps = .ok goal → follow' place steps = .ok goal)
    (further : ∀ place, disk.walkWith purpose follow place steps = .ok goal →
      (disk.set file (.file bytes)).walkWith purpose follow' place steps = .ok goal)
    (found : disk.enter purpose follow place step steps = .ok goal) :
    (disk.set file (.file bytes)).enter purpose follow' place step steps = .ok goal := by
  unfold enter at found ⊢
  by_cases last : step :: place = file
  · have written : (disk.set file (.file bytes)).get? (step :: place) = some (.file bytes) := by
      rw [last]
      exact get?_set_self disk _ takes.ne_nil
    rw [written]
    split at found
    · split at found
      · rename_i ended
        rw [ended]
        exact found
      · cases found
    · rename_i target linked
      exact absurd (last ▸ linked) (takes.2 target)
    · exact further _ found
  · rw [get?_set_of_ne disk _ last]
    split at found
    · exact found
    · exact onward _ _ found
    · exact further _ found

theorem Takes.walkWith_set {follow' : Place → List Text → Except Fault Place} (takes : disk.Takes file)
    (onward : ∀ place steps, follow place steps = .ok goal → follow' place steps = .ok goal)
    (found : disk.walkWith purpose follow place steps = .ok goal) :
    (disk.set file (.file bytes)).walkWith purpose follow' place steps = .ok goal := by
  induction steps generalizing place with
  | nil => exact found
  | cons step steps ih =>
    rw [walkWith_cons, ite_error_eq_ok] at found ⊢
    obtain ⟨directory, found⟩ := found
    refine ⟨not_not_intro (takes.get?_set_of_directory bytes (Classical.not_not.mp directory)), ?_⟩
    by_cases stay : step = [] ∨ step = ['.']
    · rw [if_pos stay] at found ⊢
      exact ih found
    · rw [if_neg stay] at found ⊢
      by_cases climbs : step = ['.', '.']
      · rw [if_pos climbs] at found ⊢
        exact ih found
      · rw [if_neg climbs, ite_error_eq_ok, ite_error_eq_ok] at found ⊢
        obtain ⟨created, short, found⟩ := found
        exact ⟨created, short, takes.enter_set onward (fun _ => ih) found⟩

theorem Takes.walk_set (takes : disk.Takes file) (found : disk.walk purpose links place steps = .ok goal) :
    (disk.set file (.file bytes)).walk purpose links place steps = .ok goal := by
  induction links generalizing place steps with
  | zero =>
    rw [walk_eq_walkWith] at found ⊢
    refine takes.walkWith_set (fun _ _ further => ?_) found
    cases further
  | succ links ih =>
    rw [walk_eq_walkWith] at found ⊢
    exact takes.walkWith_set (fun _ _ => ih) found

theorem Takes.locate_set (takes : disk.Takes file) (found : disk.locate purpose start path = .ok goal) :
    (disk.set file (.file bytes)).locate purpose start path = .ok goal := by
  rw [locate_eq_ok_iff] at found ⊢
  exact ⟨found.1, found.2.1, takes.walk_set found.2.2⟩

theorem Takes.locateShort_set (takes : disk.Takes file)
    (found : disk.locateShort purpose start path = .ok goal) :
    (disk.set file (.file bytes)).locateShort purpose start path = .ok goal := by
  rw [locateShort_eq_ok_iff] at found ⊢
  exact ⟨found.1, takes.locate_set found.2⟩

theorem Takes.present_set (takes : disk.Takes file) (bytes : Bytes)
    (there : disk.present start path = true) : (disk.set file (.file bytes)).present start path = true := by
  obtain ⟨place, found, here⟩ := present_eq_true_iff.mp there
  exact present_eq_true_iff.mpr ⟨place, takes.locateShort_set found, takes.isSome_get?_set bytes here⟩

theorem Takes.canonical_set (takes : disk.Takes file) (bytes : Bytes)
    (found : disk.canonical start path = .ok other) :
    (disk.set file (.file bytes)).canonical start path = .ok other := by
  obtain ⟨place, located, there, same⟩ := canonical_eq_ok_iff.mp found
  exact canonical_eq_ok_iff.mpr
    ⟨place, takes.locate_set located, takes.isSome_get?_set bytes there, same⟩

theorem set_set (disk : Disk) (place : Place) (old entry : Entry) :
    (disk.set place old).set place entry = disk.set place entry := by
  simp only [set, List.filter_cons, bne_self_eq_false, Bool.false_eq_true, if_false, List.filter_filter,
    Bool.and_self]

/-- To write a file once more changes nothing. -/
theorem Takes.write_set (takes : disk.Takes file)
    (found : disk.locateShort .create start path = .ok file) :
    (disk.set file (.file bytes)).write start path bytes = .ok (disk.set file (.file bytes)) := by
  have written := get?_set_self disk (.file bytes) takes.ne_nil
  have again := set_set disk file (.file bytes) (.file bytes)
  simp only [write, takes.locateShort_set found, bind, Except.bind, written, again]

/-- On a tree, what is written goes to a place where nothing is or a file. -/
theorem IsTree.exists_takes {after : Disk} (tree : disk.IsTree) (here : disk.get? start = some .directory)
    (written : disk.write start path bytes = .ok after) :
    ∃ file, disk.locateShort .create start path = .ok file ∧ disk.Takes file ∧
      after = disk.set file (.file bytes) := by
  obtain ⟨file, found, free, same⟩ := eq_set_of_write written
  exact ⟨file, found, ⟨free, tree.not_link here (locateShort_eq_ok_iff.mp found).2⟩, same⟩

end TexFlat.Disk
