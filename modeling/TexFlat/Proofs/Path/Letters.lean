import Mathlib.Data.List.Induction
import TexFlat.Proofs.Path.Spelling

/-!
# The letters of a path below a directory

A path may be spelled in many ways. Below a directory that moves, the spelling stays too: what follows the
directory is the same to the letter, however the path came to be joined.
-/

namespace TexFlat.Path

open Component (IsName)

variable {path old new other base base' : Path} {names rest : List Component}

/-- Names, each behind a slash. -/
def letters (names : List Component) : Text := names.flatMap fun c => '/' :: c.text

theorem letters_append (a b : List Component) : letters (a ++ b) = letters a ++ letters b :=
  List.flatMap_append

theorem getLast?_letters (all : ∀ c ∈ names, c.IsName) : (letters names).getLast? ≠ some '/' := by
  cases back : names.reverse with
  | nil =>
    rw [List.reverse_eq_nil_iff.mp back]
    exact nofun
  | cons c front =>
    have split : names = front.reverse ++ [c] := by
      rw [← List.reverse_reverse names, back, List.reverse_cons]
    obtain ⟨step, -⟩ := all c (split ▸ List.mem_append_right _ (List.mem_singleton_self c))
    have last : letters [c] = '/' :: c.text := List.append_nil _
    rw [split, letters_append, last]
    exact getLast?_behind_slash step.text_ne_nil step.2

theorem letters_ne_nil (filled : names ≠ []) : letters names ≠ [] := by
  obtain ⟨c, others, rfl⟩ := List.exists_cons_of_ne_nil filled
  exact List.cons_ne_nil _ _

theorem letters_names {names : List Text} (filled : names ≠ []) :
    letters (names.map .name) = '/' :: Text.join '/' names := by
  induction names with
  | nil => exact absurd rfl filled
  | cons name names ih =>
    cases names with
    | nil => exact List.append_nil _
    | cons next names =>
      have split : letters ((name :: next :: names).map .name) =
          '/' :: (name ++ letters ((next :: names).map .name)) := rfl
      rw [split, ih (List.cons_ne_nil _ _)]
      rfl

theorem exists_fileNames (all : ∀ c ∈ names, c.IsName) :
    ∃ texts : List Text, (∀ name ∈ texts, IsFileName name) ∧ names = texts.map .name := by
  refine ⟨names.map Component.text, ?_, ?_⟩
  · rw [List.forall_mem_map]
    intro c member
    obtain ⟨step, text, rfl⟩ := all c member
    exact isFileName_iff.mpr step
  · rw [List.map_map]
    refine (List.map_id names).symm.trans (List.map_congr_left fun c member => ?_)
    obtain ⟨-, text, rfl⟩ := all c member
    rfl

theorem ofComponents_root {names : List Text} (proper : ∀ name ∈ names, IsFileName name) :
    ofComponents (.root :: names.map .name) = spelled true names := by
  have place : ofComponents (namedComponents true names) = spelled true names :=
    ofComponents_namedComponents proper
  exact place

/-- The spelling of a normal path. -/
theorem text_ofNames (all : ∀ c ∈ names, c.IsName) :
    (ofComponents (.root :: names)).text = if names = [] then ['/'] else letters names := by
  obtain ⟨names, proper, rfl⟩ := exists_fileNames all
  rw [ofComponents_root proper]
  by_cases none : names = []
  · rw [none]
    rfl
  · rw [if_neg (mt List.map_eq_nil_iff.mp none), letters_names none]
    rfl

/-! ### Directories -/

/-- The directory of a normal path is spelled like a normal path. -/
theorem directory_ofNames (all : ∀ c ∈ names, c.IsName) (filled : names ≠ []) :
    (ofComponents (.root :: names)).directory = ofComponents (.root :: names.dropLast) := by
  obtain ⟨names, proper, rfl⟩ := exists_fileNames all
  cases names using List.reverseRecOn with
  | nil => exact absurd rfl filled
  | append_singleton front last =>
    have inner := proper
    rw [List.forall_mem_append, List.forall_mem_singleton] at inner
    rw [ofComponents_root proper, directory, parent?_spelled_concat inner.1 inner.2, List.map_append,
      List.map_singleton, List.dropLast_concat, ofComponents_root inner.1]
    rfl

/-! ### What stands behind a directory -/

theorem IsTop.eq_ofNames (top : IsTop path) : path = ofComponents (.root :: path.steps) := by
  have same := ofComponents_components top.normal
  rw [components_of_isAbsolute top.absolute] at same
  exact same.symm

/-- What stands before the slash behind which a path goes on below the directory. -/
def trunk (top : Path) : Text := if top.text = ['/'] then [] else top.text

theorem IsTop.trunk_eq (top : IsTop path) : path.trunk = letters path.steps := by
  have spelled := text_ofNames top.isName
  rw [← top.eq_ofNames] at spelled
  unfold trunk
  by_cases none : path.steps = []
  · rw [if_pos none] at spelled
    rw [if_pos spelled, none]
    rfl
  · rw [if_neg none] at spelled
    rw [spelled, if_neg]
    obtain ⟨c, others, split⟩ := List.exists_cons_of_ne_nil none
    have named := top.isName c (split ▸ List.mem_cons_self)
    rw [split]
    intro slash
    have empty : c.text ++ letters others = [] := (List.cons.inj slash).2
    exact named.1.text_ne_nil (List.append_eq_nil_iff.mp empty).1

theorem IsTop.text_join (top : IsTop path) (relative : other.isAbsolute = false) :
    (path.join other).text = path.trunk ++ '/' :: other.text := by
  have spelled := text_ofNames top.isName
  rw [← top.eq_ofNames] at spelled
  by_cases none : path.steps = []
  · rw [if_pos none] at spelled
    have ends : path.text.getLast? = some '/' := by
      rw [spelled]
      rfl
    rw [text_join_of_closed relative ends, trunk, if_pos spelled, spelled]
    rfl
  · rw [if_neg none, ← top.trunk_eq] at spelled
    rw [← spelled]
    rw [top.trunk_eq] at spelled
    refine text_join_of_open relative ?_ ?_
    · rw [spelled]
      exact letters_ne_nil none
    · rw [spelled]
      exact getLast?_letters top.isName

/-- The paths are the two directories, or go on from them in the same letters. -/
def SpelledAlike (old new path path' : Path) : Prop :=
  (path = old ∧ path' = new) ∨
    ∃ tail, path.text = old.trunk ++ '/' :: tail ∧ path'.text = new.trunk ++ '/' :: tail

theorem text_join_behind {trunk tail : Text} (relative : other.isAbsolute = false)
    (spelled : path.text = trunk ++ '/' :: tail) :
    (path.join other).text = trunk ++ '/' ::
      if ('/' :: tail).getLast? = some '/' then tail ++ other.text else tail ++ '/' :: other.text := by
  have last : path.text.getLast? = ('/' :: tail).getLast? := by
    rw [spelled, List.getLast?_append, List.getLast?_eq_some_getLast (List.cons_ne_nil _ _), Option.some_or]
  by_cases ends : ('/' :: tail).getLast? = some '/'
  · rw [if_pos ends, text_join_of_closed relative (last.trans ends), spelled, List.append_assoc]
    rfl
  · have filled : path.text ≠ [] := by
      rw [spelled]
      exact List.append_ne_nil_of_right_ne_nil _ (List.cons_ne_nil _ _)
    rw [if_neg ends, text_join_of_open relative filled fun closed => ends (last.symm.trans closed), spelled,
      List.append_assoc]
    rfl

theorem SpelledAlike.join (top : IsTop old) (top' : IsTop new) (alike : SpelledAlike old new base base')
    (relative : other.isAbsolute = false) : SpelledAlike old new (base.join other) (base'.join other) := by
  right
  rcases alike with ⟨rfl, rfl⟩ | ⟨tail, spelled, spelled'⟩
  · exact ⟨other.text, top.text_join relative, top'.text_join relative⟩
  · exact ⟨_, text_join_behind relative spelled, text_join_behind relative spelled'⟩

theorem SpelledAlike.ofNames (top : IsTop old) (top' : IsTop new) (all : ∀ c ∈ rest, c.IsName) :
    SpelledAlike old new (ofComponents (.root :: (old.steps ++ rest)))
      (ofComponents (.root :: (new.steps ++ rest))) := by
  cases rest with
  | nil =>
    rw [List.append_nil, List.append_nil, ← top.eq_ofNames, ← top'.eq_ofNames]
    exact .inl ⟨rfl, rfl⟩
  | cons c rest =>
    have behind {top : Path} (isTop : IsTop top) :
        (ofComponents (.root :: (top.steps ++ c :: rest))).text = top.trunk ++ '/' :: (c.text ++ letters rest) := by
      have names : ∀ step ∈ top.steps ++ c :: rest, step.IsName := by
        rw [List.forall_mem_append]
        exact ⟨isTop.isName, all⟩
      rw [text_ofNames names, if_neg (List.append_ne_nil_of_right_ne_nil _ (List.cons_ne_nil _ _)),
        letters_append, isTop.trunk_eq]
      rfl
    exact .inr ⟨_, behind top, behind top'⟩

/-- The directories of two normal paths that go on alike are spelled alike. -/
theorem Moves.spelledAlike_directory (top : IsTop old) (top' : IsTop new) (on : GoesOn old path rest)
    (on' : GoesOn new path' rest) (normal : path.normalize = path ∧ path'.normalize = path')
    (below : rest ≠ []) : SpelledAlike old new path.directory path'.directory := by
  have spelled {top path : Path} (isTop : IsTop top) (on : GoesOn top path rest)
      (normal : path.normalize = path) :
      path.directory = ofComponents (.root :: (top.steps ++ rest.dropLast)) := by
    obtain ⟨cut, all⟩ := on.components_eq isTop
    have same := ofComponents_components normal
    rw [cut] at same
    rw [← same, directory_ofNames all (List.append_ne_nil_of_right_ne_nil _ below),
      List.dropLast_append_of_ne_nil below]
  rw [spelled top on normal.1, spelled top' on' normal.2]
  exact .ofNames top top' fun c member => on.2 c (List.dropLast_subset _ member)

end TexFlat.Path
