import TexFlat.Proofs.Inventory.Listing
import TexFlat.Proofs.Merge.Limit

/-!
# How deep a merge goes

A file at some depth was called for through as many others, and all of these were expanded before it.
A store has only so many places, so a merge comes to an end on its own: `merge_bottoms_out` says that
no limit beyond the number of places makes a difference.
-/

namespace TexFlat.Merge

variable {store : Store} {options : Options} {follows : Text → Directive → Prop} {start : Path}
  {run run' : Run}

/-! ### Depth and the number of files -/

/-- Every file was expanded at a depth smaller than the number of files that are expanded by now. -/
def Descended (run : Run) : Prop :=
  ∀ file base depth, .processing file base depth ∈ run.events → depth < run.visited.length

theorem Called.depth_le {source : Source} {file base : Path} {depth : Nat} (descended : Descended run)
    (called : Called source options follows start run file base depth) :
    depth ≤ run.visited.length := by
  cases depth with
  | zero => exact Nat.zero_le _
  | succ depth =>
    obtain ⟨d, ⟨parent, from', text, begun, -⟩, -⟩ := called
    exact descended parent from' depth begun

theorem Descended.note {event : Event} (descended : Descended run) (silent : event.read? = none) :
    Descended (run.note event) := by
  intro file base depth happened
  rcases List.mem_cons.mp happened with rfl | old
  · exact absurd silent nofun
  · exact descended file base depth old

theorem Descended.begin {source : Source} {file base : Path} {depth : Nat} (descended : Descended run)
    (near : depth ≤ run.visited.length) : Descended (run.begin source file base depth) := by
  have entered : (run.begin source file base depth).visited.length = run.visited.length + 1 := rfl
  intro file' base' depth' happened
  rw [entered]
  rcases List.mem_cons.mp happened with same | old
  · obtain ⟨-, -, rfl⟩ := Event.processing.inj same
    exact Nat.lt_succ_of_le near
  · exact Nat.lt_succ_of_lt (descended file' base' depth' old)

theorem Descended.step {source : Source} (descended : Descended run)
    (step : Step source options follows start run run') : Descended run' := by
  cases step with
  | resolved => exact descended.note rfl
  | notFound => exact descended.note rfl
  | again => exact descended.note rfl
  | tooDeep => exact descended.note rfl
  | expand called => exact descended.begin (called.depth_le descended)
  | unreadable => exact descended.note rfl

/-! ### Depth and the number of places -/

theorem Ledger.length_visited_le (ledger : Ledger store run) :
    run.visited.length ≤ store.places.length := by
  have inside : run.visited ⊆ store.places :=
    fun path member => Store.mem_places.mpr (ledger.places path member)
  exact (ledger.distinct.subperm inside).length_le

/-- A file that is still to be expanded takes one of the places that are left. -/
theorem Ledger.depth_lt {file base : Path} {depth : Nat} (ledger : Ledger store run)
    (descended : Descended run) (first : store.Place start)
    (called : Called store.source options follows start run file base depth)
    (new : ¬ run.HasVisited (store.source.settle file)) : depth < store.places.length := by
  have near := called.depth_le descended
  have begun : Ledger store (run.begin store.source file base depth) :=
    ledger.begin (called.place first) new
  have room : run.visited.length + 1 ≤ store.places.length := begun.length_visited_le
  omega

theorem Clear.step (clear : Clear run.events) (ledger : Ledger store run) (descended : Descended run)
    (first : store.Place start) (wide : store.places.length ≤ options.maxDepth)
    (step : Step store.source options follows start run run') : Clear run'.events := by
  cases step with
  | tooDeep called new deep =>
    have shallow := ledger.depth_lt descended first called new
    omega
  | _ => exact clear.cons rfl

/-- What is known of a run whose limit is no smaller than the number of places. -/
structure Bounded (store : Store) (run : Run) : Prop extends Ledger store run where
  descended : Descended run
  clear : Clear run.events

theorem Bounded.step (bounded : Bounded store run) (first : store.Place start)
    (wide : store.places.length ≤ options.maxDepth)
    (step : Step store.source options follows start run run') : Bounded store run' := by
  obtain ⟨ledger, descended, clear⟩ := bounded
  exact ⟨ledger.step first step, descended.step step, clear.step ledger descended first wide step⟩

theorem Bounded.steps (bounded : Bounded store run) (first : store.Place start)
    (wide : store.places.length ≤ options.maxDepth)
    (steps : Steps store.source options follows start run run') : Bounded store run' := by
  induction steps with
  | refl => exact bounded
  | tail _ step ih => exact ih.step first wide step

theorem bounded_started (store : Store) (root : Path) : Bounded store { events := [.started root] } := by
  refine ⟨ledger_started store root, ?_, List.forall_mem_singleton.mpr rfl⟩
  intro file base depth happened
  exact absurd (List.mem_singleton.mp happened) nofun

/-- With any limit that is no smaller than the number of places of the store, a merge turns back from
no file, expands each of them above that depth, and so calls for none below it. All these limits give
one result, with no more files than there are places. -/
theorem merge_bottoms_out (store : Store) (options : Options) {root : Path}
    (present : store.present root = true) :
    ∃ merged run,
      (∀ limit, store.places.length ≤ limit →
        merge store.source { options with maxDepth := limit } root = (.ok merged, run.events.reverse)) ∧
      (∀ file limit, .tooDeep file limit ∉ run.events) ∧
      (∀ file base depth, .processing file base depth ∈ run.events → depth < store.places.length) ∧
      (∀ file base depth,
        Called store.source options (fun _ _ => True) root.normalize run file base depth →
          depth ≤ store.places.length) ∧
      merged.filesProcessed ≤ store.places.length := by
  let least : Options := { options with maxDepth := store.places.length }
  have bounded : Bounded store (fromRoot rescan store least root).2 :=
    (bounded_started store root.normalize).steps (Store.place_normalize present) (Nat.le_refl _)
      (steps_fromRoot threads_rescan store least root)
  have short := bounded.toLedger.length_visited_le
  refine ⟨⟨(fromRoot rescan store least root).1, _⟩, (fromRoot rescan store least root).2,
    fun limit wide => ?_, fun file limit deep => ?_, fun file base depth happened => ?_,
    fun file base depth called => ?_, short⟩
  · have encoding : ({ options with maxDepth := limit } : Options).encoding = least.encoding := rfl
    have agree := agree_fromRoot encoding wide store root
    rw [merge_of_present _ present, agree.eq_of_clear bounded.clear]
  · exact absurd (bounded.clear _ deep) nofun
  · exact Nat.lt_of_lt_of_le (bounded.descended file base depth happened) short
  · exact Nat.le_trans (called.depth_le bounded.descended) short

/-- Two files that import each other, each time from a base that is spelled longer. The limit of fifty
does with them what the largest one of 64 bits does. -/
theorem merge_bottoms_out_climb :
    let store : Store := ⟨[(.ofString "/m.tex", "\\import\x7bx/..\x7d\x7ba\x7d".toList),
      (.ofString "/a.tex", "\\import\x7by/..\x7d\x7bm\x7d\\input\x7b/\x7d".toList)]⟩
    store.present (.ofString "/m.tex") = true ∧ store.places.length ≤ 50 ∧
      ∃ merged events, merge store.source {} (.ofString "/m.tex") = (.ok merged, events) ∧
        merge store.source { maxDepth := 18446744073709551615 } (.ofString "/m.tex") = (.ok merged, events) ∧
        merged.filesProcessed ≤ store.places.length := by
  intro store
  have present : store.present (.ofString "/m.tex") = true := by decide +kernel
  have few : store.places.length ≤ 50 := by decide +kernel
  have wide : store.places.length ≤ 18446744073709551615 := Nat.le_trans few (by decide)
  obtain ⟨merged, run, whole, -, -, -, short⟩ := merge_bottoms_out store {} present
  exact ⟨present, few, merged, _, whole 50 few, whole _ wide, short⟩

end TexFlat.Merge
