import TexFlat.Proofs.Merge.Reads

/-!
# A higher limit

Two merges of a document that differ in the deepest level do the same until the one with the lower
limit turns back for the first time. If it never does, they are the same.
-/

namespace TexFlat.Merge

open Directive (Segment Kind)

variable {store : Store} {source : Source} {options options' : Options} {fill : Fill} {run run' : Run}
  {replace replace' : Run → Directive → Text × Run}

/-! ### Up to the first cut -/

def Event.isTooDeep : Event → Bool
  | tooDeep .. => true
  | _ => false

/-- A run with these events turned back nowhere. -/
def Clear (events : List Event) : Prop := ∀ event ∈ events, event.isTooDeep = false

theorem Clear.cons {event : Event} {events : List Event} (clear : Clear events)
    (shallow : event.isTooDeep = false) : Clear (event :: events) :=
  List.forall_mem_cons.mpr ⟨shallow, clear⟩

/-- The same was done up to where the first run turned back for the first time. -/
def Parts (events events' : List Event) : Prop :=
  ∃ file limit shared, .tooDeep file limit :: shared <:+ events ∧ shared <:+ events' ∧ Clear shared

theorem Parts.of_suffix {events events' later later' : List Event} (parts : Parts events events')
    (behind : events <:+ later) (behind' : events' <:+ later') : Parts later later' := by
  obtain ⟨file, limit, shared, cut, rest, clear⟩ := parts
  exact ⟨file, limit, shared, cut.trans behind, rest.trans behind', clear⟩

/-- Two calls come to the same and the first one does not turn back anywhere, or it does. -/
def Agree (result result' : Text × Run) : Prop :=
  (result' = result ∧ Clear result.2.events) ∨ Parts result.2.events result'.2.events

section Passes

variable (onward : ∀ run d, run.events <:+ (replace run d).2.events)
  (onward' : ∀ run d, run.events <:+ (replace' run d).2.events)
  (each : ∀ run d, Clear run.events → Agree (replace run d) (replace' run d))

include onward onward' each

theorem agree_splice (done : Text) (run : Run) (segments : List Segment) (clear : Clear run.events) :
    Agree (splice replace done run segments) (splice replace' done run segments) := by
  induction segments generalizing done run with
  | nil => exact .inl ⟨rfl, clear⟩
  | cons s others ih =>
    cases s with
    | char c => exact ih (c :: done) run clear
    | directive d =>
      rcases each run d clear with ⟨same, clear⟩ | parts
      · simp only [splice, same]
        exact ih _ _ clear
      · exact .inr (parts.of_suffix (events_suffix_splice onward _ _ others)
          (events_suffix_splice onward' _ _ others))

theorem agree_foldl_pass (kinds : List Kind) (state : Text × Run) (clear : Clear state.2.events) :
    Agree (kinds.foldl (pass replace) state) (kinds.foldl (pass replace') state) := by
  induction kinds generalizing state with
  | nil => exact .inl ⟨rfl, clear⟩
  | cons kind kinds ih =>
    rw [List.foldl_cons, List.foldl_cons]
    have first : Agree (pass replace state kind) (pass replace' state kind) :=
      agree_splice onward onward' each [] state.2 _ clear
    rcases first with ⟨same, clear⟩ | parts
    · rw [same]
      exact ih _ clear
    · exact .inr (parts.of_suffix (events_suffix_foldl_pass onward kinds _)
        (events_suffix_foldl_pass onward' kinds _))

end Passes

theorem agree_replacement {visit visit' : Run → (file base : Path) → Text × Run}
    (calls : ∀ run file base, Clear run.events → Agree (visit run file base) (visit' run file base))
    (base : Path) (run : Run) (d : Directive) (clear : Clear run.events) :
    Agree (replacement source visit base run d) (replacement source visit' base run d) := by
  cases found : source.resolve? d.name (d.searchDir base) with
  | none =>
    rw [replacement_of_none found, replacement_of_none found]
    exact .inl ⟨rfl, clear.cons rfl⟩
  | some target =>
    have noted : Clear (run.note (.resolved d (d.searchDir base) target)).events := clear.cons rfl
    rw [replacement_of_some found, replacement_of_some found]
    rcases calls _ target (d.searchDir base) noted with ⟨same, clear⟩ | parts
    · exact .inl ⟨by simp only [same], clear⟩
    · exact .inr parts

theorem agree_visitBy (encoding : options'.encoding = options.encoding)
    (deeper : options.maxDepth ≤ options'.maxDepth) {levels levels' depth : Nat}
    (total : depth + levels = options.maxDepth + 1) (total' : depth + levels' = options'.maxDepth + 1)
    (run : Run) (file base : Path) (clear : Clear run.events) :
    Agree (visitBy rescan source options levels run file base)
      (visitBy rescan source options' levels' run file base) := by
  induction levels generalizing levels' depth run file base with
  | zero =>
    by_cases visited : run.HasVisited (source.settle file)
    · rw [visitBy_of_visited visited, visitBy_of_visited visited]
      exact .inl ⟨rfl, clear.cons rfl⟩
    · rw [visitBy_zero visited]
      have later := @events_suffix_visitBy source options' rescan _ threads_rescan levels' run file base
      exact .inr ⟨file, options.maxDepth, run.events, List.suffix_refl _, later, clear⟩
  | succ levels ih =>
    obtain ⟨below, rfl⟩ : ∃ below, levels' = below + 1 := ⟨levels' - 1, by omega⟩
    by_cases visited : run.HasVisited (source.settle file)
    · rw [visitBy_of_visited visited, visitBy_of_visited visited]
      exact .inl ⟨rfl, clear.cons rfl⟩
    · have here : options.maxDepth - levels = depth := by omega
      have here' : options'.maxDepth - below = depth := by omega
      have begun : Clear (run.begin source file base depth).events := clear.cons rfl
      cases read : source.read options.encoding file with
      | error cause =>
        rw [visitBy_of_error visited read, visitBy_of_error visited (encoding ▸ read), here, here']
        exact .inl ⟨rfl, begun.cons rfl⟩
      | ok text =>
        rw [visitBy_of_ok visited read, visitBy_of_ok visited (encoding ▸ read), here, here']
        have calls (run : Run) (file base : Path) (clear : Clear run.events) :=
          @ih below (depth + 1) (by omega) (by omega) run file base clear
        have onward (options : Options) (levels : Nat) := events_suffix_replacement source
          (@events_suffix_visitBy source options rescan _ threads_rescan levels) base
        exact agree_foldl_pass (onward options levels) (onward options' below)
          (agree_replacement calls base) Kind.passes (text, run.begin source file base depth) begun

theorem agree_fromRoot (encoding : options'.encoding = options.encoding)
    (deeper : options.maxDepth ≤ options'.maxDepth) (store : Store) (root : Path) :
    Agree (fromRoot rescan store options root) (fromRoot rescan store options' root) :=
  agree_visitBy encoding deeper (Nat.zero_add _) (Nat.zero_add _) _ _ _ (List.forall_mem_singleton.mpr rfl)

theorem Agree.takeWhile_prefix {result result' : Text × Run} (agree : Agree result result') :
    result.2.events.reverse.takeWhile (fun event => !event.isTooDeep) <+: result'.2.events.reverse := by
  rcases agree with ⟨rfl, -⟩ | ⟨file, limit, shared, ⟨later, cut⟩, rest, clear⟩
  · exact List.takeWhile_prefix _
  · have shallow : ∀ event ∈ shared.reverse, (!event.isTooDeep) = true := by
      intro event member
      rw [clear event (List.mem_reverse.mp member)]
      rfl
    rw [← cut, List.reverse_append, List.reverse_cons, List.append_assoc,
      List.takeWhile_append_of_pos shallow]
    simpa [Event.isTooDeep] using List.reverse_prefix.mpr rest

theorem Agree.eq_of_clear {result result' : Text × Run} (agree : Agree result result')
    (clear : Clear result.2.events) : result' = result := by
  rcases agree with ⟨same, -⟩ | ⟨file, limit, shared, cut, -⟩
  · exact same
  · exact absurd (clear _ (cut.subset List.mem_cons_self)) nofun

end TexFlat.Merge
