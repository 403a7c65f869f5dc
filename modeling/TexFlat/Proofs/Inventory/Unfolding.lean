import TexFlat.Proofs.Inventory.Reachability

/-!
# Inventories of acyclic documents

An inventory does not go on from a file that it has listed with the same base before. The unfolding of
a document does: it has a file each time that something leads to it, with all that comes below. If the
inventory has levels enough for every chain of references, it is the unfolding without the repetitions.
-/

namespace TexFlat

namespace Inventory

open Directive (Kind)
open Relation (ReflTransGen TransGen)

variable {store : Store} {source : Source} {options : Options} {p p' q r : Path × Path} {d : Directive}
  {ds : List Directive} {levels : Nat} {entries entries' tree tree' : List Entry}

/-- Two spellings of a node. -/
def Alike (p q : Path × Path) : Prop := p.1.Same q.1 ∧ p.2.Same q.2

instance (p q : Path × Path) : Decidable (Alike p q) := inferInstanceAs (Decidable (_ ∧ _))

/-- The directives of a file, its inputs first, then its imports, then its includes. A file that cannot
be read has none. -/
def directives (source : Source) (options : Options) (file : Path) : List Directive :=
  match source.read options.encoding file with
  | .error _ => []
  | .ok text => (Kind.passes.flatMap fun kind => Directive.scan text kind).map (·.directive)

/-- The unfolding of directives: the target of each one that is resolved, with the unfolding of what
that has. -/
inductive Unfolds (source : Source) (options : Options) : (base : Path) → List Directive → List Entry → Prop
  | none {base : Path} : Unfolds source options base [] []
  | skipped {base : Path} {d : Directive} {ds : List Directive} {tree : List Entry} :
    source.resolve? d.name (d.searchDir base) = none → Unfolds source options base ds tree →
    Unfolds source options base (d :: ds) tree
  | followed {base target : Path} {d : Directive} {ds : List Directive} {below tree : List Entry} :
    source.resolve? d.name (d.searchDir base) = some target →
    Unfolds source options (d.searchDir base) (directives source options target) below →
    Unfolds source options base ds tree →
    Unfolds source options base (d :: ds)
      (⟨target, d.searchDir base, .reference d.kind⟩ :: (below ++ tree))

/-- The nodes that the directives of a node lead to. -/
def targets (source : Source) (options : Options) (p : Path × Path) : List (Path × Path) :=
  (directives source options p.1).filterMap fun d =>
    (source.resolve? d.name (d.searchDir p.2)).map (·, d.searchDir p.2)

def Joined (source : Source) (options : Options) (p q : Path × Path) : Prop :=
  ∃ kind, Edge source options kind p q

/-- No chain of links from the node is longer than `levels`. -/
def Low (source : Source) (options : Options) : (levels : Nat) → Path × Path → Prop
  | 0, p => targets source options p = []
  | levels + 1, p => ∀ q ∈ targets source options p, Low source options levels q

instance decidableLow (source : Source) (options : Options) :
    (levels : Nat) → (p : Path × Path) → Decidable (Low source options levels p)
  | 0, _ => inferInstanceAs (Decidable (_ = []))
  | levels + 1, _ =>
    have := decidableLow source options levels
    inferInstanceAs (Decidable (∀ q ∈ _, _))

/-! ### Links and chains -/

theorem mem_targets : q ∈ targets source options p ↔
    ∃ d ∈ directives source options p.1, q.2 = d.searchDir p.2 ∧ source.resolve? d.name q.2 = some q.1 := by
  simp only [targets, List.mem_filterMap, Option.map_eq_some_iff]
  constructor
  · rintro ⟨d, member, target, found, rfl⟩
    exact ⟨d, member, rfl, found⟩
  · rintro ⟨d, member, dirs, found⟩
    exact ⟨d, member, q.1, dirs ▸ found, by rw [← dirs]⟩

theorem directives_eq {file : Path} {text : Text} (read : source.read options.encoding file = .ok text) :
    directives source options file = references text := by
  simp only [directives, read]
  exact Merge.map_directive_scan text

theorem joined_iff : Joined source options p q ↔ q ∈ targets source options p := by
  rw [Joined, ← leads_iff, mem_targets]
  constructor
  · rintro ⟨text, read, d, member, dirs, found⟩
    exact ⟨d, (directives_eq read).symm ▸ member, dirs, dirs ▸ found⟩
  · rintro ⟨d, member, dirs, found⟩
    cases read : source.read options.encoding p.1 with
    | error cause =>
      simp only [directives, read] at member
      exact absurd member List.not_mem_nil
    | ok text => exact ⟨text, read, d, directives_eq read ▸ member, dirs, found⟩

theorem Low.exists_of_joined (low : Low source options levels p) (joined : Joined source options p q) :
    ∃ left, levels = left + 1 ∧ Low source options left q := by
  have member := joined_iff.mp joined
  cases levels with
  | zero =>
    have none : targets source options p = [] := low
    rw [none] at member
    exact absurd member List.not_mem_nil
  | succ left => exact ⟨left, rfl, low q member⟩

theorem Low.of_reachable (low : Low source options levels p) (reached : Reachable source options p q) :
    ∃ left, Low source options left q := by
  induction reached with
  | refl => exact ⟨levels, low⟩
  | tail _ joined ih =>
    obtain ⟨left, below⟩ := ih
    obtain ⟨fewer, -, below⟩ := below.exists_of_joined joined
    exact ⟨fewer, below⟩

theorem Route.prepend {kind : Kind} (link : Link source options kind d p q)
    (route : Route source options q ds r) : Route source options p (d :: ds) r := by
  induction route with
  | here => exact Route.link .here link
  | link _ last ih => exact ih.link last

theorem low_of_routes (short : ∀ ds q, Route source options p ds q → ds.length ≤ levels) :
    Low source options levels p := by
  induction levels generalizing p with
  | zero =>
    refine List.eq_nil_iff_forall_not_mem.mpr fun q member => ?_
    obtain ⟨kind, d, link⟩ := joined_iff.mpr member
    exact absurd (short _ _ (Route.link .here link)) (by simp)
  | succ levels ih =>
    intro q member
    obtain ⟨kind, d, link⟩ := joined_iff.mpr member
    refine ih fun ds r route => ?_
    have longer := short _ _ (route.prepend link)
    simpa using longer

theorem Low.length_le (low : Low source options levels p) (route : Route source options p ds q) :
    ds.length ≤ levels := by
  have below : ∃ left, levels = ds.length + left ∧ Low source options left q := by
    induction route with
    | here => exact ⟨levels, by simp, low⟩
    | link _ link ih =>
      obtain ⟨left, rfl, below⟩ := ih
      obtain ⟨fewer, rfl, lower⟩ := below.exists_of_joined ⟨_, _, link⟩
      refine ⟨fewer, ?_, lower⟩
      simp only [List.length_append, List.length_singleton]
      omega
  obtain ⟨left, rfl, -⟩ := below
  exact Nat.le_add_right _ _

/-! ### Spellings of a node -/

theorem Alike.symm (alike : Alike p q) : Alike q p := ⟨Eq.symm alike.1, Eq.symm alike.2⟩

theorem Alike.trans (alike : Alike p q) (alike' : Alike q r) : Alike p r :=
  ⟨Eq.trans alike.1 alike'.1, Eq.trans alike.2 alike'.2⟩

theorem alike_refl (p : Path × Path) : Alike p p := ⟨rfl, rfl⟩

/-- A node leads to the same files under another spelling, though perhaps with bases spelled in another
way too. -/
theorem Joined.of_alike (joined : Joined store.source options p q) (alike : Alike p p') :
    ∃ q', Alike q q' ∧ Joined store.source options p' q' := by
  obtain ⟨text, read, d, member, dirs, found⟩ := leads_iff.mpr joined
  have read' : store.source.read options.encoding p'.1 = .ok text := by
    rw [Store.read_eq_ok_iff, ← Store.content?_eq_of_normalize_eq (Path.normalize_eq_of_same alike.1),
      ← Store.read_eq_ok_iff, read]
  obtain ⟨dir, same, leads⟩ := Leads.of_same ⟨text, read', d, member, dirs, found⟩ alike.2
  exact ⟨(q.1, dir), ⟨rfl, same⟩, leads_iff.mp leads⟩

theorem reaches_of_alike (chain : ReflTransGen (Joined store.source options) p q) (alike : Alike p p') :
    ∃ q', Alike q q' ∧ ReflTransGen (Joined store.source options) p' q' := by
  induction chain with
  | refl => exact ⟨p', alike, .refl⟩
  | tail _ joined ih =>
    obtain ⟨q', same, chain⟩ := ih
    obtain ⟨r', same', joined'⟩ := joined.of_alike same
    exact ⟨r', same', chain.tail joined'⟩

/-- A node from which all chains are short is on no cycle. -/
theorem Low.acyclic (low : Low store.source options levels p)
    (chain : TransGen (Joined store.source options) p q) : ¬ Alike q p := by
  intro alike
  induction levels generalizing p q with
  | zero =>
    obtain ⟨r, first, -⟩ := TransGen.head'_iff.mp chain
    obtain ⟨left, none, -⟩ := low.exists_of_joined first
    exact absurd none nofun
  | succ levels ih =>
    obtain ⟨r, first, rest⟩ := TransGen.head'_iff.mp chain
    obtain ⟨r', same, again⟩ := first.of_alike alike.symm
    exact ih (low r (joined_iff.mp first)) (.tail' rest again) same.symm

/-! ### Unfoldings -/

theorem Unfolds.unique {base : Path} (unfolds : Unfolds source options base ds tree)
    (unfolds' : Unfolds source options base ds tree') : tree = tree' := by
  induction unfolds generalizing tree' with
  | none =>
    cases unfolds'
    rfl
  | skipped missing _ ih =>
    cases unfolds' with
    | skipped _ rest => exact ih rest
    | followed found => exact absurd (missing.symm.trans found) nofun
  | followed found _ _ below ih =>
    cases unfolds' with
    | skipped missing => exact absurd (missing.symm.trans found) nofun
    | followed found' below' rest =>
      obtain rfl := Option.some.inj (found.symm.trans found')
      rw [below below', ih rest]

theorem Low.exists_unfolds (low : Low source options levels p) :
    ∃ tree, Unfolds source options p.2 (directives source options p.1) tree := by
  induction levels generalizing p with
  | zero =>
    have none : ∀ d ∈ directives source options p.1, source.resolve? d.name (d.searchDir p.2) = none := by
      have empty : targets source options p = [] := low
      simpa [targets] using empty
    refine ⟨[], ?_⟩
    generalize directives source options p.1 = ds at none
    induction ds with
    | nil => exact .none
    | cons d ds ih =>
      exact .skipped (none d List.mem_cons_self) (ih fun d' member => none d' (List.mem_cons_of_mem d member))
  | succ levels ih =>
    have each (ds : List Directive) (inside : ∀ d ∈ ds, d ∈ directives source options p.1) :
        ∃ tree, Unfolds source options p.2 ds tree := by
      induction ds with
      | nil => exact ⟨[], .none⟩
      | cons d ds others =>
        obtain ⟨tree, rest⟩ := others fun d' member => inside d' (List.mem_cons_of_mem d member)
        cases found : source.resolve? d.name (d.searchDir p.2) with
        | none => exact ⟨tree, .skipped found rest⟩
        | some target =>
          have member : (target, d.searchDir p.2) ∈ targets source options p :=
            mem_targets.mpr ⟨d, inside d List.mem_cons_self, rfl, found⟩
          obtain ⟨below, unfolds⟩ := ih (low _ member)
          exact ⟨_, .followed found unfolds rest⟩
    exact each _ fun _ => id

theorem Unfolds.exists_target {base target : Path} (unfolds : Unfolds source options base ds tree)
    (member : d ∈ ds) (found : source.resolve? d.name (d.searchDir base) = some target) :
    ∃ entry ∈ tree, entry.node = (target, d.searchDir base) := by
  induction unfolds with
  | none => exact absurd member List.not_mem_nil
  | skipped missing _ ih =>
    rcases List.mem_cons.mp member with rfl | member
    · exact absurd (missing.symm.trans found) nofun
    · exact ih member found
  | followed found' _ _ _ ih =>
    rcases List.mem_cons.mp member with rfl | member
    · obtain rfl := Option.some.inj (found.symm.trans found')
      exact ⟨_, List.mem_cons_self, rfl⟩
    · obtain ⟨entry, inside, node⟩ := ih member found
      exact ⟨entry, List.mem_cons_of_mem _ (List.mem_append_right _ inside), node⟩

/-- An unfolding has all that its entries lead to. -/
theorem Unfolds.closed {base : Path} (unfolds : Unfolds source options base ds tree) {entry : Entry}
    (member : entry ∈ tree) (joined : Joined source options entry.node q) :
    ∃ entry' ∈ tree, entry'.node = q := by
  induction unfolds with
  | none => exact absurd member List.not_mem_nil
  | skipped _ _ ih => exact ih member
  | followed found unfolds _ below ih =>
    rcases List.mem_cons.mp member with rfl | member
    · obtain ⟨d', inside, dirs, found'⟩ := mem_targets.mp (joined_iff.mp joined)
      obtain ⟨entry', inside', node⟩ := unfolds.exists_target inside (dirs ▸ found')
      refine ⟨entry', List.mem_cons_of_mem _ (List.mem_append_left _ inside'), ?_⟩
      exact node.trans (Prod.ext rfl dirs.symm)
    · rcases List.mem_append.mp member with member | member
      · obtain ⟨entry', inside, node⟩ := below member
        exact ⟨entry', List.mem_cons_of_mem _ (List.mem_append_left _ inside), node⟩
      · obtain ⟨entry', inside, node⟩ := ih member
        exact ⟨entry', List.mem_cons_of_mem _ (List.mem_append_right _ inside), node⟩

theorem Unfolds.reached {base file : Path} (unfolds : Unfolds source options base ds tree)
    (inside : ∀ d ∈ ds, d ∈ directives source options file) {entry : Entry} (member : entry ∈ tree) :
    TransGen (Joined source options) (file, base) entry.node := by
  induction unfolds generalizing file with
  | none => exact absurd member List.not_mem_nil
  | skipped _ _ ih => exact ih (fun d' here => inside d' (List.mem_cons_of_mem _ here)) member
  | @followed base target d ds _ _ found _ _ below ih =>
    have first : Joined source options (file, base) (target, d.searchDir base) :=
      joined_iff.mpr (mem_targets.mpr ⟨d, inside d List.mem_cons_self, rfl, found⟩)
    rcases List.mem_cons.mp member with rfl | member
    · exact .single first
    · rcases List.mem_append.mp member with member | member
      · exact .head first (below (fun _ => id) member)
      · exact ih (fun d' here => inside d' (List.mem_cons_of_mem d here)) member

/-! ### Without repetitions -/

def Listed (entries : List Entry) (p : Path × Path) : Prop := ∃ entry ∈ entries, Alike entry.node p

instance (entries : List Entry) (p : Path × Path) : Decidable (Listed entries p) :=
  inferInstanceAs (Decidable (∃ entry ∈ entries, _))

def enter (entries : List Entry) (entry : Entry) : List Entry :=
  if Listed entries entry.node then entries else entries ++ [entry]

/-- The entries whose nodes were not there before. -/
def firsts (entries : List Entry) : List Entry :=
  entries.eraseDupsBy fun a b => decide (Alike b.node a.node)

theorem foldl_enter_nil (tree : List Entry) : tree.foldl enter [] = firsts tree := by
  have each (tree entries : List Entry) :
      List.eraseDupsBy.loop (fun a b : Entry => decide (Alike b.node a.node)) tree entries.reverse =
        tree.foldl enter entries := by
    induction tree generalizing entries with
    | nil => simp [List.eraseDupsBy.loop]
    | cons entry tree ih =>
      have listed : entries.reverse.any (fun b => decide (Alike b.node entry.node)) =
          decide (Listed entries entry.node) := by
        rw [Bool.eq_iff_iff, decide_eq_true_iff]
        simp [Listed]
      rw [List.foldl_cons, ← ih, List.eraseDupsBy.loop, listed, enter]
      by_cases here : Listed entries entry.node
      · simp [here]
      · simp [here]
  exact (each tree []).symm

theorem Listed.of_alike (listed : Listed entries p) (alike : Alike p q) : Listed entries q := by
  obtain ⟨entry, member, here⟩ := listed
  exact ⟨entry, member, here.trans alike⟩

theorem Listed.later (listed : Listed entries p) (grown : entries <+: entries') : Listed entries' p := by
  obtain ⟨entry, member, here⟩ := listed
  exact ⟨entry, grown.subset member, here⟩

theorem prefix_enter (entries : List Entry) (entry : Entry) : entries <+: enter entries entry := by
  unfold enter
  split
  · exact List.prefix_refl _
  · exact List.prefix_append _ _

theorem prefix_foldl_enter (entries tree : List Entry) : entries <+: tree.foldl enter entries := by
  induction tree generalizing entries with
  | nil => exact List.prefix_refl _
  | cons entry tree ih => exact (prefix_enter entries entry).trans (ih _)

theorem listed_foldl_enter {entry : Entry} (entries : List Entry) (member : entry ∈ tree) :
    Listed (tree.foldl enter entries) entry.node := by
  induction tree generalizing entries with
  | nil => exact absurd member List.not_mem_nil
  | cons first tree ih =>
    rcases List.mem_cons.mp member with rfl | member
    · have here : Listed (enter entries entry) entry.node := by
        unfold enter
        split
        · assumption
        · exact ⟨entry, List.mem_append_right _ List.mem_cons_self, alike_refl _⟩
      exact here.later (prefix_foldl_enter _ tree)
    · exact ih (enter entries first) member

theorem mem_of_mem_foldl_enter {entry : Entry} (member : entry ∈ tree.foldl enter entries) :
    entry ∈ entries ∨ entry ∈ tree := by
  induction tree generalizing entries with
  | nil => exact .inl member
  | cons first tree ih =>
    rcases ih member with old | new
    · unfold enter at old
      split at old
      · exact .inl old
      · rcases List.mem_append.mp old with old | here
        · exact .inl old
        · exact .inr (List.mem_cons.mpr (.inl (List.mem_singleton.mp here)))
    · exact .inr (List.mem_cons_of_mem first new)

theorem foldl_enter_of_listed (all : ∀ entry ∈ tree, Listed entries entry.node) :
    tree.foldl enter entries = entries := by
  induction tree with
  | nil => rfl
  | cons entry tree ih =>
    rw [List.foldl_cons, enter, if_pos (all entry List.mem_cons_self)]
    exact ih fun entry' member => all entry' (List.mem_cons_of_mem entry member)

/-! ### What was listed is followed up, but for what leads to the file at hand -/

/-- All that each of the entries leads to is listed, unless the entry itself leads to the node. -/
def Underway (source : Source) (options : Options) (entries : List Entry) (p : Path × Path) : Prop :=
  ∀ entry ∈ entries, (∀ q, Joined source options entry.node q → Listed entries q) ∨
    ∃ q, ReflTransGen (Joined source options) entry.node q ∧ Alike q p

/-- If a target of the node was listed before, then so was all that it leads to. -/
theorem Underway.listed (underway : Underway store.source options entries p)
    (low : Low store.source options levels p) (joined : Joined store.source options p q)
    (listed : Listed entries q) (chain : ReflTransGen (Joined store.source options) q r) :
    Listed entries r := by
  induction chain with
  | refl => exact listed
  | @tail r s chain onward ih =>
    obtain ⟨entry, member, alike⟩ := ih
    rcases underway entry member with followed | ⟨p', back, same⟩
    · obtain ⟨s', alike', onward'⟩ := onward.of_alike alike.symm
      exact (followed s' onward').of_alike alike'.symm
    · -- The target would lead back to the node.
      obtain ⟨p'', same', back'⟩ := reaches_of_alike back alike
      have round : TransGen (Joined store.source options) p p'' := .head' joined (chain.trans back')
      exact absurd (same'.symm.trans same) (low.acyclic round)

theorem Underway.add (underway : Underway store.source options entries p) {entry : Entry}
    (joined : Joined store.source options p entry.node) :
    Underway store.source options (entries ++ [entry]) entry.node := by
  intro other member
  rcases List.mem_append.mp member with member | member
  · rcases underway other member with followed | ⟨p', chain, same⟩
    · exact .inl fun q onward => (followed q onward).later (List.prefix_append _ _)
    · obtain ⟨q, alike, onward⟩ := joined.of_alike same.symm
      exact .inr ⟨q, chain.tail onward, alike.symm⟩
  · obtain rfl := List.mem_singleton.mp member
    exact .inr ⟨_, .refl, alike_refl _⟩

/-- An entry with the unfolding of all below it does not change what is underway. -/
theorem Underway.foldl_enter (underway : Underway source options entries p)
    (closed : ∀ entry ∈ tree, ∀ q, Joined source options entry.node q → ∃ entry' ∈ tree, entry'.node = q) :
    Underway source options (tree.foldl enter entries) p := by
  intro entry member
  rcases mem_of_mem_foldl_enter member with old | new
  · rcases underway entry old with followed | leads
    · exact .inl fun q onward => (followed q onward).later (prefix_foldl_enter entries tree)
    · exact .inr leads
  · left
    intro q onward
    obtain ⟨entry', inside, rfl⟩ := closed entry new q onward
    exact listed_foldl_enter entries inside

/-! ### What an inventory lists -/

theorem lists_iff {survey : Survey} {file base : Path} :
    survey.Lists file base ↔ Listed survey.entries (file, base) := Iff.rfl

theorem entries_visit_of_new {survey : Survey} {file base : Path} {origin : Origin}
    (place : store.Place file) (new : ¬ Listed survey.entries (file, base)) :
    (visit store.source options (levels + 1) survey file base origin).entries =
      ((directives store.source options file).foldl
        (follow store.source (visit store.source options levels) base)
        (survey.add ⟨file, base, origin⟩)).entries := by
  have unlisted : ¬ survey.Lists (store.source.settle file) base := by
    rw [place.settle]
    exact new
  cases read : store.source.read options.encoding file with
  | error cause =>
    rw [visit_of_error unlisted (place.settle.symm ▸ read), place.settle]
    simp only [directives, read]
    rfl
  | ok text => rw [visit_of_ok unlisted (place.settle.symm ▸ read), place.settle, directives_eq read]

theorem entries_foldl_follow {base file : Path} {survey : Survey}
    (unfolds : Unfolds store.source options base ds tree)
    (inside : ∀ d ∈ ds, d ∈ directives store.source options file)
    (low : Low store.source options levels (file, base))
    (underway : Underway store.source options survey.entries (file, base)) :
    (ds.foldl (follow store.source (visit store.source options levels) base) survey).entries =
      tree.foldl enter survey.entries := by
  induction unfolds generalizing levels file survey with
  | none => rfl
  | skipped missing _ ih =>
    rw [List.foldl_cons, follow_of_none missing]
    exact ih (fun d' here => inside d' (List.mem_cons_of_mem _ here)) low underway
  | @followed base target d ds below tree found unfolds _ inner rest =>
    have joined : Joined store.source options (file, base) (target, d.searchDir base) :=
      joined_iff.mpr (mem_targets.mpr ⟨d, inside d List.mem_cons_self, rfl, found⟩)
    have place := Store.place_of_resolve? found
    have others := fun d' here => inside d' (List.mem_cons_of_mem d here)
    rw [List.foldl_cons, follow_of_some found, ← List.cons_append, List.foldl_append]
    by_cases listed : Listed survey.entries (target, d.searchDir base)
    · have pruned : (⟨target, d.searchDir base, .reference d.kind⟩ :: below).foldl enter survey.entries =
          survey.entries := by
        refine foldl_enter_of_listed fun entry member => ?_
        refine underway.listed low joined listed ?_
        rcases List.mem_cons.mp member with rfl | member
        · exact .refl
        · exact (unfolds.reached (fun _ => id) member).to_reflTransGen
      rw [visit_of_listed (place.settle.symm ▸ listed), pruned]
      exact rest others low underway
    · obtain ⟨levels, rfl, lower⟩ := low.exists_of_joined joined
      -- The target is new, and so it is listed with what it leads to.
      have new : ¬ Listed (survey.note (.resolved d (d.searchDir base) target)).entries
          (target, d.searchDir base) := listed
      have first : enter survey.entries ⟨target, d.searchDir base, .reference d.kind⟩ =
          survey.entries ++ [⟨target, d.searchDir base, .reference d.kind⟩] := if_neg listed
      have entered : (visit store.source options (levels + 1)
          (survey.note (.resolved d (d.searchDir base) target)) target (d.searchDir base)
            (.reference d.kind)).entries =
          (⟨target, d.searchDir base, .reference d.kind⟩ :: below).foldl enter survey.entries := by
        rw [entries_visit_of_new place new, List.foldl_cons, first]
        exact inner (fun _ => id) lower (underway.add joined)
      have whole : Unfolds store.source options base [d]
          (⟨target, d.searchDir base, .reference d.kind⟩ :: below) := by
        simpa using Unfolds.followed found unfolds .none
      rw [← entered]
      refine rest others low ?_
      rw [entered]
      exact underway.foldl_enter fun entry member q onward => whole.closed member onward

/-- If no chain of references from the root is longer than the limit, no node leads back to itself. There
is one unfolding then, and the inventory has each entry of it whose node was not there before. -/
theorem discover_eq_unfolding (options : Options) {store : Store} {root : Path}
    (present : store.present root = true)
    (short : ∀ ds node, Route store.source options (root.normalize, root.normalize.directory) ds node →
      ds.length ≤ options.maxDepth) :
    (∀ p q, Reachable store.source options (root.normalize, root.normalize.directory) p →
      TransGen (Joined store.source options) p q → ¬ Alike q p) ∧
    ∃ tree,
      (∀ other, Unfolds store.source options root.normalize.directory
        (directives store.source options root.normalize) other ↔ other = tree) ∧
      (discover store.source options root).1 =
        .ok (firsts (⟨root.normalize, root.normalize.directory, .root⟩ :: tree)) := by
  have low : Low store.source options options.maxDepth (root.normalize, root.normalize.directory) :=
    low_of_routes short
  refine ⟨fun p q reached chain => ?_, ?_⟩
  · obtain ⟨left, below⟩ := low.of_reachable reached
    exact below.acyclic chain
  · obtain ⟨tree, unfolds⟩ := low.exists_unfolds
    refine ⟨tree, fun other => ⟨fun unfolds' => unfolds'.unique unfolds, fun same => same ▸ unfolds⟩, ?_⟩
    have place := Store.place_normalize present
    have new : ¬ Listed ({} : Survey).entries (root.normalize, root.normalize.directory) :=
      fun ⟨_, member, _⟩ => List.not_mem_nil member
    have alone : Underway store.source options
        (({} : Survey).add ⟨root.normalize, root.normalize.directory, .root⟩).entries
          (root.normalize, root.normalize.directory) := by
      intro entry member
      obtain rfl := List.mem_singleton.mp member
      exact .inr ⟨_, .refl, alike_refl _⟩
    rw [discover_of_present options present, fromRoot, entries_visit_of_new place new,
      entries_foldl_follow unfolds (fun _ => id) low alone, ← foldl_enter_nil]
    rfl

/-- A file that three others ask for, one of them twice and with another base. -/
theorem discover_eq_unfolding_diamond :
    let store : Store := ⟨[
      (.ofString "/m.tex", "\\input\x7ba\x7d\\import\x7bs\x7d\x7bb\x7d\\include\x7bc\x7d".toList),
      (.ofString "/a.tex", "\\include\x7bc\x7d".toList), (.ofString "/c.tex", "C".toList),
      (.ofString "/s/b.tex", "\\input\x7b../c\x7d\\include\x7b../c\x7d".toList)]⟩
    let root : Path := (Path.ofString "/m.tex").normalize
    store.present (.ofString "/m.tex") = true ∧
      (∀ ds node, Route store.source { maxDepth := 2 } (root, root.directory) ds node → ds.length ≤ 2) ∧
      ∃ tree, Unfolds store.source { maxDepth := 2 } root.directory
          (directives store.source { maxDepth := 2 } root) tree ∧
        firsts (⟨root, root.directory, .root⟩ :: tree) =
          [⟨.ofString "/m.tex", .ofString "/", .root⟩,
            ⟨.ofString "/a.tex", .ofString "/", .reference .inputFile⟩,
            ⟨.ofString "/c.tex", .ofString "/", .reference .includeFile⟩,
            ⟨.ofString "/s/b.tex", .ofString "/s", .reference .importFile⟩,
            ⟨.ofString "/c.tex", .ofString "/s", .reference .inputFile⟩] := by
  intro store root
  have present : store.present (.ofString "/m.tex") = true := by decide +kernel
  have low : Low store.source { maxDepth := 2 } 2 (root, root.directory) := by decide +kernel
  have short : ∀ ds node, Route store.source { maxDepth := 2 } (root, root.directory) ds node →
      ds.length ≤ 2 := fun _ _ route => low.length_le route
  obtain ⟨-, tree, only, lists⟩ := discover_eq_unfolding { maxDepth := 2 } present short
  refine ⟨present, short, tree, (only tree).mpr rfl, Except.ok.inj (lists.symm.trans ?_)⟩
  decide +kernel

end Inventory
end TexFlat
