import TexFlat.Proofs.Directive.Finding
import TexFlat.Proofs.Inventory.Coverage

/-!
# Inventories and the graph of references

A node is a file with the base that its references start from. A directive in its text is an edge to
the file that it leads to, and the base of that file is where it was looked for. The entries of an
inventory are nodes that are reached from the root, each by an edge from an entry before it. If the
inventory turned back nowhere, they are all of these nodes.
-/

namespace TexFlat.Inventory

open Directive (Kind)

variable {store : Store} {source : Source} {options : Options} {start : Path} {p q : Path × Path}
  {kind : Kind} {d : Directive} {entries : List Entry} {survey survey' : Survey}

def Entry.node (entry : Entry) : Path × Path := (entry.path, entry.base)

/-- A scan for the kind finds the directive in the text of one file, and it leads to the other. -/
def Link (source : Source) (options : Options) (kind : Kind) (d : Directive) (p q : Path × Path) : Prop :=
  ∃ text, source.read options.encoding p.1 = .ok text ∧ (∃ o ∈ Directive.scan text kind, o.directive = d) ∧
    q.2 = d.searchDir p.2 ∧ source.resolve? d.name q.2 = some q.1

def Edge (source : Source) (options : Options) (kind : Kind) (p q : Path × Path) : Prop :=
  ∃ d, Link source options kind d p q

def Reachable (source : Source) (options : Options) (p q : Path × Path) : Prop :=
  Relation.ReflTransGen (fun p q => ∃ kind, Edge source options kind p q) p q

/-- A chain of links, with its directives in order. -/
inductive Route (source : Source) (options : Options) (p : Path × Path) : List Directive → Path × Path → Prop
  | here : Route source options p [] p
  | link {ds : List Directive} {q r : Path × Path} {kind : Kind} {d : Directive} :
    Route source options p ds q → Link source options kind d q r → Route source options p (ds ++ [d]) r

/-! ### Edges -/

theorem mem_references {text : Text} :
    d ∈ references text ↔ ∃ kind, ∃ o ∈ Directive.scan text kind, o.directive = d := by
  rw [← Merge.map_directive_scan, List.mem_map]
  constructor
  · rintro ⟨o, member, rfl⟩
    obtain ⟨kind, -, found⟩ := List.mem_flatMap.mp member
    exact ⟨kind, o, found, rfl⟩
  · rintro ⟨kind, o, found, rfl⟩
    have followed : kind ∈ Kind.passes := by cases kind <;> decide
    exact ⟨o, List.mem_flatMap.mpr ⟨kind, followed, found⟩, rfl⟩

theorem leads_iff : Leads source options p.1 p.2 q.1 q.2 ↔ ∃ kind, Edge source options kind p q := by
  constructor
  · rintro ⟨text, read, d, member, dirs, found⟩
    obtain ⟨kind, stands⟩ := mem_references.mp member
    exact ⟨kind, d, text, read, stands, dirs, found⟩
  · rintro ⟨kind, d, text, read, stands, dirs, found⟩
    exact ⟨text, read, d, mem_references.mpr ⟨kind, stands⟩, dirs, found⟩

theorem Link.kinds (link : Link source options kind d p q) :
    d.kind = kind ∧ (d.directory.isSome ↔ d.kind = .importFile) := by
  obtain ⟨text, -, ⟨o, member, rfl⟩, -⟩ := link
  have named : o.directive ∈ (Directive.scan text kind).map (·.directive) := List.mem_map_of_mem member
  rw [Directive.scan, Merge.map_directive_occurrencesFrom] at named
  obtain ⟨rest, -, found⟩ := Directive.exists_at?_of_mem_ofText named
  exact Directive.kind_of_at? found

/-- Only an import changes the base. -/
theorem Edge.base_eq (edge : Edge source options kind p q) (stays : kind ≠ .importFile) : q.2 = p.2 := by
  obtain ⟨d, link⟩ := edge
  obtain ⟨same, imports⟩ := link.kinds
  obtain ⟨text, -, -, dirs, -⟩ := link
  have none : d.directory = none := by
    rw [← Option.not_isSome_iff_eq_none, imports, same]
    exact stays
  rw [dirs, Directive.searchDir, none]

/-! ### Routes -/

theorem Route.reachable {ds : List Directive} (route : Route source options p ds q) :
    Reachable source options p q := by
  induction route with
  | here => exact .refl
  | link _ link ih => exact ih.tail ⟨_, _, link⟩

theorem Route.base_eq {ds : List Directive} (route : Route source options p ds q) :
    q.2 = (ds.filterMap (·.directory)).foldl (fun base directory => base.join ⟨directory⟩) p.2 := by
  induction route with
  | here => rfl
  | @link ds q r kind d _ link ih =>
    obtain ⟨text, -, -, dirs, -⟩ := link
    rw [dirs, ih, List.filterMap_append, List.foldl_append]
    unfold Directive.searchDir
    cases named : d.directory with
    | none => simp [named]
    | some directory => simp [named]

/-! ### Every entry comes from one before it -/

inductive Grown (source : Source) (options : Options) (start : Path) : List Entry → Prop
  | root : Grown source options start [⟨start, start.directory, .root⟩]
  | reference {entries : List Entry} {parent entry : Entry} {kind : Kind} {d : Directive} :
    Grown source options start entries → parent ∈ entries →
    Link source options kind d parent.node entry.node → entry.origin = .reference kind →
    Grown source options start (entries ++ [entry])

theorem Grown.head? (grown : Grown source options start entries) :
    entries.head? = some ⟨start, start.directory, .root⟩ := by
  induction grown with
  | root => rfl
  | reference _ _ _ _ ih => rw [List.head?_append, ih]; rfl

theorem Grown.route (grown : Grown source options start entries) :
    ∀ entry ∈ entries, ∃ ds, Route source options (start, start.directory) ds entry.node := by
  induction grown with
  | root =>
    intro entry member
    obtain rfl := List.mem_singleton.mp member
    exact ⟨[], .here⟩
  | reference _ inside link _ ih =>
    intro entry member
    rcases List.mem_append.mp member with member | member
    · exact ih entry member
    · obtain rfl := List.mem_singleton.mp member
      obtain ⟨ds, route⟩ := ih _ inside
      exact ⟨_, route.link link⟩

theorem Grown.exists_parent (grown : Grown source options start entries) {before after : List Entry}
    {entry : Entry} (cut : entries = before ++ entry :: after) (later : before ≠ []) :
    ∃ kind, entry.origin = .reference kind ∧
      ∃ parent ∈ before, Edge source options kind parent.node entry.node := by
  induction grown generalizing after with
  | root =>
    have length := congrArg List.length cut
    have filled := List.length_pos_iff.mpr later
    simp only [List.length_append, List.length_cons, List.length_nil] at length
    omega
  | @reference entries parent last kind d _ inside link origin ih =>
    rcases List.eq_nil_or_concat after with rfl | ⟨others, final, rfl⟩
    · obtain ⟨rfl, same⟩ := List.append_inj' cut rfl
      obtain ⟨rfl, -⟩ := List.cons.inj same
      exact ⟨kind, origin, parent, inside, d, link⟩
    · rw [List.concat_eq_append, ← List.cons_append, ← List.append_assoc] at cut
      obtain ⟨rfl, -⟩ := List.append_inj' cut rfl
      exact ih rfl

theorem grown_step (place : store.Place start)
    (grown : survey.entries = [] ∨ Grown store.source options start survey.entries)
    (step : Step store.source options start survey survey') :
    survey'.entries = [] ∨ Grown store.source options start survey'.entries := by
  cases step with
  | note event => exact grown
  | @list file base origin near new =>
    right
    cases near with
    | start =>
      rw [place.settle] at new ⊢
      rcases grown with empty | grown
      · have entries : (survey.add ⟨start, start.directory, .root⟩).entries = _ :=
          congrArg (· ++ [_]) empty
        rw [entries]
        exact .root
      · exact absurd ⟨_, List.mem_of_mem_head? grown.head?, rfl, rfl⟩ new
    | @reference parent text d _ inside read stands found =>
      rcases grown with empty | grown
      · rw [empty] at inside
        exact absurd inside List.not_mem_nil
      · obtain ⟨kind, found'⟩ := mem_references.mp stands
        have link : Link store.source options kind d parent.node (file, d.searchDir parent.base) :=
          ⟨text, read, found', rfl, found⟩
        have origin : Origin.reference d.kind = .reference kind := by rw [link.kinds.1]
        rw [(Store.place_of_resolve? found).settle]
        exact .reference grown inside link origin

theorem grown_fromRoot (options : Options) {root : Path} (present : store.present root = true) :
    Grown store.source options root.normalize (fromRoot store options root).entries := by
  have place := Store.place_normalize present
  have grown {survey : Survey} (steps : Steps store.source options root.normalize {} survey) :
      survey.entries = [] ∨ Grown store.source options root.normalize survey.entries := by
    induction steps with
    | refl => exact .inl rfl
    | tail _ step ih => exact grown_step place ih step
  obtain ⟨entry, member, -⟩ := lists_fromRoot options place
  refine (grown (steps_fromRoot store options root)).resolve_left fun empty => ?_
  rw [empty] at member
  exact List.not_mem_nil member

/-! ### Nothing that is reached is left out -/

theorem listed_of_reachable (options : Options) {root : Path} (present : store.present root = true)
    (shallow : ∀ file limit, .tooDeep file limit ∉ (fromRoot store options root).events)
    (reached : Reachable store.source options (root.normalize, root.normalize.directory) q) :
    ∃ entry ∈ (fromRoot store options root).entries, entry.path = q.1 ∧ entry.base.Same q.2 := by
  induction reached with
  | refl =>
    have place := Store.place_normalize present
    exact exists_entry_of_lists options present place (lists_fromRoot options place)
  | @tail p q _ edge ih =>
    obtain ⟨entry, member, path, base⟩ := ih
    have leads : Leads store.source options entry.path p.2 q.1 q.2 := path ▸ leads_iff.mpr edge
    -- The entry may spell its base in another way, and then it leads on to another spelling.
    obtain ⟨dir, alike, leads⟩ := leads.of_same (Eq.symm base)
    obtain ⟨kind, d, text, -, -, -, found⟩ := edge
    have target := Store.place_of_resolve? found
    rcases done_fromRoot store options root entry member q.1 dir leads with lists | deep
    · rw [target.settle] at lists
      obtain ⟨other, inside, path, base⟩ := exists_entry_of_lists options present target lists
      exact ⟨other, inside, path, Eq.trans base (Eq.symm alike)⟩
    · exact absurd deep (shallow _ _)

/-! ### The whole inventory -/

/-- Nodes of the graph that begin with the root, none twice, and each with an edge to it from one that
is there before it. -/
structure Traversal (source : Source) (options : Options) (root : Path × Path) (entries : List Entry) :
    Prop where
  first : entries.head? = some ⟨root.1, root.2, .root⟩
  distinct : entries.Pairwise fun a b => ¬ (a.path = b.path ∧ a.base.Same b.base)
  reachable : ∀ entry ∈ entries, Reachable source options root entry.node
  parent : ∀ before entry after, entries = before ++ entry :: after → before ≠ [] →
    ∃ kind, entry.origin = .reference kind ∧ ∃ parent ∈ before, Edge source options kind parent.node entry.node
  base : ∀ entry ∈ entries, ∃ ds, Route source options root ds entry.node ∧
    entry.base = (ds.filterMap (·.directory)).foldl (fun base directory => base.join ⟨directory⟩) root.2

theorem traversal_fromRoot (options : Options) {root : Path} (present : store.present root = true) :
    Traversal store.source options (root.normalize, root.normalize.directory)
      (fromRoot store options root).entries := by
  have grown := grown_fromRoot options present
  refine ⟨grown.head?, (distinct_fromRoot options present).once, fun entry member => ?_,
    fun before entry after cut later => grown.exists_parent cut later, fun entry member => ?_⟩
  · obtain ⟨ds, route⟩ := grown.route entry member
    exact route.reachable
  · obtain ⟨ds, route⟩ := grown.route entry member
    exact ⟨ds, route, route.base_eq⟩

/-- An inventory is a traversal of the graph from its root. If it turned back from no file because of
its level, it has every node that can be reached, though perhaps with another spelling of the base.
Only an import changes the base on the way. -/
theorem discover_iff_reachable (store : Store) (options : Options) {root : Path}
    (present : store.present root = true) :
    ∃ entries events, discover store.source options root = (.ok entries, events) ∧
      Traversal store.source options (root.normalize, root.normalize.directory) entries ∧
      (∀ kind p q, Edge store.source options kind p q → kind ≠ .importFile → q.2 = p.2) ∧
      ((∀ file limit, .tooDeep file limit ∉ events) → ∀ node,
        Reachable store.source options (root.normalize, root.normalize.directory) node →
          ∃ entry ∈ entries, entry.path = node.1 ∧ entry.base.Same node.2) := by
  refine ⟨_, _, discover_of_present options present, traversal_fromRoot options present,
    fun kind p q edge stays => edge.base_eq stays, fun shallow node reached => ?_⟩
  refine listed_of_reachable options present (fun file limit deep => ?_) reached
  exact shallow file limit (List.mem_reverse.mpr (List.mem_cons_of_mem _ deep))

/-- Files that refer to each other in a circle, one of them with two bases. -/
theorem discover_iff_reachable_circle :
    let store : Store := ⟨[(.ofString "/m.tex", "\\input\x7ba\x7d\\import\x7bs\x7d\x7bb\x7d".toList),
      (.ofString "/a.tex", "\\include\x7bm\x7d".toList),
      (.ofString "/s/b.tex", "\\input\x7b../a\x7d\\include\x7bb\x7d".toList)]⟩
    store.present (.ofString "/m.tex") = true ∧
      ∃ entries events, discover store.source {} (.ofString "/m.tex") = (.ok entries, events) ∧
        (∀ file limit, .tooDeep file limit ∉ events) ∧ ∀ node,
          Reachable store.source {} ((Path.ofString "/m.tex").normalize,
            (Path.ofString "/m.tex").normalize.directory) node →
          ∃ entry ∈ entries, entry.path = node.1 ∧ entry.base.Same node.2 := by
  intro store
  have present : store.present (.ofString "/m.tex") = true := by decide +kernel
  have shallow : (discover store.source {} (.ofString "/m.tex")).2.all (fun event =>
      event.logged?.all fun entry => entry.level != .warn) = true := by decide +kernel
  obtain ⟨entries, events, whole, -, -, complete⟩ := discover_iff_reachable store {} present
  have warned : ∀ file limit, .tooDeep file limit ∉ events := by
    intro file limit deep
    rw [whole] at shallow
    have silent := List.all_eq_true.mp shallow _ deep
    exact absurd silent (by simp [Event.logged?])
  exact ⟨present, entries, events, whole, warned, complete warned⟩

end TexFlat.Inventory
