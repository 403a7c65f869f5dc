import TexFlat.Path.Normal

/-!
# Components of joined and normal paths

`components_join` says what joining does to the components, `components_normalize` that the normal
form of a path has the components it was made of. So two paths with the same components have one
normal form, and a normal path is known by its components.
-/

namespace TexFlat

namespace Text

theorem pieces_cons_separator (separator : Char) (text : Text) :
    pieces separator (separator :: text) = [] :: pieces separator text := by
  cases h : pieces separator text with
  | nil => exact absurd h (pieces_ne_nil separator text)
  | cons piece others => simp [pieces, h]

theorem pieces_cons_of_ne {separator c : Char} {text piece : Text} {others : List Text}
    (differs : c ≠ separator) (h : pieces separator text = piece :: others) :
    pieces separator (c :: text) = (c :: piece) :: others := by
  simp [pieces, h, differs]

theorem pieces_append (separator : Char) (a b : Text) :
    pieces separator (a ++ separator :: b) = pieces separator a ++ pieces separator b := by
  induction a with
  | nil => simp [pieces_cons_separator, pieces]
  | cons c a ih =>
    cases h : pieces separator a with
    | nil => exact absurd h (pieces_ne_nil separator a)
    | cons piece others =>
      rw [h] at ih
      by_cases same : c = separator
      · subst same
        rw [List.cons_append, pieces_cons_separator, pieces_cons_separator, ih, h]
        rfl
      · rw [List.cons_append, pieces_cons_of_ne same ih, pieces_cons_of_ne same h]
        rfl

theorem pieces_of_not_mem {separator : Char} {text : Text} (absent : separator ∉ text) :
    pieces separator text = [text] := by
  induction text with
  | nil => rfl
  | cons c text ih =>
    have differs : c ≠ separator := Ne.symm (List.ne_of_not_mem_cons absent)
    exact pieces_cons_of_ne differs (ih (List.not_mem_of_not_mem_cons absent))

theorem separator_not_mem_of_mem_pieces {separator : Char} {text piece : Text}
    (h : piece ∈ pieces separator text) : separator ∉ piece := by
  induction text generalizing piece with
  | nil =>
    obtain rfl := List.mem_singleton.mp h
    exact List.not_mem_nil
  | cons c text ih =>
    cases cut : pieces separator text with
    | nil => exact absurd cut (pieces_ne_nil separator text)
    | cons first others =>
      rw [cut] at ih
      by_cases same : c = separator
      · rw [same, pieces_cons_separator, cut] at h
        rcases List.mem_cons.mp h with rfl | h
        · exact List.not_mem_nil
        · exact ih h
      · rw [pieces_cons_of_ne same cut] at h
        rcases List.mem_cons.mp h with rfl | h
        · exact List.not_mem_cons_of_ne_of_not_mem (Ne.symm same) (ih List.mem_cons_self)
        · exact ih (List.mem_cons_of_mem first h)

end Text

namespace Path

def steps (path : Path) : List Component :=
  (Text.pieces '/' path.text).filterMap Component.ofPiece?

theorem components_eq (path : Path) : path.components = path.lead ++ path.steps := rfl

/-- A component that is spelled by one piece: a name or a climb. -/
def Component.IsStep (c : Component) : Prop := ofPiece? c.text = some c ∧ '/' ∉ c.text

theorem Component.text_of_ofPiece? {piece : Text} {c : Component} (h : ofPiece? piece = some c) :
    c.text = piece := by
  unfold ofPiece? at h
  split at h
  · simp at h
  · split at h
    · rename_i climbs
      obtain rfl := Option.some.inj h
      exact climbs.symm
    · obtain rfl := Option.some.inj h
      rfl

theorem isStep_of_mem_steps {path : Path} {c : Component} (h : c ∈ path.steps) : c.IsStep := by
  obtain ⟨piece, member, read⟩ := List.mem_filterMap.mp h
  have spelled := Component.text_of_ofPiece? read
  exact ⟨spelled ▸ read, spelled ▸ Text.separator_not_mem_of_mem_pieces member⟩

theorem lead_cases (path : Path) : path.lead = [] ∨ path.lead = [.root] ∨ path.lead = [.here] := by
  unfold lead
  split
  · exact .inr (.inl rfl)
  · split
    · exact .inr (.inr rfl)
    · exact .inl rfl

theorem components_nil : components ⟨[]⟩ = [] := by decide

theorem components_ne_nil {path : Path} (nonempty : path.text ≠ []) : path.components ≠ [] := by
  obtain ⟨text⟩ := path
  cases text with
  | nil => exact absurd rfl nonempty
  | cons c text =>
    by_cases slash : c = '/'
    · simp [components, lead, isAbsolute, slash]
    · cases cut : Text.pieces '/' text with
      | nil => exact absurd cut (Text.pieces_ne_nil '/' text)
      | cons piece others =>
        have whole := Text.pieces_cons_of_ne slash cut
        rw [components_eq]
        by_cases dot : c :: piece = ['.']
        · simp [lead, isAbsolute, slash, whole, dot]
        · obtain ⟨step, read⟩ : ∃ step, Component.ofPiece? (c :: piece) = some step := by
            unfold Component.ofPiece?
            rw [if_neg (by simpa using dot)]
            split
            · exact ⟨_, rfl⟩
            · exact ⟨_, rfl⟩
          simp [steps, whole, read]

theorem text_eq_nil_of_same {p q : Path} (same : p.Same q) (empty : p.text = []) : q.text = [] := by
  have none : q.components = [] := by
    rw [← same]
    exact (congrArg components (show p = ⟨[]⟩ by cases p; simp_all)).trans components_nil
  exact Classical.byContradiction fun nonempty => components_ne_nil nonempty none

/-! ### Joining -/

theorem join_of_isAbsolute (p : Path) {q : Path} (absolute : q.isAbsolute = true) : p.join q = q := by
  simp [join, absolute]

theorem join_of_empty {p q : Path} (empty : p.text = []) : p.join q = q := by
  unfold join
  split
  · rfl
  · simp [empty]

/-- A slash stands between two texts that are joined, the first of which may have brought it. -/
theorem join_of_relative {p q : Path} (relative : q.isAbsolute = false) (nonempty : p.text ≠ []) :
    ∃ front, (p.text = front ∨ p.text = front ++ ['/']) ∧ p.join q = ⟨front ++ '/' :: q.text⟩ := by
  by_cases last : p.text.getLast? = some '/'
  · obtain ⟨front, cut⟩ := List.getLast?_eq_some_iff.mp last
    refine ⟨front, .inr cut, ?_⟩
    simp only [join, relative, last, or_true, if_true, Bool.false_eq_true, if_false]
    rw [cut, List.append_assoc]
    rfl
  · exact ⟨p.text, .inl rfl, by simp [join, relative, last, nonempty]⟩

theorem steps_join {p q : Path} (relative : q.isAbsolute = false) (nonempty : p.text ≠ []) :
    (p.join q).steps = p.steps ++ q.steps := by
  obtain ⟨front, cut, joined⟩ := join_of_relative relative nonempty
  have before : p.steps = (Text.pieces '/' front).filterMap Component.ofPiece? := by
    rcases cut with cut | cut
    · rw [steps, cut]
    · rw [steps, cut, show front ++ ['/'] = front ++ '/' :: [] from rfl, Text.pieces_append]
      simp [Text.pieces, Component.ofPiece?]
  rw [joined, before, steps, Text.pieces_append, List.filterMap_append]
  rfl

theorem lead_join {p q : Path} (relative : q.isAbsolute = false) (nonempty : p.text ≠ []) :
    (p.join q).lead = p.lead := by
  obtain ⟨front, cut, joined⟩ := join_of_relative relative nonempty
  have absolute : (p.join q).isAbsolute = p.isAbsolute := by
    rw [joined]
    rcases cut with cut | cut
    · cases front with
      | nil => exact absurd cut nonempty
      | cons c front => simp [isAbsolute, cut]
    · cases front <;> simp [isAbsolute, cut]
  have first : (Text.pieces '/' (p.join q).text).head? = (Text.pieces '/' p.text).head? := by
    have kept (rest : Text) : (Text.pieces '/' (front ++ '/' :: rest)).head? =
        (Text.pieces '/' front).head? := by
      rw [Text.pieces_append, List.head?_append, List.head?_eq_some_head (Text.pieces_ne_nil '/' front)]
      rfl
    rw [joined, kept]
    rcases cut with cut | cut
    · rw [cut]
    · rw [cut, kept]
  simp only [lead, absolute, first]

theorem components_join {p q : Path} (relative : q.isAbsolute = false) (nonempty : p.text ≠ []) :
    (p.join q).components = p.components ++ q.steps := by
  rw [components_eq, lead_join relative nonempty, steps_join relative nonempty, components_eq,
    List.append_assoc]

theorem Same.join {p p' : Path} (same : p.Same p') (q : Path) : (p.join q).Same (p'.join q) := by
  by_cases absolute : q.isAbsolute = true
  · rw [join_of_isAbsolute p absolute, join_of_isAbsolute p' absolute]
    exact rfl
  · rw [Bool.not_eq_true] at absolute
    by_cases empty : p.text = []
    · rw [join_of_empty empty, join_of_empty (text_eq_nil_of_same same empty)]
      exact rfl
    · have empty' : p'.text ≠ [] := fun h => empty (text_eq_nil_of_same (Eq.symm same) h)
      show (p.join q).components = (p'.join q).components
      rw [components_join absolute empty, components_join absolute empty', show p.components = _ from same]

/-! ### Paths made of components -/

namespace Component.IsStep

variable {c : Component}

theorem text_ne_nil (step : c.IsStep) : c.text ≠ [] := by
  intro empty
  have read := step.1
  rw [empty] at read
  exact absurd read nofun

theorem isAbsolute_eq_false (step : c.IsStep) : isAbsolute ⟨c.text⟩ = false := by
  cases h : c.text with
  | nil => rfl
  | cons first text =>
    have other : '/' ≠ first := List.ne_of_not_mem_cons (h ▸ step.2)
    simp [isAbsolute, Ne.symm other]

theorem steps_eq (step : c.IsStep) : steps ⟨c.text⟩ = [c] := by
  simp [steps, Text.pieces_of_not_mem step.2, step.1]

theorem components_eq (step : c.IsStep) : components ⟨c.text⟩ = [c] := by
  have plain : lead ⟨c.text⟩ = [] := by
    have other : c.text ≠ ['.'] := by
      intro dot
      have read := step.1
      rw [dot] at read
      exact absurd read nofun
    simp [lead, step.isAbsolute_eq_false, Text.pieces_of_not_mem step.2, other]
  rw [Path.components_eq, plain, step.steps_eq]
  rfl

end Component.IsStep

theorem components_foldl_join {steps : List Component} (all : ∀ c ∈ steps, c.IsStep) {path : Path}
    (nonempty : path.text ≠ []) :
    (steps.foldl (fun path component => path.join ⟨component.text⟩) path).components = path.components ++ steps := by
  induction steps generalizing path with
  | nil => simp
  | cons c steps ih =>
    have step := all c List.mem_cons_self
    have joined := components_join step.isAbsolute_eq_false nonempty
    have nonempty' : (path.join ⟨c.text⟩).text ≠ [] := by
      intro empty
      rw [show path.join ⟨c.text⟩ = ⟨[]⟩ from congrArg Path.mk empty, components_nil] at joined
      exact components_ne_nil nonempty (List.append_eq_nil_iff.mp joined.symm).1
    rw [List.foldl_cons, ih (fun c member => all c (List.mem_cons_of_mem _ member)) nonempty', joined,
      step.steps_eq, List.append_assoc]
    rfl

/-- Components in an order that a path can have them in. -/
def Orderly (components : List Component) : Prop :=
  ∃ lead steps, components = lead ++ steps ∧ (lead = [] ∨ lead = [.root] ∨ lead = [.here]) ∧
    ∀ c ∈ steps, c.IsStep

theorem orderly_components (path : Path) : Orderly path.components :=
  ⟨path.lead, path.steps, rfl, lead_cases path, fun _ => isStep_of_mem_steps⟩

theorem components_ofComponents {components : List Component} (orderly : Orderly components) :
    (ofComponents components).components = components := by
  obtain ⟨lead, steps, rfl, front, all⟩ := orderly
  have behind {c : Component} (alone : Path.join ⟨[]⟩ ⟨c.text⟩ = ⟨c.text⟩) (spelled : c.text ≠ [])
      {steps : List Component} (all : ∀ c ∈ steps, c.IsStep) :
      (ofComponents (c :: steps)).components = Path.components ⟨c.text⟩ ++ steps := by
    have nonempty : (⟨c.text⟩ : Path).text ≠ [] := spelled
    rw [ofComponents, List.foldl_cons, alone, components_foldl_join all nonempty]
  rcases front with rfl | rfl | rfl
  · cases steps with
    | nil => exact components_nil
    | cons c steps =>
      have step := all c List.mem_cons_self
      rw [List.nil_append, behind (join_of_empty rfl) step.text_ne_nil fun c member =>
        all c (List.mem_cons_of_mem _ member), step.components_eq]
      rfl
  · exact behind (c := .root) rfl (by decide) all
  · exact behind (c := .here) rfl (by decide) all

/-! ### Normal forms -/

def Component.IsName (c : Component) : Prop := c.IsStep ∧ ∃ text, c = .name text

/-- Names behind the root, or names alone. -/
def Normal (components : List Component) : Prop :=
  ∃ top names, components = top ++ names ∧ (top = [] ∨ top = [.root]) ∧ ∀ c ∈ names, c.IsName

theorem Normal.orderly {components : List Component} (normal : Normal components) :
    Orderly components := by
  obtain ⟨top, names, rfl, front, all⟩ := normal
  exact ⟨top, names, rfl, front.elim .inl fun root => .inr (.inl root), fun c member => (all c member).1⟩

/-- The trail of a walk is normal when read from its start. -/
theorem normal_follow {trail : List Component} {c : Component} (normal : Normal trail.reverse)
    (step : c.IsStep) : Normal (c.follow trail).reverse := by
  obtain ⟨top, names, reached, front, all⟩ := normal
  have back : trail = names.reverse ++ top.reverse := by
    rw [← List.reverse_reverse trail, reached, List.reverse_append]
  cases c with
  | root => exact absurd step (by unfold Component.IsStep; decide)
  | here => exact ⟨top, names, reached, front, all⟩
  | name text =>
    refine ⟨top, names ++ [.name text], ?_, front, ?_⟩
    · simp [Component.follow, reached]
    · intro c member
      rcases List.mem_append.mp member with member | member
      · exact all c member
      · obtain rfl := List.mem_singleton.mp member
        exact ⟨step, text, rfl⟩
  | up =>
    cases last : names.reverse with
    | nil =>
      refine ⟨top, names, ?_, front, all⟩
      rw [last] at back
      rcases front with rfl | rfl
      · rw [back] at reached ⊢
        exact reached
      · rw [back] at reached ⊢
        exact reached
    | cons c above =>
      have cut : names = above.reverse ++ [c] := by
        rw [← List.reverse_reverse names, last, List.reverse_cons]
      obtain ⟨-, text, rfl⟩ := all c (by simp [cut])
      refine ⟨top, above.reverse, ?_, front, fun c member => all c (by simp [cut, member])⟩
      simp [back, last, Component.follow]

theorem normal_foldl_follow {steps trail : List Component} (normal : Normal trail.reverse)
    (all : ∀ c ∈ steps, c.IsStep) : Normal (steps.foldl Component.follow trail).reverse := by
  induction steps generalizing trail with
  | nil => exact normal
  | cons c steps ih =>
    exact ih (normal_follow normal (all c List.mem_cons_self)) fun c member =>
      all c (List.mem_cons_of_mem _ member)

theorem normal_normalComponents {components : List Component} (orderly : Orderly components) :
    Normal (normalComponents components) := by
  obtain ⟨lead, steps, rfl, front, all⟩ := orderly
  have start : Normal (lead.foldl Component.follow []).reverse := by
    rcases front with rfl | rfl | rfl
    · exact ⟨[], [], rfl, .inl rfl, fun _ member => absurd member List.not_mem_nil⟩
    · exact ⟨[.root], [], rfl, .inr rfl, fun _ member => absurd member List.not_mem_nil⟩
    · exact ⟨[], [], rfl, .inl rfl, fun _ member => absurd member List.not_mem_nil⟩
  rw [normalComponents, List.foldl_append]
  exact normal_foldl_follow start all

theorem components_normalize (path : Path) :
    path.normalize.components = normalComponents path.components :=
  components_ofComponents (normal_normalComponents (orderly_components path)).orderly

theorem normalComponents_eq_self {components : List Component}
    (direct : ∀ c ∈ components, c ≠ .here ∧ c ≠ .up) : normalComponents components = components := by
  have walked (trail : List Component) :
      components.foldl Component.follow trail = components.reverse ++ trail := by
    induction components generalizing trail with
    | nil => rfl
    | cons c components ih =>
      have first : c.follow trail = c :: trail := by
        obtain ⟨here, up⟩ := direct c List.mem_cons_self
        cases c with
        | root | name => rfl
        | here => exact absurd rfl here
        | up => exact absurd rfl up
      rw [List.foldl_cons, first, ih fun c member => direct c (List.mem_cons_of_mem _ member)]
      simp
  rw [normalComponents, walked, List.append_nil, List.reverse_reverse]

theorem Normal.direct {components : List Component} (normal : Normal components) :
    ∀ c ∈ components, c ≠ .here ∧ c ≠ .up := by
  obtain ⟨top, names, rfl, front, all⟩ := normal
  intro c member
  rcases List.mem_append.mp member with member | member
  · rcases front with rfl | rfl
    · exact absurd member List.not_mem_nil
    · obtain rfl := List.mem_singleton.mp member
      exact ⟨nofun, nofun⟩
  · obtain ⟨-, text, rfl⟩ := all c member
    exact ⟨nofun, nofun⟩

theorem ofComponents_components {path : Path} (normal : path.normalize = path) :
    ofComponents path.components = path := by
  have walked := components_normalize path
  rw [normal] at walked
  rw [walked]
  exact normal

theorem normalize_normalize (path : Path) : path.normalize.normalize = path.normalize := by
  have normal := normal_normalComponents (orderly_components path)
  rw [normalize, components_normalize, normalComponents_eq_self normal.direct]
  rfl

theorem normalize_eq_of_same {p q : Path} (same : p.Same q) : p.normalize = q.normalize := by
  rw [normalize, normalize, show p.components = q.components from same]

/-- Normal paths with the same components are spelled the same. -/
theorem eq_of_same_of_normal {p q : Path} (same : p.Same q) (left : p.normalize = p)
    (right : q.normalize = q) : p = q := by
  rw [← left, ← right]
  exact normalize_eq_of_same same

end Path
end TexFlat
