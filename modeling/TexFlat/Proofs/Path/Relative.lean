import TexFlat.Path.Relative
import TexFlat.Proofs.Path.Joining
import TexFlat.Proofs.Path.Moving

/-!
# Relative paths lead back

A relative path climbs out of a directory to the last component that the directory shares with the path, and
goes down from there. Joined to the directory it leads to the path again.
-/

namespace TexFlat.Path

open Component (IsName)

variable {path base other : Path} {as bs common below above : List Component}

/-- The longest list that both lists begin with. -/
structure IsCommonFront (common as bs : List Component) : Prop where
  left : common <+: as
  right : common <+: bs
  longest : ∀ front, front <+: as → front <+: bs → front <+: common

theorem isCommonFront_nil (apart : ∀ c, [c] <+: as → ¬ [c] <+: bs) : IsCommonFront [] as bs where
  left := List.nil_prefix
  right := List.nil_prefix
  longest front left right := by
    cases front with
    | nil => exact List.nil_prefix
    | cons c front =>
      have first : [c] <+: c :: front := List.prefix_append [c] front
      exact absurd (first.trans right) (apart c (first.trans left))

theorem IsCommonFront.cons (front : IsCommonFront common as bs) (c : Component) :
    IsCommonFront (c :: common) (c :: as) (c :: bs) where
  left := List.cons_prefix_cons.mpr ⟨rfl, front.left⟩
  right := List.cons_prefix_cons.mpr ⟨rfl, front.right⟩
  longest other left right := by
    cases other with
    | nil => exact List.nil_prefix
    | cons d other =>
      obtain ⟨first, left⟩ := List.cons_prefix_cons.mp left
      obtain ⟨-, right⟩ := List.cons_prefix_cons.mp right
      exact List.cons_prefix_cons.mpr ⟨first, front.longest other left right⟩

theorem exists_isCommonFront (as bs : List Component) :
    ∃ common, IsCommonFront common as bs ∧
      as = common ++ (dropCommon as bs).1 ∧ bs = common ++ (dropCommon as bs).2 := by
  induction as generalizing bs with
  | nil => exact ⟨[], isCommonFront_nil (fun c front => absurd front (by simp)), rfl, by simp [dropCommon]⟩
  | cons a as ih =>
    cases bs with
    | nil => exact ⟨[], isCommonFront_nil (fun c _ front => absurd front (by simp)), rfl, rfl⟩
    | cons b bs =>
      by_cases same : a = b
      · subst same
        obtain ⟨common, front, left, right⟩ := ih bs
        refine ⟨a :: common, front.cons a, ?_, ?_⟩
        · simpa [dropCommon] using left
        · simpa [dropCommon] using right
      · refine ⟨[], isCommonFront_nil fun c left right => same ?_, by simp [dropCommon, same],
          by simp [dropCommon, same]⟩
        obtain ⟨rfl, -⟩ := List.cons_prefix_cons.mp left
        exact (List.cons_prefix_cons.mp right).1

/-- Two lists that are their common front with the same behind it are that front. -/
theorem IsCommonFront.eq_nil (front : IsCommonFront common as bs) (left : as = common ++ below)
    (right : bs = common ++ below) : below = [] := by
  have whole : as <+: common :=
    front.longest as (List.prefix_refl as) (left.trans right.symm ▸ List.prefix_refl as)
  have short := whole.length_le
  rw [left, List.length_append] at short
  exact List.length_eq_zero_iff.mp (by omega)

/-! ### The components of a relative path -/

/-- A climb for each component above, then what is below. -/
def detour (above below : List Component) : List Component := List.replicate above.length .up ++ below

theorem orderly_detour (above : List Component) (steps : ∀ c ∈ below, c.IsStep) :
    Orderly (detour above below) := by
  refine ⟨[], detour above below, rfl, .inl rfl, ?_⟩
  unfold detour
  rw [List.forall_mem_append]
  refine ⟨fun c member => ?_, steps⟩
  rw [List.eq_of_mem_replicate member]
  exact ⟨rfl, by decide⟩

theorem components_relativeTo (steps : ∀ c ∈ below, c.IsStep)
    (cut : dropCommon path.components base.components = (below, above)) :
    (path.relativeTo base).components =
      if detour above below = [] then [.here] else detour above below := by
  have climbs : (above.map fun _ => .up) ++ below = detour above below := by
    rw [List.map_const']
    rfl
  have built := components_ofComponents (orderly_detour above steps)
  unfold relativeTo
  rw [cut]
  dsimp only
  rw [climbs]
  by_cases none : detour above below = []
  · rw [if_pos none, none]
    decide
  · have filled : (ofComponents (detour above below)).text ≠ [] := by
      intro empty
      rw [show ofComponents (detour above below) = ⟨[]⟩ from congrArg Path.mk empty, components_nil] at built
      exact none built.symm
    rw [if_neg none, if_neg filled, built]

/-- A relative path is made of a climb for each component of the directory that is not shared, and of the
components of the path that are not. -/
theorem exists_relativeTo (absolute : path.isAbsolute = true) (absolute' : base.isAbsolute = true) :
    ∃ common below above, IsCommonFront (.root :: common) path.components base.components ∧
      path.steps = common ++ below ∧ base.steps = common ++ above ∧ (path.Same base → below = []) ∧
      (path.relativeTo base).components = detour above (if path.Same base then [.here] else below) := by
  have cut := components_of_isAbsolute absolute
  have cut' := components_of_isAbsolute absolute'
  obtain ⟨common, front, left, right⟩ := exists_isCommonFront path.steps base.steps
  have whole := front.cons .root
  rw [← cut, ← cut'] at whole
  generalize parts : dropCommon path.steps base.steps = rest at left right
  obtain ⟨below, above⟩ := rest
  have split : dropCommon path.components base.components = (below, above) := by
    rw [cut, cut', dropCommon, if_pos rfl, parts]
  have steps : ∀ c ∈ below, c.IsStep := by
    intro c member
    exact isStep_of_mem_steps (left ▸ List.mem_append_right common member)
  have alike (same : path.Same base) : below = above ∧ below = [] := by
    have same : path.components = base.components := same
    rw [cut, cut', List.cons.injEq] at same
    obtain rfl : below = above := List.append_cancel_left (left.symm.trans (same.2.trans right))
    exact ⟨rfl, front.eq_nil left right⟩
  refine ⟨common, below, above, whole, left, right, fun same => (alike same).2, ?_⟩
  rw [components_relativeTo steps split]
  by_cases same : path.Same base
  · obtain ⟨rfl, rfl⟩ := alike same
    rw [if_pos same]
    rfl
  · rw [if_neg same, if_neg]
    -- Only the directory itself leaves neither a climb nor a component.
    intro none
    obtain ⟨climbs, rfl⟩ := List.append_eq_nil_iff.mp none
    obtain rfl : above = [] := by simpa using climbs
    apply same
    exact cut.trans ((congrArg _ (left.trans right.symm)).trans cut'.symm)

/-! ### The way back -/

theorem isAbsolute_of_detour {rel : Path} {rest : List Component} (inner : .root ∉ rest)
    (cut : rel.components = detour above rest) : rel.isAbsolute = false := by
  cases absolute : rel.isAbsolute with
  | false => rfl
  | true =>
    have first : .root ∈ detour above rest := by
      rw [← cut, components_of_isAbsolute absolute]
      exact List.mem_cons_self
    rcases List.mem_append.mp first with climb | inside
    · exact absurd (List.eq_of_mem_replicate climb) nofun
    · exact absurd inside inner

theorem foldl_follow_names (named : ∀ c ∈ common, c.IsName) :
    (.root :: common).foldl Component.follow [] = (.root :: common).reverse := by
  have normal : Normal (.root :: common) := ⟨[.root], common, rfl, .inr rfl, named⟩
  have walked := congrArg List.reverse (normalComponents_eq_self normal.direct)
  rwa [normalComponents, List.reverse_reverse] at walked

/-- The climbs take back the names of the directory behind the shared front, and the rest of the path
follows. -/
theorem normalize_join_relativeTo (top : IsTop base) (absolute : path.isAbsolute = true) :
    (base.join (path.relativeTo base)).normalize = path.normalize := by
  obtain ⟨common, below, above, -, left, right, none, made⟩ := exists_relativeTo absolute top.absolute
  have named := top.isName
  rw [right, List.forall_mem_append] at named
  have inner : .root ∉ if path.Same base then [.here] else below := by
    have inside := root_not_mem_steps path
    rw [left] at inside
    split
    · decide
    · exact fun member => inside (List.mem_append_right common member)
  have relative := isAbsolute_of_detour inner made
  have start : normalComponents base.components = .root :: (common ++ above) := by
    rw [← components_normalize, top.normal, components_of_isAbsolute top.absolute, right]
  have stands : (.root :: (common ++ above)).reverse = above.reverse ++ (.root :: common).reverse := by
    rw [← List.cons_append, List.reverse_append]
  -- The walk stands at the directory, its names on top of the shared front: the climbs take just these away.
  have climbed := foldl_follow_climbs (fun c member => named.2 c (List.mem_reverse.mp member))
    (.root :: common).reverse
  rw [List.length_reverse] at climbed
  have rest (trail : List Component) :
      (if path.Same base then [.here] else below).foldl Component.follow trail =
        below.foldl Component.follow trail := by
    split
    · rename_i same
      rw [none same]
      rfl
    · rfl
  rw [normalize_eq_iff, normalComponents_join relative, start, stands, made, detour, List.foldl_append,
    climbed, rest, components_of_isAbsolute absolute, left, normalComponents, ← List.cons_append,
    List.foldl_append, foldl_follow_names named.1]

theorem relativeTo_text_ne_nil (path base : Path) : (path.relativeTo base).text ≠ [] := by
  unfold relativeTo
  dsimp only
  split
  · exact List.cons_ne_nil _ _
  · assumption

/-- Joined to a normal directory, a relative path leads where the path itself leads, and it is never empty. It
climbs once for each component of the directory behind the longest front that the two share, and goes on with
what the path has behind that; the directory itself is a dot. Where the path is normal there is no climb but
these, and no other normal path is shown in the same way. -/
theorem relativeTo_leads_back (top : IsTop base) (absolute : path.isAbsolute = true) :
    (base.join (path.relativeTo base)).normalize = path.normalize ∧
      (path.relativeTo base).text ≠ [] ∧
      (∃ common below, IsCommonFront common path.components base.components ∧
        path.components = common ++ below ∧
        (path.relativeTo base).components =
          List.replicate (base.components.length - common.length) .up ++
            (if path.Same base then [.here] else below) ∧
        (path.normalize = path → .up ∉ below)) ∧
      (path.normalize = path → ∀ other : Path, other.isAbsolute = true → other.normalize = other →
        path ≠ other → (path.relativeTo base).text ≠ (other.relativeTo base).text) := by
  refine ⟨normalize_join_relativeTo top absolute, relativeTo_text_ne_nil path base, ?_, ?_⟩
  · obtain ⟨common, below, above, front, left, right, -, made⟩ := exists_relativeTo absolute top.absolute
    have cut := components_of_isAbsolute absolute
    have beyond : base.components.length - (.root :: common).length = above.length := by
      rw [components_of_isAbsolute top.absolute, right, List.length_cons, List.length_cons, List.length_append]
      omega
    refine ⟨.root :: common, below, front, cut.trans (congrArg _ left), ?_, fun normal member => ?_⟩
    · rw [beyond, made]
      rfl
    · have inside : .up ∈ path.steps := left ▸ List.mem_append_right common member
      obtain ⟨-, text, named⟩ := isName_of_mem_steps absolute normal .up inside
      exact absurd named nofun
  · intro normal other absolute' normal' apart alike
    have shown : path.relativeTo base = other.relativeTo base := congrArg Path.mk alike
    apply apart
    calc path = path.normalize := normal.symm
      _ = (base.join (path.relativeTo base)).normalize := (normalize_join_relativeTo top absolute).symm
      _ = (base.join (other.relativeTo base)).normalize := by rw [shown]
      _ = other.normalize := normalize_join_relativeTo top absolute'
      _ = other := normal'

theorem relativeTo_leads_back_sideways :
    IsTop (.ofString "/doc/parts/one") ∧ (Path.ofString "/doc/figures/../../lib").isAbsolute = true ∧
      ((Path.ofString "/doc/parts/one").join
          ((Path.ofString "/doc/figures/../../lib").relativeTo (.ofString "/doc/parts/one"))).normalize =
        .ofString "/lib" ∧
      (Path.ofString "/doc/parts").normalize = .ofString "/doc/parts" ∧
      ((Path.ofString "/doc/parts").relativeTo (.ofString "/doc/parts/one")).text ≠
        ((Path.ofString "/doc/plan").relativeTo (.ofString "/doc/parts/one")).text := by
  have top : IsTop (.ofString "/doc/parts/one") := ⟨by decide, by decide +kernel⟩
  have absolute : (Path.ofString "/doc/figures/../../lib").isAbsolute = true := by decide
  have normal : (Path.ofString "/doc/parts").normalize = .ofString "/doc/parts" := by decide +kernel
  obtain ⟨back, -⟩ := relativeTo_leads_back top absolute
  have absolute' : (Path.ofString "/doc/parts").isAbsolute = true := by decide
  obtain ⟨-, -, -, apart⟩ := relativeTo_leads_back top absolute'
  exact ⟨top, absolute, back.trans (by decide +kernel), normal,
    apart normal (.ofString "/doc/plan") (by decide) (by decide +kernel) (by decide)⟩

example : ((Path.ofString "/doc/figures/../../lib").relativeTo (.ofString "/doc/parts/one")).text =
    "../../figures/../../lib".toList := by decide +kernel

end TexFlat.Path
