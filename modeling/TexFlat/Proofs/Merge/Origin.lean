import TexFlat.Merge.Basic

/-!
# Where the characters of a merge come from

A merge reads the characters of its documents and puts in those of the markers. `inkMerge` goes through
the same merge with each character in an ink that says where it was read. Without the inks it is the merge
(`text_inkMerge`), and what an ink says is true (`true_inkMerge`).
-/

namespace TexFlat.Merge

open Directive (Kind Segment)

/-- A character of a merged text, and the document and the place among its characters that it was read
at, if it was read at all. -/
structure Ink where
  char : Char
  origin : Option (Path × Nat)

namespace Ink

def text (inks : List Ink) : Text := inks.map Ink.char

/-- The characters that a merge puts in. -/
def fresh (text : Text) : List Ink := text.map fun c => ⟨c, none⟩

/-- The characters of a document. -/
def copied (file : Path) (text : Text) : List Ink := text.zipIdx.map fun (c, i) => ⟨c, some (file, i)⟩

@[simp]
theorem text_append (a b : List Ink) : text (a ++ b) = text a ++ text b := List.map_append

@[simp]
theorem text_fresh (letters : Text) : text (fresh letters) = letters := by
  simp [text, fresh, Function.comp_def]

@[simp]
theorem text_copied (file : Path) (letters : Text) : text (copied file letters) = letters := by
  simp [text, copied, Function.comp_def]

/-- An ink that names a place in a document has the character that is there. -/
def IsTrue (source : Source) (encoding : Encoding) (ink : Ink) : Prop :=
  ∀ file i, ink.origin = some (file, i) →
    ∃ text, source.read encoding file = .ok text ∧ text[i]? = some ink.char

end Ink

/-! ### The merge in ink -/

/-- The splicing of a text that the segments spell. -/
def inkSplice (replace : Run → Directive → List Ink × Run) (done : List Ink) (run : Run) :
    List Ink → List Segment → List Ink × Run
  | _, [] => (done.reverse, run)
  | inks, .char _ :: others =>
    inkSplice replace ((inks.take 1).reverse ++ done) run (inks.drop 1) others
  | inks, .directive d :: others =>
    let (inks', run) := replace run d
    inkSplice replace (inks'.reverse ++ done) run (inks.drop d.source.length) others

def inkReplacement (source : Source) (visit : Run → (file base : Path) → List Ink × Run) (base : Path)
    (run : Run) (d : Directive) : List Ink × Run :=
  let dir := d.searchDir base
  match source.resolve? d.name dir with
  | some target =>
    let (body, run) := visit (run.note (.resolved d dir target)) target dir
    (Ink.fresh (Marker.header d.kind d.reference target dir) ++ body ++
      Ink.fresh (Marker.footer d.kind d.reference), run)
  | none => (Ink.fresh (Marker.notFound d.kind d.reference), run.note (.notFound d dir))

def inkPass (replace : Run → Directive → List Ink × Run) (state : List Ink × Run) (kind : Kind) :
    List Ink × Run :=
  inkSplice replace [] state.2 state.1 (Directive.segments kind (Ink.text state.1))

def inkVisit (source : Source) (options : Options) :
    (levels : Nat) → Run → (file base : Path) → List Ink × Run
  | 0, run, file, _ =>
    if run.HasVisited (source.settle file) then
      (Ink.fresh (Marker.alreadyIncluded file), run.note (.alreadyProcessed file))
    else
      (Ink.fresh (Marker.depthExceeded options.maxDepth file),
        run.note (.tooDeep file options.maxDepth))
  | levels + 1, run, file, base =>
    if run.HasVisited (source.settle file) then
      (Ink.fresh (Marker.alreadyIncluded file), run.note (.alreadyProcessed file))
    else
      let run := run.enter (source.settle file)
      let run := run.note (.processing file base (options.maxDepth - levels))
      match source.read options.encoding file with
      | .error cause =>
        (Ink.fresh (Marker.unreadable file cause.message), run.note (.unreadable file cause))
      | .ok text =>
        Kind.passes.foldl (inkPass (inkReplacement source (inkVisit source options levels) base))
          (Ink.copied file text, run)

/-- The merge of a document, with each character in its ink. -/
def inkMerge (source : Source) (options : Options) (root : Path) : Except Failure (List Ink) :=
  (source.rootDocument root).map fun root =>
    (inkVisit source options (options.maxDepth + 1) { events := [.started root] } root root.directory).1

/-! ### Without the inks -/

variable {source : Source} {options : Options} {run : Run} {inks done : List Ink} {kind : Kind}
  {inkReplace : Run → Directive → List Ink × Run} {replace : Run → Directive → Text × Run}

def plain (state : List Ink × Run) : Text × Run := (Ink.text state.1, state.2)

theorem plain_inkSplice (same : ∀ run d, plain (inkReplace run d) = replace run d) (done : List Ink)
    (run : Run) (inks : List Ink) (segments : List Segment)
    (spell : segments.flatMap Segment.lexeme = Ink.text inks) :
    plain (inkSplice inkReplace done run inks segments) =
      splice replace (Ink.text done) run segments := by
  induction segments generalizing done run inks with
  | nil => simp [inkSplice, splice, plain, Ink.text, List.map_reverse]
  | cons segment others ih =>
    rw [List.flatMap_cons] at spell
    cases segment with
    | char c =>
      cases inks with
      | nil => exact absurd spell nofun
      | cons ink inks =>
        obtain ⟨rfl, behind⟩ := List.cons.inj spell
        exact ih _ _ _ behind
    | directive d =>
      have behind : others.flatMap Segment.lexeme = Ink.text (inks.drop d.source.length) := by
        rw [Ink.text, List.map_drop]
        change _ = List.drop _ (Ink.text inks)
        rw [← spell]
        exact List.drop_left.symm
      rw [inkSplice, splice, ← same run d]
      refine (ih _ _ _ behind).trans ?_
      simp [plain, Ink.text, List.map_reverse]

theorem plain_inkPass (same : ∀ run d, plain (inkReplace run d) = replace run d) (state : List Ink × Run)
    (kind : Kind) : plain (inkPass inkReplace state kind) = pass replace (plain state) kind :=
  plain_inkSplice same [] state.2 state.1 _ (Directive.lexemes_segments kind _)

theorem plain_foldl_inkPass (same : ∀ run d, plain (inkReplace run d) = replace run d) (kinds : List Kind)
    (state : List Ink × Run) :
    plain (kinds.foldl (inkPass inkReplace) state) = kinds.foldl (pass replace) (plain state) := by
  induction kinds generalizing state with
  | nil => rfl
  | cons kind kinds ih => rw [List.foldl_cons, List.foldl_cons, ih, plain_inkPass same]

theorem plain_inkReplacement {inkVisit : Run → (file base : Path) → List Ink × Run}
    {visit : Run → (file base : Path) → Text × Run}
    (same : ∀ run file base, plain (inkVisit run file base) = visit run file base) (base : Path) (run : Run)
    (d : Directive) :
    plain (inkReplacement source inkVisit base run d) = replacement source visit base run d := by
  unfold inkReplacement replacement
  dsimp only
  cases source.resolve? d.name (d.searchDir base) with
  | none => exact Prod.ext (Ink.text_fresh _) rfl
  | some target =>
    dsimp only
    rw [← same]
    simp [plain, Marker.block]

theorem plain_inkVisit (source : Source) (options : Options) (levels : Nat) (run : Run) (file base : Path) :
    plain (inkVisit source options levels run file base) = visit source options levels run file base := by
  induction levels generalizing run file base with
  | zero =>
    unfold inkVisit visit
    split <;> exact Prod.ext (Ink.text_fresh _) rfl
  | succ levels ih =>
    unfold inkVisit visit
    split
    · exact Prod.ext (Ink.text_fresh _) rfl
    · dsimp only
      cases source.read options.encoding file with
      | error cause => exact Prod.ext (Ink.text_fresh _) rfl
      | ok text =>
        dsimp only
        rw [plain_foldl_inkPass fun run d => plain_inkReplacement ih base run d]
        simp [plain]

theorem text_inkMerge {root : Path} {merged : Merged} {events : List Event}
    (merges : merge source options root = (.ok merged, events)) :
    ∃ inks, inkMerge source options root = .ok inks ∧ Ink.text inks = merged.content := by
  unfold merge at merges
  unfold inkMerge
  cases found : source.rootDocument root with
  | error failure =>
    rw [found] at merges
    exact absurd (congrArg Prod.fst merges) nofun
  | ok document =>
    rw [found] at merges
    obtain ⟨same, -⟩ := Prod.mk.inj merges
    obtain rfl := Except.ok.inj same
    exact ⟨_, rfl, congrArg Prod.fst (plain_inkVisit source options _ _ document document.directory)⟩

/-! ### What the inks say -/

theorem Ink.isTrue_fresh (source : Source) (encoding : Encoding) (letters : Text) :
    ∀ ink ∈ fresh letters, ink.IsTrue source encoding := by
  intro ink member file i origin
  obtain ⟨c, -, rfl⟩ := List.mem_map.mp member
  exact absurd origin nofun

theorem Ink.isTrue_copied {encoding : Encoding} {file : Path} {letters : Text}
    (read : source.read encoding file = .ok letters) :
    ∀ ink ∈ copied file letters, ink.IsTrue source encoding := by
  intro ink member file' i origin
  obtain ⟨⟨c, place⟩, there, rfl⟩ := List.mem_map.mp member
  obtain ⟨rfl, rfl⟩ := Prod.mk.inj (Option.some.inj origin)
  exact ⟨letters, read, List.mem_zipIdx_iff_getElem?.mp there⟩

theorem forall_inkSplice {P : Ink → Prop} (each : ∀ run d, ∀ ink ∈ (inkReplace run d).1, P ink)
    (segments : List Segment) (front : ∀ ink ∈ done, P ink) (behind : ∀ ink ∈ inks, P ink) :
    ∀ ink ∈ (inkSplice inkReplace done run inks segments).1, P ink := by
  induction segments generalizing done run inks with
  | nil => exact fun ink member => front ink (List.mem_reverse.mp member)
  | cons segment others ih =>
    cases segment with
    | char c =>
      refine ih ?_ fun ink member => behind ink (List.mem_of_mem_drop member)
      rw [List.forall_mem_append]
      exact ⟨fun ink member => behind ink (List.mem_of_mem_take (List.mem_reverse.mp member)), front⟩
    | directive d =>
      refine ih ?_ fun ink member => behind ink (List.mem_of_mem_drop member)
      rw [List.forall_mem_append]
      exact ⟨fun ink member => each run d ink (List.mem_reverse.mp member), front⟩

theorem forall_foldl_inkPass {P : Ink → Prop} (each : ∀ run d, ∀ ink ∈ (inkReplace run d).1, P ink)
    (kinds : List Kind) {state : List Ink × Run} (all : ∀ ink ∈ state.1, P ink) :
    ∀ ink ∈ (kinds.foldl (inkPass inkReplace) state).1, P ink := by
  induction kinds generalizing state with
  | nil => exact all
  | cons kind kinds ih => exact ih (forall_inkSplice each _ (List.forall_mem_nil _) all)

theorem isTrue_inkReplacement {inkVisit : Run → (file base : Path) → List Ink × Run}
    (each : ∀ run file base, ∀ ink ∈ (inkVisit run file base).1, ink.IsTrue source options.encoding)
    (base : Path) (run : Run) (d : Directive) :
    ∀ ink ∈ (inkReplacement source inkVisit base run d).1, ink.IsTrue source options.encoding := by
  unfold inkReplacement
  dsimp only
  cases source.resolve? d.name (d.searchDir base) with
  | none => exact Ink.isTrue_fresh _ _ _
  | some target =>
    dsimp only
    rw [List.forall_mem_append, List.forall_mem_append]
    exact ⟨⟨Ink.isTrue_fresh _ _ _, each _ _ _⟩, Ink.isTrue_fresh _ _ _⟩

theorem isTrue_inkVisit (source : Source) (options : Options) (levels : Nat) (run : Run) (file base : Path) :
    ∀ ink ∈ (inkVisit source options levels run file base).1, ink.IsTrue source options.encoding := by
  induction levels generalizing run file base with
  | zero =>
    unfold inkVisit
    split <;> exact Ink.isTrue_fresh _ _ _
  | succ levels ih =>
    unfold inkVisit
    split
    · exact Ink.isTrue_fresh _ _ _
    · dsimp only
      cases read : source.read options.encoding file with
      | error cause => exact Ink.isTrue_fresh _ _ _
      | ok text =>
        exact forall_foldl_inkPass (fun run d => isTrue_inkReplacement ih base run d) _
          (Ink.isTrue_copied read)

/-- Every character that was read stands in its document at the place that its ink names. -/
theorem true_inkMerge {root : Path} (merges : inkMerge source options root = .ok inks) :
    ∀ ink ∈ inks, ink.IsTrue source options.encoding := by
  unfold inkMerge at merges
  cases found : source.rootDocument root with
  | error failure =>
    rw [found] at merges
    exact absurd merges nofun
  | ok document =>
    rw [found] at merges
    obtain rfl := Except.ok.inj merges
    exact isTrue_inkVisit source options _ _ document document.directory

end TexFlat.Merge
