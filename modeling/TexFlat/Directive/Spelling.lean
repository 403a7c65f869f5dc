import TexFlat.Directive.Basic

/-!
# How a directive is spelled

A directive is its command and its arguments, with blanks between them where one likes. `at?` reads
one from the front of a text; `source_append_of_at?` says that what it takes is the front of the
text, and `source_ne_nil_of_at?` that this is not nothing.
-/

namespace TexFlat.Directive

/-- A name as it is written, without the blanks around it, then the double quotes, then the single
ones. -/
def clean (written : Text) : Text :=
  Text.trimBy (· == '\'') (Text.trimBy (· == '"') (Text.trim written))

/-- A stretch of text that was recognised: all of it, what it says, and the text behind it. -/
structure Stretch where
  source : Text
  value : Text
  rest : Text

/-- An argument in braces, which ends at the first closing one and is not empty. -/
def braced? : Text → Option Stretch
  | [] => none
  | c :: text =>
    let argument := text.takeWhile (· ≠ '}')
    match text.dropWhile (· ≠ '}') with
    | [] => none
    | close :: rest =>
      if c = '{' ∧ argument ≠ [] then some ⟨c :: argument ++ [close], argument, rest⟩ else none

def isBare (c : Char) : Bool := !Text.isBlank c && c != '{'

/-- An argument without braces, up to the next blank or opening brace. It is not empty. -/
def bare? (text : Text) : Option Stretch :=
  let word := text.takeWhile isBare
  if word = [] then none else some ⟨word, word, text.dropWhile isBare⟩

def bracedOrBare? (text : Text) : Option Stretch :=
  match braced? text with
  | some s => some s
  | none => bare? text

/-- Blanks, and then an argument. -/
def spaced? (argument? : Text → Option Stretch) (text : Text) : Option Stretch :=
  (argument? (text.dropWhile Text.isBlank)).map fun found =>
    { found with source := text.takeWhile Text.isBlank ++ found.source }

def command (kind : Kind) : Text := '\\' :: kind.word

/-- An input takes its name in braces or bare. -/
def inputAt? (text : Text) : Option Directive := do
  let rest ← Text.after? (command .inputFile) text
  let name ← spaced? bracedOrBare? rest
  some
    { kind := .inputFile
      source := command .inputFile ++ name.source
      directory := none
      name := clean name.value }

/-- An import takes a directory and a name, both in braces. -/
def importAt? (text : Text) : Option Directive := do
  let rest ← Text.after? (command .importFile) text
  let directory ← spaced? braced? rest
  let name ← spaced? braced? directory.rest
  some
    { kind := .importFile
      source := command .importFile ++ (directory.source ++ name.source)
      directory := some (clean directory.value)
      name := clean name.value }

/-- What may stand behind an include's command: `\includeonly` is read as `\include` is. -/
def onlyWord (text : Text) : Text :=
  if (Text.after? "only".toList text).isSome then "only".toList else []

/-- An include takes its name in braces. -/
def includeAt? (text : Text) : Option Directive := do
  let rest ← Text.after? (command .includeFile) text
  let name ← spaced? braced? (rest.drop (onlyWord rest).length)
  some
    { kind := .includeFile
      source := command .includeFile ++ (onlyWord rest ++ name.source)
      directory := none
      name := clean name.value }

/-- The directive that begins at the front of a text. -/
def at? : Kind → Text → Option Directive
  | .inputFile => inputAt?
  | .importFile => importAt?
  | .includeFile => includeAt?

/-! ### What is taken is the front of the text -/

theorem source_append_of_braced? {text : Text} {s : Stretch} (h : braced? text = some s) :
    s.source ++ s.rest = text := by
  cases text with
  | nil => simp [braced?] at h
  | cons c text =>
    have whole := List.takeWhile_append_dropWhile (p := (· ≠ '}')) (l := text)
    simp only [braced?] at h
    split at h
    · simp at h
    · rename_i close rest found
      split at h
      · obtain rfl := Option.some.inj h
        rw [found] at whole
        simpa using whole
      · simp at h

theorem source_append_of_bare? {text : Text} {s : Stretch} (h : bare? text = some s) :
    s.source ++ s.rest = text := by
  simp only [bare?] at h
  split at h
  · simp at h
  · obtain rfl := Option.some.inj h
    exact List.takeWhile_append_dropWhile

theorem source_append_of_bracedOrBare? {text : Text} {s : Stretch}
    (h : bracedOrBare? text = some s) : s.source ++ s.rest = text := by
  unfold bracedOrBare? at h
  split at h
  · rename_i braces
    obtain rfl := Option.some.inj h
    exact source_append_of_braced? braces
  · exact source_append_of_bare? h

theorem source_append_of_spaced? {argument? : Text → Option Stretch}
    (front : ∀ text s, argument? text = some s → s.source ++ s.rest = text)
    {text : Text} {s : Stretch} (h : spaced? argument? text = some s) :
    s.source ++ s.rest = text := by
  obtain ⟨found, read, rfl⟩ := Option.map_eq_some_iff.mp h
  have inner := front _ _ read
  simp only [List.append_assoc, inner, List.takeWhile_append_dropWhile]

theorem onlyWord_append_drop (text : Text) :
    onlyWord text ++ text.drop (onlyWord text).length = text := by
  unfold onlyWord
  split
  · rename_i present
    obtain ⟨rest, after⟩ := Option.isSome_iff_exists.mp present
    rw [Text.after?_eq_some_iff.mp after]
    simp
  · simp

theorem source_append_of_at? {kind : Kind} {text : Text} {d : Directive}
    (h : at? kind text = some d) : ∃ rest, d.source ++ rest = text := by
  cases kind with
  | inputFile =>
    simp only [at?, inputAt?, Option.bind_eq_bind, Option.bind_eq_some_iff, Option.some.injEq] at h
    obtain ⟨rest, after, name, read, rfl⟩ := h
    refine ⟨name.rest, ?_⟩
    have inner := source_append_of_spaced? (fun _ _ => source_append_of_bracedOrBare?) read
    rw [List.append_assoc, inner, Text.after?_eq_some_iff.mp after]
  | importFile =>
    simp only [at?, importAt?, Option.bind_eq_bind, Option.bind_eq_some_iff, Option.some.injEq] at h
    obtain ⟨rest, after, directory, first, name, second, rfl⟩ := h
    refine ⟨name.rest, ?_⟩
    have outer := source_append_of_spaced? (fun _ _ => source_append_of_braced?) first
    have inner := source_append_of_spaced? (fun _ _ => source_append_of_braced?) second
    rw [List.append_assoc, List.append_assoc, inner, outer, Text.after?_eq_some_iff.mp after]
  | includeFile =>
    simp only [at?, includeAt?, Option.bind_eq_bind, Option.bind_eq_some_iff,
      Option.some.injEq] at h
    obtain ⟨rest, after, name, read, rfl⟩ := h
    refine ⟨name.rest, ?_⟩
    have inner := source_append_of_spaced? (fun _ _ => source_append_of_braced?) read
    rw [List.append_assoc, List.append_assoc, inner, onlyWord_append_drop,
      Text.after?_eq_some_iff.mp after]

theorem source_ne_nil_of_at? {kind : Kind} {text : Text} {d : Directive}
    (h : at? kind text = some d) : d.source ≠ [] := by
  cases kind with
  | inputFile =>
    simp only [at?, inputAt?, Option.bind_eq_bind, Option.bind_eq_some_iff, Option.some.injEq] at h
    obtain ⟨_, _, _, _, rfl⟩ := h
    simp [command]
  | importFile =>
    simp only [at?, importAt?, Option.bind_eq_bind, Option.bind_eq_some_iff, Option.some.injEq] at h
    obtain ⟨_, _, _, _, _, _, rfl⟩ := h
    simp [command]
  | includeFile =>
    simp only [at?, includeAt?, Option.bind_eq_bind, Option.bind_eq_some_iff,
      Option.some.injEq] at h
    obtain ⟨_, _, _, _, rfl⟩ := h
    simp [command]

end TexFlat.Directive
