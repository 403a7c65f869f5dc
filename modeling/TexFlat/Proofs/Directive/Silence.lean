import TexFlat.Directive.Scan

/-!
# Texts in which no directive begins

A text is silent if no directive of a kind begins in it, whatever text of a given sort comes behind
it. Silent texts are put together by `Silent.append`, and scanned by `segments_append_of_silent`. A
text in which no command stands is silent before any text that does not go on with a letter, and a
line of it is silent before any text at all.
-/

namespace TexFlat.Directive

/-- No directive of the kind begins in `text` if what follows it is as `next` says. -/
def Silent (kind : Kind) (next : Text → Prop) (text : Text) : Prop :=
  ∀ rest, rest <:+ text → rest ≠ [] → ∀ more, next more → at? kind (rest ++ more) = none

/-- A text that goes on no word that stands before it. -/
def Parted (text : Text) : Prop := ∀ c, text.head? = some c → c.isAlpha = false

/-- No command stands in the text. -/
def Mute (text : Text) : Prop := ∀ rest, rest <:+ text → ∀ kind, ¬ command kind <+: rest

abbrev Closed (kind : Kind) (text : Text) : Prop := Silent kind (fun _ => True) text

theorem suffix_append_cases {rest a b : Text} (h : rest <:+ a ++ b) :
    rest <:+ b ∨ ∃ front, front <:+ a ∧ front ≠ [] ∧ rest = front ++ b := by
  obtain ⟨before, whole⟩ := h
  rcases List.append_eq_append_iff.mp whole with ⟨front, cut, same⟩ | ⟨middle, cut, same⟩
  · by_cases empty : front = []
    · exact .inl (by rw [same, empty]; exact List.suffix_refl b)
    · exact .inr ⟨front, ⟨before, cut.symm⟩, empty, same⟩
  · exact .inl ⟨middle, same.symm⟩

theorem suffix_cons_cases {rest text : Text} {c : Char} (h : rest <:+ c :: text) :
    rest = c :: text ∨ rest <:+ text := List.suffix_cons_iff.mp h

/-! ### Commands -/

theorem isAlpha_of_mem_word {kind : Kind} {c : Char} (h : c ∈ kind.word) : c.isAlpha = true := by
  have letters : kind.word.all Char.isAlpha = true := by cases kind <;> decide
  exact List.all_eq_true.mp letters c h

theorem after?_eq_none_of_not_prefix {word text : Text} (h : ¬ word <+: text) :
    Text.after? word text = none := by
  cases found : Text.after? word text with
  | none => rfl
  | some rest => exact absurd ⟨rest, (Text.after?_eq_some_iff.mp found).symm⟩ h

theorem after?_append (word rest : Text) : Text.after? word (word ++ rest) = some rest :=
  Text.after?_eq_some_iff.mpr rfl

theorem at?_eq_none_of_not_prefix {kind : Kind} {text : Text} (h : ¬ command kind <+: text) :
    at? kind text = none := by
  cases kind with
  | inputFile => simp [at?, inputAt?, after?_eq_none_of_not_prefix h]
  | importFile => simp [at?, importAt?, after?_eq_none_of_not_prefix h]
  | includeFile => simp [at?, includeAt?, after?_eq_none_of_not_prefix h]

theorem at?_eq_none_of_ne {kind : Kind} {c : Char} {text : Text} (h : c ≠ '\\') :
    at? kind (c :: text) = none :=
  at?_eq_none_of_not_prefix fun begins => h (List.cons_prefix_cons.mp begins).1.symm

/-- A word that begins before a text which does not go on with it ends before that text. -/
theorem prefix_of_prefix_append {word front more : Text} (apart : ∀ c ∈ word, more.head? ≠ some c)
    (h : word <+: front ++ more) : word <+: front := by
  induction word generalizing front with
  | nil => exact List.nil_prefix
  | cons w word ih =>
    cases front with
    | nil =>
      obtain ⟨rest, whole⟩ := h
      exact absurd (by rw [← List.nil_append more, ← whole]; rfl) (apart w List.mem_cons_self)
    | cons c front =>
      obtain ⟨same, h⟩ := List.cons_prefix_cons.mp h
      exact List.cons_prefix_cons.mpr
        ⟨same, ih (fun c member => apart c (List.mem_cons_of_mem w member)) h⟩

theorem cons_prefix_of_prefix_append {w : Char} {word front more : Text}
    (apart : ∀ c ∈ word, more.head? ≠ some c) (filled : front ≠ [])
    (h : w :: word <+: front ++ more) : w :: word <+: front := by
  cases front with
  | nil => exact absurd rfl filled
  | cons c front =>
    obtain ⟨same, h⟩ := List.cons_prefix_cons.mp h
    exact List.cons_prefix_cons.mpr ⟨same, prefix_of_prefix_append apart h⟩

theorem parted_of_head? {text : Text} (h : text.head?.any Char.isAlpha = false) : Parted text := by
  intro c first
  rw [first] at h
  exact h

theorem Parted.head?_ne {more : Text} (parted : Parted more) {c : Char} (letter : c.isAlpha = true) :
    more.head? ≠ some c := by
  intro first
  rw [parted c first] at letter
  exact absurd letter nofun

theorem command_prefix_of_prefix_append {kind : Kind} {front more : Text} (parted : Parted more)
    (filled : front ≠ []) (h : command kind <+: front ++ more) : command kind <+: front :=
  cons_prefix_of_prefix_append (fun _ member => parted.head?_ne (isAlpha_of_mem_word member))
    filled h

/-- No two commands begin alike to the end of one. -/
theorem kind_eq_of_begins {kind other : Kind} {text : Text} (h : command kind <+: text)
    (h' : command other <+: text) : kind = other := by
  have nested : command kind <+: command other ∨ command other <+: command kind :=
    List.prefix_or_prefix_of_prefix h h'
  revert nested
  cases kind <;> cases other <;> decide

/-! ### Mute texts -/

theorem mute_of_not_mem {text : Text} (absent : '\\' ∉ text) : Mute text := by
  intro rest behind kind begins
  exact absent (behind.subset (begins.subset List.mem_cons_self))

theorem Mute.of_infix {part text : Text} (mute : Mute text) (h : part <:+: text) : Mute part := by
  obtain ⟨before, after, rfl⟩ := h
  intro rest behind kind begins
  obtain ⟨front, rfl⟩ := behind
  refine mute (rest ++ after) ⟨before ++ front, by simp⟩ kind ?_
  exact begins.trans (List.prefix_append rest after)

theorem Mute.append {a b : Text} (first : Mute a) (second : Mute b) (parted : Parted b) :
    Mute (a ++ b) := by
  intro rest behind kind begins
  rcases suffix_append_cases behind with behind | ⟨front, inside, filled, rfl⟩
  · exact second rest behind kind begins
  · exact first front inside kind (command_prefix_of_prefix_append parted filled begins)

theorem Mute.prepend {a b : Text} (absent : '\\' ∉ a) (mute : Mute b) : Mute (a ++ b) := by
  intro rest behind kind begins
  rcases suffix_append_cases behind with behind | ⟨front, inside, filled, rfl⟩
  · exact mute rest behind kind begins
  · cases front with
    | nil => exact filled rfl
    | cons c front =>
      have same := (List.cons_prefix_cons.mp begins).1
      exact absent (same ▸ inside.subset List.mem_cons_self)

/-! ### Silent texts -/

section Silent

variable {kind : Kind} {next next' : Text → Prop} {a b text : Text}

theorem Silent.append (first : Silent kind next a) (second : Silent kind next' b)
    (passes : ∀ more, next' more → next (b ++ more)) : Silent kind next' (a ++ b) := by
  intro rest behind nonempty more follows
  rcases suffix_append_cases behind with behind | ⟨front, inside, filled, rfl⟩
  · exact second rest behind nonempty more follows
  · rw [List.append_assoc]
    exact first front inside filled (b ++ more) (passes more follows)

theorem Closed.append (first : Closed kind a) (second : Silent kind next b) :
    Silent kind next (a ++ b) := Silent.append first second fun _ _ => trivial

theorem Closed.silent (closed : Closed kind text) : Silent kind next text :=
  fun rest behind filled more _ => closed rest behind filled more trivial

theorem Mute.silent (mute : Mute text) : Silent kind Parted text := by
  intro rest behind filled more parted
  apply at?_eq_none_of_not_prefix
  intro begins
  exact mute rest behind kind (command_prefix_of_prefix_append parted filled begins)

theorem parted_cons {c : Char} (h : c.isAlpha = false) : Parted (c :: text) := by
  intro first same
  obtain rfl := Option.some.inj same
  exact h

theorem Silent.closed_line (silent : Silent kind Parted text) : Closed kind (text ++ ['\n']) := by
  have last : Closed kind ['\n'] := by
    intro rest behind filled more _
    rcases suffix_cons_cases behind with rfl | behind
    · exact at?_eq_none_of_ne (by decide)
    · exact absurd (List.suffix_nil.mp behind) filled
  exact Silent.append silent last fun more _ => parted_cons rfl

theorem segments_append_of_silent {more : Text} (silent : Silent kind next text)
    (follows : next more) :
    segments kind (text ++ more) = text.map .char ++ segments kind more := by
  induction text with
  | nil => rfl
  | cons c text ih =>
    have first := silent (c :: text) (List.suffix_refl _) (List.cons_ne_nil c text) more follows
    rw [List.cons_append] at first ⊢
    rw [segments_cons first, ih fun rest behind =>
      silent rest (behind.trans (List.suffix_cons c text))]
    rfl

end Silent

end TexFlat.Directive
