import Mathlib.Data.List.TakeWhile
import TexFlat.Fault
import TexFlat.Proofs.Marker.Lines

/-!
# The notices of a text

A notice is a marker that says why something was not brought in. It need not begin a line: what
replaces a directive goes on where the line of the directive was. `notices` are those of a text, in
order. A text without the signs of the markers has none, and such texts make none with what a merge
writes beside them.
-/

namespace TexFlat.Marker

open Directive (Kind cons_prefix_of_prefix_append)

inductive Topic
  | notFound (kind : Kind)
  | unreadable
  | alreadyIncluded
  | depthExceeded
deriving DecidableEq, Repr

structure Notice where
  topic : Topic
  /-- What stands between the front of the notice and its end. -/
  words : Text
deriving DecidableEq, Repr

namespace Topic

def front : Topic → Text
  | notFound kind => "% Error: ".toList ++ kind.title ++ " file not found: ".toList
  | unreadable => "% Error: Cannot read file ".toList
  | alreadyIncluded => "% Warning: File ".toList
  | depthExceeded => "% Error: Maximum inclusion depth ".toList

def behind : Topic → Text
  | alreadyIncluded => " already included, skipping".toList
  | _ => []

end Topic

def topics : List Topic := Kind.passes.map .notFound ++ [.unreadable, .alreadyIncluded, .depthExceeded]

def Notice.line (notice : Notice) : Text :=
  notice.topic.front ++ (notice.words ++ notice.topic.behind)

/-- The notice that stands from the front of the text to its end. -/
def notice? (text : Text) : Option Notice :=
  topics.findSome? fun topic => (within? topic.front topic.behind text).map (Notice.mk topic)

/-- At each place of a text, the notice that stands from there to the end of the line. -/
def notices : Text → List Notice
  | [] => []
  | c :: text => (notice? ((c :: text).takeWhile (· ≠ '\n'))).toList ++ notices text

/-- What the notices and the lines around a block begin with. -/
def signs : List Text := ["% Error: ".toList, "% Warning: ".toList, sign]

/-- A text in which no marker stands. -/
def Unmarked (text : Text) : Prop := ∀ sign ∈ signs, ¬ sign <:+: text

instance (text : Text) : Decidable (Unmarked text) := inferInstanceAs (Decidable (∀ sign ∈ signs, _))

variable {a b text : Text} {notice notice' : Notice} {topic : Topic}

/-! ### Reading a notice -/

theorem mem_topics (topic : Topic) : topic ∈ topics := by
  cases topic with
  | notFound kind => cases kind <;> decide
  | _ => decide

/-- The first character of a notice stands nowhere else in its front. -/
theorem exists_front_eq (topic : Topic) : ∃ rest, topic.front = '%' :: rest ∧ '%' ∉ rest := by
  cases topic with
  | notFound kind => cases kind <;> exact ⟨_, rfl, by decide +kernel⟩
  | _ => exact ⟨_, rfl, by decide +kernel⟩

theorem topic_eq_of_fronts {topic topic' : Topic} (h : topic.front <+: topic'.front) : topic = topic' := by
  have apart : ∀ topic ∈ topics, ∀ topic' ∈ topics, topic.front <+: topic'.front → topic = topic' := by
    decide +kernel
  exact apart topic (mem_topics topic) topic' (mem_topics topic') h

theorem front_prefix_line (notice : Notice) : notice.topic.front <+: notice.line := List.prefix_append _ _

theorem Notice.line_injective (same : notice.line = notice'.line) : notice = notice' := by
  obtain ⟨topic, words⟩ := notice
  obtain ⟨topic', words'⟩ := notice'
  obtain rfl : topic = topic' := by
    rcases List.prefix_or_prefix_of_prefix (same ▸ front_prefix_line ⟨topic, words⟩)
      (front_prefix_line ⟨topic', words'⟩) with short | short
    · exact topic_eq_of_fronts short
    · exact (topic_eq_of_fronts short).symm
  obtain rfl : words = words' := List.append_cancel_right (List.append_cancel_left same)
  rfl

/-- What is read as a notice is what one is written as. -/
theorem notice?_eq_some_iff : notice? text = some notice ↔ text = notice.line := by
  have sound {notice : Notice} (read : notice? text = some notice) : text = notice.line := by
    obtain ⟨topic, -, found⟩ := List.exists_of_findSome?_eq_some read
    obtain ⟨words, inside, rfl⟩ := Option.map_eq_some_iff.mp found
    rw [within?_eq_some_iff.mp inside, List.append_assoc]
    rfl
  refine ⟨sound, fun same => ?_⟩
  cases read : notice? text with
  | some notice' => rw [Notice.line_injective ((sound read).symm.trans same)]
  | none =>
    have missed := List.findSome?_eq_none_iff.mp read _ (mem_topics notice.topic)
    have here : text = notice.topic.front ++ notice.words ++ notice.topic.behind := by
      rw [same, List.append_assoc]
      rfl
    rw [Option.map_eq_none_iff, within?_eq_some_iff.mpr here] at missed
    exact absurd missed nofun

theorem notice?_eq_none (h : ∀ topic : Topic, ¬ topic.front <+: text) : notice? text = none := by
  cases read : notice? text with
  | none => rfl
  | some notice =>
    rw [notice?_eq_some_iff.mp read] at h
    exact absurd (front_prefix_line notice) (h notice.topic)

/-! ### The notices of a text -/

theorem notices_append (a b : Text) : notices (a ++ '\n' :: b) = notices a ++ notices b := by
  have line (a : Text) : (a ++ '\n' :: b).takeWhile (· ≠ '\n') = a.takeWhile (· ≠ '\n') := by
    induction a with
    | nil => simp
    | cons c a ih => rw [List.cons_append, List.takeWhile_cons, List.takeWhile_cons, ih]
  induction a with
  | nil => rfl
  | cons c a ih =>
    have first := line (c :: a)
    rw [List.cons_append] at first ⊢
    rw [notices, first, ih, notices, List.append_assoc]

/-- No notice begins in the text. -/
def Noticeless (text : Text) : Prop := ∀ topic : Topic, ¬ topic.front <:+: text

theorem Noticeless.of_infix (noticeless : Noticeless b) (h : a <:+: b) : Noticeless a :=
  fun topic stands => noticeless topic (stands.trans h)

theorem notices_of_noticeless (noticeless : Noticeless text) : notices text = [] := by
  induction text with
  | nil => rfl
  | cons c text ih =>
    have none : notice? ((c :: text).takeWhile (· ≠ '\n')) = none := notice?_eq_none fun topic begins =>
      noticeless topic (begins.isInfix.trans (List.takeWhile_prefix _).isInfix)
    rw [notices, none, ih (noticeless.of_infix (List.suffix_cons c text).isInfix)]
    rfl

/-! ### Texts without signs -/

theorem Unmarked.of_infix (unmarked : Unmarked b) (h : a <:+: b) : Unmarked a :=
  fun sign member stands => unmarked sign member (stands.trans h)

theorem Unmarked.unsigned (unmarked : Unmarked text) : Unsigned text := unmarked sign (by simp [signs])

theorem Unmarked.noticeless (unmarked : Unmarked text) : Noticeless text := by
  have signed : ∀ topic ∈ topics, ∃ sign ∈ signs, sign <:+: topic.front := by decide +kernel
  intro topic stands
  obtain ⟨sign, member, inside⟩ := signed topic (mem_topics topic)
  exact unmarked sign member (inside.trans stands)

theorem Unmarked.cons {c : Char} (unmarked : Unmarked text) (other : c ≠ '%') : Unmarked (c :: text) := by
  intro sign member stands
  have first : ∀ sign ∈ signs, sign.head? = some '%' := by decide
  rcases List.infix_cons_iff.mp stands with begins | stands
  · obtain ⟨word, rfl⟩ := List.head?_eq_some_iff.mp (first sign member)
    exact other (List.cons_prefix_cons.mp begins).1.symm
  · exact unmarked sign member stands

/-- Two texts without signs, with a character between them that stands in no sign. -/
theorem Unmarked.append_cons {c : Char} (first : Unmarked a) (second : Unmarked b)
    (other : ∀ sign ∈ signs, c ∉ sign) : Unmarked (a ++ c :: b) := by
  have behind : Unmarked (c :: b) := by
    refine second.cons ?_
    rintro rfl
    exact absurd other (by decide)
  intro sign member stands
  rcases infix_append_cases stands with stands | ⟨front, inside, filled, begins⟩
  · exact behind sign member stands
  · cases sign with
    | nil => exact absurd member (by decide)
    | cons w word =>
      have apart : ∀ c' ∈ word, (c :: b).head? ≠ some c' := by
        rintro c' among same
        obtain rfl := Option.some.inj same
        exact other _ member (List.mem_cons_of_mem w among)
      have whole := cons_prefix_of_prefix_append apart filled begins
      exact first _ member (whole.isInfix.trans inside.isInfix)

theorem hereditary_unmarked : Path.Hereditary Unmarked :=
  .of_parts Unmarked.of_infix (fun first second => first.append_cons second (by decide +kernel))
    (by decide +kernel)

/-! ### Texts in which no notice begins -/

/-- No notice begins as the text does, before either of them ends. -/
def Differs (text : Text) : Prop := ∀ topic ∈ topics, ¬ topic.front <+: text ∧ ¬ text <+: topic.front

instance (text : Text) : Decidable (Differs text) := inferInstanceAs (Decidable (∀ topic ∈ topics, _))

theorem Noticeless.prepend (differs : ∀ rest ∈ a.tails, rest ≠ [] → Differs rest)
    (noticeless : Noticeless b) : Noticeless (a ++ b) := by
  intro topic stands
  rcases infix_append_cases stands with stands | ⟨front, inside, filled, begins⟩
  · exact noticeless topic stands
  · have apart := differs front ((List.mem_tails _ _).mpr inside) filled topic (mem_topics topic)
    exact (List.prefix_or_prefix_of_prefix begins (List.prefix_append front b)).elim apart.1 apart.2

theorem differs_of_not_mem (absent : '%' ∉ a) : ∀ rest ∈ a.tails, rest ≠ [] → Differs rest := by
  intro rest inside filled topic _
  obtain ⟨c, rest, rfl⟩ := List.exists_cons_of_ne_nil filled
  have other : '%' ≠ c := by
    rintro rfl
    exact absent (((List.mem_tails _ _).mp inside).subset List.mem_cons_self)
  obtain ⟨word, front, -⟩ := exists_front_eq topic
  rw [front, List.cons_prefix_cons, List.cons_prefix_cons]
  exact ⟨fun both => other both.1, fun both => other both.1.symm⟩

/-- The text goes another way than any notice that a text without signs has begun before it. -/
def Bars (text : Text) : Prop :=
  ∀ topic ∈ topics, ∀ begun ∈ topic.front.inits, begun ≠ [] → Unmarked begun →
    ¬ topic.front.drop begun.length <+: text ∧ ¬ text <+: topic.front.drop begun.length

instance (text : Text) : Decidable (Bars text) := inferInstanceAs (Decidable (∀ topic ∈ topics, _))

theorem Unmarked.noticeless_append {more : Text} (unmarked : Unmarked a) (bars : Bars b)
    (noticeless : Noticeless (b ++ more)) : Noticeless (a ++ (b ++ more)) := by
  intro topic stands
  rcases infix_append_cases stands with stands | ⟨begun, inside, filled, begins⟩
  · exact noticeless topic stands
  · have before := unmarked.of_infix inside.isInfix
    rcases List.prefix_or_prefix_of_prefix begins (List.prefix_append begun (b ++ more)) with whole | part
    · exact before.noticeless topic whole.isInfix
    · have apart := bars topic (mem_topics topic) begun ((List.mem_inits _ _).mpr part) filled before
      obtain ⟨rest, same⟩ := part
      rw [← same, List.drop_left] at apart
      rw [← same, List.prefix_append_right_inj] at begins
      exact (List.prefix_or_prefix_of_prefix begins (List.prefix_append b more)).elim apart.1 apart.2

/-! ### What a merge writes -/

/-- A notice on a line, with no other one in it. -/
structure Notice.Single (notice : Notice) : Prop where
  one : '\n' ∉ notice.line
  rest : Noticeless (notice.words ++ notice.topic.behind)

theorem notices_line_of_single (single : notice.Single) : notices notice.line = [notice] := by
  obtain ⟨word, front, once⟩ := exists_front_eq notice.topic
  have line : notice.line = '%' :: (word ++ (notice.words ++ notice.topic.behind)) := by
    rw [Notice.line, front]
    rfl
  have whole : notice.line.takeWhile (· ≠ '\n') = notice.line := by
    rw [List.takeWhile_eq_self_iff]
    intro c member
    have other : c ≠ '\n' := by
      rintro rfl
      exact single.one member
    simpa using other
  have rest := notices_of_noticeless (single.rest.prepend (differs_of_not_mem once))
  have read : notice? notice.line = some notice := notice?_eq_some_iff.mpr rfl
  rw [line] at whole read ⊢
  rw [notices, whole, read, rest]
  rfl

/-- A notice brings itself, whatever text without signs it goes on behind. -/
theorem notices_notice_append (single : notice.Single) (unmarked : Unmarked a) (behind : Text) :
    notices (a ++ (notice.line ++ '\n' :: behind)) = notice :: notices behind := by
  rw [← List.append_assoc, notices_append]
  induction a with
  | nil => rw [List.nil_append, notices_line_of_single single]; rfl
  | cons c a ih =>
    have other : notice? ((c :: a ++ notice.line).takeWhile (· ≠ '\n')) = none := by
      refine notice?_eq_none fun topic begins => ?_
      obtain ⟨word, front, once⟩ := exists_front_eq topic
      obtain ⟨rest, front', -⟩ := exists_front_eq notice.topic
      -- The notice begins with a character that no front has in it.
      have apart : ∀ c ∈ word, notice.line.head? ≠ some c := by
        rintro c member same
        rw [Notice.line, front'] at same
        exact once (Option.some.inj same ▸ member)
      have stands := begins.trans (List.takeWhile_prefix _)
      rw [front] at stands
      have before := cons_prefix_of_prefix_append apart (List.cons_ne_nil c a) stands
      rw [← front] at before
      exact unmarked.noticeless topic before.isInfix
    have rest := ih (unmarked.of_infix (List.suffix_cons c a).isInfix)
    rw [List.cons_append] at other ⊢
    rw [notices, other]
    exact rest

theorem notices_notice (single : notice.Single) : notices (notice.line ++ ['\n']) = [notice] := by
  have nothing : Unmarked [] := by decide
  exact notices_notice_append single nothing []

/-- A line of a marker in which no notice begins. -/
theorem notices_line_append {line : Text} (noticeless : Noticeless line) (behind : Text) :
    notices (line ++ '\n' :: behind) = notices behind := by
  rw [notices_append, notices_of_noticeless noticeless]
  rfl

theorem noticeless_mark {mark : Mark} (unmarked : Unmarked mark.reference) : Noticeless mark.line := by
  have front (side : Side) (kind : Kind) : ∀ rest ∈ (title side kind).tails, rest ≠ [] → Differs rest := by
    cases side <;> cases kind <;> decide +kernel
  have last : Noticeless (" ======".toList ++ []) := by
    refine Noticeless.prepend (differs_of_not_mem (by decide)) ?_
    exact Unmarked.noticeless (by decide +kernel)
  have rest := unmarked.noticeless_append (by decide +kernel) last
  rw [List.append_nil] at rest
  rw [Mark.line, List.append_assoc]
  exact rest.prepend (front mark.side mark.kind)

section Block

variable {kind : Kind} {reference : Text} {file base : Path}

/-- The lines before the body of a block. -/
def headerLines (kind : Kind) (reference : Text) (file base : Path) : List Text :=
  (Mark.mk .start kind reference).line ::
    ((if kind = .includeFile then
      ["% Note: \\include forces page breaks, may need adjustment".toList] else []) ++
    ["% Original file: ".toList ++ file.text, "% Base directory: ".toList ++ base.text])

theorem header_eq : header kind reference file base =
    '\n' :: (headerLines kind reference file base).flatMap (· ++ ['\n']) := by
  have note : "% Note: \\include forces page breaks, may need adjustment\n".toList =
      "% Note: \\include forces page breaks, may need adjustment".toList ++ ['\n'] := by decide +kernel
  rw [header, startLine_eq, note, headerLines]
  split <;> simp

theorem noticeless_headerLines (reference' : Unmarked reference) (file' : Unmarked file.text)
    (base' : Unmarked base.text) : ∀ line ∈ headerLines kind reference file base, Noticeless line := by
  intro line member
  rcases List.mem_cons.mp member with rfl | member
  · exact noticeless_mark reference'
  rcases List.mem_append.mp member with member | member
  · split at member
    · rw [List.mem_singleton.mp member]
      exact Unmarked.noticeless (by decide +kernel)
    · exact absurd member List.not_mem_nil
  · rcases List.mem_cons.mp member with rfl | member
    · exact file'.noticeless.prepend (by decide +kernel)
    · rw [List.mem_singleton.mp member]
      exact base'.noticeless.prepend (by decide +kernel)

/-- A block brings the notices of its body, whatever it is put between. -/
theorem notices_block (reference' : Unmarked reference) (file' : Unmarked file.text)
    (base' : Unmarked base.text) {front : Text} (before : Unmarked front) (body behind : Text) :
    notices (front ++ (block kind reference file base body ++ behind)) =
      notices body ++ notices behind := by
  have lines (lines : List Text) (each : ∀ line ∈ lines, Noticeless line) (behind : Text) :
      notices (lines.flatMap (· ++ ['\n']) ++ behind) = notices behind := by
    induction lines with
    | nil => rfl
    | cons line lines ih =>
      simp only [List.flatMap_cons, List.append_assoc, List.cons_append]
      rw [notices_line_append (each line List.mem_cons_self)]
      exact ih fun other member => each other (List.mem_cons_of_mem line member)
  have stop : Noticeless (Mark.mk .stop kind reference).line := noticeless_mark reference'
  rw [block, header_eq, footer, endLine_eq]
  simp only [List.append_assoc, List.cons_append, List.nil_append]
  rw [notices_append, notices_of_noticeless before.noticeless,
    lines _ (noticeless_headerLines reference' file' base'), notices_append, notices_line_append stop]
  rfl

end Block

/-! ### What a notice is written with -/

/-- A text on one line that may stand in a marker. -/
def Clean (text : Text) : Prop := Unmarked text ∧ '\n' ∉ text

theorem hereditary_clean : Path.Hereditary Clean := by
  have one : Path.Hereditary ('\n' ∉ ·) := Path.hereditary_not_mem (by decide) (by decide)
  refine ⟨fun whole => ?_, fun first second => ?_, ?_, ?_⟩
  · obtain ⟨front, behind⟩ := hereditary_unmarked.cut whole.1
    obtain ⟨front', behind'⟩ := one.cut whole.2
    exact ⟨⟨front, front'⟩, behind, behind'⟩
  · exact ⟨hereditary_unmarked.slash first.1 second.1, one.slash first.2 second.2⟩
  · exact ⟨hereditary_unmarked.dot, one.dot⟩
  · exact ⟨hereditary_unmarked.empty, one.empty⟩

section Written

variable {reference : Text} {file : Path}

theorem newline_not_mem_front (topic : Topic) : '\n' ∉ topic.front := by
  have none : ∀ topic ∈ topics, '\n' ∉ topic.front := by decide +kernel
  exact none topic (mem_topics topic)

theorem line_of_bare {notice : Notice} (bare : notice.topic.behind = []) :
    notice.line = notice.topic.front ++ notice.words := by
  rw [Notice.line, bare, List.append_nil]

theorem notFound_eq (kind : Kind) (reference : Text) :
    notFound kind reference = (Notice.mk (.notFound kind) reference).line ++ ['\n'] := by
  rw [line_of_bare rfl]
  rfl

theorem single_notFound (clean : Clean reference) (kind : Kind) :
    (Notice.mk (.notFound kind) reference).Single := by
  refine ⟨List.not_mem_append (newline_not_mem_front _) ?_, ?_⟩
  · exact List.not_mem_append clean.2 List.not_mem_nil
  · exact (List.append_nil reference).symm ▸ clean.1.noticeless

theorem alreadyIncluded_eq (file : Path) :
    alreadyIncluded file = (Notice.mk .alreadyIncluded file.text).line ++ ['\n'] := by
  have last : " already included, skipping\n".toList = " already included, skipping".toList ++ ['\n'] := by
    decide +kernel
  have line : (Notice.mk .alreadyIncluded file.text).line =
      "% Warning: File ".toList ++ (file.text ++ " already included, skipping".toList) := rfl
  calc alreadyIncluded file
      = "% Warning: File ".toList ++ file.text ++ (" already included, skipping".toList ++ ['\n']) :=
        congrArg ("% Warning: File ".toList ++ file.text ++ ·) last
    _ = (Notice.mk .alreadyIncluded file.text).line ++ ['\n'] := by simp only [line, List.append_assoc]

theorem single_alreadyIncluded (clean : Clean file.text) : (Notice.mk .alreadyIncluded file.text).Single := by
  refine ⟨List.not_mem_append (newline_not_mem_front _) ?_, ?_⟩
  · exact List.not_mem_append clean.2 (show '\n' ∉ " already included, skipping".toList by decide +kernel)
  · have behind : Noticeless (" already included, skipping".toList ++ []) :=
      Unmarked.noticeless (by decide +kernel)
    have rest := clean.1.noticeless_append (by decide +kernel) behind
    rwa [List.append_nil] at rest

theorem unreadable_eq (file : Path) (cause : Text) :
    unreadable file cause = (Notice.mk .unreadable (file.text ++ (": ".toList ++ cause))).line ++ ['\n'] := by
  rw [line_of_bare rfl, ← List.append_assoc, ← List.append_assoc]
  rfl

theorem single_unreadable (clean : Clean file.text) :
    (Notice.mk .unreadable (file.text ++ (": ".toList ++ (Fault.noSuchFile file).message))).Single := by
  have between : ": ".toList ++ (Fault.noSuchFile file).message = ": no such file: ".toList ++ file.text := by
    have word : ": ".toList ++ "no such file: ".toList = ": no such file: ".toList := by decide +kernel
    exact (List.append_assoc _ _ _).symm.trans (congrArg (· ++ file.text) word)
  rw [between]
  refine ⟨List.not_mem_append (newline_not_mem_front _) ?_, ?_⟩
  · refine List.not_mem_append (List.not_mem_append clean.2 ?_) List.not_mem_nil
    exact List.not_mem_append (by decide +kernel) clean.2
  · have behind := clean.1.noticeless.prepend
      (differs_of_not_mem (a := ": no such file: ".toList) (by decide +kernel))
    have rest := clean.1.noticeless_append (by decide +kernel) behind
    exact (List.append_nil _).symm ▸ rest

theorem depthExceeded_eq (maxDepth : Nat) (file : Path) : depthExceeded maxDepth file =
    (Notice.mk .depthExceeded (Nat.toDigits 10 maxDepth ++
      (" exceeded, not expanding ".toList ++ file.text))).line ++ ['\n'] := by
  rw [line_of_bare rfl, ← List.append_assoc, ← List.append_assoc]
  rfl

theorem single_depthExceeded (clean : Clean file.text) (maxDepth : Nat) :
    (Notice.mk .depthExceeded (Nat.toDigits 10 maxDepth ++
      (" exceeded, not expanding ".toList ++ file.text))).Single := by
  have digits {c : Char} (other : c.isDigit = false) : c ∉ Nat.toDigits 10 maxDepth := by
    intro member
    have digit := Nat.isDigit_of_mem_toDigits (by decide) (by decide) member
    rw [other] at digit
    exact absurd digit nofun
  refine ⟨List.not_mem_append (newline_not_mem_front _) ?_, ?_⟩
  · refine List.not_mem_append (List.not_mem_append (digits (by decide)) ?_) List.not_mem_nil
    exact List.not_mem_append (by decide +kernel) clean.2
  · have behind := clean.1.noticeless.prepend
      (differs_of_not_mem (a := " exceeded, not expanding ".toList) (by decide +kernel))
    have rest := behind.prepend (differs_of_not_mem (digits (by decide)))
    exact (List.append_nil _).symm ▸ rest

end Written

end TexFlat.Marker
