import TexFlat.Proofs.Encoding.Chinese
import TexFlat.Proofs.Encoding.CodePage
import TexFlat.Proofs.Encoding.Korean

/-!
# What is written and read again

`decode?_eq_some_iff_of_encode?` says for every encoding when a written text is read back as itself. Two things
can go wrong: the encoding is one that is only read, so that what was written is UTF-8, or it writes one
character for another. In UTF-8 and with one byte to a character neither happens, and the bytes of a text are
those that stand for it: `Exact.decode?_eq_some_iff`.
-/

namespace TexFlat.Encoding

variable {encoding : Encoding} {bytes : Bytes} {text x y : Text}

/-- An encoding that is written as well as read. -/
def IsWritten : Encoding → Prop
  | utf16 _ => False
  | replacement => False
  | _ => True

/-- The encoding writes another character than the given one. -/
def Alters : Encoding → Char → Prop
  | gbk, c => c.toNat ∈ Gb18030.privatePairs.map Prod.fst
  | gb18030, c => c.toNat ∈ Gb18030.privatePairs.map Prod.fst
  | shiftJis, c => c ∈ lenient
  | eucJp, c => c ∈ lenient
  | iso2022Jp, c => c = '\u2212' ∨ (katakanaByte? c).isSome
  | _, _ => False

/-- The bytes of a text are those that stand for it. -/
def Exact : Encoding → Prop
  | utf8 => True
  | userDefined => True
  | singleByte _ => True
  | _ => False

theorem Exact.decode?_eq_some_iff (exact : encoding.Exact) :
    encoding.decode? bytes = some text ↔ encoding.encode? text = some bytes := by
  cases encoding with
  | utf8 =>
    refine decodeUtf8?_eq_some_iff.trans ?_
    rw [encode?, Option.some.injEq]
  | userDefined => exact decodeBy_userDefined_eq_some_iff
  | singleByte page => exact decodeBy_codePage_eq_some_iff
  | _ => exact absurd exact id

theorem encode?_nil (encoding : Encoding) : encoding.encode? [] = some [] := by
  cases encoding <;> rfl

/-- The bytes of a text are those of its parts. -/
theorem Exact.encode?_append_eq_some_iff (exact : encoding.Exact) :
    encoding.encode? (x ++ y) = some bytes ↔
      ∃ a b, encoding.encode? x = some a ∧ encoding.encode? y = some b ∧ a ++ b = bytes := by
  cases encoding with
  | utf8 => simp only [encode?, Option.some.injEq, exists_and_left, exists_eq_left', encodeUtf8_append]
  | userDefined => exact encodeBy_append_eq_some_iff
  | singleByte page => exact encodeBy_append_eq_some_iff
  | _ => exact absurd exact id

theorem decode?_iso2022Jp (written : encode? iso2022Jp text = some bytes) :
    decode? iso2022Jp bytes = some text ↔ ∀ c ∈ text, ¬ Alters iso2022Jp c := by
  have read : decode? iso2022Jp bytes = some (text.map Iso2022Jp.fullWidth) :=
    Iso2022Jp.decodeFrom?_of_encodeFrom? written
  have same : text.map Iso2022Jp.fullWidth = text ↔ ∀ c ∈ text, Iso2022Jp.fullWidth c = c := by
    conv_lhs => rw [← List.map_id text, List.map_map]
    exact List.map_inj_left
  rw [read, Option.some.injEq, same]
  exact forall₂_congr fun c _ => Iso2022Jp.fullWidth_eq_iff

theorem decode?_of_isWritten (proper : encoding.IsWritten) (written : encoding.encode? text = some bytes) :
    encoding.decode? bytes = some text ↔ ∀ c ∈ text, ¬ encoding.Alters c := by
  have exact_iff (exact : encoding.Exact) (faithful : ∀ c, ¬ encoding.Alters c) :
      encoding.decode? bytes = some text ↔ ∀ c ∈ text, ¬ encoding.Alters c :=
    iff_of_true (exact.decode?_eq_some_iff.mpr written) fun c _ => faithful c
  cases encoding with
  | utf16 order => exact absurd proper id
  | replacement => exact absurd proper id
  | utf8 => exact exact_iff trivial fun _ => id
  | userDefined => exact exact_iff trivial fun _ => id
  | singleByte page => exact exact_iff trivial fun _ => id
  | iso2022Jp => exact decode?_iso2022Jp written
  | gbk => exact decodeBy_eq_some_iff (fun _ _ spelt => Gbk.reads spelt) written
  | gb18030 => exact decodeBy_eq_some_iff (fun _ _ spelt => Gb18030.reads spelt) written
  | shiftJis => exact decodeBy_eq_some_iff (fun _ _ spelt => ShiftJis.reads spelt) written
  | eucJp => exact decodeBy_eq_some_iff (fun _ _ spelt => EucJp.reads spelt) written
  | big5 =>
    exact decodeBy_eq_some_iff (fun c _ spelt => ⟨some c, Big5.reads spelt, iff_of_true rfl id⟩) written
  | eucKr =>
    exact decodeBy_eq_some_iff (fun c _ spelt => ⟨some c, EucKr.reads spelt, iff_of_true rfl id⟩) written

/-- A written text is read back as itself if its encoding is one that is written, or there is nothing to
write, and no character was altered. -/
theorem decode?_eq_some_iff_of_encode? (written : encoding.encode? text = some bytes) :
    encoding.decode? bytes = some text ↔
      (encoding.IsWritten ∨ text = []) ∧ ∀ c ∈ text, ¬ encoding.Alters c := by
  have proper_iff (proper : encoding.IsWritten) : encoding.decode? bytes = some text ↔
      (encoding.IsWritten ∨ text = []) ∧ ∀ c ∈ text, ¬ encoding.Alters c := by
    rw [decode?_of_isWritten proper written, and_iff_right (Or.inl proper)]
  -- what an encoding that is only read is written in is UTF-8
  have blank_iff (improper : ¬ encoding.IsWritten) (faithful : ∀ c, ¬ encoding.Alters c)
      (blank : encoding.decode? bytes = some text ↔ text = []) : encoding.decode? bytes = some text ↔
        (encoding.IsWritten ∨ text = []) ∧ ∀ c ∈ text, ¬ encoding.Alters c := by
    rw [blank, or_iff_right improper, and_iff_left fun c _ => faithful c]
  cases encoding with
  | utf16 order =>
    obtain rfl := Option.some.inj written
    exact blank_iff id (fun _ => id) decodeUtf16?_encodeUtf8
  | replacement =>
    obtain rfl := Option.some.inj written
    refine blank_iff id (fun _ => id) ?_
    rw [decode?, ← encodeUtf8_eq_nil_iff]
    split
    · rename_i blank
      exact iff_of_true (congrArg some (encodeUtf8_eq_nil_iff.mp blank).symm) blank
    · rename_i filled
      exact iff_of_false nofun filled
  | _ => exact proper_iff trivial

end TexFlat.Encoding
