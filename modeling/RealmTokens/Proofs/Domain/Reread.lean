/-
Names in ASCII that are read once more.

A name that was brought into ASCII has no other way to be read than label by label.  A label without the
mark of encoded ones stays, and a label with the mark was encoded or decoded before and is decoded again,
unless it is too long for the decoder.  Main statements: a name in ASCII is read as itself exactly if no
marked label is too long, and is not a name otherwise; and dots at its end can be taken away before.
-/
import RealmTokens.Proofs.Domain.ComparedForms
import RealmTokens.Proofs.Domain.Names

namespace RealmTokens
namespace Domain

/-! ## Labels -/

/-- Whether the decoder reads the part of a name, or has nothing to do with it. -/
def ReadablePart (part : List Char) : Prop :=
  encodedMark <+: part → part.length ≤ encodedMark.length + maxDecoded

/-- Whether no part of a name is too long for the decoder. -/
def Readable (name : List Char) : Prop :=
  ∀ part ∈ name.splitOn '.', ReadablePart part

theorem label?_eq_none_of_not_readable {part : List Char} (h : ¬ReadablePart part) :
    label? part = none := by
  obtain ⟨hmark, hlong⟩ := Classical.not_imp.1 h
  have hdrop : maxDecoded < (part.drop encodedMark.length).length := by
    rw [List.length_drop]
    omega
  rw [label?, if_pos (List.isPrefixOf_iff_prefix.2 hmark), encodedLabel?, decide_eq_true hdrop]
  rfl

/-- A label in ASCII is read as the same label unless it is too long. -/
theorem label?_ascii_of_readable {text : List Char} {l : Label} (h : label? text = some l)
    (readable : ReadablePart l.ascii) : label? l.ascii = some l := by
  by_cases hmark : encodedMark <+: l.ascii
  · exact label?_ascii h (readable hmark)
  · -- Only a label with the mark can differ from its text.
    rcases label?_eq_some h with ⟨hl, -⟩ | ⟨rfl, -⟩
    · rw [hl]
      exact h
    · exact absurd (List.prefix_append _ _) hmark

theorem label?_nil : label? [] = some ⟨[], []⟩ := rfl

/-- Nothing is left of no label but the empty one. -/
theorem meaning_of_ascii_eq_nil {text : List Char} {l : Label} (h : label? text = some l)
    (hnil : l.ascii = []) : l.meaning = [] := by
  rcases label?_eq_some h with ⟨hl, -⟩ | ⟨rfl, -⟩
  · obtain rfl : text = [] := hl.symm.trans hnil
    obtain rfl := Option.some.inj (label?_nil.symm.trans h)
    rfl
  · cases hnil

/-! ## Names -/

/-- Whether a name in ASCII has these labels between its dots, each of which was read from some text. -/
structure Divides (ascii : List Char) (labels : List Label) : Prop where
  parts : ascii.splitOn '.' = labels.map Label.ascii
  allowed : bidiAllowed labels = true
  read : ∀ l ∈ labels, ∃ text, label? text = some l

theorem divides_of_toAscii? {name ascii : List Char} (h : toAscii? name = some ascii) :
    ∃ labels, Divides ascii labels := by
  obtain ⟨labels, hparts, -, hallowed, hread, -⟩ := labels_of_toAscii? h
  exact ⟨labels, hparts, hallowed, hread⟩

section Divides

variable {ascii : List Char} {labels : List Label}

/-- The empty label behind a dot at the end has no part in the rule for mixed directions. -/
theorem bidiAllowed_of_concat {l : Label} (hnil : l.meaning = [])
    (h : bidiAllowed (labels ++ [l]) = true) : bidiAllowed labels = true := by
  simpa [bidiAllowed, hnil] using h

theorem Divides.of_dot (h : Divides (ascii ++ ['.']) labels) : ∃ front, Divides ascii front := by
  have hsplit : (ascii ++ ['.']).splitOn '.' = ascii.splitOn '.' ++ [[]] :=
    List.splitOnP_append_cons ascii [] (beq_self_eq_true '.')
  obtain ⟨front, last, hlabels, hfront, hlast⟩ := List.map_eq_append_iff.1 (h.parts.symm.trans hsplit)
  obtain ⟨l, rfl, hl⟩ := List.map_eq_singleton_iff.1 hlast
  subst hlabels
  obtain ⟨text, htext⟩ := h.read l (List.mem_append_right _ List.mem_cons_self)
  exact ⟨front, hfront.symm, bidiAllowed_of_concat (meaning_of_ascii_eq_nil htext hl) h.allowed,
    fun l hl => h.read l (List.mem_append_left _ hl)⟩

/-- A name stays a name when dots at its end are taken away. -/
theorem Divides.of_dots {dots : List Char} (hdots : ∀ d ∈ dots, (d == '.') = true)
    (h : Divides (ascii ++ dots) labels) : ∃ front, Divides ascii front := by
  induction dots using List.reverseRecOn generalizing labels with
  | nil => exact ⟨labels, List.append_nil ascii ▸ h⟩
  | append_singleton dots d ih =>
      obtain rfl : d = '.' := beq_iff_eq.1 (hdots d (List.mem_append_right _ List.mem_cons_self))
      rw [← List.append_assoc] at h
      obtain ⟨front, hfront⟩ := h.of_dot
      exact ih (fun d hd => hdots d (List.mem_append_left _ hd)) hfront

/-- A name in ASCII without capitals is read as itself if the decoder reads its labels. -/
theorem Divides.toAscii?_of_readable (h : Divides ascii labels)
    (hascii : ∀ c ∈ ascii, Text.isAscii c = true) (lower : ∀ c ∈ ascii, c.toLower = c)
    (readable : Readable ascii) : toAscii? ascii = some ascii := by
  have hlabels : (labels.map Label.ascii).mapM label? = some labels := by
    refine mapM_map_eq_some (fun l hl => ?_)
    obtain ⟨text, hlabel⟩ := h.read l hl
    refine label?_ascii_of_readable hlabel (readable l.ascii ?_)
    rw [h.parts]
    exact List.mem_map_of_mem hl
  refine toAscii?_eq_some_iff.2 ⟨ascii, labels, mapChars?_of_lower hascii lower, ?_, h.allowed, ?_⟩
  · rw [Text.compose_of_ascii (List.all_eq_true.2 hascii), h.parts, hlabels]
  · rw [← h.parts]
    exact (List.intercalate_splitOn '.').symm

end Divides

/-- A name in ASCII and without capitals stands for nothing but itself. -/
theorem eq_of_toAscii?_of_lower {name ascii : List Char} (hascii : ∀ c ∈ name, Text.isAscii c = true)
    (lower : ∀ c ∈ name, c.toLower = c) (h : toAscii? name = some ascii) : ascii = name := by
  obtain ⟨mapped, labels, hmapped, hlabels, -, rfl⟩ := toAscii?_eq_some_iff.1 h
  obtain rfl := Option.some.inj ((mapChars?_of_lower hascii lower).symm.trans hmapped)
  rw [Text.compose_of_ascii (List.all_eq_true.2 hascii)] at hlabels
  have hsame : labels.map Label.ascii = name.splitOn '.' := by
    refine map_eq_of_mapM hlabels (fun part hpart l hl => ?_)
    rcases label?_eq_some hl with ⟨heq, -⟩ | ⟨-, hacceptable⟩
    · exact heq
    · -- Only a label outside ASCII is encoded.
      have hall : part.all Text.isAscii = true :=
        List.all_eq_true.2 (fun c hc => hascii c (mem_of_mem_splitOn hpart hc))
      simp [acceptable, validLabel, hall] at hacceptable
  rw [hsame]
  exact List.intercalate_splitOn '.'

/-- A name with a label that is too long for the decoder is not read. -/
theorem toAscii?_eq_none_of_not_readable {ascii : List Char}
    (hascii : ∀ c ∈ ascii, Text.isAscii c = true) (lower : ∀ c ∈ ascii, c.toLower = c)
    (h : ¬Readable ascii) : toAscii? ascii = none := by
  obtain ⟨part, hpart, hlong⟩ : ∃ part ∈ ascii.splitOn '.', ¬ReadablePart part := by
    simpa [Readable] using h
  rw [Option.eq_none_iff_forall_ne_some]
  intro other hother
  obtain ⟨mapped, labels, hmapped, hlabels, -, -⟩ := toAscii?_eq_some_iff.1 hother
  obtain rfl := Option.some.inj ((mapChars?_of_lower hascii lower).symm.trans hmapped)
  rw [Text.compose_of_ascii (List.all_eq_true.2 hascii)] at hlabels
  have hsome := isSome_of_mem_of_mapM hlabels hpart
  rw [label?_eq_none_of_not_readable hlong] at hsome
  cases hsome

end Domain
end RealmTokens
