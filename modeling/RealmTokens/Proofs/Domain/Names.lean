/-
Domain names that are in ASCII already.

A label that came into a name in ASCII is read again as the same label: it was in ASCII before, or it was
encoded and decodes to what it stood for.  The decoder reads no more than two thousand characters, and
the encoder may write more.  Main statement: a name in ASCII whose labels the decoder reads is read as
itself.
-/
import RealmTokens.Domain.Ascii
import RealmTokens.Proofs.Domain.Punycode
import RealmTokens.Proofs.Lists

namespace RealmTokens
namespace Domain

/-! ## Labels -/

theorem Punycode.IsDigit.not_isForbidden {c : Char} (h : Punycode.IsDigit c) :
    isForbidden c = false := by
  obtain ⟨n, hn, rfl⟩ := h
  have hall : ∀ n < 36, isForbidden (Punycode.digit n) = false := by decide +kernel
  exact hall n hn

theorem Punycode.IsDigit.ne_dot {c : Char} (h : Punycode.IsDigit c) : c ≠ '.' := by
  obtain ⟨n, hn, rfl⟩ := h
  have hall : ∀ n < 36, Punycode.digit n ≠ '.' := by decide +kernel
  exact hall n hn

theorem spec_of_mem_encodedMark {c : Char} (h : c ∈ encodedMark) :
    Text.isAscii c = true ∧ isForbidden c = false ∧ c ≠ '.' := by
  simp only [encodedMark, List.mem_cons, List.not_mem_nil, or_false] at h
  rcases h with rfl | rfl | rfl | rfl <;> decide

theorem length_of_acceptable {label : List Char} (h : acceptable label = true) :
    label.length ≤ 1000 := by
  unfold acceptable maxEncoded at h
  simp only [Bool.and_eq_true, decide_eq_true_eq] at h
  exact h.1

theorem not_isForbidden_of_acceptable {label : List Char} (h : acceptable label = true) {c : Char}
    (hc : c ∈ label) : isForbidden c = false := by
  simp only [acceptable, validLabel, Bool.and_eq_true, List.all_eq_true] at h
  obtain ⟨-, ⟨⟨⟨-, hall⟩, -⟩, -⟩, -⟩ := h
  simpa using (hall c hc).1

theorem encodedLabel?_eq_some {text : List Char} {l : Label} (h : encodedLabel? text = some l) :
    l.ascii = text ∧ (∀ c ∈ text, Text.isAscii c = true) ∧
      Punycode.decode? (text.drop encodedMark.length) = some l.meaning ∧
      acceptable l.meaning = true := by
  simp only [encodedLabel?] at h
  split at h
  case isTrue => cases h
  case isFalse hguard =>
    simp only [Bool.or_eq_true, decide_eq_true_eq, Bool.not_eq_true', not_or,
      Bool.not_eq_false] at hguard
    cases hdecode : Punycode.decode? (text.drop encodedMark.length) with
    | none => simp [hdecode] at h
    | some meaning =>
        simp only [hdecode] at h
        split at h
        case isTrue hacceptable =>
          obtain rfl := Option.some.inj h
          exact ⟨rfl, List.all_eq_true.1 hguard.2, hdecode ▸ rfl, hacceptable⟩
        case isFalse => cases h

/-- A label keeps its text where that is in ASCII, and is encoded otherwise. -/
theorem label?_eq_some {text : List Char} {l : Label} (h : label? text = some l) :
    (l.ascii = text ∧ ∀ c ∈ text, Text.isAscii c = true ∧ isForbidden c = false) ∨
      (l = ⟨encodedMark ++ Punycode.encode text, text⟩ ∧ acceptable text = true) := by
  unfold label? at h
  split at h
  case isTrue hmark =>
    left
    obtain ⟨hl, hascii, hdecode, hacceptable⟩ := encodedLabel?_eq_some h
    refine ⟨hl, fun c hc => ⟨hascii c hc, ?_⟩⟩
    obtain ⟨rest, rfl⟩ := List.isPrefixOf_iff_prefix.1 hmark
    rw [List.drop_left] at hdecode
    rcases List.mem_append.1 hc with hc | hc
    · exact (spec_of_mem_encodedMark hc).2.1
    · rcases Punycode.mem_of_decode? hdecode hc with hin | rfl | hdigit
      · exact not_isForbidden_of_acceptable hacceptable hin
      · decide
      · exact hdigit.not_isForbidden
  case isFalse =>
    split at h
    case isTrue hascii =>
      left
      split at h
      case isTrue => cases h
      case isFalse hforbidden =>
        obtain rfl := Option.some.inj h
        refine ⟨rfl, fun c hc => ⟨List.all_eq_true.1 hascii c hc, ?_⟩⟩
        exact Bool.eq_false_iff.2 (fun hc' => hforbidden (List.any_eq_true.2 ⟨c, hc, hc'⟩))
    case isFalse =>
      right
      split at h
      case isTrue hacceptable => exact ⟨(Option.some.inj h).symm, hacceptable⟩
      case isFalse => cases h

/-- The characters of a label in ASCII. A dot comes from nowhere else than the text of the label. -/
theorem label?_spec {text : List Char} {l : Label} (h : label? text = some l) :
    ∀ c ∈ l.ascii, Text.isAscii c = true ∧ isForbidden c = false ∧ (c = '.' → c ∈ text) := by
  rcases label?_eq_some h with ⟨hl, hall⟩ | ⟨rfl, hacceptable⟩
  · rw [hl]
    exact fun c hc => ⟨(hall c hc).1, (hall c hc).2, fun _ => hc⟩
  · intro c hc
    rcases List.mem_append.1 hc with hc | hc
    · obtain ⟨hascii, hforbidden, hdot⟩ := spec_of_mem_encodedMark hc
      exact ⟨hascii, hforbidden, fun h => absurd h hdot⟩
    · rcases Punycode.mem_encode (length_of_acceptable hacceptable) hc with
        ⟨hin, hascii⟩ | rfl | hdigit
      · exact ⟨hascii, not_isForbidden_of_acceptable hacceptable hin, fun _ => hin⟩
      · exact ⟨by decide, by decide, fun h => absurd h (by decide)⟩
      · exact ⟨hdigit.isAscii, hdigit.not_isForbidden, fun h => absurd h hdigit.ne_dot⟩

/-- A label in ASCII is read as the same label. -/
theorem label?_ascii {text : List Char} {l : Label} (h : label? text = some l)
    (short : l.ascii.length ≤ encodedMark.length + maxDecoded) : label? l.ascii = some l := by
  rcases label?_eq_some h with ⟨hl, -⟩ | ⟨rfl, hacceptable⟩
  · rw [hl]
    exact h
  · have hall := fun c hc => (label?_spec h c hc).1
    have hlength : ¬maxDecoded < (Punycode.encode text).length := by
      rw [List.length_append] at short
      omega
    have hmark : encodedMark.isPrefixOf (encodedMark ++ Punycode.encode text) = true :=
      List.isPrefixOf_iff_prefix.2 (List.prefix_append _ _)
    have hdecode := Punycode.decode?_encode (length_of_acceptable hacceptable)
    simp only [label?, hmark, if_true, encodedLabel?, List.drop_left, hlength, decide_false,
      List.all_eq_true.2 hall, hdecode, hacceptable]
    rfl

/-! ## Names -/

theorem toAscii?_eq_some_iff {name ascii : List Char} :
    toAscii? name = some ascii ↔
      ∃ mapped labels, mapChars? name = some mapped ∧
        ((Text.compose mapped).splitOn '.').mapM label? = some labels ∧
        bidiAllowed labels = true ∧ ascii = ['.'].intercalate (labels.map Label.ascii) := by
  unfold toAscii?
  constructor
  · intro h
    obtain ⟨mapped, hmapped, h⟩ := Option.bind_eq_some_iff.1 h
    obtain ⟨labels, hlabels, h⟩ := Option.bind_eq_some_iff.1 h
    split at h
    case isTrue hbidi => exact ⟨mapped, labels, hmapped, hlabels, hbidi, (Option.some.inj h).symm⟩
    case isFalse => cases h
  · rintro ⟨mapped, labels, hmapped, hlabels, hbidi, rfl⟩
    show (mapChars? name).bind _ = _
    rw [hmapped, Option.bind_some]
    show Option.bind _ _ = _
    rw [hlabels, Option.bind_some, if_pos hbidi]

theorem mapChars?_of_lower {name : List Char} (hascii : ∀ c ∈ name, Text.isAscii c = true)
    (lower : ∀ c ∈ name, c.toLower = c) : mapChars? name = some name := by
  have hmap := mapM_eq_some_of_forall (f := mapChar?) (g := fun c => [c]) name (fun c hc => by
    rw [mapChar?, if_pos (hascii c hc), lower c hc])
  rw [mapChars?, hmap]
  exact congrArg some (List.flatMap_singleton' name)

/-- The labels of a name in ASCII are what stands between its dots, and hold nothing but plain
characters. -/
theorem labels_of_toAscii? {name ascii : List Char} (h : toAscii? name = some ascii) :
    ∃ labels : List Label, ascii.splitOn '.' = labels.map Label.ascii ∧
      ascii = ['.'].intercalate (labels.map Label.ascii) ∧ bidiAllowed labels = true ∧
      (∀ l ∈ labels, ∃ text, label? text = some l) ∧
      ∀ c ∈ ascii, Text.isAscii c = true ∧ isForbidden c = false := by
  obtain ⟨mapped, labels, -, hlabels, hbidi, rfl⟩ := toAscii?_eq_some_iff.1 h
  have hread : ∀ l ∈ labels, ∃ text, '.' ∉ text ∧ label? text = some l := by
    intro l hl
    obtain ⟨text, htext, hlabel⟩ := exists_of_mem_of_mapM hlabels hl
    exact ⟨text, not_mem_of_mem_splitOn htext, hlabel⟩
  have hne := ne_nil_of_mapM hlabels (List.splitOn_ne_nil '.' _)
  have hdot : ∀ part ∈ labels.map Label.ascii, '.' ∉ part := by
    intro part hpart hin
    obtain ⟨l, hl, rfl⟩ := List.mem_map.1 hpart
    obtain ⟨text, hnot, hlabel⟩ := hread l hl
    exact hnot ((label?_spec hlabel '.' hin).2.2 rfl)
  refine ⟨labels, List.splitOn_intercalate '.' hdot (by simpa using hne), rfl, hbidi,
    fun l hl => (hread l hl).imp (fun _ h => h.2), fun c hc => ?_⟩
  rcases mem_intercalate hc with rfl | ⟨part, hpart, hin⟩
  · exact ⟨by decide, by decide⟩
  · obtain ⟨l, hl, rfl⟩ := List.mem_map.1 hpart
    obtain ⟨text, -, hlabel⟩ := hread l hl
    obtain ⟨hascii, hforbidden, -⟩ := label?_spec hlabel c hin
    exact ⟨hascii, hforbidden⟩

/-- A name without capitals and without a label that is too long for the decoder. -/
structure Legible (name : List Char) : Prop where
  lower : ∀ c ∈ name, c.toLower = c
  short : ∀ part ∈ name.splitOn '.', part.length ≤ encodedMark.length + maxDecoded

/-- A legible name in ASCII is read as itself. -/
theorem toAscii?_of_toAscii? {name ascii : List Char} (h : toAscii? name = some ascii)
    (legible : Legible ascii) : toAscii? ascii = some ascii := by
  obtain ⟨labels, hparts, hjoin, hbidi, hread, hplain⟩ := labels_of_toAscii? h
  have hascii : ∀ c ∈ ascii, Text.isAscii c = true := fun c hc => (hplain c hc).1
  have hlabels : (labels.map Label.ascii).mapM label? = some labels := by
    refine mapM_map_eq_some (fun l hl => ?_)
    obtain ⟨text, hlabel⟩ := hread l hl
    refine label?_ascii hlabel (legible.short l.ascii ?_)
    rw [hparts]
    exact List.mem_map_of_mem hl
  refine toAscii?_eq_some_iff.2 ⟨ascii, labels, mapChars?_of_lower hascii legible.lower, ?_, hbidi, hjoin⟩
  rw [Text.compose_of_ascii (List.all_eq_true.2 hascii), hparts, hlabels]

/-- Only characters outside ASCII are written from right to left. -/
theorem bidiAllowed_of_ascii {labels : List Label}
    (h : ∀ l ∈ labels, ∀ c ∈ l.meaning, Text.isAscii c = true) : bidiAllowed labels = true := by
  have hnone : ∀ meaning ∈ labels.map Label.meaning, ¬meaning.any isRightToLeft = true := by
    intro meaning hmeaning hany
    obtain ⟨l, hl, rfl⟩ := List.mem_map.1 hmeaning
    obtain ⟨c, hc, hdirection⟩ := List.any_eq_true.1 hany
    simp [isRightToLeft, h l hl c hc] at hdirection
  have hmixed : ((labels.map Label.meaning).filter (fun m => !m.isEmpty)).any
      (fun m => m.any isRightToLeft) = false :=
    List.any_eq_false.2 (fun meaning hmeaning => hnone meaning (List.mem_filter.1 hmeaning).1)
  simp only [bidiAllowed, hmixed, Bool.not_false, Bool.true_or]

/-- Whether a character stays as it is in a name: it is in ASCII, allowed, and no capital. -/
def IsPlain (c : Char) : Prop :=
  Text.isAscii c = true ∧ isForbidden c = false ∧ c.toLower = c

instance (c : Char) : Decidable (IsPlain c) :=
  inferInstanceAs (Decidable (Text.isAscii c = true ∧ isForbidden c = false ∧ c.toLower = c))

/-- Plain text without an encoded label is a name as it stands. -/
theorem toAscii?_of_plain {name : List Char} (plain : ∀ c ∈ name, IsPlain c)
    (unmarked : ∀ part ∈ name.splitOn '.', encodedMark.isPrefixOf part = false) :
    toAscii? name = some name := by
  have hascii : ∀ c ∈ name, Text.isAscii c = true := fun c hc => (plain c hc).1
  have hjoin : ['.'].intercalate (name.splitOn '.') = name := List.intercalate_splitOn '.'
  have hin : ∀ part ∈ name.splitOn '.', ∀ c ∈ part, c ∈ name :=
    fun part hpart c hc => mem_of_mem_splitOn hpart hc
  have hlabels : (name.splitOn '.').mapM label? =
      some ((name.splitOn '.').map (fun part => (⟨part, part⟩ : Label))) := by
    refine mapM_eq_some_of_forall _ (fun part hpart => ?_)
    have hall : part.all Text.isAscii = true :=
      List.all_eq_true.2 (fun c hc => hascii c (hin part hpart c hc))
    have hnone : part.any isForbidden = false :=
      List.any_eq_false.2 (fun c hc => by simp [(plain c (hin part hpart c hc)).2.1])
    simp [label?, unmarked part hpart, hall, hnone]
  have hbidi : bidiAllowed ((name.splitOn '.').map (fun part => (⟨part, part⟩ : Label))) = true := by
    refine bidiAllowed_of_ascii (fun l hl c hc => ?_)
    obtain ⟨part, hpart, rfl⟩ := List.mem_map.1 hl
    exact hascii c (hin part hpart c hc)
  refine toAscii?_eq_some_iff.2 ⟨name, _, mapChars?_of_lower hascii (fun c hc => (plain c hc).2.2),
    ?_, hbidi, ?_⟩
  · rw [Text.compose_of_ascii (List.all_eq_true.2 hascii), hlabels]
  · rw [List.map_map]
    exact (congrArg ['.'].intercalate (List.map_id _)).trans hjoin |>.symm

end Domain
end RealmTokens
