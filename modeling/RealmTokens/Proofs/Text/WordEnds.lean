/-
Where lowercase looks at the surroundings of a character.

A capital sigma is the only character with two images, and which of them it gets is decided by the next
characters before and behind it that take part in case.  The case of ASCII letters does not matter for
that, and neither does a slash.  Main statements: what the image of every character of a text is, and
that the lowercase of a text is that of any text with the same letters.
-/
import RealmTokens.Proofs.Domain.ComparedForms

namespace RealmTokens
namespace Text

/-! ## Ends of words -/

/-- A cased character comes first, behind characters that take no part in case. -/
def CasedFirst (cs : List Char) : Prop :=
  ∃ ignored c rest, cs = ignored ++ c :: rest ∧ (∀ d ∈ ignored, isCaseIgnorable d = true) ∧
    isCaseIgnorable c = false ∧ isCased c = true

theorem casedAhead_cons (c : Char) (cs : List Char) :
    casedAhead (c :: cs) = if isCaseIgnorable c = true then casedAhead cs else isCased c := by
  by_cases h : isCaseIgnorable c = true
  · rw [if_pos h, casedAhead, List.dropWhile_cons, if_pos h]
    rfl
  · rw [if_neg h, casedAhead, List.dropWhile_cons, if_neg h]

theorem casedAhead_iff {cs : List Char} : casedAhead cs = true ↔ CasedFirst cs := by
  constructor
  · intro h
    unfold casedAhead at h
    split at h
    case h_1 => cases h
    case h_2 c rest hdrop =>
      have hc : isCaseIgnorable c = false := by
        have hhead := head?_dropWhile isCaseIgnorable cs
        rw [hdrop] at hhead
        exact hhead
      refine ⟨cs.takeWhile isCaseIgnorable, c, rest, ?_, fun d hd => List.mem_takeWhile_imp hd, hc, h⟩
      rw [← hdrop, List.takeWhile_append_dropWhile]
  · rintro ⟨ignored, c, rest, rfl, hignored, hc, hcased⟩
    have hdrop : (ignored ++ c :: rest).dropWhile isCaseIgnorable = c :: rest := by
      rw [List.dropWhile_append_of_pos hignored, List.dropWhile_cons, hc, if_neg Bool.false_ne_true]
    rw [casedAhead, hdrop]
    exact hcased

instance (cs : List Char) : Decidable (CasedFirst cs) :=
  decidable_of_iff _ casedAhead_iff

/-- A word ends between these texts: a cased character stands last in front, and none first behind. -/
def WordEnds (front back : List Char) : Prop :=
  CasedFirst front.reverse ∧ ¬CasedFirst back

instance (front back : List Char) : Decidable (WordEnds front back) :=
  inferInstanceAs (Decidable (_ ∧ _))

/-! ## Images -/

/-- The image of a character between these texts. -/
def imageBetween (front : List Char) (c : Char) (back : List Char) : List Char :=
  if c = 'Σ' then [if WordEnds front back then 'ς' else 'σ'] else lowercaseChar c

theorem lowercaseSigma_eq (front back : List Char) :
    lowercaseSigma front.reverse back = if WordEnds front back then 'ς' else 'σ' := by
  have h : (casedAhead front.reverse && !casedAhead back) = true ↔ WordEnds front back := by
    rw [Bool.and_eq_true, Bool.not_eq_true', ← Bool.not_eq_true, casedAhead_iff, casedAhead_iff]
    rfl
  exact if_congr h rfl rfl

theorem lowercaseAfter_cons (front : List Char) (c : Char) (back : List Char) :
    lowercaseAfter front.reverse (c :: back) =
      imageBetween front c back ++ lowercaseAfter (front ++ [c]).reverse back := by
  rw [lowercaseAfter, lowercaseSigma_eq, List.reverse_concat]
  rfl

theorem exists_images (front cs : List Char) :
    ∃ images : List (List Char), lowercaseAfter front.reverse cs = images.flatten ∧
      images.length = cs.length ∧
      ∀ read c back, cs = read ++ c :: back →
        images[read.length]? = some (imageBetween (front ++ read) c back) := by
  induction cs generalizing front with
  | nil => exact ⟨[], rfl, rfl, fun read c back h => absurd h (by simp)⟩
  | cons c cs ih =>
      obtain ⟨images, hflat, hlength, hplace⟩ := ih (front ++ [c])
      refine ⟨imageBetween front c cs :: images, ?_, congrArg (· + 1) hlength, ?_⟩
      · rw [lowercaseAfter_cons, hflat, List.flatten_cons]
      · intro read d back h
        cases read with
        | nil =>
            obtain ⟨rfl, rfl⟩ := List.cons.inj h
            rw [List.append_nil]
            rfl
        | cons r read =>
            obtain ⟨rfl, hrest⟩ := List.cons.inj h
            have hd := hplace read d back hrest
            rw [List.append_assoc, List.singleton_append] at hd
            exact hd

/-- The lowercase of a text is made of the images of its characters, each in its place. -/
theorem lowercase_eq_flatten (s : String) :
    ∃ images : List (List Char), (lowercase s).toList = images.flatten ∧
      images.length = s.toList.length ∧
      ∀ front c back, s.toList = front ++ c :: back →
        images[front.length]? = some (imageBetween front c back) := by
  rw [lowercase, String.toList_ofList]
  exact exists_images [] s.toList

/-! ## Letters of ASCII -/

/-- The case of a letter of ASCII decides nothing about its neighbours, and its image is the same. -/
theorem same_toLower (c : Char) :
    isCaseIgnorable c.toLower = isCaseIgnorable c ∧ isCased c.toLower = isCased c ∧
      lowercaseChar c.toLower = lowercaseChar c ∧ (c.toLower = 'Σ' ↔ c = 'Σ') := by
  by_cases hascii : c.toNat < 0x80
  · exact forall_char_lt
      (p := fun c => isCaseIgnorable c.toLower = isCaseIgnorable c ∧
        isCased c.toLower = isCased c ∧ lowercaseChar c.toLower = lowercaseChar c ∧
        (c.toLower = 'Σ' ↔ c = 'Σ'))
      (by decide +kernel) hascii
  · rw [toLower_eq_self hascii]
    exact ⟨rfl, rfl, rfl, Iff.rfl⟩

theorem casedAhead_asciiLowercase (cs : List Char) :
    casedAhead (asciiLowercase cs) = casedAhead cs := by
  induction cs with
  | nil => rfl
  | cons c cs ih =>
      obtain ⟨hignorable, hcased, -, -⟩ := same_toLower c
      have hcons : asciiLowercase (c :: cs) = c.toLower :: asciiLowercase cs := rfl
      rw [hcons, casedAhead_cons, casedAhead_cons, hignorable, hcased, ih]

theorem lowercaseAfter_asciiLowercase (before cs : List Char) :
    lowercaseAfter (asciiLowercase before) (asciiLowercase cs) = lowercaseAfter before cs := by
  induction cs generalizing before with
  | nil => rfl
  | cons c cs ih =>
      obtain ⟨-, -, himage, hsigma⟩ := same_toLower c
      have hcons : asciiLowercase (c :: cs) = c.toLower :: asciiLowercase cs := rfl
      have hbefore : c.toLower :: asciiLowercase before = asciiLowercase (c :: before) := rfl
      rw [hcons, lowercaseAfter, lowercaseAfter, hbefore, ih, lowercaseSigma, lowercaseSigma,
        casedAhead_asciiLowercase, casedAhead_asciiLowercase, himage]
      simp only [hsigma]

/-- Texts that differ in the case of ASCII letters at most. -/
def SameLetters (s t : String) : Prop := asciiLowercase s.toList = asciiLowercase t.toList

instance (s t : String) : Decidable (SameLetters s t) :=
  inferInstanceAs (Decidable (_ = _))

namespace SameLetters

variable {s t : String}

theorem lowercase_eq (h : SameLetters s t) : lowercase s = lowercase t := by
  have hs := lowercaseAfter_asciiLowercase [] s.toList
  have ht := lowercaseAfter_asciiLowercase [] t.toList
  rw [lowercase, lowercase, ← hs, ← ht, h]

theorem blank_eq (h : SameLetters s t) : blank s = blank t := by
  have hall (cs : List Char) : (asciiLowercase cs).all isBlank = cs.all isBlank := by
    rw [asciiLowercase, List.all_map]
    congr 1
    funext c
    exact (HostName.spec_toLower c).1
  rw [blank, blank, ← hall, h, hall]

end SameLetters

/-! ## A slash at the end -/

theorem casedAhead_append_slash (cs : List Char) : casedAhead (cs ++ ['/']) = casedAhead cs := by
  induction cs with
  | nil => rfl
  | cons c cs ih => rw [List.cons_append, casedAhead_cons, casedAhead_cons, ih]

theorem lowercaseAfter_append_slash (before cs : List Char) :
    lowercaseAfter before (cs ++ ['/']) = lowercaseAfter before cs ++ ['/'] := by
  induction cs generalizing before with
  | nil => rfl
  | cons c cs ih =>
      rw [List.cons_append, lowercaseAfter, lowercaseAfter, ih, lowercaseSigma, lowercaseSigma,
        casedAhead_append_slash, List.append_assoc]

theorem lowercase_append_slash (s : String) : lowercase (s ++ "/") = lowercase s ++ "/" := by
  have hs : (s ++ "/").toList = s.toList ++ ['/'] := String.toList_append
  rw [lowercase, hs, lowercaseAfter_append_slash, String.ofList_append]
  rfl

theorem ne_nil_of_mem_lowercaseMap :
    (lowercaseMap.rows.all fun row => !row.2.isEmpty) = true := by
  decide +kernel

theorem lowercaseChar_ne_nil (c : Char) : lowercaseChar c ≠ [] := by
  unfold lowercaseChar
  split
  case isTrue => exact List.cons_ne_nil _ _
  case isFalse =>
    cases hg : lowercaseMap.get? c with
    | none => exact List.cons_ne_nil _ _
    | some image =>
        obtain ⟨row, hrow, rfl⟩ := Option.map_eq_some_iff.1 hg
        have hne := List.all_eq_true.1 ne_nil_of_mem_lowercaseMap row (List.mem_of_find?_eq_some hrow)
        intro hnil
        rw [Option.getD_some, CodeMap.imageAt, List.map_eq_nil_iff] at hnil
        rw [hnil] at hne
        cases hne

theorem imageBetween_ne_nil (front : List Char) (c : Char) (back : List Char) :
    imageBetween front c back ≠ [] := by
  unfold imageBetween
  split
  case isTrue => exact List.cons_ne_nil _ _
  case isFalse => exact lowercaseChar_ne_nil c

/-- The lowercase of a text ends in the image of its last character. -/
theorem getLast?_lowercase {s : String} {front : List Char} {c : Char}
    (h : s.toList = front ++ [c]) :
    (lowercase s).toList.getLast? = (imageBetween front c []).getLast? := by
  obtain ⟨images, hflat, hlength, hplace⟩ := lowercase_eq_flatten s
  have hlast : images.getLast? = some (imageBetween front c []) := by
    rw [List.getLast?_eq_getElem?, hlength, h, List.length_append, List.length_singleton,
      Nat.add_sub_cancel]
    exact hplace front c [] h
  obtain ⟨images', rfl⟩ := List.getLast?_eq_some_iff.1 hlast
  rw [hflat, List.flatten_append, List.flatten_singleton,
    List.getLast?_append_of_ne_nil _ (imageBetween_ne_nil front c [])]

/-- A text that does not end in a slash does not do so in lowercase. -/
theorem getLast?_lowercase_ne_slash {s : String} (h : s.toList.getLast? ≠ some '/') :
    (lowercase s).toList.getLast? ≠ some '/' := by
  rcases List.eq_nil_or_concat s.toList with hnil | ⟨front, c, hs⟩
  · rw [lowercase, hnil]
    exact (Option.some_ne_none '/').symm
  · rw [List.concat_eq_append] at hs
    rw [getLast?_lowercase hs]
    intro hslash
    have hin : '/' ∈ lowercaseAfter front.reverse [c] := by
      rw [lowercaseAfter_cons]
      exact List.mem_append_left _ (List.mem_of_getLast? hslash)
    rw [mem_lowercaseAfter_iff (by decide) (by decide), List.mem_singleton] at hin
    exact h (by rw [hs, List.getLast?_concat, hin])

end Text
end RealmTokens
