/-
Which characters lowercase leaves where they are.

A character in front of the letters, such as a delimiter, stands in the lowercase of a text exactly
where it stands in the text: it has no other image, and it is nobody else's image.
-/
import RealmTokens.Proofs.Text.Characters
import RealmTokens.Text.Lowercase

namespace RealmTokens
namespace Text

/-- A lowercase letter is the only image that an ASCII character has beside itself. -/
theorem toLower_eq_self_or {c : Char} (h : isAscii c = true) :
    c.toLower = c ∨ 0x41 ≤ c.toLower.toNat := by
  have hc : c.toNat < 0x80 := by simpa [isAscii] using h
  exact forall_char_lt (p := fun c => c.toLower = c ∨ 0x41 ≤ c.toLower.toNat) (by decide) hc

theorem toLower_eq_self {c : Char} (h : ¬c.toNat < 0x80) : c.toLower = c := by
  refine dif_neg (fun hcapital => h ?_)
  have hle : c.toNat ≤ 'Z'.toNat := UInt32.le_iff_toNat_le.1 hcapital.2
  exact Nat.lt_of_le_of_lt hle (by decide)

theorem toLower_toLower (c : Char) : c.toLower.toLower = c.toLower := by
  by_cases h : c.toNat < 0x80
  · exact forall_char_lt (p := fun c => c.toLower.toLower = c.toLower) (by decide) h
  · rw [toLower_eq_self h, toLower_eq_self h]

theorem asciiLowercase_asciiLowercase (cs : List Char) :
    asciiLowercase (asciiLowercase cs) = asciiLowercase cs := by
  rw [asciiLowercase, asciiLowercase, List.map_map]
  exact List.map_congr_left (fun c _ => toLower_toLower c)

theorem asciiLowercase_append (xs ys : List Char) :
    asciiLowercase (xs ++ ys) = asciiLowercase xs ++ asciiLowercase ys :=
  List.map_append

theorem le_of_mem_lowercaseMap :
    (lowercaseMap.rows.all fun row => row.2.all fun m => 0x41 ≤ m) = true := by
  decide +kernel

/-- No image outside ASCII lies in front of the letters, save the one that stands for no character. -/
theorem le_toNat_of_mem_get? {c d : Char} {image : List Char}
    (h : lowercaseMap.get? c = some image) (hd : d ∈ image) : 0x41 ≤ d.toNat ∨ d.toNat = 0 := by
  obtain ⟨row, hrow, rfl⟩ := Option.map_eq_some_iff.1 h
  obtain ⟨m, hm, rfl⟩ := List.mem_map.1 hd
  have hall := List.all_eq_true.1 le_of_mem_lowercaseMap row (List.mem_of_find?_eq_some hrow)
  have hle : 0x41 ≤ m := by simpa using List.all_eq_true.1 hall m hm
  rcases toNat_ofNat_eq_or (m + (c.toNat - row.1.first)) with e | e
  · left
    rw [e]
    omega
  · exact Or.inr e

section Fixed

variable {d : Char} (pos : 0 < d.toNat) (lt : d.toNat < 0x41)

include pos lt

theorem mem_lowercaseChar_iff (c : Char) : d ∈ lowercaseChar c ↔ c = d := by
  unfold lowercaseChar
  by_cases ha : isAscii c = true
  · rw [if_pos ha, List.mem_singleton]
    rcases toLower_eq_self_or ha with e | hle
    · rw [e, eq_comm]
    · constructor
      · intro e
        rw [← e] at hle
        omega
      · rintro rfl
        exact (forall_char_lt (p := fun c => c.toLower = c) (by decide) lt).symm
  · rw [if_neg ha]
    have hne : c ≠ d := by
      intro e
      apply ha
      simp only [isAscii, e, decide_eq_true_eq]
      omega
    cases hg : lowercaseMap.get? c with
    | none => rw [Option.getD_none, List.mem_singleton, eq_comm]
    | some image =>
        rw [Option.getD_some]
        refine iff_of_false (fun hd => ?_) hne
        rcases le_toNat_of_mem_get? hg hd with h | h
        · omega
        · omega

theorem mem_lowercaseAfter_iff (before cs : List Char) : d ∈ lowercaseAfter before cs ↔ d ∈ cs := by
  induction cs generalizing before with
  | nil => simp [lowercaseAfter]
  | cons c rest ih =>
      rw [lowercaseAfter, List.mem_append, ih, List.mem_cons]
      refine or_congr_left ?_
      by_cases hc : c = 'Σ'
      · rw [if_pos hc, List.mem_singleton, hc]
        -- Both forms of the small letter, and the capital, lie behind the letters of ASCII.
        have hs : ∀ s : Char, 0x41 ≤ s.toNat → d ≠ s := by
          intro s hs e
          rw [e] at lt
          omega
        refine iff_of_false ?_ (hs 'Σ' (by decide))
        unfold lowercaseSigma
        split
        · exact hs 'ς' (by decide)
        · exact hs 'σ' (by decide)
      · rw [if_neg hc, mem_lowercaseChar_iff pos lt, eq_comm]

/-- Lowercase neither adds nor drops a character in front of the letters. -/
theorem mem_lowercase_iff (s : String) : d ∈ (lowercase s).toList ↔ d ∈ s.toList := by
  rw [lowercase, String.toList_ofList, mem_lowercaseAfter_iff pos lt]

end Fixed

end Text
end RealmTokens
