/-
Compared forms of host names.

White space around a name is taken away before the dots at its end are, so a name with white space in
front of these dots keeps it: the form of `a .` is `a` with a space behind it, and the form of that is
`a`.  Main statement: a compared form is its own compared form exactly when it does not end in white
space.
-/
import RealmTokens.Domain.HostName
import RealmTokens.Proofs.Text.Lowercase
import Mathlib.Data.List.DropRight

namespace RealmTokens

namespace Text

/-! ## Ends of texts -/

section Ends

variable {p : Char → Bool} {cs : List Char}

theorem head?_dropWhile (p : Char → Bool) (cs : List Char) :
    (cs.dropWhile p).head?.any p = false := by
  have hhead := List.head?_dropWhile_not p cs
  cases h : (cs.dropWhile p).head? with
  | none => rfl
  | some c =>
      rw [h] at hhead
      exact hhead

theorem getLast?_dropEndWhile (p : Char → Bool) (cs : List Char) :
    (dropEndWhile p cs).getLast?.any p = false := by
  rw [dropEndWhile, List.getLast?_reverse]
  exact head?_dropWhile p cs.reverse

theorem dropWhile_eq_self (h : cs.head?.any p = false) : cs.dropWhile p = cs := by
  cases cs with
  | nil => rfl
  | cons c cs =>
      have hc : p c = false := h
      rw [List.dropWhile_cons, hc, if_neg Bool.false_ne_true]

theorem dropEndWhile_eq_self (h : cs.getLast?.any p = false) : dropEndWhile p cs = cs := by
  rw [← List.head?_reverse] at h
  rw [dropEndWhile, dropWhile_eq_self h, List.reverse_reverse]

theorem dropEndWhile_prefix_self (p : Char → Bool) (cs : List Char) : dropEndWhile p cs <+: cs :=
  List.rdropWhile_prefix p cs

theorem exists_dropEndWhile (p : Char → Bool) (cs : List Char) :
    ∃ tail, cs = dropEndWhile p cs ++ tail ∧ ∀ t ∈ tail, p t = true :=
  ⟨cs.rtakeWhile p, List.rdropWhile_append_rtakeWhile.symm, fun _ => List.mem_rtakeWhile_imp⟩

theorem dropEndWhile_append {tail : List Char} (h : ∀ t ∈ tail, p t = true) :
    dropEndWhile p (cs ++ tail) = dropEndWhile p cs := by
  rw [dropEndWhile, List.reverse_append, List.dropWhile_append_of_pos, dropEndWhile]
  exact fun t ht => h t (List.mem_reverse.1 ht)

theorem trim_sublist (cs : List Char) : List.Sublist (trim cs) cs :=
  (dropEndWhile_prefix_self _ _).sublist.trans (List.dropWhile_suffix _).sublist

/-- Trimming leaves nothing exactly of a blank text. -/
theorem trim_eq_nil_iff (s : String) : trim s.toList = [] ↔ blank s = true := by
  have hfront : trim s.toList = [] ↔ s.toList.dropWhile isBlank = [] := by
    constructor
    · intro h
      have hall := List.rdropWhile_eq_nil_iff.1 h
      have hhead := head?_dropWhile isBlank s.toList
      cases hrest : s.toList.dropWhile isBlank with
      | nil => rfl
      | cons c cs =>
          rw [hrest] at hall hhead
          cases hhead.symm.trans (hall c List.mem_cons_self)
    · intro h
      rw [trim, h]
      rfl
  rw [hfront, List.dropWhile_eq_nil_iff, blank, List.all_eq_true]

end Ends

end Text

namespace HostName

open Text (isBlank dropEndWhile)

/-! ## Compared forms -/

/-- Lowercase neither makes nor removes white space and dots. -/
theorem spec_toLower (c : Char) :
    isBlank c.toLower = isBlank c ∧ (c.toLower == '.') = (c == '.') := by
  by_cases hascii : c.toNat < 0x80
  · exact Text.forall_char_lt
      (p := fun c => isBlank c.toLower = isBlank c ∧ (c.toLower == '.') = (c == '.'))
      (by decide +kernel) hascii
  · rw [Text.toLower_eq_self hascii]
    exact ⟨rfl, rfl⟩

/-- A name without white space around it, and then without the dots at its end. -/
def bare (name : String) : List Char :=
  dropEndWhile (· == '.') (Text.trim name.toList)

theorem canonical?_eq_some_iff {name host : String} :
    canonical? name = some host ↔
      bare name ≠ [] ∧ host = String.ofList (Text.asciiLowercase (bare name)) := by
  have hform : canonical? name =
      if (bare name).isEmpty then none else some (String.ofList (Text.asciiLowercase (bare name))) :=
    rfl
  rw [hform]
  split
  case isTrue h => exact iff_of_false (fun heq => nomatch heq) (fun heq => heq.1 (List.isEmpty_iff.1 h))
  case isFalse h =>
    rw [Option.some.injEq, eq_comm, and_iff_right (fun heq => h (List.isEmpty_iff.2 heq))]

def endsInBlank (host : String) : Bool :=
  host.toList.getLast?.any isBlank

/-- What every compared form is: some text without capitals, with no white space at its front and no
dot at its end. -/
structure Compared (host : String) : Prop where
  ne_nil : host.toList ≠ []
  front : host.toList.head?.any isBlank = false
  back : host.toList.getLast?.any (· == '.') = false
  lower : Text.asciiLowercase host.toList = host.toList

theorem bare_prefix_dropWhile (name : String) : bare name <+: name.toList.dropWhile isBlank :=
  (Text.dropEndWhile_prefix_self _ _).trans (Text.dropEndWhile_prefix_self _ _)

theorem any_map_toLower {p : Char → Bool} (hp : ∀ c : Char, p c.toLower = p c) (c : Option Char) :
    (c.map Char.toLower).any p = c.any p := by
  cases c with
  | none => rfl
  | some c => exact hp c

theorem compared_of_canonical? {name host : String} (h : canonical? name = some host) :
    Compared host := by
  obtain ⟨hne, rfl⟩ := canonical?_eq_some_iff.1 h
  refine ⟨?_, ?_, ?_, ?_⟩
  all_goals rw [String.toList_ofList]
  · exact fun hnil => hne (List.map_eq_nil_iff.1 hnil)
  · have hhead : (bare name).head? = (name.toList.dropWhile isBlank).head? := by
      obtain ⟨rest, hrest⟩ := bare_prefix_dropWhile name
      rw [← hrest, List.head?_append_of_ne_nil _ hne]
    rw [Text.asciiLowercase, List.head?_map, any_map_toLower (fun c => (spec_toLower c).1), hhead]
    exact Text.head?_dropWhile _ _
  · rw [Text.asciiLowercase, List.getLast?_map, any_map_toLower (fun c => (spec_toLower c).2)]
    exact Text.getLast?_dropEndWhile _ _
  · exact Text.asciiLowercase_asciiLowercase _

/-- The compared form of a name has no capitals. -/
theorem toLower_of_canonical? {name host : String} (h : canonical? name = some host)
    {c : Char} (hc : c ∈ host.toList) : c.toLower = c := by
  rw [← (compared_of_canonical? h).lower] at hc
  obtain ⟨d, -, rfl⟩ := List.mem_map.1 hc
  exact Text.toLower_toLower d

/-- White space at the end of a name is not in its compared form, which is then shorter. -/
theorem length_lt_of_endsInBlank {name host : String} (hblank : endsInBlank name = true)
    (h : canonical? name = some host) : host.length < name.length := by
  obtain ⟨-, rfl⟩ := canonical?_eq_some_iff.1 h
  have hbare : (bare name).length ≤ (Text.trim name.toList).length :=
    (Text.dropEndWhile_prefix_self _ _).length_le
  have htrim : (Text.trim name.toList).length < name.toList.length := by
    refine Nat.lt_of_le_of_ne (Text.trim_sublist _).length_le (fun heq => ?_)
    -- A text that trimming leaves as it is does not end in white space.
    have hself := (Text.trim_sublist _).eq_of_length heq
    have hend : (Text.trim name.toList).getLast?.any isBlank = false :=
      Text.getLast?_dropEndWhile _ _
    rw [hself] at hend
    exact Bool.false_ne_true (hend.symm.trans hblank)
  rw [String.length_ofList, Text.asciiLowercase, List.length_map, ← String.length_toList]
  exact Nat.lt_of_le_of_lt hbare htrim

/-- A compared form is its own, unless it ends in white space. -/
theorem Compared.canonical?_self_iff {host : String} (h : Compared host) :
    canonical? host = some host ↔ endsInBlank host = false := by
  constructor
  · intro hself
    rw [← Bool.not_eq_true]
    exact fun hblank => Nat.lt_irrefl _ (length_lt_of_endsInBlank hblank hself)
  · intro hend
    have htrim : Text.trim host.toList = host.toList := by
      rw [Text.trim, Text.dropWhile_eq_self h.front, Text.dropEndWhile_eq_self hend]
    have hbare : bare host = host.toList := by
      rw [bare, htrim, Text.dropEndWhile_eq_self h.back]
    rw [canonical?_eq_some_iff, hbare, h.lower, String.ofList_toList]
    exact ⟨h.ne_nil, rfl⟩

theorem endsInBlank_eq {name host : String} (h : canonical? name = some host) :
    endsInBlank host = (bare name).getLast?.any isBlank := by
  obtain ⟨-, rfl⟩ := canonical?_eq_some_iff.1 h
  rw [endsInBlank, String.toList_ofList, Text.asciiLowercase, List.getLast?_map,
    any_map_toLower (fun c => (spec_toLower c).1)]

/-- The compared form of a name without white space is its own compared form. -/
theorem canonical?_canonical? {name host : String} (plain : ∀ c ∈ name.toList, isBlank c = false)
    (h : canonical? name = some host) : canonical? host = some host := by
  rw [(compared_of_canonical? h).canonical?_self_iff, endsInBlank_eq h, ← Bool.not_eq_true]
  intro hend
  obtain ⟨c, hc, hblank⟩ := (Option.any_eq_true _ _).1 hend
  have hmem : c ∈ name.toList :=
    (List.dropWhile_suffix _).subset ((bare_prefix_dropWhile name).subset (List.mem_of_getLast? hc))
  rw [plain c hmem] at hblank
  cases hblank

/-! ## White space that stays -/

/-- Whether there is white space in front of the dots at the end of a name. -/
def BlankBeforeDots (name : String) : Prop :=
  ∃ front c dots tail, name.toList = front ++ c :: (dots ++ tail) ∧ isBlank c = true ∧ dots ≠ [] ∧
    (∀ d ∈ dots, (d == '.') = true) ∧ ∀ t ∈ tail, isBlank t = true

theorem blankBeforeDots_of_bare {name : String} (h : (bare name).getLast?.any isBlank = true) :
    BlankBeforeDots name := by
  obtain ⟨c, hc, hblank⟩ := (Option.any_eq_true _ _).1 h
  obtain ⟨front, hfront⟩ := List.getLast?_eq_some_iff.1 hc
  obtain ⟨dots, htrim, hdots⟩ := Text.exists_dropEndWhile (· == '.') (Text.trim name.toList)
  obtain ⟨tail, htext, htail⟩ := Text.exists_dropEndWhile isBlank (name.toList.dropWhile isBlank)
  have hbare : Text.trim name.toList = bare name ++ dots := htrim
  refine ⟨name.toList.takeWhile isBlank ++ front, c, dots, tail, ?_, hblank, fun hnil => ?_, hdots,
    htail⟩
  · calc name.toList = name.toList.takeWhile isBlank ++ name.toList.dropWhile isBlank :=
          List.takeWhile_append_dropWhile.symm
      _ = name.toList.takeWhile isBlank ++ (Text.trim name.toList ++ tail) := congrArg _ htext
      _ = _ := by
          rw [hbare, hfront]
          simp only [List.append_assoc, List.cons_append, List.nil_append]
  · -- Without dots the trimmed text itself would end in white space.
    rw [hnil, List.append_nil] at hbare
    rw [← hbare] at h
    exact Bool.false_ne_true ((Text.getLast?_dropEndWhile _ _).symm.trans h)

theorem isBlank_of_dot {d : Char} (h : (d == '.') = true) : isBlank d = false := by
  rw [beq_iff_eq.1 h]
  rfl

theorem bare_of_blankBeforeDots {name : String} (h : BlankBeforeDots name) :
    bare name = [] ∨ (bare name).getLast?.any isBlank = true := by
  obtain ⟨front, c, dots, tail, hname, hblank, hne, hdots, htail⟩ := h
  have hfirst : (dots ++ tail).head?.any isBlank = false := by
    rw [List.head?_append_of_ne_nil _ hne, List.head?_eq_some_head hne]
    exact isBlank_of_dot (hdots _ (List.head_mem hne))
  have hlast (cs : List Char) : (cs ++ dots).getLast?.any isBlank = false := by
    rw [List.getLast?_append_of_ne_nil _ hne, List.getLast?_eq_some_getLast hne]
    exact isBlank_of_dot (hdots _ (List.getLast_mem hne))
  rw [bare, Text.trim, hname, List.dropWhile_append]
  split
  · -- All in front of the dots is white space.
    left
    have hdots' : dropEndWhile (· == '.') ([] ++ dots) = [] := Text.dropEndWhile_append hdots
    rw [List.dropWhile_cons, if_pos hblank, Text.dropWhile_eq_self hfirst,
      Text.dropEndWhile_append htail, ← List.nil_append dots, Text.dropEndWhile_eq_self (hlast [])]
    exact hdots'
  · right
    have hc : (front.dropWhile isBlank ++ [c]).getLast?.any (· == '.') = false := by
      rw [List.getLast?_concat, ← Bool.not_eq_true]
      intro hdot
      rw [isBlank_of_dot hdot] at hblank
      cases hblank
    have htext : front.dropWhile isBlank ++ c :: (dots ++ tail) =
        ((front.dropWhile isBlank ++ [c]) ++ dots) ++ tail := by
      simp only [List.append_assoc, List.cons_append, List.nil_append]
    rw [htext, Text.dropEndWhile_append htail, Text.dropEndWhile_eq_self (hlast _),
      Text.dropEndWhile_append hdots, Text.dropEndWhile_eq_self hc, List.getLast?_concat]
    exact hblank

theorem endsInBlank_iff {name host : String} (h : canonical? name = some host) :
    endsInBlank host = true ↔ BlankBeforeDots name := by
  rw [endsInBlank_eq h]
  constructor
  · exact blankBeforeDots_of_bare
  · intro hblank
    exact (bare_of_blankBeforeDots hblank).resolve_left (canonical?_eq_some_iff.1 h).1

end HostName
end RealmTokens
