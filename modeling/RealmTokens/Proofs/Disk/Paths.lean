/-
The parts of a path and of the path beside it.

The part that names the file divides the parts of a path.  Idle parts may stand on either side of it,
and what is left in front of them is kept in the path beside.
-/
import RealmTokens.Disk.Path
import RealmTokens.Proofs.Lists

namespace RealmTokens
namespace Disk

/-! ## Texts between slashes -/

theorem not_mem_of_mem_parts {path part : String} (h : part ∈ parts path) : '/' ∉ part.toList := by
  obtain ⟨cs, hcs, rfl⟩ := List.mem_map.1 h
  rw [String.toList_ofList]
  exact not_mem_of_mem_splitOn hcs

/-- Parts put together with slashes are the parts again. -/
theorem parts_intercalate {texts : List String} (h : ∀ text ∈ texts, '/' ∉ text.toList)
    (hne : texts ≠ []) : parts ("/".intercalate texts) = texts := by
  have hlists : ∀ cs ∈ texts.map String.toList, '/' ∉ cs := by
    intro cs hcs
    obtain ⟨text, htext, rfl⟩ := List.mem_map.1 hcs
    exact h text htext
  have hslash : "/".toList = ['/'] := rfl
  rw [parts, String.toList_intercalate, hslash,
    List.splitOn_intercalate '/' hlists (by simpa using hne), List.map_map]
  simp

theorem intercalate_parts (path : String) : "/".intercalate (parts path) = path := by
  have hslash : "/".toList = ['/'] := rfl
  have hmap : (parts path).map String.toList = path.toList.splitOn '/' := by
    rw [parts, List.map_map]
    simp
  rw [← String.toList_inj, String.toList_intercalate, hslash, hmap, List.intercalate_splitOn]

/-- Parts put together end in the last of them. -/
theorem exists_intercalate_concat (texts : List String) (last : String) :
    ∃ first, "/".intercalate (texts ++ [last]) = first ++ last := by
  induction texts with
  | nil => exact ⟨"", by simp⟩
  | cons text texts ih =>
      obtain ⟨first, hfirst⟩ := ih
      cases htexts : texts ++ [last] with
      | nil => simp at htexts
      | cons next rest =>
          rw [htexts] at hfirst
          refine ⟨text ++ "/" ++ first, ?_⟩
          rw [List.cons_append, htexts, String.intercalate_cons_cons, hfirst, String.append_assoc,
            String.append_assoc, String.append_assoc]

/-- The first part alone decides where several parts start. -/
theorem isAbsolute_intercalate (first : String) {rest : List String} (h : rest ≠ []) :
    isAbsolute ("/".intercalate (first :: rest)) =
      ((first.toList ++ ['/']).head? == some '/') := by
  cases rest with
  | nil => exact absurd rfl h
  | cons second rest =>
      have hslash : "/".toList = ['/'] := rfl
      rw [isAbsolute, String.intercalate_cons_cons, String.toList_append, String.toList_append,
        hslash, List.append_assoc]
      cases first.toList <;> rfl

/-! ## The part that names the file -/

/-- A path that names a file, divided at that name. -/
structure Named (path name : String) (middle trailing : List String) : Prop where
  parts_eq : parts path = front path ++ middle ++ name :: trailing
  middle_idle : ∀ part ∈ middle, isIdle part = true
  trailing_idle : ∀ part ∈ trailing, isIdle part = true
  not_idle : isIdle name = false
  ne_up : name ≠ ".."
  last_component : (components path).getLast? = some name

theorem fileName?_eq_some {path name : String} (h : fileName? path = some name) :
    (components path).getLast? = some name ∧ name ≠ ".." := by
  unfold fileName? at h
  split at h
  · cases h
  case h_2 last hlast =>
    split at h
    · cases h
    case isFalse hup =>
      cases h
      exact ⟨hlast, hup⟩

theorem exists_named {path name : String} (h : fileName? path = some name) :
    ∃ middle trailing, Named path name middle trailing := by
  obtain ⟨hcomponent, hup⟩ := fileName?_eq_some h
  -- Read from the end, the name is the first part that is not idle.
  have hfirst : ((parts path).reverse.filter (fun part => !isIdle part)).head? = some name := by
    rw [List.filter_reverse, List.head?_reverse]
    exact hcomponent
  have hsplit := List.takeWhile_append_dropWhile (p := isIdle) (l := (parts path).reverse)
  have hidle : ∀ part ∈ (parts path).reverse.takeWhile isIdle, isIdle part = true :=
    List.all_eq_true.1 List.all_takeWhile
  have hnone : ((parts path).reverse.takeWhile isIdle).filter (fun part => !isIdle part) = [] := by
    rw [List.filter_eq_nil_iff]
    intro part hpart
    simp [hidle part hpart]
  have hbusy := List.head?_dropWhile_not isIdle (parts path).reverse
  rw [← hsplit, List.filter_append, hnone, List.nil_append] at hfirst
  cases hd : (parts path).reverse.dropWhile isIdle with
  | nil =>
      rw [hd] at hfirst
      cases hfirst
  | cons last rest =>
      rw [hd] at hbusy hfirst hsplit
      have hlast : isIdle last = false := hbusy
      have hname : last = name := by simpa [hlast] using hfirst
      have hfront : front path = (rest.dropWhile isIdle).reverse := by
        rw [front, hd, List.drop_one, List.tail_cons]
      have hparts : parts path =
          rest.reverse ++ last :: ((parts path).reverse.takeWhile isIdle).reverse := by
        calc parts path = (parts path).reverse.reverse := (List.reverse_reverse _).symm
          _ = ((parts path).reverse.takeWhile isIdle ++ last :: rest).reverse :=
            congrArg List.reverse hsplit.symm
          _ = _ := by simp
      refine ⟨(rest.takeWhile isIdle).reverse,
        ((parts path).reverse.takeWhile isIdle).reverse, ?_, ?_, ?_, hname ▸ hlast, hup, hcomponent⟩
      · rw [hfront, ← List.reverse_append, List.takeWhile_append_dropWhile, ← hname]
        exact hparts
      · intro part hpart
        exact List.all_eq_true.1 List.all_takeWhile part (List.mem_reverse.1 hpart)
      · intro part hpart
        exact hidle part (List.mem_reverse.1 hpart)

/-! ## The path beside -/

/-- An ending that makes an ordinary name of every name. -/
structure Lengthens (ending : String) : Prop where
  no_slash : '/' ∉ ending.toList
  long : 2 < ending.length

namespace Named

variable {path name ending : String} {middle trailing : List String}

theorem name_ne_empty (h : Named path name middle trailing) : name ≠ "" := by
  rintro rfl
  exact absurd h.not_idle (by decide)

theorem name_ne_dot (h : Named path name middle trailing) : name ≠ "." := by
  rintro rfl
  exact absurd h.not_idle (by decide)

/-- The longer name is longer than any step of dots. -/
theorem longer_ne (he : Lengthens ending) {text : String} (h : text.length ≤ 2) :
    name ++ ending ≠ text := by
  have hlength : (name ++ ending).length = name.length + ending.length := String.length_append name ending
  have hlong := he.long
  rintro rfl
  omega

theorem longer_ne_self (he : Lengthens ending) : name ++ ending ≠ name := by
  intro heq
  have hlength := congrArg String.length heq
  have hlong := he.long
  rw [String.length_append] at hlength
  omega

theorem mem_parts (h : Named path name middle trailing) : name ∈ parts path := by
  rw [h.parts_eq]
  exact List.mem_append_right _ List.mem_cons_self

theorem beside_eq (h : Named path name middle trailing) (ending : String) :
    beside path ending =
      if (front path).isEmpty && isAbsolute path then "/" ++ (name ++ ending)
      else "/".intercalate (front path ++ [name ++ ending]) := by
  rw [beside, h.last_component]
  rfl

theorem no_slash (h : Named path name middle trailing) (he : Lengthens ending) :
    ∀ text ∈ front path ++ [name ++ ending], '/' ∉ text.toList := by
  intro text htext
  rcases List.mem_append.1 htext with hfront | hlast
  · have hmem : text ∈ parts path := by
      rw [h.parts_eq, List.append_assoc]
      exact List.mem_append_left _ hfront
    exact not_mem_of_mem_parts hmem
  · rw [List.mem_singleton.1 hlast, String.toList_append, List.mem_append, not_or]
    exact ⟨not_mem_of_mem_parts h.mem_parts, he.no_slash⟩

/-- The parts that are no empty text: those in front, and the longer name. -/
theorem parts_beside (h : Named path name middle trailing) (he : Lengthens ending) :
    (parts (beside path ending)).filter (· != "") =
      (front path).filter (· != "") ++ [name ++ ending] := by
  have hslash := h.no_slash he
  have hne : name ++ ending ≠ "" := longer_ne he (by decide)
  have hlast : [name ++ ending].filter (· != "") = [name ++ ending] := by
    simp [hne]
  rw [h.beside_eq]
  split
  case isTrue hroot =>
    have hempty : front path = [] := by
      rw [Bool.and_eq_true, List.isEmpty_iff] at hroot
      exact hroot.1
    have hjoin : "/" ++ (name ++ ending) = "/".intercalate ["", name ++ ending] := by
      rw [String.intercalate_cons_cons, String.intercalate_singleton, String.empty_append]
    have htwo : ∀ text ∈ ["", name ++ ending], '/' ∉ text.toList := by
      intro text htext
      rcases List.mem_cons.1 htext with rfl | htext
      · exact List.not_mem_nil
      · exact hslash text (List.mem_append_right _ htext)
    rw [hjoin, parts_intercalate htwo (List.cons_ne_nil _ _), hempty]
    exact hlast
  case isFalse =>
    rw [parts_intercalate hslash (by simp), List.filter_append, hlast]

theorem isAbsolute_beside (h : Named path name middle trailing) (he : Lengthens ending) :
    isAbsolute (beside path ending) = isAbsolute path := by
  cases hf : front path with
  | nil =>
      rw [h.beside_eq, hf, List.isEmpty_nil, Bool.true_and]
      by_cases habs : isAbsolute path = true
      · rw [if_pos habs, habs, isAbsolute, String.toList_append]
        rfl
      · rw [if_neg habs, List.nil_append, String.intercalate_singleton,
          Bool.eq_false_iff.2 habs, isAbsolute, beq_eq_false_iff_ne]
        intro hhead
        have hmem := h.no_slash he (name ++ ending) (List.mem_append_right _ (by simp))
        exact hmem (List.mem_of_mem_head? hhead)
  | cons first more =>
      have hpath : "/".intercalate (first :: (more ++ middle ++ name :: trailing)) = path := by
        rw [← List.cons_append, ← List.cons_append, ← hf, ← h.parts_eq, intercalate_parts]
      have hbeside : beside path ending = "/".intercalate (first :: (more ++ [name ++ ending])) := by
        rw [h.beside_eq, hf]
        rfl
      rw [hbeside, isAbsolute_intercalate first (by simp)]
      calc _ = isAbsolute ("/".intercalate (first :: (more ++ middle ++ name :: trailing))) :=
            (isAbsolute_intercalate first (by simp)).symm
        _ = isAbsolute path := by rw [hpath]

end Named

end Disk
end RealmTokens
