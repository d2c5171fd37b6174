/-
Paths that were read, and paths that go on.

The segments of a path that was read hold no slash, and a file's path has no empty segment at its front
unless it has no other.  Main statement: a reference of plain segments, none of which is a dot segment
or a drive letter, is put behind the path of a URL that has a host and ends its path in a slash, whatever
the scheme of that URL is.
-/
import RealmTokens.Proofs.Url.Assembled

namespace RealmTokens
namespace Url

/-! ## Segments that were read -/

/-- Whether no segment of a path holds a slash. -/
def Unslashed (parts : List String) : Prop := ∀ part ∈ parts, '/' ∉ part.toList

theorem Unslashed.append {xs ys : List String} (hx : Unslashed xs) (hy : Unslashed ys) :
    Unslashed (xs ++ ys) :=
  List.forall_mem_append.2 ⟨hx, hy⟩

theorem unslashed_singleton {part : String} (h : '/' ∉ part.toList) : Unslashed [part] :=
  List.forall_mem_singleton.2 h

theorem unslashed_empty : Unslashed [""] := unslashed_singleton List.not_mem_nil

theorem Unslashed.dropSegment {parts : List String} (h : Unslashed parts) :
    Unslashed (dropSegment parts) := by
  unfold Url.dropSegment
  split
  case h_1 =>
    split
    case isTrue => exact h
    case isFalse => exact fun part hpart => h part (List.dropLast_subset parts hpart)
  case h_2 => exact fun part hpart => absurd hpart List.not_mem_nil

theorem slash_not_mem_segment {text : List Char} (h : '/' ∉ text) : '/' ∉ (segment text).toList := by
  rw [segment, String.toList_ofList]
  intro hin
  rcases Percent.mem_encode hin with ⟨hmem, -⟩ | heq | ⟨n, hn, heq⟩
  · exact h (List.mem_filter.1 hmem).1
  · exact absurd heq (by decide)
  · have hall : ∀ n < 16, Text.upperHexDigit n ≠ '/' := by decide
    exact hall n hn heq.symm

theorem slash_not_mem_drive {c : Char} (h : c.isAlpha = true) :
    '/' ∉ (String.ofList [c, ':']).toList := by
  rw [String.toList_ofList]
  intro hin
  rcases List.mem_cons.1 hin with heq | hin
  · rw [← heq] at h
    exact absurd h (by decide)
  · exact absurd (List.mem_singleton.1 hin) (by decide)

theorem isAlpha_of_isLooseDrive {c d : Char} (h : isLooseDrive [c, d] = true) : c.isAlpha = true := by
  unfold isLooseDrive at h
  split at h
  case h_1 heq =>
    obtain ⟨rfl, -⟩ := List.cons.inj heq
    exact h
  case h_2 heq =>
    obtain ⟨rfl, -⟩ := List.cons.inj heq
    exact h
  case h_3 => cases h

/-- A drive letter and the text behind it. -/
theorem brokenDrive?_spec {text more : List Char} {drive : String}
    (h : brokenDrive? text = some (drive, more)) (hslash : '/' ∉ text) :
    '/' ∉ drive.toList ∧ '/' ∉ more := by
  unfold brokenDrive? at h
  split at h
  case h_2 => cases h
  case h_1 c rest htext =>
    split at h
    case h_2 => cases h
    case h_1 d found hrest =>
      split at h
      case isFalse => cases h
      case isTrue hdrive =>
        obtain ⟨rfl, rfl⟩ := Prod.mk.inj (Option.some.inj h)
        simp only [Bool.and_eq_true] at hdrive
        refine ⟨slash_not_mem_drive hdrive.1.1, fun hin => hslash ?_⟩
        have hfound : '/' ∈ rest :=
          (List.dropWhile_suffix _).subset (hrest ▸ List.mem_cons_of_mem _ (List.mem_cons_of_mem _ hin))
        exact (List.dropWhile_suffix _).subset (htext ▸ List.mem_cons_of_mem c hfound)

namespace Walk

variable {file : Bool} {w : Walk} {text : List Char}

theorem unslashed_enter (hw : Unslashed w.parts) (htext : '/' ∉ text) :
    Unslashed (w.enter file text).parts := by
  have hsegment := slash_not_mem_segment htext
  unfold enter
  split
  case isTrue =>
    split
    case h_1 c d _ =>
      split
      case isTrue hdrive =>
        exact unslashed_singleton (slash_not_mem_drive (isAlpha_of_isLooseDrive hdrive))
      case isFalse => exact unslashed_singleton hsegment
    case h_2 drive rest hdrive _ =>
      obtain ⟨hfirst, hrest⟩ := brokenDrive?_spec hdrive htext
      exact (unslashed_singleton hfirst).append (unslashed_singleton (slash_not_mem_segment hrest))
    case h_3 => exact unslashed_singleton hsegment
  case isFalse => exact hw.append (unslashed_singleton hsegment)

theorem unslashed_next (hw : Unslashed w.parts) (htext : '/' ∉ text) :
    Unslashed (w.next file text).parts := by
  unfold next
  split
  case isTrue => exact hw.dropSegment
  case isFalse =>
    split
    case isTrue => exact hw
    case isFalse => exact unslashed_enter hw htext

theorem unslashed_last (hw : Unslashed w.parts) (htext : '/' ∉ text) :
    Unslashed (w.last file text).parts := by
  unfold last
  split
  case isTrue => exact hw.dropSegment.append unslashed_empty
  case isFalse =>
    split
    case isTrue => exact hw.append unslashed_empty
    case isFalse => exact unslashed_enter hw htext

theorem unslashed_all {texts : List (List Char)} (hw : Unslashed w.parts)
    (htexts : ∀ text ∈ texts, '/' ∉ text) : Unslashed (w.all file texts).parts := by
  induction texts generalizing w with
  | nil => exact hw
  | cons text texts ih =>
      obtain ⟨htext, hlater⟩ := List.forall_mem_cons.1 htexts
      cases texts with
      | nil => exact unslashed_last hw htext
      | cons next texts =>
          rw [all]
          · exact ih (unslashed_next hw htext) hlater
          · exact List.cons_ne_nil _ _

end Walk

theorem slash_not_mem_pieces {special : Bool} {cs text : List Char} (h : text ∈ pieces special cs) :
    '/' ∉ text := by
  have hall : ∀ xs : List Char, ∀ text ∈ xs.splitOnP (isSlash special), '/' ∉ text := by
    intro xs
    induction xs with
    | nil => simp
    | cons x xs ih =>
        rw [List.splitOnP_cons_eq_if_modifyHead]
        split
        case isTrue => exact List.forall_mem_cons.2 ⟨List.not_mem_nil, ih⟩
        case isFalse hx =>
          have hne : '/' ≠ x := fun heq => hx (by rw [← heq]; rfl)
          cases hsplit : xs.splitOnP (isSlash special) with
          | nil => simp
          | cons first rest =>
              rw [hsplit] at ih
              obtain ⟨hfirst, hrest⟩ := List.forall_mem_cons.1 ih
              refine List.forall_mem_cons.2 ⟨?_, hrest⟩
              exact fun hin => (List.mem_cons.1 hin).elim hne hfirst
  exact hall cs text h

/-! ## Paths that were read -/

/-- A file's path has no empty segment at its front, unless that is its only one. -/
def Collapsed (parts : List String) : Prop := parts.head? = some "" → parts = [""]

theorem collapsed_collapse (parts : List String) : Collapsed (collapse parts) := by
  unfold collapse
  dsimp only
  split
  case isTrue => exact fun _ => rfl
  case isFalse =>
    intro hhead
    have hnot := List.head?_dropWhile_not (· == "") parts
    rw [hhead] at hnot
    exact absurd hnot (by decide)

theorem Unslashed.collapse {parts : List String} (h : Unslashed parts) :
    Unslashed (collapse parts) := by
  unfold Url.collapse
  dsimp only
  split
  case isTrue => exact unslashed_empty
  case isFalse => exact fun part hpart => h part ((List.dropWhile_suffix _).subset hpart)

/-- What is known of the path of a URL that was read and has an authority. -/
structure ReadPath (u : Url) (parts : List String) : Prop where
  path_eq : u.path = .segments parts
  unslashed : Unslashed parts
  collapsed : u.scheme = "file" → Collapsed parts

theorem unslashed_extendPath (special : Bool) (cs : List Char) :
    ∃ parts, extendPath special [] cs = .segments parts ∧ Unslashed parts :=
  ⟨_, rfl, Walk.unslashed_all (fun _ hpart => absurd hpart List.not_mem_nil)
    (fun _ htext => slash_not_mem_pieces htext)⟩

theorem unslashed_pathBehindAuthority (special : Bool) (cs : List Char) :
    ∃ parts, pathBehindAuthority special cs = .segments parts ∧ Unslashed parts := by
  unfold pathBehindAuthority
  split
  case isTrue => exact unslashed_extendPath true _
  case isFalse =>
    split
    case isTrue => exact ⟨[], rfl, fun _ hpart => absurd hpart List.not_mem_nil⟩
    case isFalse => exact unslashed_extendPath false _

theorem unslashed_filePath (texts : List (List Char)) (h : ∀ text ∈ texts, '/' ∉ text) :
    Unslashed (filePath [] texts).parts ∧ Collapsed (filePath [] texts).parts :=
  ⟨(Walk.unslashed_all (fun _ hpart => absurd hpart List.not_mem_nil) h).collapse,
    collapsed_collapse _⟩

section Reading

variable {u : Url} {scheme s : String} {r : Reference} {cs : List Char}

theorem readPath_of_withAuthority (hscheme : scheme ≠ "file")
    (h : withAuthority scheme cs r = .ok u) : ∃ parts, u.ReadPath parts := by
  unfold withAuthority at h
  simp only [bind, Except.bind, pure, Except.pure] at h
  split at h
  case h_1 => cases h
  case h_2 parsed _ =>
    cases h
    obtain ⟨parts, hparts, hunslashed⟩ :=
      unslashed_pathBehindAuthority (kindOfScheme scheme).isSpecial
        (parsed.rest ++ cs.dropWhile (fun c => !isSlash (kindOfScheme scheme).isSpecial c))
    exact ⟨parts, hparts, hunslashed, fun heq => absurd heq hscheme⟩

theorem readPath_of_filePath {u : Url} {text : List Char}
    (h : u.path = .segments (filePath [] (pieces true text)).parts) : ∃ parts, u.ReadPath parts := by
  obtain ⟨hunslashed, hcollapsed⟩ :=
    unslashed_filePath (pieces true text) (fun _ htext => slash_not_mem_pieces htext)
  exact ⟨_, h, hunslashed, fun _ => hcollapsed⟩

theorem readPath_of_file (h : file none r = .ok u) : ∃ parts, u.ReadPath parts := by
  have hroot (rest : List Char) : ∃ parts, (fileAtRoot none rest r).ReadPath parts := by
    have hpath : (fileAtRoot none rest r).path = .segments (filePath [] (pieces true rest)).parts := by
      simp only [fileAtRoot, Option.bind_none, Option.filter_none, ite_self]
      rfl
    exact readPath_of_filePath hpath
  unfold file at h
  split at h
  case h_1 heq => cases heq
  case h_2 =>
    cases h
    exact readPath_of_filePath rfl
  case h_3 =>
    split at h
    case isTrue =>
      cases h
      exact readPath_of_filePath rfl
    case isFalse =>
      split at h
      case h_1 =>
        split at h
        case isTrue =>
          unfold fileWithHost at h
          simp only [bind, Except.bind, pure, Except.pure] at h
          split at h
          case isTrue =>
            cases h
            exact readPath_of_filePath rfl
          case isFalse =>
            split at h
            case h_1 => cases h
            case h_2 found _ =>
              cases found with
              | none =>
                  cases h
                  exact readPath_of_filePath rfl
              | some host =>
                  cases h
                  exact readPath_of_filePath rfl
        case isFalse =>
          cases h
          exact hroot _
      case h_2 =>
        cases h
        exact hroot _

/-- The path of a URL that was read and has an authority. -/
theorem readPath_of_parse (h : parse s = .ok u) (ha : u.authority.isSome) :
    ∃ parts, u.ReadPath parts := by
  obtain ⟨scheme, rest, -, hread⟩ := ofScheme_of_parse h
  unfold ofScheme at hread
  split at hread
  case h_1 => exact readPath_of_file hread
  case h_2 hkind =>
    have hscheme : scheme ≠ "file" := by
      rintro rfl
      cases hkind
    unfold ofOther at hread
    split at hread
    case h_1 => exact readPath_of_withAuthority hscheme hread
    case h_2 =>
      cases hread
      cases ha
    case h_3 =>
      cases hread
      cases ha
  case h_3 hkind =>
    have hscheme : scheme ≠ "file" := by
      rintro rfl
      cases hkind
    exact readPath_of_withAuthority hscheme hread

end Reading

/-! ## Plain segments -/

/-- Whether a character means nothing but itself in a reference to a path. -/
def isSegmentChar (c : Char) : Bool :=
  !Percent.pathSet c && !":/\\%|".toList.contains c

/-- Whether a text is a segment as it stands, and no dot segment. -/
structure IsPlainSegment (text : List Char) : Prop where
  ne_nil : text ≠ []
  plain : ∀ c ∈ text, isSegmentChar c = true
  back : text.getLast? ≠ some '.'

theorem ne_of_isSegmentChar {c mark : Char} (h : isSegmentChar c = true)
    (hmark : isSegmentChar mark = false) : c ≠ mark := by
  rintro rfl
  exact Bool.false_ne_true (hmark.symm.trans h)

theorem lt_of_isSegmentChar {c : Char} (h : isSegmentChar c = true) : 0x20 < c.toNat := by
  refine Nat.lt_of_not_le (fun hle => ?_)
  have hnot : isSegmentChar c = false :=
    Text.forall_char_lt (p := fun c => isSegmentChar c = false) (by decide)
      (Nat.lt_succ_of_le hle)
  exact Bool.false_ne_true (hnot.symm.trans h)

theorem not_isSlash_of_isSegmentChar {special : Bool} {c : Char} (h : isSegmentChar c = true) :
    isSlash special c = false := by
  have hslash : c ≠ '/' := ne_of_isSegmentChar h rfl
  have hback : c ≠ '\\' := ne_of_isSegmentChar h rfl
  simp [isSlash, hslash, hback]

theorem isLooseDrive_eq_false {c d : Char} (hcolon : d ≠ ':') (hbar : d ≠ '|') :
    isLooseDrive [c, d] = false := by
  unfold isLooseDrive
  split
  case h_1 heq => exact absurd (List.cons.inj (List.cons.inj heq).2).1 hcolon
  case h_2 heq => exact absurd (List.cons.inj (List.cons.inj heq).2).1 hbar
  case h_3 => rfl

theorem toLower_ne_percent {c : Char} (h : c ≠ '%') : c.toLower ≠ '%' := by
  by_cases hascii : c.toNat < 0x80
  · exact Text.forall_char_lt (p := fun c => c ≠ '%' → c.toLower ≠ '%') (by decide) hascii h
  · rw [Text.toLower_eq_self hascii]
    exact h

namespace IsPlainSegment

variable {text : List Char}

theorem isVisible (h : IsPlainSegment text) : IsVisible text :=
  fun c hc => lt_of_isSegmentChar (h.plain c hc)

theorem segment_eq (h : IsPlainSegment text) : segment text = String.ofList text := by
  rw [segment, h.isVisible.dropBreaks_eq, Percent.encode_eq_self]
  intro c hc
  have hplain := h.plain c hc
  rw [isSegmentChar, Bool.and_eq_true, Bool.not_eq_true'] at hplain
  exact hplain.1

/-- Every dot segment has a percent sign or ends in a dot. -/
theorem asciiLowercase_ne (h : IsPlainSegment text) {name : List Char}
    (hname : '%' ∈ name ∨ name.getLast? = some '.') : Text.asciiLowercase text ≠ name := by
  rintro rfl
  rcases hname with hin | hlast
  · obtain ⟨c, hc, heq⟩ := List.mem_map.1 hin
    exact toLower_ne_percent (ne_of_isSegmentChar (h.plain c hc) rfl) heq
  · rw [Text.asciiLowercase, List.getLast?_map, Option.map_eq_some_iff] at hlast
    obtain ⟨c, hc, heq⟩ := hlast
    have hdot : c = '.' := by
      rw [← beq_iff_eq, ← (HostName.spec_toLower c).2, heq]
      rfl
    exact h.back (hdot ▸ hc)

theorem not_dot (h : IsPlainSegment text) :
    isDot (segment text) = false ∧ isDoubleDot (segment text) = false := by
  have hne (name : String) (hname : '%' ∈ name.toList ∨ name.toList.getLast? = some '.') :
      (String.ofList (Text.asciiLowercase text) == name) = false := by
    refine beq_eq_false_iff_ne.2 (fun heq => h.asciiLowercase_ne hname ?_)
    rw [← heq, String.toList_ofList]
  rw [h.segment_eq, isDot, isDoubleDot, String.toList_ofList]
  simp only [List.contains_cons, List.contains_nil, Bool.or_false, Bool.or_eq_false_iff]
  exact ⟨⟨hne _ (by decide), hne _ (by decide)⟩, hne _ (by decide), hne _ (by decide),
    hne _ (by decide), hne _ (by decide)⟩

theorem not_isLooseDrive (h : IsPlainSegment text) {c d : Char} (heq : text = [c, d]) :
    isLooseDrive [c, d] = false := by
  have hd := h.plain d (by rw [heq]; exact List.mem_cons_of_mem c List.mem_cons_self)
  exact isLooseDrive_eq_false (ne_of_isSegmentChar hd rfl) (ne_of_isSegmentChar hd rfl)

theorem brokenDrive?_eq_none (h : IsPlainSegment text) : brokenDrive? text = none := by
  cases hbroken : brokenDrive? text with
  | none => rfl
  | some found =>
      unfold brokenDrive? at hbroken
      split at hbroken
      case h_2 => cases hbroken
      case h_1 c rest htext =>
        split at hbroken
        case h_2 => cases hbroken
        case h_1 d more hrest =>
          have hcolon : ':' ∈ rest := (List.dropWhile_suffix _).subset (hrest ▸ List.mem_cons_self)
          have hin : ':' ∈ text :=
            (List.dropWhile_suffix _).subset (htext ▸ List.mem_cons_of_mem c hcolon)
          exact absurd rfl (ne_of_isSegmentChar (h.plain ':' hin) (rfl : isSegmentChar ':' = false))

/-- A plain segment is put behind the segments in front of it. -/
theorem enter_eq (h : IsPlainSegment text) (file : Bool) (w : Walk) :
    w.enter file text = ⟨w.parts ++ [String.ofList text], w.drive⟩ := by
  unfold Walk.enter
  rw [h.segment_eq, h.isVisible.dropBreaks_eq, h.brokenDrive?_eq_none]
  split
  case isTrue hfirst =>
    have hnil : w.parts = [] := List.isEmpty_iff.1 (Bool.and_eq_true_iff.1 hfirst).2
    rw [hnil]
    split
    case h_1 c d _ _ =>
      rw [if_neg (by rw [h.not_isLooseDrive rfl]; exact Bool.false_ne_true)]
      rfl
    case h_2 heq => cases heq
    case h_3 => rfl
  case isFalse => rfl

theorem all_eq {texts : List (List Char)} (h : ∀ text ∈ texts, IsPlainSegment text) (file : Bool)
    (w : Walk) : w.all file texts = ⟨w.parts ++ texts.map String.ofList, w.drive⟩ := by
  induction texts generalizing w with
  | nil => simp [Walk.all]
  | cons text texts ih =>
      obtain ⟨htext, hlater⟩ := List.forall_mem_cons.1 h
      obtain ⟨hdot, hdouble⟩ := htext.not_dot
      cases texts with
      | nil => simp [Walk.all, Walk.last, hdot, hdouble, htext.enter_eq]
      | cons next texts =>
          rw [Walk.all, ih hlater, Walk.next]
          · simp [hdot, hdouble, htext.enter_eq]
          · exact List.cons_ne_nil _ _

end IsPlainSegment

/-- The segments of a reference are found again. -/
theorem pieces_intercalate {texts : List (List Char)} (hne : texts ≠ [])
    (h : ∀ text ∈ texts, IsPlainSegment text) (special : Bool) :
    pieces special (['/'].intercalate texts) = texts := by
  induction texts with
  | nil => exact absurd rfl hne
  | cons text texts ih =>
      obtain ⟨htext, hlater⟩ := List.forall_mem_cons.1 h
      have hnot : ∀ c ∈ text, isSlash special c = false :=
        fun c hc => not_isSlash_of_isSegmentChar (htext.plain c hc)
      cases texts with
      | nil =>
          rw [List.intercalate_singleton]
          exact List.splitOnP_eq_singleton hnot
      | cons next texts =>
          rw [List.intercalate_cons_cons, List.append_assoc]
          exact (List.splitOnP_append_cons_of_forall_mem hnot '/' rfl _).trans
            (congrArg (text :: ·) (ih (List.cons_ne_nil _ _) hlater))

/-! ## Paths that go on -/

theorem joinSegments_append (xs ys : List String) :
    joinSegments (xs ++ ys) = joinSegments xs ++ joinSegments ys := by
  induction xs with
  | nil => exact (String.empty_append).symm
  | cons x xs ih =>
      rw [List.cons_append, joinSegments, ih, joinSegments, String.append_assoc, String.append_assoc,
        String.append_assoc]

/-- The text of segments, without the slash in front of them. -/
theorem toList_joinSegments {texts : List (List Char)} (hne : texts ≠ []) :
    (joinSegments (texts.map String.ofList)).toList = '/' :: ['/'].intercalate texts := by
  induction texts with
  | nil => exact absurd rfl hne
  | cons text texts ih =>
      cases texts with
      | nil => simp [joinSegments]
      | cons next texts =>
          rw [List.map_cons, joinSegments, String.toList_append, ih (List.cons_ne_nil _ _),
            List.intercalate_cons_cons]
          simp

/-- A path that ends in a slash ends in an empty segment. -/
theorem ReadPath.exists_front {u : Url} {parts : List String} (h : u.ReadPath parts)
    (hslash : u.pathText.toList.getLast? = some '/') :
    ∃ front, parts = front ++ [""] ∧ u.pathText = joinSegments front ++ "/" := by
  have htext : u.pathText = joinSegments parts := by
    rw [pathText, h.path_eq]
    rfl
  rw [htext] at hslash ⊢
  rcases List.eq_nil_or_concat' parts with rfl | ⟨front, last, rfl⟩
  · cases hslash
  have hjoin : joinSegments (front ++ [last]) = joinSegments front ++ ("/" ++ last) := by
    rw [joinSegments_append]
    simp [joinSegments]
  by_cases hlast : last = ""
  · subst hlast
    exact ⟨front, rfl, by rw [hjoin, String.append_empty]⟩
  · -- Otherwise the slash at the end would stand in the last segment.
    have hne : last.toList ≠ [] := fun hnil => hlast (String.toList_eq_nil_iff.1 hnil)
    rw [hjoin, String.toList_append, String.toList_append, ← List.append_assoc,
      List.getLast?_append_of_ne_nil _ hne] at hslash
    exact absurd (List.mem_of_getLast? hslash) (h.unslashed last (by simp))

/-- A reference that is made of plain segments. -/
structure IsPlainReference (texts : List (List Char)) (reference : String) : Prop where
  ne_nil : texts ≠ []
  plain : ∀ text ∈ texts, IsPlainSegment text
  toList_eq : reference.toList = ['/'].intercalate texts

section Join

variable {base : Url} {parts : List String} {texts : List (List Char)} {reference : String}

theorem IsPlainReference.mem (h : IsPlainReference texts reference) {c : Char}
    (hc : c ∈ reference.toList) : c = '/' ∨ isSegmentChar c = true := by
  rw [h.toList_eq] at hc
  refine (mem_intercalate hc).imp_right (fun hin => ?_)
  obtain ⟨text, htext, hmem⟩ := hin
  exact (h.plain text htext).plain c hmem

theorem IsPlainReference.exists_cons (h : IsPlainReference texts reference) :
    ∃ c rest, reference.toList = c :: rest ∧ isSegmentChar c = true := by
  obtain ⟨text, later, rfl⟩ := List.exists_cons_of_ne_nil h.ne_nil
  have htext := h.plain text List.mem_cons_self
  obtain ⟨c, cs, rfl⟩ := List.exists_cons_of_ne_nil htext.ne_nil
  have hc := htext.plain c List.mem_cons_self
  rw [h.toList_eq]
  cases later with
  | nil => exact ⟨c, cs, List.intercalate_singleton, hc⟩
  | cons next later => exact ⟨c, _, List.intercalate_cons_cons.trans rfl, hc⟩

theorem IsPlainReference.isVisible (h : IsPlainReference texts reference) :
    IsVisible reference.toList := by
  intro c hc
  rcases h.mem hc with rfl | hplain
  · decide
  · exact lt_of_isSegmentChar hplain

theorem IsPlainReference.not_mem (h : IsPlainReference texts reference) {mark : Char}
    (hne : mark ≠ '/') (hmark : isSegmentChar mark = false) : mark ∉ reference.toList := by
  intro hin
  rcases h.mem hin with heq | hplain
  · exact hne heq
  · exact Bool.false_ne_true (hmark.symm.trans hplain)

/-- A plain reference has no scheme, no query and no fragment. -/
theorem IsPlainReference.resolve_eq (h : IsPlainReference texts reference) (base : Option Url) :
    resolve base reference = ofReference base ⟨reference.toList, none, none⟩ := by
  have hcolon : cutAt ':' reference.toList = (reference.toList, none) :=
    cutAt_of_not_mem (h.not_mem (by decide) rfl)
  have hscheme : scheme? reference.toList = none := by rw [scheme?, hcolon]
  rw [resolve, h.isVisible.trim_eq, hscheme,
    Reference.ofChars_of_not_mem (h.not_mem (by decide) rfl) (h.not_mem (by decide) rfl)]

theorem IsPlainReference.relative_eq (h : IsPlainReference texts reference) (base : Url) :
    relative base ⟨reference.toList, none, none⟩ =
      .ok ⟨base.scheme, base.authority,
        .segments (base.path.parts.dropLast ++ texts.map String.ofList), none, none⟩ := by
  obtain ⟨c, rest, hcons, hc⟩ := h.exists_cons
  have hfront : Reference.front ⟨reference.toList, none, none⟩ = c :: rest := by
    rw [Reference.front, h.isVisible.dropBreaks_eq, hcons]
  have hslash : isSlash true c = false := not_isSlash_of_isSegmentChar hc
  have hextend : extendPath (kindOfScheme base.scheme).isSpecial base.path.parts.dropLast (c :: rest) =
      .segments (base.path.parts.dropLast ++ texts.map String.ofList) := by
    rw [extendPath, ← hcons, h.toList_eq, pieces_intercalate h.ne_nil h.plain,
      IsPlainSegment.all_eq h.plain]
  simp only [relative, hfront, List.takeWhile_cons, hslash, Bool.false_eq_true, if_false,
    List.length_nil, hextend]
  rfl

/-- Nothing at the front of a file's path goes away when the path goes on. -/
theorem IsPlainReference.collapse_eq (h : IsPlainReference texts reference) {front : List String}
    (hcollapsed : Collapsed (front ++ [""])) :
    collapse (front ++ texts.map String.ofList) = front ++ texts.map String.ofList := by
  obtain ⟨first, rest, hcons, hne⟩ :
      ∃ first rest, front ++ texts.map String.ofList = first :: rest ∧ first ≠ "" := by
    cases front with
    | nil =>
        obtain ⟨text, later, rfl⟩ := List.exists_cons_of_ne_nil h.ne_nil
        refine ⟨String.ofList text, later.map String.ofList, rfl, fun heq => ?_⟩
        have hnil : text = [] := by
          rw [← String.toList_ofList (l := text), heq]
          rfl
        exact (h.plain text List.mem_cons_self).ne_nil hnil
    | cons first front =>
        refine ⟨first, front ++ texts.map String.ofList, rfl, fun heq => ?_⟩
        have hsingle := hcollapsed (congrArg some heq)
        simp at hsingle
  rw [hcons, collapse]
  simp [hne]

/-- No drive letter stands at the front of a plain reference. -/
theorem IsPlainReference.not_startsWithDrive (h : IsPlainReference texts reference) :
    startsWithDrive (dropBreaks reference.toList) = false := by
  have hcolon : ':' ∉ reference.toList := h.not_mem (by decide) rfl
  have hbar : '|' ∉ reference.toList := h.not_mem (by decide) rfl
  rw [h.isVisible.dropBreaks_eq]
  unfold startsWithDrive
  split
  case h_2 => rfl
  case h_1 c d rest htext =>
    have hd : d ∈ reference.toList := htext ▸ List.mem_cons_of_mem c List.mem_cons_self
    rw [isLooseDrive_eq_false (fun heq => hcolon (heq ▸ hd)) (fun heq => hbar (heq ▸ hd)),
      Bool.false_and]

theorem IsPlainReference.file_eq (h : IsPlainReference texts reference) {front : List String}
    (hparts : base.path.parts = front ++ [""]) (hcollapsed : Collapsed base.path.parts) :
    file (some base) ⟨reference.toList, none, none⟩ =
      .ok ⟨"file", base.authority, .segments (front ++ texts.map String.ofList), none, none⟩ := by
  obtain ⟨c, rest, hcons, hc⟩ := h.exists_cons
  have hslash : isSlash true c = false := not_isSlash_of_isSegmentChar hc
  have hbreak : isBreak c = false := not_isBreak_of_lt (lt_of_isSegmentChar hc)
  have hwalk : (filePath (front ++ [""]).dropLast texts).parts = front ++ texts.map String.ofList := by
    rw [List.dropLast_concat, filePath, IsPlainSegment.all_eq h.plain]
    exact h.collapse_eq (hparts ▸ hcollapsed)
  have hbeside : pathBeside (front ++ [""]) reference.toList = front ++ texts.map String.ofList := by
    obtain ⟨text, later, htexts⟩ := List.exists_cons_of_ne_nil h.ne_nil
    have hpieces : pieces true reference.toList = text :: later := by
      rw [h.toList_eq, pieces_intercalate h.ne_nil h.plain, htexts]
    rw [htexts] at hwalk
    rw [htexts, pathBeside, List.getLast?_concat, hpieces]
    exact hwalk
  have hfront : (reference.toList).dropWhile isBreak = c :: rest := by
    rw [hcons, List.dropWhile_cons, hbreak, if_neg Bool.false_ne_true]
  simp only [file, hfront, hslash, Bool.not_false, if_true]
  rw [← hcons, fileBeside, h.not_startsWithDrive]
  simp only [Bool.not_false, Option.filter_some, if_true, hparts, hbeside]
  rfl

/-- A plain reference is put behind the path of a URL that ends in a slash, and all else of the URL up to
its path stays. -/
theorem join_of_plain (hpath : base.ReadPath parts)
    (hslash : base.pathText.toList.getLast? = some '/') (h : IsPlainReference texts reference) :
    ∃ u, base.join reference = .ok u ∧ u.scheme = base.scheme ∧ u.authority = base.authority ∧
      u.pathText = base.pathText ++ reference ∧ u.query = none ∧ u.fragment = none := by
  obtain ⟨front, hparts, htext⟩ := hpath.exists_front hslash
  have hbase : base.path.parts = front ++ [""] := by
    rw [hpath.path_eq, hparts]
    rfl
  obtain ⟨c, rest, hcons, -⟩ := h.exists_cons
  have hjoin : base.join reference = .ok ⟨base.scheme, base.authority,
      .segments (front ++ texts.map String.ofList), none, none⟩ := by
    have hfront : (Reference.front ⟨reference.toList, none, none⟩).isEmpty = false := by
      rw [Reference.front, h.isVisible.dropBreaks_eq, hcons]
      rfl
    rw [join, h.resolve_eq, ofReference, hfront, hpath.path_eq]
    simp only [Bool.false_and, Bool.false_eq_true, if_false]
    split
    case isTrue hfile =>
      rw [h.file_eq hbase (hbase ▸ hparts ▸ hpath.collapsed hfile), hfile]
    case isFalse =>
      rw [h.relative_eq, hbase, List.dropLast_concat]
  refine ⟨_, hjoin, rfl, rfl, ?_, rfl, rfl⟩
  rw [htext, pathText, Path.render, joinSegments_append, String.append_assoc, ← String.toList_inj]
  simp only [String.toList_append, toList_joinSegments h.ne_nil, h.toList_eq]
  rfl

end Join

end Url
end RealmTokens
