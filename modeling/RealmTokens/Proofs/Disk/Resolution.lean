/-
Where a path leads, and what of the disk that depends on.

A path and the path beside it are looked for in one folder.  Main statement: a disk that differs from
another one at a single place that is no directory finds the same folder, and reads the same under
every name in it but the one at that place.
-/
import RealmTokens.Disk.Basic
import RealmTokens.Proofs.Disk.Paths

namespace RealmTokens
namespace Disk

/-! ## The steps of a search -/

theorem bind_eq_ok {α β : Type} {x : Except Fault α} {f : α → Except Fault β} {b : β}
    (h : x.bind f = .ok b) : ∃ a, x = .ok a ∧ f a = .ok b := by
  cases x with
  | error fault => cases h
  | ok a => exact ⟨a, rfl, h⟩

theorem descend_eq_ok {disk : Disk} {place inner : Location} {name : String} (hup : name ≠ "..")
    (hdot : name ≠ ".") (h : disk.descend place name = .ok inner) :
    disk.node? (place ++ [name]) = some .directory ∧ inner = place ++ [name] := by
  rw [descend, if_neg hup, if_neg hdot] at h
  split at h
  · cases h
  · split at h
    case h_1 => cases h
    case h_2 hnode =>
      cases h
      exact ⟨hnode, rfl⟩
    case h_3 => cases h

/-- One step looks at one place. -/
theorem descend_congr {a b : Disk} {place : Location} {name : String}
    (h : b.node? (place ++ [name]) = a.node? (place ++ [name])) :
    b.descend place name = a.descend place name := by
  rw [descend, h]
  rfl

/-- A part that stays in place. -/
def Idle (part : String) : Prop := isIdle part = true ∧ part ≠ ""

theorem Idle.eq_dot {part : String} (h : Idle part) : part = "." := by
  obtain ⟨hidle, hne⟩ := h
  rw [isIdle, Bool.or_eq_true, beq_iff_eq, beq_iff_eq] at hidle
  exact hidle.resolve_left hne

theorem idle_of_mem_filter {texts : List String} (h : ∀ text ∈ texts, isIdle text = true) :
    ∀ text ∈ texts.filter (· != ""), Idle text := by
  intro text htext
  rw [List.mem_filter] at htext
  exact ⟨h text htext.1, by simpa using htext.2⟩

theorem foldlM_descend_idle (disk : Disk) (place : Location) {names : List String}
    (h : ∀ name ∈ names, Idle name) : names.foldlM (descend disk) place = .ok place := by
  induction names with
  | nil => rfl
  | cons name names ih =>
      have hstep : descend disk place name = .ok place := by
        rw [(h name List.mem_cons_self).eq_dot]
        rfl
      rw [List.foldlM_cons, hstep]
      exact ih (fun other hother => h other (List.mem_cons_of_mem name hother))

/-! ## The search for a path -/

/-- Why a path is refused before any directory is looked at. -/
def refusal? (path : String) : Option Fault :=
  if path.toList.contains '\x00' then some .invalidInput
  else if path = "" then some .notFound
  else if maxPath < path.utf8ByteSize then some .nameTooLong
  else none

/-- A search, unless the path is refused. -/
def unlessRefused (path : String) (search : Except Fault Target) : Except Fault Target :=
  match refusal? path with
  | some fault => .error fault
  | none => search

theorem unlessRefused_eq_ok {path : String} {search : Except Fault Target} {target : Target}
    (h : unlessRefused path search = .ok target) : refusal? path = none ∧ search = .ok target := by
  unfold unlessRefused at h
  split at h
  · cases h
  case h_2 hnone => exact ⟨hnone, h⟩

/-- Where the search for a path begins. -/
def origin (path : String) : Location :=
  if isAbsolute path then Location.root else []

/-- The end of a search, when all names in front of the last have been followed. -/
def arrive (place : Location) (last : String) (slash : Bool) : Target :=
  if last = ".." then ⟨place.up, last, slash⟩
  else if last = "." then ⟨place, last, slash⟩
  else ⟨place ++ [last], last, slash⟩

theorem arrive_of_ne {last : String} (hup : last ≠ "..") (hdot : last ≠ ".") (place : Location)
    (slash : Bool) : arrive place last slash = ⟨place ++ [last], last, slash⟩ := by
  rw [arrive, if_neg hup, if_neg hdot]

def endsInSlash (path : String) : Bool := path.toList.getLast? == some '/'

theorem find_of_parts (disk : Disk) {path last : String} {names : List String}
    (h : (parts path).filter (· != "") = names ++ [last]) :
    disk.find path = unlessRefused path ((names.foldlM (descend disk) (origin path)).map
      (fun place => arrive place last (endsInSlash path))) := by
  unfold find unlessRefused refusal?
  split
  · rfl
  split
  · rfl
  split
  · rfl
  · rw [h]
    simp only [List.getLast?_concat, List.dropLast_concat]
    show Except.bind (names.foldlM (descend disk) (origin path)) _ = Except.map _ _
    cases names.foldlM (descend disk) (origin path) with
    | error fault => rfl
    | ok place =>
        simp only [Except.bind, Except.map, arrive]
        split
        · rfl
        · split <;> rfl

/-- The directory in which the file that a path names is looked for. -/
def folder (disk : Disk) (path : String) : Except Fault Location :=
  ((front path).filter (· != "")).foldlM (descend disk) (origin path)

namespace Named

variable {path name ending : String} {middle trailing : List String} {disk : Disk}
variable {target : Target}

/-- The folder and the idle parts behind it are one directory. -/
theorem foldlM_folder (h : Named path name middle trailing) (disk : Disk) :
    ((front path).filter (· != "") ++ middle.filter (· != "")).foldlM (descend disk)
      (origin path) = disk.folder path := by
  rw [List.foldlM_append]
  show Except.bind (disk.folder path) _ = _
  cases disk.folder path with
  | error fault => rfl
  | ok place => exact foldlM_descend_idle disk place (idle_of_mem_filter h.middle_idle)

/-- So are a directory with the name and the idle parts behind that. -/
theorem foldlM_name (h : Named path name middle trailing) (disk : Disk) {idles : List String}
    (hidles : ∀ part ∈ idles, Idle part) :
    ((front path).filter (· != "") ++ middle.filter (· != "") ++ ([name] ++ idles)).foldlM
      (descend disk) (origin path) =
        (disk.folder path).bind (fun place => disk.descend place name) := by
  rw [List.foldlM_append, h.foldlM_folder]
  show Except.bind (disk.folder path) _ = _
  congr 1
  funext place
  show Except.bind (disk.descend place name) (fun inner => idles.foldlM (descend disk) inner) = _
  cases disk.descend place name with
  | error fault => rfl
  | ok inner => exact foldlM_descend_idle disk inner hidles

/-- The place of a file by its folder.  Idle parts behind its name want a directory there. -/
theorem find_eq (h : Named path name middle trailing) (disk : Disk) :
    disk.find path = unlessRefused path ((disk.folder path).bind (fun place =>
      if trailing.filter (· != "") = [] then .ok ⟨place ++ [name], name, endsInSlash path⟩
      else (disk.descend place name).map (fun inner => ⟨inner, ".", endsInSlash path⟩))) := by
  have hparts : (parts path).filter (· != "") =
      ((front path).filter (· != "") ++ middle.filter (· != "")) ++
        ([name] ++ trailing.filter (· != "")) := by
    rw [h.parts_eq, List.filter_append, List.filter_append, List.filter_cons_of_pos
      (by simpa using h.name_ne_empty)]
    rfl
  have hidle := idle_of_mem_filter h.trailing_idle
  rcases List.eq_nil_or_concat (trailing.filter (· != "")) with hnil | ⟨idles, last, hlast⟩
  · rw [hnil, List.append_nil] at hparts
    rw [find_of_parts disk hparts, h.foldlM_folder]
    cases disk.folder path with
    | error fault => rfl
    | ok place =>
        simp only [Except.map, Except.bind, arrive_of_ne h.ne_up h.name_ne_dot, hnil, if_true]
  · rw [List.concat_eq_append] at hlast
    rw [hlast] at hidle hparts
    have hidles : ∀ part ∈ idles, Idle part :=
      fun part hpart => hidle part (List.mem_append_left _ hpart)
    rw [← List.append_assoc [name], ← List.append_assoc] at hparts
    rw [find_of_parts disk hparts, h.foldlM_name disk hidles, (hidle last (by simp)).eq_dot]
    cases disk.folder path with
    | error fault => rfl
    | ok place =>
        have hne : ¬idles ++ [last] = [] := by simp
        simp only [Except.bind, hlast, hne, if_false]
        rfl

/-- A longer name is an ordinary one, so the path beside leads to it in the same folder. -/
theorem find_beside (h : Named path name middle trailing) (he : Lengthens ending) (disk : Disk) :
    disk.find (beside path ending) = unlessRefused (beside path ending)
      ((disk.folder path).map (fun place =>
        ⟨place ++ [name ++ ending], name ++ ending, endsInSlash (beside path ending)⟩)) := by
  have horigin : origin (beside path ending) = origin path := by
    rw [origin, origin, h.isAbsolute_beside he]
  have hup : name ++ ending ≠ ".." := longer_ne he (by decide)
  have hdot : name ++ ending ≠ "." := longer_ne he (by decide)
  simp only [find_of_parts disk (h.parts_beside he), horigin, arrive_of_ne hup hdot, folder]

/-- The path beside ends in its name. -/
theorem endsInSlash_beside (h : Named path name middle trailing) (he : Lengthens ending) :
    endsInSlash (beside path ending) = false := by
  have htext : ∃ first, beside path ending = first ++ ending := by
    rw [h.beside_eq]
    split
    · exact ⟨"/" ++ name, String.append_assoc.symm⟩
    · obtain ⟨first, hfirst⟩ := exists_intercalate_concat (front path) (name ++ ending)
      exact ⟨first ++ name, by rw [hfirst, String.append_assoc]⟩
  obtain ⟨first, htext⟩ := htext
  have hlong := he.long
  have hne : ending.toList ≠ [] := by
    intro hnil
    rw [← String.length_toList, hnil] at hlong
    exact absurd hlong (by decide)
  rw [endsInSlash, htext, String.toList_append, List.getLast?_append,
    List.getLast?_eq_some_getLast hne, Option.some_or, beq_eq_false_iff_ne]
  exact fun hlast => he.no_slash (Option.some.inj hlast ▸ List.getLast_mem hne)

theorem place_of_find (h : Named path name middle trailing) (hfind : disk.find path = .ok target) :
    ∃ place, disk.folder path = .ok place ∧ target.place = place ++ [name] := by
  rw [h.find_eq] at hfind
  obtain ⟨place, hfolder, hplace⟩ := bind_eq_ok (unlessRefused_eq_ok hfind).2
  refine ⟨place, hfolder, ?_⟩
  split at hplace
  · cases hplace
    rfl
  · cases hinner : disk.descend place name with
    | error fault =>
        rw [hinner] at hplace
        cases hplace
    | ok inner =>
        rw [hinner] at hplace
        cases hplace
        exact (descend_eq_ok h.ne_up h.name_ne_dot hinner).2

theorem place_of_find_beside (h : Named path name middle trailing) (he : Lengthens ending)
    (hfind : disk.find (beside path ending) = .ok target) :
    ∃ place, disk.folder path = .ok place ∧ target.place = place ++ [name ++ ending] := by
  rw [h.find_beside he] at hfind
  have hplace := (unlessRefused_eq_ok hfind).2
  cases hfolder : disk.folder path with
  | error fault =>
      rw [hfolder] at hplace
      cases hplace
  | ok place =>
      rw [hfolder] at hplace
      cases hplace
      exact ⟨place, rfl, rfl⟩

theorem slash_of_find_beside (h : Named path name middle trailing) (he : Lengthens ending)
    (hfind : disk.find (beside path ending) = .ok target) : target.slash = false := by
  rw [h.find_beside he] at hfind
  have hplace := (unlessRefused_eq_ok hfind).2
  rw [h.endsInSlash_beside he] at hplace
  cases hfolder : disk.folder path with
  | error fault =>
      rw [hfolder] at hplace
      cases hplace
  | ok place =>
      rw [hfolder] at hplace
      cases hplace
      rfl

end Named

/-! ## Disks with the same directories -/

/-- Two disks that have their directories at the same places. -/
def SameFolders (a b : Disk) : Prop :=
  ∀ place, b.node? place = some .directory ↔ a.node? place = some .directory

namespace SameFolders

variable {a b c : Disk}

theorem refl (a : Disk) : SameFolders a a :=
  fun _ => Iff.rfl

theorem symm (h : SameFolders a b) : SameFolders b a :=
  fun place => (h place).symm

theorem trans (h : SameFolders a b) (h' : SameFolders b c) : SameFolders a c :=
  fun place => (h' place).trans (h place)

/-- A step that succeeds goes through directories only. -/
theorem descend_eq_ok (h : SameFolders a b) {here inner : Location} {name : String}
    (hstep : a.descend here name = .ok inner) : b.descend here name = .ok inner := by
  by_cases hup : name = ".."
  · rw [descend, if_pos hup] at hstep ⊢
    exact hstep
  by_cases hdot : name = "."
  · rw [descend, if_neg hup, if_pos hdot] at hstep ⊢
    exact hstep
  have hdir := (Disk.descend_eq_ok hup hdot hstep).1
  have hnode : b.node? (here ++ [name]) = a.node? (here ++ [name]) := by
    rw [hdir, h]
    exact hdir
  rw [descend_congr hnode]
  exact hstep

theorem foldlM_descend (h : SameFolders a b) {here inner : Location} {names : List String}
    (hsteps : names.foldlM (descend a) here = .ok inner) :
    names.foldlM (descend b) here = .ok inner := by
  induction names generalizing here with
  | nil => exact hsteps
  | cons name names ih =>
      rw [List.foldlM_cons] at hsteps ⊢
      obtain ⟨next, hstep, hrest⟩ := bind_eq_ok hsteps
      rw [h.descend_eq_ok hstep]
      exact ih hrest

end SameFolders

/-! ## Disks that differ at one place -/

/-- Two disks that are the same but for one place, which is no directory on either. -/
structure SameBut (place : Location) (a b : Disk) : Prop where
  node?_eq : ∀ other, other ≠ place → b.node? other = a.node? other
  left_not : a.node? place ≠ some .directory
  right_not : b.node? place ≠ some .directory

namespace SameBut

variable {a b : Disk} {place : Location}

theorem sameFolders (h : SameBut place a b) : SameFolders a b := by
  intro other
  by_cases hother : other = place
  · rw [hother]
    exact iff_of_false h.right_not h.left_not
  · rw [h.node?_eq other hother]

theorem folder_eq (h : SameBut place a b) {path : String} {here : Location}
    (hfolder : a.folder path = .ok here) : b.folder path = .ok here :=
  h.sameFolders.foldlM_descend hfolder

end SameBut

theorem append_singleton_ne {name other : String} (h : other ≠ name) (here : Location) :
    here ++ [name] ≠ here ++ [other] := by
  intro heq
  exact h (List.singleton_inj.1 (List.append_cancel_left heq)).symm

namespace Named

variable {path name other ending : String} {middle trailing : List String} {a b : Disk}
variable {here : Location}

/-- A change under another name in the folder hides nothing from the search. -/
theorem find_congr (h : Named path name middle trailing) (hfolder : a.folder path = .ok here)
    (hsame : SameBut (here ++ [other]) a b) (hne : other ≠ name) : b.find path = a.find path := by
  have hstep : b.descend here name = a.descend here name :=
    descend_congr (hsame.node?_eq _ (append_singleton_ne hne here))
  rw [h.find_eq, h.find_eq, hsame.folder_eq hfolder, hfolder]
  simp only [Except.bind, hstep]

theorem read_congr (h : Named path name middle trailing) (hfolder : a.folder path = .ok here)
    (hsame : SameBut (here ++ [other]) a b) (hne : other ≠ name) : b.read path = a.read path := by
  rw [read, read, h.find_congr hfolder hsame hne]
  cases hfind : a.find path with
  | error fault => rfl
  | ok target =>
      obtain ⟨place, hplace, htarget⟩ := h.place_of_find hfind
      rw [hfolder] at hplace
      cases hplace
      have hnode : b.node? target.place = a.node? target.place := by
        rw [htarget]
        exact hsame.node?_eq _ (append_singleton_ne hne here)
      have hlook : b.look target = a.look target := by
        rw [look, look, hnode]
      show Except.bind (b.look target) _ = Except.bind (a.look target) _
      rw [hlook]

/-- A file that comes or changes where a path leads is found there.  Where idle parts stand behind the
name there was a directory, and no file can come. -/
theorem find_congr_self (h : Named path name middle trailing) {target : Target}
    (hfind : a.find path = .ok target) (hsame : SameBut target.place a b) :
    b.find path = .ok target := by
  obtain ⟨place, hfolder, hplace⟩ := h.place_of_find hfind
  rw [h.find_eq, hfolder] at hfind
  rw [h.find_eq, hsame.folder_eq hfolder]
  obtain ⟨hrefusal, hsearch⟩ := unlessRefused_eq_ok hfind
  rw [unlessRefused, hrefusal]
  simp only [Except.bind] at hsearch ⊢
  split at hsearch
  case isTrue hnil =>
    rw [if_pos hnil]
    exact hsearch
  case isFalse =>
    -- The search has gone through a directory at the place, where there is none.
    cases hstep : a.descend place name with
    | error fault =>
        rw [hstep] at hsearch
        cases hsearch
    | ok inner =>
        have hdir := (Disk.descend_eq_ok h.ne_up h.name_ne_dot hstep).1
        rw [← hplace] at hdir
        exact absurd hdir hsame.left_not

/-- The search for the path beside does not look at the place it ends in. -/
theorem find_beside_congr (h : Named path name middle trailing) (he : Lengthens ending)
    {place : Location} (hfolder : a.folder path = .ok here) (hsame : SameBut place a b) :
    b.find (beside path ending) = a.find (beside path ending) := by
  rw [h.find_beside he, h.find_beside he, hfolder, hsame.folder_eq hfolder]

end Named

end Disk
end RealmTokens
