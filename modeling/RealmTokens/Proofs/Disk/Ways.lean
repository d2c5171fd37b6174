/-
How far a path leads, and what of a disk its calls can change.

A search goes through directories up to the first place that is none, or to the end of its path.  Main
statements: what a path reads as depends on the directories and on that place alone, only a path with
the name of a file reads as one, and calls change nothing but the places their paths lead to, where no
directory comes or goes.
-/
import RealmTokens.Proofs.Disk.Calls

namespace RealmTokens
namespace Disk

/-! ## The end of a search -/

/-- The place where a search stops: the first that is no directory, or the last of all.  None where a
name is too long to be looked for. -/
def stopFrom (disk : Disk) (place : Location) : List String → Option Location
  | [] => some place
  | name :: rest =>
      if name = ".." then stopFrom disk place.up rest
      else if name = "." then stopFrom disk place rest
      else if maxName < name.utf8ByteSize then none
      else if disk.node? (place ++ [name]) = some .directory then
        stopFrom disk (place ++ [name]) rest
      else some (place ++ [name])

def stop? (disk : Disk) (path : String) : Option Location :=
  match refusal? path with
  | some _ => none
  | none => disk.stopFrom (origin path) ((parts path).filter (· != ""))

/-- Whether a path is found to lead to a place. -/
def Leads (disk : Disk) (path : String) (place : Location) : Prop :=
  ∃ target, disk.find path = .ok target ∧ target.place = place

theorem leads_unique {disk : Disk} {path : String} {place other : Location}
    (h : disk.Leads path place) (h' : disk.Leads path other) : place = other := by
  obtain ⟨target, hfind, rfl⟩ := h
  obtain ⟨target', hfind', rfl⟩ := h'
  rw [hfind] at hfind'
  rw [Except.ok.inj hfind']

/-- A search that arrives has followed all names but the last. -/
theorem stopFrom_of_foldlM {disk : Disk} {here place : Location} {names : List String}
    (hsteps : names.foldlM (descend disk) here = .ok place) (rest : List String) :
    disk.stopFrom here (names ++ rest) = disk.stopFrom place rest := by
  induction names generalizing here with
  | nil =>
      cases hsteps
      rfl
  | cons name names ih =>
      rw [List.foldlM_cons] at hsteps
      obtain ⟨next, hstep, hrest⟩ := bind_eq_ok hsteps
      rw [List.cons_append, stopFrom]
      by_cases hup : name = ".."
      · rw [descend, if_pos hup] at hstep
        cases hstep
        rw [if_pos hup]
        exact ih hrest
      by_cases hdot : name = "."
      · rw [descend, if_neg hup, if_pos hdot] at hstep
        cases hstep
        rw [if_neg hup, if_pos hdot]
        exact ih hrest
      by_cases hlong : maxName < name.utf8ByteSize
      · rw [descend, if_neg hup, if_neg hdot, if_pos hlong] at hstep
        cases hstep
      · obtain ⟨hdir, rfl⟩ := Disk.descend_eq_ok hup hdot hstep
        rw [if_neg hup, if_neg hdot, if_neg hlong, if_pos hdir]
        exact ih hrest

theorem stopFrom_singleton (disk : Disk) (place : Location) {last : String} {slash : Bool}
    (hshort : ¬maxName < (arrive place last slash).last.utf8ByteSize) :
    disk.stopFrom place [last] = some (arrive place last slash).place := by
  unfold arrive at hshort ⊢
  rw [stopFrom]
  by_cases hup : last = ".."
  · rw [if_pos hup, if_pos hup]
    rfl
  by_cases hdot : last = "."
  · rw [if_neg hup, if_pos hdot, if_neg hup, if_pos hdot]
    rfl
  rw [if_neg hup, if_neg hdot] at hshort ⊢
  rw [if_neg hup, if_neg hdot, if_neg hshort]
  split <;> rfl

/-- A path stops at the place that it leads to. -/
theorem stop?_of_find {disk : Disk} {path : String} {target : Target}
    (hfind : disk.find path = .ok target) (hshort : ¬maxName < target.last.utf8ByteSize) :
    disk.stop? path = some target.place := by
  rcases List.eq_nil_or_concat ((parts path).filter (· != "")) with hnil | ⟨names, last, hnames⟩
  · unfold find at hfind
    unfold stop? refusal?
    split at hfind
    · cases hfind
    split at hfind
    · cases hfind
    split at hfind
    · cases hfind
    · rw [hnil] at hfind ⊢
      cases hfind
      simp only [*, if_false, Bool.false_eq_true]
      rfl
  · rw [List.concat_eq_append] at hnames
    rw [find_of_parts disk hnames] at hfind
    obtain ⟨hrefusal, hsearch⟩ := unlessRefused_eq_ok hfind
    rw [stop?, hrefusal, hnames]
    cases hsteps : names.foldlM (descend disk) (origin path) with
    | error fault =>
        rw [hsteps] at hsearch
        cases hsearch
    | ok place =>
        rw [hsteps] at hsearch
        cases hsearch
        show disk.stopFrom (origin path) (names ++ [last]) = _
        rw [stopFrom_of_foldlM hsteps]
        exact stopFrom_singleton disk place hshort

namespace SameFolders

variable {a b : Disk}

theorem stopFrom_eq (h : SameFolders a b) (here : Location) (names : List String) :
    b.stopFrom here names = a.stopFrom here names := by
  induction names generalizing here with
  | nil => rfl
  | cons name names ih => simp only [stopFrom, ih, h (here ++ [name])]

theorem stop?_eq (h : SameFolders a b) (path : String) : b.stop? path = a.stop? path := by
  rw [stop?, stop?, h.stopFrom_eq]

/-- The steps of a search see no difference but at the place where it stops. -/
theorem foldlM_descend_eq (h : SameFolders a b) {here : Location} {names rest : List String}
    (hstop : ∀ place, a.stopFrom here (names ++ rest) = some place → b.node? place = a.node? place) :
    names.foldlM (descend b) here = names.foldlM (descend a) here := by
  induction names generalizing here with
  | nil => rfl
  | cons name names ih =>
      rw [List.cons_append, stopFrom] at hstop
      rw [List.foldlM_cons, List.foldlM_cons]
      by_cases hup : name = ".."
      · rw [if_pos hup] at hstop
        rw [descend, descend, if_pos hup, if_pos hup]
        exact ih hstop
      by_cases hdot : name = "."
      · rw [if_neg hup, if_pos hdot] at hstop
        rw [descend, descend, if_neg hup, if_neg hup, if_pos hdot, if_pos hdot]
        exact ih hstop
      by_cases hlong : maxName < name.utf8ByteSize
      · simp only [descend, if_neg hup, if_neg hdot, if_pos hlong]
        rfl
      rw [if_neg hup, if_neg hdot, if_neg hlong] at hstop
      by_cases hdir : a.node? (here ++ [name]) = some .directory
      · rw [if_pos hdir] at hstop
        have hstep : ∀ disk : Disk, disk.node? (here ++ [name]) = some .directory →
            disk.descend here name = .ok (here ++ [name]) := by
          intro disk hnode
          rw [descend, if_neg hup, if_neg hdot, if_neg hlong, hnode]
        rw [hstep a hdir, hstep b ((h _).2 hdir)]
        exact ih hstop
      · -- The search ends here on both disks, and for the same reason.
        rw [if_neg hdir] at hstop
        have hfails : ∀ place, a.descend here name ≠ .ok place := by
          intro place hstep
          exact hdir (Disk.descend_eq_ok hup hdot hstep).1
        rw [descend_congr (hstop _ rfl)]
        cases hstep : a.descend here name with
        | error fault => rfl
        | ok place => exact absurd hstep (hfails place)

/-- A path that is found is found at the same place. -/
theorem find_eq_ok (h : SameFolders a b) {path : String} {target : Target}
    (hfind : a.find path = .ok target) : b.find path = .ok target := by
  rcases List.eq_nil_or_concat ((parts path).filter (· != "")) with hnil | ⟨names, last, hnames⟩
  · rw [← hfind, find, find, hnil]
    rfl
  · rw [List.concat_eq_append] at hnames
    rw [find_of_parts a hnames] at hfind
    rw [find_of_parts b hnames]
    obtain ⟨hrefusal, hsearch⟩ := unlessRefused_eq_ok hfind
    rw [unlessRefused, hrefusal]
    cases hsteps : names.foldlM (descend a) (origin path) with
    | error fault =>
        rw [hsteps] at hsearch
        cases hsearch
    | ok place =>
        rw [hsteps] at hsearch
        rw [h.foldlM_descend hsteps]
        exact hsearch

theorem leads_iff (h : SameFolders a b) (path : String) (place : Location) :
    b.Leads path place ↔ a.Leads path place := by
  constructor
  · rintro ⟨target, hfind, hplace⟩
    exact ⟨target, h.symm.find_eq_ok hfind, hplace⟩
  · rintro ⟨target, hfind, hplace⟩
    exact ⟨target, h.find_eq_ok hfind, hplace⟩

/-- So a path that stops where both disks hold the same is found, or not found, on both. -/
theorem find_eq (h : SameFolders a b) {path : String}
    (hstop : ∀ place, a.stop? path = some place → b.node? place = a.node? place) :
    b.find path = a.find path := by
  rcases List.eq_nil_or_concat ((parts path).filter (· != "")) with hnil | ⟨names, last, hnames⟩
  · rw [find, find, hnil]
    rfl
  · rw [List.concat_eq_append] at hnames
    rw [find_of_parts a hnames, find_of_parts b hnames, unlessRefused, unlessRefused]
    cases hrefusal : refusal? path with
    | some fault => rfl
    | none =>
        rw [stop?, hrefusal, hnames] at hstop
        rw [h.foldlM_descend_eq hstop]

/-- Two disks read the same under a path that stops at a place where they hold the same. -/
theorem read_eq (h : SameFolders a b) {path : String}
    (hstop : ∀ place, a.stop? path = some place → b.node? place = a.node? place) :
    b.read path = a.read path := by
  rw [read, read, h.find_eq hstop]
  cases hfind : a.find path with
  | error fault => rfl
  | ok target =>
      have hlook : b.look target = a.look target := by
        by_cases hlong : maxName < target.last.utf8ByteSize
        · rw [look, look, if_pos hlong, if_pos hlong]
        · rw [look, look, hstop _ (stop?_of_find hfind hlong)]
      show Except.bind (b.look target) _ = Except.bind (a.look target) _
      rw [hlook]

end SameFolders

/-! ## Paths of files -/

/-- Whether a place is a directory, and so is every place on the way to it. -/
def Walked (disk : Disk) (place : Location) : Prop :=
  ∀ count, disk.node? (place.take count) = some .directory

namespace Walked

variable {disk : Disk} {place inner : Location}

theorem directory (h : Walked disk place) : disk.node? place = some .directory := by
  have hall := h place.length
  rwa [List.take_length] at hall

theorem of_isAbove (h : place.isAbove = true) : Walked disk place := by
  intro count
  have habove : Location.isAbove (place.take count) = true := by
    rw [Location.isAbove, Bool.or_eq_true, beq_iff_eq] at h ⊢
    rcases h with rfl | hdots
    · cases count with
      | zero => exact Or.inr rfl
      | succ count => exact Or.inl (List.take_of_length_le (Nat.le_add_left 1 count))
    · right
      rw [List.all_eq_true] at hdots ⊢
      exact fun name hname => hdots name (List.mem_of_mem_take hname)
  rw [node?, if_pos habove]

theorem up (h : Walked disk place) : Walked disk place.up := by
  unfold Location.up
  split
  · exact of_isAbove rfl
  · split
    case isTrue hdots =>
      apply of_isAbove
      rw [Location.isAbove, List.all_append, hdots]
      exact Bool.or_true _
    case isFalse =>
      intro count
      rw [List.dropLast_eq_take, List.take_take]
      exact h _

theorem descend {name : String} (h : Walked disk place)
    (hstep : disk.descend place name = .ok inner) : Walked disk inner := by
  by_cases hup : name = ".."
  · rw [Disk.descend, if_pos hup] at hstep
    cases hstep
    exact h.up
  by_cases hdot : name = "."
  · rw [Disk.descend, if_neg hup, if_pos hdot] at hstep
    cases hstep
    exact h
  obtain ⟨hdirectory, rfl⟩ := descend_eq_ok hup hdot hstep
  intro count
  by_cases hcount : count ≤ place.length
  · rw [List.take_append_of_le_length hcount]
    exact h count
  · have hlength : (place ++ [name]).length ≤ count := by
      rw [List.length_append, List.length_singleton]
      omega
    rw [List.take_of_length_le hlength]
    exact hdirectory

theorem foldlM {names : List String} (h : Walked disk place)
    (hsteps : names.foldlM (Disk.descend disk) place = .ok inner) : Walked disk inner := by
  induction names generalizing place with
  | nil =>
      cases hsteps
      exact h
  | cons name names ih =>
      rw [List.foldlM_cons] at hsteps
      obtain ⟨next, hstep, hrest⟩ := bind_eq_ok hsteps
      exact ih (h.descend hstep) hrest

end Walked

theorem walked_origin (disk : Disk) (path : String) : Walked disk (origin path) := by
  apply Walked.of_isAbove
  rw [origin]
  split <;> rfl

/-- A path that ends in a name, and in no step of dots, has the name of a file. -/
theorem fileName?_of_parts {path last : String} {names : List String}
    (h : (parts path).filter (· != "") = names ++ [last]) (hup : last ≠ "..") (hdot : last ≠ ".") :
    fileName? path = some last := by
  have hcomponents : components path = ((parts path).filter (· != "")).filter (· != ".") := by
    rw [components, List.filter_filter]
    apply List.filter_congr
    intro part _
    simp only [isIdle, bne, Bool.not_or]
    exact Bool.and_comm _ _
  have hlast : (components path).getLast? = some last := by
    rw [hcomponents, h, List.filter_append]
    simp [hdot]
  rw [fileName?, hlast]
  dsimp only
  rw [if_neg hup]

theorem isSome_fileName?_of_find {disk : Disk} {path : String} {target : Target}
    (hfind : disk.find path = .ok target) (hfile : disk.node? target.place ≠ some .directory) :
    (fileName? path).isSome = true := by
  rcases List.eq_nil_or_concat ((parts path).filter (· != "")) with hnil | ⟨names, last, hnames⟩
  · unfold find at hfind
    split at hfind
    · cases hfind
    split at hfind
    · cases hfind
    split at hfind
    · cases hfind
    rw [hnil] at hfind
    cases hfind
    exact absurd (walked_origin disk path).directory hfile
  · rw [List.concat_eq_append] at hnames
    rw [find_of_parts disk hnames] at hfind
    have hsearch := (unlessRefused_eq_ok hfind).2
    cases hsteps : names.foldlM (descend disk) (origin path) with
    | error fault =>
        rw [hsteps] at hsearch
        cases hsearch
    | ok place =>
        rw [hsteps] at hsearch
        have harrive : arrive place last (endsInSlash path) = target := Except.ok.inj hsearch
        have hwalked := (walked_origin disk path).foldlM hsteps
        rw [← harrive] at hfile
        -- A step of dots at the end leads to one of the directories on the way.
        by_cases hup : last = ".."
        · rw [arrive, if_pos hup] at hfile
          exact absurd hwalked.up.directory hfile
        by_cases hdot : last = "."
        · rw [arrive, if_neg hup, if_pos hdot] at hfile
          exact absurd hwalked.directory hfile
        · rw [fileName?_of_parts hnames hup hdot]
          rfl

/-- What reads as a file has the name of one. -/
theorem isSome_fileName?_of_read {disk : Disk} {path : String} {content : List UInt8}
    (h : disk.read path = .ok content) : (fileName? path).isSome = true := by
  obtain ⟨target, mode, hfind, hnode, -⟩ := read_eq_ok h
  exact isSome_fileName?_of_find hfind (by simp [hnode])

/-! ## What calls change -/

/-- Whether two disks are the same outside of `reach`, and have the same directories everywhere. -/
structure Within (reach : Location → Prop) (a b : Disk) : Prop where
  node?_eq : ∀ place, ¬reach place → b.node? place = a.node? place
  folders : SameFolders a b

namespace Within

variable {reach wider : Location → Prop} {a b c : Disk}

theorem refl (reach : Location → Prop) (a : Disk) : Within reach a a :=
  ⟨fun _ _ => rfl, .refl a⟩

theorem trans (h : Within reach a b) (h' : Within reach b c) : Within reach a c :=
  ⟨fun place hout => (h'.node?_eq place hout).trans (h.node?_eq place hout),
    h.folders.trans h'.folders⟩

theorem mono (h : Within reach a b) (hin : ∀ place, reach place → wider place) :
    Within wider a b :=
  ⟨fun place hout => h.node?_eq place (fun hreach => hout (hin place hreach)), h.folders⟩

/-- A path that stops out of reach reads as before. -/
theorem read_eq (h : Within reach a b) {path : String}
    (hout : ∀ place, a.stop? path = some place → ¬reach place) : b.read path = a.read path :=
  h.folders.read_eq (fun place hstop => h.node?_eq place (hout place hstop))

end Within

theorem SameBut.within {reach : Location → Prop} {place : Location} {a b : Disk}
    (h : SameBut place a b) (hin : reach place) : Within reach a b := by
  refine ⟨fun other hout => h.node?_eq other ?_, h.sameFolders⟩
  rintro rfl
  exact hout hin

theorem Touches.within {path : String} {disk after : Disk} (h : Touches path disk after) :
    Within (disk.Leads path) disk after := by
  rcases h with rfl | ⟨target, hfind, hsame⟩
  · exact .refl _ _
  · exact hsame.within ⟨target, hfind, rfl⟩

def Call.paths : Call → List String
  | .create path _ => [path]
  | .append path _ => [path]
  | .sync path => [path]
  | .rename source path => [source, path]
  | .remove path => [path]

theorem Call.paths_of_isOn {call : Call} {path : String} (h : call.IsOn path) :
    call.paths = [path] := by
  cases call with
  | rename source other => exact h.elim
  | _ => exact congrArg (fun other => [other]) h

theorem Call.isOn_or_rename (call : Call) :
    (∃ path, call.IsOn path) ∨ ∃ source path, call = .rename source path := by
  cases call with
  | rename source path => exact Or.inr ⟨source, path, rfl⟩
  | _ path => exact Or.inl ⟨path, rfl⟩

theorem within_rename {reach : Location → Prop} {disk after : Disk} {source path : String}
    (hsource : ∀ place, disk.Leads source place → reach place)
    (hpath : ∀ place, disk.Leads path place → reach place)
    (h : disk.rename source path = .ok after) : Within reach disk after := by
  obtain ⟨old, new, content, mode, hold, hnew, hnode, hnot, -, -, rfl⟩ := rename_eq_ok h
  have herased : SameBut old.place disk (disk.erase old.place) := sameBut_erase (by simp [hnode])
  have hnot' : (disk.erase old.place).node? new.place ≠ some .directory := by
    rw [ne_eq, herased.sameFolders]
    exact hnot
  have hput := sameBut_put hnot' content mode
  exact (herased.within (hsource _ ⟨old, hold, rfl⟩)).trans
    (hput.within (hpath _ ⟨new, hnew, rfl⟩))

/-- A call changes nothing but what its paths lead to. -/
theorem within_perform {reach : Location → Prop} {disk : Disk} {call : Call}
    (hreach : ∀ path ∈ call.paths, ∀ place, disk.Leads path place → reach place)
    (hazard : Hazard) : Within reach disk (perform hazard disk call).2 := by
  rcases call.isOn_or_rename with ⟨path, hon⟩ | ⟨source, path, rfl⟩
  · rw [Call.paths_of_isOn hon] at hreach
    exact (touches_perform hazard disk hon).within.mono (hreach path (List.mem_singleton_self path))
  · rcases hperform : perform hazard disk (.rename source path) with ⟨fault | ⟨⟩, after⟩
    · rw [perform_rename_error hperform]
      exact .refl _ _
    · exact within_rename (hreach source List.mem_cons_self)
        (hreach path (List.mem_cons_of_mem _ List.mem_cons_self)) (effect_of_perform hperform)

theorem within_performAll {reach : Location → Prop} {disk : Disk} {calls : List Call}
    (hreach : ∀ call ∈ calls, ∀ path ∈ call.paths, ∀ place, disk.Leads path place → reach place)
    (hazard : Hazard) : Within reach disk (performAll hazard disk calls).2 := by
  induction calls generalizing disk with
  | nil => exact .refl _ _
  | cons call calls ih =>
      have hfirst := within_perform (hreach call List.mem_cons_self) hazard
      rw [performAll]
      rcases hperform : perform hazard disk call with ⟨fault | ⟨⟩, after⟩
      · rw [hperform] at hfirst
        exact hfirst
      · rw [hperform] at hfirst
        -- Where the later paths lead has not changed, since the directories have not.
        refine hfirst.trans (ih ?_)
        intro other hother path hpath place hleads
        exact hreach other (List.mem_cons_of_mem call hother) path hpath place
          ((hfirst.folders.leads_iff path place).1 hleads)

end Disk
end RealmTokens
