/-
What a call does to the disk.

Main statement: a call on one path, whether it succeeds, fails or is interrupted, changes the disk at
the place of that path only, and there neither makes nor replaces a directory.
-/
import RealmTokens.Disk.Protocol
import RealmTokens.Proofs.Disk.Resolution
import RealmTokens.Proofs.Lists

namespace RealmTokens
namespace Disk

/-! ## Nodes after a change -/

theorem node?_erase (disk : Disk) (place other : Location) :
    (disk.erase place).node? other =
      if other.isAbove then some .directory
      else if other = place then none else disk.node? other := by
  unfold node? erase
  split
  · rfl
  · exact lookup_filter_ne place other disk.nodes

theorem node?_put (disk : Disk) (place other : Location) (node : Node) :
    (disk.put place node).node? other =
      if other.isAbove then some .directory
      else if other = place then some node else disk.node? other := by
  by_cases habove : other.isAbove = true
  · rw [node?, if_pos habove, if_pos habove]
  rw [node?, if_neg habove, if_neg habove, put, List.lookup_cons]
  by_cases ho : other = place
  · rw [if_pos ho, beq_iff_eq.2 ho]
  · have herase := disk.node?_erase place other
    rw [if_neg habove, if_neg ho, node?, if_neg habove] at herase
    rw [if_neg ho, beq_eq_false_iff_ne.2 ho]
    exact herase

theorem isAbove_of_not_directory {disk : Disk} {place : Location}
    (h : disk.node? place ≠ some .directory) : place.isAbove = false := by
  rw [← Bool.not_eq_true]
  intro habove
  exact h (by rw [node?, if_pos habove])

theorem node?_put_self {disk : Disk} {place : Location} (h : disk.node? place ≠ some .directory)
    (node : Node) : (disk.put place node).node? place = some node := by
  rw [node?_put, isAbove_of_not_directory h]
  simp

theorem sameBut_put {disk : Disk} {place : Location} (h : disk.node? place ≠ some .directory)
    (content : List UInt8) (mode : Nat) :
    SameBut place disk (disk.put place (.file content mode)) := by
  refine ⟨?_, h, ?_⟩
  · intro other hne
    rw [node?_put, if_neg hne, node?]
    split <;> rfl
  · rw [node?_put_self h]
    exact fun heq => nomatch heq

theorem sameBut_erase {disk : Disk} {place : Location} (h : disk.node? place ≠ some .directory) :
    SameBut place disk (disk.erase place) := by
  refine ⟨?_, h, ?_⟩
  · intro other hne
    rw [node?_erase, if_neg hne, node?]
    split <;> rfl
  · rw [node?_erase, isAbove_of_not_directory h]
    simp

/-! ## Successful calls -/

theorem look_eq_ok {disk : Disk} {target : Target} {node : Option Node}
    (h : disk.look target = .ok node) :
    ¬maxName < target.last.utf8ByteSize ∧ disk.node? target.place = node := by
  unfold look at h
  split at h
  · cases h
  · cases h
    exact ⟨by assumption, rfl⟩

theorem read_eq_ok {disk : Disk} {path : String} {content : List UInt8}
    (h : disk.read path = .ok content) :
    ∃ target mode, disk.find path = .ok target ∧
      disk.node? target.place = some (.file content mode) ∧ disk.modeOf path = .ok mode := by
  obtain ⟨target, hfind, h⟩ := bind_eq_ok h
  obtain ⟨node, hlook, h⟩ := bind_eq_ok h
  obtain ⟨-, hnode⟩ := look_eq_ok hlook
  match node, h with
  | some (.file other mode), h =>
      dsimp only at h
      split at h
      · cases h
      case isFalse hslash =>
        cases h
        refine ⟨target, mode, hfind, hnode, ?_⟩
        rw [modeOf, hfind]
        show Except.bind (disk.look target) _ = _
        rw [hlook]
        show (if target.slash = true then _ else _) = _
        rw [if_neg hslash]
        rfl

/-- Under a name that is too long nothing can be done. -/
theorem look_of_long {target : Target} (h : maxName < target.last.utf8ByteSize) (disk : Disk) :
    disk.look target = .error .nameTooLong :=
  if_pos h

theorem create_ne_ok_of_long {disk : Disk} {path : String} {target : Target}
    (hfind : disk.find path = .ok target) (hlong : maxName < target.last.utf8ByteSize) (mode : Nat)
    (after : Disk) : disk.create path mode ≠ .ok after := by
  rw [create, hfind]
  show (if _ then _ else Except.bind (disk.look target) _) ≠ _
  rw [look_of_long hlong]
  split <;> exact fun heq => nomatch heq

theorem remove_ne_ok_of_long {disk : Disk} {path : String} {target : Target}
    (hfind : disk.find path = .ok target) (hlong : maxName < target.last.utf8ByteSize)
    (after : Disk) : disk.remove path ≠ .ok after := by
  rw [remove, hfind]
  show Except.bind (disk.look target) _ ≠ _
  rw [look_of_long hlong]
  exact fun heq => nomatch heq

/-- A file that is there already keeps its permission bits. -/
theorem create_eq_ok {disk after : Disk} {path : String} {mode : Nat}
    (h : disk.create path mode = .ok after) :
    ∃ target kept, disk.find path = .ok target ∧ disk.node? target.place ≠ some .directory ∧
      (disk.node? target.place = none ∧ kept = mode ∨
        ∃ content, disk.node? target.place = some (.file content kept)) ∧
      after = disk.put target.place (.file [] kept) := by
  obtain ⟨target, hfind, h⟩ := bind_eq_ok h
  split at h
  · cases h
  · obtain ⟨node, hlook, h⟩ := bind_eq_ok h
    obtain ⟨-, hnode⟩ := look_eq_ok hlook
    cases node with
    | none =>
        cases h
        exact ⟨target, mode, hfind, by simp [hnode], Or.inl ⟨hnode, rfl⟩, rfl⟩
    | some node =>
        cases node with
        | directory => cases h
        | file content old =>
            cases h
            exact ⟨target, old, hfind, by simp [hnode], Or.inr ⟨content, hnode⟩, rfl⟩

theorem append_eq_ok {disk after : Disk} {path : String} {bytes : List UInt8}
    (h : disk.append path bytes = .ok after) :
    ∃ target content mode, disk.find path = .ok target ∧
      disk.node? target.place = some (.file content mode) ∧
      after = disk.put target.place (.file (content ++ bytes) mode) := by
  obtain ⟨target, hfind, h⟩ := bind_eq_ok h
  obtain ⟨node, hlook, h⟩ := bind_eq_ok h
  obtain ⟨-, hnode⟩ := look_eq_ok hlook
  match node, h with
  | some (.file content mode), h =>
      cases h
      exact ⟨target, content, mode, hfind, hnode, rfl⟩

theorem remove_eq_ok {disk after : Disk} {path : String} (h : disk.remove path = .ok after) :
    ∃ target content mode, disk.find path = .ok target ∧
      disk.node? target.place = some (.file content mode) ∧ after = disk.erase target.place := by
  obtain ⟨target, hfind, h⟩ := bind_eq_ok h
  obtain ⟨node, hlook, h⟩ := bind_eq_ok h
  obtain ⟨-, hnode⟩ := look_eq_ok hlook
  match node, h with
  | some (.file content mode), h =>
      dsimp only at h
      split at h
      · cases h
      · cases h
        exact ⟨target, content, mode, hfind, hnode, rfl⟩

theorem rename_eq_ok {disk after : Disk} {source path : String}
    (h : disk.rename source path = .ok after) :
    ∃ old new content mode, disk.find source = .ok old ∧ disk.find path = .ok new ∧
      disk.node? old.place = some (.file content mode) ∧
      disk.node? new.place ≠ some .directory ∧ ¬maxName < new.last.utf8ByteSize ∧
      new.slash = false ∧ after = (disk.erase old.place).put new.place (.file content mode) := by
  obtain ⟨old, hold, h⟩ := bind_eq_ok h
  obtain ⟨new, hnew, h⟩ := bind_eq_ok h
  obtain ⟨node, hlook, h⟩ := bind_eq_ok h
  obtain ⟨-, hnode⟩ := look_eq_ok hlook
  match node, h with
  | some (.file content mode), h =>
      obtain ⟨replaced, hreplaced, h⟩ := bind_eq_ok h
      obtain ⟨hshort, hplace⟩ := look_eq_ok hreplaced
      by_cases hslash : (old.slash || new.slash) = true
      · rw [if_pos hslash] at h
        cases h
      · rw [if_neg hslash] at h
        rw [Bool.or_eq_true, not_or, Bool.not_eq_true, Bool.not_eq_true] at hslash
        match replaced, h with
        | none, h =>
            cases h
            exact ⟨old, new, content, mode, hold, hnew, hnode, by simp [hplace], hshort, hslash.2,
              rfl⟩
        | some (.file other bits), h =>
            cases h
            exact ⟨old, new, content, mode, hold, hnew, hnode, by simp [hplace], hshort, hslash.2,
              rfl⟩

/-! ## Calls on one path -/

/-- Whether a call is about the file at one path only. -/
def Call.IsOn (path : String) : Call → Prop
  | .create other _ => other = path
  | .append other _ => other = path
  | .sync other => other = path
  | .rename _ _ => False
  | .remove other => other = path

/-- Whether nothing changes but what a path leads to, and no directory comes or goes. -/
def Touches (path : String) (disk after : Disk) : Prop :=
  after = disk ∨ ∃ target, disk.find path = .ok target ∧ SameBut target.place disk after

theorem touches_append {disk after : Disk} {path : String} {bytes : List UInt8}
    (h : disk.append path bytes = .ok after) : Touches path disk after := by
  obtain ⟨target, content, mode, hfind, hnode, rfl⟩ := append_eq_ok h
  exact Or.inr ⟨target, hfind, sameBut_put (by simp [hnode]) _ _⟩

theorem touches_effect {disk after : Disk} {path : String} {call : Call} (hon : call.IsOn path)
    (h : effect disk call = .ok after) : Touches path disk after := by
  cases call with
  | create other mode =>
      cases hon
      obtain ⟨target, kept, hfind, hnode, -, rfl⟩ := create_eq_ok h
      exact Or.inr ⟨target, hfind, sameBut_put hnode _ _⟩
  | append other bytes =>
      cases hon
      exact touches_append h
  | sync other =>
      cases h
      exact Or.inl rfl
  | rename source other => exact hon.elim
  | remove other =>
      cases hon
      obtain ⟨target, content, mode, hfind, hnode, rfl⟩ := remove_eq_ok h
      exact Or.inr ⟨target, hfind, sameBut_erase (by simp [hnode])⟩

theorem touches_remains (disk : Disk) {path : String} {call : Call} (hon : call.IsOn path)
    (written : Nat) : Touches path disk (remains disk written call) := by
  cases call with
  | append other bytes =>
      cases hon
      cases happend : disk.append path (bytes.take written) with
      | error fault =>
          simp only [remains, happend]
          exact Or.inl rfl
      | ok after =>
          simp only [remains, happend]
          exact touches_append happend
  | _ => exact Or.inl rfl

theorem touches_perform (hazard : Hazard) (disk : Disk) {path : String} {call : Call}
    (hon : call.IsOn path) : Touches path disk (perform hazard disk call).2 := by
  unfold perform
  split
  · exact touches_remains disk hon _
  · split
    case h_1 h => exact touches_effect hon h
    case h_2 => exact Or.inl rfl

/-- A call that cannot succeed, and does nothing by halves, does nothing. -/
theorem perform_of_effect_ne_ok (hazard : Hazard) (disk : Disk) (call : Call)
    (hwhole : ∀ written, remains disk written call = disk)
    (h : ∀ after, effect disk call ≠ .ok after) :
    ∃ fault, perform hazard disk call = (.error fault, disk) := by
  unfold perform
  split
  case h_1 interruption _ =>
    rw [hwhole]
    exact ⟨interruption.fault, rfl⟩
  case h_2 =>
    split
    case h_1 after heffect => exact absurd heffect (h after)
    case h_2 fault _ => exact ⟨fault, rfl⟩

theorem effect_of_perform {hazard : Hazard} {disk after : Disk} {call : Call}
    (h : perform hazard disk call = (.ok (), after)) : effect disk call = .ok after := by
  unfold perform at h
  split at h
  · cases h
  · split at h
    case h_1 heffect =>
      cases h
      exact heffect
    case h_2 => cases h

/-- A call that fails to give a file another name does nothing. -/
theorem perform_rename_error {hazard : Hazard} {disk after : Disk} {source path : String}
    {fault : Fault} (h : perform hazard disk (.rename source path) = (.error fault, after)) :
    after = disk := by
  unfold perform at h
  split at h
  · cases h
    rfl
  · split at h
    · cases h
    · cases h
      rfl

theorem performAll_singleton (hazard : Hazard) (disk : Disk) (call : Call) :
    performAll hazard disk [call] = perform hazard disk call := by
  rw [performAll]
  rcases perform hazard disk call with ⟨fault | ⟨⟩, after⟩ <;> rfl

/-! ## Calls beside a path -/

/-- Whether a path leads to a file of this content. -/
def Holds (disk : Disk) (path : String) (content : List UInt8) : Prop :=
  ∃ target mode, disk.find path = .ok target ∧
    disk.node? target.place = some (.file content mode)

namespace Named

variable {path name ending : String} {middle trailing : List String} {disk after : Disk}

/-- Whatever is done to the file beside, a path reads as before. -/
theorem read_of_touches (h : Named path name middle trailing) (he : Lengthens ending)
    (htouches : Touches (beside path ending) disk after) : after.read path = disk.read path := by
  rcases htouches with rfl | ⟨target, hfind, hsame⟩
  · rfl
  · obtain ⟨here, hfolder, hplace⟩ := h.place_of_find_beside he hfind
    rw [hplace] at hsame
    exact h.read_congr hfolder hsame (longer_ne_self he)

theorem holds_of_create (h : Named path name middle trailing) (he : Lengthens ending) {mode : Nat}
    (hcreate : disk.create (beside path ending) mode = .ok after) :
    after.Holds (beside path ending) [] := by
  obtain ⟨target, kept, hfind, hnot, -, rfl⟩ := create_eq_ok hcreate
  obtain ⟨here, hfolder, -⟩ := h.place_of_find_beside he hfind
  refine ⟨target, kept, ?_, node?_put_self hnot _⟩
  rw [h.find_beside_congr he hfolder (sameBut_put hnot [] kept), hfind]

theorem holds_of_append (h : Named path name middle trailing) (he : Lengthens ending)
    {content bytes : List UInt8} (hholds : disk.Holds (beside path ending) content)
    (happend : disk.append (beside path ending) bytes = .ok after) :
    after.Holds (beside path ending) (content ++ bytes) := by
  obtain ⟨target, mode, hfind, hnode⟩ := hholds
  obtain ⟨target', content', mode', hfind', hnode', rfl⟩ := append_eq_ok happend
  rw [hfind] at hfind'
  cases hfind'
  rw [hnode] at hnode'
  cases hnode'
  have hnot : disk.node? target.place ≠ some .directory := by simp [hnode]
  obtain ⟨here, hfolder, -⟩ := h.place_of_find_beside he hfind
  refine ⟨target, mode, ?_, node?_put_self hnot _⟩
  rw [h.find_beside_congr he hfolder (sameBut_put hnot _ _), hfind]

/-- A file that takes the name of a path is what the path reads as. -/
theorem read_of_rename (h : Named path name middle trailing) (he : Lengthens ending)
    {content : List UInt8} (hholds : disk.Holds (beside path ending) content)
    (hrename : disk.rename (beside path ending) path = .ok after) :
    after.read path = .ok content := by
  obtain ⟨old, mode, hold, hnode⟩ := hholds
  obtain ⟨old', new, content', mode', hold', hnew, hnode', hnot, hshort, hplain, rfl⟩ :=
    rename_eq_ok hrename
  rw [hold] at hold'
  cases hold'
  rw [hnode] at hnode'
  cases hnode'
  obtain ⟨here, hfolder, hplace⟩ := h.place_of_find_beside he hold
  -- The file leaves its old place before it comes to the new one, and neither step changes
  -- where the path leads.
  have herased : SameBut old.place disk (disk.erase old.place) :=
    sameBut_erase (by simp [hnode])
  have hfind : (disk.erase old.place).find path = .ok new := by
    rw [hplace] at herased ⊢
    rw [h.find_congr hfolder herased (longer_ne_self he), hnew]
  have hnot' : (disk.erase old.place).node? new.place ≠ some .directory := by
    by_cases hsame : new.place = old.place
    · rw [hsame]
      exact herased.right_not
    · rw [herased.node?_eq _ hsame]
      exact hnot
  have hput := sameBut_put hnot' content mode
  rw [read, h.find_congr_self hfind hput]
  show Except.bind (look _ new) _ = _
  rw [look, if_neg hshort, node?_put_self hnot']
  show (if new.slash then _ else _) = _
  rw [hplain]
  rfl

end Named

end Disk
end RealmTokens
