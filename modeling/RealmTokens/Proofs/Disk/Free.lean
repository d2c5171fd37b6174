/-
Places for files.

`Free` says that a path leads to a place where a file can be, and what a call does there is then an
equation about the node at that place.  Main statement: calls each of which does its work behind the ones
in front of it fail only where one of them is interrupted.
-/
import RealmTokens.Proofs.Disk.Ways

namespace RealmTokens
namespace Disk

/-! ## Places for files -/

/-- Whether a path leads to a place that is no directory, under a name that a file can have. -/
structure Free (disk : Disk) (path : String) (target : Target) : Prop where
  find_eq : disk.find path = .ok target
  slash_eq : target.slash = false
  short : ¬maxName < target.last.utf8ByteSize
  not_directory : disk.node? target.place ≠ some .directory

namespace Free

variable {a b disk : Disk} {path : String} {target : Target}

theorem congr (h : Free a path target) (hsame : SameFolders a b) : Free b path target := by
  refine ⟨hsame.find_eq_ok h.find_eq, h.slash_eq, h.short, ?_⟩
  rw [ne_eq, hsame]
  exact h.not_directory

theorem look_eq (h : Free disk path target) :
    disk.look target = .ok (disk.node? target.place) :=
  if_neg h.short

theorem modeOf_eq (h : Free disk path target) :
    disk.modeOf path =
      match disk.node? target.place with
      | none => .error .notFound
      | some .directory => .ok 0o755
      | some (.file _ mode) => .ok mode := by
  rw [modeOf, h.find_eq]
  show Except.bind (disk.look target) _ = _
  rw [h.look_eq, h.slash_eq]
  cases disk.node? target.place with
  | none => rfl
  | some node => cases node <;> rfl

/-- What a free place holds is a file, if anything. -/
theorem node?_cases (h : Free disk path target) :
    disk.node? target.place = none ∨
      ∃ content mode, disk.node? target.place = some (.file content mode) := by
  cases hnode : disk.node? target.place with
  | none => exact Or.inl rfl
  | some node =>
      cases node with
      | directory => exact absurd hnode h.not_directory
      | file content mode => exact Or.inr ⟨content, mode, rfl⟩

theorem create_eq (h : Free disk path target) (hnamed : target.named = true) (mode : Nat) :
    disk.create path mode =
      match disk.node? target.place with
      | none => .ok (disk.put target.place (.file [] mode))
      | some .directory => .error .isADirectory
      | some (.file _ old) => .ok (disk.put target.place (.file [] old)) := by
  rw [create, h.find_eq]
  show (if (!target.named || target.slash) = true then _ else Except.bind (disk.look target) _) = _
  rw [hnamed, h.slash_eq, h.look_eq]
  rfl

theorem exists_create (h : Free disk path target) (hnamed : target.named = true) (mode : Nat) :
    ∃ after kept, disk.create path mode = .ok after ∧ SameFolders disk after ∧
      after.node? target.place = some (.file [] kept) := by
  have hcreate := h.create_eq hnamed mode
  rcases h.node?_cases with hnode | ⟨content, old, hnode⟩
  · rw [hnode] at hcreate
    exact ⟨_, mode, hcreate, (sameBut_put h.not_directory [] mode).sameFolders,
      node?_put_self h.not_directory _⟩
  · rw [hnode] at hcreate
    exact ⟨_, old, hcreate, (sameBut_put h.not_directory [] old).sameFolders,
      node?_put_self h.not_directory _⟩

theorem exists_append (h : Free disk path target) {content : List UInt8} {mode : Nat}
    (hnode : disk.node? target.place = some (.file content mode)) (bytes : List UInt8) :
    ∃ after, disk.append path bytes = .ok after ∧ SameFolders disk after ∧
      after.node? target.place = some (.file (content ++ bytes) mode) := by
  refine ⟨disk.put target.place (.file (content ++ bytes) mode), ?_,
    (sameBut_put h.not_directory _ mode).sameFolders, node?_put_self h.not_directory _⟩
  rw [append, h.find_eq]
  show Except.bind (disk.look target) _ = _
  rw [h.look_eq, hnode]
  rfl

theorem rename_eq {source : String} {old new : Target} (hold : Free disk source old)
    (hnew : Free disk path new) {content : List UInt8} {mode : Nat}
    (hnode : disk.node? old.place = some (.file content mode)) :
    disk.rename source path =
      match disk.node? new.place with
      | some .directory => .error .isADirectory
      | _ => .ok ((disk.erase old.place).put new.place (.file content mode)) := by
  rw [rename, hold.find_eq, hnew.find_eq]
  show Except.bind (disk.look old) _ = _
  rw [hold.look_eq, hnode]
  show Except.bind (disk.look new) _ = _
  rw [hnew.look_eq]
  show (if (old.slash || new.slash) = true then _ else _) = _
  rw [hold.slash_eq, hnew.slash_eq]
  rfl

theorem exists_rename {source : String} {old new : Target} (hold : Free disk source old)
    (hnew : Free disk path new) {content : List UInt8} {mode : Nat}
    (hnode : disk.node? old.place = some (.file content mode)) :
    ∃ after, disk.rename source path = .ok after := by
  have hrename := hold.rename_eq hnew hnode
  rcases hnew.node?_cases with hplace | ⟨content', mode', hplace⟩
  · rw [hplace] at hrename
    exact ⟨_, hrename⟩
  · rw [hplace] at hrename
    exact ⟨_, hrename⟩

theorem remove_eq (h : Free disk path target) :
    disk.remove path =
      match disk.node? target.place with
      | none => .error .notFound
      | some .directory => .error .isADirectory
      | some (.file _ _) => .ok (disk.erase target.place) := by
  rw [remove, h.find_eq]
  show Except.bind (disk.look target) _ = _
  rw [h.look_eq, h.slash_eq]
  rfl

end Free

theorem free_of_create {disk after : Disk} {path : String} {mode : Nat}
    (h : disk.create path mode = .ok after) :
    ∃ target, Free disk path target ∧ target.named = true := by
  obtain ⟨target, hfind, h⟩ := bind_eq_ok h
  split at h
  · cases h
  case isFalse hplain =>
    rw [Bool.or_eq_true, not_or, Bool.not_eq_true, Bool.not_eq_true, Bool.not_eq_false'] at hplain
    obtain ⟨node, hlook, h⟩ := bind_eq_ok h
    obtain ⟨hshort, hnode⟩ := look_eq_ok hlook
    refine ⟨target, ⟨hfind, hplain.2, hshort, ?_⟩, hplain.1⟩
    rintro hdirectory
    rw [← hnode, hdirectory] at h
    cases h

theorem free_of_rename {disk after : Disk} {source path : String}
    (h : disk.rename source path = .ok after) : ∃ target, Free disk path target := by
  obtain ⟨-, new, -, -, -, hnew, -, hnot, hshort, hslash, -⟩ := rename_eq_ok h
  exact ⟨new, hnew, hslash, hshort, hnot⟩

/-! ## Calls that succeed unless they are interrupted -/

/-- Calls each of which does its work where the ones in front of it have done theirs. -/
inductive Succeeds : Disk → List Call → Prop where
  | nil (disk : Disk) : Succeeds disk []
  | cons {disk after : Disk} {call : Call} {rest : List Call}
      (heffect : effect disk call = .ok after) (hrest : Succeeds after rest) :
      Succeeds disk (call :: rest)

theorem Succeeds.performAll_fst {disk : Disk} {calls : List Call} (h : Succeeds disk calls)
    (hazard : Hazard) :
    (performAll hazard disk calls).1 =
      match calls.findSome? (hazard 0) with
      | none => .ok ()
      | some interruption => .error interruption.fault := by
  induction h with
  | nil disk => rfl
  | @cons disk after call rest heffect _ ih =>
      rw [performAll, List.findSome?_cons, perform]
      cases hcall : hazard 0 call with
      | some interruption => rfl
      | none =>
          simp only [heffect]
          exact ih

end Disk

end RealmTokens
