/-
Stores of stores.

A tree of stores is read and changed at its first leaf, and emptied leaf by leaf.  What the other leaves
write does not disturb the first: none of them writes before the first has been saved once, and from then
on its changes fail only where they are interrupted.  Main statement: the first leaf of a tree in use is
the store that it would be by itself, and a tree is emptied up to the first leaf that fails.
-/
import RealmTokens.Proofs.Store.Persistence
import RealmTokens.Proofs.Store.Writable

namespace RealmTokens
namespace Store

open Disk (SameFolders)
open Token (Entry Key)

/-! ## Leaves -/

/-- The leaf that a store is read at. -/
def first : Store → Store
  | .delegating primary _ => primary.first
  | store => store

/-- A store with all of its leaves empty. -/
def emptied : Store → Store
  | .memory _ => .memory Entries.empty
  | .file path _ => .file path Entries.empty
  | .delegating primary replica => .delegating primary.emptied replica.emptied

theorem leaves_eq (s : Store) : s.leaves = s.first :: s.leaves.tail := by
  induction s with
  | memory entries => rfl
  | file path entries => rfl
  | delegating primary replica ihp _ =>
      rw [leaves, ihp]
      rfl

theorem leaves_ne_nil (s : Store) : s.leaves ≠ [] := by
  rw [leaves_eq]
  exact List.cons_ne_nil _ _

theorem entries_first (s : Store) : s.first.entries = s.entries := by
  induction s with
  | memory entries => rfl
  | file path entries => rfl
  | delegating primary replica ihp _ => exact ihp

theorem toList_first (s : Store) : s.first.toList = s.toList := by
  rw [toList, toList, entries_first]

theorem leaves_emptied (s : Store) : s.emptied.leaves = s.leaves.map emptied := by
  induction s with
  | memory entries => rfl
  | file path entries => rfl
  | delegating primary replica ihp ihr => rw [emptied, leaves, leaves, ihp, ihr, List.map_append]

theorem leaves_of_mem_leaves {s leaf : Store} (h : leaf ∈ s.leaves) : leaf.leaves = [leaf] := by
  induction s with
  | memory entries =>
      rw [List.mem_singleton.1 h]
      rfl
  | file path entries =>
      rw [List.mem_singleton.1 h]
      rfl
  | delegating primary replica ihp ihr =>
      rcases List.mem_append.1 h with h | h
      · exact ihp h
      · exact ihr h

theorem entries_of_mem_leaves_emptied {s leaf : Store} (h : leaf ∈ s.emptied.leaves) :
    leaf.entries = Entries.empty := by
  induction s with
  | memory entries =>
      rw [List.mem_singleton.1 h]
      rfl
  | file path entries =>
      rw [List.mem_singleton.1 h]
      rfl
  | delegating primary replica ihp ihr =>
      rcases List.mem_append.1 h with h | h
      · exact ihp h
      · exact ihr h

theorem clear_file (hazard : Hazard) (path : String) (entries : Entries) (disk : Disk) :
    (Store.file path entries).clear hazard disk =
      (Store.file path entries).change hazard (fun _ => Entries.empty) disk := rfl

theorem clear_first (hazard : Hazard) (s : Store) (disk : Disk) :
    s.first.clear hazard disk = s.first.change hazard (fun _ => Entries.empty) disk := by
  induction s with
  | memory entries => rfl
  | file path entries => rfl
  | delegating primary replica ihp _ => exact ihp

/-! ## Changes of the first leaf -/

/-- Whether a use of a store does what it does to the first leaf, and nothing else. -/
structure AtFirst (s : Store) (whole part : Outcome) : Prop where
  result_eq : whole.result = part.result
  disk_eq : whole.disk = part.disk
  first_eq : whole.store.first = part.store
  tail_eq : whole.store.leaves.tail = s.leaves.tail

theorem atFirst_change (hazard : Hazard) (f : Entries → Entries) (s : Store) (disk : Disk) :
    AtFirst s (s.change hazard f disk) (s.first.change hazard f disk) := by
  induction s with
  | memory entries => exact ⟨rfl, rfl, rfl, rfl⟩
  | file path entries =>
      show AtFirst _ _ ((Store.file path entries).change hazard f disk)
      rcases change_file_cases hazard f path entries disk with
        ⟨_, -, hchange⟩ | ⟨_, _, -, hchange⟩
      · rw [hchange]
        exact ⟨rfl, rfl, rfl, rfl⟩
      · rw [hchange]
        exact ⟨rfl, rfl, rfl, rfl⟩
  | delegating primary replica ihp _ =>
      refine ⟨ihp.result_eq, ihp.disk_eq, ihp.first_eq, ?_⟩
      show ((primary.change hazard f disk).store.leaves ++ replica.leaves).tail =
        (primary.leaves ++ replica.leaves).tail
      rw [List.tail_append_of_ne_nil (leaves_ne_nil _), List.tail_append_of_ne_nil (leaves_ne_nil _),
        ihp.tail_eq]

theorem atFirst_eraseAll (hazard : Hazard) (s : Store) (disk : Disk) (doomed : List Entry) :
    AtFirst s (s.eraseAll hazard disk doomed) (s.first.eraseAll hazard disk doomed) := by
  induction doomed generalizing hazard s disk with
  | nil => exact ⟨rfl, rfl, rfl, rfl⟩
  | cons e rest ih =>
      cases hkey : Key.ofEntry? e with
      | error failure =>
          simp only [eraseAll, hkey]
          exact ih hazard s disk
      | ok key =>
          have hstep : AtFirst s (s.erase hazard disk key) (s.first.erase hazard disk key) :=
            atFirst_change hazard _ s disk
          simp only [eraseAll, hkey, hstep.result_eq]
          cases hresult : (s.first.erase hazard disk key).result with
          | error failure => exact ⟨rfl, hstep.disk_eq, hstep.first_eq, hstep.tail_eq⟩
          | ok _ =>
              have hrest := ih hazard.later (s.erase hazard disk key).store
                (s.erase hazard disk key).disk
              rw [hstep.first_eq, hstep.disk_eq] at hrest
              dsimp only
              rw [hstep.disk_eq]
              exact ⟨hrest.result_eq, hrest.disk_eq, hrest.first_eq,
                hrest.tail_eq.trans hstep.tail_eq⟩

theorem atFirst_run {operation : Operation} (h : operation ≠ .mutate .clear) (hazard : Hazard)
    (s : Store) (disk : Disk) :
    AtFirst s (operation.run hazard s disk) (operation.run hazard s.first disk) := by
  cases operation with
  | mutate m =>
      cases m with
      | insert key entry => exact atFirst_change hazard _ s disk
      | erase key => exact atFirst_change hazard _ s disk
      | clear => exact absurd rfl h
  | clearTokensForUser userId =>
      have htokens : s.first.tokensForUser userId = s.tokensForUser userId := by
        rw [tokensForUser, tokensForUser, toList_first]
      simp only [Operation.run, clearTokensForUser, htokens]
      exact atFirst_eraseAll hazard s disk _

/-! ## Emptying leaf by leaf -/

/-- Empties stores one after the other, up to the first that fails. -/
def clearEach (hazard : Hazard) (disk : Disk) :
    List Store → Except Failure Unit × List Store × Disk
  | [] => (.ok (), [], disk)
  | leaf :: rest =>
      let outcome := leaf.clear hazard disk
      match outcome.result with
      | .error failure => (.error failure, outcome.store :: rest, outcome.disk)
      | .ok () =>
          let others := clearEach hazard.later outcome.disk rest
          (others.1, outcome.store :: others.2.1, others.2.2)

theorem clearEach_append (hazard : Hazard) (disk : Disk) (xs ys : List Store) :
    clearEach hazard disk (xs ++ ys) =
      match clearEach hazard disk xs with
      | (.error failure, stores, after) => (.error failure, stores ++ ys, after)
      | (.ok (), stores, after) =>
          let others := clearEach (hazard.behind xs.length) after ys
          (others.1, stores ++ others.2.1, others.2.2) := by
  induction xs generalizing hazard disk with
  | nil => rfl
  | cons leaf rest ih =>
      rw [List.cons_append, clearEach, clearEach]
      dsimp only
      cases (leaf.clear hazard disk).result with
      | error failure => rfl
      | ok _ =>
          dsimp only
          rw [ih]
          rcases clearEach hazard.later (leaf.clear hazard disk).disk rest with
            ⟨failure | ⟨⟩, stores, after⟩ <;> rfl

/-- A tree is emptied as the list of its leaves is. -/
theorem clearEach_leaves (hazard : Hazard) (s : Store) (disk : Disk) :
    clearEach hazard disk s.leaves =
      ((s.clear hazard disk).result, (s.clear hazard disk).store.leaves,
        (s.clear hazard disk).disk) := by
  induction s generalizing hazard disk with
  | memory entries => rfl
  | file path entries =>
      show clearEach hazard disk [.file path entries] = _
      rw [clearEach, clear_file]
      rcases change_file_cases hazard (fun _ => Entries.empty) path entries disk with
        ⟨_, -, hchange⟩ | ⟨_, _, -, hchange⟩
      · rw [hchange]
        rfl
      · rw [hchange]
        rfl
  | delegating primary replica ihp ihr =>
      rw [leaves, clearEach_append, ihp, clear]
      dsimp only
      cases hresult : (primary.clear hazard disk).result with
      | error failure => rfl
      | ok _ =>
          dsimp only
          rw [ihr]
          rfl

theorem clear_store_of_ok {hazard : Hazard} {s : Store} {disk : Disk}
    (h : (s.clear hazard disk).result = .ok ()) : (s.clear hazard disk).store = s.emptied := by
  induction s generalizing hazard disk with
  | memory entries => exact congrArg Store.memory hazard.arrange_empty
  | file path entries =>
      rw [clear_file] at h ⊢
      rcases change_file_cases hazard (fun _ => Entries.empty) path entries disk with
        ⟨_, -, hchange⟩ | ⟨_, _, -, hchange⟩
      · rw [hchange, emptied, hazard.arrange_empty]
      · rw [hchange] at h
        cases h
  | delegating primary replica ihp ihr =>
      rw [clear] at h ⊢
      dsimp only at h ⊢
      cases hresult : (primary.clear hazard disk).result with
      | error failure =>
          rw [hresult] at h
          cases h
      | ok _ =>
          rw [hresult] at h
          rw [emptied, ← ihp hresult, ← ihr h]

/-- A leaf that fails to be emptied keeps its entries. -/
theorem clear_store_of_error {hazard : Hazard} {leaf : Store} {disk : Disk} {failure : Failure}
    (hleaf : leaf.leaves = [leaf]) (h : (leaf.clear hazard disk).result = .error failure) :
    (leaf.clear hazard disk).store = leaf := by
  cases leaf with
  | memory entries => cases h
  | file path entries =>
      rw [clear_file] at h ⊢
      rcases change_file_cases hazard (fun _ => Entries.empty) path entries disk with
        ⟨_, -, hchange⟩ | ⟨_, _, -, hchange⟩
      · rw [hchange] at h
        cases h
      · rw [hchange]
  | delegating primary replica =>
      -- Either part has a leaf.
      have hlength := congrArg List.length hleaf
      rw [leaves, leaves_eq primary, leaves_eq replica] at hlength
      simp at hlength

/-- Where emptying fails it has come to the first store that fails. -/
theorem clearEach_error {hazard : Hazard} {disk after : Disk} {xs stores : List Store}
    {failure : Failure} (hleaves : ∀ leaf ∈ xs, leaf.leaves = [leaf])
    (h : clearEach hazard disk xs = (.error failure, stores, after)) :
    ∃ left leaf right mid, xs = left ++ leaf :: right ∧
      clearEach hazard disk left = (.ok (), left.map emptied, mid) ∧
      (leaf.clear (hazard.behind left.length) mid).result = .error failure ∧
      stores = left.map emptied ++ leaf :: right := by
  induction xs generalizing hazard disk stores with
  | nil => cases h
  | cons leaf rest ih =>
      rw [clearEach] at h
      dsimp only at h
      cases hresult : (leaf.clear hazard disk).result with
      | error own =>
          rw [hresult] at h
          cases h
          refine ⟨[], leaf, rest, disk, rfl, rfl, hresult, ?_⟩
          rw [clear_store_of_error (hleaves leaf List.mem_cons_self) hresult]
          rfl
      | ok _ =>
          rw [hresult] at h
          rcases hothers : clearEach hazard.later (leaf.clear hazard disk).disk rest with
            ⟨result, others, last⟩
          rw [hothers] at h
          cases h
          obtain ⟨left, failing, right, mid, rfl, hleft, hown, rfl⟩ :=
            ih (fun other hother => hleaves other (List.mem_cons_of_mem _ hother)) hothers
          refine ⟨leaf :: left, failing, right, mid, rfl, ?_, hown, ?_⟩
          · rw [clearEach]
            dsimp only
            rw [hresult, hleft, clear_store_of_ok hresult]
            rfl
          · rw [clear_store_of_ok hresult]
            rfl

/-! ## The first leaf by itself -/

/-- Whether only an interruption can make a change of a store fail. -/
def Steady (disk : Disk) : Store → Prop
  | .memory _ => True
  | .file path _ => Snapshot.Writable disk path
  | .delegating primary _ => primary.Steady disk

theorem Steady.congr {a b : Disk} {s : Store} (h : s.Steady a) (hsame : SameFolders a b) :
    s.Steady b := by
  induction s with
  | memory entries => trivial
  | file path entries => exact Snapshot.Writable.congr h hsame
  | delegating primary replica ihp _ => exact ihp h

theorem sameFolders_change (hazard : Hazard) (f : Entries → Entries) (s : Store) (disk : Disk) :
    SameFolders disk (s.change hazard f disk).disk := by
  induction s with
  | memory entries => exact .refl disk
  | file path entries => exact (within_change hazard f path entries disk).folders
  | delegating primary replica ihp _ => exact ihp

theorem sameFolders_clear (hazard : Hazard) (s : Store) (disk : Disk) :
    SameFolders disk (s.clear hazard disk).disk := by
  induction s generalizing hazard disk with
  | memory entries => exact .refl disk
  | file path entries => exact sameFolders_change hazard _ (.file path entries) disk
  | delegating primary replica ihp ihr =>
      rw [clear]
      dsimp only
      cases hresult : (primary.clear hazard disk).result with
      | error failure => exact ihp hazard disk
      | ok _ => exact (ihp hazard disk).trans (ihr _ _)

/-- A store that was changed once is steady. -/
theorem steady_of_change_ok {hazard : Hazard} {f : Entries → Entries} {s : Store} {disk : Disk}
    (h : (s.change hazard f disk).result = .ok ()) :
    (s.change hazard f disk).store.Steady (s.change hazard f disk).disk := by
  refine Steady.congr ?_ (sameFolders_change hazard f s disk)
  induction s with
  | memory entries => trivial
  | file path entries =>
      rcases change_file_cases hazard f path entries disk with
        ⟨_, hsave, hchange⟩ | ⟨_, _, -, hchange⟩
      · rw [hchange]
        exact Snapshot.writable_of_save_ok hsave
      · rw [hchange] at h
        cases h
  | delegating primary replica ihp _ => exact ihp h

/-- Whether a store cannot tell two disks apart: they are the same, or both let it be changed. -/
structure Alike (s : Store) (a b : Disk) : Prop where
  folders : SameFolders a b
  eq_or_steady : a = b ∨ s.Steady a

structure Agree (x y : Outcome) : Prop where
  result_eq : x.result = y.result
  store_eq : x.store = y.store
  alike : x.store.Alike x.disk y.disk

theorem Agree.refl (x : Outcome) : Agree x x :=
  ⟨rfl, rfl, .refl x.disk, Or.inl rfl⟩

theorem agree_change {s : Store} {a b : Disk} (h : s.Alike a b) (hazard : Hazard)
    (f : Entries → Entries) : Agree (s.change hazard f a) (s.change hazard f b) := by
  obtain ⟨hfolders, rfl | hsteady⟩ := h
  · exact .refl _
  have hafter : SameFolders (s.change hazard f a).disk (s.change hazard f b).disk :=
    ((sameFolders_change hazard f s a).symm.trans hfolders).trans (sameFolders_change hazard f s b)
  induction s with
  | memory entries => exact ⟨rfl, rfl, hafter, Or.inr trivial⟩
  | file path entries =>
      have hb : Snapshot.Writable b path := Snapshot.Writable.congr hsteady hfolders
      have hkept := Steady.congr hsteady (sameFolders_change hazard f (.file path entries) a)
      have hsave : (Snapshot.save hazard.calls a path (hazard.arrange (f entries))).1 =
          (Snapshot.save hazard.calls b path (hazard.arrange (f entries))).1 := by
        rw [Snapshot.Writable.save_fst hsteady, hb.save_fst]
      rcases change_file_cases hazard f path entries a with
        ⟨_, hsavea, hchangea⟩ | ⟨_, _, hsavea, hchangea⟩
      all_goals
        rcases change_file_cases hazard f path entries b with
          ⟨_, hsaveb, hchangeb⟩ | ⟨_, _, hsaveb, hchangeb⟩
        all_goals
          rw [hsavea, hsaveb] at hsave
          cases hsave
        rw [hchangea, hchangeb] at hafter ⊢
        rw [hchangea] at hkept
        exact ⟨rfl, rfl, hafter, Or.inr hkept⟩
  | delegating primary replica ihp _ =>
      have hprimary := ihp hsteady hafter
      refine ⟨hprimary.result_eq, ?_, hafter, hprimary.alike.eq_or_steady⟩
      rw [change, change, hprimary.store_eq]

theorem agree_eraseAll {s : Store} {a b : Disk} (h : s.Alike a b) (hazard : Hazard)
    (doomed : List Entry) :
    Agree (s.eraseAll hazard a doomed) (s.eraseAll hazard b doomed) := by
  induction doomed generalizing hazard s a b with
  | nil => exact ⟨rfl, rfl, h⟩
  | cons e rest ih =>
      cases hkey : Key.ofEntry? e with
      | error failure =>
          simp only [eraseAll, hkey]
          exact ih h hazard
      | ok key =>
          have hstep : Agree (s.erase hazard a key) (s.erase hazard b key) :=
            agree_change h hazard _
          simp only [eraseAll, hkey, hstep.result_eq]
          cases (s.erase hazard b key).result with
          | error failure => exact ⟨rfl, hstep.store_eq, hstep.alike⟩
          | ok _ =>
              dsimp only
              rw [← hstep.store_eq]
              exact ih hstep.alike hazard.later

theorem agree_run {s : Store} {a b : Disk} (h : s.first.Alike a b) (operation : Operation)
    (hazard : Hazard) :
    Agree (operation.run hazard s.first a) (operation.run hazard s.first b) := by
  cases operation with
  | mutate m =>
      cases m with
      | insert key entry => exact agree_change h hazard _
      | erase key => exact agree_change h hazard _
      | clear =>
          simp only [Operation.run, Mutation.run, clear_first]
          exact agree_change h hazard _
  | clearTokensForUser userId => exact agree_eraseAll h hazard _

/-- What emptying a tree does to its first leaf.  The failure of this leaf is that of the tree. -/
theorem clear_at_first (hazard : Hazard) (s : Store) (disk : Disk) :
    let whole := s.clear hazard disk
    let part := s.first.clear hazard disk
    whole.store.first = part.store ∧ SameFolders part.disk whole.disk ∧
      ∀ failure, part.result = .error failure →
        whole.result = .error failure ∧ whole.disk = part.disk := by
  induction s with
  | memory entries => exact ⟨rfl, .refl disk, fun _ herror => nomatch herror⟩
  | file path entries =>
      have hstore := (atFirst_change hazard (fun _ => Entries.empty) (.file path entries) disk)
      exact ⟨hstore.first_eq, .refl _, fun failure herror => ⟨herror, rfl⟩⟩
  | delegating primary replica ihp _ =>
      obtain ⟨hstore, hfolders, hfailure⟩ := ihp
      dsimp only
      rw [clear, first]
      cases hresult : (primary.clear hazard disk).result with
      | error failure =>
          refine ⟨hstore, hfolders, fun own hown => ?_⟩
          obtain ⟨hsame, hdisk⟩ := hfailure own hown
          rw [hresult] at hsame
          cases hsame
          exact ⟨rfl, hdisk⟩
      | ok _ =>
          refine ⟨hstore, hfolders.trans (sameFolders_clear _ _ _), fun own hown => ?_⟩
          obtain ⟨hsame, -⟩ := hfailure own hown
          rw [hresult] at hsame
          cases hsame

/-! ## Sessions -/

/-- A tree in use, and its first leaf in the same use by itself. -/
structure Shadows (now alone : Session) : Prop where
  first_eq : now.store.first = alone.store
  alike : now.store.first.Alike now.disk alone.disk

theorem Shadows.run {now alone : Session} (h : Shadows now alone) (operation : Operation)
    (hazard : Hazard) :
    let outcome := operation.run hazard now.store now.disk
    let own := operation.run hazard alone.store alone.disk
    outcome.store.first = own.store ∧ outcome.store.first.Alike outcome.disk own.disk ∧
      (∀ failure, own.result = .error failure → outcome.result = .error failure) ∧
      (operation ≠ .mutate .clear → outcome.result = own.result) := by
  have hagree := agree_run h.alike operation hazard
  rw [← h.first_eq]
  by_cases hclear : operation = .mutate .clear
  · subst hclear
    obtain ⟨hstore, hfolders, hfailure⟩ := clear_at_first hazard now.store now.disk
    refine ⟨hstore.trans hagree.store_eq, ⟨hfolders.symm.trans hagree.alike.folders, ?_⟩, ?_,
      fun hne => absurd rfl hne⟩
    · show _ ∨ (now.store.clear hazard now.disk).store.first.Steady _
      rw [hstore]
      cases hresult : (now.store.first.clear hazard now.disk).result with
      | error failure =>
          show (now.store.clear hazard now.disk).disk = _ ∨
            Steady (now.store.clear hazard now.disk).disk _
          rw [(hfailure failure hresult).2]
          exact hagree.alike.eq_or_steady
      | ok _ =>
          -- The other leaves may have written, but the first has been saved.
          refine Or.inr (Steady.congr ?_ hfolders)
          rw [clear_first] at hresult ⊢
          exact steady_of_change_ok hresult
    · intro failure hown
      exact (hfailure failure (hagree.result_eq.trans hown)).1
  · have hfirst := atFirst_run hclear hazard now.store now.disk
    dsimp only
    rw [hfirst.result_eq, hfirst.disk_eq, hfirst.first_eq, ← hagree.result_eq]
    exact ⟨hagree.store_eq, hagree.alike, fun _ herror => herror, fun _ => rfl⟩

theorem Shadows.use {now alone : Session} (h : Shadows now alone) (operation : Operation)
    (hazard : Hazard) : Shadows (now.use operation hazard) (alone.use operation hazard) := by
  obtain ⟨hfirst, halike, -, -⟩ := h.run operation hazard
  exact ⟨hfirst, halike⟩

theorem Shadows.foldl (uses : List (Operation × Hazard)) {now alone : Session}
    (h : Shadows now alone) :
    Shadows (uses.foldl (fun session one => session.use one.1 one.2) now)
      (uses.foldl (fun session one => session.use one.1 one.2) alone) := by
  induction uses generalizing now alone with
  | nil => exact h
  | cons one uses ih => exact ih (h.use one.1 one.2)

theorem shadows_after (tree : Store) (disk : Disk) (uses : List (Operation × Hazard)) :
    Shadows (Session.after tree disk uses) (Session.after tree.first disk uses) :=
  Shadows.foldl uses ⟨rfl, .refl disk, Or.inl rfl⟩

/-- A tree that fails to be emptied has failed at one of its leaves, up to which all are empty. -/
theorem leaves_of_clear_error {hazard : Hazard} {s : Store} {disk : Disk} {failure : Failure}
    (h : (s.clear hazard disk).result = .error failure) :
    ∃ left leaf right mid, s.leaves = left ++ leaf :: right ∧
      clearEach hazard disk left = (.ok (), left.map emptied, mid) ∧
      (leaf.clear (hazard.behind left.length) mid).result = .error failure ∧
      (s.clear hazard disk).store.leaves = left.map emptied ++ leaf :: right := by
  have heach := clearEach_leaves hazard s disk
  rw [h] at heach
  exact clearEach_error (fun leaf hleaf => leaves_of_mem_leaves hleaf) heach

/-- The first leaf of a tree in use is the store that it would be by itself, failures included, and
answers all questions.  The other leaves keep their entries until the tree is emptied, which is to empty
leaf after leaf, up to the first that fails. -/
theorem first_leaf_by_itself (tree : Store) (disk : Disk) (uses : List (Operation × Hazard)) :
    let now := Session.after tree disk uses
    let alone := Session.after tree.first disk uses
    now.store.first = alone.store ∧
      (∀ key, now.store.get? key = alone.store.get? key) ∧
      (∀ key, now.store.contains key = alone.store.contains key) ∧
      now.store.toList = alone.store.toList ∧ now.store.users = alone.store.users ∧
      (∀ resource, now.store.tokensForResource resource = alone.store.tokensForResource resource) ∧
      (∀ userId, now.store.tokensForUser userId = alone.store.tokensForUser userId) ∧
      (∀ instant buffer, now.store.tokensAboutToExpire instant buffer =
        alone.store.tokensAboutToExpire instant buffer) ∧
      ∀ (operation : Operation) (hazard : Hazard),
        let outcome := operation.run hazard now.store now.disk
        let own := operation.run hazard alone.store alone.disk
        (∀ failure, own.result = .error failure → outcome.result = .error failure) ∧
        (operation ≠ .mutate .clear →
          outcome.result = own.result ∧ outcome.store.leaves.tail = now.store.leaves.tail) ∧
        (operation = .mutate .clear →
          (outcome.result = .ok () → outcome.store.leaves = now.store.leaves.map emptied ∧
            ∀ leaf ∈ outcome.store.leaves, leaf.entries = Entries.empty) ∧
          ∀ failure, outcome.result = .error failure →
            ∃ left leaf right mid, now.store.leaves = left ++ leaf :: right ∧
              clearEach hazard now.disk left = (.ok (), left.map emptied, mid) ∧
              (leaf.clear (hazard.behind left.length) mid).result = .error failure ∧
              outcome.store.leaves = left.map emptied ++ leaf :: right) := by
  have hshadows := shadows_after tree disk uses
  dsimp only
  have hentries : (Session.after tree disk uses).store.entries =
      (Session.after tree.first disk uses).store.entries := by
    rw [← hshadows.first_eq, entries_first]
  have hlist : (Session.after tree disk uses).store.toList =
      (Session.after tree.first disk uses).store.toList := by
    rw [toList, toList, hentries]
  refine ⟨hshadows.first_eq, ?_, ?_, hlist, ?_, ?_, ?_, ?_, fun operation hazard => ?_⟩
  · intro key
    rw [get?, get?, hentries]
  · intro key
    rw [contains, contains, hentries]
  · rw [users, users, hlist]
  · intro resource
    rw [tokensForResource, tokensForResource, hlist]
  · intro userId
    rw [tokensForUser, tokensForUser, hlist]
  · intro instant buffer
    rw [tokensAboutToExpire, tokensAboutToExpire, hlist]
  · obtain ⟨-, -, hfailure, hresult⟩ := hshadows.run operation hazard
    refine ⟨hfailure, fun hne => ⟨hresult hne, (atFirst_run hne hazard _ _).tail_eq⟩, ?_⟩
    rintro rfl
    refine ⟨fun hok => ?_, fun failure herror => leaves_of_clear_error herror⟩
    have hstore := clear_store_of_ok hok
    show (clear hazard _ _).store.leaves = _ ∧ ∀ leaf ∈ (clear hazard _ _).store.leaves, _
    rw [hstore]
    exact ⟨leaves_emptied _, fun leaf hleaf => entries_of_mem_leaves_emptied hleaf⟩

/-- A tree of three leaves, the last of which finds no room when the tree is emptied. -/
theorem first_leaf_by_itself_of_full_disk :
    let tree : Store := .delegating (.file "near" Entries.empty)
      (.delegating (.memory Entries.empty) (.file "far" Entries.empty))
    let entry : Entry := ⟨"a", none, none, none, none, none, none, false, none, none, none⟩
    let uses : List (Operation × Hazard) := [(.mutate (.insert ⟨"k"⟩ entry), Disk.calm)]
    let full : Disk.Hazard := fun n _ => if n = 2 then some ⟨.noSpace, 7⟩ else none
    let now := Session.after tree Disk.empty uses
    let outcome := Mutation.clear.run full now.store now.disk
    outcome.result = .error (.disk .noSpace) ∧
      ∃ left leaf right, now.store.leaves = left ++ leaf :: right ∧
        outcome.store.leaves = left.map emptied ++ leaf :: right := by
  intro tree entry uses full now outcome
  have hresult : outcome.result = .error (.disk .noSpace) := by decide +kernel
  obtain ⟨-, -, -, -, -, -, -, -, huse⟩ := first_leaf_by_itself tree Disk.empty uses
  obtain ⟨left, leaf, right, -, hleaves, -, -, hafter⟩ :=
    ((huse (.mutate .clear) full).2.2 rfl).2 _ hresult
  exact ⟨hresult, left, leaf, right, hleaves, hafter⟩

end Store
end RealmTokens
