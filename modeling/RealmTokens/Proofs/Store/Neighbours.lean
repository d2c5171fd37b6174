/-
Stores side by side on one disk.

`Neighbours` are any number of stores on one disk that take turns, and `InTurns` says what they come to,
beside others who use the disk.  Main statement: a change of one store leaves every file but its snapshot
and its staging file as it is, and as long as no path of one store stops at a place that another one
writes to, whoever opens the file of a store finds what this store holds.
-/
import Mathlib.Logic.Function.Basic
import RealmTokens.Proofs.Store.Footprint
import RealmTokens.Proofs.Store.Persistence

namespace RealmTokens
namespace Store

open Disk (SameFolders Within)
open Snapshot (Reaches stagingPath)
open Token (Entry Key)

/-! ## What a use changes -/

/-- A store keeps its path. -/
theorem exists_file_of_change (hazard : Hazard) (f : Entries → Entries) (path : String)
    (entries : Entries) (disk : Disk) :
    ∃ now, ((Store.file path entries).change hazard f disk).store = .file path now := by
  rcases change_file_cases hazard f path entries disk with ⟨_, -, hchange⟩ | ⟨_, _, -, hchange⟩
  · exact ⟨_, by rw [hchange]⟩
  · exact ⟨entries, by rw [hchange]⟩

/-- What each removal from a file keeps of the disk, all of them keep. -/
theorem disk_eraseAll {path : String} {Q : Disk → Prop}
    (hstep : ∀ entries disk key hazard, Q disk →
      Q ((Store.file path entries).erase hazard disk key).disk)
    (entries : Entries) {disk : Disk} (h : Q disk) (hazard : Hazard) (doomed : List Entry) :
    Q ((Store.file path entries).eraseAll hazard disk doomed).disk := by
  refine (eraseAll_invariant (P := fun _ s now => (∃ shown, s = .file path shown) ∧ Q now)
    (fun _ s now key hazard h => ?_) entries ⟨⟨entries, rfl⟩, h⟩ hazard doomed).1.2
  obtain ⟨⟨shown, rfl⟩, hnow⟩ := h
  have hstore := exists_file_of_change hazard (fun entries => entries.erase key) path shown now
  have hdisk := hstep shown now key hazard hnow
  cases hresult : ((Store.file path shown).erase hazard now key).result with
  | error failure => exact Or.inr ⟨failure, rfl, hstore, hdisk⟩
  | ok _ => exact Or.inl ⟨rfl, hstore, hdisk⟩

theorem within_eraseAll (hazard : Hazard) (path : String) (entries : Entries) (disk : Disk)
    (doomed : List Entry) :
    Within (Reaches disk path) disk
      ((Store.file path entries).eraseAll hazard disk doomed).disk := by
  refine disk_eraseAll (fun shown now key hazard hnow => ?_) entries (.refl _ _) hazard doomed
  -- Each removal moves the disk on, but not the places that the path leads to.
  refine hnow.trans
    ((within_change hazard (fun entries => entries.erase key) path shown now).mono
      (fun place hreach => ?_))
  exact (Snapshot.reaches_iff hnow.folders path place).1 hreach

theorem within_run (operation : Operation) (hazard : Hazard) (path : String) (entries : Entries)
    (disk : Disk) :
    Within (Reaches disk path) disk (operation.run hazard (.file path entries) disk).disk := by
  cases operation with
  | mutate m =>
      show Within _ _ (m.run hazard (.file path entries) disk).disk
      rw [m.run_file]
      exact within_change hazard m.apply path entries disk
  | clearTokensForUser userId => exact within_eraseAll hazard path entries disk _

/-! ## Stores that take turns -/

/-- Stores on one disk, with the changes that were made in each of them. -/
structure Neighbours (ι : Type) where
  stores : ι → Store
  made : ι → List Mutation
  disk : Disk

namespace Neighbours

section Paths

variable {ι : Type}

/-- Whether no path stops at a place that the store of another path writes to. -/
def Apart (disk : Disk) (paths : ι → String) : Prop :=
  ∀ i j, i ≠ j → ∀ place, Reaches disk (paths i) place → disk.stop? (paths j) ≠ some place

theorem Apart.congr {a b : Disk} {paths : ι → String} (h : Apart a paths)
    (hsame : SameFolders a b) : Apart b paths := by
  intro i j hne place hreach
  rw [hsame.stop?_eq]
  exact h i j hne place ((Snapshot.reaches_iff hsame (paths i) place).1 hreach)

theorem apart_of_find {disk : Disk} {paths : ι → String} {snapshot staging : ι → Disk.Target}
    (hsnapshot : ∀ i, disk.find (paths i) = .ok (snapshot i))
    (hstaging : ∀ i, disk.find (stagingPath (paths i)) = .ok (staging i))
    (hstop : ∀ i j, i ≠ j → disk.stop? (paths j) ≠ some (snapshot i).place ∧
      disk.stop? (paths j) ≠ some (staging i).place) : Apart disk paths := by
  rintro i j hne place (hleads | hleads)
  · rw [Disk.leads_unique hleads ⟨snapshot i, hsnapshot i, rfl⟩]
    exact (hstop i j hne).1
  · rw [Disk.leads_unique hleads ⟨staging i, hstaging i, rfl⟩]
    exact (hstop i j hne).2

/-- Every store shows the entries of its file, and these are what the changes made in this very store
make of the first ones. -/
structure Settled (paths : ι → String) (first : ι → Entries) (all : Neighbours ι) : Prop where
  apart : Apart all.disk paths
  live : ∀ i, Live (paths i) (Mutation.applyAll (all.made i) (first i)) (all.stores i) all.disk

end Paths

variable {ι : Type} [DecidableEq ι]

/-- One of them is used. -/
def use (all : Neighbours ι) (i : ι) (operation : Operation) (hazard : Hazard) : Neighbours ι :=
  let now := Session.use ⟨all.stores i, all.disk, all.made i⟩ operation hazard
  ⟨Function.update all.stores i now.store, Function.update all.made i now.made, now.disk⟩

/-- Stores that were opened on a disk, after turns of any of them.  Meanwhile others may change the disk,
as long as every path reads as before and none comes in the way of another. -/
inductive InTurns (paths : ι → String) (opened : ι → Store) (start : Disk) : Neighbours ι → Prop where
  | opened : InTurns paths opened start ⟨opened, fun _ => [], start⟩
  | used {all : Neighbours ι} (h : InTurns paths opened start all) (i : ι) (operation : Operation)
      (hazard : Hazard) : InTurns paths opened start (all.use i operation hazard)
  | meanwhile {all : Neighbours ι} {disk : Disk} (h : InTurns paths opened start all)
      (apart : Apart disk paths) (hread : ∀ i, disk.read (paths i) = all.disk.read (paths i)) :
      InTurns paths opened start { all with disk }

theorem Settled.use {paths : ι → String} {first : ι → Entries} {all : Neighbours ι}
    (h : Settled paths first all) (i : ι) (operation : Operation) (hazard : Hazard) :
    Settled paths first (all.use i operation hazard) := by
  have hwithin : Within (Reaches all.disk (paths i)) all.disk
      (all.use i operation hazard).disk := by
    show Within _ _ (operation.run hazard (all.stores i) all.disk).disk
    rw [(h.live i).store_eq]
    exact within_run operation hazard (paths i) _ all.disk
  refine ⟨h.apart.congr hwithin.folders, fun j => ?_⟩
  by_cases hj : j = i
  · -- The store that is used.
    subst hj
    have hlive := @Session.live_use (paths j) (first j) ⟨all.stores j, all.disk, all.made j⟩
      (h.live j) operation hazard
    simp only [Neighbours.use, Function.update_self]
    exact hlive
  · -- Any other one: its path stops elsewhere, so its file reads as before.
    have hread : (all.use i operation hazard).disk.read (paths j) = all.disk.read (paths j) :=
      hwithin.read_eq (fun place hstop hreach => h.apart i j (Ne.symm hj) place hreach hstop)
    have hstore : (all.use i operation hazard).stores j = all.stores j :=
      Function.update_of_ne hj _ _
    have hmade : (all.use i operation hazard).made j = all.made j :=
      Function.update_of_ne hj _ _
    rw [hstore, hmade]
    exact (h.live j).congr hread

theorem InTurns.settled {paths : ι → String} {start : Disk} {opened : ι → Store}
    {all : Neighbours ι} (hopen : ∀ i, openFile start (paths i) = .ok (opened i))
    (apart : Apart start paths) (h : InTurns paths opened start all) :
    Settled paths (fun i => (opened i).entries) all := by
  induction h with
  | opened => exact ⟨apart, fun i => live_of_openFile (hopen i)⟩
  | used _ i operation hazard ih => exact ih.use i operation hazard
  | meanwhile _ apart hread ih => exact ⟨apart, fun i => (ih.live i).congr (hread i)⟩

end Neighbours

/-! ## Main statement -/

/-- The result of a change of a store is that of its save. -/
theorem save_eq_of_run (m : Mutation) (hazard : Hazard) (path : String) (entries : Entries)
    (disk : Disk) :
    Snapshot.save hazard.calls disk path (hazard.arrange (m.apply entries)) =
      ((m.run hazard (.file path entries) disk).result,
        (m.run hazard (.file path entries) disk).disk) := by
  rw [m.run_file]
  rcases change_file_cases hazard m.apply path entries disk with
    ⟨after, hsave, hchange⟩ | ⟨failure, after, hsave, hchange⟩
  · rw [hsave, hchange]
  · rw [hsave, hchange]

/-- A change of a store leaves all places as they are but those of its snapshot and its staging file,
and leaves no staging file unless it fails and the removal is prevented.  Stores whose paths do not stop
where another one writes may take turns in any order: whoever opens the file of one of them finds what
it holds, and that is what its own changes made. -/
theorem own_files_only :
    (∀ (path : String) (entries : Entries) (disk : Disk) (m : Mutation) (hazard : Hazard),
      (Disk.fileName? path).isSome = true →
        let outcome := m.run hazard (.file path entries) disk
        (∀ place, ¬Reaches disk path place → outcome.disk.node? place = disk.node? place) ∧
        (outcome.result = .ok () → ∀ place, disk.Leads (stagingPath path) place →
          outcome.disk.node? place = none) ∧
        ∀ failure, outcome.result = .error failure →
          outcome.disk.read path = disk.read path ∧
          (∀ place, ¬disk.Leads (stagingPath path) place →
            outcome.disk.node? place = disk.node? place) ∧
          (hazard.calls 0 (.remove (stagingPath path)) = none → ∀ place,
            disk.Leads (stagingPath path) place →
              outcome.disk.node? place = none ∨ outcome.disk.node? place = disk.node? place)) ∧
    ∀ (ι : Type) [DecidableEq ι] (paths : ι → String) (disk : Disk) (opened : ι → Store),
      (∀ i, openFile disk (paths i) = .ok (opened i)) → Neighbours.Apart disk paths →
        ∀ now, Neighbours.InTurns paths opened disk now → ∀ i,
          Persisted (paths i) (now.stores i) now.disk ∧
            (now.stores i).entries.Same (Mutation.applyAll (now.made i) (opened i).entries) := by
  constructor
  · intro path entries disk m hazard hpath
    have hsave := save_eq_of_run m hazard path entries disk
    have hwithin := Snapshot.within_save hazard.calls disk path (hazard.arrange (m.apply entries))
    dsimp only
    generalize m.run hazard (.file path entries) disk = outcome at hsave ⊢
    rw [hsave] at hwithin
    refine ⟨hwithin.node?_eq, fun hok place hleads => ?_, fun failure herror => ?_⟩
    · rw [hok] at hsave
      exact Snapshot.node?_staging_of_save_ok hpath hsave hleads
    · rw [herror] at hsave
      exact ⟨Snapshot.read_of_save_error hpath hsave,
        (Snapshot.within_of_save_error hsave).node?_eq, fun hcalm place hleads =>
          Snapshot.node?_staging_of_save_error hpath hsave hcalm hleads⟩
  · intro ι _ paths disk opened hopen apart now hnow i
    have hlive := (hnow.settled hopen apart).live i
    exact ⟨hlive.persisted, hlive.same⟩

/-- Two stores whose staging files differ have an entry each.  Somebody else writes a file of his own, and
then one of them cannot be emptied: it fails behind a staging file that is written already. -/
theorem own_files_only_of_json_and_bin :
    let key : Key := ⟨"k"⟩
    let entry : Entry := ⟨"a", none, none, none, none, none, none, false, none, none, none⟩
    let paths : Bool → String := fun i => bif i then "tokens.json" else "tokens.bin"
    let opened : Bool → Store := fun i => .file (paths i) Entries.empty
    let stuck : Disk.Hazard := fun _ call =>
      match call with
      | .rename _ _ => some ⟨.noSpace, 0⟩
      | _ => none
    let first : Neighbours Bool := ⟨opened, fun _ => [], Disk.empty⟩
    let filed := (first.use true (.mutate (.insert key entry)) Disk.calm).use false
      (.mutate (.insert key entry)) Disk.calm
    let noted : Neighbours Bool :=
      { filed with disk := filed.disk.put ["notes"] (.file [0x78] 0o644) }
    let now := noted.use false (.mutate .clear) stuck
    let stopped := Mutation.clear.run stuck (noted.stores false) noted.disk
    (∀ i, openFile Disk.empty (paths i) = .ok (opened i)) ∧ Neighbours.Apart Disk.empty paths ∧
      Neighbours.InTurns paths opened Disk.empty now ∧
      (∀ i, (now.stores i).get? key = some entry ∧
        openFile now.disk (paths i) = .ok (now.stores i)) ∧
      stopped.result = .error (.disk .noSpace) ∧ stopped.disk.node? ["tokens.bin.tmp"] = none := by
  intro key entry paths opened stuck first filed noted now stopped
  have hopen : ∀ i, openFile Disk.empty (paths i) = .ok (opened i) := by
    intro i
    cases i with
    | false => exact (rfl : openFile Disk.empty "tokens.bin" = .ok (.file "tokens.bin" .empty))
    | true => exact (rfl : openFile Disk.empty "tokens.json" = .ok (.file "tokens.json" .empty))
  have hapart (disk : Disk) (hdisk : disk = Disk.empty ∨ disk = noted.disk) :
      Neighbours.Apart disk paths := by
    refine @Neighbours.apart_of_find Bool disk paths
      (fun i => ⟨[paths i], paths i, false⟩)
      (fun i => ⟨[stagingPath (paths i)], stagingPath (paths i), false⟩) ?_ ?_ ?_
    all_goals
      rcases hdisk with rfl | rfl
      all_goals decide +kernel
  have hread : ∀ i, noted.disk.read (paths i) = filed.disk.read (paths i) := by
    decide +kernel
  have hnoted : Neighbours.InTurns paths opened Disk.empty noted :=
    .meanwhile (.used (.used .opened _ _ _) _ _ _) (hapart _ (Or.inr rfl)) hread
  have hnow : Neighbours.InTurns paths opened Disk.empty now := hnoted.used _ _ _
  have hstores : ∀ i, (now.stores i).get? key = some entry ∧ (now.stores i).entries.Denotable := by
    decide +kernel
  have hresult : stopped.result = .error (.disk .noSpace) := by decide +kernel
  refine ⟨hopen, hapart _ (Or.inl rfl), hnow, fun i => ⟨(hstores i).1, ?_⟩, hresult, ?_⟩
  · exact (own_files_only.2 Bool paths Disk.empty opened hopen (hapart _ (Or.inl rfl)) now hnow
      i).1.exactly (hstores i).2
  · -- The staging file was not there before, so it does not stay.
    have hstore : noted.stores false = .file "tokens.bin" (noted.stores false).entries :=
      ((hnoted.settled hopen (hapart _ (Or.inl rfl))).live false).store_eq
    obtain ⟨-, -, hfailed⟩ := own_files_only.1 "tokens.bin" (noted.stores false).entries noted.disk
      .clear stuck (by decide +kernel)
    rw [← hstore] at hfailed
    obtain ⟨-, -, hgone⟩ := hfailed (.disk .noSpace) hresult
    have hleads : noted.disk.Leads (stagingPath "tokens.bin") ["tokens.bin.tmp"] :=
      ⟨⟨["tokens.bin.tmp"], "tokens.bin.tmp", false⟩, by decide +kernel, rfl⟩
    rcases hgone rfl _ hleads with hnone | hsame
    · exact hnone
    · exact hsame.trans (by decide +kernel)

/-- A file that stands where the staging file goes is lost, and a staging file that cannot be removed
stays.  A store whose path is that of the staging file, another spelling of the path, or one through
the snapshot, does not find its own entries again, and none finds an expiry again that has no text of
its own. -/
theorem not_own_files_only :
    let key : Key := ⟨"k"⟩
    let entry : Entry := ⟨"a", none, none, none, none, none, none, false, none, none, none⟩
    let foreign : Disk := ⟨[(["tokens.tmp"], .file [0x78] 0o644)]⟩
    let cleared := Mutation.clear.run Disk.calm (.file "tokens" Entries.empty) foreign
    let stuck : Disk.Hazard := fun _ call =>
      match call with
      | .append _ _ => some ⟨.noSpace, 1⟩
      | .remove _ => some ⟨.noSpace, 0⟩
      | _ => none
    let failed := Mutation.clear.run stuck (.file "tokens" Entries.empty) Disk.empty
    let both : String → Neighbours Bool := fun other =>
      let opened : Neighbours Bool :=
        ⟨fun i => .file (if i then other else "tokens") Entries.empty, fun _ => [], Disk.empty⟩
      (opened.use true (.mutate (.insert key entry)) Disk.calm).use false (.mutate .clear) Disk.calm
    let leap : Time.Instant := ⟨1483228796, 1500000000, by decide, by decide, by decide⟩
    let filed := (Mutation.insert key { entry with expiresOn := some leap }).run Disk.calm
      (.file "tokens" Entries.empty) Disk.empty
    (cleared.result = .ok () ∧ foreign.read "tokens.tmp" = .ok [0x78] ∧
        cleared.disk.read "tokens.tmp" = .error .notFound) ∧
      (failed.result = .error (.disk .noSpace) ∧ failed.disk.read "tokens.tmp" = .ok [0x7b]) ∧
      (∀ other ∈ ["tokens.tmp", "./tokens", "tokens/inner"],
        openFile Disk.empty other = .ok (.file other Entries.empty) ∧
          openFile (both other).disk other ≠ .ok ((both other).stores true)) ∧
      ∃ found, openFile filed.disk "tokens" = .ok found ∧ found.get? key ≠ filed.store.get? key := by
  intro key entry foreign cleared stuck failed both leap filed
  have hviews : ∀ other ∈ ["tokens.tmp", "./tokens", "tokens/inner"],
      (openFile (both other).disk other).toOption.map (fun s => s.entries.size) ≠
        some ((both other).stores true).entries.size := by
    decide +kernel
  have hopen : openFile Disk.empty "tokens" = .ok (.file "tokens" Entries.empty) := rfl
  have hfiled := (live_of_openFile hopen).run_ok (rfl : filed.result = .ok ())
  obtain ⟨found, hfound, hget⟩ := hfiled.persisted.exists_get? key
  have hchanged : (filed.store.get? key).map Entry.reread ≠ filed.store.get? key := by decide +kernel
  refine ⟨by decide +kernel, by decide +kernel, fun other hother => ⟨?_, fun heq => ?_⟩, found,
    hfound, fun hsame => hchanged (hget.symm.trans hsame)⟩
  · simp only [List.mem_cons, List.not_mem_nil, or_false] at hother
    rcases hother with rfl | rfl | rfl <;> rfl
  · exact hviews other hother (by rw [heq]; rfl)

end Store
end RealmTokens
