/-
A process that is cut off while it saves.

`CutOff` is every disk that the process may leave: between two calls, inside one, or in the cleanup
behind a call that failed.  None of them shows a part of a snapshot under the name of the snapshot.
`Lifetime` is a file through uses, cuts and the restarts behind them, and through what others do to the
disk meanwhile.  Main statement: as long as others do not change what the path reads as, every restart
succeeds, and finds the entries before the change that was cut off or those after it.
-/
import RealmTokens.Proofs.Store.Persistence

namespace RealmTokens
namespace Disk

/-- The disks that a process may leave when it is cut off among its calls. -/
inductive CutOff (hazard : Hazard) : Disk → List Call → Disk → Prop where
  | before (disk : Disk) (calls : List Call) : CutOff hazard disk calls disk
  | inside (disk : Disk) (call : Call) (rest : List Call) (written : Nat) :
      CutOff hazard disk (call :: rest) (remains disk written call)
  | later {disk next last : Disk} {call : Call} {rest : List Call}
      (h : perform hazard disk call = (.ok (), next)) (hrest : CutOff hazard next rest last) :
      CutOff hazard disk (call :: rest) last
  | failed {disk last : Disk} {call : Call} {fault : Fault}
      (h : perform hazard disk call = (.error fault, last)) (rest : List Call) :
      CutOff hazard disk (call :: rest) last

namespace CutOff

/-- A process that is not cut off leaves one of these disks, too. -/
theorem performAll (hazard : Hazard) (disk : Disk) (calls : List Call) :
    CutOff hazard disk calls (performAll hazard disk calls).2 := by
  induction calls generalizing disk with
  | nil => exact .before disk []
  | cons call rest ih =>
      rw [Disk.performAll]
      rcases hperform : perform hazard disk call with ⟨fault | ⟨⟩, next⟩
      · exact .failed hperform rest
      · exact .later hperform (ih next)

/-- A cut in two sequences is one in the first, or one in the second after all of the first. -/
theorem of_append {hazard : Hazard} {disk last : Disk} {xs ys : List Call}
    (h : CutOff hazard disk (xs ++ ys) last) :
    CutOff hazard disk xs last ∨
      ∃ mid, Disk.performAll hazard disk xs = (.ok (), mid) ∧ CutOff hazard mid ys last := by
  induction xs generalizing disk with
  | nil => exact Or.inr ⟨disk, rfl, h⟩
  | cons call rest ih =>
      rw [List.cons_append] at h
      cases h with
      | before => exact Or.inl (.before _ _)
      | inside _ _ _ written => exact Or.inl (.inside disk call rest written)
      | failed hperform => exact Or.inl (.failed hperform rest)
      | later hperform hrest =>
          rcases ih hrest with hcut | ⟨mid, hmid, hcut⟩
          · exact Or.inl (.later hperform hcut)
          · refine Or.inr ⟨mid, ?_, hcut⟩
            rw [Disk.performAll, hperform]
            exact hmid

/-- Giving a file another name is done as a whole. -/
theorem of_rename {hazard : Hazard} {disk last : Disk} {source path : String}
    (h : CutOff hazard disk [.rename source path] last) :
    last = disk ∨ perform hazard disk (.rename source path) = (.ok (), last) := by
  cases h with
  | before => exact Or.inl rfl
  | inside => exact Or.inl rfl
  | failed hperform => exact Or.inl (perform_rename_error hperform)
  | later hperform hrest =>
      cases hrest
      exact Or.inr hperform

/-- What one call touches is all that a cut among calls on one path touches. -/
theorem read_eq {hazard : Hazard} {disk last : Disk} {calls : List Call}
    (h : CutOff hazard disk calls last) {path staging : String}
    (hon : ∀ call ∈ calls, call.IsOn staging)
    (hread : ∀ disk after, Touches staging disk after → after.read path = disk.read path) :
    last.read path = disk.read path := by
  induction h with
  | before => rfl
  | inside disk call rest written =>
      exact hread _ _ (touches_remains disk (hon call List.mem_cons_self) written)
  | @later disk next last call rest hperform _ ih =>
      have hfirst := hread _ _ (touches_perform hazard disk (hon call List.mem_cons_self))
      rw [hperform] at hfirst
      rw [ih (fun other hother => hon other (List.mem_cons_of_mem call hother))]
      exact hfirst
  | @failed disk last call fault hperform rest =>
      have hfirst := hread _ _ (touches_perform hazard disk (hon call List.mem_cons_self))
      rw [hperform] at hfirst
      exact hfirst

end CutOff
end Disk

namespace Snapshot

open Disk (Call Hazard performAll)

/-- The disks that a process may leave when it is cut off while it saves. -/
def CutOff (hazard : Hazard) (disk : Disk) (path : String) (entries : Entries) (last : Disk) :
    Prop :=
  Disk.CutOff hazard disk (calls path entries) last ∨
    ∃ fault stopped, performAll hazard disk (calls path entries) = (.error fault, stopped) ∧
      Disk.CutOff hazard stopped [.remove (stagingPath path)] last

theorem cutOff_save (hazard : Hazard) (disk : Disk) (path : String) (entries : Entries) :
    CutOff hazard disk path entries (save hazard disk path entries).2 := by
  have hcalls := Disk.CutOff.performAll hazard disk (calls path entries)
  unfold save
  rcases hperform : performAll hazard disk (calls path entries) with ⟨fault | ⟨⟩, stopped⟩
  · have hcleanup := Disk.CutOff.performAll hazard stopped [.remove (stagingPath path)]
    refine Or.inr ⟨fault, stopped, hperform, ?_⟩
    rw [Disk.performAll_singleton] at hcleanup
    exact hcleanup
  · rw [hperform] at hcalls
    exact Or.inl hcalls

/-- A cut leaves the old snapshot or the whole new one. -/
theorem read_of_cutOff {path : String} (hpath : (Disk.fileName? path).isSome = true)
    {hazard : Hazard} {disk last : Disk} {entries : Entries}
    (h : CutOff hazard disk path entries last) :
    last.read path = disk.read path ∨ last.read path = .ok (bytes entries) := by
  have htouches (disk after : Disk) (h : Disk.Touches (stagingPath path) disk after) :
      after.read path = disk.read path := read_of_touches hpath h
  rcases h with h | ⟨fault, stopped, hcalls, h⟩
  · rw [calls_eq] at h
    -- All calls but the last are on the staging file, and the last one is done as a whole.
    rcases h.of_append with hcut | ⟨staged, hstaged, hcut⟩
    · exact Or.inl (hcut.read_eq (isOn_of_mem_staging path entries) htouches)
    · have hkept := read_performAll hpath hazard (isOn_of_mem_staging path entries) disk
      rw [hstaged] at hkept
      rcases hcut.of_rename with rfl | hrename
      · exact Or.inl hkept
      · have hdone : performAll hazard disk (calls path entries) = (.ok (), last) := by
          rw [calls_eq, Disk.performAll_append, hstaged]
          show performAll hazard staged _ = _
          rw [Disk.performAll_singleton, hrename]
        exact Or.inr (read_of_calls_ok hpath hdone)
  · -- The cleanup is on the staging file, too.
    have hon : ∀ call ∈ [Call.remove (stagingPath path)], call.IsOn (stagingPath path) := by
      intro call hcall
      rw [List.mem_singleton.1 hcall]
      rfl
    left
    rw [h.read_eq hon htouches]
    exact read_of_calls_error hpath hcalls

theorem load_of_cutOff {path : String} (hpath : (Disk.fileName? path).isSome = true)
    {hazard : Hazard} {disk last : Disk} {entries : Entries}
    (h : CutOff hazard disk path entries last) :
    load last path = load disk path ∨ load last path = .ok entries.reread := by
  rcases read_of_cutOff hpath h with hold | hnew
  · exact Or.inl (load_congr hold)
  · exact Or.inr (load_of_read hnew)

end Snapshot

namespace Store

open Token (Entry Key)

/-- What opening a file gives, through uses of the store, through cuts, and through what others do to the
disk.  Behind a cut the file is opened again. -/
inductive Lifetime (others : Disk → Disk → Prop) (path : String) (start : Disk) :
    Except Failure Store → Disk → Prop where
  | opened : Lifetime others path start (openFile start path) start
  | used {s : Store} {disk : Disk} (h : Lifetime others path start (.ok s) disk)
      (operation : Operation) (hazard : Hazard) :
      Lifetime others path start (.ok (operation.run hazard s disk).store)
        (operation.run hazard s disk).disk
  | cut {s : Store} {disk last : Disk} (h : Lifetime others path start (.ok s) disk) (m : Mutation)
      (hazard : Hazard)
      (hcut : Snapshot.CutOff hazard.calls disk path (hazard.arrange (m.apply s.entries)) last) :
      Lifetime others path start (openFile last path) last
  | meanwhile {found : Except Failure Store} {disk next : Disk}
      (h : Lifetime others path start found disk) (hnext : others disk next) :
      Lifetime others path start found next

/-- Nobody else does anything. -/
def alone : Disk → Disk → Prop := fun _ _ => False

/-- A change that is not cut off leaves one of these disks, too. -/
theorem Mutation.cutOff_run (m : Mutation) (hazard : Hazard) (path : String) (entries : Entries)
    (disk : Disk) :
    Snapshot.CutOff hazard.calls disk path (hazard.arrange (m.apply entries))
      (m.run hazard (.file path entries) disk).disk := by
  have hsave := Snapshot.cutOff_save hazard.calls disk path (hazard.arrange (m.apply entries))
  rw [m.run_file]
  rcases change_file_cases hazard m.apply path entries disk with
    ⟨after, hsaved, hchange⟩ | ⟨failure, after, hsaved, hchange⟩
  all_goals
    rw [hchange]
    rw [hsaved] at hsave
    exact hsave

theorem Live.cut {path : String} {entries : Entries} {s : Store} {disk last : Disk}
    (h : Live path entries s disk) {hazard : Disk.Hazard} {changed : Entries}
    (hcut : Snapshot.CutOff hazard disk path changed last) :
    Live path entries s last ∨ Live path changed (.file path changed) last := by
  rcases Snapshot.load_of_cutOff h.named hcut with hold | hnew
  · exact Or.inl ⟨h.named, h.store_eq, h.same, hold.trans h.load_eq⟩
  · exact Or.inr ⟨h.named, rfl, .refl changed, hnew⟩

/-- What is read of a file that was written is read again as it is. -/
theorem Persisted.live {path : String} {s : Store} {disk : Disk} (h : Persisted path s disk) :
    Live path s.entries.reread (.file path s.entries.reread) disk :=
  live_of_openFile h.reread

theorem Lifetime.live {others : Disk → Disk → Prop} {path : String} {start disk : Disk}
    {first : Store} {found : Except Failure Store} (hopen : openFile start path = .ok first)
    (hothers : ∀ before after, others before after → after.read path = before.read path)
    (h : Lifetime others path start found disk) :
    ∃ s entries, found = .ok s ∧ Live path entries s disk := by
  induction h with
  | opened => exact ⟨first, _, hopen, live_of_openFile hopen⟩
  | @used s disk _ operation hazard ih =>
      obtain ⟨t, entries, ht, hlive⟩ := ih
      cases ht
      exact ⟨_, _, rfl, (hlive.run operation hazard).1⟩
  | @cut s disk last _ m hazard hcut ih =>
      obtain ⟨t, entries, ht, hlive⟩ := ih
      cases ht
      rcases hlive.cut hcut with hold | hnew
      · exact ⟨_, _, hold.persisted.reread, hold.persisted.live⟩
      · exact ⟨_, _, hnew.persisted.reread, hnew.persisted.live⟩
  | @meanwhile found disk next _ hnext ih =>
      obtain ⟨s, entries, hs, hlive⟩ := ih
      exact ⟨s, entries, hs, hlive.congr (hothers disk next hnext)⟩

theorem Lifetime.live_alone {path : String} {start disk : Disk} {first : Store}
    {found : Except Failure Store} (hopen : openFile start path = .ok first)
    (h : Lifetime alone path start found disk) :
    ∃ s entries, found = .ok s ∧ Live path entries s disk :=
  h.live hopen (fun _ _ hother => hother.elim)

/-- However often a process was cut off before, it has found a store, and when it is cut off in a
change, whoever opens the file then finds the entries before that change or those after it. -/
theorem openFile_after_cut {others : Disk → Disk → Prop} {path : String} {start disk : Disk}
    {first : Store} {found : Except Failure Store} (hopen : openFile start path = .ok first)
    (hothers : ∀ before after, others before after → after.read path = before.read path)
    (h : Lifetime others path start found disk) :
    ∃ s, found = .ok s ∧ Persisted path s disk ∧
      ∀ (m : Mutation) (hazard : Hazard) (last : Disk),
        Snapshot.CutOff hazard.calls disk path (hazard.arrange (m.apply s.entries)) last →
          Persisted path s last ∨
            ∃ changed, changed.Same (m.apply s.entries) ∧ Persisted path (.file path changed) last := by
  obtain ⟨s, entries, hs, hlive⟩ := h.live hopen hothers
  refine ⟨s, hs, hlive.persisted, ?_⟩
  intro m hazard last hcut
  rcases hlive.cut hcut with hold | hnew
  · exact Or.inl hold.persisted
  · exact Or.inr ⟨_, hazard.arrange_same _, hnew.persisted⟩

/-- A process that was cut off behind the first byte that it wrote to empty a store of one entry.  Its
staging file is still there when the next one is cut off, and so is a file that somebody else wrote. -/
theorem openFile_after_cut_of_first_byte :
    let key : Key := ⟨"k"⟩
    let entry : Entry := ⟨"a", none, none, none, none, none, none, false, none, none, none⟩
    let opened : Store := .file "tokens" Entries.empty
    let filed := (Mutation.insert key entry).run Disk.calm opened Disk.empty
    let torn := filed.disk.put ["tokens.tmp"] (.file [0x7b] Snapshot.privateMode)
    let left := torn.put ["notes"] (.file [0x78] 0o644)
    let others : Disk → Disk → Prop := fun before after => after.read "tokens" = before.read "tokens"
    Lifetime others "tokens" Disk.empty (openFile torn "tokens") left ∧
      openFile torn "tokens" = .ok filed.store ∧ filed.store.get? key = some entry ∧
      ∀ (hazard : Hazard) (last : Disk),
        Snapshot.CutOff hazard.calls left "tokens" Entries.empty last →
          Persisted "tokens" filed.store last ∨ Persisted "tokens" opened last := by
  intro key entry opened filed torn left others
  have hopen : openFile Disk.empty "tokens" = .ok opened := rfl
  have hfiled : Lifetime others "tokens" Disk.empty (.ok filed.store) filed.disk := by
    have hstart : Lifetime others "tokens" Disk.empty (.ok opened) Disk.empty := by
      rw [← hopen]
      exact .opened
    exact hstart.used (.mutate (.insert key entry)) Disk.calm
  have hcreate : Disk.perform Disk.calm filed.disk
      (.create (Snapshot.stagingPath "tokens") Snapshot.privateMode) =
        (.ok (), filed.disk.put ["tokens.tmp"] (.file [] Snapshot.privateMode)) := rfl
  have hcut : Snapshot.CutOff Disk.calm filed.disk "tokens" Entries.empty torn :=
    Or.inl (.later hcreate (.inside _ _ _ 1))
  have hlife : Lifetime others "tokens" Disk.empty (openFile torn "tokens") left :=
    .meanwhile (hfiled.cut .clear Disk.calm hcut) rfl
  obtain ⟨s, hs, -, hnext⟩ := openFile_after_cut hopen (fun _ _ hread => hread) hlife
  have hlive := (live_of_openFile hopen).run_ok (rfl : filed.result = .ok ())
  have hreopen : openFile torn "tokens" = .ok filed.store :=
    (hlive.congr (rfl : torn.read "tokens" = filed.disk.read "tokens")).persisted.exactly
      (by decide +kernel)
  obtain rfl : filed.store = s := Except.ok.inj (hreopen.symm.trans hs)
  refine ⟨hlife, hreopen, rfl, fun hazard last hlast => ?_⟩
  rcases hnext .clear hazard last (by rw [Mutation.apply, hazard.arrange_empty]; exact hlast) with
    hbefore | ⟨changed, hchanged, hafter⟩
  · exact Or.inl hbefore
  · right
    obtain rfl := Entries.same_empty_iff.1 hchanged
    exact hafter

/-- An expiry in a leap second that ends no minute is neither read back as it was filed nor left out.  And
where a file of another store has taken the place of a directory, a change fails at once, but its path
cannot be opened any more. -/
theorem not_openFile_after_cut :
    let key : Key := ⟨"k"⟩
    let leap : Time.Instant := ⟨1483228796, 1500000000, by decide, by decide, by decide⟩
    let behind : Time.Instant := ⟨1483228797, 500000000, by decide, by decide, by decide⟩
    let entry (expiresOn : Time.Instant) : Entry :=
      ⟨"a", none, none, none, none, none, some expiresOn, false, none, none, none⟩
    let insertion := Mutation.insert key (entry leap)
    let filed := insertion.run Disk.calm (.file "tokens" Entries.empty) Disk.empty
    (openFile Disk.empty "tokens" = .ok (.file "tokens" Entries.empty) ∧
        Snapshot.CutOff Disk.calm Disk.empty "tokens" (insertion.apply Entries.empty) filed.disk ∧
        Entries.empty.get? key = none ∧
        (insertion.apply Entries.empty).get? key = some (entry leap) ∧ entry leap ≠ entry behind ∧
        ∃ found, openFile filed.disk "tokens" = .ok found ∧ found.get? key = some (entry behind)) ∧
      openFile Disk.empty "tokens/inner" = .ok (.file "tokens/inner" Entries.empty) ∧
        Snapshot.CutOff Disk.calm filed.disk "tokens/inner" Entries.empty filed.disk ∧
        openFile filed.disk "tokens/inner" = .error (.corruptSnapshot "tokens/inner" .unreadable) := by
  intro key leap behind entry insertion filed
  have hopen : openFile Disk.empty "tokens" = .ok (.file "tokens" Entries.empty) := rfl
  have hok : filed.result = .ok () := rfl
  have hfiled := (live_of_openFile hopen).run_ok hok
  have hcut := insertion.cutOff_run Disk.calm "tokens" Entries.empty Disk.empty
  obtain ⟨found, hfound, hget⟩ := hfiled.persisted.exists_get? key
  have hreread : (entry leap).reread = entry behind := by decide +kernel
  exact ⟨⟨hopen, hcut, rfl, rfl, by decide, found, hfound, hget.trans (congrArg some hreread)⟩, rfl,
    Or.inl (.before _ _), rfl⟩

end Store
end RealmTokens
