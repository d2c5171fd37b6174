/-
A store over a snapshot file, in use.

A use may fail at any of its calls, and its failure is told to the caller.  Between two uses others may
change what they like on the disk, as long as the path of the store reads as before.  `Session` keeps the
store and the disk together with the changes that were made, and `Live` is what every use preserves: the
file holds the entries that the store shows.  Main statement: whoever opens the file after any uses
finds the entries of the live store, and these are what the changes that succeeded make of the first
ones.
-/
import RealmTokens.Proofs.Store.Footprint
import RealmTokens.Store.Query

namespace RealmTokens
namespace Store

open Token (Entry Key)

/-! ## Changes and uses -/

/-- A change that is made in one write. -/
inductive Mutation where
  | insert (key : Key) (entry : Entry)
  | erase (key : Key)
  | clear

namespace Mutation

def apply : Mutation → Entries → Entries
  | .insert key entry, entries => entries.insert key entry
  | .erase key, entries => entries.erase key
  | .clear, _ => Entries.empty

def applyAll (mutations : List Mutation) (entries : Entries) : Entries :=
  mutations.foldl (fun entries m => m.apply entries) entries

theorem apply_same (m : Mutation) {a b : Entries} (h : a.Same b) : (m.apply a).Same (m.apply b) := by
  cases m with
  | insert key entry => exact h.insert key entry
  | erase key => exact h.erase key
  | clear => exact .refl _

def run (hazard : Hazard) (s : Store) (disk : Disk) : Mutation → Outcome
  | .insert key entry => s.insert hazard disk key entry
  | .erase key => s.erase hazard disk key
  | .clear => s.clear hazard disk

theorem run_file (m : Mutation) (hazard : Hazard) (path : String) (entries : Entries)
    (disk : Disk) :
    m.run hazard (.file path entries) disk =
      (Store.file path entries).change hazard m.apply disk := by
  cases m <;> rfl

end Mutation

/-- The removal of an entry, under the key that it has by its parts. -/
def removal? (e : Entry) : Option Mutation :=
  match Key.ofEntry? e with
  | .error _ => none
  | .ok key => some (.erase key)

/-- The removals that are made before one fails. -/
def removals (hazard : Hazard) (s : Store) (disk : Disk) : List Entry → List Mutation
  | [] => []
  | e :: rest =>
      match Key.ofEntry? e with
      | .error _ => removals hazard s disk rest
      | .ok key =>
          let outcome := s.erase hazard disk key
          match outcome.result with
          | .error _ => []
          | .ok () => .erase key :: removals hazard.later outcome.store outcome.disk rest

inductive Operation where
  | mutate (m : Mutation)
  | clearTokensForUser (userId : String)

namespace Operation

def run (hazard : Hazard) (s : Store) (disk : Disk) : Operation → Outcome
  | .mutate m => m.run hazard s disk
  | .clearTokensForUser userId => s.clearTokensForUser hazard disk userId

/-- The changes that an operation is made of. -/
def changes (s : Store) : Operation → List Mutation
  | .mutate m => [m]
  | .clearTokensForUser userId => (s.tokensForUser userId).filterMap removal?

/-- Those of its changes that are made. -/
def made (hazard : Hazard) (s : Store) (disk : Disk) : Operation → List Mutation
  | .mutate m =>
      match (m.run hazard s disk).result with
      | .error _ => []
      | .ok () => [m]
  | .clearTokensForUser userId => removals hazard s disk (s.tokensForUser userId)

end Operation

/-- A store and its disk, and the changes that were made since the store was opened. -/
structure Session where
  store : Store
  disk : Disk
  made : List Mutation

namespace Session

def use (session : Session) (operation : Operation) (hazard : Hazard) : Session :=
  let outcome := operation.run hazard session.store session.disk
  ⟨outcome.store, outcome.disk,
    session.made ++ operation.made hazard session.store session.disk⟩

def after (store : Store) (disk : Disk) (uses : List (Operation × Hazard)) : Session :=
  uses.foldl (fun session one => session.use one.1 one.2) ⟨store, disk, []⟩

end Session

/-! ## Removals -/

/-- Removals are made one by one, up to the first that fails.  What each of them keeps holds in the end,
of the entries without those that were removed. -/
theorem eraseAll_invariant {P : Entries → Store → Disk → Prop}
    (hstep : ∀ entries s disk key hazard, P entries s disk →
      ((s.erase hazard disk key).result = .ok () ∧
        P (entries.erase key) (s.erase hazard disk key).store (s.erase hazard disk key).disk) ∨
      ∃ failure, (s.erase hazard disk key).result = .error failure ∧
        P entries (s.erase hazard disk key).store (s.erase hazard disk key).disk)
    (entries : Entries) {s : Store} {disk : Disk} (h : P entries s disk) (hazard : Hazard)
    (doomed : List Entry) :
    P (Mutation.applyAll (removals hazard s disk doomed) entries)
        (s.eraseAll hazard disk doomed).store (s.eraseAll hazard disk doomed).disk ∧
      removals hazard s disk doomed <+: doomed.filterMap removal? ∧
      ((s.eraseAll hazard disk doomed).result = .ok () ↔
        removals hazard s disk doomed = doomed.filterMap removal?) := by
  -- Each removal moves the store, the disk and the hazard on, and the entries with them.
  induction doomed generalizing entries s disk hazard with
  | nil => exact ⟨h, List.prefix_refl [], iff_of_true rfl rfl⟩
  | cons e rest ih =>
      cases hkey : Key.ofEntry? e with
      | error failure =>
          have hnone : removal? e = none := by rw [removal?, hkey]
          rw [List.filterMap_cons_none hnone]
          simp only [Store.eraseAll, removals, hkey]
          exact ih entries h hazard
      | ok key =>
          have hsome : removal? e = some (.erase key) := by rw [removal?, hkey]
          rw [List.filterMap_cons_some hsome]
          simp only [Store.eraseAll, removals, hkey]
          rcases hstep entries s disk key hazard h with ⟨hok, hmade⟩ | ⟨failure, herror, hkept⟩
          · obtain ⟨hrest, hfront, hall⟩ := ih _ hmade hazard.later
            rw [hok]
            refine ⟨hrest, (List.prefix_cons_inj _).2 hfront, ?_⟩
            rw [List.cons.injEq, and_iff_right rfl]
            exact hall
          · rw [herror]
            exact ⟨hkept, List.nil_prefix, iff_of_false (fun heq => nomatch heq)
              (fun heq => nomatch heq)⟩

/-! ## The invariant -/

/-- What somebody finds who opens the file of a store: its entries, with the expiries that their texts
denote, so just these entries if every expiry has a text of its own. -/
structure Persisted (path : String) (s : Store) (disk : Disk) : Prop where
  reread : openFile disk path = .ok (.file path s.entries.reread)
  exactly : s.entries.Denotable → openFile disk path = .ok s

/-- Under each key is found what the store holds, with the expiry that its text denotes. -/
theorem Persisted.exists_get? {path : String} {s : Store} {disk : Disk} (h : Persisted path s disk)
    (key : Key) :
    ∃ found, openFile disk path = .ok found ∧ found.get? key = (s.get? key).map Entry.reread :=
  ⟨_, h.reread, s.entries.get?_reread key⟩

/-- A store whose entries are these, in some order, and lie in its file. -/
structure Live (path : String) (entries : Entries) (s : Store) (disk : Disk) : Prop where
  named : (Disk.fileName? path).isSome = true
  store_eq : s = .file path s.entries
  same : s.entries.Same entries
  load_eq : Snapshot.load disk path = .ok s.entries.reread

theorem openFile_eq_ok_iff {disk : Disk} {path : String} {s : Store} :
    openFile disk path = .ok s ↔ (Disk.fileName? path).isSome = true ∧
      ∃ entries, s = .file path entries ∧ Snapshot.load disk path = .ok entries := by
  unfold openFile
  constructor
  · intro h
    split at h
    · cases h
    case isFalse hname =>
      rw [Option.isNone_iff_eq_none, ← ne_eq, ← Option.isSome_iff_ne_none] at hname
      cases hload : Snapshot.load disk path with
      | error failure =>
          rw [hload] at h
          cases h
      | ok entries =>
          rw [hload] at h
          cases h
          exact ⟨hname, entries, rfl, rfl⟩
  · rintro ⟨hname, entries, rfl, hload⟩
    have hsome : (Disk.fileName? path).isNone = false := by
      rw [Option.isNone_eq_false_iff]
      exact hname
    rw [hsome, hload]
    rfl

theorem denotable_of_openFile {disk : Disk} {path : String} {s : Store}
    (h : openFile disk path = .ok s) : s.entries.Denotable := by
  obtain ⟨-, entries, rfl, hload⟩ := openFile_eq_ok_iff.1 h
  exact Snapshot.denotable_of_load hload

/-- What was read from a file is read again as it is. -/
theorem live_of_openFile {disk : Disk} {path : String} {s : Store}
    (h : openFile disk path = .ok s) : Live path s.entries s disk := by
  have hreread := Entries.reread_of_denotable (denotable_of_openFile h)
  obtain ⟨hname, entries, rfl, hload⟩ := openFile_eq_ok_iff.1 h
  exact ⟨hname, rfl, .refl _, hload.trans (congrArg Except.ok hreread.symm)⟩

namespace Live

variable {path : String} {entries : Entries} {s : Store} {disk : Disk}

theorem persisted (h : Live path entries s disk) : Persisted path s disk := by
  have hfound : openFile disk path = .ok (.file path s.entries.reread) :=
    openFile_eq_ok_iff.2 ⟨h.named, s.entries.reread, rfl, h.load_eq⟩
  refine ⟨hfound, fun denotable => ?_⟩
  rw [hfound, Entries.reread_of_denotable denotable, ← h.store_eq]

/-- Whatever happens on the disk does not matter to a store whose path reads as before. -/
theorem congr (h : Live path entries s disk) {after : Disk} (hread : after.read path = disk.read path) :
    Live path entries s after :=
  ⟨h.named, h.store_eq, h.same, (Snapshot.load_congr hread).trans h.load_eq⟩

/-- A change either is made, in the store and in its file, or fails and is made in neither. -/
theorem run_mutation (h : Live path entries s disk) (m : Mutation) (hazard : Hazard) :
    ((m.run hazard s disk).result = .ok () ∧
        Live path (m.apply entries) (m.run hazard s disk).store (m.run hazard s disk).disk) ∨
      ∃ failure, (m.run hazard s disk).result = .error failure ∧
        (m.run hazard s disk).store = s ∧ (m.run hazard s disk).disk.read path = disk.read path ∧
        Live path entries s (m.run hazard s disk).disk := by
  obtain ⟨shown, rfl⟩ : ∃ shown, s = .file path shown := ⟨_, h.store_eq⟩
  rw [m.run_file]
  rcases change_file_cases hazard m.apply path shown disk with
    ⟨after, hsave, hchange⟩ | ⟨failure, after, hsave, hchange⟩
  · left
    rw [hchange]
    exact ⟨rfl, h.named, rfl, (hazard.arrange_same _).trans (m.apply_same h.same),
      Snapshot.load_of_save_ok h.named hsave⟩
  · right
    have hread := Snapshot.read_of_save_error h.named hsave
    rw [hchange]
    exact ⟨failure, rfl, rfl, hread, h.congr hread⟩

theorem run_ok (h : Live path entries s disk) {m : Mutation} {hazard : Hazard}
    (hok : (m.run hazard s disk).result = .ok ()) :
    Live path (m.apply entries) (m.run hazard s disk).store (m.run hazard s disk).disk := by
  rcases h.run_mutation m hazard with ⟨-, hmade⟩ | ⟨failure, herror, -⟩
  · exact hmade
  · cases hok.symm.trans herror

theorem run_error (h : Live path entries s disk) {m : Mutation} {hazard : Hazard} {failure : Failure}
    (herror : (m.run hazard s disk).result = .error failure) :
    (m.run hazard s disk).store = s ∧ (m.run hazard s disk).disk.read path = disk.read path ∧
      Live path entries s (m.run hazard s disk).disk := by
  rcases h.run_mutation m hazard with ⟨hok, -⟩ | ⟨_, -, hkept⟩
  · cases hok.symm.trans herror
  · exact hkept

theorem eraseAll (h : Live path entries s disk) (hazard : Hazard) (doomed : List Entry) :
    Live path (Mutation.applyAll (removals hazard s disk doomed) entries)
        (s.eraseAll hazard disk doomed).store (s.eraseAll hazard disk doomed).disk ∧
      removals hazard s disk doomed <+: doomed.filterMap removal? ∧
      ((s.eraseAll hazard disk doomed).result = .ok () ↔
        removals hazard s disk doomed = doomed.filterMap removal?) := by
  refine eraseAll_invariant (P := Live path) (fun entries s disk key hazard hlive => ?_) entries h
    hazard doomed
  rcases hlive.run_mutation (.erase key) hazard with
    hmade | ⟨failure, herror, hstore, -, hkept⟩
  · exact Or.inl hmade
  · right
    have hsame : (s.erase hazard disk key).store = s := hstore
    refine ⟨failure, herror, ?_⟩
    rw [hsame]
    exact hkept

/-- Any operation: what it makes of its changes is a front part of them, in the store and in its file,
and it succeeds exactly when that is all of them. -/
theorem run (h : Live path entries s disk) (operation : Operation) (hazard : Hazard) :
    Live path (Mutation.applyAll (operation.made hazard s disk) entries)
        (operation.run hazard s disk).store (operation.run hazard s disk).disk ∧
      operation.made hazard s disk <+: operation.changes s ∧
      ((operation.run hazard s disk).result = .ok () ↔
        operation.made hazard s disk = operation.changes s) := by
  cases operation with
  | mutate m =>
      simp only [Operation.made, Operation.run, Operation.changes]
      rcases h.run_mutation m hazard with ⟨hok, hlive⟩ | ⟨failure, herror, hstore, -, hlive⟩
      · rw [hok]
        exact ⟨hlive, List.prefix_refl [m], iff_of_true rfl rfl⟩
      · rw [herror, hstore]
        exact ⟨hlive, List.nil_prefix, iff_of_false (fun heq => nomatch heq)
          (fun heq => nomatch heq)⟩
  | clearTokensForUser userId => exact h.eraseAll hazard (s.tokensForUser userId)

end Live

/-! ## Sessions -/

/-- A store in use, beside others who change what they like on its disk but what its path reads as. -/
inductive InUse (path : String) (opened : Store) (start : Disk) : Session → Prop where
  | opened : InUse path opened start ⟨opened, start, []⟩
  | used {session : Session} (h : InUse path opened start session) (operation : Operation)
      (hazard : Hazard) : InUse path opened start (session.use operation hazard)
  | meanwhile {session : Session} {disk : Disk} (h : InUse path opened start session)
      (hread : disk.read path = session.disk.read path) :
      InUse path opened start { session with disk }

/-- One use, with what it adds to the changes that were made. -/
theorem Session.live_use {path : String} {opened : Entries} {session : Session}
    (h : Live path (Mutation.applyAll session.made opened) session.store session.disk)
    (operation : Operation) (hazard : Hazard) :
    let now := session.use operation hazard
    Live path (Mutation.applyAll now.made opened) now.store now.disk := by
  obtain ⟨hlive, -, -⟩ := h.run operation hazard
  have hmade : Mutation.applyAll (session.use operation hazard).made opened =
      Mutation.applyAll (operation.made hazard session.store session.disk)
        (Mutation.applyAll session.made opened) := by
    rw [Mutation.applyAll, Session.use, List.foldl_append]
    rfl
  dsimp only
  rw [hmade]
  exact hlive

theorem InUse.live {path : String} {opened : Store} {start : Disk} {session : Session}
    (hopen : openFile start path = .ok opened) (h : InUse path opened start session) :
    Live path (Mutation.applyAll session.made opened.entries) session.store session.disk := by
  induction h with
  | opened => exact live_of_openFile hopen
  | used _ operation hazard ih => exact Session.live_use ih operation hazard
  | meanwhile _ hread ih => exact ih.congr hread

/-- Whatever befalls the uses of an opened store, its file holds its entries.  A change that fails is
made neither in the store nor in its file, and an operation of several changes makes those in front of
the first that fails. -/
theorem openFile_after_uses {disk : Disk} {path : String} {store : Store}
    (hopen : openFile disk path = .ok store) {now : Session} (h : InUse path store disk now) :
    Persisted path now.store now.disk ∧
      now.store.entries.Same (Mutation.applyAll now.made store.entries) ∧
      (∀ (m : Mutation) (hazard : Hazard),
        let outcome := m.run hazard now.store now.disk
        (outcome.result = .ok () →
          outcome.store.entries.Same (m.apply now.store.entries) ∧
            Persisted path outcome.store outcome.disk) ∧
        (∀ failure, outcome.result = .error failure →
          outcome.store = now.store ∧ outcome.disk.read path = now.disk.read path ∧
            Persisted path now.store outcome.disk)) ∧
      (∀ (operation : Operation) (hazard : Hazard),
        let outcome := operation.run hazard now.store now.disk
        let made := operation.made hazard now.store now.disk
        made <+: operation.changes now.store ∧
          (outcome.result = .ok () ↔ made = operation.changes now.store) ∧
          outcome.store.entries.Same (Mutation.applyAll made now.store.entries) ∧
          Persisted path outcome.store outcome.disk) := by
  have hlive := h.live hopen
  have hnow : Live path now.store.entries now.store now.disk :=
    ⟨hlive.named, hlive.store_eq, .refl _, hlive.load_eq⟩
  refine ⟨hlive.persisted, hlive.same, ?_, ?_⟩
  · intro m hazard
    constructor
    · intro hok
      exact ⟨(hnow.run_ok hok).same, (hnow.run_ok hok).persisted⟩
    · intro failure herror
      obtain ⟨hstore, hread, hkept⟩ := hnow.run_error herror
      exact ⟨hstore, hread, hkept.persisted⟩
  · intro operation hazard
    obtain ⟨hmade, hfront, hall⟩ := hnow.run operation hazard
    exact ⟨hfront, hall, hmade.same, hmade.persisted⟩

/-- An entry that expires in a leap second is filed.  Emptying the store then fails behind a staging file
that is written and stays; somebody else removes it, and another change fails behind its seventh byte. -/
theorem openFile_after_uses_of_full_disk :
    let key : Key := ⟨"k"⟩
    let leap : Time.Instant := ⟨1483228799, 1500000000, by decide, by decide, by decide⟩
    let entry : Entry := ⟨"a", none, none, none, none, none, some leap, false, none, none, none⟩
    let opened : Store := .file "tokens" Entries.empty
    let stuck : Disk.Hazard := fun _ call =>
      match call with
      | .rename _ _ => some ⟨.noSpace, 0⟩
      | .remove _ => some ⟨.noSpace, 0⟩
      | _ => none
    let full : Disk.Hazard := fun _ call =>
      match call with
      | .append _ _ => some ⟨.noSpace, 7⟩
      | _ => none
    let filed := Session.use ⟨opened, Disk.empty, []⟩ (.mutate (.insert key entry)) Disk.calm
    let stopped := filed.use (.mutate .clear) stuck
    let tidied : Session := { stopped with disk := stopped.disk.erase ["tokens.tmp"] }
    let now := tidied.use (.mutate (.erase key)) full
    openFile Disk.empty "tokens" = .ok opened ∧
      stopped.disk.read "tokens.tmp" = .ok (Snapshot.bytes Entries.empty) ∧
      InUse "tokens" opened Disk.empty now ∧ now.made = [.insert key entry] ∧
      now.store.get? key = some entry ∧ openFile now.disk "tokens" = .ok now.store := by
  intro key leap entry opened stuck full filed stopped tidied now
  have hopen : openFile Disk.empty "tokens" = .ok opened := rfl
  have hread : tidied.disk.read "tokens" = stopped.disk.read "tokens" := rfl
  have hnow : InUse "tokens" opened Disk.empty now :=
    .used (.meanwhile (.used (.used .opened _ _) _ _) hread) _ _
  exact ⟨hopen, rfl, hnow, rfl, rfl, (openFile_after_uses hopen hnow).1.exactly (by decide +kernel)⟩

/-- An expiry in a leap second that ends no minute is read back as another one.  A file in the way of a
directory makes a change fail, as it should, and the path cannot be opened any more.  And an operation of
two changes that fails at the second has made the first. -/
theorem not_openFile_after_uses :
    let key : Key := ⟨"k"⟩
    let leap : Time.Instant := ⟨1483228796, 1500000000, by decide, by decide, by decide⟩
    let behind : Time.Instant := ⟨1483228797, 500000000, by decide, by decide, by decide⟩
    let entry (expiresOn : Time.Instant) : Entry :=
      ⟨"a", none, none, none, none, none, some expiresOn, false, none, none, none⟩
    let filed := (Mutation.insert key (entry leap)).run Disk.calm (.file "tokens" Entries.empty)
      Disk.empty
    let blocked : Disk := ⟨[(["d"], .file [0x78] 0o644)]⟩
    let stopped := Mutation.clear.run Disk.calm (.file "d/tokens" Entries.empty) blocked
    let ada (client : String) : Key × Entry := (⟨"a$$" ++ client ++ "$y$ada"⟩,
      ⟨"a", none, some client, none, none, none, none, true, none, none, some (.ofId "ada")⟩)
    let two : Store := .file "tokens" ⟨[ada "c", ada "d"], by decide +kernel⟩
    let full : Disk.Hazard := fun n _ => if n = 1 then some ⟨.noSpace, 7⟩ else none
    let cleared := two.clearTokensForUser full Disk.empty "ada"
    (openFile Disk.empty "tokens" = .ok (.file "tokens" Entries.empty) ∧ filed.result = .ok () ∧
        filed.store.get? key = some (entry leap) ∧ entry leap ≠ entry behind ∧
        ∃ found, openFile filed.disk "tokens" = .ok found ∧ found.get? key = some (entry behind)) ∧
      (openFile Disk.empty "d/tokens" = .ok (.file "d/tokens" Entries.empty) ∧
        stopped.result = .error (.disk .notADirectory) ∧ stopped.disk = blocked ∧
        openFile blocked "d/tokens" = .error (.corruptSnapshot "d/tokens" .unreadable)) ∧
      cleared.result = .error (.disk .noSpace) ∧
        cleared.store.toList = [(ada "d").2] ∧ two.toList = [(ada "c").2, (ada "d").2] := by
  intro key leap behind entry filed blocked stopped ada two full cleared
  have hopen : openFile Disk.empty "tokens" = .ok (.file "tokens" Entries.empty) := rfl
  have hok : filed.result = .ok () := rfl
  have hfiled := (live_of_openFile hopen).run_ok hok
  obtain ⟨found, hfound, hget⟩ := hfiled.persisted.exists_get? key
  have hreread : (entry leap).reread = entry behind := by decide +kernel
  exact ⟨⟨hopen, hok, rfl, by decide, found, hfound, hget.trans (congrArg some hreread)⟩,
    ⟨rfl, rfl, rfl, rfl⟩, by decide +kernel, by decide +kernel, by decide +kernel⟩

end Store
end RealmTokens
