/-
Removing all that one user has.

Which entries go is decided by the ids that stand in them, and each of them goes under the key that it
has by its parts.  Main statement: if entries are filed under such keys, those of the user that have a
key go, and nothing else does, whatever befalls the removals.
-/
import RealmTokens.Proofs.Store.Delegation
import RealmTokens.Proofs.Store.RoundTrip

namespace RealmTokens
namespace Store

open Token (Entry Key)

/-! ## Removals from any store -/

/-- A change is made, or the store stays as it is. -/
theorem change_cases (hazard : Hazard) (f : Entries → Entries) (s : Store) (disk : Disk) :
    ((s.change hazard f disk).result = .ok () ∧
        (s.change hazard f disk).store.entries.Same (f s.entries)) ∨
      ∃ failure, (s.change hazard f disk).result = .error failure ∧
        (s.change hazard f disk).store = s := by
  induction s with
  | memory entries => exact Or.inl ⟨rfl, hazard.arrange_same _⟩
  | file path entries =>
      rcases change_file_cases hazard f path entries disk with
        ⟨_, -, hchange⟩ | ⟨failure, _, -, hchange⟩
      · rw [hchange]
        exact Or.inl ⟨rfl, hazard.arrange_same _⟩
      · rw [hchange]
        exact Or.inr ⟨failure, rfl, rfl⟩
  | delegating primary replica ihp _ =>
      rcases ihp with hmade | ⟨failure, herror, hstore⟩
      · exact Or.inl hmade
      · right
        refine ⟨failure, herror, ?_⟩
        show Store.delegating (primary.change hazard f disk).store replica = _
        rw [hstore]

theorem entries_eraseAll (hazard : Hazard) (s : Store) (disk : Disk) (doomed : List Entry) :
    (s.eraseAll hazard disk doomed).store.entries.Same
        (Mutation.applyAll (removals hazard s disk doomed) s.entries) ∧
      removals hazard s disk doomed <+: doomed.filterMap removal? ∧
      ((s.eraseAll hazard disk doomed).result = .ok () ↔
        removals hazard s disk doomed = doomed.filterMap removal?) := by
  refine eraseAll_invariant (P := fun entries s _ => s.entries.Same entries)
    (fun entries s disk key hazard h => ?_) s.entries (.refl _) hazard doomed
  rcases change_cases hazard (fun entries => entries.erase key) s disk with
    ⟨hok, hmade⟩ | ⟨failure, herror, hstore⟩
  · left
    exact ⟨hok, hmade.trans (h.erase key)⟩
  · right
    have hsame : (s.erase hazard disk key).store = s := hstore
    refine ⟨failure, herror, ?_⟩
    rw [hsame]
    exact h

theorem removal?_eq_some_iff {e : Entry} {m : Mutation} :
    removal? e = some m ↔ ∃ key, Key.ofEntry? e = .ok key ∧ m = .erase key := by
  unfold removal?
  cases Key.ofEntry? e with
  | error failure => simp
  | ok key => simp [eq_comm]

/-- Removals leave the rows whose keys are not among theirs. -/
theorem mem_rows_applyAll {removed : List Mutation} (h : ∀ m ∈ removed, ∃ key, m = .erase key)
    (entries : Entries) (row : Key × Entry) :
    row ∈ (Mutation.applyAll removed entries).rows ↔
      row ∈ entries.rows ∧ Mutation.erase row.1 ∉ removed := by
  induction removed generalizing entries with
  | nil => simp [Mutation.applyAll]
  | cons m removed ih =>
      obtain ⟨key, rfl⟩ := h m List.mem_cons_self
      have hrest := ih (fun other hother => h other (List.mem_cons_of_mem _ hother))
        (entries.erase key)
      rw [Entries.mem_rows_erase] at hrest
      rw [List.mem_cons, not_or, Mutation.erase.injEq, ← and_assoc]
      exact hrest

/-! ## Entries of a user -/

/-- Whether an entry is of the user with an id that differs in case at most. -/
def IsOf (userId : String) (e : Entry) : Prop :=
  ∃ id, e.userId = some id ∧ Text.lowercase id = Text.lowercase userId

/-- Whether entries that have a key by their parts are filed under it. -/
def WellFiled (s : Store) : Prop :=
  ∀ key entry, s.get? key = some entry → ∀ own, Key.ofEntry? entry = .ok own → own = key

theorem wellFiled_iff {s : Store} :
    WellFiled s ↔ ∀ row ∈ s.entries.rows, ∀ own ∈ (Key.ofEntry? row.2).toOption, own = row.1 := by
  have hoption (e : Entry) (own : Key) :
      own ∈ (Key.ofEntry? e).toOption ↔ Key.ofEntry? e = .ok own := by
    cases Key.ofEntry? e with
    | error failure => simp [Except.toOption]
    | ok key => simp [Except.toOption]
  simp only [hoption]
  constructor
  · intro h row hrow
    exact h row.1 row.2 (Entries.get?_eq_some_iff.2 hrow)
  · intro h key entry hget
    exact h (key, entry) (Entries.get?_eq_some_iff.1 hget)

instance (s : Store) : Decidable (WellFiled s) :=
  decidable_of_iff _ wellFiled_iff.symm

theorem belongsTo_iff {userId : String} {e : Entry} :
    belongsTo userId e = true ↔ IsOf userId e := by
  unfold belongsTo IsOf
  cases e.userId with
  | none => simp
  | some id => simp

theorem mem_tokensForUser_iff {s : Store} {userId : String} {e : Entry} :
    e ∈ s.tokensForUser userId ↔ (∃ key, s.get? key = some e) ∧ IsOf userId e := by
  rw [tokensForUser, List.mem_filter, belongsTo_iff]
  refine and_congr_left (fun _ => ?_)
  rw [toList, Entries.toList, List.mem_map]
  constructor
  · rintro ⟨⟨key, entry⟩, hrow, rfl⟩
    exact ⟨key, Entries.get?_eq_some_iff.2 hrow⟩
  · rintro ⟨key, hget⟩
    exact ⟨(key, e), Entries.get?_eq_some_iff.1 hget, rfl⟩

/-- A key is among those to remove exactly when the entry under it is to go. -/
theorem erase_mem_changes_iff {s : Store} (filed : WellFiled s) {userId : String} {key : Key}
    {entry : Entry} (hget : s.get? key = some entry) :
    Mutation.erase key ∈ (s.tokensForUser userId).filterMap removal? ↔
      IsOf userId entry ∧ ∃ own, Key.ofEntry? entry = .ok own := by
  simp only [List.mem_filterMap, removal?_eq_some_iff, Mutation.erase.injEq]
  constructor
  · rintro ⟨e, he, own, hown, rfl⟩
    obtain ⟨⟨key', hget'⟩, hof⟩ := mem_tokensForUser_iff.1 he
    obtain rfl := filed key' e hget' key hown
    rw [hget] at hget'
    obtain rfl := Option.some.inj hget'
    exact ⟨hof, key, hown⟩
  · rintro ⟨hof, own, hown⟩
    exact ⟨entry, mem_tokensForUser_iff.2 ⟨⟨key, hget⟩, hof⟩, own, hown,
      (filed key entry hget own hown).symm⟩

theorem get?_clearTokensForUser_iff (hazard : Hazard) (s : Store) (disk : Disk) (userId : String)
    (key : Key) (entry : Entry) :
    (s.clearTokensForUser hazard disk userId).store.get? key = some entry ↔
      s.get? key = some entry ∧
        Mutation.erase key ∉ removals hazard s disk (s.tokensForUser userId) := by
  obtain ⟨hentries, hfront, -⟩ := entries_eraseAll hazard s disk (s.tokensForUser userId)
  have herasures : ∀ m ∈ removals hazard s disk (s.tokensForUser userId),
      ∃ key, m = .erase key := by
    intro m hm
    obtain ⟨e, -, he⟩ := List.mem_filterMap.1 (hfront.subset hm)
    obtain ⟨key, -, rfl⟩ := removal?_eq_some_iff.1 he
    exact ⟨key, rfl⟩
  rw [get?, get?, clearTokensForUser, hentries.get?_eq, Entries.get?_eq_some_iff,
    Entries.get?_eq_some_iff, mem_rows_applyAll herasures]

/-! ## Main statement -/

/-- If all goes well, those entries are left that are not of the user, and those that have no key.
Otherwise some more may be left, but no entry of another user has gone and none has changed.  Stores
that only follow keep all they have, and the file of a store holds what is left in the store. -/
theorem clearTokensForUser_exactly {s : Store} (filed : WellFiled s) (hazard : Hazard)
    (disk : Disk) (userId : String) :
    let outcome := s.clearTokensForUser hazard disk userId
    (outcome.result = .ok () → ∀ key entry, outcome.store.get? key = some entry ↔
      s.get? key = some entry ∧
        (¬IsOf userId entry ∨ ∃ failure, Key.ofEntry? entry = .error failure)) ∧
    (∀ key entry, outcome.store.get? key = some entry → s.get? key = some entry) ∧
    (∀ key entry, s.get? key = some entry → outcome.store.get? key = some entry ∨
      outcome.store.get? key = none ∧ IsOf userId entry ∧ Key.ofEntry? entry = .ok key) ∧
    outcome.store.leaves.tail = s.leaves.tail ∧
    ∀ path, openFile disk path = .ok s → openFile outcome.disk path = .ok outcome.store := by
  dsimp only
  obtain ⟨-, hfront, hall⟩ := entries_eraseAll hazard s disk (s.tokensForUser userId)
  have hleft := get?_clearTokensForUser_iff hazard s disk userId
  refine ⟨fun hok key entry => ?_, fun key entry hget => ((hleft key entry).1 hget).1,
    fun key entry hget => ?_, (atFirst_eraseAll hazard s disk _).tail_eq, fun path hopen => ?_⟩
  · rw [hleft key entry, hall.1 hok]
    refine and_congr_right (fun hget => ?_)
    rw [erase_mem_changes_iff filed hget, not_and_or]
    refine or_congr_right ?_
    cases Key.ofEntry? entry with
    | error failure => simp
    | ok own => simp
  · by_cases hgone : Mutation.erase key ∈ removals hazard s disk (s.tokensForUser userId)
    · right
      obtain ⟨hof, own, hown⟩ := (erase_mem_changes_iff filed hget).1 (hfront.subset hgone)
      refine ⟨?_, hof, filed key entry hget own hown ▸ hown⟩
      rw [Option.eq_none_iff_forall_ne_some]
      exact fun other hother => ((hleft key other).1 hother).2 hgone
    · exact Or.inl ((hleft key entry).2 ⟨hget, hgone⟩)
  · have hlive := ((live_of_openFile hopen).run (.clearTokensForUser userId) hazard).1
    -- Nothing is left that was not read from the file before.
    refine hlive.persisted.exactly (fun row hrow => denotable_of_openFile hopen row ?_)
    exact Entries.get?_eq_some_iff.1
      ((hleft row.1 row.2).1 (Entries.get?_eq_some_iff.2 hrow)).1

/-- A user with two entries and one that has no key, beside another user.  The second removal finds no
room in one run and succeeds in the other. -/
theorem clearTokensForUser_exactly_of_full_disk :
    let entry (resource client : Option String) (userId : String) : Entry :=
      ⟨"a", resource, client, none, none, none, none, false, none, none, some (.ofId userId)⟩
    let entries : Entries := ⟨[(⟨"a$r$c$n$ada"⟩, entry (some "r") (some "c") "ADA"),
      (⟨"a$s$c$n$ada"⟩, entry (some "s") (some "c") "ada"), (⟨"odd"⟩, entry none none "ada"),
      (⟨"a$r$c$n$bob"⟩, entry (some "r") (some "c") "bob")], by decide⟩
    let s : Store := .delegating (.file "tokens" entries) (.memory entries)
    let full : Disk.Hazard := fun n _ => if n = 1 then some ⟨.noSpace, 7⟩ else none
    let failed := s.clearTokensForUser full Disk.empty "Ada"
    let cleared := s.clearTokensForUser Disk.calm Disk.empty "Ada"
    WellFiled s ∧ failed.result = .error (.disk .noSpace) ∧
      failed.store.get? ⟨"a$r$c$n$bob"⟩ = s.get? ⟨"a$r$c$n$bob"⟩ ∧
      failed.store.get? ⟨"a$r$c$n$ada"⟩ = none ∧ cleared.result = .ok () ∧
      cleared.store.get? ⟨"a$s$c$n$ada"⟩ = none ∧
      cleared.store.get? ⟨"odd"⟩ = some (entry none none "ada") := by
  intro entry entries s full failed cleared
  have filed : WellFiled s := by decide +kernel
  have hok : cleared.result = .ok () := by decide +kernel
  have hbob : s.get? ⟨"a$r$c$n$bob"⟩ = some (entry (some "r") (some "c") "bob") := by
    decide +kernel
  have hodd : s.get? ⟨"odd"⟩ = some (entry none none "ada") := by decide +kernel
  have hkeyless : Key.ofEntry? (entry none none "ada") =
      .error (.argument .familyClientId .blank) := by
    decide +kernel
  obtain ⟨-, -, hkept, -⟩ := clearTokensForUser_exactly filed full Disk.empty "Ada"
  obtain ⟨hexact, -⟩ := clearTokensForUser_exactly filed Disk.calm Disk.empty "Ada"
  refine ⟨filed, by decide +kernel, ?_, by decide +kernel, hok, by decide +kernel, ?_⟩
  · rcases hkept _ _ hbob with hleft | ⟨-, ⟨id, hid, hsame⟩, -⟩
    · exact hleft.trans hbob.symm
    · obtain rfl : "bob" = id := Option.some.inj hid
      exact absurd hsame (by decide +kernel)
  · exact (hexact hok _ _).2 ⟨hodd, Or.inr ⟨_, hkeyless⟩⟩

end Store
end RealmTokens
