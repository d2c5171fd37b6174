/-
Lists of rows under keys, lists cut at a mark, lists of results, and the last element of a list that has
a property.
-/
import Mathlib.Data.List.Induction

namespace RealmTokens

/-! ## Rows -/

theorem lookup_filter_ne {α β : Type} [BEq α] [LawfulBEq α] [DecidableEq α] (key other : α)
    (rows : List (α × β)) :
    (rows.filter (fun row => row.1 ≠ key)).lookup other =
      if other = key then none else rows.lookup other := by
  induction rows with
  | nil => simp
  | cons row rows ih =>
      obtain ⟨k, value⟩ := row
      by_cases hk : k = key
      · rw [List.filter_cons_of_neg (by simpa using hk), ih]
        by_cases ho : other = key
        · rw [if_pos ho, if_pos ho]
        · have hne : (other == k) = false := beq_eq_false_iff_ne.2 (by rw [hk]; exact ho)
          rw [if_neg ho, if_neg ho, List.lookup_cons, hne]
      · rw [List.filter_cons_of_pos (by simpa using hk), List.lookup_cons, List.lookup_cons, ih]
        by_cases ho : other = k
        · have hne : ¬other = key := by rw [ho]; exact hk
          rw [if_neg hne, if_neg hne]
        · rw [beq_eq_false_iff_ne.2 ho]

/-! ## Parts -/

theorem not_mem_of_mem_splitOn {a : Char} {cs part : List Char} (h : part ∈ cs.splitOn a) :
    a ∉ part := by
  induction cs generalizing part with
  | nil =>
      rw [List.splitOn_nil, List.mem_singleton] at h
      rw [h]
      exact List.not_mem_nil
  | cons c cs ih =>
      rw [List.splitOn_cons_eq_if_modifyHead] at h
      split at h
      case isTrue =>
        rcases List.mem_cons.1 h with rfl | h
        · exact List.not_mem_nil
        · exact ih h
      case isFalse hc =>
        have hca : a ≠ c := by
          rintro rfl
          exact hc (beq_self_eq_true a)
        cases hs : cs.splitOn a with
        | nil => exact absurd hs (List.splitOn_ne_nil a cs)
        | cons first rest =>
            rw [hs, List.modifyHead_cons] at h
            rcases List.mem_cons.1 h with rfl | h
            · rw [List.mem_cons, not_or]
              exact ⟨hca, ih (by rw [hs]; exact List.mem_cons_self)⟩
            · exact ih (by rw [hs]; exact List.mem_cons_of_mem first h)

theorem mem_intercalate {α : Type} {mark x : α} {parts : List (List α)}
    (h : x ∈ [mark].intercalate parts) : x = mark ∨ ∃ part ∈ parts, x ∈ part := by
  induction parts with
  | nil => exact absurd h List.not_mem_nil
  | cons part rest ih =>
      cases rest with
      | nil =>
          rw [List.intercalate_singleton] at h
          exact Or.inr ⟨part, List.mem_singleton_self part, h⟩
      | cons next rest =>
          rw [List.intercalate_cons_cons, List.append_assoc, List.mem_append, List.mem_append] at h
          rcases h with h | h | h
          · exact Or.inr ⟨part, List.mem_cons_self, h⟩
          · exact Or.inl (List.mem_singleton.1 h)
          · exact (ih h).imp_right (fun ⟨other, hin, hx⟩ =>
              ⟨other, List.mem_cons_of_mem part hin, hx⟩)

theorem mem_intercalate_of_mem {α : Type} {mark : List α} {x : α} {parts : List (List α)}
    {part : List α} (hpart : part ∈ parts) (hx : x ∈ part) : x ∈ mark.intercalate parts := by
  induction parts with
  | nil => exact absurd hpart List.not_mem_nil
  | cons first rest ih =>
      cases rest with
      | nil =>
          obtain rfl := List.mem_singleton.1 hpart
          rwa [List.intercalate_singleton]
      | cons next rest =>
          rw [List.intercalate_cons_cons, List.append_assoc, List.mem_append, List.mem_append]
          rcases List.mem_cons.1 hpart with rfl | hpart
          · exact Or.inl hx
          · exact Or.inr (Or.inr (ih hpart))

/-- What stands in a part stands in the list that is split. -/
theorem mem_of_mem_splitOn {a c : Char} {cs part : List Char} (hpart : part ∈ cs.splitOn a)
    (hc : c ∈ part) : c ∈ cs := by
  have hjoin : [a].intercalate (cs.splitOn a) = cs := List.intercalate_splitOn a
  rw [← hjoin]
  exact mem_intercalate_of_mem hpart hc

/-! ## Results -/

theorem mapM_eq_some_of_forall {α β : Type} {f : α → Option β} {g : α → β} (xs : List α)
    (h : ∀ x ∈ xs, f x = some (g x)) : xs.mapM f = some (xs.map g) := by
  induction xs with
  | nil => rfl
  | cons x xs ih =>
      rw [List.mapM_cons, h x List.mem_cons_self, ih (fun y hy => h y (List.mem_cons_of_mem x hy))]
      rfl

/-- What is written for each element is read back, and so is what is written for all of them. -/
theorem mapM_map_eq_some {α β : Type} {write : α → β} {read : β → Option α} {xs : List α}
    (h : ∀ x ∈ xs, read (write x) = some x) : (xs.map write).mapM read = some xs := by
  have hmap := mapM_eq_some_of_forall (f := read ∘ write) (g := fun x => x) xs h
  rwa [List.map_id', ← List.mapM_map] at hmap

theorem exists_of_mem_of_mapM {α β : Type} {f : α → Option β} {xs : List α} {ys : List β}
    (h : xs.mapM f = some ys) {y : β} (hy : y ∈ ys) : ∃ x ∈ xs, f x = some y := by
  induction xs generalizing ys with
  | nil =>
      obtain rfl := Option.some.inj h
      exact absurd hy List.not_mem_nil
  | cons x xs ih =>
      rw [List.mapM_cons] at h
      obtain ⟨first, hfirst, hrest⟩ := Option.bind_eq_some_iff.1 h
      obtain ⟨rest, hxs, hys⟩ := Option.bind_eq_some_iff.1 hrest
      obtain rfl := Option.some.inj hys
      rcases List.mem_cons.1 hy with rfl | hy
      · exact ⟨x, List.mem_cons_self, hfirst⟩
      · obtain ⟨z, hz, hfz⟩ := ih hxs hy
        exact ⟨z, List.mem_cons_of_mem x hz, hfz⟩

theorem isSome_of_mem_of_mapM {α β : Type} {f : α → Option β} {xs : List α} {ys : List β}
    (h : xs.mapM f = some ys) {x : α} (hx : x ∈ xs) : (f x).isSome := by
  induction xs generalizing ys with
  | nil => exact absurd hx List.not_mem_nil
  | cons z xs ih =>
      rw [List.mapM_cons] at h
      obtain ⟨first, hfirst, hrest⟩ := Option.bind_eq_some_iff.1 h
      obtain ⟨rest, hxs, -⟩ := Option.bind_eq_some_iff.1 hrest
      rcases List.mem_cons.1 hx with rfl | hx
      · rw [hfirst]
        rfl
      · exact ih hxs hx

/-- Results that tell from what they were made tell the whole list. -/
theorem map_eq_of_mapM {α β : Type} {f : α → Option β} {g : β → α} {xs : List α} {ys : List β}
    (h : xs.mapM f = some ys) (hback : ∀ x ∈ xs, ∀ y, f x = some y → g y = x) : ys.map g = xs := by
  induction xs generalizing ys with
  | nil =>
      obtain rfl := Option.some.inj h
      rfl
  | cons x xs ih =>
      rw [List.mapM_cons] at h
      obtain ⟨first, hfirst, hrest⟩ := Option.bind_eq_some_iff.1 h
      obtain ⟨rest, hlater, hys⟩ := Option.bind_eq_some_iff.1 hrest
      obtain rfl := Option.some.inj hys
      rw [List.map_cons, hback x List.mem_cons_self first hfirst,
        ih hlater (fun y hy => hback y (List.mem_cons_of_mem x hy))]

theorem ne_nil_of_mapM {α β : Type} {f : α → Option β} {xs : List α} {ys : List β}
    (h : xs.mapM f = some ys) (hne : xs ≠ []) : ys ≠ [] := by
  obtain ⟨x, xs, rfl⟩ := List.exists_cons_of_ne_nil hne
  rw [List.mapM_cons] at h
  obtain ⟨first, -, hrest⟩ := Option.bind_eq_some_iff.1 h
  obtain ⟨rest, -, hys⟩ := Option.bind_eq_some_iff.1 hrest
  obtain rfl := Option.some.inj hys
  exact List.cons_ne_nil first rest

/-- All elements have a result if each of them is good, and the results are the images then. -/
theorem mapM_eq_ok_iff {α β ε : Type} {f : α → Except ε β} {p : α → Prop} {g : α → β}
    (h : ∀ x y, f x = .ok y ↔ p x ∧ y = g x) {xs : List α} {ys : List β} :
    xs.mapM f = .ok ys ↔ (∀ x ∈ xs, p x) ∧ ys = xs.map g := by
  induction xs generalizing ys with
  | nil =>
      show Except.ok [] = Except.ok ys ↔ _
      rw [Except.ok.injEq, and_iff_right (fun x hx => absurd hx List.not_mem_nil)]
      exact eq_comm
  | cons x xs ih =>
      rw [List.mapM_cons, List.forall_mem_cons]
      cases hx : f x with
      | error e =>
          have hbad : ¬p x := fun hp => by
            rw [(h x (g x)).2 ⟨hp, rfl⟩] at hx
            cases hx
          exact iff_of_false (fun heq => nomatch heq) (fun hall => hbad hall.1.1)
      | ok y =>
          obtain ⟨hp, rfl⟩ := (h x y).1 hx
          cases hxs : xs.mapM f with
          | error e =>
              refine iff_of_false (fun heq => nomatch heq) (fun hall => ?_)
              rw [ih.2 ⟨hall.1.2, rfl⟩] at hxs
              cases hxs
          | ok rest =>
              obtain ⟨hrest, rfl⟩ := ih.1 hxs
              show Except.ok (g x :: xs.map g) = Except.ok ys ↔ _
              rw [Except.ok.injEq, and_iff_right ⟨hp, hrest⟩]
              exact eq_comm

/-! ## The last element with a property -/

/-- The element at a place of a list, behind which no element has the property. -/
structure LastAt {α : Type} (p : α → Prop) (xs : List α) (place : Nat) (x : α) : Prop where
  getElem?_eq : xs[place]? = some x
  holds : p x
  later : ∀ next y, place < next → xs[next]? = some y → ¬p y

section LastAt

variable {α : Type} {p : α → Prop} {xs : List α} {x y : α} {place next : Nat}

theorem LastAt.lt_length (h : LastAt p xs place x) : place < xs.length :=
  (List.getElem?_eq_some_iff.1 h.getElem?_eq).1

theorem LastAt.mem (h : LastAt p xs place x) : x ∈ xs :=
  List.mem_of_getElem? h.getElem?_eq

theorem LastAt.congr {q : α → Prop} (h : LastAt p xs place x) (hiff : ∀ y, p y ↔ q y) :
    LastAt q xs place x :=
  ⟨h.getElem?_eq, (hiff x).1 h.holds, fun next y hlt hy hq => h.later next y hlt hy ((hiff y).2 hq)⟩

theorem not_lastAt_nil : ¬LastAt p [] place x :=
  fun h => absurd h.lt_length (Nat.not_lt_zero place)

/-- A new element at the end is the last one with the property, or does not have it. -/
theorem lastAt_append_singleton_iff :
    LastAt p (xs ++ [y]) place x ↔
      (place = xs.length ∧ x = y ∧ p y) ∨ (¬p y ∧ LastAt p xs place x) := by
  have hlast : (xs ++ [y])[xs.length]? = some y := by simp
  constructor
  · intro h
    have hle : place < xs.length + 1 := by simpa using h.lt_length
    rcases Nat.lt_succ_iff_lt_or_eq.1 hle with hlt | rfl
    · right
      refine ⟨h.later xs.length y hlt hlast, ?_, h.holds, ?_⟩
      · have hleft : (xs ++ [y])[place]? = xs[place]? := List.getElem?_append_left hlt
        exact hleft.symm.trans h.getElem?_eq
      · intro next z hnext hz
        have hin : next < xs.length := (List.getElem?_eq_some_iff.1 hz).1
        exact h.later next z hnext (by rw [List.getElem?_append_left hin, hz])
    · left
      have hxy : x = y := Option.some.inj (h.getElem?_eq.symm.trans hlast)
      exact ⟨rfl, hxy, hxy ▸ h.holds⟩
  · rintro (⟨rfl, rfl, hp⟩ | ⟨hp, h⟩)
    · refine ⟨hlast, hp, fun next z hnext hz => ?_⟩
      have hin : next < xs.length + 1 := by simpa using (List.getElem?_eq_some_iff.1 hz).1
      omega
    · refine ⟨?_, h.holds, fun next z hnext hz => ?_⟩
      · rw [List.getElem?_append_left h.lt_length, h.getElem?_eq]
      · have hin : next < xs.length + 1 := by simpa using (List.getElem?_eq_some_iff.1 hz).1
        rcases Nat.lt_succ_iff_lt_or_eq.1 hin with hlt | rfl
        · rw [List.getElem?_append_left hlt] at hz
          exact h.later next z hnext hz
        · rw [← Option.some.inj (hlast.symm.trans hz)]
          exact hp

theorem lastAt_singleton_iff : LastAt p [y] place x ↔ place = 0 ∧ x = y ∧ p y := by
  rw [← List.nil_append [y], lastAt_append_singleton_iff]
  simp [not_lastAt_nil]

theorem lastAt_map_iff {β : Type} {f : β → α} {zs : List β} :
    LastAt p (zs.map f) place x ↔ ∃ z, f z = x ∧ LastAt (fun z => p (f z)) zs place z := by
  constructor
  · rintro ⟨hx, hp, hlater⟩
    rw [List.getElem?_map, Option.map_eq_some_iff] at hx
    obtain ⟨z, hz, rfl⟩ := hx
    refine ⟨z, rfl, hz, hp, fun next w hnext hw => ?_⟩
    exact hlater next (f w) hnext (by rw [List.getElem?_map, hw]; rfl)
  · rintro ⟨z, rfl, hz, hp, hlater⟩
    refine ⟨by rw [List.getElem?_map, hz]; rfl, hp, fun next w hnext hw => ?_⟩
    rw [List.getElem?_map, Option.map_eq_some_iff] at hw
    obtain ⟨v, hv, rfl⟩ := hw
    exact hlater next v hnext hv

/-- Where some element has the property, one is the last. -/
theorem exists_lastAt (h : ∃ x ∈ xs, p x) : ∃ place x, LastAt p xs place x := by
  induction xs using List.reverseRecOn with
  | nil => simp at h
  | append_singleton xs y ih =>
      by_cases hy : p y
      · exact ⟨_, _, lastAt_append_singleton_iff.2 (Or.inl ⟨rfl, rfl, hy⟩)⟩
      · obtain ⟨x, hx, hp⟩ := h
        have hxs : x ∈ xs := by
          rcases List.mem_append.1 hx with hx | hx
          · exact hx
          · exact absurd (List.mem_singleton.1 hx ▸ hp) hy
        obtain ⟨place, z, hz⟩ := ih ⟨x, hxs, hp⟩
        exact ⟨place, z, lastAt_append_singleton_iff.2 (Or.inr ⟨hy, hz⟩)⟩

/-- No place behind the last one has the property. -/
theorem LastAt.le (h : LastAt p xs place x) (hy : xs[next]? = some y) (hp : p y) : next ≤ place :=
  Nat.le_of_not_lt (fun hlt => h.later next y hlt hy hp)

end LastAt

end RealmTokens
