/-
Documents that are cut short.

A document may end where nothing is open around the last byte.  What follows there is white space, or
more of a number, and never the end of a list or object.  Main statement: no front part of a written list
or object is a document, wherever it is cut.
-/
import RealmTokens.Proofs.Json.Documents

namespace RealmTokens
namespace Json

/-! ## Where a document may end -/

namespace State

/-- Whether nothing is open around the current byte but a number. -/
inductive Outermost : State → Prop where
  | after (value : Json) : Outermost ⟨[], .after value⟩
  | number (read : RawText) (part : NumberPart) : Outermost ⟨[], .number read part⟩

theorem outermost_of_finish? {s : State} {v : Json} (h : s.finish? = some v) : s.Outermost := by
  unfold finish? at h
  split at h
  case h_1 hstack hmode =>
    obtain ⟨stack, mode⟩ := s
    cases hstack
    cases hmode
    exact .after _
  case h_2 hstack hmode =>
    obtain ⟨stack, mode⟩ := s
    cases hstack
    cases hmode
    exact .number _ _
  case h_3 => cases h

theorem after?_nil_eq_some {value : Json} {b : UInt8} {t : State}
    (h : after? [] value b = some t) : isBlank b = true ∧ t = ⟨[], .after value⟩ := by
  unfold after? at h
  split at h
  case isTrue hblank =>
    cases h
    exact ⟨hblank, rfl⟩
  case isFalse => cases h

/-- Nothing is opened behind the end. -/
theorem Outermost.step? {s t : State} {b : UInt8} (h : s.Outermost) (hstep : s.step? b = some t) :
    t.Outermost := by
  cases h with
  | after value =>
      rw [(after?_nil_eq_some hstep).2]
      exact .after value
  | number read part =>
      unfold State.step? at hstep
      dsimp only at hstep
      split at hstep
      case h_1 next _ =>
        cases hstep
        exact .number _ next
      case h_2 =>
        split at hstep
        · rw [(after?_nil_eq_some hstep).2]
          exact .after _
        · cases hstep

theorem Outermost.run? {s t : State} {bytes : List UInt8} (h : s.Outermost)
    (hrun : s.run? bytes = some t) : t.Outermost := by
  induction bytes generalizing s with
  | nil =>
      cases hrun
      exact h
  | cons b bytes ih =>
      obtain ⟨next, hstep, hrest⟩ := Option.bind_eq_some_iff.1 hrun
      exact ih (h.step? hstep) hrest

/-- Nothing is closed there, either. -/
theorem Outermost.step?_of_separates {s : State} {b : UInt8} (h : s.Outermost)
    (hb : Separates b) : s.step? b = none := by
  have hafter (value : Json) : after? [] value b = none := by
    rcases hb with rfl | rfl | rfl <;> rfl
  cases h with
  | after value => exact hafter value
  | number read part =>
      simp only [State.step?, hb.numberPart?, hafter, ite_self]

end State

/-! ## Cuts -/

theorem moreItems_eq_concat (items : List Json) :
    ∃ more b, moreItems items = more ++ [b] ∧ Separates b := by
  induction items with
  | nil => exact ⟨[], 0x5d, rfl, Or.inr (Or.inl rfl)⟩
  | cons item items ih =>
      obtain ⟨more, b, hmore, hb⟩ := ih
      refine ⟨0x2c :: (bytes item ++ more), b, ?_, hb⟩
      rw [moreItems, hmore, List.cons_append, List.append_assoc]

theorem moreFields_eq_concat (fields : List (RawText × Json)) :
    ∃ more b, moreFields fields = more ++ [b] ∧ Separates b := by
  induction fields with
  | nil => exact ⟨[], 0x7d, rfl, Or.inr (Or.inr rfl)⟩
  | cons field fields ih =>
      obtain ⟨name, value⟩ := field
      obtain ⟨more, b, hmore, hb⟩ := ih
      refine ⟨0x2c :: (quoted name ++ 0x3a :: (bytes value ++ more)), b, ?_, hb⟩
      simp only [moreFields, hmore, List.cons_append, List.append_assoc]

/-- A list or an object. -/
def IsContainer : Json → Prop
  | .list _ => True
  | .object _ => True
  | _ => False

/-- A list or object is written up to its closing bracket. -/
theorem bytes_eq_concat {v : Json} (h : IsContainer v) :
    ∃ more b, bytes v = more ++ [b] ∧ Separates b := by
  match v, h with
  | .list [], _ => exact ⟨[0x5b], 0x5d, rfl, Or.inr (Or.inl rfl)⟩
  | .list (item :: items), _ =>
      obtain ⟨more, b, hmore, hb⟩ := moreItems_eq_concat items
      refine ⟨0x5b :: (bytes item ++ more), b, ?_, hb⟩
      rw [bytes, hmore, List.cons_append, List.append_assoc]
  | .object [], _ => exact ⟨[0x7b], 0x7d, rfl, Or.inr (Or.inr rfl)⟩
  | .object ((name, value) :: fields), _ =>
      obtain ⟨more, b, hmore, hb⟩ := moreFields_eq_concat fields
      refine ⟨0x7b :: (quoted name ++ 0x3a :: (bytes value ++ more)), b, ?_, hb⟩
      simp only [bytes, hmore, List.cons_append, List.append_assoc]

/-- A written list or object that is cut anywhere is no document. -/
theorem ofBytes?_of_cut {v : Json} (hwritten : Written v) (hcontainer : IsContainer v)
    {front : List UInt8} (hfront : front <+: bytes v) (hcut : front ≠ bytes v) :
    ofBytes? front = none := by
  obtain ⟨rest, hrest⟩ := hfront
  obtain ⟨more, b, hmore, hb⟩ := bytes_eq_concat hcontainer
  -- The bracket at the end is among the bytes that are missing.
  rcases List.eq_nil_or_concat rest with rfl | ⟨missing, last, rfl⟩
  · exact absurd (by rw [← hrest, List.append_nil]) hcut
  rw [List.concat_eq_append, ← List.append_assoc] at hrest
  have hlast : last = b := by
    have hend := congrArg List.getLast? (hrest.trans hmore)
    rw [List.getLast?_concat, List.getLast?_concat] at hend
    exact Option.some.inj hend
  rw [Option.eq_none_iff_forall_ne_some]
  intro w hread
  obtain ⟨s, hrun, hfinish⟩ := Option.bind_eq_some_iff.1 hread
  have hwhole := ofBytes?_bytes hwritten
  rw [← hrest, ofBytes?, State.run?_append, State.run?_append, hrun, Option.bind_some] at hwhole
  obtain ⟨closed, hclose, -⟩ := Option.bind_eq_some_iff.1 hwhole
  obtain ⟨t, hmissing, hclose⟩ := Option.bind_eq_some_iff.1 hclose
  have houter := (State.outermost_of_finish? hfinish).run? hmissing
  rw [State.run?_cons, hlast, houter.step?_of_separates hb] at hclose
  cases hclose

end Json
end RealmTokens
