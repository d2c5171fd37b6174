/-
Domains that a registration is asked for.

The compared form of such a domain has letters, digits, hyphens and dots only.  Main statement: it is
plain text, without capitals and without any character that has a meaning of its own in a URL, and no
dot is its last character.
-/
import RealmTokens.Proofs.Domain.ComparedForms
import RealmTokens.Proofs.Domain.Names
import RealmTokens.Realm.Registration

namespace RealmTokens
namespace Registrar

open HostName (canonical?)

/-- Whether a character may stand in a domain that a registration is asked for. -/
def isDomainChar (c : Char) : Bool := c.isAlphanum || c == '.' || c == '-'

theorem domain?_eq_ok_iff {name domain : String} :
    domain? name = .ok domain ↔
      canonical? name = some domain ∧ ∀ c ∈ domain.toList, isDomainChar c = true := by
  unfold domain?
  cases canonical? name with
  | none => simp
  | some other =>
      simp only [Option.some.injEq]
      split
      case isTrue hall =>
        rw [Except.ok.injEq]
        refine ⟨fun heq => ⟨heq, ?_⟩, fun h => h.1⟩
        rw [← heq]
        exact List.all_eq_true.1 hall
      case isFalse hnot =>
        refine iff_of_false (fun heq => nomatch heq) (fun h => hnot ?_)
        rw [h.1]
        exact List.all_eq_true.2 h.2

theorem toNat_lt_of_isDomainChar {c : Char} (h : isDomainChar c = true) : c.toNat < 0x80 := by
  have hranges : (decide ('A'.val ≤ c.val ∧ c.val ≤ 'Z'.val) ||
      ('a'.val ≤ c.val && c.val ≤ 'z'.val) || ('0'.val ≤ c.val && c.val ≤ '9'.val) ||
      c == '.' || c == '-') = true := h
  simp only [Bool.or_eq_true, Bool.and_eq_true, decide_eq_true_eq, beq_iff_eq] at hranges
  rcases hranges with ((((⟨-, h⟩ | ⟨-, h⟩) | ⟨-, h⟩) | rfl) | rfl)
  · exact Nat.lt_of_le_of_lt (UInt32.le_iff_toNat_le.1 h) (by decide)
  · exact Nat.lt_of_le_of_lt (UInt32.le_iff_toNat_le.1 h) (by decide)
  · exact Nat.lt_of_le_of_lt (UInt32.le_iff_toNat_le.1 h) (by decide)
  · decide
  · decide

/-- A fact about the characters of a domain is a fact about a few characters of ASCII. -/
theorem forall_isDomainChar {p : Char → Prop}
    (h : ∀ n, n < 0x80 → isDomainChar (Char.ofNat n) = true → p (Char.ofNat n)) {c : Char}
    (hc : isDomainChar c = true) : p c :=
  Text.forall_char_lt (p := fun c => isDomainChar c = true → p c) h (toNat_lt_of_isDomainChar hc) hc

theorem isForbidden_of_isDomainChar {c : Char} (h : isDomainChar c = true) :
    Domain.isForbidden c = false :=
  forall_isDomainChar (p := fun c => Domain.isForbidden c = false) (by decide) h

section Domain

variable {name domain : String}

/-- The compared form of a domain is plain text. -/
theorem plain_of_domain? (h : domain? name = .ok domain) :
    ∀ c ∈ domain.toList, Domain.IsPlain c := by
  intro c hc
  have hchar := (domain?_eq_ok_iff.1 h).2 c hc
  exact ⟨decide_eq_true (toNat_lt_of_isDomainChar hchar), isForbidden_of_isDomainChar hchar,
    HostName.toLower_of_canonical? (domain?_eq_ok_iff.1 h).1 hc⟩

theorem toList_ne_nil_of_domain? (h : domain? name = .ok domain) : domain.toList ≠ [] :=
  (HostName.compared_of_canonical? (domain?_eq_ok_iff.1 h).1).ne_nil

/-- A domain does not end in a dot. -/
theorem getLast?_of_domain? (h : domain? name = .ok domain) : domain.toList.getLast? ≠ some '.' := by
  intro hlast
  have hback := (HostName.compared_of_canonical? (domain?_eq_ok_iff.1 h).1).back
  rw [hlast] at hback
  cases hback

end Domain

end Registrar
end RealmTokens
