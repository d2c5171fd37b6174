/-
Hosts of authorities in their compared form.

An authority names its host in the compared form.  Where its URL was read from a text that host has no
white space, and so the form is compared as itself: it is the name under which the host is filed.
-/
import RealmTokens.Cluster.Validation
import RealmTokens.Proofs.Domain.ComparedForms
import RealmTokens.Proofs.Url.Hosts

namespace RealmTokens

/-! ## Hosts with a meaning -/

namespace Url

open Text (isBlank)

theorem isBlank_of_hexValue? {c : Char} (h : (Text.hexValue? c).isSome = true) :
    isBlank c = false :=
  Text.forall_char_lt (p := fun c => (Text.hexValue? c).isSome = true → isBlank c = false)
    (by decide +kernel) (Text.toNat_lt_of_hexValue? h) h

theorem isBlank_of_plain {c : Char} (hascii : Text.isAscii c = true)
    (h : Domain.isForbidden c = false) : isBlank c = false :=
  Text.forall_char_lt (p := fun c => Domain.isForbidden c = false → isBlank c = false)
    (by decide +kernel) (of_decide_eq_true hascii) h

namespace Ipv6

theorem isBlank_of_mem_chars {address : Ipv6} {c : Char} (h : c ∈ chars address) :
    isBlank c = false := by
  rcases mem_chars h with rfl | hdigit
  · decide
  · exact isBlank_of_hexValue? hdigit

end Ipv6

/-- A host that was read under a scheme that gives it a meaning has no white space. -/
theorem Host.isBlank_of_ofMeaning? {cs : List Char} {host : Host} (h : Host.ofMeaning? cs = .ok host)
    {c : Char} (hc : c ∈ host.chars) : isBlank c = false := by
  rcases Host.ofMeaning?_eq_ok h with ⟨address, rfl⟩ | ⟨address, rfl⟩ |
    ⟨name, domain, rfl, hname, -, -⟩
  · simp only [Host.chars, List.mem_cons, List.mem_append, List.not_mem_nil, or_false] at hc
    rcases hc with rfl | hc | rfl
    · decide
    · exact Ipv6.isBlank_of_mem_chars hc
    · decide
  · rcases Ipv4.mem_chars hc with rfl | hdigit
    · decide
    · exact isBlank_of_plain (Host.plain_of_isDigit hdigit).1 (Host.plain_of_isDigit hdigit).2.1
  · obtain ⟨-, -, -, -, -, plain⟩ := Domain.labels_of_toAscii? hname
    rw [Host.chars, String.toList_ofList] at hc
    exact isBlank_of_plain (plain c hc).1 (plain c hc).2

/-! ## Authorities -/

section Authority

variable {authority : Url} {host : String}

theorem of_authorityHost?_eq_ok (h : authority.authorityHost? = .ok host) :
    authority.scheme = "https" ∧ authority.hostName? = some host := by
  unfold authorityHost? at h
  by_cases hscheme : authority.scheme = "https"
  · refine ⟨hscheme, ?_⟩
    cases hq : authority.query.isSome || authority.fragment.isSome <;>
      cases ht : authority.tenantText.isEmpty <;> cases hh : authority.hostName? <;>
      simp_all [pure, Except.pure, bind, Except.bind, throw, throwThe, MonadExceptOf.throw]
  · simp [hscheme, bind, Except.bind, throw, throwThe, MonadExceptOf.throw] at h

/-- The host of an authority that was read from a text is compared as itself. -/
theorem canonical?_of_authorityHost? (read : authority.HostFromText)
    (h : authority.authorityHost? = .ok host) : HostName.canonical? host = some host := by
  obtain ⟨hscheme, hname⟩ := of_authorityHost?_eq_ok h
  rw [hostName?, hostText?] at hname
  obtain ⟨text, htext, canonical⟩ := Option.bind_eq_some_iff.1 hname
  obtain ⟨named, hhost, rfl⟩ := Option.map_eq_some_iff.1 htext
  obtain ⟨cs, hcs⟩ := read named hhost
  have hmeaning : Host.ofMeaning? cs = .ok named := by
    rwa [hostOf?, hscheme, if_pos (by decide)] at hcs
  refine HostName.canonical?_canonical? (fun c hc => ?_) canonical
  rw [Host.render, String.toList_ofList] at hc
  exact Host.isBlank_of_ofMeaning? hmeaning hc

end Authority

end Url
end RealmTokens
