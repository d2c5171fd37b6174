/-
Settings read back from JSON.

Main statement: whatever the settings are, a text is written for them, and it is read as the same
settings with their trusted hosts normalized, provided that the resolver is read back from its own text.
-/
import RealmTokens.Proofs.Json.Texts
import RealmTokens.Settings

namespace RealmTokens
namespace Settings

open Json (Written IsTextual)

/-! ## Parts -/

theorem written_spanJson (t : Time.Span) : Written (spanJson t) := by
  apply Json.written_ofFields
  simp only [List.forall_mem_cons]
  exact ⟨Json.written_ofNat t.seconds, Json.written_ofNat t.nanos, fun _ h => nomatch h⟩

theorem isTextual_spanJson (t : Time.Span) : IsTextual (spanJson t) := by
  apply Json.isTextual_ofFields
  simp only [List.forall_mem_cons]
  exact ⟨Json.isTextual_ofNat t.seconds, Json.isTextual_ofNat t.nanos, fun _ h => nomatch h⟩

/-- Spans of any length are read back, up to the last nanosecond of the last second. -/
theorem span?_spanJson (t : Time.Span) : span? (spanJson t) = some t := by
  have hrecord : (spanJson t).record? spanForm =
      some [("secs", .ofNat t.seconds), ("nanos", .ofNat t.nanos)] := by
    apply Json.record?_ofFields
    · simp [spanForm]
    · simp
  have hseconds : Json.nat? Json.maxNat64 (.ofNat t.seconds) = some t.seconds :=
    Json.nat?_ofNat t.seconds_le
  have hnanos : Json.nat? Json.maxNat32 (.ofNat t.nanos) = some t.nanos :=
    Json.nat?_ofNat (Nat.le_trans (Nat.le_of_lt t.nanos_lt) (by decide))
  have hread : span? (spanJson t) = (do
      Time.Span.ofParts? (← Json.nat? Json.maxNat64 (.ofNat t.seconds))
        (← Json.nat? Json.maxNat32 (.ofNat t.nanos))) := by
    rw [span?, hrecord]
    rfl
  rw [hread, hseconds, hnanos]
  exact Time.Span.ofParts?_of_span t

theorem url?_ofText {u : Url} (reread : Url.parse u.render = .ok u) :
    url? (.ofText u.render) = some u := by
  rw [url?, Json.text?_ofText, Option.bind_some, reread]
  rfl

/-! ## Settings -/

theorem written_toJson (s : Settings) : Written s.toJson := by
  apply Json.written_ofFields
  simp only [List.forall_mem_cons]
  refine ⟨written_spanJson s.expirationBuffer, True.intro, written_spanJson s.requestTimeout,
    Json.written_ofNat s.maxResponseBytes, Json.written_ofText s.cloudResolver.render,
    Json.written_ofText s.discoveryHost, Json.written_list (fun item hitem => ?_),
    fun _ h => nomatch h⟩
  obtain ⟨host, -, rfl⟩ := List.mem_map.1 hitem
  exact Json.written_ofText host

theorem isTextual_toJson (s : Settings) : IsTextual s.toJson := by
  apply Json.isTextual_ofFields
  simp only [List.forall_mem_cons]
  refine ⟨isTextual_spanJson s.expirationBuffer, Json.isTextual_bool s.requireHttps,
    isTextual_spanJson s.requestTimeout, Json.isTextual_ofNat s.maxResponseBytes,
    Json.isTextual_ofText s.cloudResolver.render, Json.isTextual_ofText s.discoveryHost,
    Json.isTextual_list (fun item hitem => ?_), fun _ h => nomatch h⟩
  obtain ⟨host, -, rfl⟩ := List.mem_map.1 hitem
  exact Json.isTextual_ofText host

/-- Reading trusts anew the hosts that were written. -/
theorem ofJson?_toJson {s : Settings} (fits : s.maxResponseBytes ≤ Json.maxNat64)
    (reread : Url.parse s.cloudResolver.render = .ok s.cloudResolver) :
    ofJson? s.toJson = some (s.withTrustedHosts s.trustedHosts) := by
  have hrecord : s.toJson.record? form = some
      [("expiration_buffer", spanJson s.expirationBuffer),
        ("require_https", .bool s.requireHttps),
        ("request_timeout", spanJson s.requestTimeout),
        ("max_response_bytes", .ofNat s.maxResponseBytes),
        ("drs_cloud_resolver", .ofText s.cloudResolver.render),
        ("instance_discovery_host", .ofText s.discoveryHost),
        ("trusted_authority_hosts", .list (s.trustedHosts.map Json.ofText))] := by
    apply Json.record?_ofFields
    · simp [form]
    · simp
  have hread : ofJson? s.toJson = (do
      return ⟨← span? (spanJson s.expirationBuffer),
        ← Json.bool? (.bool s.requireHttps),
        ← span? (spanJson s.requestTimeout),
        ← Json.nat? Json.maxNat64 (.ofNat s.maxResponseBytes),
        ← url? (.ofText s.cloudResolver.render),
        ← Json.text? (.ofText s.discoveryHost),
        ← (Json.listOf Json.text? (.list (s.trustedHosts.map Json.ofText))).map
          HostName.normalize⟩) := by
    rw [ofJson?, hrecord]
    rfl
  rw [hread]
  simp only [span?_spanJson, Json.nat?_ofNat fits, url?_ofText reread, Json.text?_ofText,
    Json.listOf_map Json.text?_ofText]
  rfl

/-- A text is written for the settings, and what is read from it are the settings with their trusted
hosts normalized. -/
theorem exists_document {s : Settings} (fits : s.maxResponseBytes ≤ Json.maxNat64)
    (reread : Url.parse s.cloudResolver.render = .ok s.cloudResolver) :
    ∃ document, Text.utf8 document = s.toJson.bytes ∧
      ofString? document = .ok (s.withTrustedHosts s.trustedHosts) := by
  obtain ⟨document, hdocument⟩ := s.isTextual_toJson
  refine ⟨document, hdocument, ?_⟩
  rw [ofString?, Json.decode?_of_utf8 s.written_toJson hdocument, ofJson?_toJson fits reread]

end Settings
end RealmTokens
