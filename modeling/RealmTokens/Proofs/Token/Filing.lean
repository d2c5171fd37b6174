/-
Under which key an entry is filed that was made for a request.

`Filing` is every way to make an entry of a response, and each asks for a key of its own.  The key of an
entry is derived from the parts that are not blank in it, so a filing that names a blank resource or a
blank client is read back as another one.  Main statement: an entry has the key that was asked for
wherever there is one, and where there is none it has no key either, unless the filing that is read
back has one.
-/
import RealmTokens.Proofs.Token.Collision

namespace RealmTokens
namespace Token

/-- Every way to make an entry of a response. -/
inductive Filing where
  | regular (authority resource clientId : String)
  | multiResource (authority clientId : String)
  | family (authority : String)
  deriving DecidableEq, Repr

namespace Filing

def make? (r : Response) : Filing → Except Failure Entry
  | .regular authority resource clientId => Entry.regular? authority resource clientId r
  | .multiResource authority clientId => Entry.multiResource? authority clientId r
  | .family authority => Entry.family? authority r

/-- The key under which the entry is asked for. -/
def key? (r : Response) : Filing → Except Failure Key
  | .regular authority resource clientId => Key.ofRequest? authority resource clientId r.userId
  | .multiResource authority clientId => Key.ofMultiResource? authority clientId r.userId
  | .family authority => Key.ofFamily? authority (r.familyClientId.getD "") r.userId

variable {f : Filing} {r : Response} {e : Entry}

/-! ## Entries -/

def authority : Filing → String
  | .regular authority _ _ | .multiResource authority _ | .family authority => authority

/-- What an entry holds of the filing that it was made by, beside what the response says. -/
def entry (r : Response) (f : Filing) : Entry :=
  let common : Entry := ⟨f.authority, none, none, none, r.refreshToken, r.idToken, r.expiresOn,
    r.isMultiResource, r.tenantId, r.familyClientId, r.user⟩
  match f with
  | .regular _ resource clientId =>
      { common with
        resource := some resource, clientId := some clientId, accessToken := r.accessToken }
  | .multiResource _ clientId => { common with clientId := some clientId }
  | .family _ => common

theorem make?_eq_ok_iff :
    f.make? r = .ok e ↔ Text.blank f.authority = false ∧ e = f.entry r := by
  cases f with
  | regular a c i | multiResource a i | family a =>
      simp only [make?, Entry.regular?, Entry.multiResource?, Entry.family?, Entry.ofResponse?,
        authority, entry, eq_comm (a := e)]
      by_cases ha : Text.blank a = true
      · simp [ha, Except.map]
      · simp [ha, Except.map]

/-! ## Keys -/

theorem blank_getD (part : Option String) : Text.blank (part.getD "") = blankPart part := by
  cases part <;> rfl

/-- A filing has a key unless a part of it is blank that the key needs. -/
theorem exists_key?_iff :
    (∃ key, f.key? r = .ok key) ↔
      Text.blank f.authority = false ∧
        (match f with
          | .regular _ resource clientId =>
              Text.blank clientId = false ∧ Text.blank resource = false
          | .multiResource _ clientId => Text.blank clientId = false
          | .family _ => blankPart r.familyClientId = false) := by
  cases f with
  | regular a c i => simp [key?, Key.ofRequest?, Key.ofParts?_eq_ok_iff, authority, blankPart]
  | multiResource a i => simp [key?, Key.ofMultiResource?, Key.ofParts?_eq_ok_iff, authority]
  | family a => simp [key?, Key.ofFamily?_eq_ok_iff, authority, blank_getD]

/-- The filing that is read back from the parts of its entry that are not blank. -/
def readBack : Filing → Filing
  | .regular authority resource clientId =>
      if Text.blank resource then
        if Text.blank clientId then .family authority else .multiResource authority clientId
      else .regular authority resource clientId
  | .multiResource authority clientId =>
      if Text.blank clientId then .family authority else .multiResource authority clientId
  | .family authority => .family authority

/-- An entry has the key of the filing that is read back from it. -/
theorem ofEntry?_entry (f : Filing) (r : Response) :
    Key.ofEntry? (f.entry r) = f.readBack.key? r := by
  have huser : (f.entry r).userId = r.userId := by cases f <;> rfl
  rw [Key.ofEntry?, huser]
  cases f with
  | regular a c i =>
      cases hc : Text.blank c with
      | false => simp [Entry.kind, entry, readBack, key?, Key.ofRequest?, blankPart, hc, authority]
      | true =>
          cases hi : Text.blank i with
          | false => simp [Entry.kind, entry, readBack, key?, blankPart, hc, hi, authority]
          | true => simp [Entry.kind, entry, readBack, key?, blankPart, hc, hi, authority]
  | multiResource a i =>
      cases hi : Text.blank i with
      | false => simp [Entry.kind, entry, readBack, key?, blankPart, hi, authority]
      | true => simp [Entry.kind, entry, readBack, key?, blankPart, hi, authority]
  | family a => rfl

/-- A filing that has a key is read back as itself. -/
theorem readBack_of_key? {key : Key} (h : f.key? r = .ok key) : f.readBack = f := by
  obtain ⟨-, hparts⟩ := exists_key?_iff.1 ⟨key, h⟩
  cases f with
  | regular a c i => simp [readBack, hparts.2]
  | multiResource a i => simp [readBack, show Text.blank i = false from hparts]
  | family a => rfl

theorem authority_readBack (f : Filing) : f.readBack.authority = f.authority := by
  cases f with
  | regular a c i =>
      simp only [readBack]
      split
      · split <;> rfl
      · rfl
  | multiResource a i =>
      simp only [readBack]
      split <;> rfl
  | family a => rfl

/-- A filing that cannot be mistaken for another one that has a key. -/
def Faithful (r : Response) : Filing → Prop
  | .regular _ resource clientId =>
      Text.blank resource = false ∨
        (Text.blank clientId = true ∧ blankPart r.familyClientId = true)
  | .multiResource _ clientId => Text.blank clientId = false ∨ blankPart r.familyClientId = true
  | .family _ => True

theorem faithful_iff (h : Text.blank f.authority = false) :
    f.Faithful r ↔ f.readBack = f ∨ ¬∃ key, f.readBack.key? r = .ok key := by
  rw [exists_key?_iff, authority_readBack, h]
  cases f with
  | regular a c i =>
      cases hc : Text.blank c with
      | false => simp [Faithful, readBack, hc]
      | true => cases hi : Text.blank i <;> simp [Faithful, readBack, hc, hi]
  | multiResource a i => cases hi : Text.blank i <;> simp [Faithful, readBack, hi]
  | family a => simp [Faithful, readBack]

/-- An entry that was made for a request is filed under the key of the filing that is read back from it.
This is the outcome of deriving the key that was asked for exactly if the filing is faithful, and it is
that key wherever there is one. -/
theorem ofEntry?_of_make? (made : f.make? r = .ok e) :
    Key.ofEntry? e = f.readBack.key? r ∧
      ((Key.ofEntry? e).toOption = (f.key? r).toOption ↔ f.Faithful r) ∧
      ∀ key, f.key? r = .ok key → Key.ofEntry? e = .ok key := by
  obtain ⟨ha, rfl⟩ := make?_eq_ok_iff.1 made
  rw [ofEntry?_entry, faithful_iff ha]
  refine ⟨rfl, ⟨fun same => ?_, ?_⟩, fun key h => by rw [readBack_of_key? h, h]⟩
  · cases hk : f.key? r with
    | ok key => exact Or.inl (readBack_of_key? hk)
    | error failure =>
        right
        rintro ⟨key, h⟩
        rw [h, hk] at same
        cases same
  · rintro (h | none)
    · rw [h]
    · cases hk : f.key? r with
      | ok key => exact absurd ⟨key, by rw [readBack_of_key? hk, hk]⟩ none
      | error failure =>
          cases hb : f.readBack.key? r with
          | ok key => exact absurd ⟨key, hb⟩ none
          | error failure' => rfl

/-- An entry whose spelling is not that of its key. -/
theorem ofEntry?_of_make?_of_capitals :
    let r : Response :=
      ⟨some "at", some "rt", none, none, true, none, some "1", some (User.ofId "User")⟩
    ∃ e, Entry.regular? "https://Login/Common/" "res" "Client" r = .ok e ∧
      Key.ofEntry? e = .ok ⟨"https://login/common$res$client$n$user"⟩ := by
  intro r
  let f : Filing := .regular "https://Login/Common/" "res" "Client"
  have made : f.make? r = .ok (f.entry r) := make?_eq_ok_iff.2 ⟨by decide +kernel, rfl⟩
  have asked : f.key? r = .ok ⟨"https://login/common$res$client$n$user"⟩ := rfl
  exact ⟨f.entry r, made, (ofEntry?_of_make? made).2.2 _ asked⟩

/-- The entry of an access token for a blank resource is filed as a refresh token for all resources. The
request for it has no key. -/
theorem ofEntry?_of_blank_resource :
    let r : Response :=
      ⟨some "at", some "rt", none, none, false, none, none, some (User.ofId "user")⟩
    ∃ e, Entry.regular? "https://login.windows.net/common" " " "client" r = .ok e ∧
      Key.ofEntry? e = .ok ⟨"https://login.windows.net/common$$client$y$user"⟩ ∧
      Key.ofRequest? "https://login.windows.net/common" " " "client" r.userId =
        .error (.argument .resource .blank) := by
  intro r
  let f : Filing := .regular "https://login.windows.net/common" " " "client"
  have made : f.make? r = .ok (f.entry r) := make?_eq_ok_iff.2 ⟨by decide +kernel, rfl⟩
  have hread : f.readBack = .multiResource "https://login.windows.net/common" "client" := by
    decide +kernel
  refine ⟨f.entry r, made, ?_, rfl⟩
  rw [ofEntry?_entry, hread]
  rfl

end Filing
end Token
end RealmTokens
