/-
Which spellings of a request a key does not tell apart.

Authorities are compared without the case of their letters and without one slash at the end, clients,
families and users without the case of their letters, and a blank user is no user.  Main statement:
deriving a key comes out the same for two spellings of a request, and whoever respells one text of a
request that has a key gets this key again exactly if the text has the same normal form.
-/
import RealmTokens.Proofs.Text.WordEnds
import RealmTokens.Proofs.Token.Collision

namespace RealmTokens
namespace Token
namespace Key

open Text (SameLetters)

/-! ## Spellings -/

/-- Two spellings of an authority. -/
inductive SameAuthority : String → String → Prop
  | letters {s t : String} (h : SameLetters s t) : SameAuthority s t
  | slash {s : String} (named : Text.blank s = false) (bare : s.toList.getLast? ≠ some '/') :
      SameAuthority s (s ++ "/")
  | symm {s t : String} (h : SameAuthority s t) : SameAuthority t s
  | trans {s t r : String} (h : SameAuthority s t) (h' : SameAuthority t r) : SameAuthority s r

/-- Two spellings of a user, who may be unknown. -/
inductive SameUser : Option String → Option String → Prop
  | letters {s t : String} (h : SameLetters s t) : SameUser (some s) (some t)
  | unknown {s : String} (blank : Text.blank s = true) : SameUser none (some s)
  | refl (user : Option String) : SameUser user user
  | symm {user user' : Option String} (h : SameUser user user') : SameUser user' user
  | trans {user user' user'' : Option String} (h : SameUser user user')
      (h' : SameUser user' user'') : SameUser user user''

/-! ## Normal forms -/

/-- The normal form of a client or a family, which has none if it is blank. -/
def normalId? (id : String) : Option String :=
  if Text.blank id then none else some (Text.lowercase id)

theorem normalAuthority?_eq_ok_iff {authority normal : String} :
    normalAuthority? authority = .ok normal ↔
      Text.blank authority = false ∧ normal = dropFinalSlash (Text.lowercase authority) := by
  unfold normalAuthority?
  cases Text.blank authority with
  | true => simp
  | false => simp [eq_comm]

theorem normalId?_eq_some_iff {id normal : String} :
    normalId? id = some normal ↔ Text.blank id = false ∧ normal = Text.lowercase id := by
  unfold normalId?
  cases Text.blank id with
  | true => simp
  | false => simp [eq_comm]

theorem blank_append_slash (s : String) : Text.blank (s ++ "/") = false := by
  have hs : (s ++ "/").toList = s.toList ++ ['/'] := String.toList_append
  rw [Text.blank, hs, List.all_append, Bool.and_eq_false_iff]
  exact Or.inr rfl

theorem SameAuthority.normal_eq {s t : String} (h : SameAuthority s t) :
    normalAuthority? s = normalAuthority? t := by
  induction h with
  | letters h => rw [normalAuthority?, normalAuthority?, h.blank_eq, h.lowercase_eq]
  | @slash s named bare =>
      rw [normalAuthority?_eq_ok_iff.2 ⟨named, rfl⟩, eq_comm, normalAuthority?_eq_ok_iff]
      refine ⟨blank_append_slash s, ?_⟩
      rw [Text.lowercase_append_slash, dropFinalSlash_append_slash,
        dropFinalSlash_eq_self (Text.getLast?_lowercase_ne_slash bare)]
  | symm _ ih => exact ih.symm
  | trans _ _ ih ih' => exact ih.trans ih'

theorem SameUser.normal_eq {user user' : Option String} (h : SameUser user user') :
    normalUser user = normalUser user' := by
  induction h with
  | letters h => rw [normalUser, normalUser, h.blank_eq, h.lowercase_eq]
  | unknown blank => rw [normalUser, normalUser, if_pos blank]
  | refl => rfl
  | symm _ ih => exact ih.symm
  | trans _ _ ih ih' => exact ih.trans ih'

/-! ## One text of a key -/

theorem toList_join_cons (s : String) {rest : List String} (h : rest ≠ []) :
    (join (s :: rest)).toList = s.toList ++ delimiter :: (join rest).toList := by
  obtain ⟨t, more, rfl⟩ := List.exists_cons_of_ne_nil h
  simp [join, String.intercalate_cons_cons, delimiter]

/-- A segment stands in a key with what is in front of it and what is behind it. -/
theorem exists_toList_join (front back : List String) :
    ∃ left right : List Char, ∀ s : String,
      (join (front ++ s :: back)).toList = left ++ s.toList ++ right := by
  induction front with
  | nil =>
      by_cases hback : back = []
      · subst hback
        exact ⟨[], [], fun s => by simp [join, String.intercalate_singleton]⟩
      · exact ⟨[], delimiter :: (join back).toList, fun s => toList_join_cons s hback⟩
  | cons f front ih =>
      obtain ⟨left, right, h⟩ := ih
      refine ⟨f.toList ++ delimiter :: left, right, fun s => ?_⟩
      rw [List.cons_append, toList_join_cons f (by simp), h]
      simp only [List.append_assoc, List.cons_append]

theorem join_eq_join_iff (front back : List String) {s t : String} :
    join (front ++ s :: back) = join (front ++ t :: back) ↔ s = t := by
  refine ⟨fun h => ?_, fun h => by rw [h]⟩
  obtain ⟨left, right, hjoin⟩ := exists_toList_join front back
  have htext := congrArg String.toList h
  rw [hjoin, hjoin] at htext
  exact String.toList_inj.1 (List.append_cancel_left (List.append_cancel_right htext))

/-- Whoever respells a text that has a key gets this key again exactly if the form stays the same. -/
def Shows {α β : Type} (outcome : α → Except Failure Key) (form : α → β) : Prop :=
  ∀ text key, outcome text = .ok key → ∀ other, outcome other = .ok key ↔ form other = form text

section Shows

variable (authority clientId familyId : String) (resource userId : Option String)
  (multiResource : Bool)

theorem shows_authority :
    Shows (fun authority => ofParts? authority resource clientId multiResource userId)
      normalAuthority? := by
  intro authority key h other
  obtain ⟨hauthority, hclient, hresource, rfl⟩ := ofParts?_eq_ok_iff.1 h
  rw [normalAuthority?_eq_ok_iff.2 ⟨hauthority, rfl⟩, normalAuthority?_eq_ok_iff, ofParts?_eq_ok_iff]
  simp only [hclient, hresource, true_and, Key.mk.injEq]
  exact and_congr_right (fun _ => join_eq_join_iff [] _)

theorem shows_client :
    Shows (fun clientId => ofParts? authority resource clientId multiResource userId)
      normalId? := by
  intro clientId key h other
  obtain ⟨hauthority, hclient, hresource, rfl⟩ := ofParts?_eq_ok_iff.1 h
  rw [normalId?_eq_some_iff.2 ⟨hclient, rfl⟩, normalId?_eq_some_iff, ofParts?_eq_ok_iff]
  simp only [hauthority, hresource, true_and, Key.mk.injEq]
  exact and_congr_right (fun _ => join_eq_join_iff [_, _] _)

theorem shows_user :
    Shows (fun userId => ofParts? authority resource clientId multiResource userId)
      normalUser := by
  intro userId key h other
  obtain ⟨hauthority, hclient, hresource, rfl⟩ := ofParts?_eq_ok_iff.1 h
  rw [ofParts?_eq_ok_iff, eq_comm (a := normalUser other)]
  simp only [hauthority, hclient, hresource, true_and, Key.mk.injEq]
  exact join_eq_join_iff [_, _, _, _] []

theorem shows_authority_of_family :
    Shows (fun authority => ofFamily? authority familyId userId) normalAuthority? := by
  intro authority key h other
  obtain ⟨hauthority, hfamily, rfl⟩ := ofFamily?_eq_ok_iff.1 h
  rw [normalAuthority?_eq_ok_iff.2 ⟨hauthority, rfl⟩, normalAuthority?_eq_ok_iff,
    ofFamily?_eq_ok_iff]
  simp only [hfamily, true_and, Key.mk.injEq]
  exact and_congr_right (fun _ => join_eq_join_iff [] _)

theorem shows_family :
    Shows (fun familyId => ofFamily? authority familyId userId) normalId? := by
  intro familyId key h other
  obtain ⟨hauthority, hfamily, rfl⟩ := ofFamily?_eq_ok_iff.1 h
  rw [normalId?_eq_some_iff.2 ⟨hfamily, rfl⟩, normalId?_eq_some_iff, ofFamily?_eq_ok_iff]
  simp only [hauthority, true_and, Key.mk.injEq]
  refine and_congr_right (fun _ => (join_eq_join_iff [_, _, _, _, _] []).trans ⟨fun e => ?_, ?_⟩)
  · rw [← String.toList_inj, String.toList_append, String.toList_append] at e
    exact String.toList_inj.1 (List.append_cancel_left e)
  · exact fun e => by rw [e]

theorem shows_user_of_family :
    Shows (fun userId => ofFamily? authority familyId userId) normalUser := by
  intro userId key h other
  obtain ⟨hauthority, hfamily, rfl⟩ := ofFamily?_eq_ok_iff.1 h
  rw [ofFamily?_eq_ok_iff, eq_comm (a := normalUser other)]
  simp only [hauthority, hfamily, true_and, Key.mk.injEq]
  exact join_eq_join_iff [_, _, _, _] [_]

theorem shows_resource :
    Shows (fun resource => ofParts? authority (some resource) clientId false userId)
      (fun resource => resource) := by
  intro resource key h other
  obtain ⟨hauthority, hclient, hresource, rfl⟩ := ofParts?_eq_ok_iff.1 h
  rw [ofParts?_eq_ok_iff, eq_comm (a := other)]
  simp only [hauthority, hclient, true_and, Key.mk.injEq]
  constructor
  · exact fun hother => (join_eq_join_iff [_] _).1 hother.2
  · rintro rfl
    exact ⟨hresource, rfl⟩

end Shows

/-! ## Requests -/

/-- A way from an authority, an id and a user to a key that compares them by their normal forms. -/
structure ComparesSpellings (derive : String → String → Option String → Except Failure Key) :
    Prop where
  same : ∀ {authority authority' id id' : String} {userId userId' : Option String},
    SameAuthority authority authority' → SameLetters id id' → SameUser userId userId' →
      derive authority id userId = derive authority' id' userId'
  authority : ∀ id userId, Shows (fun authority => derive authority id userId) normalAuthority?
  id : ∀ authority userId, Shows (fun id => derive authority id userId) normalId?
  user : ∀ authority id, Shows (fun userId => derive authority id userId) normalUser

theorem comparesSpellings_ofParts? (resource : Option String) (multiResource : Bool) :
    ComparesSpellings (fun authority clientId userId =>
      ofParts? authority resource clientId multiResource userId) where
  same hauthority hid huser := by
    simp only [ofParts?, hauthority.normal_eq, hid.blank_eq, hid.lowercase_eq, huser.normal_eq]
  authority clientId userId := shows_authority clientId resource userId multiResource
  id authority userId := shows_client authority resource userId multiResource
  user authority clientId := shows_user authority clientId resource multiResource

theorem comparesSpellings_ofFamily? : ComparesSpellings ofFamily? where
  same hauthority hid huser := by
    simp only [ofFamily?, hauthority.normal_eq, hid.blank_eq, hid.lowercase_eq, huser.normal_eq]
  authority familyId userId := shows_authority_of_family familyId userId
  id authority userId := shows_family authority userId
  user authority familyId := shows_user_of_family authority familyId

/-- Every way to a key compares an authority, an id and a user by their normal forms, and a resource that
is part of the key as it stands.  The lowercase that normal forms are made of is that of whole texts: every
character has its image, and a capital sigma the one that its place in its word asks for. -/
theorem compares_spellings :
    (∀ resource multiResource, ComparesSpellings (fun authority clientId userId =>
        ofParts? authority resource clientId multiResource userId)) ∧
      ComparesSpellings ofMultiResource? ∧ ComparesSpellings ofFamily? ∧
      (∀ authority clientId userId,
        Shows (fun resource => ofParts? authority (some resource) clientId false userId)
          (fun resource => resource)) ∧
      ∀ s : String, ∃ images : List (List Char), (Text.lowercase s).toList = images.flatten ∧
        images.length = s.toList.length ∧
        ∀ front c back, s.toList = front ++ c :: back →
          images[front.length]? = some (Text.imageBetween front c back) :=
  ⟨comparesSpellings_ofParts?, comparesSpellings_ofParts? none true, comparesSpellings_ofFamily?,
    fun authority clientId userId => shows_resource authority clientId userId,
    Text.lowercase_eq_flatten⟩

/-- A sigma that ends its word, also in front of a slash, and one that the letter behind it keeps from
doing so. -/
theorem compares_spellings_of_sigma :
    SameAuthority "HTTPS://STAΣ" "https://staΣ/" ∧ SameLetters "AΣA" "aΣa" ∧
      SameUser none (some " ") ∧
      ofParts? "HTTPS://STAΣ" (some "r") "AΣA" false none =
        ofParts? "https://staΣ/" (some "r") "aΣa" false (some " ") ∧
      ofParts? "HTTPS://STAΣ" (some "r") "AΣA" false none = .ok ⟨"https://staς$r$aσa$n$"⟩ := by
  have hletters : SameLetters "HTTPS://STAΣ" "https://staΣ" := by decide +kernel
  have hslash : SameAuthority "https://staΣ" ("https://staΣ" ++ "/") :=
    .slash (by decide +kernel) (by decide +kernel)
  have hauthority : SameAuthority "HTTPS://STAΣ" "https://staΣ/" :=
    (SameAuthority.letters hletters).trans hslash
  have hclient : SameLetters "AΣA" "aΣa" := by decide +kernel
  have huser : SameUser none (some " ") := .unknown (by decide +kernel)
  exact ⟨hauthority, hclient, huser,
    (compares_spellings.1 (some "r") false).same hauthority hclient huser, rfl⟩

end Key
end Token
end RealmTokens
