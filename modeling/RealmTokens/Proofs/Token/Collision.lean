/-
When two requests are filed under one key.

`Derivation` is every way to a key from texts, and `Normal` is what a way is compared by.  A key is
read back by splitting it at the delimiter: the authority stands first and the client, the flag and
the user stand last, so a resource in between may hold the delimiter and still be read.  Main
statement: equal compared forms have equal keys, and a key that two different compared forms share
has the delimiter in one of the texts that it was made of, the resource aside where no family is
involved.
-/
import RealmTokens.Proofs.Text.Lowercase
import RealmTokens.Token.Key

namespace RealmTokens
namespace Token
namespace Key

/-! ## What a key is made of -/

theorem ofParts?_eq_ok_iff {authority clientId : String} {resource userId : Option String}
    {multiResource : Bool} {key : Key} :
    ofParts? authority resource clientId multiResource userId = .ok key ↔
      Text.blank authority = false ∧ Text.blank clientId = false ∧
        (multiResource = true ∨ blankPart resource = false) ∧
        key = ⟨join [dropFinalSlash (Text.lowercase authority),
          if multiResource then "" else resource.getD "", Text.lowercase clientId,
          flag multiResource, normalUser userId]⟩ := by
  unfold ofParts? normalAuthority?
  rw [eq_comm (a := key)]
  by_cases ha : Text.blank authority = true
  · simp [ha, bind, Except.bind]
  by_cases hc : Text.blank clientId = true
  · simp [ha, hc, bind, Except.bind]
  cases multiResource with
  | true => simp [ha, hc, bind, Except.bind, pure, Except.pure]
  | false =>
      by_cases hr : blankPart resource = true
      · simp [ha, hc, hr, bind, Except.bind]
      · simp [ha, hc, hr, bind, Except.bind, pure, Except.pure]

theorem ofFamily?_eq_ok_iff {authority familyClientId : String} {userId : Option String}
    {key : Key} :
    ofFamily? authority familyClientId userId = .ok key ↔
      Text.blank authority = false ∧ Text.blank familyClientId = false ∧
        key = ⟨join [dropFinalSlash (Text.lowercase authority), "", "", flag true,
          normalUser userId, familyMark ++ Text.lowercase familyClientId]⟩ := by
  unfold ofFamily? normalAuthority?
  rw [eq_comm (a := key)]
  by_cases ha : Text.blank authority = true
  · simp [ha, bind, Except.bind]
  by_cases hf : Text.blank familyClientId = true
  · simp [ha, hf, bind, Except.bind]
  · simp [ha, hf, bind, Except.bind, pure, Except.pure]

/-! ## Compared forms -/

/-- A slash at the end goes, and only one. -/
theorem dropFinalSlash_append_slash (s : String) : dropFinalSlash (s ++ "/") = s := by
  have hs : (s ++ "/").toList = s.toList ++ ['/'] := String.toList_append
  rw [dropFinalSlash, hs, List.getLast?_concat, if_pos rfl, List.dropLast_concat,
    String.ofList_toList]

/-- A text without a slash at its end stays as it is. -/
theorem dropFinalSlash_eq_self {s : String} (h : s.toList.getLast? ≠ some '/') :
    dropFinalSlash s = s :=
  if_neg h

theorem eq_append_slash_or_eq (s : String) :
    s = dropFinalSlash s ++ "/" ∨ s.toList.getLast? ≠ some '/' ∧ dropFinalSlash s = s := by
  by_cases h : s.toList.getLast? = some '/'
  · left
    obtain ⟨front, hfront⟩ := List.getLast?_eq_some_iff.1 h
    obtain rfl : s = String.ofList front ++ "/" := by
      rw [← String.toList_inj, hfront, String.toList_append, String.toList_ofList]
      rfl
    rw [dropFinalSlash_append_slash]
  · exact Or.inr ⟨h, dropFinalSlash_eq_self h⟩

/-- The compared form of a user is empty where no user or a blank one is given, and is in lowercase
otherwise. -/
theorem normalUser_eq (userId : Option String) :
    normalUser userId = if blankPart userId then "" else Text.lowercase (userId.getD "") := by
  cases userId <;> rfl

/-! ## Reading a key back -/

/-- Splitting a joined text at the delimiter splits each of its segments. -/
theorem splitOn_join {segments : List String} (h : segments ≠ []) :
    (join segments).toList.splitOn delimiter =
      segments.flatMap (fun s => s.toList.splitOn delimiter) := by
  induction segments with
  | nil => exact absurd rfl h
  | cons s rest ih =>
      cases rest with
      | nil => simp [join, String.intercalate_singleton]
      | cons t more =>
          have hjoin : (join (s :: t :: more)).toList =
              s.toList ++ delimiter :: (join (t :: more)).toList := by
            simp [join, String.intercalate_cons_cons, delimiter]
          rw [hjoin, List.splitOn_append_cons_self, ih (by simp)]
          rfl

/-- A text that is one segment. -/
def Unbroken (s : String) : Prop := delimiter ∉ s.toList

theorem Unbroken.splitOn {s : String} (h : Unbroken s) : s.toList.splitOn delimiter = [s.toList] :=
  List.splitOn_eq_singleton h

theorem unbroken_lowercase_iff {s : String} : Unbroken (Text.lowercase s) ↔ Unbroken s :=
  not_congr (Text.mem_lowercase_iff (by decide) (by decide) s)

theorem unbroken_dropFinalSlash_iff {s : String} : Unbroken (dropFinalSlash s) ↔ Unbroken s := by
  rcases eq_append_slash_or_eq s with hs | ⟨-, hs⟩
  · have hslash : delimiter ∉ "/".toList := by decide
    have happend : Unbroken s ↔ Unbroken (dropFinalSlash s ++ "/") := by rw [← hs]
    rw [happend, Unbroken, Unbroken, String.toList_append, List.mem_append, or_iff_left hslash]
  · rw [hs]

theorem Unbroken.normalAuthority {authority : String} (h : Unbroken authority) :
    Unbroken (Key.dropFinalSlash (Text.lowercase authority)) :=
  unbroken_dropFinalSlash_iff.2 (unbroken_lowercase_iff.2 h)

theorem unbroken_empty : Unbroken "" := by
  simp [Unbroken]

theorem unbroken_normalUser {userId : Option String} (h : Unbroken (userId.getD "")) :
    Unbroken (normalUser userId) := by
  rw [normalUser_eq]
  split
  · exact unbroken_empty
  · exact unbroken_lowercase_iff.2 h

theorem unbroken_flag (multiResource : Bool) : Unbroken (flag multiResource) := by
  cases multiResource <;> simp [Unbroken, flag, delimiter]

theorem flag_injective {m n : Bool} (h : (flag m).toList = (flag n).toList) : m = n := by
  cases m <;> cases n <;> simp_all [flag]

theorem unbroken_family {s : String} (h : Unbroken s) : Unbroken (familyMark ++ s) := by
  unfold Unbroken at *
  rw [String.toList_append, List.mem_append]
  rintro (hm | hs)
  · exact absurd hm (by decide)
  · exact h hs

/-- Only the resource of a key that is no family's may be broken: its pieces stand in the middle. -/
theorem splitOn_join_single {authority resource clientId user : String} (multiResource : Bool)
    (ha : Unbroken authority) (hc : Unbroken clientId) (hu : Unbroken user) :
    (join [authority, resource, clientId, flag multiResource, user]).toList.splitOn delimiter =
      authority.toList :: (resource.toList.splitOn delimiter ++
        [clientId.toList, (flag multiResource).toList, user.toList]) := by
  rw [splitOn_join (by simp)]
  simp [ha.splitOn, hc.splitOn, hu.splitOn, (unbroken_flag multiResource).splitOn]

theorem splitOn_join_family {authority user family : String} (ha : Unbroken authority)
    (hu : Unbroken user) (hf : Unbroken family) :
    (join [authority, "", "", flag true, user, familyMark ++ family]).toList.splitOn delimiter =
      [authority.toList, [], [], (flag true).toList, user.toList,
        (familyMark ++ family).toList] := by
  rw [splitOn_join (by simp)]
  simp only [List.flatMap_cons, List.flatMap_nil, ha.splitOn, hu.splitOn,
    (unbroken_family hf).splitOn, (unbroken_flag true).splitOn, unbroken_empty.splitOn]
  rfl

/-! ## Ways to a key -/

/-- A request for a key, with its texts as they were given. -/
inductive Derivation where
  | parts (authority : String) (resource : Option String) (clientId : String)
      (multiResource : Bool) (userId : Option String)
  | request (authority resource clientId : String) (userId : Option String)
  | allResources (authority clientId : String) (userId : Option String)
  | family (authority familyClientId : String) (userId : Option String)
  deriving DecidableEq, Repr

/-- What keys are compared by. -/
inductive Normal where
  | single (authority resource clientId : String) (multiResource : Bool) (user : String)
  | family (authority user familyClientId : String)
  deriving DecidableEq, Repr

namespace Derivation

def key? : Derivation → Except Failure Key
  | .parts authority resource clientId multiResource userId =>
      ofParts? authority resource clientId multiResource userId
  | .request authority resource clientId userId => ofRequest? authority resource clientId userId
  | .allResources authority clientId userId => ofMultiResource? authority clientId userId
  | .family authority familyClientId userId => ofFamily? authority familyClientId userId

/-- The authority in lowercase without one slash at its end, the resource unless the key is for all,
the client and the user in lowercase, and no user where it is blank. -/
def normal : Derivation → Normal
  | .parts authority resource clientId multiResource userId =>
      .single (dropFinalSlash (Text.lowercase authority))
        (if multiResource then "" else resource.getD "") (Text.lowercase clientId) multiResource
        (normalUser userId)
  | .request authority resource clientId userId =>
      .single (dropFinalSlash (Text.lowercase authority)) resource (Text.lowercase clientId) false
        (normalUser userId)
  | .allResources authority clientId userId =>
      .single (dropFinalSlash (Text.lowercase authority)) "" (Text.lowercase clientId) true
        (normalUser userId)
  | .family authority familyClientId userId =>
      .family (dropFinalSlash (Text.lowercase authority)) (normalUser userId)
        (Text.lowercase familyClientId)

def isFamily : Derivation → Bool
  | .family _ _ _ => true
  | _ => false

/-- The texts of the outer segments: authority, client or family, and user. -/
def outer : Derivation → List String
  | .parts authority _ clientId _ userId => [authority, clientId, userId.getD ""]
  | .request authority _ clientId userId => [authority, clientId, userId.getD ""]
  | .allResources authority clientId userId => [authority, clientId, userId.getD ""]
  | .family authority familyClientId userId => [authority, familyClientId, userId.getD ""]

/-- The resource that is part of the key. -/
def resource : Derivation → String
  | .parts _ resource _ multiResource _ => if multiResource then "" else resource.getD ""
  | .request _ resource _ _ => resource
  | _ => ""

end Derivation

/-- The text of a key with a compared form. -/
def Normal.text : Normal → String
  | .single authority resource clientId multiResource user =>
      join [authority, resource, clientId, flag multiResource, user]
  | .family authority user familyClientId =>
      join [authority, "", "", flag true, user, familyMark ++ familyClientId]

theorem eq_of_key?_eq_ok {d : Derivation} {key : Key} (h : d.key? = .ok key) :
    key = ⟨d.normal.text⟩ := by
  cases d with
  | parts => exact (ofParts?_eq_ok_iff.1 h).2.2.2
  | request => exact (ofParts?_eq_ok_iff.1 h).2.2.2
  | allResources => exact (ofParts?_eq_ok_iff.1 h).2.2.2
  | family => exact (ofFamily?_eq_ok_iff.1 h).2.2

namespace Normal

/-- No outer segment is broken. -/
def Outer : Normal → Prop
  | .single authority _ clientId _ user => Unbroken authority ∧ Unbroken clientId ∧ Unbroken user
  | .family authority user familyClientId =>
      Unbroken authority ∧ Unbroken user ∧ Unbroken familyClientId

theorem single_injective {a r c u a' r' c' u' : String} {m m' : Bool}
    (h : (single a r c m u).Outer) (h' : (single a' r' c' m' u').Outer)
    (ht : (single a r c m u).text = (single a' r' c' m' u').text) :
    single a r c m u = single a' r' c' m' u' := by
  have hs := congrArg (fun t => t.toList.splitOn delimiter) ht
  simp only [text, splitOn_join_single m h.1 h.2.1 h.2.2,
    splitOn_join_single m' h'.1 h'.2.1 h'.2.2, List.cons.injEq] at hs
  obtain ⟨hauthority, hrest⟩ := hs
  -- Both sides end in three segments, so they part in front of these, however many pieces
  -- the resources have.
  obtain ⟨hresource, hlast⟩ := List.append_inj' hrest rfl
  simp only [List.cons.injEq, and_true] at hlast
  obtain ⟨hclient, hflag, huser⟩ := hlast
  have hr : r.toList = r'.toList :=
    calc r.toList
        = [delimiter].intercalate (r.toList.splitOn delimiter) :=
          (List.intercalate_splitOn delimiter).symm
      _ = r'.toList := by rw [hresource, List.intercalate_splitOn]
  rw [String.toList_inj.1 hauthority, String.toList_inj.1 hr, String.toList_inj.1 hclient,
    flag_injective hflag, String.toList_inj.1 huser]

theorem family_injective {a u f a' u' f' : String} (h : (family a u f).Outer)
    (h' : (family a' u' f').Outer) (ht : (family a u f).text = (family a' u' f').text) :
    family a u f = family a' u' f' := by
  have hs := congrArg (fun t => t.toList.splitOn delimiter) ht
  simp only [text, splitOn_join_family h.1 h.2.1 h.2.2, splitOn_join_family h'.1 h'.2.1 h'.2.2,
    List.cons.injEq, true_and, and_true] at hs
  obtain ⟨hauthority, huser, hfamily⟩ := hs
  rw [String.toList_append, String.toList_append] at hfamily
  rw [String.toList_inj.1 hauthority, String.toList_inj.1 huser,
    String.toList_inj.1 (List.append_cancel_left hfamily)]

/-- A family's key has one segment more than any other. -/
theorem single_ne_family {a r c u a' u' f' : String} {m : Bool} (h : (single a r c m u).Outer)
    (hr : Unbroken r) (h' : (family a' u' f').Outer) :
    (single a r c m u).text ≠ (family a' u' f').text := by
  intro ht
  have hs := congrArg (fun t => (t.toList.splitOn delimiter).length) ht
  simp only [text, splitOn_join_single m h.1 h.2.1 h.2.2, splitOn_join_family h'.1 h'.2.1 h'.2.2,
    hr.splitOn, List.length_append, List.length_cons, List.length_nil] at hs
  omega

end Normal

theorem outer_normal {d : Derivation} (h : ∀ s ∈ d.outer, Unbroken s) : d.normal.Outer := by
  cases d with
  | parts a r c m u | request a r c u | allResources a c u =>
      simp only [Derivation.outer, List.forall_mem_cons, List.not_mem_nil, false_implies,
        implies_true, and_true] at h
      exact ⟨h.1.normalAuthority, unbroken_lowercase_iff.2 h.2.1, unbroken_normalUser h.2.2⟩
  | family a f u =>
      simp only [Derivation.outer, List.forall_mem_cons, List.not_mem_nil, false_implies,
        implies_true, and_true] at h
      exact ⟨h.1.normalAuthority, unbroken_normalUser h.2.2, unbroken_lowercase_iff.2 h.2.1⟩

/-- Ways of the same shape with unbroken outer segments and one key have one compared form.  Where
one way is a family's and the other is not, the resource must be unbroken as well. -/
theorem normal_eq_of_text_eq {d d' : Derivation} (h : ∀ s ∈ d.outer, Unbroken s)
    (h' : ∀ s ∈ d'.outer, Unbroken s)
    (hr : d.isFamily ≠ d'.isFamily → Unbroken d.resource ∧ Unbroken d'.resource)
    (ht : d.normal.text = d'.normal.text) : d.normal = d'.normal := by
  have ho := outer_normal h
  have ho' := outer_normal h'
  cases d with
  | family a f u =>
      cases d' with
      | family a' f' u' => exact Normal.family_injective ho ho' ht
      | parts | request | allResources =>
          exact absurd ht.symm (Normal.single_ne_family ho' (hr Bool.false_ne_true.symm).2 ho)
  | parts | request | allResources =>
      cases d' with
      | family a' f' u' =>
          exact absurd ht (Normal.single_ne_family ho (hr Bool.false_ne_true).1 ho')
      | parts | request | allResources => exact Normal.single_injective ho ho' ht

/-- Equal compared forms have equal keys.  Two different ones share a key only through a delimiter in
an authority, a client, a family or a user, or, between a family's key and another, in a resource. -/
theorem delimiter_of_collision {d d' : Derivation} {key key' : Key} (h : d.key? = .ok key)
    (h' : d'.key? = .ok key') :
    (d.normal = d'.normal → key = key') ∧
      (key = key' → d.normal ≠ d'.normal →
        (∃ s ∈ d.outer ++ d'.outer, delimiter ∈ s.toList) ∨
          (d.isFamily ≠ d'.isFamily ∧
            (delimiter ∈ d.resource.toList ∨ delimiter ∈ d'.resource.toList))) := by
  rw [eq_of_key?_eq_ok h, eq_of_key?_eq_ok h', Key.mk.injEq]
  refine ⟨fun e => by rw [e], fun ht hne => ?_⟩
  by_cases ho : ∃ s ∈ d.outer ++ d'.outer, delimiter ∈ s.toList
  · exact Or.inl ho
  have hall : ∀ s ∈ d.outer ++ d'.outer, Unbroken s := fun s hs hd => ho ⟨s, hs, hd⟩
  rw [List.forall_mem_append] at hall
  by_cases hr : d.isFamily ≠ d'.isFamily ∧
      (delimiter ∈ d.resource.toList ∨ delimiter ∈ d'.resource.toList)
  · exact Or.inr hr
  refine absurd (normal_eq_of_text_eq hall.1 hall.2 (fun hf => ?_) ht) hne
  exact ⟨fun hd => hr ⟨hf, Or.inl hd⟩, fun hd => hr ⟨hf, Or.inr hd⟩⟩

/-- A delimiter in a client reads like one in a resource. -/
theorem delimiter_of_collision_of_client :
    ∃ key, (Derivation.parts "a" (some "r") "c$d" false none).key? = .ok key ∧
      (Derivation.parts "a" (some "r$c") "d" false none).key? = .ok key ∧
      ∃ s ∈ (["a", "c$d", "", "a", "d", ""] : List String), delimiter ∈ s.toList := by
  have h : (Derivation.parts "a" (some "r") "c$d" false none).key? = .ok ⟨"a$r$c$d$n$"⟩ := rfl
  have h' : (Derivation.parts "a" (some "r$c") "d" false none).key? = .ok ⟨"a$r$c$d$n$"⟩ := rfl
  refine ⟨_, h, h', ?_⟩
  have hne : (Derivation.parts "a" (some "r") "c$d" false none).normal ≠
      (Derivation.parts "a" (some "r$c") "d" false none).normal := by
    decide
  rcases (delimiter_of_collision h h').2 rfl hne with ho | ⟨hf, -⟩
  · exact ho
  · exact absurd rfl hf

end Key
end Token
end RealmTokens
