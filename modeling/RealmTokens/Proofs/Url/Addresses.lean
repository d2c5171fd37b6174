/-
Numeric hosts and their texts.

An address is written in one of its spellings, four decimal numbers or eight hexadecimal groups with the
longest run of zeros left out, and reading that text gives the address.
-/
import RealmTokens.Proofs.Lists
import RealmTokens.Proofs.Text.Decimal
import RealmTokens.Url.Address

namespace RealmTokens
namespace Url

/-! ## IPv4 -/

namespace Ipv4

theorem hexValue?_of_isDigit {c : Char} (h : c.isDigit = true) :
    Text.hexValue? c = some (c.toNat - 0x30) ∧ c.toNat - 0x30 < 10 := by
  refine ⟨by rw [Text.hexValue?, if_pos h], ?_⟩
  simp only [Char.isDigit, Bool.and_eq_true, decide_eq_true_eq, UInt32.le_iff_toNat_le] at h
  have hc : c.toNat ≤ 57 := h.2
  omega

theorem valueOfDigits?_eq {digits : List Char} (h : ∀ c ∈ digits, c.isDigit = true) :
    valueOfDigits? 10 digits = some (Text.ofDecimal digits) := by
  unfold valueOfDigits? Text.ofDecimal
  generalize 0 = value
  induction digits generalizing value with
  | nil => rfl
  | cons c digits ih =>
      obtain ⟨hvalue, hlt⟩ := hexValue?_of_isDigit (h c List.mem_cons_self)
      rw [List.foldlM_cons, List.foldl_cons, hvalue]
      simp only [hlt, if_true]
      exact ih (fun d hd => h d (List.mem_cons_of_mem c hd)) _

/-- A decimal number has no mark of another base in front. -/
theorem digitsOfPart_toDigits (n : Nat) :
    digitsOfPart (Nat.toDigits 10 n) = (Nat.toDigits 10 n, 10) := by
  rcases Nat.eq_zero_or_pos n with rfl | hn
  · decide
  · have hhead := Text.head?_toDigits hn
    cases hd : Nat.toDigits 10 n with
    | nil => exact absurd hd Nat.toDigits_ne_nil
    | cons c cs =>
        rw [hd] at hhead
        have hc : c ≠ '0' := fun h => hhead (congrArg some h)
        unfold digitsOfPart
        split
        case h_1 heq => exact absurd (List.cons.inj heq).1 hc
        case h_2 heq => exact absurd (List.cons.inj heq).1 hc
        case h_3 heq => exact absurd (List.cons.inj heq).1 hc
        case h_4 => rfl

theorem part?_toDigits (n : Nat) : part? (Nat.toDigits 10 n) = some n := by
  have hne : (Nat.toDigits 10 n).isEmpty = false :=
    List.isEmpty_eq_false_iff.2 Nat.toDigits_ne_nil
  rw [part?, hne, digitsOfPart_toDigits]
  simp only [Bool.false_eq_true, if_false]
  rw [valueOfDigits?_eq (fun _ hc => Text.isDigit_of_mem_toDigits hc), Text.ofDecimal_toDigits]

/-- The four numbers of an address. -/
def numbers (address : UInt32) : List Nat :=
  [address.toNat / 16777216, address.toNat / 65536 % 256, address.toNat / 256 % 256,
    address.toNat % 256]

theorem chars_eq (address : UInt32) :
    chars address = ['.'].intercalate ((numbers address).map (Nat.toDigits 10)) :=
  rfl

theorem splitOn_chars (address : UInt32) :
    (chars address).splitOn '.' = (numbers address).map (Nat.toDigits 10) := by
  rw [chars_eq]
  refine List.splitOn_intercalate '.' (fun part hpart hdot => ?_) (by simp [numbers])
  obtain ⟨n, -, rfl⟩ := List.mem_map.1 hpart
  exact absurd (Text.isDigit_of_mem_toDigits hdot) (by decide)

theorem mem_chars {address : UInt32} {c : Char} (h : c ∈ chars address) :
    c = '.' ∨ c.isDigit = true := by
  rw [chars_eq] at h
  rcases mem_intercalate h with rfl | ⟨part, hpart, hc⟩
  · exact Or.inl rfl
  · obtain ⟨n, -, rfl⟩ := List.mem_map.1 hpart
    exact Or.inr (Text.isDigit_of_mem_toDigits hc)

theorem parts_chars (address : UInt32) :
    parts (chars address) = (numbers address).map (Nat.toDigits 10) := by
  have hlast : (Nat.toDigits 10 (address.toNat % 256) == []) = false :=
    beq_eq_false_iff_ne.2 Nat.toDigits_ne_nil
  unfold parts
  rw [splitOn_chars]
  simp [numbers, hlast]

theorem endsInNumber_chars (address : UInt32) : endsInNumber (chars address) = true := by
  have hne : (Nat.toDigits 10 (address.toNat % 256)).isEmpty = false :=
    List.isEmpty_eq_false_iff.2 Nat.toDigits_ne_nil
  have hall : (Nat.toDigits 10 (address.toNat % 256)).all Char.isDigit = true :=
    List.all_eq_true.2 (fun _ hc => Text.isDigit_of_mem_toDigits hc)
  unfold endsInNumber
  rw [parts_chars]
  simp [numbers, hne, hall]

theorem combine?_numbers (address : UInt32) : combine? (numbers address) = some address := by
  have hlt : address.toNat < 4294967296 := address.toNat_lt
  have hfirst : address.toNat / 16777216 ≤ 255 := by omega
  have hmod : ∀ n : Nat, n % 256 ≤ 255 := fun n => by omega
  have hlast : address.toNat % 256 < 256 := Nat.mod_lt _ (by decide)
  have hfront : (numbers address).dropLast = [address.toNat / 16777216,
      address.toNat / 65536 % 256, address.toNat / 256 % 256] := rfl
  have hroom : Nat.pow 256 (4 - (numbers address).dropLast.length) = 256 := rfl
  have hall : (numbers address).dropLast.all (· ≤ 255) = true := by
    simp [hfront, hfirst, hmod]
  have hvalue : (numbers address).dropLast.foldl (fun n part => 256 * n + part) 0 * 256 +
      address.toNat % 256 = address.toNat := by
    simp only [hfront, List.foldl_cons, List.foldl_nil]
    omega
  have hgetLast : (numbers address).getLast? = some (address.toNat % 256) := rfl
  simp only [combine?, hgetLast, hroom, hlast, hall, hvalue, and_self, if_true]
  exact congrArg some UInt32.ofNat_toNat

theorem ofChars?_chars (address : UInt32) : ofChars? (chars address) = some address := by
  have hparts : ((numbers address).map (Nat.toDigits 10)).mapM part? = some (numbers address) :=
    mapM_map_eq_some (fun n _ => part?_toDigits n)
  unfold ofChars?
  simp only [parts_chars, hparts]
  exact combine?_numbers address

end Ipv4

/-! ## IPv6 -/

namespace Ipv6

def groupText (group : UInt16) : List Char :=
  Nat.toDigits 16 group.toNat

theorem hexValue?_digitChar {n : Nat} (h : n < 16) :
    Text.hexValue? (Nat.digitChar n) = some n := by
  have hall : ∀ n < 16, Text.hexValue? (Nat.digitChar n) = some n := by decide
  exact hall n h

theorem hexValues_toDigits (n : Nat) :
    ∃ values, (Nat.toDigits 16 n).mapM Text.hexValue? = some values ∧
      Text.ofHexValues values = n := by
  induction n using Nat.strongRecOn with
  | _ n ih =>
      rw [Nat.toDigits_eq_if (by decide)]
      split
      case isTrue h =>
        exact ⟨[n], by simp [hexValue?_digitChar h], by simp [Text.ofHexValues]⟩
      case isFalse h =>
        obtain ⟨values, hvalues, hn⟩ := ih (n / 16) (by omega)
        refine ⟨values ++ [n % 16], ?_, ?_⟩
        · rw [List.mapM_append, hvalues]
          simp [hexValue?_digitChar (Nat.mod_lt n (by decide : 0 < 16))]
        · rw [Text.ofHexValues_concat, hn]
          exact Nat.div_add_mod n 16

theorem mem_groupText {group : UInt16} {c : Char} (h : c ∈ groupText group) :
    c ≠ ':' ∧ c ≠ '.' := by
  obtain ⟨values, hvalues, -⟩ := hexValues_toDigits group.toNat
  have hsome := isSome_of_mem_of_mapM hvalues h
  constructor <;> rintro rfl <;> exact absurd hsome (by decide)

theorem groupText_ne_nil (group : UInt16) : groupText group ≠ [] :=
  Nat.toDigits_ne_nil

theorem group?_groupText (group : UInt16) : group? (groupText group) = some group := by
  obtain ⟨values, hvalues, hvalue⟩ := hexValues_toDigits group.toNat
  have hlength : (groupText group).length ≤ 4 :=
    (Nat.length_toDigits_le_iff (by decide) (by decide)).2 group.toNat_lt
  have hne : (groupText group).isEmpty = false :=
    List.isEmpty_eq_false_iff.2 (groupText_ne_nil group)
  rw [group?, hne, decide_eq_false (Nat.not_lt.2 hlength)]
  simp only [Bool.or_self, Bool.false_eq_true, if_false]
  rw [groupText, hvalues, Option.map_some, hvalue]
  exact congrArg some (UInt16.ofNat_toNat)

theorem groups?_groupText (groups : List UInt16) :
    groups? (groups.map groupText) = some groups := by
  induction groups with
  | nil => rfl
  | cons group groups ih =>
      cases groups with
      | nil =>
          have hdot : (groupText group).contains '.' = false :=
            Bool.eq_false_iff.2 (fun h => (mem_groupText (List.contains_iff_mem.1 h)).2 rfl)
          simp only [List.map_cons, List.map_nil, groups?, hdot, group?_groupText]
          rfl
      | cons next groups =>
          have hrest : groups? (groupText next :: groups.map groupText) = some (next :: groups) := ih
          simp only [List.map_cons, groups?, group?_groupText, hrest]
          rfl

theorem joined_cons_cons (group next : UInt16) (groups : List UInt16) :
    joined (group :: next :: groups) = groupText group ++ ':' :: joined (next :: groups) := by
  show [':'].intercalate (groupText group :: groupText next :: groups.map groupText) = _
  rw [List.intercalate_cons_cons, List.append_assoc]
  rfl

theorem joined_singleton (group : UInt16) : joined [group] = groupText group :=
  List.intercalate_singleton

theorem joined_cons (group : UInt16) (groups : List UInt16) :
    ∃ rest, joined (group :: groups) = groupText group ++ rest := by
  cases groups with
  | nil => exact ⟨[], by rw [joined_singleton, List.append_nil]⟩
  | cons next groups => exact ⟨_, joined_cons_cons group next groups⟩

theorem mem_joined {groups : List UInt16} {c : Char} (h : c ∈ joined groups) :
    c = ':' ∨ (Text.hexValue? c).isSome = true := by
  rcases mem_intercalate h with rfl | ⟨part, hpart, hc⟩
  · exact Or.inl rfl
  · obtain ⟨group, -, rfl⟩ := List.mem_map.1 hpart
    obtain ⟨values, hvalues, -⟩ := hexValues_toDigits group.toNat
    exact Or.inr (isSome_of_mem_of_mapM hvalues hc)

/-- Nothing but colons and hexadecimal digits stands in an address. -/
theorem mem_chars {address : Ipv6} {c : Char} (h : c ∈ chars address) :
    c = ':' ∨ (Text.hexValue? c).isSome = true := by
  simp only [chars] at h
  split at h
  case isTrue => exact mem_joined h
  case isFalse =>
    simp only [List.mem_append, List.mem_cons] at h
    rcases h with h | rfl | rfl | h
    · exact mem_joined h
    · exact Or.inl rfl
    · exact Or.inl rfl
    · exact mem_joined h

theorem dot_not_mem_joined (groups : List UInt16) : '.' ∉ joined groups := by
  intro h
  rcases mem_joined h with hc | hc
  · exact absurd hc (by decide)
  · exact absurd hc (by decide)

theorem side?_joined (groups : List UInt16) : side? (joined groups) = some groups := by
  cases groups with
  | nil => rfl
  | cons group groups =>
      have hsplit : (joined (group :: groups)).splitOn ':' = (group :: groups).map groupText := by
        refine List.splitOn_intercalate ':' (fun part hpart hcolon => ?_) (by simp)
        obtain ⟨other, -, rfl⟩ := List.mem_map.1 hpart
        exact (mem_groupText hcolon).1 rfl
      have hne : (joined (group :: groups)).isEmpty = false := by
        obtain ⟨rest, h⟩ := joined_cons group groups
        rw [h, List.isEmpty_eq_false_iff]
        exact List.append_ne_nil_of_left_ne_nil (groupText_ne_nil group) rest
      rw [side?, hne, hsplit]
      exact groups?_groupText (group :: groups)

/-! A double colon is found behind the groups in front of it, which have none. -/

theorem divide?_cons {c : Char} {cs : List Char} (h : c = ':' → cs.head? ≠ some ':') :
    divide? (c :: cs) = (divide? cs).map (fun sides => (c :: sides.1, sides.2)) := by
  rw [divide?]
  rintro rest rfl rfl
  exact h rfl rfl

theorem divide?_append {digits : List Char} (h : ':' ∉ digits) (cs : List Char) :
    divide? (digits ++ cs) = (divide? cs).map (fun sides => (digits ++ sides.1, sides.2)) := by
  induction digits with
  | nil => simp
  | cons c digits ih =>
      have hc : c ≠ ':' := fun hc => h (hc ▸ List.mem_cons_self)
      rw [List.cons_append, divide?_cons (fun heq => absurd heq hc),
        ih (fun hin => h (List.mem_cons_of_mem c hin)), Option.map_map]
      rfl

theorem divide?_joined_append (groups : List UInt16) (cs : List Char) :
    divide? (joined groups ++ cs) =
      (divide? cs).map (fun sides => (joined groups ++ sides.1, sides.2)) := by
  induction groups with
  | nil => simp [joined]
  | cons group groups ih =>
      have hcolon : ':' ∉ groupText group := fun hin => (mem_groupText hin).1 rfl
      cases groups with
      | nil =>
          rw [joined_singleton, divide?_append hcolon]
      | cons next groups =>
          have hhead : (joined (next :: groups) ++ cs).head? ≠ some ':' := by
            obtain ⟨rest, h⟩ := joined_cons next groups
            rw [h]
            cases hd : groupText next with
            | nil => exact absurd hd (groupText_ne_nil next)
            | cons c digits =>
                have hc : c ∈ groupText next := by
                  rw [hd]
                  exact List.mem_cons_self
                exact fun heq => (mem_groupText hc).1 (Option.some.inj heq)
          rw [joined_cons_cons, List.append_assoc, divide?_append hcolon, List.cons_append,
            divide?_cons (fun _ => hhead), ih, Option.map_map, Option.map_map]
          congr 1
          funext sides
          simp

/-! The run of zeros that is left out stands behind the groups in front of it. -/

theorem eq_replicate_append_of_zeroRun {groups : List UInt16} {length : Nat}
    (h : zeroRun groups = length) : groups = List.replicate length 0 ++ groups.drop length := by
  have hzeros : groups.takeWhile (· == 0) = List.replicate length 0 := by
    refine List.eq_replicate_iff.2 ⟨h, fun group hgroup => ?_⟩
    exact eq_of_beq (List.all_eq_true.1 List.all_takeWhile group hgroup)
  have hsplit : List.replicate length 0 ++ groups.dropWhile (· == 0) = groups := by
    rw [← hzeros]
    exact List.takeWhile_append_dropWhile
  have hrest : groups.drop length = groups.dropWhile (· == 0) :=
    calc
      groups.drop length = (List.replicate length 0 ++ groups.dropWhile (· == 0)).drop length := by
        rw [hsplit]
      _ = groups.dropWhile (· == 0) := List.drop_left' List.length_replicate
  rw [hrest, hsplit]

theorem eq_beforeRun_append {groups : List UInt16} {length : Nat}
    (h : longestRun groups = length) :
    groups = beforeRun length groups ++
      (List.replicate length 0 ++ groups.drop ((beforeRun length groups).length + length)) := by
  induction groups with
  | nil =>
      subst h
      rfl
  | cons group groups ih =>
      by_cases hrun : zeroRun (group :: groups) = length
      · have hbefore : beforeRun length (group :: groups) = [] := by rw [beforeRun, if_pos hrun]
        rw [hbefore, List.nil_append, List.length_nil, Nat.zero_add]
        exact eq_replicate_append_of_zeroRun hrun
      · have hbefore : beforeRun length (group :: groups) = group :: beforeRun length groups := by
          rw [beforeRun, if_neg hrun]
        have hlater : longestRun groups = length := by
          rw [longestRun] at h
          omega
        rw [hbefore, List.length_cons, Nat.add_right_comm, List.drop_succ_cons, List.cons_append]
        exact congrArg (group :: ·) (ih hlater)

/-- The text of an address is read as the address. -/
theorem ofChars?_chars (address : Ipv6) : ofChars? (chars address) = some address := by
  obtain ⟨groups, hlength⟩ := address
  simp only [chars]
  split
  case isTrue =>
    have hdivide : divide? (joined groups) = none := by
      have h := divide?_joined_append groups []
      rwa [List.append_nil] at h
    rw [ofChars?, hdivide]
    simp only [side?_joined, Option.bind_some, ofGroups?, hlength, dif_pos]
  case isFalse hrun =>
    let run := longestRun groups
    let front := beforeRun run groups
    let back := groups.drop (front.length + run)
    have hgroups : groups = front ++ (List.replicate run 0 ++ back) := eq_beforeRun_append rfl
    have hcount : front.length + (run + back.length) = 8 := by
      have h := congrArg List.length hgroups
      simp only [List.length_append, List.length_replicate] at h
      omega
    have hroom : front.length + back.length ≤ 7 := by omega
    have hzeros : 8 - front.length - back.length = run := by omega
    have hdivide : divide? (joined front ++ ':' :: ':' :: joined back) =
        some (joined front, joined back) := by
      rw [divide?_joined_append]
      show some (joined front ++ [], joined back) = _
      rw [List.append_nil]
    have hdot : (joined front).contains '.' = false :=
      Bool.eq_false_iff.2 (fun h => dot_not_mem_joined front (List.contains_iff_mem.1 h))
    show ofChars? (joined front ++ ':' :: ':' :: joined back) = some ⟨groups, hlength⟩
    simp only [ofChars?, hdivide, hdot, side?_joined, Bool.false_eq_true, if_false]
    show (if front.length + back.length ≤ 7 then
      ofGroups? (front ++ List.replicate (8 - front.length - back.length) 0 ++ back) else none) = _
    rw [if_pos hroom, hzeros, List.append_assoc, ← hgroups, ofGroups?, dif_pos hlength]

end Ipv6
end Url
end RealmTokens
