/-
Pairs in the query of a URL.

A text is written in a form with plus signs for its blanks and percent signs for all that is not plain,
so no mark that divides a query stands in it.  Main statements: the reader of forms gives back the bytes
of every text that was written so, and a URL with one more pair has the pairs that it had before and that
one behind them, whatever its name and its value are.
-/
import RealmTokens.Proofs.Url.Hosts

namespace RealmTokens
namespace Url

/-! ## Texts in forms -/

/-- What a form has in the place of a character. -/
def formChar (c : Char) : List Char :=
  if c == ' ' then ['+']
  else if isFormPlain c then [c]
  else (String.utf8EncodeChar c).flatMap Percent.encodeByte

theorem toList_encodeForm (s : String) : (encodeForm s).toList = s.toList.flatMap formChar :=
  String.toList_ofList

/-- Plain characters are no marks of a form. -/
theorem ne_of_isFormPlain {c : Char} (h : isFormPlain c = true) :
    c ≠ '%' ∧ c ≠ '+' ∧ c ≠ '&' ∧ c ≠ '=' := by
  refine ⟨?_, ?_, ?_, ?_⟩
  all_goals
    rintro rfl
    cases h

theorem decodeForm_cons {c : Char} (hpercent : c ≠ '%') (cs : List Char) :
    decodeForm (c :: cs) = String.utf8EncodeChar (if c == '+' then ' ' else c) ++ decodeForm cs := by
  have hread : (if c == '+' then ' ' else c) ≠ '%' := by
    split
    · decide
    · exact hpercent
  rw [decodeForm, List.map_cons, Percent.decode]
  · rfl
  · exact fun _ _ _ heq _ => hread heq

/-- A byte is read back from its two digits. -/
theorem decodeForm_encodeByte (b : UInt8) (cs : List Char) :
    decodeForm (Percent.encodeByte b ++ cs) = b :: decodeForm cs := by
  have hlt : b.toNat < 256 := b.toNat_lt
  have hdigit (n : Nat) (h : n < 16) :
      (if Text.upperHexDigit n == '+' then ' ' else Text.upperHexDigit n) = Text.upperHexDigit n := by
    have hall : ∀ n < 16, (Text.upperHexDigit n == '+') = false := by decide
    rw [hall n h, if_neg Bool.false_ne_true]
  have hhigh : b.toNat / 16 < 16 := by omega
  have hlow : b.toNat % 16 < 16 := by omega
  have hvalue : (16 * (b.toNat / 16) + b.toNat % 16).toUInt8 = b := by
    rw [Nat.div_add_mod]
    exact UInt8.ofNat_toNat
  have hmark : (if ('%' == '+') = true then ' ' else '%') = '%' := rfl
  simp only [decodeForm, Percent.encodeByte, List.cons_append, List.nil_append, List.map_cons,
    hdigit _ hhigh, hdigit _ hlow, hmark, Percent.decode, Text.hexValue?_upperHexDigit _ hhigh,
    Text.hexValue?_upperHexDigit _ hlow, hvalue]

theorem decodeForm_flatMap_encodeByte (bytes : List UInt8) (cs : List Char) :
    decodeForm (bytes.flatMap Percent.encodeByte ++ cs) = bytes ++ decodeForm cs := by
  induction bytes with
  | nil => rfl
  | cons b bytes ih =>
      rw [List.flatMap_cons, List.append_assoc, decodeForm_encodeByte, ih, List.cons_append]

theorem decodeForm_formChar (c : Char) (cs : List Char) :
    decodeForm (formChar c ++ cs) = String.utf8EncodeChar c ++ decodeForm cs := by
  unfold formChar
  split
  case isTrue blank =>
    rw [List.singleton_append, decodeForm_cons (by decide), beq_iff_eq.1 blank]
    rfl
  case isFalse =>
    split
    case isTrue plain =>
      obtain ⟨hpercent, hplus, -⟩ := ne_of_isFormPlain plain
      rw [List.singleton_append, decodeForm_cons hpercent, if_neg (by simpa using hplus)]
    case isFalse => exact decodeForm_flatMap_encodeByte _ cs

/-- A text in a form is read as the bytes of the text. -/
theorem decodeForm_encodeForm (s : String) : decodeForm (encodeForm s).toList = Text.utf8 s := by
  have hall (cs : List Char) :
      decodeForm (cs.flatMap formChar) = cs.flatMap String.utf8EncodeChar := by
    induction cs with
    | nil => rfl
    | cons c cs ih => rw [List.flatMap_cons, decodeForm_formChar, ih, List.flatMap_cons]
  rw [toList_encodeForm, hall, ← Text.utf8_ofList, String.ofList_toList]

/-- No mark between pairs, and none between a name and its value, stands in a text in a form. -/
theorem not_mem_encodeForm (s : String) : '&' ∉ (encodeForm s).toList ∧ '=' ∉ (encodeForm s).toList := by
  have hall : ∀ d ∈ (encodeForm s).toList, d ≠ '&' ∧ d ≠ '=' := by
    intro d hd
    rw [toList_encodeForm] at hd
    obtain ⟨c, -, hc⟩ := List.mem_flatMap.1 hd
    unfold formChar at hc
    split at hc
    case isTrue =>
      obtain rfl := List.mem_singleton.1 hc
      decide
    case isFalse =>
      split at hc
      case isTrue plain =>
        obtain rfl := List.mem_singleton.1 hc
        exact (ne_of_isFormPlain plain).2.2
      case isFalse =>
        have hbytes : d ∈ Percent.encode (fun _ => true) [c] := by
          simpa [Percent.encode] using hc
        rcases Percent.mem_encode hbytes with ⟨-, hnot⟩ | rfl | ⟨n, hn, rfl⟩
        · cases hnot
        · decide
        · have hdigits : ∀ n < 16, Text.upperHexDigit n ≠ '&' ∧ Text.upperHexDigit n ≠ '=' := by decide
          exact hdigits n hn
  exact ⟨fun hin => (hall _ hin).1 rfl, fun hin => (hall _ hin).2 rfl⟩

/-! ## Pairs -/

/-- The pair that a text between two marks stands for. -/
def pairOf (cs : List Char) : List UInt8 × List UInt8 :=
  (decodeForm (cutAt '=' cs).1, decodeForm ((cutAt '=' cs).2.getD []))

/-- The pairs of a query. -/
def pairsOf (query : List Char) : List (List UInt8 × List UInt8) :=
  ((query.splitOn '&').filter (fun p => !p.isEmpty)).map pairOf

theorem queryPairs_eq (u : Url) : u.queryPairs = pairsOf (u.query.getD "").toList := rfl

/-- The text of a pair. -/
def pairText (name value : String) : List Char :=
  (encodeForm name).toList ++ '=' :: (encodeForm value).toList

theorem pairOf_pairText (name value : String) :
    pairOf (pairText name value) = (Text.utf8 name, Text.utf8 value) := by
  rw [pairOf, pairText, cutAt_append (not_mem_encodeForm name).2, Option.getD_some,
    decodeForm_encodeForm, decodeForm_encodeForm]

theorem pairsOf_pairText (name value : String) :
    pairsOf (pairText name value) = [(Text.utf8 name, Text.utf8 value)] := by
  have hmark : '&' ∉ pairText name value := by
    intro hin
    rcases List.mem_append.1 hin with hin | hin
    · exact (not_mem_encodeForm name).1 hin
    rcases List.mem_cons.1 hin with heq | hin
    · exact absurd heq (by decide)
    · exact (not_mem_encodeForm value).1 hin
  have hne : (pairText name value).isEmpty = false :=
    List.isEmpty_eq_false_iff.2 (List.append_ne_nil_of_right_ne_nil _ (List.cons_ne_nil _ _))
  rw [pairsOf, List.splitOn_eq_singleton hmark]
  simp only [hne, List.filter_cons, Bool.not_false, if_true, List.filter_nil, List.map_cons,
    List.map_nil, pairOf_pairText]

/-- The pairs on both sides of a mark. -/
theorem pairsOf_append (xs ys : List Char) : pairsOf (xs ++ '&' :: ys) = pairsOf xs ++ pairsOf ys := by
  have hsplit : (xs ++ '&' :: ys).splitOn '&' = xs.splitOn '&' ++ ys.splitOn '&' :=
    List.splitOnP_append_cons xs ys (beq_self_eq_true '&')
  rw [pairsOf, hsplit, List.filter_append, List.map_append]
  rfl

theorem appendPair_of_query_eq_none {u : Url} (h : u.query = none) (name value : String) :
    u.appendPair name value =
      ⟨u.scheme, u.authority, u.path, some (encodeForm name ++ "=" ++ encodeForm value), u.fragment⟩ := by
  simp only [appendPair, h]

theorem query_appendPair (u : Url) (name value : String) :
    ((u.appendPair name value).query.getD "").toList =
      (if u.query.getD "" = "" then [] else (u.query.getD "").toList ++ ['&']) ++
        pairText name value := by
  have hpair : (encodeForm name ++ "=" ++ encodeForm value).toList = pairText name value := by
    rw [String.toList_append, String.toList_append, List.append_assoc]
    rfl
  cases hquery : u.query with
  | none =>
      rw [appendPair_of_query_eq_none hquery, Option.getD_some, hpair, Option.getD_none, if_pos rfl,
        List.nil_append]
  | some query =>
      simp only [appendPair, hquery, Option.getD_some]
      split
      case isTrue => rw [hpair, List.nil_append]
      case isFalse =>
        rw [String.toList_append, String.toList_append, hpair]
        rfl

/-- A pair that is put behind a query is read back, and so are the pairs that were there before. -/
theorem queryPairs_appendPair (u : Url) (name value : String) :
    (u.appendPair name value).queryPairs = u.queryPairs ++ [(Text.utf8 name, Text.utf8 value)] := by
  rw [queryPairs_eq, queryPairs_eq, query_appendPair]
  split
  case isTrue nothing =>
    rw [nothing, List.nil_append, pairsOf_pairText]
    rfl
  case isFalse =>
    rw [List.append_assoc, List.singleton_append, pairsOf_append, pairsOf_pairText]

theorem queryPairs_of_query_eq_none {u : Url} (h : u.query = none) : u.queryPairs = [] := by
  rw [queryPairs_eq, h]
  rfl

end Url
end RealmTokens
