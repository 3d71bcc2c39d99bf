import Mathlib.Data.List.Basic
import Mathlib.Data.List.TakeWhile
import SeriesExport.Http.Request
import SeriesExport.Proofs.Http.Encoding

/-! The address that queries are sent to. Main statement: `organisation_of_queryAddress`, that its query
names the organisation of the connection and nothing else, whatever characters that has. -/
namespace SeriesExport.Http
set_option autoImplicit false

/-! ## Encoded text in an address -/

/-- What stands in encoded text: the characters that may, percent signs and capital digits. -/
theorem mem_percentEncode {plain : Char → Bool} {s : String} {c : Char}
    (h : c ∈ (percentEncode plain s).toList) :
    plain c = true ∨ c = '%' ∨ ∃ n < 16, c = hexDigit n := by
  rw [percentEncode, String.toList_ofList] at h
  obtain ⟨d, _, hc⟩ := List.mem_flatMap.1 h
  unfold encodeChar at hc
  split at hc
  · rename_i hplain
    rw [List.mem_singleton.1 hc]
    exact Or.inl hplain
  · obtain ⟨b, _, hc⟩ := List.mem_flatMap.1 hc
    simp only [encodeByte, List.mem_cons, List.not_mem_nil, or_false] at hc
    have hdigit (n : Nat) : ∃ m < 16, hexDigit n = hexDigit m :=
      ⟨n % 16, Nat.mod_lt n (by decide), (hexDigit_mod n).symm⟩
    rcases hc with rfl | rfl | rfl
    · exact Or.inr (Or.inl rfl)
    · exact Or.inr (Or.inr (hdigit _))
    · exact Or.inr (Or.inr (hdigit _))

theorem percentEncode_of_plain {plain : Char → Bool} {s : String}
    (h : ∀ c ∈ s.toList, plain c = true) : percentEncode plain s = s := by
  have hchars : s.toList.flatMap (encodeChar plain) = s.toList := by
    have hsingle : ∀ c ∈ s.toList, encodeChar plain c = [c] := fun c hc => if_pos (h c hc)
    rw [List.flatMap_congr hsingle, List.flatMap_singleton']
  rw [percentEncode, hchars, String.ofList_toList]

/-- The characters of an encoded organisation. -/
def isEncoded (c : Char) : Bool := isUnreserved c || c == '%'

theorem isEncoded_of_mem {s : String} {c : Char}
    (h : c ∈ (percentEncode isUnreserved s).toList) : isEncoded c = true := by
  have hdigits : ∀ n < 16, isEncoded (hexDigit n) = true := by decide
  rcases mem_percentEncode h with hplain | rfl | ⟨n, hn, rfl⟩
  · rw [isEncoded, hplain, Bool.true_or]
  · rfl
  · exact hdigits n hn

theorem bounds_of_isEncoded {c : Char} (h : isEncoded c = true) : 32 < c.toNat ∧ c.toNat < 127 := by
  unfold isEncoded isUnreserved at h
  simp only [Bool.or_eq_true, beq_iff_eq] at h
  rcases h with ((((h | rfl) | rfl) | rfl) | rfl) | rfl
  · unfold Char.isAlphanum Char.isAlpha Char.isUpper Char.isLower Char.isDigit at h
    simp only [Bool.or_eq_true, Bool.and_eq_true, decide_eq_true_eq, UInt32.le_iff_toNat_le] at h
    change ((65 ≤ c.toNat ∧ c.toNat ≤ 90) ∨ (97 ≤ c.toNat ∧ c.toNat ≤ 122)) ∨
      (48 ≤ c.toNat ∧ c.toNat ≤ 57) at h
    omega
  all_goals decide

namespace Url

theorem plainInQuery_of_isEncoded {c : Char} (h : isEncoded c = true) (special : Bool) :
    plainInQuery special c = true := by
  have hmarks : ∀ special : Bool, (([' ', '"', '#', '<', '>'] ++
      if special = true then ['\''] else []).any isEncoded) = false := by decide
  have hfree : c ∉ [' ', '"', '#', '<', '>'] ++ if special = true then ['\''] else [] :=
    fun hc => absurd h (List.any_eq_false.1 (hmarks special) c hc)
  obtain ⟨hlow, hhigh⟩ := bounds_of_isEncoded h
  simp only [plainInQuery, isPlainBut, List.contains_eq_mem, Bool.and_eq_true, decide_eq_true_eq,
    Bool.not_eq_true', decide_eq_false_iff_not]
  exact ⟨⟨Nat.le_of_lt hlow, hhigh⟩, hfree⟩

/-! ## Parts of an address -/

theorem dropWhile_append_of_stop {p : Char → Bool} {c : Char} (hc : p c = false)
    (front back : List Char) :
    (front ++ c :: back).dropWhile p = front.dropWhile p ++ c :: back := by
  induction front with
  | nil => rw [List.nil_append, List.dropWhile_cons_of_neg (by simp [hc]), List.dropWhile_nil, List.nil_append]
  | cons d front ih =>
    by_cases hd : p d = true
    · rw [List.cons_append, List.dropWhile_cons_of_pos hd, List.dropWhile_cons_of_pos hd, ih]
    · rw [List.cons_append, List.dropWhile_cons_of_neg hd, List.dropWhile_cons_of_neg hd]
      rfl

theorem cutAt_of_absent {p : Char → Bool} {cs : List Char} (h : ∀ c ∈ cs, p c = false) :
    cutAt p cs = (cs, none) := by
  have hnone : (cs.dropWhile fun c => !p c) = [] :=
    List.dropWhile_eq_nil_iff.2 fun c hc => by simp [h c hc]
  unfold cutAt
  rw [hnone]

theorem cutAt_append {p : Char → Bool} {front : List Char} {c : Char} (back : List Char)
    (h : ∀ d ∈ front, p d = false) (hc : p c = true) :
    cutAt p (front ++ c :: back) = (front, some back) := by
  have hfront : ∀ d ∈ front, (!p d) = true := fun d hd => by simp [h d hd]
  have hdrop : ((front ++ c :: back).dropWhile fun c => !p c) = c :: back := by
    rw [List.dropWhile_append_of_pos hfront, List.dropWhile_cons_of_neg (by simp [hc])]
  have htake : ((front ++ c :: back).takeWhile fun c => !p c) = front := by
    rw [List.takeWhile_append_of_pos hfront, List.takeWhile_cons_of_neg (by simp [hc]),
      List.append_nil]
  unfold cutAt
  rw [hdrop]
  exact congrArg (·, some back) htake

/-- What is cleaned off an address is cleaned off what stands before a part without blanks. -/
theorem clean_append (base : String) {c : Char} {back : List Char}
    (h : ∀ d ∈ c :: back, 32 < d.toNat) :
    ∃ front, clean (base ++ String.ofList (c :: back)) = front ++ c :: back ∧
      ∀ d ∈ front, d ∈ base.toList := by
  have hedge : ∀ d ∈ c :: back, decide (d.toNat ≤ 32) = false := by
    intro d hd
    have hlow := h d hd
    simpa using hlow
  have hkept : ∀ d ∈ c :: back, (!(['\t', '\n', '\r'].contains d)) = true := by
    have hgaps : (['\t', '\n', '\r'].any fun e => decide (32 < e.toNat)) = false := by decide
    intro d hd
    rw [List.contains_eq_mem, Bool.not_eq_true', decide_eq_false_iff_not]
    exact fun hgap => List.any_eq_false.1 hgaps d hgap (decide_eq_true (h d hd))
  let front := base.toList.dropWhile fun d => decide (d.toNat ≤ 32)
  refine ⟨front.filter fun d => !(['\t', '\n', '\r'].contains d), ?_, ?_⟩
  · unfold clean
    rw [String.toList_append, String.toList_ofList]
    dsimp only
    rw [dropWhile_append_of_stop (hedge c List.mem_cons_self)]
    obtain ⟨init, last, hback⟩ : ∃ init last, c :: back = init ++ [last] :=
      ⟨_, _, (List.dropLast_concat_getLast (List.cons_ne_nil c back)).symm⟩
    have hlast : decide (last.toNat ≤ 32) = false := hedge last (by rw [hback]; simp)
    have hend : ((front ++ c :: back).reverse.dropWhile fun d => decide (d.toNat ≤ 32)) =
        (front ++ c :: back).reverse := by
      rw [hback, ← List.append_assoc, List.reverse_append, List.reverse_singleton,
        List.singleton_append, List.dropWhile_cons_of_neg (by simp [hlast])]
    rw [hend, List.reverse_reverse, List.filter_append, List.filter_eq_self.2 hkept]
  · intro d hd
    exact List.dropWhile_subset _ (List.mem_of_mem_filter hd)

theorem scheme?_append {front back cs : List Char} {c : Char} {scheme : String}
    (hc : isSchemeChar c = false) (hcolon : c ≠ ':') (h : scheme? (front ++ c :: back) = some (scheme, cs)) :
    ∃ rest, cs = rest ++ c :: back ∧ ∀ d ∈ rest, d ∈ front := by
  unfold scheme? at h
  rw [dropWhile_append_of_stop hc] at h
  split at h
  · rename_i first name rest _ hrest
    split at h
    · cases h
      cases hfront : front.dropWhile isSchemeChar with
      | nil =>
        rw [hfront] at hrest
        exact absurd (List.cons.inj hrest).1 hcolon
      | cons d left =>
        rw [hfront] at hrest
        obtain ⟨rfl, rfl⟩ := List.cons.inj hrest
        refine ⟨left, rfl, fun e he => List.dropWhile_subset isSchemeChar ?_⟩
        rw [hfront]
        exact List.mem_cons_of_mem _ he
    · cases h
  · cases h

/-- The query of an address is what follows the first question mark. -/
theorem query_of_parse? {base : String} {path query : List Char} {url : Url}
    (h : parse? (base ++ String.ofList ('/' :: (path ++ '?' :: query))) = some url)
    (hbase : '?' ∉ base.toList ∧ '#' ∉ base.toList)
    (hpath : ∀ d ∈ '/' :: path, 32 < d.toNat ∧ d ≠ '?' ∧ d ≠ '#')
    (hquery : ∀ d ∈ '?' :: query, 32 < d.toNat ∧ d ≠ '#') :
    url.query = some (percentEncode (plainInQuery (isSpecial url.scheme)) (String.ofList query)) ∧
      url.fragment = none := by
  have hback : ∀ d ∈ '/' :: (path ++ '?' :: query), 32 < d.toNat ∧ d ≠ '#' := by
    intro d hd
    rcases List.mem_append.1 (List.cons_append ▸ hd) with hd | hd
    · exact ⟨(hpath d hd).1, (hpath d hd).2.2⟩
    · exact hquery d hd
  obtain ⟨front, hclean, hfront⟩ := clean_append base fun d hd => (hback d hd).1
  unfold parse? at h
  rw [hclean] at h
  obtain ⟨⟨scheme, cs⟩, hscheme, h⟩ := Option.bind_eq_some_iff.1 h
  obtain ⟨rest, rfl, hrest⟩ := scheme?_append rfl (by decide) hscheme
  have hplain : ∀ d ∈ rest, d ∈ base.toList := fun d hd => hfront d (hrest d hd)
  have hcutFragment : cutAt (· == '#') (rest ++ '/' :: (path ++ '?' :: query)) =
      (rest ++ '/' :: (path ++ '?' :: query), none) := by
    refine cutAt_of_absent fun d hd => beq_false_of_ne ?_
    rcases List.mem_append.1 hd with hd | hd
    · exact fun hmark => hbase.2 (hmark ▸ hplain d hd)
    · exact (hback d hd).2
  have hcutQuery : cutAt (· == '?') (rest ++ '/' :: (path ++ '?' :: query)) =
      (rest ++ '/' :: path, some query) := by
    rw [← List.cons_append, ← List.append_assoc]
    refine cutAt_append query (fun d hd => beq_false_of_ne ?_) rfl
    rcases List.mem_append.1 hd with hd | hd
    · exact fun hmark => hbase.1 (hmark ▸ hplain d hd)
    · exact (hpath d hd).2.1
  dsimp only at h
  rw [hcutFragment] at h
  dsimp only at h
  rw [hcutQuery] at h
  obtain ⟨_, _, h⟩ := Option.bind_eq_some_iff.1 h
  cases h
  exact ⟨rfl, rfl⟩

/-! ## The address of queries -/

theorem queryAddress_eq (c : Connection) : ∃ base : String, (∀ d ∈ base.toList, d ∈ c.url.toList) ∧
    queryAddress c = base ++ String.ofList ('/' :: ("api/v2/query".toList ++
      '?' :: ("org=" ++ percentEncode isUnreserved c.org).toList)) := by
  refine ⟨String.ofList (c.url.toList.reverse.dropWhile (· == '/')).reverse, ?_, ?_⟩
  · intro d hd
    rw [String.toList_ofList, List.mem_reverse] at hd
    exact List.mem_reverse.1 (List.dropWhile_subset _ hd)
  · have hfixed : '/' :: ("api/v2/query".toList ++
        '?' :: ("org=" ++ percentEncode isUnreserved c.org).toList) =
        "/api/v2/query?org=".toList ++ (percentEncode isUnreserved c.org).toList := by
      rw [String.toList_append]
      rfl
    rw [hfixed, String.ofList_append, String.ofList_toList, String.ofList_toList,
      ← String.append_assoc]
    rfl

/-- The query of the address names the organisation in characters that do not end it, and they are
decoded to the organisation. -/
theorem organisation_of_queryAddress {c : Connection} {url : Url}
    (h : parse? (queryAddress c) = some url) (hurl : '?' ∉ c.url.toList ∧ '#' ∉ c.url.toList) :
    ∃ value, url.query = some ("org=" ++ value) ∧ url.fragment = none ∧
      percentDecode? value = some c.org ∧ ∀ d ∈ value.toList, isEncoded d = true := by
  obtain ⟨base, hbase, haddress⟩ := queryAddress_eq c
  have hvalue : ∀ d ∈ (percentEncode isUnreserved c.org).toList, isEncoded d = true :=
    fun d hd => isEncoded_of_mem hd
  have hpath : ("/api/v2/query".toList.all fun d => 32 < d.toNat && d != '?' && d != '#') = true := by
    decide
  have hkey : ∀ special : Bool, ("?org=".toList.all fun d => 32 < d.toNat && d != '#') = true ∧
      ("org=".toList.all (plainInQuery special)) = true := by decide
  have hmarked : ∀ d ∈ '?' :: ("org=" ++ percentEncode isUnreserved c.org).toList,
      32 < d.toNat ∧ d ≠ '#' := by
    intro d hd
    rw [String.toList_append, ← List.cons_append, List.mem_append] at hd
    rcases hd with hd | hd
    · simpa using List.all_eq_true.1 (hkey false).1 d hd
    · refine ⟨(bounds_of_isEncoded (hvalue d hd)).1, ?_⟩
      rintro rfl
      exact absurd (hvalue '#' hd) (by decide)
  rw [haddress] at h
  obtain ⟨hquery, hfragment⟩ := query_of_parse? h
    ⟨fun hmark => hurl.1 (hbase _ hmark), fun hmark => hurl.2 (hbase _ hmark)⟩
    (fun d hd => by simpa [and_assoc] using List.all_eq_true.1 hpath d hd) hmarked
  refine ⟨_, ?_, hfragment, percentDecode?_percentEncode rfl c.org, hvalue⟩
  rw [hquery, String.ofList_toList, percentEncode_of_plain]
  intro d hd
  rw [String.toList_append, List.mem_append] at hd
  rcases hd with hd | hd
  · exact List.all_eq_true.1 (hkey (isSpecial url.scheme)).2 d hd
  · exact plainInQuery_of_isEncoded (hvalue d hd) (isSpecial url.scheme)

example : queryAddress ⟨"http://localhost:8086/", "secret", "my org&co"⟩ =
    "http://localhost:8086/api/v2/query?org=my%20org%26co" := by decide

end Url
end SeriesExport.Http
