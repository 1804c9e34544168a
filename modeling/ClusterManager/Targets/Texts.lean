import Mathlib.Tactic.SplitIfs
import ClusterManager.Targets.InetAton

/-!
# The texts of addresses

A text that `ipaddress` reads consists of a number, or of groups and colons, before its scope: no
bracket, no white space. So what a scope may hold is all that can make a text mean less once
something is cut off its end.
-/

namespace ClusterManager

open IpAddress

/-- The characters of an address without its scope. -/
def IsIpChar (c : Char) : Prop := c = ':' ∨ IsNumeric c

theorem toNat_of_hexDigit {c : Char} (h : (hexDigit c).isSome) :
    48 ≤ c.toNat ∧ c.toNat ≤ 102 := by
  refine ⟨le_toNat_of_hexDigit h, ?_⟩
  unfold hexDigit at h
  split_ifs at h with hdigit hlower hupper
  · have hle : '0' ≤ c ∧ c ≤ '9' := of_decide_eq_true hdigit
    have hle' : c.toNat ≤ '9'.toNat := hle.2
    exact hle'.trans (by decide)
  · exact hlower.2
  · have hle' : c.toNat ≤ 'F'.toNat := hupper.2
    exact hle'.trans (by decide)
  · cases h

theorem toNat_of_isIpChar {c : Char} (h : IsIpChar c) : 46 ≤ c.toNat ∧ c.toNat ≤ 120 := by
  rcases h with rfl | rfl | rfl | rfl | h
  · decide
  · decide
  · decide
  · decide
  · have := toNat_of_hexDigit h
    omega

theorem not_isSpace_of_isIpChar {c : Char} (h : IsIpChar c) : Str.isSpace c = false := by
  have hbounds := toNat_of_isIpChar h
  simp only [Str.isSpace, Str.spaceCodes, List.contains_eq_mem, decide_eq_false_iff_not,
    List.mem_cons, List.not_mem_nil, or_false]
  omega

theorem not_isCSpace_of_isIpChar {c : Char} (h : IsIpChar c) : isCSpace c = false := by
  have hbounds := toNat_of_isIpChar h
  simp only [isCSpace, Bool.or_eq_false_iff, decide_eq_false_iff_not, Bool.and_eq_false_iff]
  omega

theorem not_isNumeric_colon : ¬IsNumeric ':' := by
  unfold IsNumeric
  decide

/-- No bracket, no slash, no scope and no null character is part of an address. -/
theorem ne_of_isIpChar {c : Char} (h : IsIpChar c) :
    c ≠ '[' ∧ c ≠ ']' ∧ c ≠ '/' ∧ c ≠ '%' ∧ c ≠ Char.ofNat 0 := by
  refine ⟨?_, ?_, ?_, ?_, ?_⟩ <;> rintro rfl <;> revert h <;> unfold IsIpChar IsNumeric <;> decide

/-! ### Version 6 -/

theorem hexDigit_of_mem_parseHextet {hextet : Str} {n : ℕ} (h : parseHextet hextet = some n) :
    ∀ c ∈ hextet, (hexDigit c).isSome := by
  unfold parseHextet at h
  split_ifs at h
  obtain ⟨digits, hdigits, -⟩ := Option.map_eq_some_iff.1 h
  intro c hc
  obtain ⟨d, hd⟩ := mapM_isSome_of_mem hdigits c hc
  simp [hd]

theorem hexDigit_of_mem_hextets {parts : List Str} {v : ℕ} (h : hextets parts = some v) :
    ∀ part ∈ parts, ∀ c ∈ part, (hexDigit c).isSome := by
  obtain ⟨values, hvalues, -⟩ := Option.map_eq_some_iff.1 h
  intro part hpart
  obtain ⟨n, hn⟩ := mapM_isSome_of_mem hvalues part hpart
  exact hexDigit_of_mem_parseHextet hn

/-- The parts around a `::` are hextets, or empty at an end. -/
theorem hexDigit_of_mem_aroundSkip {parts : List Str} {skip v : ℕ}
    (h : aroundSkip parts skip = some v) (hskip : parts[skip]? = some [])
    (hlt : skip + 1 < parts.length) : ∀ part ∈ parts, ∀ c ∈ part, (hexDigit c).isSome := by
  unfold aroundSkip at h
  dsimp only at h
  generalize hhi : (if parts.head? = some [] then skip - 1 else skip) = hi at h
  generalize hlo : (if parts.getLast? = some [] then parts.length - skip - 1 - 1
    else parts.length - skip - 1) = lo at h
  split_ifs at h with hhead hlast hlong
  obtain ⟨high, hhigh, h⟩ := Option.bind_eq_some_iff.1 h
  obtain ⟨low, hlow, -⟩ := Option.bind_eq_some_iff.1 h
  intro part hpart
  obtain ⟨i, hi', rfl⟩ := List.mem_iff_getElem.1 hpart
  have hempty : parts[i] = [] → ∀ c ∈ parts[i], (hexDigit c).isSome := by
    intro hnil
    simp [hnil]
  rcases lt_trichotomy i skip with hlt' | rfl | hgt
  · split_ifs at hhi with hfirst
    · obtain rfl : i = 0 := by
        have : ¬hi ≠ 0 := fun hne => hhead ⟨hfirst, hne⟩
        omega
      refine hempty ?_
      rw [List.head?_eq_getElem?, List.getElem?_eq_getElem hi', Option.some.injEq] at hfirst
      exact hfirst
    · refine hexDigit_of_mem_hextets hhigh _ ?_
      rw [← hhi]
      exact List.mem_take_iff_getElem.2 ⟨i, by omega, rfl⟩
  · refine hempty ?_
    rw [List.getElem?_eq_getElem hi', Option.some.injEq] at hskip
    exact hskip
  · split_ifs at hlo with hfinal
    · have hlow' : ¬lo ≠ 0 := fun hne => hlast ⟨hfinal, hne⟩
      obtain rfl : i = parts.length - 1 := by omega
      refine hempty ?_
      rw [List.getLast?_eq_getElem?, List.getElem?_eq_getElem hi', Option.some.injEq] at hfinal
      exact hfinal
    · refine hexDigit_of_mem_hextets hlow _ ?_
      rw [List.mem_drop_iff_getElem]
      exact ⟨i - (parts.length - lo), by omega, by congr 1; omega⟩

/-- An address of version 6 consists of digits, colons and dots. -/
theorem isIpChar_of_ipv6FromString {text : Str} {v : ℕ} (h : ipv6FromString text = some v) :
    ∀ c ∈ text, IsIpChar c := by
  unfold ipv6FromString at h
  dsimp only at h
  split_ifs at h with hfew
  obtain ⟨parts, hparts, h⟩ := Option.bind_eq_some_iff.1 h
  have hvalid : ∀ part ∈ parts, ∀ c ∈ part, (hexDigit c).isSome := by
    by_cases hmany : 9 < parts.length
    · rw [if_pos hmany] at h
      cases h
    · rw [if_neg hmany] at h
      split at h
      · split_ifs at h
        exact hexDigit_of_mem_hextets h
      · rename_i skip hskip
        have hmem : skip ∈ emptyParts parts := by simp [hskip]
        obtain ⟨-, hmem⟩ := List.mem_filter.1 hmem
        obtain ⟨-, hlt, hskip⟩ := of_decide_eq_true hmem
        exact hexDigit_of_mem_aroundSkip h hskip hlt
      · cases h
  have hpieces : ∀ piece ∈ text.splitOn ':', ∀ c ∈ piece, IsNumeric c := by
    unfold expandIpv4 at hparts
    split at hparts
    · rename_i last hlast
      split_ifs at hparts with hdot
      · obtain ⟨value, hvalue, rfl⟩ := Option.map_eq_some_iff.1 hparts
        intro piece hpiece c hc
        obtain ⟨init, hinit⟩ := List.getLast?_eq_some_iff.1 hlast
        rw [hinit] at hpiece hvalid
        rcases List.mem_append.1 hpiece with hpiece | hpiece
        · refine Or.inr (Or.inr (Or.inr (hvalid piece ?_ c hc)))
          simp [hpiece]
        · rw [List.mem_singleton.1 hpiece] at hc
          exact isNumeric_of_mem_inetAtonExact (inetAtonExact_of_ipv4FromString hvalue) c hc
      · cases hparts
        exact fun piece hpiece c hc => Or.inr (Or.inr (Or.inr (hvalid piece hpiece c hc)))
    · cases hparts
      exact fun piece hpiece c hc => Or.inr (Or.inr (Or.inr (hvalid piece hpiece c hc)))
  intro c hc
  rcases @exists_mem_splitOn ':' c text hc with hcolon | ⟨piece, hpiece, hc⟩
  · exact Or.inl hcolon
  · exact Or.inr (hpieces piece hpiece c hc)

theorem length_splitOn (sep : Char) (s : Str) : (s.splitOn sep).length = s.count sep + 1 := by
  induction hn : s.length using Nat.strong_induction_on generalizing s with
  | _ n ih =>
    by_cases hm : sep ∈ s
    · obtain ⟨a, b, rfl, ha⟩ := Str.eq_of_mem hm
      rw [List.splitOn_append_cons_self_of_not_mem ha, List.length_cons,
        ih b.length (by simp at hn; omega) b rfl, List.count_append, List.count_eq_zero.2 ha]
      simp
    · rw [List.splitOn_eq_singleton hm, List.count_eq_zero.2 hm]
      rfl

/-- An address of version 6 has two colons at least. -/
theorem two_le_count_of_ipv6FromString {text : Str} {v : ℕ} (h : ipv6FromString text = some v) :
    2 ≤ text.count ':' := by
  unfold ipv6FromString at h
  dsimp only at h
  split_ifs at h with hfew
  rw [length_splitOn] at hfew
  omega

theorem colon_mem_of_ipv6FromString {text : Str} {v : ℕ} (h : ipv6FromString text = some v) :
    ':' ∈ text :=
  List.count_pos_iff.1 (by have := two_le_count_of_ipv6FromString h; omega)

/-! ### Addresses -/

/-- Text with a colon is of no spelling of version 4. -/
theorem inetAtonExact_of_colon {text : Str} (h : ':' ∈ text) : inetAtonExact text = none := by
  cases hv : inetAtonExact text with
  | none => rfl
  | some v => exact (not_isNumeric_colon (isNumeric_of_mem_inetAtonExact hv _ h)).elim

theorem ipv4FromString_of_colon {text : Str} (h : ':' ∈ text) : ipv4FromString text = none := by
  cases hv : ipv4FromString text with
  | none => rfl
  | some v =>
    have := inetAtonExact_of_ipv4FromString hv
    rw [inetAtonExact_of_colon h] at this
    cases this

/-- What `ipaddress` reads is an address of version 4, or one of version 6 and perhaps a scope. -/
theorem ipAddress_cases {text : Str} {ip : IpAddress} (h : ipAddress text = some ip) :
    (∃ v, ip = .v4 v ∧ ipv4FromString text = some v) ∨
      ∃ v addr, ip = .v6 v ∧ ipv6FromString addr = some v ∧ (text = addr ∨
        ∃ scope, text = addr ++ '%' :: scope ∧ scope ≠ [] ∧ '%' ∉ scope ∧ '/' ∉ scope) := by
  unfold ipAddress at h
  split_ifs at h with hslash
  split at h
  · rename_i v hv
    exact Or.inl ⟨v, (Option.some.inj h).symm, hv⟩
  · obtain ⟨v, hv, rfl⟩ := Option.map_eq_some_iff.1 h
    obtain ⟨addr, haddr, hv⟩ := Option.bind_eq_some_iff.1 hv
    refine Or.inr ⟨v, addr, rfl, hv, ?_⟩
    by_cases hm : '%' ∈ text
    · obtain ⟨a, scope, rfl, ha⟩ := Str.eq_of_mem hm
      rw [splitScopeId, Str.partition_append ha] at haddr
      dsimp only at haddr
      split_ifs at haddr with hscope
      obtain rfl := Option.some.inj haddr
      rw [not_or] at hscope
      refine Or.inr ⟨scope, rfl, hscope.1, hscope.2, fun hin => hslash ?_⟩
      simp [hin]
    · rw [splitScopeId, Str.partition_of_not_mem hm] at haddr
      exact Or.inl (Option.some.inj haddr)

variable {addr : Str} {v : ℕ}

/-- An address of version 6 is read. -/
theorem ipAddress_of_ipv6FromString (h : ipv6FromString addr = some v) :
    ipAddress addr = some (.v6 v) := by
  have hchars := isIpChar_of_ipv6FromString h
  have hslash : '/' ∉ addr := fun hin => (ne_of_isIpChar (hchars _ hin)).2.2.1 rfl
  have hscope : '%' ∉ addr := fun hin => (ne_of_isIpChar (hchars _ hin)).2.2.2.1 rfl
  rw [ipAddress, if_neg hslash, ipv4FromString_of_colon (colon_mem_of_ipv6FromString h),
    splitScopeId, Str.partition_of_not_mem hscope]
  simp [h]

/-- An address of version 6 with a scope is read exactly where there is something of the scope. -/
theorem ipAddress_scoped (h : ipv6FromString addr = some v) {scope : Str} (hscope : '%' ∉ scope)
    (hslash : '/' ∉ scope) :
    ipAddress (addr ++ '%' :: scope) = if scope = [] then none else some (.v6 v) := by
  have hchars := isIpChar_of_ipv6FromString h
  have hslash' : '/' ∉ addr ++ '%' :: scope := by
    rw [List.mem_append, List.mem_cons]
    rintro (hin | hin | hin)
    · exact (ne_of_isIpChar (hchars _ hin)).2.2.1 rfl
    · cases hin
    · exact hslash hin
  have hscope' : '%' ∉ addr := fun hin => (ne_of_isIpChar (hchars _ hin)).2.2.2.1 rfl
  have hcolon : ':' ∈ addr ++ '%' :: scope :=
    List.mem_append_left _ (colon_mem_of_ipv6FromString h)
  rw [ipAddress, if_neg hslash', ipv4FromString_of_colon hcolon, splitScopeId,
    Str.partition_append hscope']
  by_cases hnil : scope = []
  · simp [hnil]
  · simp [hnil, hscope, h]

end ClusterManager
