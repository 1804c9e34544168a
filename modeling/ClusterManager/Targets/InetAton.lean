import ClusterManager.Lib.Delimited
import ClusterManager.RateLimit.IpAddress

/-!
# Addresses as the C library reads them

`socket.inet_aton` reads one to four numbers, each decimal, octal or hexadecimal, the last of which
fills the bytes that are left. What follows white space is not looked at. A canonical dotted quad
means the same to it as to `ipaddress` (`inetAtonExact_of_ipv4FromString`).
-/

namespace ClusterManager

open IpAddress

/-- `isspace` of the C locale. -/
def isCSpace (c : Char) : Bool := c.toNat = 0x20 || (0x09 ≤ c.toNat && c.toNat ≤ 0x0D)

/-- The value of digits of a base. -/
def digitsOf (base : ℕ) (digits : Str) : Option ℕ :=
  if digits = [] then none
  else (digits.mapM fun c => (hexDigit c).filter (· < base)).map fun values =>
    values.foldl (fun n d => base * n + d) 0

/-- A number as in C: hexadecimal after `0x`, octal after `0`, else decimal. -/
def cNumber : Str → Option ℕ
  | '0' :: 'x' :: digits => digitsOf 16 digits
  | '0' :: 'X' :: digits => digitsOf 16 digits
  | '0' :: c :: digits => digitsOf 8 (c :: digits)
  | digits => digitsOf 10 digits

/-- The address of one to four numbers. -/
def quadOf : List ℕ → Option ℕ
  | [d] => if d < 4294967296 then some d else none
  | [a, d] => if a < 256 ∧ d < 16777216 then some (16777216 * a + d) else none
  | [a, b, d] =>
      if a < 256 ∧ b < 256 ∧ d < 65536 then some (16777216 * a + 65536 * b + d) else none
  | [a, b, c, d] =>
      if a < 256 ∧ b < 256 ∧ c < 256 ∧ d < 256 then
        some (16777216 * a + 65536 * b + 256 * c + d)
      else none
  | _ => none

/-- `inet_aton` of a text without white space. -/
def inetAtonExact (text : Str) : Option ℕ := ((text.splitOn '.').mapM cNumber).bind quadOf

/-- `inet_aton`. -/
def inetAton (text : Str) : Option ℕ := inetAtonExact (text.takeWhile fun c => !isCSpace c)

/-- The characters of such numbers. -/
def IsNumeric (c : Char) : Prop := c = '.' ∨ c = 'x' ∨ c = 'X' ∨ (hexDigit c).isSome

/-! ### Characters -/

/-- The hexadecimal digits begin with `0`. -/
theorem le_toNat_of_hexDigit {c : Char} (h : (hexDigit c).isSome) : 48 ≤ c.toNat := by
  unfold hexDigit at h
  split_ifs at h with hdigit hlower hupper
  · have hle : '0' ≤ c ∧ c ≤ '9' := of_decide_eq_true hdigit
    have hle' : '0'.toNat ≤ c.toNat := hle.1
    exact hle'
  · have hle' : 'a'.toNat ≤ c.toNat := hlower.1
    exact (by decide : 48 ≤ 'a'.toNat).trans hle'
  · have hle' : 'A'.toNat ≤ c.toNat := hupper.1
    exact (by decide : 48 ≤ 'A'.toNat).trans hle'
  · cases h

theorem not_isCSpace_of_isNumeric {c : Char} (h : IsNumeric c) : isCSpace c = false := by
  rcases h with rfl | rfl | rfl | h
  · decide
  · decide
  · decide
  · have hle := le_toNat_of_hexDigit h
    simp only [isCSpace, Bool.or_eq_false_iff, decide_eq_false_iff_not, Bool.and_eq_false_iff]
    omega

theorem mapM_isSome_of_mem {α β : Type} {f : α → Option β} {l : List α} {l' : List β}
    (h : l.mapM f = some l') : ∀ a ∈ l, ∃ b, f a = some b := by
  induction l generalizing l' with
  | nil => simp
  | cons a l ih =>
    rw [List.mapM_cons, Option.bind_eq_bind, Option.bind_eq_some_iff] at h
    obtain ⟨b, hb, h⟩ := h
    rw [Option.bind_eq_bind, Option.bind_eq_some_iff] at h
    obtain ⟨rest, hrest, -⟩ := h
    intro c hc
    rcases List.mem_cons.1 hc with rfl | hc
    · exact ⟨b, hb⟩
    · exact ih hrest c hc

theorem isSome_of_mem_digitsOf {base n : ℕ} {digits : Str} (h : digitsOf base digits = some n) :
    ∀ c ∈ digits, (hexDigit c).isSome := by
  unfold digitsOf at h
  split_ifs at h
  obtain ⟨values, hvalues, -⟩ := Option.map_eq_some_iff.1 h
  intro c hc
  obtain ⟨d, hd⟩ := mapM_isSome_of_mem hvalues c hc
  simp [(Option.filter_eq_some_iff.1 hd).1]

theorem isNumeric_of_mem_cNumber {n : ℕ} {text : Str} (h : cNumber text = some n) :
    ∀ c ∈ text, IsNumeric c := by
  have hzero : (hexDigit '0').isSome := by decide
  intro c hc
  unfold cNumber at h
  split at h
  · rename_i digits
    rcases List.mem_cons.1 hc with rfl | hc
    · exact Or.inr (Or.inr (Or.inr hzero))
    · rcases List.mem_cons.1 hc with rfl | hc
      · exact Or.inr (Or.inl rfl)
      · exact Or.inr (Or.inr (Or.inr (isSome_of_mem_digitsOf h c hc)))
  · rename_i digits
    rcases List.mem_cons.1 hc with rfl | hc
    · exact Or.inr (Or.inr (Or.inr hzero))
    · rcases List.mem_cons.1 hc with rfl | hc
      · exact Or.inr (Or.inr (Or.inl rfl))
      · exact Or.inr (Or.inr (Or.inr (isSome_of_mem_digitsOf h c hc)))
  · rcases List.mem_cons.1 hc with rfl | hc
    · exact Or.inr (Or.inr (Or.inr hzero))
    · exact Or.inr (Or.inr (Or.inr (isSome_of_mem_digitsOf h c hc)))
  · exact Or.inr (Or.inr (Or.inr (isSome_of_mem_digitsOf h c hc)))

/-- A character of a text is the separator, or one of a piece. -/
theorem exists_mem_splitOn {sep c : Char} {s : Str} (hc : c ∈ s) :
    c = sep ∨ ∃ piece ∈ s.splitOn sep, c ∈ piece := by
  induction hn : s.length using Nat.strong_induction_on generalizing s with
  | _ n ih =>
    by_cases hm : sep ∈ s
    · obtain ⟨a, b, rfl, ha⟩ := Str.eq_of_mem hm
      rw [List.splitOn_append_cons_self_of_not_mem ha]
      rcases List.mem_append.1 hc with hc | hc
      · exact Or.inr ⟨a, List.mem_cons_self, hc⟩
      · rcases List.mem_cons.1 hc with rfl | hc
        · exact Or.inl rfl
        · rcases ih b.length (by simp at hn; omega) hc rfl with h | ⟨piece, hpiece, h⟩
          · exact Or.inl h
          · exact Or.inr ⟨piece, List.mem_cons_of_mem _ hpiece, h⟩
    · rw [List.splitOn_eq_singleton hm]
      exact Or.inr ⟨s, List.mem_singleton_self s, hc⟩

theorem isNumeric_of_mem_inetAtonExact {v : ℕ} {text : Str} (h : inetAtonExact text = some v) :
    ∀ c ∈ text, IsNumeric c := by
  obtain ⟨numbers, hnumbers, -⟩ := Option.bind_eq_some_iff.1 h
  intro c hc
  rcases @exists_mem_splitOn '.' c text hc with rfl | ⟨piece, hpiece, hc⟩
  · exact Or.inl rfl
  · obtain ⟨n, hn⟩ := mapM_isSome_of_mem hnumbers piece hpiece
    exact isNumeric_of_mem_cNumber hn c hc

/-- White space ends the address. -/
theorem inetAton_append {v : ℕ} {text rest : Str} (h : inetAtonExact text = some v)
    (hrest : ∀ c ∈ rest.head?, isCSpace c = true) : inetAton (text ++ rest) = some v := by
  have hspace : ∀ c ∈ text, (!isCSpace c) = true := by
    intro c hc
    rw [not_isCSpace_of_isNumeric (isNumeric_of_mem_inetAtonExact h c hc)]
    rfl
  have htake : (text ++ rest).takeWhile (fun c => !isCSpace c) = text := by
    rw [List.takeWhile_append_of_pos hspace]
    cases rest with
    | nil => simp
    | cons c rest => simp [hrest c rfl]
  rw [inetAton, htake, h]

/-- An address ends at white space. -/
theorem exists_of_inetAton {v : ℕ} {text : Str} (h : inetAton text = some v) :
    ∃ number rest, text = number ++ rest ∧ inetAtonExact number = some v ∧
      ∀ c ∈ rest.head?, isCSpace c = true := by
  refine ⟨_, _, (List.takeWhile_append_dropWhile (p := fun c => !isCSpace c)).symm, h, ?_⟩
  intro c hc
  have := List.head?_dropWhile_not (fun c => !isCSpace c) text
  rw [hc] at this
  simpa using this

/-! ### Canonical quads -/

theorem mapM_digits {digits : Str} (h : digits.all isDigit = true) :
    (digits.mapM fun c => (hexDigit c).filter (· < 10)) =
      some (digits.map fun c => c.toNat - '0'.toNat) := by
  induction digits with
  | nil => rfl
  | cons c digits ih =>
    rw [List.all_cons, Bool.and_eq_true] at h
    have hle : '0'.toNat ≤ c.toNat ∧ c.toNat ≤ '9'.toNat := by
      have := h.1
      simp only [isDigit, decide_eq_true_eq] at this
      exact this
    have hlt : c.toNat - '0'.toNat < 10 := by
      have h0 : '0'.toNat = 48 := rfl
      have h9 : '9'.toNat = 57 := rfl
      omega
    have hc : (hexDigit c).filter (· < 10) = some (c.toNat - '0'.toNat) := by
      rw [hexDigit, if_pos h.1]
      simpa using hlt
    rw [List.mapM_cons, hc, ih h.2]
    rfl

theorem digitsOf_decimal {digits : Str} (hne : digits ≠ []) (h : digits.all isDigit = true) :
    digitsOf 10 digits = some (decimal digits) := by
  rw [digitsOf, if_neg hne, mapM_digits h, Option.map_some, decimal, List.foldl_map]

/-- An octet is a decimal number below 256. -/
theorem cNumber_of_parseOctet {octet : Str} {n : ℕ} (h : parseOctet octet = some n) :
    cNumber octet = some n ∧ n < 256 := by
  unfold parseOctet at h
  split_ifs at h with hshape hzero hlarge
  obtain ⟨hne, hdigits⟩ : octet ≠ [] ∧ octet.all isDigit = true := by
    refine ⟨fun hnil => hshape (Or.inl hnil), ?_⟩
    by_contra hno
    exact hshape (Or.inr (Or.inl (by simpa using hno)))
  have hdecimal : cNumber octet = digitsOf 10 octet := by
    unfold cNumber
    split
    · exact (hzero ⟨by simp, rfl⟩).elim
    · exact (hzero ⟨by simp, rfl⟩).elim
    · exact (hzero ⟨by simp, rfl⟩).elim
    · rfl
  rw [hdecimal, digitsOf_decimal hne hdigits]
  exact ⟨h, by cases h; omega⟩

/-- A canonical quad is the address it spells. -/
theorem inetAtonExact_of_ipv4FromString {text : Str} {v : ℕ} (h : ipv4FromString text = some v) :
    inetAtonExact text = some v := by
  unfold ipv4FromString at h
  dsimp only at h
  split_ifs at h with hlength
  obtain ⟨values, hvalues, rfl⟩ := Option.map_eq_some_iff.1 h
  obtain ⟨a, b, c, d, hquad⟩ := List.length_eq_four.1 (not_not.1 hlength)
  unfold inetAtonExact
  rw [hquad] at hvalues ⊢
  simp only [List.mapM_cons, List.mapM_nil, Option.bind_eq_bind, Option.bind_eq_some_iff,
    Option.pure_def, Option.some.injEq] at hvalues
  obtain ⟨na, ha, _, ⟨nb, hb, _, ⟨nc, hc, _, ⟨nd, hd, _, rfl, rfl⟩, rfl⟩, rfl⟩, rfl⟩ := hvalues
  obtain ⟨ha, hna⟩ := cNumber_of_parseOctet ha
  obtain ⟨hb, hnb⟩ := cNumber_of_parseOctet hb
  obtain ⟨hc, hnc⟩ := cNumber_of_parseOctet hc
  obtain ⟨hd, hnd⟩ := cNumber_of_parseOctet hd
  have hnumbers : [a, b, c, d].mapM cNumber = some [na, nb, nc, nd] := by
    simp [List.mapM_cons, ha, hb, hc, hd]
  rw [hnumbers, Option.bind_some, quadOf, if_pos ⟨hna, hnb, hnc, hnd⟩]
  simp only [List.foldl_cons, List.foldl_nil, Option.some.injEq]
  omega

end ClusterManager
