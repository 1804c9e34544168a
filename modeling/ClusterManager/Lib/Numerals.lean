import Mathlib.Data.Nat.Digits.Defs
import ClusterManager.Text

/-!
# Numerals and bytes as text

What `int`, `str`, `bytes.fromhex`, `bytes.hex` and `repr` make of texts, integers and byte
strings, and which of them undo each other. `none` is a `ValueError`.
-/

namespace ClusterManager.Numerals

/-! ### Integers -/

/-- `str(n)`. -/
def intText (n : ℤ) : Str :=
  if n < 0 then '-' :: Nat.toDigits 10 n.natAbs else Nat.toDigits 10 n.natAbs

/-- The code points of the zeros of the decimal digits (category `Nd`). -/
def zeroCodes : List ℕ :=
  [0x30, 0x660, 0x6F0, 0x7C0, 0x966, 0x9E6, 0xA66, 0xAE6, 0xB66, 0xBE6, 0xC66, 0xCE6, 0xD66, 0xDE6,
    0xE50, 0xED0, 0xF20, 0x1040, 0x1090, 0x17E0, 0x1810, 0x1946, 0x19D0, 0x1A80, 0x1A90, 0x1B50,
    0x1BB0, 0x1C40, 0x1C50, 0xA620, 0xA8D0, 0xA900, 0xA9D0, 0xA9F0, 0xAA50, 0xABF0, 0xFF10,
    0x104A0, 0x10D30, 0x10D40, 0x11066, 0x110F0, 0x11136, 0x111D0, 0x112F0, 0x11450, 0x114D0,
    0x11650, 0x116C0, 0x116D0, 0x116DA, 0x11730, 0x118E0, 0x11950, 0x11BF0, 0x11C50, 0x11D50,
    0x11DA0, 0x11F50, 0x16A60, 0x16AC0, 0x16B50, 0x16D70, 0x1CCF0, 0x1D7CE, 0x1D7D8, 0x1D7E2,
    0x1D7EC, 0x1D7F6, 0x1E140, 0x1E2F0, 0x1E4F0, 0x1E5F1, 0x1E950, 0x1FBF0]

/-- The value of a decimal digit of any script. -/
def digitValue (c : Char) : Option ℕ :=
  (zeroCodes.find? fun base => base ≤ c.toNat ∧ c.toNat < base + 10).map (c.toNat - ·)

/-- What `int` skips around a numeral: whitespace, but not the four ASCII separators. -/
def isIntSpace (c : Char) : Bool := Str.isSpace c && !(0x1C ≤ c.toNat && c.toNat ≤ 0x1F)

/-- The digits of a numeral without its sign. Single underscores may stand between digits. -/
def digitRun (text : Str) : Option (List ℕ) :=
  let groups := text.splitOn '_'
  if [] ∈ groups then none else groups.flatten.mapM digitValue

/-- The sign of a numeral, and what follows it. -/
def splitSign : Str → Bool × Str
  | '+' :: rest => (false, rest)
  | '-' :: rest => (true, rest)
  | rest => (false, rest)

/-- The number of digits `int` accepts. -/
def maxStrDigits : ℕ := 4300

/-- `int(text)`. -/
def parseInt (text : Str) : Option ℤ :=
  let numeral := splitSign ((text.dropWhile isIntSpace).rdropWhile isIntSpace)
  (digitRun numeral.2).bind fun digits =>
    if maxStrDigits < digits.length then none
    else
      let value : ℕ := digits.foldl (fun n d => 10 * n + d) 0
      some (if numeral.1 then -value else value)

/-- An ASCII digit. -/
def isAsciiDigit (c : Char) : Bool := '0' ≤ c && c ≤ '9'

/-- A text as `str` writes positive integers. -/
def isPositiveText : Str → Bool
  | [] => false
  | c :: rest => '1' ≤ c && isAsciiDigit c && rest.all isAsciiDigit

/-- A text as `str` writes integers: `0`, or digits that begin with none, perhaps after a `-`. -/
def isIntText (text : Str) : Bool :=
  text = ['0'] ||
    match text with
    | '-' :: rest => isPositiveText rest
    | rest => isPositiveText rest

theorem isAsciiDigit_iff {c : Char} : isAsciiDigit c = true ↔ 48 ≤ c.toNat ∧ c.toNat ≤ 57 := by
  simp [isAsciiDigit, Char.le_def, UInt32.le_iff_toNat_le]

/-- The ASCII digits have their value. -/
theorem digitValue_ascii {c : Char} (h : isAsciiDigit c = true) :
    digitValue c = some (c.toNat - 48) := by
  have hc := isAsciiDigit_iff.1 h
  have hfind : (zeroCodes.find? fun base => base ≤ c.toNat ∧ c.toNat < base + 10) = some 0x30 := by
    rw [zeroCodes, List.find?_cons_of_pos]
    simp only [decide_eq_true_eq]
    omega
  rw [digitValue, hfind]
  rfl

theorem not_spaceCode_digit : ∀ code ∈ Str.spaceCodes, code < 48 ∨ 57 < code := by decide

theorem not_isIntSpace_ascii {c : Char} (h : isAsciiDigit c = true ∨ c = '-') :
    isIntSpace c = false := by
  rcases h with h | rfl
  · have hc := isAsciiDigit_iff.1 h
    have hspace : Str.isSpace c = false := by
      rw [Str.isSpace, List.contains_eq_mem, decide_eq_false_iff_not]
      intro hmem
      have := not_spaceCode_digit _ hmem
      omega
    simp [isIntSpace, hspace]
  · decide

/-- The digits of a natural number are ASCII digits. -/
theorem isAsciiDigit_of_mem_toDigits {n : ℕ} {c : Char} (h : c ∈ Nat.toDigits 10 n) :
    isAsciiDigit c = true := by
  have := Nat.isDigit_of_mem_toDigits (by decide) (by decide) h
  simpa [isAsciiDigit, Char.isDigit, Char.le_def] using this

/-- The digits of ASCII digits are their values. -/
theorem digitRun_ascii {text : Str} (hne : text ≠ []) (h : ∀ c ∈ text, isAsciiDigit c = true) :
    digitRun text = some (text.map fun c => c.toNat - 48) := by
  have hsplit : text.splitOn '_' = [text] := by
    refine List.splitOn_eq_singleton fun hmem => ?_
    exact absurd (h _ hmem) (by decide)
  have hmap : ∀ l : Str, (∀ c ∈ l, isAsciiDigit c = true) →
      l.mapM digitValue = some (l.map fun c => c.toNat - 48) := by
    intro l hl
    induction l with
    | nil => rfl
    | cons c l ih =>
      rw [List.mapM_cons, digitValue_ascii (hl c (by simp)), ih fun d hd => hl d (by simp [hd])]
      rfl
  rw [digitRun, hsplit, if_neg (by simpa using hne.symm), List.flatten_cons, List.flatten_nil,
    List.append_nil, hmap text h]

/-- The value of the digits of a natural number is the number. -/
theorem foldl_toDigits (n : ℕ) :
    ((Nat.toDigits 10 n).map fun c => c.toNat - 48).foldl (fun n d => 10 * n + d) 0 = n := by
  rw [List.foldl_map]
  exact Nat.ofDigitChars_ten_toDigits

/-- `str` writes integers with digits and `-`. -/
theorem of_mem_intText {n : ℤ} {c : Char} (hc : c ∈ intText n) :
    isAsciiDigit c = true ∨ c = '-' := by
  unfold intText at hc
  split at hc
  · rcases List.mem_cons.1 hc with rfl | hc
    · exact Or.inr rfl
    · exact Or.inl (isAsciiDigit_of_mem_toDigits hc)
  · exact Or.inl (isAsciiDigit_of_mem_toDigits hc)

/-- Nothing is stripped from what `str` writes. -/
theorem stripped_intText (n : ℤ) :
    ((intText n).dropWhile isIntSpace).rdropWhile isIntSpace = intText n := by
  have h : ∀ c ∈ intText n, isIntSpace c = false :=
    fun c hc => not_isIntSpace_ascii (of_mem_intText hc)
  have hd : (intText n).dropWhile isIntSpace = intText n := by
    cases ht : intText n with
    | nil => rfl
    | cons c rest => rw [List.dropWhile_cons_of_neg (by simp [h c (by simp [ht])])]
  rw [hd, List.rdropWhile_eq_self_iff]
  intro hl
  simp [h _ (List.getLast_mem hl)]

/-- A digit is no sign. -/
theorem splitSign_toDigits (n : ℕ) :
    splitSign (Nat.toDigits 10 n) = (false, Nat.toDigits 10 n) := by
  have h := fun c (hc : c ∈ Nat.toDigits 10 n) => isAsciiDigit_of_mem_toDigits hc
  generalize Nat.toDigits 10 n = text at h
  unfold splitSign
  split
  · exact absurd (h '+' (by simp)) (by decide)
  · exact absurd (h '-' (by simp)) (by decide)
  · rfl

theorem splitSign_intText (n : ℤ) :
    splitSign (intText n) = (decide (n < 0), Nat.toDigits 10 n.natAbs) := by
  unfold intText
  split
  · simp [splitSign, *]
  · simp [splitSign_toDigits, *]

/-- `int(str(n))` is `n`, unless `n` has too many digits. -/
theorem parseInt_intText (n : ℤ) : parseInt (intText n) =
    if maxStrDigits < (Nat.toDigits 10 n.natAbs).length then none else some n := by
  simp only [parseInt]
  rw [stripped_intText, splitSign_intText,
    digitRun_ascii Nat.toDigits_ne_nil fun c hc => isAsciiDigit_of_mem_toDigits hc]
  simp only [Option.bind_some, List.length_map, foldl_toDigits]
  split
  · rfl
  · congr 1
    split
    · simp_all only [decide_eq_true_eq]
      omega
    · simp_all only [decide_eq_true_eq]
      omega

/-- An integer of few digits is read back. -/
theorem parseInt_intText_of_le {n : ℤ} (h : (Nat.toDigits 10 n.natAbs).length ≤ maxStrDigits) :
    parseInt (intText n) = some n := by
  rw [parseInt_intText, if_neg (by omega)]

/-- `str(n)` where an integer of too many digits is refused. -/
def printInt (n : ℤ) : Option Str :=
  if maxStrDigits < (Nat.toDigits 10 n.natAbs).length then none else some (intText n)

/-- What is printed is read back. -/
theorem parseInt_of_printInt {n : ℤ} {text : Str} (h : printInt n = some text) :
    parseInt text = some n := by
  unfold printInt at h
  split at h
  · cases h
  · cases h
    exact parseInt_intText_of_le (by omega)

theorem digitValue_lt {c : Char} {d : ℕ} (h : digitValue c = some d) : d < 10 := by
  obtain ⟨base, hbase, rfl⟩ := Option.map_eq_some_iff.1 h
  have := List.find?_some hbase
  simp only [decide_eq_true_eq] at this
  omega

/-- Digits make a number of no more digits. -/
theorem foldl_digits_lt {digits : List ℕ} (h : ∀ d ∈ digits, d < 10) (n : ℕ) :
    digits.foldl (fun n d => 10 * n + d) n < (n + 1) * 10 ^ digits.length := by
  induction digits generalizing n with
  | nil => simp
  | cons d digits ih =>
    rw [List.foldl_cons, List.length_cons, pow_succ']
    have hd := h d (by simp)
    calc digits.foldl (fun n d => 10 * n + d) (10 * n + d)
        < (10 * n + d + 1) * 10 ^ digits.length := ih (fun e he => h e (by simp [he])) _
      _ ≤ (10 * (n + 1)) * 10 ^ digits.length := Nat.mul_le_mul_right _ (by omega)
      _ = (n + 1) * (10 * 10 ^ digits.length) := by
        rw [Nat.mul_comm 10 (n + 1), Nat.mul_assoc]

/-- What a partial function makes of a list comes from the elements of the list. -/
theorem exists_of_mem_mapM {α β : Type} {f : α → Option β} {l : List α} {l' : List β}
    (h : l.mapM f = some l') : ∀ b ∈ l', ∃ a ∈ l, f a = some b := by
  induction l generalizing l' with
  | nil =>
    cases h
    simp
  | cons a l ih =>
    rw [List.mapM_cons] at h
    obtain ⟨b, hb, h⟩ := Option.bind_eq_some_iff.1 h
    obtain ⟨rest, hrest, h⟩ := Option.bind_eq_some_iff.1 h
    cases h
    intro c hc
    rcases List.mem_cons.1 hc with rfl | hc
    · exact ⟨a, List.mem_cons_self, hb⟩
    · exact (ih hrest c hc).imp fun _ h => ⟨List.mem_cons_of_mem _ h.1, h.2⟩

theorem digits_lt_of_digitRun {text : Str} {digits : List ℕ} (h : digitRun text = some digits) :
    ∀ d ∈ digits, d < 10 := by
  unfold digitRun at h
  simp only at h
  split at h
  · cases h
  · intro d hd
    obtain ⟨c, -, hc⟩ := exists_of_mem_mapM h d hd
    exact digitValue_lt hc

/-- What is read can be printed. -/
theorem printInt_of_parseInt {text : Str} {n : ℤ} (h : parseInt text = some n) :
    printInt n = some (intText n) := by
  simp only [parseInt] at h
  obtain ⟨digits, hdigits, h⟩ := Option.bind_eq_some_iff.1 h
  split at h
  · cases h
  · rename_i hlen
    have hlt := foldl_digits_lt (digits_lt_of_digitRun hdigits) 0
    have hn : n.natAbs = digits.foldl (fun n d => 10 * n + d) 0 := by
      have h := Option.some.inj h
      split at h <;> omega
    rw [printInt, if_neg]
    rw [not_lt, Nat.length_toDigits_le_iff (by decide) (by decide), hn]
    calc digits.foldl (fun n d => 10 * n + d) 0
        < (0 + 1) * 10 ^ digits.length := hlt
      _ ≤ 10 ^ maxStrDigits := by
        rw [Nat.zero_add, Nat.one_mul]
        exact Nat.pow_le_pow_right (by decide) (by omega)

/-- `str` writes distinct integers differently. -/
theorem intText_injective : Function.Injective intText := by
  intro a b h
  have hs : splitSign (intText a) = splitSign (intText b) := by rw [h]
  rw [splitSign_intText, splitSign_intText, Prod.mk.injEq] at hs
  have hn : a.natAbs = b.natAbs := by
    rw [← foldl_toDigits a.natAbs, ← foldl_toDigits b.natAbs, hs.2]
  have hlt : a < 0 ↔ b < 0 := by simpa using hs.1
  omega

theorem digitChar_ofNat : ∀ n < 10, Nat.digitChar n = Char.ofNat (48 + n) := by decide

/-- A digit is the digit of its value. -/
theorem toDigits_digit {c : Char} (h : isAsciiDigit c = true) :
    Nat.toDigits 10 (c.toNat - 48) = [c] := by
  have hc := isAsciiDigit_iff.1 h
  have hlt : c.toNat - 48 < 10 := by omega
  have hval : c = Char.ofNat (48 + (c.toNat - 48)) := by
    rw [show 48 + (c.toNat - 48) = c.toNat by omega, Char.ofNat_toNat]
  generalize c.toNat - 48 = n at hlt hval
  rw [Nat.toDigits_of_lt_base hlt, hval, digitChar_ofNat n hlt]

theorem isPositiveText_digit : ∀ n < 10, 0 < n → isPositiveText [Nat.digitChar n] = true := by
  decide

/-- Positive numerals are the digits of the positive numbers. -/
theorem isPositiveText_iff {text : Str} :
    isPositiveText text = true ↔ ∃ n, 0 < n ∧ Nat.toDigits 10 n = text := by
  constructor
  · intro h
    induction text using List.reverseRecOn with
    | nil => simp [isPositiveText] at h
    | append_singleton text d ih =>
      cases text with
      | nil =>
        have hd : '1' ≤ d ∧ isAsciiDigit d = true := by simpa [isPositiveText] using h
        have hone : 49 ≤ d.toNat := by simpa [Char.le_def, UInt32.le_iff_toNat_le] using hd.1
        exact ⟨d.toNat - 48, by omega, toDigits_digit hd.2⟩
      | cons c rest =>
        have hrest : isPositiveText (c :: rest) = true ∧ isAsciiDigit d = true := by
          simpa [isPositiveText, and_assoc] using h
        obtain ⟨n, hn, htext⟩ := ih hrest.1
        have hcode := isAsciiDigit_iff.1 hrest.2
        have hlt : d.toNat - 48 < 10 := by omega
        refine ⟨10 * n + (d.toNat - 48), by omega, ?_⟩
        rw [← htext, ← Nat.toDigits_append_toDigits (by decide) hn hlt, toDigits_digit hrest.2]
  · rintro ⟨n, hn, rfl⟩
    induction n using Nat.base_induction 10 (by decide) with
    | single m hm =>
      rw [Nat.toDigits_of_lt_base hm]
      exact isPositiveText_digit m hm hn
    | digit m k hk hm ih =>
      rw [← Nat.toDigits_append_toDigits (by decide) hm hk]
      have hdigit : ∀ c ∈ Nat.toDigits 10 k, isAsciiDigit c = true :=
        fun c => isAsciiDigit_of_mem_toDigits
      cases htext : Nat.toDigits 10 m with
      | nil => exact absurd htext Nat.toDigits_ne_nil
      | cons c rest =>
        have := ih hm
        rw [htext] at this
        simp_all [isPositiveText]

/-- The texts `str` writes integers as. -/
theorem isIntText_iff {text : Str} : isIntText text = true ↔ ∃ n, intText n = text := by
  constructor
  · intro h
    unfold isIntText at h
    rcases Bool.or_eq_true_iff.1 h with h | h
    · exact ⟨0, by rw [of_decide_eq_true h]; rfl⟩
    · split at h
      · obtain ⟨n, hn, rfl⟩ := isPositiveText_iff.1 h
        exact ⟨-n, by simp [intText, hn]⟩
      · obtain ⟨n, hn, rfl⟩ := isPositiveText_iff.1 h
        exact ⟨n, by simp [intText]⟩
  · rintro ⟨n, rfl⟩
    unfold intText isIntText
    rcases lt_trichotomy n 0 with hn | rfl | hn
    · have := isPositiveText_iff.2 ⟨n.natAbs, by omega, rfl⟩
      simp [hn, this]
    · rfl
    · have hpos := isPositiveText_iff.2 ⟨n.natAbs, by omega, rfl⟩
      rw [if_neg (by omega), Bool.or_eq_true_iff]
      refine Or.inr ?_
      split
      · rename_i heq
        rw [heq] at hpos
        exact absurd hpos (by simp [isPositiveText])
      · exact hpos

/-! ### Bytes as hexadecimal digits -/

/-- `bytes.hex()`. -/
def hexText (data : List UInt8) : Str :=
  data.flatMap fun b => [Nat.digitChar (b.toNat / 16), Nat.digitChar (b.toNat % 16)]

/-- The value of a hexadecimal digit of either case. -/
def hexValue (c : Char) : Option ℕ :=
  if isAsciiDigit c then some (c.toNat - 48)
  else if 'a' ≤ c ∧ c ≤ 'f' then some (c.toNat - 87)
  else if 'A' ≤ c ∧ c ≤ 'F' then some (c.toNat - 55)
  else none

/-- What `bytes.fromhex` skips between bytes. -/
def isHexSpace (c : Char) : Bool := c.toNat = 0x20 || (0x09 ≤ c.toNat && c.toNat ≤ 0x0D)

/-- `bytes.fromhex(text)`. -/
def parseHex : Str → Option (List UInt8)
  | [] => some []
  | [c] => if isHexSpace c then some [] else none
  | c :: d :: rest =>
      if isHexSpace c then parseHex (d :: rest)
      else do
        let high ← hexValue c
        let low ← hexValue d
        let data ← parseHex rest
        return UInt8.ofNat (16 * high + low) :: data

/-- A hexadecimal digit as `bytes.hex` writes it. -/
def isLowerHex (c : Char) : Bool := isAsciiDigit c || ('a' ≤ c && c ≤ 'f')

theorem hexValue_digitChar : ∀ n < 16, hexValue (Nat.digitChar n) = some n := by decide

theorem isLowerHex_digitChar : ∀ n < 16, isLowerHex (Nat.digitChar n) = true := by decide

theorem not_isHexSpace_digitChar : ∀ n < 16, isHexSpace (Nat.digitChar n) = false := by decide

@[simp] theorem hexText_cons (b : UInt8) (data : List UInt8) : hexText (b :: data) =
    Nat.digitChar (b.toNat / 16) :: Nat.digitChar (b.toNat % 16) :: hexText data := rfl

/-- `bytes.hex` writes lower-case digits. -/
theorem isLowerHex_of_mem_hexText {data : List UInt8} {c : Char} (h : c ∈ hexText data) :
    isLowerHex c = true := by
  obtain ⟨b, -, hc⟩ := List.mem_flatMap.1 h
  have hb := b.toNat_lt
  rcases List.mem_cons.1 hc with rfl | hc
  · exact isLowerHex_digitChar _ (by omega)
  · rw [List.mem_singleton.1 hc]
    exact isLowerHex_digitChar _ (by omega)

/-- A lower-case digit is the digit of its value, and no space. -/
theorem hexValue_lower {c : Char} (h : isLowerHex c = true) :
    ∃ n < 16, c = Nat.digitChar n := by
  have hletter : ∀ n < 16, 10 ≤ n → Nat.digitChar n = Char.ofNat (87 + n) := by decide
  rcases Bool.or_eq_true_iff.1 h with h | h
  · have hc := isAsciiDigit_iff.1 h
    refine ⟨c.toNat - 48, by omega, ?_⟩
    rw [digitChar_ofNat _ (by omega), show 48 + (c.toNat - 48) = c.toNat by omega, Char.ofNat_toNat]
  · have hc : 97 ≤ c.toNat ∧ c.toNat ≤ 102 := by
      simpa [Char.le_def, UInt32.le_iff_toNat_le] using h
    refine ⟨c.toNat - 87, by omega, ?_⟩
    rw [hletter _ (by omega) (by omega), show 87 + (c.toNat - 87) = c.toNat by omega,
      Char.ofNat_toNat]

/-- A text of lower-case digits that is read is written again. -/
theorem hexText_of_parseHex {text : Str} {data : List UInt8}
    (hlower : ∀ c ∈ text, isLowerHex c = true) (h : parseHex text = some data) :
    hexText data = text := by
  induction text using parseHex.induct generalizing data with
  | case1 => simp_all [parseHex, hexText]
  | case2 c hspace =>
    obtain ⟨n, hn, rfl⟩ := hexValue_lower (hlower c (by simp))
    simp [not_isHexSpace_digitChar n hn] at hspace
  | case3 c hspace => simp_all [parseHex]
  | case4 c d rest hspace ih =>
    obtain ⟨n, hn, rfl⟩ := hexValue_lower (hlower c (by simp))
    simp [not_isHexSpace_digitChar n hn] at hspace
  | case5 c d rest hspace ih =>
    obtain ⟨high, hhigh, rfl⟩ := hexValue_lower (hlower c (by simp))
    obtain ⟨low, hlow, rfl⟩ := hexValue_lower (hlower d (by simp))
    rw [parseHex, if_neg hspace, hexValue_digitChar _ hhigh, hexValue_digitChar _ hlow] at h
    obtain ⟨tail, htail, rfl⟩ : ∃ tail, parseHex rest = some tail ∧
        UInt8.ofNat (16 * high + low) :: tail = data := by
      simpa [Option.bind_eq_some_iff] using h
    have hval : (UInt8.ofNat (16 * high + low)).toNat = 16 * high + low :=
      UInt8.toNat_ofNat_of_lt' (by simp [UInt8.size]; omega)
    rw [hexText_cons, hval, ih (fun c hc => hlower c (by simp [hc])) htail]
    congr 3 <;> omega

/-- What is read is what was written, in the one spelling `bytes.hex` uses. -/
theorem hexText_eq_iff {text : Str} {data : List UInt8} (h : parseHex text = some data) :
    hexText data = text ↔ text.all isLowerHex = true := by
  rw [List.all_eq_true]
  constructor
  · rintro rfl c hc
    exact isLowerHex_of_mem_hexText hc
  · exact fun hlower => hexText_of_parseHex hlower h

/-! ### Bytes as `repr` writes them -/

/-- The apostrophe. -/
def apostrophe : Char := Char.ofNat 0x27

/-- The backslash. -/
def backslash : Char := Char.ofNat 0x5C

/-- One byte inside the quotes. -/
def byteRepr (quote : Char) (b : UInt8) : Str :=
  let c := Char.ofNat b.toNat
  if c = quote ∨ c = backslash then [backslash, c]
  else if c = '\t' then [backslash, 't']
  else if c = '\n' then [backslash, 'n']
  else if c = '\r' then [backslash, 'r']
  else if b.toNat < 0x20 ∨ 0x7F ≤ b.toNat then
    [backslash, 'x', Nat.digitChar (b.toNat / 16), Nat.digitChar (b.toNat % 16)]
  else [c]

/-- The quotes around the bytes: double ones where only the apostrophe occurs. -/
def reprQuote (data : List UInt8) : Char :=
  if 0x27 ∈ data ∧ 0x22 ∉ data then Char.ofNat 0x22 else apostrophe

/-- `repr(data)`, which is `str(data)`. -/
def bytesRepr (data : List UInt8) : Str :=
  'b' :: reprQuote data :: (data.flatMap (byteRepr (reprQuote data)) ++ [reprQuote data])

/-- Reading one byte from inside the quotes. -/
def readByte : Str → Option (UInt8 × Str)
  | [] => none
  | c :: rest =>
      if c = backslash then
        match rest with
        | [] => none
        | 'x' :: high :: low :: rest => do
            let high ← hexValue high
            let low ← hexValue low
            return (UInt8.ofNat (16 * high + low), rest)
        | d :: rest =>
            let code :=
              if d = 't' then 9 else if d = 'n' then 10 else if d = 'r' then 13 else d.toNat
            some (UInt8.ofNat code, rest)
      else some (UInt8.ofNat c.toNat, rest)

theorem toNat_ofNat_byte (b : UInt8) : (Char.ofNat b.toNat).toNat = b.toNat := by
  have hb := b.toNat_lt
  have hvalid : b.toNat.isValidChar := Or.inl (by omega)
  rw [Char.ofNat, dif_pos hvalid]
  rfl

/-- A byte is read back from inside the quotes. -/
theorem readByte_byteRepr {quote : Char} (hquote : quote = apostrophe ∨ quote = Char.ofNat 0x22)
    (b : UInt8) (s : Str) : readByte (byteRepr quote b ++ s) = some (b, s) := by
  have hb := b.toNat_lt
  have hchar := toNat_ofNat_byte b
  have hcode : ∀ n, n = b.toNat → UInt8.ofNat n = b := by
    rintro n rfl
    exact UInt8.ofNat_toNat
  unfold byteRepr
  dsimp only
  split_ifs with hself htab hline hreturn hhex
  · have hsep : Char.ofNat b.toNat ≠ 'x' ∧ Char.ofNat b.toNat ≠ 't' ∧ Char.ofNat b.toNat ≠ 'n' ∧
        Char.ofNat b.toNat ≠ 'r' := by
      rcases hself with h | h
      · rw [h]
        rcases hquote with rfl | rfl <;> decide
      · rw [h]
        decide
    generalize Char.ofNat b.toNat = c at hchar hsep
    obtain ⟨hx, ht, hn, hr⟩ := hsep
    simp [readByte, hx, ht, hn, hr, hchar]
  · have h9 : b.toNat = 9 := by rw [← hchar, htab]; rfl
    simp [readByte, ← hcode 9 h9.symm]
  · have h10 : b.toNat = 10 := by rw [← hchar, hline]; rfl
    simp [readByte, ← hcode 10 h10.symm]
  · have h13 : b.toNat = 13 := by rw [← hchar, hreturn]; rfl
    simp [readByte, ← hcode 13 h13.symm]
  · have hbyte := hcode _ (Nat.div_add_mod b.toNat 16)
    simp only [List.cons_append, List.nil_append, readByte, if_pos,
      hexValue_digitChar _ (show b.toNat / 16 < 16 by omega),
      hexValue_digitChar _ (show b.toNat % 16 < 16 by omega)]
    exact congrArg (fun x => some (x, s)) hbyte
  · have hback : Char.ofNat b.toNat ≠ backslash := fun h => hself (Or.inr h)
    simp [readByte, hback, hchar]

/-- Inside the same quotes, distinct byte strings are written differently. -/
theorem flatMap_byteRepr_injective {quote : Char}
    (hquote : quote = apostrophe ∨ quote = Char.ofNat 0x22) :
    Function.Injective fun data : List UInt8 => data.flatMap (byteRepr quote) := by
  have hne : ∀ b (s : Str), byteRepr quote b ++ s ≠ [] := by
    intro b s h
    have := readByte_byteRepr hquote b s
    rw [h] at this
    simp [readByte] at this
  intro a
  induction a with
  | nil =>
    intro b h
    cases b with
    | nil => rfl
    | cons y b => exact absurd h.symm (hne y _)
  | cons x a ih =>
    intro b h
    cases b with
    | nil => exact absurd h (hne x _)
    | cons y b =>
      have hx := readByte_byteRepr hquote x (a.flatMap (byteRepr quote))
      have hy := readByte_byteRepr hquote y (b.flatMap (byteRepr quote))
      rw [← List.flatMap_cons] at hx hy
      have heq : some (x, a.flatMap (byteRepr quote)) = some (y, b.flatMap (byteRepr quote)) := by
        rw [← hx, ← hy]
        exact congrArg readByte h
      simp only [Option.some.injEq, Prod.mk.injEq] at heq
      rw [heq.1, ih heq.2]

theorem reprQuote_cases (data : List UInt8) :
    reprQuote data = apostrophe ∨ reprQuote data = Char.ofNat 0x22 := by
  unfold reprQuote
  split
  · exact Or.inr rfl
  · exact Or.inl rfl

/-- `repr` writes distinct byte strings differently. -/
theorem bytesRepr_injective : Function.Injective bytesRepr := by
  intro a b h
  have hquote : reprQuote a = reprQuote b := by
    simp only [bytesRepr, List.cons.injEq] at h
    exact h.2.1
  unfold bytesRepr at h
  rw [hquote] at h
  simp only [List.cons.injEq, true_and, List.append_cancel_right_eq] at h
  exact flatMap_byteRepr_injective (reprQuote_cases b) h

/-- What `repr` writes is no hexadecimal text. -/
theorem parseHex_bytesRepr (data : List UInt8) : parseHex (bytesRepr data) = none := by
  have hquote : hexValue (reprQuote data) = none := by
    rcases reprQuote_cases data with h | h <;> rw [h] <;> decide
  rw [bytesRepr, parseHex, if_neg (by decide), hquote]
  rfl

end ClusterManager.Numerals
