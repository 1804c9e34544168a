import ClusterManager.Lib.Table

/-!
# JSON texts

Strings, arrays and objects, the texts they are written as and the parser that reads them. A
writer is given by how it escapes a character: `asciiEscape` leaves printable ASCII alone,
`minimalEscape` all but what must be escaped. Whatever the escaping, reading what was written
gives the value back (`loads_dumps`). Numbers and the three literals are left out.
-/

namespace JsonText

/-- A JSON value. -/
inductive Value
  | str (s : String)
  | arr (items : List Value)
  | obj (fields : List (String × Value))

/-! ### Hexadecimal digits -/

/-- The digit of a number below 16. -/
def hexDigit (n : ℕ) : Char := Char.ofNat (if n < 10 then 48 + n else 87 + n)

/-- The number a digit stands for, in either case. -/
def hexValue (c : Char) : Option ℕ :=
  if 48 ≤ c.toNat ∧ c.toNat ≤ 57 then some (c.toNat - 48)
  else if 97 ≤ c.toNat ∧ c.toNat ≤ 102 then some (c.toNat - 87)
  else if 65 ≤ c.toNat ∧ c.toNat ≤ 70 then some (c.toNat - 55)
  else none

theorem hexValue_hexDigit {n : ℕ} (h : n < 16) : hexValue (hexDigit n) = some n := by
  have hall : ∀ i : Fin 16, hexValue (hexDigit i) = some (i : ℕ) := by decide
  exact hall ⟨n, h⟩

/-- A code unit as four digits. -/
def hexUnit (n : ℕ) : List Char :=
  [hexDigit (n / 4096), hexDigit (n / 256 % 16), hexDigit (n / 16 % 16), hexDigit (n % 16)]

/-- The code unit of four digits. -/
def unitValue (a b c d : Char) : Option ℕ := do
  let a ← hexValue a
  let b ← hexValue b
  let c ← hexValue c
  let d ← hexValue d
  return ((a * 16 + b) * 16 + c) * 16 + d

theorem unitValue_hexUnit {n : ℕ} (h : n < 65536) :
    unitValue (hexDigit (n / 4096)) (hexDigit (n / 256 % 16)) (hexDigit (n / 16 % 16))
      (hexDigit (n % 16)) = some n := by
  have hhigh : n / 4096 < 16 := by omega
  have hsecond : n / 256 % 16 < 16 := by omega
  have hthird : n / 16 % 16 < 16 := by omega
  have hlow : n % 16 < 16 := by omega
  simp only [unitValue, hexValue_hexDigit hhigh, hexValue_hexDigit hsecond,
    hexValue_hexDigit hthird, hexValue_hexDigit hlow, Option.bind_eq_bind, Option.bind_some,
    Option.pure_def, Option.some.injEq]
  omega

/-! ### Reading a string -/

/-- The character after a backslash. -/
def simpleEscape (c : Char) : Option ℕ :=
  if c = '"' ∨ c = '\\' ∨ c = '/' then some c.toNat
  else if c = 'b' then some 8
  else if c = 't' then some 9
  else if c = 'n' then some 10
  else if c = 'f' then some 12
  else if c = 'r' then some 13
  else none

/-- The code units up to the closing quote, and the text after it. A control character must be
escaped. -/
def units : List Char → Option (List ℕ × List Char)
  | [] => none
  | c :: text =>
    if c = '"' then some ([], text)
    else if c = '\\' then
      match text with
      | [] => none
      | e :: text =>
        if e = 'u' then
          match text with
          | a :: b :: c :: d :: text => do
            let u ← unitValue a b c d
            let (us, rest) ← units text
            return (u :: us, rest)
          | _ => none
        else do
          let u ← simpleEscape e
          let (us, rest) ← units text
          return (u :: us, rest)
    else if c.toNat < 32 then none
    else do
      let (us, rest) ← units text
      return (c.toNat :: us, rest)

/-- A unit that starts a surrogate pair. -/
def isHigh (u : ℕ) : Bool := 55296 ≤ u && u < 56320

/-- A unit that ends a surrogate pair. -/
def isLow (u : ℕ) : Bool := 56320 ≤ u && u < 57344

/-- The characters of code units. A surrogate without its partner is no character. -/
def decodeUnits : List ℕ → Option (List Char)
  | [] => some []
  | u :: us =>
    if isHigh u then
      match us with
      | [] => none
      | v :: us =>
        if isLow v then do
          let cs ← decodeUnits us
          return Char.ofNat (65536 + (u - 55296) * 1024 + (v - 56320)) :: cs
        else none
    else if isLow u then none
    else do
      let cs ← decodeUnits us
      return Char.ofNat u :: cs

/-- The string up to the closing quote, and the text after it. -/
def string (text : List Char) : Option (String × List Char) := do
  let (us, rest) ← units text
  let cs ← decodeUnits us
  return (String.ofList cs, rest)

/-! ### Reading a value -/

/-- The text after leading whitespace. -/
def skip (text : List Char) : List Char :=
  text.dropWhile fun c => c = ' ' || c = '\t' || c = '\n' || c = '\r'

mutual

/-- A value, and the text after it. -/
def value : ℕ → List Char → Option (Value × List Char)
  | 0, _ => none
  | n + 1, text =>
    match skip text with
    | [] => none
    | c :: text =>
      if c = '"' then do
        let (s, rest) ← string text
        return (.str s, rest)
      else if c = '[' then
        match skip text with
        | [] => none
        | c :: rest =>
          if c = ']' then some (.arr [], rest)
          else do
            let (vs, rest) ← items n (c :: rest)
            return (.arr vs, rest)
      else if c = '{' then
        match skip text with
        | [] => none
        | c :: rest =>
          if c = '}' then some (.obj [], rest)
          else do
            let (fs, rest) ← fields n (c :: rest)
            return (.obj (Dict.ofPairs fs), rest)
      else none

/-- The items of an array up to its bracket, and the text after it. -/
def items : ℕ → List Char → Option (List Value × List Char)
  | 0, _ => none
  | n + 1, text => do
    let (v, rest) ← value n text
    match skip rest with
    | [] => none
    | c :: rest =>
      if c = ']' then some ([v], rest)
      else if c = ',' then do
        let (vs, rest) ← items n rest
        return (v :: vs, rest)
      else none

/-- The fields of an object up to its brace, and the text after it. -/
def fields : ℕ → List Char → Option (List (String × Value) × List Char)
  | 0, _ => none
  | n + 1, text => do
    match skip text with
    | [] => none
    | c :: text =>
      if c = '"' then do
        let (k, rest) ← string text
        match skip rest with
        | [] => none
        | c :: rest =>
          if c = ':' then do
            let (v, rest) ← value n rest
            match skip rest with
            | [] => none
            | c :: rest =>
              if c = '}' then some ([(k, v)], rest)
              else if c = ',' then do
                let (fs, rest) ← fields n rest
                return ((k, v) :: fs, rest)
              else none
          else none
      else none

end

/-- The value of a whole text. -/
def loads (text : String) : Option Value :=
  match value (text.toList.length + 1) text.toList with
  | some (v, rest) => if skip rest = [] then some v else none
  | none => none

/-! ### Escaping a character -/

/-- The letter of the two-character escapes. -/
def shortEscape (c : Char) : Option Char :=
  if c = '"' ∨ c = '\\' then some c
  else if c.toNat = 8 then some 'b'
  else if c.toNat = 9 then some 't'
  else if c.toNat = 10 then some 'n'
  else if c.toNat = 12 then some 'f'
  else if c.toNat = 13 then some 'r'
  else none

/-- A code unit as an escape. -/
def unicodeEscape (u : ℕ) : List Char := '\\' :: 'u' :: hexUnit u

/-- Escape all but printable ASCII. -/
def asciiEscape (c : Char) : List Char :=
  match shortEscape c with
  | some e => ['\\', e]
  | none =>
    if 32 ≤ c.toNat ∧ c.toNat < 127 then [c]
    else if c.toNat < 65536 then unicodeEscape c.toNat
    else unicodeEscape (55296 + (c.toNat - 65536) / 1024) ++
      unicodeEscape (56320 + (c.toNat - 65536) % 1024)

/-- Escape what must be escaped. -/
def minimalEscape (c : Char) : List Char :=
  match shortEscape c with
  | some e => ['\\', e]
  | none => if c.toNat < 32 then unicodeEscape c.toNat else [c]

/-- Some code units stand for a character, and its escape is read as them. -/
structure ReadAs (escaped : List Char) (c : Char) (us : List ℕ) : Prop where
  units : ∀ text, units (escaped ++ text) = (units text).map fun p => (us ++ p.1, p.2)
  decode : ∀ vs, decodeUnits (us ++ vs) = (decodeUnits vs).map (c :: ·)

/-- A character is no surrogate. -/
theorem toNat_lt_or (c : Char) : c.toNat < 55296 ∨ 57343 < c.toNat ∧ c.toNat < 1114112 := by
  rcases c.valid with h | h
  · exact Or.inl h
  · exact Or.inr h

theorem decodeUnits_cons (c : Char) (vs : List ℕ) :
    decodeUnits (c.toNat :: vs) = (decodeUnits vs).map (c :: ·) := by
  have hhigh : isHigh c.toNat = false := by
    have := toNat_lt_or c
    simp only [isHigh, Bool.and_eq_false_iff, decide_eq_false_iff_not]
    omega
  have hlow : isLow c.toNat = false := by
    have := toNat_lt_or c
    simp only [isLow, Bool.and_eq_false_iff, decide_eq_false_iff_not]
    omega
  rw [decodeUnits.eq_def]
  simp only [hhigh, hlow, Bool.false_eq_true, if_false, Char.ofNat_toNat]
  cases decodeUnits vs <;> rfl

theorem units_unicodeEscape {u : ℕ} (h : u < 65536) (text : List Char) :
    units (unicodeEscape u ++ text) = (units text).map fun p => (u :: p.1, p.2) := by
  simp only [unicodeEscape, hexUnit, List.cons_append, List.nil_append]
  rw [units, if_neg (by decide), if_pos rfl]
  simp only [if_pos, unitValue_hexUnit h, Option.bind_eq_bind, Option.bind_some, Option.pure_def]
  cases units text <;> rfl

/-- A character that needs no escape. -/
theorem readAs_self {c : Char} (hshort : shortEscape c = none) (h : 32 ≤ c.toNat) :
    ReadAs [c] c [c.toNat] where
  units text := by
    have hquote : c ≠ '"' := by
      rintro rfl
      cases hshort
    have hslash : c ≠ '\\' := by
      rintro rfl
      cases hshort
    rw [List.singleton_append, units.eq_def]
    simp only [if_neg hquote, if_neg hslash, if_neg (show ¬ c.toNat < 32 by omega)]
    cases units text <;> rfl
  decode vs := decodeUnits_cons c vs

/-- A character that one escaped code unit stands for. -/
theorem readAs_unicodeEscape {c : Char} (h : c.toNat < 65536) :
    ReadAs (unicodeEscape c.toNat) c [c.toNat] :=
  ⟨units_unicodeEscape h, decodeUnits_cons c⟩

/-- A character that two escaped code units stand for. -/
theorem readAs_surrogates {c : Char} (h : 65536 ≤ c.toNat) :
    ReadAs (unicodeEscape (55296 + (c.toNat - 65536) / 1024) ++
      unicodeEscape (56320 + (c.toNat - 65536) % 1024)) c
      [55296 + (c.toNat - 65536) / 1024, 56320 + (c.toNat - 65536) % 1024] where
  units text := by
    have := toNat_lt_or c
    rw [List.append_assoc, units_unicodeEscape (by omega), units_unicodeEscape (by omega)]
    cases units text <;> rfl
  decode vs := by
    have := toNat_lt_or c
    have hhigh : isHigh (55296 + (c.toNat - 65536) / 1024) = true := by
      simp only [isHigh, Bool.and_eq_true, decide_eq_true_eq]
      omega
    have hlow : isLow (56320 + (c.toNat - 65536) % 1024) = true := by
      simp only [isLow, Bool.and_eq_true, decide_eq_true_eq]
      omega
    have hvalue : 65536 + (55296 + (c.toNat - 65536) / 1024 - 55296) * 1024 +
        (56320 + (c.toNat - 65536) % 1024 - 56320) = c.toNat := by omega
    simp only [List.cons_append, List.nil_append, decodeUnits, hhigh, hlow, if_true, hvalue,
      Char.ofNat_toNat]
    cases decodeUnits vs <;> rfl

/-- A character with a two-character escape. -/
theorem readAs_shortEscape {c e : Char} (h : shortEscape c = some e) :
    ReadAs ['\\', e] c [c.toNat] where
  units text := by
    have hletter : e ≠ 'u' ∧ simpleEscape e = some c.toNat := by
      simp only [shortEscape] at h
      split_ifs at h with hself h8 h9 h10 h12 h13
      · cases h
        rcases hself with rfl | rfl <;> decide
      all_goals
        cases h
        simp only [*]
        decide
    simp only [List.cons_append, List.nil_append]
    rw [units.eq_def]
    simp only [if_neg (show '\\' ≠ '"' by decide), if_pos, if_neg hletter.1, hletter.2,
      Option.bind_eq_bind, Option.bind_some, Option.pure_def]
    cases units text <;> rfl
  decode vs := decodeUnits_cons c vs

/-- How a writer escapes characters, and that the parser reads it so. -/
structure Escaping where
  escape : Char → List Char
  readAs : ∀ c, ∃ us, ReadAs (escape c) c us

/-- The escaping that leaves printable ASCII alone. -/
def ascii : Escaping where
  escape := asciiEscape
  readAs c := by
    unfold asciiEscape
    split
    next e h => exact ⟨_, readAs_shortEscape h⟩
    next h =>
      split
      next hprint => exact ⟨_, readAs_self h hprint.1⟩
      next =>
        split
        next hsmall => exact ⟨_, readAs_unicodeEscape hsmall⟩
        next hlarge => exact ⟨_, readAs_surrogates (by omega)⟩

/-- The escaping of what must be escaped. -/
def minimal : Escaping where
  escape := minimalEscape
  readAs c := by
    unfold minimalEscape
    split
    next e h => exact ⟨_, readAs_shortEscape h⟩
    next h =>
      split
      next hsmall => exact ⟨_, readAs_unicodeEscape (by omega)⟩
      next hlarge => exact ⟨_, readAs_self h (by omega)⟩

/-! ### Writing a value -/

section Write

variable (E : Escaping)

/-- A string between quotes. -/
def writeString (s : String) : List Char := '"' :: (s.toList.flatMap E.escape ++ ['"'])

mutual

/-- The text of a value. -/
def write : Value → List Char
  | .str s => writeString E s
  | .arr vs => '[' :: (writeItems vs ++ [']'])
  | .obj fs => '{' :: (writeFields fs ++ ['}'])

/-- The items of an array. -/
def writeItems : List Value → List Char
  | [] => []
  | [v] => write v
  | v :: vs => write v ++ ',' :: ' ' :: writeItems vs

/-- The fields of an object. -/
def writeFields : List (String × Value) → List Char
  | [] => []
  | [(k, v)] => writeString E k ++ ':' :: ' ' :: write v
  | (k, v) :: fs => writeString E k ++ ':' :: ' ' :: (write v ++ ',' :: ' ' :: writeFields fs)

end

/-- The text of a value, as a string. -/
def dumps (v : Value) : String := String.ofList (write E v)

end Write

mutual

/-- No object has a key twice. -/
def Value.Distinct : Value → Prop
  | .str _ => True
  | .arr vs => DistinctItems vs
  | .obj fs => (fs.map Prod.fst).Nodup ∧ DistinctFields fs

/-- The same of every item. -/
def DistinctItems : List Value → Prop
  | [] => True
  | v :: vs => v.Distinct ∧ DistinctItems vs

/-- The same of every field. -/
def DistinctFields : List (String × Value) → Prop
  | [] => True
  | (_, v) :: fs => v.Distinct ∧ DistinctFields fs

end

/-! ### Reading what was written -/

variable {E : Escaping} {v : Value} {vs : List Value} {fs : List (String × Value)}
  {text tail : List Char} {n : ℕ}

theorem skip_of_ne {c : Char} (h : c ≠ ' ' ∧ c ≠ '\t' ∧ c ≠ '\n' ∧ c ≠ '\r') :
    skip (c :: text) = c :: text := by
  simp [skip, h]

theorem skip_space : skip (' ' :: text) = skip text := rfl

/-- The characters of a string are read back, up to the quote that ends them. -/
theorem units_flatMap (E : Escaping) (cs : List Char) :
    ∃ us, (∀ tail, units (cs.flatMap E.escape ++ '"' :: tail) = some (us, tail)) ∧
      decodeUnits us = some cs := by
  induction cs with
  | nil =>
    refine ⟨[], fun tail => ?_, rfl⟩
    rw [List.flatMap_nil, List.nil_append, units.eq_def]
    rfl
  | cons c cs ih =>
    obtain ⟨us, hunits, hdecode⟩ := ih
    obtain ⟨uc, hc⟩ := E.readAs c
    refine ⟨uc ++ us, fun tail => ?_, ?_⟩
    · rw [List.flatMap_cons, List.append_assoc, hc.units, hunits]
      rfl
    · rw [hc.decode, hdecode]
      rfl

theorem string_write (E : Escaping) (s : String) (tail : List Char) :
    string (s.toList.flatMap E.escape ++ '"' :: tail) = some (s, tail) := by
  obtain ⟨us, hunits, hdecode⟩ := units_flatMap E s.toList
  simp [string, hunits, hdecode]

theorem writeItems_cons_cons (E : Escaping) (v w : Value) (vs : List Value) :
    writeItems E (v :: w :: vs) = write E v ++ ',' :: ' ' :: writeItems E (w :: vs) := rfl

theorem writeFields_cons_cons (E : Escaping) (k : String) (v : Value) (f : String × Value)
    (fs : List (String × Value)) :
    writeFields E ((k, v) :: f :: fs) =
      writeString E k ++ ':' :: ' ' :: (write E v ++ ',' :: ' ' :: writeFields E (f :: fs)) := rfl

/-- How the text of a value starts. -/
def Starts (text : List Char) : Prop :=
  ∃ c rest, text = c :: rest ∧ (c = '"' ∨ c = '[' ∨ c = '{')

theorem Starts.skip (h : Starts text) : skip text = text := by
  obtain ⟨c, rest, rfl, rfl | rfl | rfl⟩ := h <;> rfl

theorem Starts.append (h : Starts text) : Starts (text ++ tail) := by
  obtain ⟨c, rest, rfl, hc⟩ := h
  exact ⟨c, rest ++ tail, rfl, hc⟩

theorem starts_write (E : Escaping) (v : Value) : Starts (write E v) := by
  cases v with
  | str s => exact ⟨_, _, rfl, Or.inl rfl⟩
  | arr vs => exact ⟨_, _, rfl, Or.inr (Or.inl rfl)⟩
  | obj fs => exact ⟨_, _, rfl, Or.inr (Or.inr rfl)⟩

theorem starts_writeItems (E : Escaping) (v : Value) (vs : List Value) :
    Starts (writeItems E (v :: vs)) := by
  cases vs with
  | nil => exact starts_write E v
  | cons w vs => exact (starts_write E v).append

theorem starts_writeFields (E : Escaping) (f : String × Value) (fs : List (String × Value)) :
    ∃ text, writeFields E (f :: fs) = '"' :: text := by
  obtain ⟨k, v⟩ := f
  cases fs with
  | nil => exact ⟨_, rfl⟩
  | cons g fs => exact ⟨_, rfl⟩

/-! ### One step of the parser -/

theorem value_space : value n (' ' :: text) = value n text := by
  cases n with
  | zero => rfl
  | succ n => rw [value, value, skip_space]

theorem items_space : items n (' ' :: text) = items n text := by
  cases n with
  | zero => rfl
  | succ n => rw [items, items, value_space]

theorem fields_space : fields n (' ' :: text) = fields n text := by
  cases n with
  | zero => rfl
  | succ n => rw [fields, fields, skip_space]

theorem value_string {s : String} (h : string text = some (s, tail)) :
    value (n + 1) ('"' :: text) = some (.str s, tail) := by
  rw [value, skip_of_ne (by decide)]
  simp [h]

theorem value_items (hstarts : Starts text) (h : items n text = some (vs, tail)) :
    value (n + 1) ('[' :: text) = some (.arr vs, tail) := by
  have hskip := hstarts.skip
  obtain ⟨c, rest, rfl, hc⟩ := hstarts
  have hbracket : c ≠ ']' := by rcases hc with rfl | rfl | rfl <;> decide
  rw [value, skip_of_ne (by decide)]
  simp [hskip, hbracket, h]

theorem value_fields (h : fields n ('"' :: text) = some (fs, tail)) :
    value (n + 1) ('{' :: '"' :: text) = some (.obj (Dict.ofPairs fs), tail) := by
  rw [value, skip_of_ne (by decide)]
  simp [skip_of_ne, h]

theorem items_last (h : value n text = some (v, ']' :: tail)) :
    items (n + 1) text = some ([v], tail) := by
  rw [items, h]
  rfl

theorem items_more (h : value n text = some (v, ',' :: tail)) :
    items (n + 1) text = (items n tail).map fun p => (v :: p.1, p.2) := by
  rw [items, h]
  simp only [Option.bind_eq_bind, Option.bind_some, skip_of_ne (c := ',') (by decide)]
  cases items n tail <;> rfl

/-- A key and its colon. -/
theorem fields_key {k : String} {rest : List Char}
    (hk : string text = some (k, ':' :: rest)) (hv : value n rest = some (v, tail)) :
    fields (n + 1) ('"' :: text) = match skip tail with
      | [] => none
      | c :: rest =>
        if c = '}' then some ([(k, v)], rest)
        else if c = ',' then (fields n rest).map fun p => ((k, v) :: p.1, p.2)
        else none := by
  rw [fields, skip_of_ne (by decide)]
  simp only [if_pos, hk, hv, Option.bind_eq_bind, Option.bind_some,
    skip_of_ne (c := ':') (by decide)]
  cases skip tail with
  | nil => rfl
  | cons c rest =>
    simp only
    cases fields n rest <;> rfl

/-! ### Round trips -/

mutual

/-- Reading the text of a value gives the value, whatever follows. -/
theorem value_write (E : Escaping) : ∀ (v : Value), v.Distinct → ∀ n tail,
    (write E v).length ≤ n → value n (write E v ++ tail) = some (v, tail)
  | .str s, _, n, tail, hn => by
    obtain ⟨n, rfl⟩ : ∃ m, n = m + 1 := ⟨n - 1, by simp [write, writeString] at hn; omega⟩
    rw [write, writeString, List.cons_append, List.append_assoc, List.singleton_append]
    exact value_string (string_write E s tail)
  | .arr vs, h, n, tail, hn => by
    simp only [write, List.length_cons, List.length_append] at hn
    obtain ⟨n, rfl⟩ : ∃ m, n = m + 1 := ⟨n - 1, by omega⟩
    cases vs with
    | nil => rfl
    | cons v vs =>
      rw [write, List.cons_append, List.append_assoc, List.singleton_append]
      exact value_items (starts_writeItems E v vs).append
        (items_write E (v :: vs) (List.cons_ne_nil v vs) h n tail (by simpa using hn))
  | .obj fs, h, n, tail, hn => by
    simp only [write, List.length_cons, List.length_append] at hn
    obtain ⟨n, rfl⟩ : ∃ m, n = m + 1 := ⟨n - 1, by omega⟩
    cases fs with
    | nil => rfl
    | cons f fs =>
      have hfields := fields_write E (f :: fs) (List.cons_ne_nil f fs) h.2 n tail
        (by simpa using hn)
      obtain ⟨text, htext⟩ := starts_writeFields E f fs
      rw [htext, List.cons_append] at hfields
      rw [write, htext, List.cons_append, List.append_assoc, List.singleton_append,
        List.cons_append, value_fields hfields, Dict.ofPairs_of_nodup h.1]

/-- The same of the items of an array. -/
theorem items_write (E : Escaping) : ∀ (vs : List Value), vs ≠ [] → DistinctItems vs →
    ∀ n tail, (writeItems E vs).length + 1 ≤ n →
      items n (writeItems E vs ++ ']' :: tail) = some (vs, tail)
  | [], hne, _, _, _, _ => absurd rfl hne
  | v :: vs, _, h, n, tail, hn => by
    obtain ⟨n, rfl⟩ : ∃ m, n = m + 1 := ⟨n - 1, by omega⟩
    cases vs with
    | nil => exact items_last (value_write E v h.1 n (']' :: tail) (by simpa [writeItems] using hn))
    | cons w vs =>
      simp only [writeItems_cons_cons, List.length_append, List.length_cons] at hn
      rw [writeItems_cons_cons, List.append_assoc, List.cons_append, List.cons_append,
        items_more (value_write E v h.1 n _ (by omega)),
        items_space, items_write E (w :: vs) (List.cons_ne_nil w vs) h.2 n tail (by omega)]
      rfl

/-- The same of the fields of an object. -/
theorem fields_write (E : Escaping) : ∀ (fs : List (String × Value)), fs ≠ [] →
    DistinctFields fs → ∀ n tail, (writeFields E fs).length + 1 ≤ n →
      fields n (writeFields E fs ++ '}' :: tail) = some (fs, tail)
  | [], hne, _, _, _, _ => absurd rfl hne
  | (k, v) :: fs, _, h, n, tail, hn => by
    obtain ⟨n, rfl⟩ : ∃ m, n = m + 1 := ⟨n - 1, by omega⟩
    cases fs with
    | nil =>
      simp only [writeFields, writeString, List.length_append, List.length_cons] at hn
      simp only [writeFields, writeString, List.cons_append, List.append_assoc, List.nil_append]
      rw [fields_key (string_write E k _)
        (value_space.trans (value_write E v h.1 n ('}' :: tail) (by omega)))]
      rfl
    | cons g fs =>
      simp only [writeFields_cons_cons, writeString, List.length_append, List.length_cons] at hn
      simp only [writeFields_cons_cons, writeString, List.cons_append, List.append_assoc,
        List.nil_append]
      rw [fields_key (string_write E k _)
        (value_space.trans (value_write E v h.1 n _ (by omega)))]
      rw [skip_of_ne (by decide)]
      simp only [if_neg (show ',' ≠ '}' by decide), if_pos, fields_space]
      rw [fields_write E (g :: fs) (List.cons_ne_nil g fs) h.2 n tail (by omega)]
      rfl

end

/-- Whatever its escaping, a text that was written is read as the value it was written for. -/
theorem loads_dumps (E : Escaping) {v : Value} (h : v.Distinct) : loads (dumps E v) = some v := by
  have hread := value_write E v h ((write E v).length + 1) [] (by omega)
  rw [List.append_nil] at hread
  simp [loads, dumps, hread, skip]

end JsonText
