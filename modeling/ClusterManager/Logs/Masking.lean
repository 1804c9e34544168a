import Mathlib.Data.List.Forall2
import Mathlib.Data.List.Infix
import ClusterManager.Text

/-!
# Credentials in the request log

`request_logging_middleware` writes the line of each request with the query string masked:
`_mask_query_string` puts `***` for what follows `token=`, `ticket=` and the like.

`logged_alike` says that the line tells nothing of the values of fields that are spelled so, and
`hidden_iff` that it does of all others.
-/

namespace ClusterManager.Logs

/-! ### The pattern -/

/-- The alternatives of `_SENSITIVE_QS_RE`. -/
def sensitiveKeys : List Str := ["access_token", "id_token", "ticket", "token"].map String.toList

/-- `c` matches the letter `k` of a pattern under `re.IGNORECASE`. Besides both cases of `k` these
are the dotless and the dotted `i`, the long `s` and the Kelvin sign. -/
def sameLetter (c k : Char) : Bool :=
  c.toLower = k || match k with
    | 'i' => c.toNat = 0x131 || c.toNat = 0x130
    | 's' => c.toNat = 0x17F
    | 'k' => c.toNat = 0x212A
    | _ => false

/-- `written` matches the alternative `key`. -/
def matchesKey (written key : Str) : Bool :=
  written.length = key.length && (written.zip key).all fun (c, k) => sameLetter c k

/-- `[^&\s]`. -/
def isValueChar (c : Char) : Bool := c ≠ '&' && !Str.isSpace c

/-- A match at the start: the key as it is written, and what follows its `=`. -/
def matchHere (s : Str) : Option (Str × Str) :=
  sensitiveKeys.findSome? fun key =>
    match s.splitAt key.length with
    | (written, '=' :: value) =>
        if matchesKey written key && value.head?.any isValueChar then some (written, value)
        else none
    | _ => none

/-- `***`, after the `=`. -/
def stars : Str := "=***".toList

theorem length_of_matchHere {s written value : Str} (h : matchHere s = some (written, value)) :
    value.length < s.length := by
  obtain ⟨key, -, h⟩ := List.exists_of_findSome?_eq_some h
  split at h
  next written' value' hsplit =>
    split at h
    · cases h
      rw [List.splitAt_eq, Prod.mk.injEq] at hsplit
      have hlength := congrArg List.length hsplit.2
      rw [List.length_drop, List.length_cons] at hlength
      omega
    · cases h
  next => cases h

/-- `_SENSITIVE_QS_RE.sub`: the leftmost match loses its value, and so on after it. -/
def mask (s : Str) : Str :=
  match s with
  | [] => []
  | c :: rest =>
      match _h : matchHere (c :: rest) with
      | some (written, value) => written ++ stars ++ mask (value.dropWhile isValueChar)
      | none => c :: mask rest
termination_by s.length
decreasing_by
  · have := (List.dropWhile_suffix (l := value) isValueChar).length_le
    exact Nat.lt_of_le_of_lt this (length_of_matchHere ‹_›)
  · simp

/-- `_mask_query_string`. -/
def maskQueryString (qs : Str) : Str := if qs.isEmpty then qs else mask qs

/-- `path_for_log`. -/
def pathForLog (path query : Str) : Str :=
  if (maskQueryString query).isEmpty then path else path ++ '?' :: maskQueryString query

/-- The arguments of the line of a request, but for the time it took. -/
structure Line where
  method : Str
  path : Str
  status : ℕ
  deriving DecidableEq

/-- `request_logging_middleware`, what it logs of a request and its response. -/
def requestLine (method path query : Str) (status : ℕ) : Line :=
  ⟨method, pathForLog path query, status⟩

/-! ### Matches -/

theorem exists_of_matchesKey {written key : Str} (h : matchesKey written key = true) {c : Char}
    (hc : c ∈ written) : ∃ k ∈ key, sameLetter c k = true := by
  unfold matchesKey at h
  rw [Bool.and_eq_true, decide_eq_true_eq] at h
  obtain ⟨hlength, hall⟩ := h
  obtain ⟨i, hi, rfl⟩ := List.getElem_of_mem hc
  have hi' : i < key.length := hlength ▸ hi
  refine ⟨key[i], List.getElem_mem hi', ?_⟩
  have hzip : (written[i], key[i]) ∈ written.zip key := by
    have hlt : i < (written.zip key).length := by
      rw [List.length_zip]
      omega
    rw [← List.getElem_zip (h := hlt)]
    exact List.getElem_mem _
  exact List.all_eq_true.1 hall _ hzip

/-- What no letter of a key matches. -/
def Separator (c : Char) : Prop :=
  (sensitiveKeys.all fun key => key.all fun k => !sameLetter c k) = true

instance (c : Char) : Decidable (Separator c) := inferInstanceAs (Decidable (_ = true))

theorem separator_of_isSpace {c : Char} (h : Str.isSpace c = true) : Separator c := by
  have hcodes : (Str.spaceCodes.all fun n => decide (Separator (Char.ofNat n))) = true := by decide
  have hmem : c.toNat ∈ Str.spaceCodes := by simpa [Str.isSpace] using h
  have := List.all_eq_true.1 hcodes _ hmem
  rwa [Char.ofNat_toNat, decide_eq_true_eq] at this

/-- The letters of a key are neither `=` nor what ends a value. -/
theorem sameLetter_value {key : Str} (hkey : key ∈ sensitiveKeys) {k c : Char} (hk : k ∈ key)
    (h : sameLetter c k = true) : c ≠ '=' ∧ isValueChar c = true := by
  have hno : ¬Separator c := by
    intro hc
    have := List.all_eq_true.1 (List.all_eq_true.1 hc key hkey) k hk
    rw [h] at this
    cases this
  have heq : c ≠ '=' := by
    rintro rfl
    exact hno (by decide)
  have hamp : c ≠ '&' := by
    rintro rfl
    exact hno (by decide)
  have hspace : Str.isSpace c = false := by
    by_contra hcontra
    exact hno (separator_of_isSpace (by simpa using hcontra))
  exact ⟨heq, by simp [isValueChar, hamp, hspace]⟩

/-- A key as it may be written. -/
def Written (written : Str) : Prop := ∃ key ∈ sensitiveKeys, matchesKey written key = true

theorem Written.value {written : Str} (h : Written written) {c : Char} (hc : c ∈ written) :
    c ≠ '=' ∧ isValueChar c = true := by
  obtain ⟨key, hkey, hmatch⟩ := h
  obtain ⟨k, hk, hletter⟩ := exists_of_matchesKey hmatch hc
  exact sameLetter_value hkey hk hletter

/-- What stands before the first `=`. -/
theorem eq_of_append_eq {a b : Str} {x y : Str} (ha : '=' ∉ a) (hb : '=' ∉ b)
    (h : a ++ '=' :: x = b ++ '=' :: y) : a = b ∧ x = y := by
  have hleft : ∀ {a x : Str}, '=' ∉ a → (a ++ '=' :: x).takeWhile (· ≠ '=') = a := by
    intro a x ha
    rw [List.takeWhile_append_of_pos (fun c hc => by
      rw [decide_eq_true_eq]
      rintro rfl
      exact ha hc)]
    simp
  have hab : a = b := by
    have := congrArg (List.takeWhile (· ≠ '=')) h
    rwa [hleft ha, hleft hb] at this
  subst hab
  exact ⟨rfl, by simpa using h⟩

/-- A match is a key, its `=` and a value that is not empty. -/
theorem matchHere_eq_some {s written value : Str} : matchHere s = some (written, value) ↔
    Written written ∧ s = written ++ '=' :: value ∧ value.head?.any isValueChar = true := by
  have hforward : ∀ {written value}, matchHere s = some (written, value) →
      Written written ∧ s = written ++ '=' :: value ∧ value.head?.any isValueChar = true := by
    intro written value h
    obtain ⟨key, hkey, h⟩ := List.exists_of_findSome?_eq_some h
    split at h
    next written' value' hsplit =>
      split at h
      next hmatch =>
        cases h
        rw [Bool.and_eq_true] at hmatch
        rw [List.splitAt_eq, Prod.mk.injEq] at hsplit
        refine ⟨⟨key, hkey, hmatch.1⟩, ?_, hmatch.2⟩
        rw [← hsplit.1, ← hsplit.2, List.take_append_drop]
      next => cases h
    next => cases h
  refine ⟨hforward, fun ⟨hwritten, hs, hvalue⟩ => ?_⟩
  have hsome : (matchHere s).isSome := by
    obtain ⟨key, hkey, hmatch⟩ := hwritten
    rw [matchHere, List.findSome?_isSome_iff]
    refine ⟨key, hkey, ?_⟩
    have hlength : written.length = key.length := by
      unfold matchesKey at hmatch
      rw [Bool.and_eq_true, decide_eq_true_eq] at hmatch
      exact hmatch.1
    have hsplit : s.splitAt key.length = (written, '=' :: value) := by
      rw [List.splitAt_eq, hs, ← hlength, List.take_left, List.drop_left]
    rw [hsplit]
    simp [hmatch, hvalue]
  obtain ⟨⟨written', value'⟩, hfound⟩ := Option.isSome_iff_exists.1 hsome
  obtain ⟨hwritten', hs', -⟩ := hforward hfound
  obtain ⟨rfl, rfl⟩ := eq_of_append_eq (fun hmem => (hwritten.value hmem).1 rfl)
    (fun hmem => (hwritten'.value hmem).1 rfl) (hs.symm.trans hs')
  exact hfound

/-! ### What the mask hides -/

theorem mask_of_matchHere {s written value : Str} (h : matchHere s = some (written, value)) :
    mask s = written ++ stars ++ mask (value.dropWhile isValueChar) := by
  cases s with
  | nil => cases h
  | cons c rest =>
    rw [mask]
    split
    next written' value' h' =>
      rw [h] at h'
      cases h'
      rfl
    next h' =>
      rw [h] at h'
      cases h'

theorem mask_of_none {c : Char} {rest : Str} (h : matchHere (c :: rest) = none) :
    mask (c :: rest) = c :: mask rest := by
  rw [mask]
  split
  next h' =>
    rw [h] at h'
    cases h'
  next => rfl

/-- A value in whole: not empty, and with nothing that ends it. -/
structure Value (v : Str) : Prop where
  ne_nil : v ≠ []
  chars : ∀ c ∈ v, isValueChar c = true

/-- What follows a value. -/
def Ends (rest : Str) : Prop := rest.head?.any isValueChar = false

variable {u v v' rest written value : Str}

theorem dropWhile_value (hv : Value v) (hrest : Ends rest) :
    (v ++ rest).dropWhile isValueChar = rest := by
  rw [List.dropWhile_append_of_pos hv.chars]
  cases rest with
  | nil => rfl
  | cons c rest =>
    have hc : isValueChar c = false := by simpa [Ends] using hrest
    simp [hc]

/-- Where a match starts before a value it is there for every value. -/
theorem matchHere_append (hu : '=' ∈ u) (hv' : Value v')
    (h : matchHere (u ++ (v ++ rest)) = some (written, value)) :
    ∃ after, u = written ++ '=' :: after ∧ value = after ++ (v ++ rest) ∧
      matchHere (u ++ (v' ++ rest)) = some (written, after ++ (v' ++ rest)) := by
  obtain ⟨hwritten, hs, hvalue⟩ := matchHere_eq_some.1 h
  obtain ⟨before, after, hu, hbefore⟩ := List.eq_append_cons_of_mem hu
  rw [hu, List.append_assoc, List.cons_append] at hs
  obtain ⟨rfl, hafter⟩ := eq_of_append_eq hbefore (fun hmem => (hwritten.value hmem).1 rfl) hs
  refine ⟨after, hu, hafter.symm, matchHere_eq_some.2 ⟨hwritten, ?_, ?_⟩⟩
  · rw [hu, List.append_assoc, List.cons_append]
  · rw [← hafter] at hvalue
    cases after with
    | nil =>
      obtain ⟨c, v'', rfl⟩ := List.exists_cons_of_ne_nil hv'.ne_nil
      simpa using hv'.chars c List.mem_cons_self
    | cons c after => simpa using hvalue

/-- What is masked says nothing of the value after a key and its `=`. -/
theorem mask_value (hwritten : Written written) (hu : written ++ ['='] <:+ u) (hv : Value v)
    (hv' : Value v') (hrest : Ends rest) : mask (u ++ (v ++ rest)) = mask (u ++ (v' ++ rest)) := by
  induction hn : u.length using Nat.strong_induction_on generalizing u with
  | _ n ih =>
    subst hn
    have hmem : '=' ∈ u := hu.subset (by simp)
    cases hmatch : matchHere (u ++ (v ++ rest)) with
    | some found =>
      obtain ⟨found, value⟩ := found
      obtain ⟨after, hsplit, rfl, hmatch'⟩ := matchHere_append hmem hv' hmatch
      rw [mask_of_matchHere hmatch, mask_of_matchHere hmatch']
      have hdrop : ∀ t : Str, (after ++ t).dropWhile isValueChar =
          if (after.dropWhile isValueChar).isEmpty then t.dropWhile isValueChar
          else after.dropWhile isValueChar ++ t := fun t => List.dropWhile_append
      rw [hdrop, hdrop]
      cases hleft : after.dropWhile isValueChar with
      | nil =>
        -- the value that was matched goes on to the end of ours
        rw [dropWhile_value hv hrest, dropWhile_value hv' hrest]
        rfl
      | cons c left =>
        -- it ends before our key, which is still to come
        have hc : isValueChar c = false := by
          have := List.head_dropWhile_not isValueChar (l := after) (by simp [hleft])
          simpa [hleft] using this
        have hsuffix : c :: left <:+ u := by
          rw [hsplit, ← hleft]
          exact (List.dropWhile_suffix _).trans
            ((List.suffix_cons '=' after).trans (List.suffix_append _ _))
        have hkey : written ++ ['='] <:+ c :: left := by
          rcases List.suffix_or_suffix_of_suffix hu hsuffix with hkey | hinside
          · exact hkey
          · have hcmem : c ∈ written ++ ['='] := hinside.subset List.mem_cons_self
            rcases List.mem_append.1 hcmem with hcmem | hcmem
            · rw [(hwritten.value hcmem).2] at hc
              cases hc
            · rw [List.mem_singleton.1 hcmem] at hc
              cases hc
        have hlt : (c :: left).length < u.length := by
          have hle := (List.dropWhile_suffix (l := after) isValueChar).length_le
          rw [hleft] at hle
          have hlength := congrArg List.length hsplit
          rw [List.length_append, List.length_cons] at hlength
          omega
        have := ih _ hlt hkey rfl
        simpa using this
    | none =>
      -- with the other value nothing is matched here either, so the first character is kept
      have hmatch' : matchHere (u ++ (v' ++ rest)) = none := by
        by_contra hsome
        obtain ⟨⟨found, value⟩, hfound⟩ := Option.ne_none_iff_exists'.1 hsome
        obtain ⟨after, -, -, hback⟩ := matchHere_append hmem hv hfound
        rw [hmatch] at hback
        cases hback
      cases u with
      | nil => cases hmem
      | cons c u =>
        rw [List.cons_append] at hmatch hmatch'
        rw [List.cons_append, List.cons_append, mask_of_none hmatch, mask_of_none hmatch']
        congr 1
        refine ih u.length (Nat.lt_succ_self _) ?_ rfl
        rcases List.suffix_cons_iff.1 hu with heq | hsuffix
        · have hhere : matchHere (c :: (u ++ (v ++ rest))) = some (written, v ++ rest) := by
            refine matchHere_eq_some.2 ⟨hwritten, ?_, ?_⟩
            · rw [← List.cons_append, ← heq, List.append_assoc]
              rfl
            · obtain ⟨d, v'', rfl⟩ := List.exists_cons_of_ne_nil hv.ne_nil
              simpa using hv.chars d List.mem_cons_self
          rw [hmatch] at hhere
          cases hhere
        · exact hsuffix

/-! ### Lines -/

/-- A key of a field is spelled with a sensitive one at its end. -/
def spelled (key : Str) : Bool := key.tails.any fun t => sensitiveKeys.any (matchesKey t)

theorem spelled_iff {key : Str} :
    spelled key = true ↔ ∃ written, written <:+ key ∧ Written written := by
  simp [spelled, Written]

/-- A query string, field by field. -/
def query (fields : List Str) : Str := ['&'].intercalate fields

/-- The same field, or one of the same sensitive key. -/
def Alike (f f' : Str) : Prop :=
  f = f' ∨ ∃ key v v', f = key ++ '=' :: v ∧ f' = key ++ '=' :: v' ∧ spelled key = true ∧
    Value v ∧ Value v'

theorem maskQueryString_eq (qs : Str) : maskQueryString qs = mask qs := by
  cases qs with
  | nil => rw [maskQueryString, mask]; rfl
  | cons c qs => rfl

theorem mask_alike {f f' before rest : Str} (h : Alike f f') (hrest : Ends rest) :
    mask (before ++ (f ++ rest)) = mask (before ++ (f' ++ rest)) := by
  rcases h with rfl | ⟨key, v, v', rfl, rfl, hkey, hv, hv'⟩
  · rfl
  · obtain ⟨written, ⟨start, rfl⟩, hwritten⟩ := spelled_iff.1 hkey
    have hu : written ++ ['='] <:+ before ++ (start ++ written ++ ['=']) :=
      ⟨before ++ start, by simp⟩
    have := mask_value hwritten hu hv hv' hrest
    simpa using this

theorem mask_query {fields fields' : List Str} (h : List.Forall₂ Alike fields fields')
    (before : Str) : mask (before ++ query fields) = mask (before ++ query fields') := by
  induction h generalizing before with
  | nil => rfl
  | @cons f f' fields fields' hf hfields ih =>
    cases hfields with
    | nil =>
      have hone : mask (before ++ (f ++ [])) = mask (before ++ (f' ++ [])) := mask_alike hf rfl
      simpa [query] using hone
    | @cons g g' fields fields' hg hfields =>
      calc mask (before ++ query (f :: g :: fields))
          = mask (before ++ (f ++ '&' :: query (g :: fields))) := by
            simp [query, List.intercalate_cons_cons]
        _ = mask (before ++ (f' ++ '&' :: query (g :: fields))) := mask_alike hf rfl
        _ = mask ((before ++ f' ++ ['&']) ++ query (g :: fields)) := by simp
        _ = mask ((before ++ f' ++ ['&']) ++ query (g' :: fields')) := ih _
        _ = mask (before ++ query (f' :: g' :: fields')) := by
            simp [query, List.intercalate_cons_cons]

/-- Requests that differ in the values of sensitive fields only are logged alike. -/
theorem logged_alike {fields fields' : List Str} (h : List.Forall₂ Alike fields fields')
    (method path : Str) (status : ℕ) :
    requestLine method path (query fields) status =
      requestLine method path (query fields') status := by
  have := mask_query h []
  rw [List.nil_append, List.nil_append] at this
  simp only [requestLine, pathForLog, maskQueryString_eq, this]

/-- Where there is no `=` there is no match. -/
theorem mask_of_noEq {s : Str} (h : '=' ∉ s) : mask s = s := by
  induction s with
  | nil => rw [mask]
  | cons c s ih =>
    have hnone : matchHere (c :: s) = none := by
      by_contra hsome
      obtain ⟨⟨written, value⟩, hfound⟩ := Option.ne_none_iff_exists'.1 hsome
      obtain ⟨-, hs, -⟩ := matchHere_eq_some.1 hfound
      exact h (by simp [hs])
    rw [mask_of_none hnone, ih fun hmem => h (List.mem_cons_of_mem c hmem)]

/-- A field whose key is spelled otherwise is left as it is. -/
theorem mask_of_not_spelled {key v : Str} (hkey : '=' ∉ key) (hspelled : spelled key = false)
    (hv : '=' ∉ v) : mask (key ++ '=' :: v) = key ++ '=' :: v := by
  induction key with
  | nil =>
    have hnone : matchHere ('=' :: v) = none := by
      by_contra hsome
      obtain ⟨⟨written, value⟩, hfound⟩ := Option.ne_none_iff_exists'.1 hsome
      obtain ⟨hwritten, hs, -⟩ := matchHere_eq_some.1 hfound
      obtain ⟨rfl, -⟩ := eq_of_append_eq (a := []) List.not_mem_nil
        (fun hmem => (hwritten.value hmem).1 rfl) hs
      obtain ⟨key, hmem, hmatch⟩ := hwritten
      revert key
      decide
    rw [List.nil_append, mask_of_none hnone, mask_of_noEq hv]
  | cons c key ih =>
    have hnone : matchHere (c :: (key ++ '=' :: v)) = none := by
      by_contra hsome
      obtain ⟨⟨written, value⟩, hfound⟩ := Option.ne_none_iff_exists'.1 hsome
      obtain ⟨hwritten, hs, -⟩ := matchHere_eq_some.1 hfound
      rw [← List.cons_append] at hs
      obtain ⟨rfl, -⟩ := eq_of_append_eq hkey (fun hmem => (hwritten.value hmem).1 rfl) hs
      have : spelled (c :: key) = true := spelled_iff.2 ⟨_, List.suffix_rfl, hwritten⟩
      rw [hspelled] at this
      cases this
    have hrest : spelled key = false := by
      rw [← Bool.not_eq_true]
      intro htrue
      obtain ⟨written, hsuffix, hwritten⟩ := spelled_iff.1 htrue
      have : spelled (c :: key) = true :=
        spelled_iff.2 ⟨written, hsuffix.trans (List.suffix_cons c key), hwritten⟩
      rw [hspelled] at this
      cases this
    rw [List.cons_append, mask_of_none hnone,
      ih (fun hmem => hkey (List.mem_cons_of_mem c hmem)) hrest]

/-- The lines tell nothing of the values of a field with this key, whatever other fields stand
around it. -/
def Hidden (key : Str) : Prop :=
  ∀ (before after : List Str) (v v' : Str), Value v → Value v' →
    ∀ (method path : Str) (status : ℕ),
      requestLine method path (query (before ++ (key ++ '=' :: v) :: after)) status =
        requestLine method path (query (before ++ (key ++ '=' :: v') :: after)) status

/-- The values of a field are kept out of the log exactly if its key is spelled with a sensitive one
at its end. -/
theorem hidden_iff (key : Str) (hkey : '=' ∉ key) : Hidden key ↔ spelled key = true := by
  constructor
  · intro hhidden
    by_contra hspelled
    rw [Bool.not_eq_true] at hspelled
    have hone : ∀ {c}, isValueChar c = true → Value [c] := fun hc =>
      ⟨List.cons_ne_nil _ _, fun d hd => List.mem_singleton.1 hd ▸ hc⟩
    have hline := hhidden [] [] ['0'] ['1'] (hone rfl) (hone rfl) [] [] 200
    have hpath : ∀ c, c ≠ '=' → (requestLine [] [] (query ([] ++ [key ++ '=' :: [c]])) 200).path =
        '?' :: (key ++ ['=', c]) := by
      intro c hc
      have hfield : query ([] ++ [key ++ '=' :: [c]]) = key ++ '=' :: [c] := by simp [query]
      show pathForLog [] _ = _
      rw [hfield, pathForLog, maskQueryString_eq,
        mask_of_not_spelled hkey hspelled (by simpa using hc.symm)]
      simp
    have hpaths := congrArg Line.path hline
    rw [hpath '0' (by decide), hpath '1' (by decide)] at hpaths
    simp at hpaths
  · intro hspelled before after v v' hv hv' method path status
    refine logged_alike ?_ method path status
    have hrefl : ∀ fields : List Str, List.Forall₂ Alike fields fields := fun fields =>
      List.forall₂_same.2 fun _ _ => Or.inl rfl
    refine List.rel_append (hrefl before) (List.Forall₂.cons ?_ (hrefl after))
    exact Or.inr ⟨key, v, v', rfl, rfl, hspelled, hv, hv'⟩

/-- The key of a ticket that is percent-encoded: the API decodes it, the mask does not. -/
theorem not_hidden_percentEncoded : ¬Hidden "%74icket".toList := fun h =>
  absurd ((hidden_iff "%74icket".toList (by decide)).1 h) (by decide)

end ClusterManager.Logs
