import Mathlib.Data.List.DropRight

/-!
# Python strings as lists of characters

The parsers of the API work on `str` one character at a time. A string is the list of its
characters here, and the few `str` methods the parsers call are the definitions below.
`str.split(sep)` for a one-character separator is `List.splitOn`.
-/

namespace ClusterManager

/-- A Python string, as its list of characters. -/
abbrev Str := List Char

/-- Texts are compared character by character. -/
instance : LawfulBEq Str := inferInstance

namespace Str

/-- The code points `str.isspace` accepts (categories `Zs`, and bidirectional `WS`, `B`, `S`). -/
def spaceCodes : List ℕ :=
  [0x09, 0x0A, 0x0B, 0x0C, 0x0D, 0x1C, 0x1D, 0x1E, 0x1F, 0x20, 0x85, 0xA0, 0x1680,
    0x2000, 0x2001, 0x2002, 0x2003, 0x2004, 0x2005, 0x2006, 0x2007, 0x2008, 0x2009, 0x200A,
    0x2028, 0x2029, 0x202F, 0x205F, 0x3000]

/-- `str.isspace` of a single character. -/
def isSpace (c : Char) : Bool := spaceCodes.contains c.toNat

/-- `str.strip()`: both ends lose their whitespace. -/
def strip (s : Str) : Str := (s.dropWhile isSpace).rdropWhile isSpace

/-- `str.partition(sep)`: the head, whether the separator was found, and the tail. -/
def partition (sep : Char) (s : Str) : Str × Bool × Str :=
  match s.dropWhile (· ≠ sep) with
  | [] => (s, false, [])
  | _ :: tail => (s.takeWhile (· ≠ sep), true, tail)

/-- `s.endswith(c)` for a single character. -/
def endsWith (s : Str) (c : Char) : Bool := s.getLast? = some c

/-- No character of `s` is whitespace. -/
def NoSpace (s : Str) : Prop := ∀ c ∈ s, isSpace c = false

theorem noSpace_append {s t : Str} : NoSpace (s ++ t) ↔ NoSpace s ∧ NoSpace t := by
  simp [NoSpace, or_imp, forall_and]

theorem noSpace_iff_find?_none {s : Str} : s.find? isSpace = none ↔ NoSpace s := by
  simp [NoSpace]

/-- Stripping changes nothing where there is no whitespace. -/
theorem strip_of_noSpace {s : Str} (h : NoSpace s) : strip s = s := by
  have hd : s.dropWhile isSpace = s := by
    cases s with
    | nil => rfl
    | cons c s => simp [h c (by simp)]
  rw [strip, hd, List.rdropWhile_eq_self_iff]
  intro hl
  simp [h _ (List.getLast_mem hl)]

/-- Taking characters off both ends twice is taking them off once. -/
theorem dropEnds_dropEnds (p : Char → Bool) (s : Str) :
    (((s.dropWhile p).rdropWhile p).dropWhile p).rdropWhile p = (s.dropWhile p).rdropWhile p := by
  have hhead : ((s.dropWhile p).rdropWhile p).dropWhile p = (s.dropWhile p).rdropWhile p := by
    cases h : (s.dropWhile p).rdropWhile p with
    | nil => rfl
    | cons c rest =>
      obtain ⟨tail, htail⟩ := List.rdropWhile_prefix p (l := s.dropWhile p)
      rw [h, List.cons_append] at htail
      have hc : p c = false := by
        have := List.head?_dropWhile_not p s
        rw [← htail] at this
        simpa using this
      rw [List.dropWhile_cons_of_neg (by simp [hc])]
  rw [hhead]
  exact List.rdropWhile_idempotent p _

/-- Stripping twice is stripping once. -/
theorem strip_strip (s : Str) : strip (strip s) = strip s := dropEnds_dropEnds isSpace s

/-- A separator that does not occur is not found. -/
theorem partition_of_not_mem {sep : Char} {s : Str} (h : sep ∉ s) :
    partition sep s = (s, false, []) := by
  have : s.dropWhile (· ≠ sep) = [] := by
    rw [List.dropWhile_eq_nil_iff]
    intro c hc
    simpa using fun he : c = sep => h (he ▸ hc)
  simp only [partition, this]

/-- The first occurrence of the separator splits the string. -/
theorem partition_append {sep : Char} {s t : Str} (h : sep ∉ s) :
    partition sep (s ++ sep :: t) = (s, true, t) := by
  have hs : ∀ c ∈ s, (decide (c ≠ sep)) = true := by
    intro c hc
    simpa using fun he : c = sep => h (he ▸ hc)
  have hd : (s ++ sep :: t).dropWhile (· ≠ sep) = sep :: t := by
    rw [List.dropWhile_append_of_pos hs]
    simp
  have ht : (s ++ sep :: t).takeWhile (· ≠ sep) = s := by
    rw [List.takeWhile_append_of_pos hs]
    simp
  simp only [partition, hd, ht]

/-- The head of a partition ends where the separator first occurs. -/
theorem partition_fst (sep : Char) (s : Str) : (s.partition sep).1 = s.takeWhile (· ≠ sep) := by
  unfold partition
  split
  · rename_i hnil
    rw [List.dropWhile_eq_nil_iff] at hnil
    exact (List.takeWhile_eq_self_iff.2 hnil).symm
  · rfl

/-- A string is its head, or its head, the separator and its tail. -/
theorem eq_of_mem {sep : Char} {s : Str} (h : sep ∈ s) :
    ∃ a b, s = a ++ sep :: b ∧ sep ∉ a := by
  obtain ⟨a, b, rfl, ha⟩ := List.eq_append_cons_of_mem h
  exact ⟨a, b, rfl, ha⟩

theorem intercalate_cons_cons (sep : Char) (a b : Str) (l : List Str) :
    [sep].intercalate (a :: b :: l) = a ++ sep :: [sep].intercalate (b :: l) := by
  simp [List.intercalate, List.intersperse]

/-- `str.split` glued back together, as one separator in front of every piece but the first. -/
theorem intercalate_eq_flatMap (sep : Char) (a : Str) (l : List Str) :
    [sep].intercalate (a :: l) = a ++ l.flatMap (sep :: ·) := by
  induction l generalizing a with
  | nil => simp [List.intercalate]
  | cons b l ih =>
    have := ih b
    simp only [List.intercalate, List.intersperse, List.flatten_cons] at this ⊢
    simp [this]

/-- A character that is no separator and stands in no piece does not stand in what is joined. -/
theorem not_mem_intercalate {c sep : Char} {pieces : List Str} (hne : c ≠ sep)
    (h : ∀ piece ∈ pieces, c ∉ piece) : c ∉ [sep].intercalate pieces := by
  cases pieces with
  | nil => simp [List.intercalate]
  | cons piece pieces =>
    rw [intercalate_eq_flatMap, List.mem_append, List.mem_flatMap]
    rintro (hc | ⟨p, hp, hc⟩)
    · exact h piece List.mem_cons_self hc
    · rcases List.mem_cons.1 hc with hc | hc
      · exact hne hc
      · exact h p (List.mem_cons_of_mem _ hp) hc

/-- The pieces of a string that ends with the separator end with the empty piece. -/
theorem nil_mem_splitOn_concat (sep : Char) (s : Str) : [] ∈ (s ++ [sep]).splitOn sep := by
  rw [List.splitOn_append_cons_self]
  simp

end Str

end ClusterManager
