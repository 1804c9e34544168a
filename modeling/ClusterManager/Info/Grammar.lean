import ClusterManager.Info.Verbs

/-!
# What the info-command gate accepts

`Frame verb s` is the grammar of a single-command frame: a bare verb, a path-style verb with its
segments, or a verb with a `:` argument section, each with an optional final `;`. The gates
accept exactly the commands whose stripped text is such a frame for a verb on their list
(`assertVerbIn_isOk_iff`), and what they return is that text (`assertVerbIn_ok`).
-/

namespace ClusterManager.Info

open Str

/-- The optional terminator of a command. -/
def Trailing (t : Str) : Prop := t = [] ∨ t = [';']

/-- An identifier of a path argument. -/
def Ident (segment : Str) : Prop := segment ≠ [] ∧ ∀ c ∈ segment, isIdentChar c = true

/-- The single-command frames with a given verb. -/
inductive Frame (verb : Str) : Str → Prop
  | bare (t : Str) (ht : Trailing t) : Frame verb (verb ++ t)
  | path (allowed : ℕ) (segments : List Str) (t : Str)
      (hverb : (verb, allowed) ∈ pathStyleVerbs) (hpos : 1 ≤ segments.length)
      (hle : segments.length ≤ allowed) (hident : ∀ segment ∈ segments, Ident segment)
      (ht : Trailing t) : Frame verb (verb ++ segments.flatMap ('/' :: ·) ++ t)
  | args (a t : Str) (hspace : NoSpace a) (hslash : '/' ∉ a) (hcolon : ':' ∉ a)
      (hargs : ';' ∈ a → ∀ segment ∈ a.splitOn ';', '=' ∈ segment)
      (ht : Trailing t) : Frame verb (verb ++ ':' :: a ++ t)

/-- `s` is one info frame whose verb is on the list. -/
def InfoFrame (verbs : List Str) (s : Str) : Prop := ∃ verb ∈ verbs, Frame verb s

/-- A verb no terminator and no whitespace occurs in. -/
def Plain (verb : Str) : Prop := verb ≠ [] ∧ NoSpace verb ∧ ∀ c ∈ verb, c ∉ verbTerminators

theorem Plain.not_mem {verb : Str} (h : Plain verb) {c : Char} (hc : c ∈ verbTerminators) :
    c ∉ verb := fun hm => h.2.2 c hm hc

instance (verb : Str) : Decidable (Plain verb) :=
  decidable_of_iff (verb ≠ [] ∧ verb.all (fun c => !isSpace c) = true ∧
      verb.all (fun c => !verbTerminators.contains c) = true) <| by
    simp [Plain, NoSpace]

theorem plain_of_mem_allowed : ∀ verb ∈ allowedInfoVerbs, Plain verb := by decide +kernel

theorem plain_of_mem_readOnly : ∀ verb ∈ readOnlyInfoVerbs, Plain verb :=
  fun verb hverb => plain_of_mem_allowed verb (List.mem_append_left _ hverb)

theorem plain_of_mem_pathStyle : ∀ p ∈ pathStyleVerbs, Plain p.1 := by decide +kernel

/-! ### Characters of an identifier -/

theorem isIdentChar_cases {c : Char} (h : isIdentChar c = true) :
    (65 ≤ c.toNat ∧ c.toNat ≤ 90) ∨ (97 ≤ c.toNat ∧ c.toNat ≤ 122) ∨
      (48 ≤ c.toNat ∧ c.toNat ≤ 57) ∨ c.toNat = 95 ∨ c.toNat = 46 ∨ c.toNat = 36 ∨
        c.toNat = 45 := by
  simp only [isIdentChar, Bool.or_eq_true, Bool.and_eq_true, decide_eq_true_eq] at h
  rcases h with ((((((⟨h1, h2⟩ | ⟨h1, h2⟩) | ⟨h1, h2⟩) | rfl) | rfl) | rfl) | rfl)
  · exact Or.inl ⟨h1, h2⟩
  · exact Or.inr (Or.inl ⟨h1, h2⟩)
  · exact Or.inr (Or.inr (Or.inl ⟨h1, h2⟩))
  all_goals decide

theorem isSpace_of_isIdentChar {c : Char} (h : isIdentChar c = true) : isSpace c = false := by
  have hc := isIdentChar_cases h
  simp only [isSpace, spaceCodes, List.contains_eq_mem, List.mem_cons, List.not_mem_nil,
    or_false, decide_eq_false_iff_not]
  omega

theorem isIdentChar_of_mem_terminators : ∀ c ∈ verbTerminators, isIdentChar c = false := by
  have : verbTerminators.all (fun c => !isIdentChar c) = true := by decide
  simpa only [List.all_eq_true, Bool.not_eq_true'] using this

theorem Ident.not_mem {segment : Str} (h : Ident segment) {c : Char}
    (hc : c ∈ verbTerminators) : c ∉ segment := by
  intro hm
  have := h.2 c hm
  rw [isIdentChar_of_mem_terminators c hc] at this
  exact Bool.false_ne_true this

theorem pathSegmentRe_of_ident {segment : Str} (h : Ident segment) :
    pathSegmentRe segment = true := by
  have hnl : segment.endsWith '\n' = false := by
    simp only [endsWith, decide_eq_false_iff_not]
    exact fun hl => h.not_mem (by decide) (List.mem_of_getLast? hl)
  simp only [pathSegmentRe, hnl, Bool.false_eq_true, if_false, Bool.and_eq_true,
    decide_eq_true_eq, List.all_eq_true]
  exact h

theorem ident_of_pathSegmentRe {segment : Str} (hs : NoSpace segment)
    (h : pathSegmentRe segment = true) : Ident segment := by
  have hnl : segment.endsWith '\n' = false := by
    simp only [endsWith, decide_eq_false_iff_not]
    intro hl
    have := hs _ (List.mem_of_getLast? hl)
    revert this
    decide
  simp only [pathSegmentRe, hnl, Bool.false_eq_true, if_false, Bool.and_eq_true,
    decide_eq_true_eq, List.all_eq_true] at h
  exact h

/-! ### The final terminator -/

theorem Trailing.noSpace {t : Str} (ht : Trailing t) : NoSpace t := by
  rcases ht with rfl | rfl
  · simp [NoSpace]
  · simp only [NoSpace, List.mem_singleton, forall_eq]
    decide

/-- A command is its body and its optional terminator. -/
theorem commandBody_append_trailing (cmd : Str) :
    ∃ t, Trailing t ∧ cmd = commandBody cmd ++ t := by
  by_cases h : cmd.endsWith ';' = true
  · refine ⟨[';'], Or.inr rfl, ?_⟩
    simp only [endsWith, decide_eq_true_eq] at h
    rw [commandBody, if_pos (by simpa [endsWith] using h)]
    exact (List.dropLast_append_getLast? ';' h).symm
  · exact ⟨[], Or.inl rfl, by simp [commandBody, h]⟩

/-- The body of a frame whose text does not end with a `;`. -/
theorem commandBody_of_trailing {x t : Str} (hx : x.getLast? ≠ some ';') (ht : Trailing t) :
    commandBody (x ++ t) = x := by
  rcases ht with rfl | rfl
  · simp [commandBody, endsWith, hx]
  · simp [commandBody, endsWith]

theorem getLast?_ne_of_not_mem {x : Str} {c : Char} (h : c ∉ x) : x.getLast? ≠ some c :=
  fun hl => h (List.mem_of_getLast? hl)

/-! ### The verb of a frame -/

/-- `extract_verb` keeps the longest terminator-free prefix. -/
theorem extractVerb_eq {command : Str} (h : strip command ≠ []) :
    extractVerb command = .ok ((strip command).takeWhile (· ∉ verbTerminators)) := by
  simp only [extractVerb, if_neg h, verbTerminators, List.foldl_cons, List.foldl_nil,
    List.takeWhile_takeWhile]
  congr 2
  funext c
  by_cases h1 : c = ':' <;> by_cases h2 : c = '/' <;> by_cases h3 : c = ';' <;>
    by_cases h4 : c = '\n' <;> by_cases h5 : c = ' ' <;> by_cases h6 : c = '\t' <;>
    simp [h1, h2, h3, h4, h5, h6]

theorem takeWhile_verb {verb rest : Str} (hv : ∀ c ∈ verb, c ∉ verbTerminators)
    (hr : ∀ c, rest.head? = some c → c ∈ verbTerminators) :
    (verb ++ rest).takeWhile (· ∉ verbTerminators) = verb := by
  rw [List.takeWhile_append_of_pos (by simpa using hv)]
  cases rest with
  | nil => simp
  | cons c rest => simp [hr c rfl]

/-- What follows the verb of a frame starts with a terminator. -/
theorem Frame.exists_rest {verb s : Str} (h : Frame verb s) :
    ∃ rest, s = verb ++ rest ∧ ∀ c, rest.head? = some c → c ∈ verbTerminators := by
  cases h with
  | bare t ht =>
    refine ⟨t, rfl, ?_⟩
    rcases ht with rfl | rfl <;> simp [verbTerminators]
  | path allowed segments t hverb hpos hle hident ht =>
    refine ⟨segments.flatMap ('/' :: ·) ++ t, by simp, ?_⟩
    cases segments with
    | nil => simp at hpos
    | cons a l => simp [verbTerminators]
  | args a t hspace hslash hcolon hargs ht =>
    exact ⟨':' :: a ++ t, by simp, by simp [verbTerminators]⟩

theorem Frame.takeWhile_eq {verb s : Str} (h : Frame verb s)
    (hv : ∀ c ∈ verb, c ∉ verbTerminators) : s.takeWhile (· ∉ verbTerminators) = verb := by
  obtain ⟨rest, rfl, hr⟩ := h.exists_rest
  exact takeWhile_verb hv hr

theorem Frame.ne_nil {verb s : Str} (h : Frame verb s) (hv : Plain verb) : s ≠ [] := by
  obtain ⟨rest, rfl, -⟩ := h.exists_rest
  simp [hv.1]

theorem noSpace_segments {segments : List Str} (h : ∀ segment ∈ segments, Ident segment) :
    NoSpace (segments.flatMap ('/' :: ·)) := by
  intro c hc
  obtain ⟨segment, hs, hm⟩ := List.mem_flatMap.1 hc
  rcases List.mem_cons.1 hm with rfl | hm
  · decide
  · exact isSpace_of_isIdentChar ((h segment hs).2 c hm)

/-- A frame holds no whitespace. -/
theorem Frame.noSpace {verb s : Str} (h : Frame verb s) (hv : Plain verb) : NoSpace s := by
  cases h with
  | bare t ht => exact noSpace_append.2 ⟨hv.2.1, ht.noSpace⟩
  | path allowed segments t hverb hpos hle hident ht =>
    exact noSpace_append.2 ⟨noSpace_append.2 ⟨hv.2.1, noSpace_segments hident⟩, ht.noSpace⟩
  | args a t hspace hslash hcolon hargs ht =>
    refine noSpace_append.2 ⟨noSpace_append.2 ⟨hv.2.1, ?_⟩, ht.noSpace⟩
    intro c hc
    rcases List.mem_cons.1 hc with rfl | hc
    · decide
    · exact hspace c hc

/-! ### Frames pass the framing check -/

theorem lookup_pathStyleVerbs : ∀ p ∈ pathStyleVerbs, pathStyleVerbs.lookup p.1 = some p.2 := by
  decide

theorem mem_pathStyleVerbs_of_lookup {verb : Str} {allowed : ℕ}
    (h : pathStyleVerbs.lookup verb = some allowed) : (verb, allowed) ∈ pathStyleVerbs := by
  obtain ⟨l₁, l₂, hl, -⟩ := List.lookup_eq_some_iff.1 h
  rw [hl]
  simp

theorem splitOn_path {verb : Str} {segments : List Str} (hv : '/' ∉ verb)
    (hs : ∀ segment ∈ segments, Ident segment) :
    (verb ++ segments.flatMap ('/' :: ·)).splitOn '/' = verb :: segments := by
  rw [← intercalate_eq_flatMap]
  refine List.splitOn_intercalate '/' ?_ (by simp)
  intro l hl
  rcases List.mem_cons.1 hl with rfl | hl
  · exact hv
  · exact (hs l hl).not_mem (by decide)

theorem pathFraming_of_path {cmd verb : Str} {allowed : ℕ} {segments : List Str}
    (hverb : (verb, allowed) ∈ pathStyleVerbs) (hle : segments.length ≤ allowed)
    (hident : ∀ segment ∈ segments, Ident segment) :
    pathFraming cmd (verb ++ segments.flatMap ('/' :: ·)) = .ok cmd := by
  have hslash : '/' ∉ verb := (plain_of_mem_pathStyle _ hverb).not_mem (by decide)
  have hfind : segments.find? (fun segment => !pathSegmentRe segment) = none := by
    simp only [List.find?_eq_none, Bool.not_eq_true', Bool.not_eq_false]
    exact fun segment hs => pathSegmentRe_of_ident (hident segment hs)
  simp only [pathFraming, splitOn_path hslash hident, List.headD_cons, List.tail_cons,
    lookup_pathStyleVerbs _ hverb, if_neg (Nat.not_lt.2 hle), hfind]

/-- The segments of an argument section either are one, or all hold a `=`. -/
def ArgSegments (a : Str) : Prop := ';' ∈ a → ∀ segment ∈ a.splitOn ';', '=' ∈ segment

theorem one_lt_length_splitOn {sep : Char} {a : Str} :
    1 < (a.splitOn sep).length ↔ sep ∈ a := by
  constructor
  · intro h
    by_contra hm
    rw [List.splitOn_eq_singleton hm] at h
    simp at h
  · intro h
    obtain ⟨x, y, rfl, -⟩ := eq_of_mem h
    rw [List.splitOn_append_cons_self, List.length_append]
    have hx := List.length_pos_of_ne_nil (List.splitOn_ne_nil sep x)
    have hy := List.length_pos_of_ne_nil (List.splitOn_ne_nil sep y)
    omega

theorem bareSegment_iff (a : Str) :
    (1 < (a.splitOn ';').length && !(a.splitOn ';').all (fun s => s.contains '=')) = true ↔
      ¬ ArgSegments a := by
  simp only [Bool.and_eq_true, decide_eq_true_eq, one_lt_length_splitOn, Bool.not_eq_true',
    List.all_eq_false, List.contains_eq_mem, ArgSegments]
  grind

/-- An argument section that ends with a `;` has an empty last segment. -/
theorem ArgSegments.getLast?_ne {a : Str} (h : ArgSegments a) : a.getLast? ≠ some ';' := by
  intro hl
  have ha := (List.dropLast_append_getLast? ';' hl).symm
  have hm : ';' ∈ a := List.mem_of_getLast? hl
  have := h hm [] (by rw [ha]; exact nil_mem_splitOn_concat ';' _)
  simp at this

theorem argsFraming_of_bare {cmd verb : Str} (hv : Plain verb) :
    argsFraming cmd verb = .ok cmd := by
  simp only [argsFraming, partition_of_not_mem (hv.not_mem (by decide : ':' ∈ verbTerminators)),
    if_neg (hv.not_mem (by decide : ';' ∈ verbTerminators)), Bool.not_false, if_true]

theorem argsFraming_of_args {cmd verb a : Str} (hv : Plain verb) (hcolon : ':' ∉ a)
    (ha : ArgSegments a) : argsFraming cmd (verb ++ ':' :: a) = .ok cmd := by
  have hb : ¬ (1 < (a.splitOn ';').length &&
      !(a.splitOn ';').all (fun s => s.contains '=')) = true := by
    rw [bareSegment_iff]
    exact not_not.2 ha
  simp only [argsFraming, partition_append (hv.not_mem (by decide : ':' ∈ verbTerminators)),
    if_neg (hv.not_mem (by decide : ';' ∈ verbTerminators)), Bool.not_true, Bool.false_eq_true,
    if_false, if_neg hcolon, if_neg hb]

/-- A stripped command that is a frame passes `assert_single_command` unchanged. -/
theorem assertSingleCommand_of_frame {verb s command : Str} (hv : Plain verb)
    (hs : strip command = s) (h : Frame verb s) : assertSingleCommand command = .ok s := by
  have hslash : '/' ∉ verb := hv.not_mem (by decide)
  have hsemi : ';' ∉ verb := hv.not_mem (by decide)
  simp only [assertSingleCommand, hs, if_neg (h.ne_nil hv), noSpace_iff_find?_none.2 (h.noSpace hv)]
  cases h with
  | bare t ht =>
    rw [commandBody_of_trailing (getLast?_ne_of_not_mem hsemi) ht, if_neg hslash]
    exact argsFraming_of_bare hv
  | path allowed segments t hverb hpos hle hident ht =>
    have hlast : ';' ∉ verb ++ segments.flatMap ('/' :: ·) := by
      simp only [List.mem_append, List.mem_flatMap, not_or, not_exists, not_and, List.mem_cons]
      exact ⟨hsemi, fun segment hm => ⟨by decide, (hident segment hm).not_mem (by decide)⟩⟩
    have hmem : '/' ∈ verb ++ segments.flatMap ('/' :: ·) := by
      cases segments with
      | nil => simp at hpos
      | cons a l => simp
    rw [commandBody_of_trailing (getLast?_ne_of_not_mem hlast) ht, if_pos hmem]
    exact pathFraming_of_path hverb hle hident
  | args a t hspace ha hcolon hargs ht =>
    have hlast : (verb ++ ':' :: a).getLast? ≠ some ';' := by
      cases a with
      | nil => simp
      | cons c a => simpa using ArgSegments.getLast?_ne hargs
    have hmem : '/' ∉ verb ++ ':' :: a := by simp [hslash, ha]
    rw [commandBody_of_trailing hlast ht, if_neg hmem]
    exact argsFraming_of_args hv hcolon hargs

/-! ### What passes the framing check is a frame -/

theorem pathFraming_ok {cmd body s : Str} (hbody : NoSpace body)
    (h : pathFraming cmd body = .ok s) (hslash : '/' ∈ body) :
    s = cmd ∧ ∃ (verb : Str) (allowed : ℕ) (segments : List Str), (verb, allowed) ∈ pathStyleVerbs ∧
      1 ≤ segments.length ∧ segments.length ≤ allowed ∧
      (∀ segment ∈ segments, Ident segment) ∧ body = verb ++ segments.flatMap ('/' :: ·) := by
  obtain ⟨verb, segments, hparts⟩ : ∃ verb segments, body.splitOn '/' = verb :: segments :=
    List.exists_cons_of_ne_nil (List.splitOn_ne_nil '/' body)
  have hjoin : body = verb ++ segments.flatMap ('/' :: ·) := by
    rw [← intercalate_eq_flatMap, ← hparts, List.intercalate_splitOn]
  have hpos : 1 ≤ segments.length := by
    have := one_lt_length_splitOn.2 hslash
    rw [hparts, List.length_cons] at this
    omega
  simp only [pathFraming, hparts, List.headD_cons, List.tail_cons] at h
  split at h
  · cases h
  · rename_i allowed hlookup
    split_ifs at h with hlen
    split at h
    · cases h
    · rename_i hfind
      cases h
      refine ⟨rfl, verb, allowed, segments, mem_pathStyleVerbs_of_lookup hlookup, hpos, by omega,
        fun segment hs => ?_, hjoin⟩
      refine ident_of_pathSegmentRe (fun c hc => hbody c ?_) ?_
      · rw [hjoin]
        exact List.mem_append_right _ (List.mem_flatMap.2 ⟨segment, hs, List.mem_cons_of_mem _ hc⟩)
      · simpa using List.find?_eq_none.1 hfind segment hs

theorem argsFraming_ok {cmd body s : Str} (h : argsFraming cmd body = .ok s) :
    s = cmd ∧ ((':' ∉ body ∧ ';' ∉ body) ∨
      ∃ verb a, body = verb ++ ':' :: a ∧ ':' ∉ verb ∧ ';' ∉ verb ∧ ':' ∉ a ∧ ArgSegments a) := by
  by_cases hcolon : ':' ∈ body
  · obtain ⟨verb, a, rfl, hv⟩ := eq_of_mem hcolon
    simp only [argsFraming, partition_append hv, Bool.not_true, Bool.false_eq_true, if_false] at h
    split_ifs at h with h1 h2 h3
    cases h
    exact ⟨rfl, Or.inr ⟨verb, a, rfl, hv, h1, h2, by rwa [bareSegment_iff, not_not] at h3⟩⟩
  · simp only [argsFraming, partition_of_not_mem hcolon, Bool.not_false, if_true] at h
    split_ifs at h with h1
    cases h
    exact ⟨rfl, Or.inl ⟨hcolon, h1⟩⟩

theorem not_mem_terminators {body : Str} (hs : NoSpace body) (hslash : '/' ∉ body)
    (hcolon : ':' ∉ body) (hsemi : ';' ∉ body) : ∀ c ∈ body, c ∉ verbTerminators := by
  intro c hc ht
  have hspace := hs c hc
  simp only [verbTerminators, List.mem_cons, List.not_mem_nil, or_false] at ht
  rcases ht with rfl | rfl | rfl | rfl | rfl | rfl
  · exact hcolon hc
  · exact hslash hc
  · exact hsemi hc
  all_goals
    revert hspace
    decide

/-- What `assert_single_command` accepts is a frame of its own verb. -/
theorem frame_of_assertSingleCommand {command s : Str}
    (h : assertSingleCommand command = .ok s) :
    s = strip command ∧ s ≠ [] ∧ NoSpace s ∧
      Frame (s.takeWhile (· ∉ verbTerminators)) s := by
  simp only [assertSingleCommand] at h
  by_cases hne : strip command = []
  · rw [if_pos hne] at h
    cases h
  rw [if_neg hne] at h
  cases hfind : (strip command).find? isSpace with
  | some ch =>
    rw [hfind] at h
    cases h
  | none =>
    simp only [hfind] at h
    have hspace : NoSpace (strip command) := noSpace_iff_find?_none.1 hfind
    obtain ⟨t, ht, hcmd⟩ := commandBody_append_trailing (strip command)
    have hbody : NoSpace (commandBody (strip command)) := by
      rw [hcmd] at hspace
      exact (noSpace_append.1 hspace).1
    -- in each shape the text ahead of the first terminator is the verb of the frame
    have finish : ∀ verb, Frame verb (strip command) → (∀ c ∈ verb, c ∉ verbTerminators) →
        s = strip command → s = strip command ∧ s ≠ [] ∧ NoSpace s ∧
          Frame (s.takeWhile (· ∉ verbTerminators)) s := by
      rintro verb hf hv rfl
      exact ⟨rfl, hne, hspace, by rwa [hf.takeWhile_eq hv]⟩
    by_cases hslash : '/' ∈ commandBody (strip command)
    · rw [if_pos hslash] at h
      obtain ⟨rfl, verb, allowed, segments, hverb, hpos, hle, hident, hjoin⟩ :=
        pathFraming_ok hbody h hslash
      refine finish verb ?_ (plain_of_mem_pathStyle _ hverb).2.2 rfl
      rw [hcmd, hjoin]
      exact .path allowed segments t hverb hpos hle hident ht
    · rw [if_neg hslash] at h
      obtain ⟨rfl, ⟨hcolon, hsemi⟩ | ⟨verb, a, hjoin, hv1, hv2, hcolon, ha⟩⟩ := argsFraming_ok h
      · refine finish (commandBody (strip command)) ?_
          (not_mem_terminators hbody hslash hcolon hsemi) rfl
        conv => rhs; rw [hcmd]
        exact .bare t ht
      · rw [hjoin] at hbody hslash
        obtain ⟨hverb, hrest⟩ := noSpace_append.1 hbody
        refine finish verb ?_ (not_mem_terminators hverb
          (fun hm => hslash (List.mem_append_left _ hm)) hv1 hv2) rfl
        rw [hcmd, hjoin]
        exact .args a t (fun c hc => hrest c (List.mem_cons_of_mem _ hc))
          (fun hm => hslash (List.mem_append_right _ (List.mem_cons_of_mem _ hm))) hcolon ha ht

/-! ### The gates -/

section Gate

variable {verbs : List Str} {reject : Str → InfoCommandRejected}

/-- A gate returns the stripped command and its longest terminator-free prefix. -/
theorem assertVerbIn_ok {command : Str} {r : ValidatedInfoCommand}
    (h : assertVerbIn verbs reject command = .ok r) :
    r = ⟨strip command, (strip command).takeWhile (· ∉ verbTerminators)⟩ ∧
      r.verb ∈ verbs ∧ NoSpace r.command ∧ Frame r.verb r.command := by
  simp only [assertVerbIn, bind, Except.bind] at h
  cases hs : assertSingleCommand command with
  | error e => simp [hs] at h
  | ok s =>
    obtain ⟨rfl, hne, hspace, hframe⟩ := frame_of_assertSingleCommand hs
    have hstrip := strip_of_noSpace hspace
    simp only [hs, extractVerb_eq (by rwa [hstrip] : strip (strip command) ≠ []), hstrip] at h
    split_ifs at h with hmem
    cases h
    exact ⟨rfl, hmem, hspace, hframe⟩

/-- A stripped command that is a frame of a listed verb passes the gate. -/
theorem assertVerbIn_of_frame {command verb : Str} (hverb : verb ∈ verbs) (hplain : Plain verb)
    (h : Frame verb (strip command)) :
    assertVerbIn verbs reject command = .ok ⟨strip command, verb⟩ := by
  have hstrip := strip_of_noSpace (h.noSpace hplain)
  have hne : strip (strip command) ≠ [] := by
    rw [hstrip]
    exact h.ne_nil hplain
  simp only [assertVerbIn, assertSingleCommand_of_frame hplain rfl h, bind, Except.bind,
    extractVerb_eq hne, hstrip, h.takeWhile_eq hplain.2.2, if_pos hverb]
  rfl

/-- A gate accepts exactly the frames of its verbs. -/
theorem assertVerbIn_isOk_iff (hplain : ∀ verb ∈ verbs, Plain verb) (command : Str) :
    (∃ r, assertVerbIn verbs reject command = .ok r) ↔ InfoFrame verbs (strip command) := by
  constructor
  · rintro ⟨r, hr⟩
    obtain ⟨rfl, hmem, -, hframe⟩ := assertVerbIn_ok hr
    exact ⟨_, hmem, hframe⟩
  · rintro ⟨verb, hmem, hframe⟩
    exact ⟨_, assertVerbIn_of_frame hmem (hplain verb hmem) hframe⟩

/-- What a gate returned passes the gate again, unchanged. -/
theorem assertVerbIn_idem (hplain : ∀ verb ∈ verbs, Plain verb) {command : Str}
    {r : ValidatedInfoCommand} (h : assertVerbIn verbs reject command = .ok r) :
    assertVerbIn verbs reject r.command = .ok r := by
  obtain ⟨-, hmem, hspace, hframe⟩ := assertVerbIn_ok h
  have hstrip := strip_of_noSpace hspace
  have : assertVerbIn verbs reject r.command = .ok ⟨strip r.command, r.verb⟩ :=
    assertVerbIn_of_frame hmem (hplain _ hmem) (by rwa [hstrip])
  rwa [hstrip] at this

end Gate

/-- `p` is the longest prefix of `s` no character of which ends a verb. -/
def LongestVerbPrefix (s p : Str) : Prop :=
  p <+: s ∧ (∀ c ∈ p, c ∉ verbTerminators) ∧
    ∀ q, q <+: s → (∀ c ∈ q, c ∉ verbTerminators) → q <+: p

theorem longestVerbPrefix_takeWhile (s : Str) :
    LongestVerbPrefix s (s.takeWhile (· ∉ verbTerminators)) := by
  refine ⟨List.takeWhile_prefix _, fun c hc => by simpa using List.mem_takeWhile_imp hc, ?_⟩
  rintro q ⟨rest, rfl⟩ hq
  rw [List.takeWhile_append_of_pos (by simpa using hq)]
  exact List.prefix_append _ _

/-- What a gate promises of every string: it accepts exactly the frames of its verbs, and what it
returns is the stripped command, free of whitespace, one frame of its verb and nothing else, and
stable under the gate. -/
def GateSpec (gate : Str → Except InfoCommandRejected ValidatedInfoCommand) (verbs : List Str) :
    Prop :=
  ∀ command : Str,
    ((∃ r, gate command = .ok r) ↔ InfoFrame verbs (strip command)) ∧
    ∀ r, gate command = .ok r →
      r.command = strip command ∧ NoSpace r.command ∧ r.verb ∈ verbs ∧
      Frame r.verb r.command ∧ LongestVerbPrefix r.command r.verb ∧ gate r.command = .ok r

theorem gateSpec_assertVerbIn {verbs : List Str} {reject : Str → InfoCommandRejected}
    (hplain : ∀ verb ∈ verbs, Plain verb) : GateSpec (assertVerbIn verbs reject) verbs := by
  intro command
  refine ⟨assertVerbIn_isOk_iff hplain command, fun r hr => ?_⟩
  obtain ⟨hr', hmem, hspace, hframe⟩ := assertVerbIn_ok hr
  refine ⟨by rw [hr'], hspace, hmem, hframe, ?_, assertVerbIn_idem hplain hr⟩
  rw [hr']
  exact longestVerbPrefix_takeWhile _

/-- **The two gates accept exactly their grammar.** -/
theorem info_gates_accept_exactly_their_grammar :
    GateSpec assertReadOnly readOnlyInfoVerbs ∧ GateSpec assertWriteAllowed allowedInfoVerbs :=
  ⟨gateSpec_assertVerbIn plain_of_mem_readOnly, gateSpec_assertVerbIn plain_of_mem_allowed⟩

example : assertReadOnly "  latencies:back=10;duration=10;
".toList =
    .ok ⟨"latencies:back=10;duration=10;".toList, "latencies".toList⟩ := by decide

example : assertReadOnly "namespaces/truncate-namespace:namespace=test".toList =
    .error (.notSingle (.slashAfterVerb "namespaces".toList)) := by decide

end ClusterManager.Info
