import ClusterManager.Text

/-!
# Commands of one line

A command is a verb and named arguments, written `verb:name=value;name=value`. Commands that are
sent together stand on lines of their own. A reader splits the lines, then each line at its first
`:`, what follows at every `;`, and each piece at its first `=`. What it reads is what was written
where no value holds a `;` or a line break, and nowhere else.
-/

namespace ClusterManager.Delimited

open Str

/-- A command with its arguments. -/
structure Command where
  verb : Str
  args : List (Str × Str)
  deriving DecidableEq

/-- One argument as it is written. -/
def argText (arg : Str × Str) : Str := arg.1 ++ '=' :: arg.2

/-- A command as it is written. -/
def Command.text (c : Command) : Str := c.verb ++ ':' :: [';'].intercalate (c.args.map argText)

/-- One argument as it is read. -/
def readArg (piece : Str) : Str × Str :=
  let parts := piece.partition '='
  (parts.1, parts.2.2)

/-- One command as it is read. An empty piece, as after a last `;`, is no argument. -/
def readCommand (line : Str) : Command :=
  let parts := line.partition ':'
  { verb := parts.1
    args := ((parts.2.2.splitOn ';').filter (· ≠ [])).map readArg }

/-- The commands of a frame as they are read. -/
def readFrame (frame : Str) : List Command := (frame.splitOn '\n').map readCommand

/-- The verb and the names of a command hold no separator. -/
structure Command.Named (c : Command) : Prop where
  verb : '\n' ∉ c.verb ∧ ':' ∉ c.verb
  names : ∀ arg ∈ c.args, '\n' ∉ arg.1 ∧ ';' ∉ arg.1 ∧ '=' ∉ arg.1

/-- No value of a command holds a separator. -/
def Command.Plain (c : Command) : Prop := ∀ arg ∈ c.args, '\n' ∉ arg.2 ∧ ';' ∉ arg.2

/-- The pieces of a split hold no separator, and only characters of the string. -/
theorem of_mem_splitOn {sep : Char} {s piece : Str} (h : piece ∈ s.splitOn sep) :
    sep ∉ piece ∧ ∀ c ∈ piece, c ∈ s := by
  induction hn : s.length using Nat.strong_induction_on generalizing s with
  | _ n ih =>
    by_cases hm : sep ∈ s
    · obtain ⟨a, b, rfl, ha⟩ := eq_of_mem hm
      rw [List.splitOn_append_cons_self_of_not_mem ha, List.mem_cons] at h
      rcases h with rfl | h
      · exact ⟨ha, fun c hc => List.mem_append_left _ hc⟩
      · have hb := ih b.length (by simp at hn; omega) h rfl
        exact ⟨hb.1, fun c hc => List.mem_append_right _ (List.mem_cons_of_mem _ (hb.2 c hc))⟩
    · rw [List.splitOn_eq_singleton hm, List.mem_singleton] at h
      subst h
      exact ⟨hm, fun c hc => hc⟩

/-- The tail of a partition consists of characters of the string. -/
theorem mem_of_mem_partition {sep c : Char} {s : Str} (hc : c ∈ (s.partition sep).2.2) : c ∈ s := by
  by_cases hm : sep ∈ s
  · obtain ⟨a, b, rfl, ha⟩ := eq_of_mem hm
    rw [partition_append ha] at hc
    exact List.mem_append_right _ (List.mem_cons_of_mem _ hc)
  · rw [partition_of_not_mem hm] at hc
    cases hc

/-- Whatever a frame is, no value that is read from it holds a separator. -/
theorem plain_of_mem_readFrame {frame : Str} {c : Command} (h : c ∈ readFrame frame) :
    c.Plain := by
  obtain ⟨line, hline, rfl⟩ := List.mem_map.1 h
  intro arg harg
  obtain ⟨piece, hpiece, rfl⟩ := List.mem_map.1 harg
  have hsplit := of_mem_splitOn (List.mem_filter.1 hpiece).1
  constructor
  · intro hc
    exact (of_mem_splitOn hline).1
      (mem_of_mem_partition (hsplit.2 _ (mem_of_mem_partition hc)))
  · intro hc
    exact hsplit.1 (mem_of_mem_partition hc)

/-- An argument is read back. -/
theorem readArg_argText {arg : Str × Str} (h : '=' ∉ arg.1) : readArg (argText arg) = arg := by
  rw [readArg, argText, partition_append h]

/-- The pieces of a command with sound names and plain values. -/
theorem pieces_sound {c : Command} (hnamed : c.Named) (hplain : c.Plain) :
    ∀ piece ∈ c.args.map argText, '\n' ∉ piece ∧ ';' ∉ piece ∧ piece ≠ [] := by
  intro piece hpiece
  obtain ⟨arg, harg, rfl⟩ := List.mem_map.1 hpiece
  have hname := hnamed.names arg harg
  have hvalue := hplain arg harg
  simp [argText, hname, hvalue]

/-- A plain command is one line. -/
theorem newline_not_mem_text {c : Command} (hnamed : c.Named) (hplain : c.Plain) :
    '\n' ∉ c.text := by
  rw [Command.text, List.mem_append, List.mem_cons]
  rintro (hc | hc | hc)
  · exact hnamed.verb.1 hc
  · cases hc
  · exact not_mem_intercalate (by decide)
      (fun piece hpiece => (pieces_sound hnamed hplain piece hpiece).1) hc

/-- A command whose values hold no separator is read back, alone in its frame. -/
theorem readFrame_text {c : Command} (hnamed : c.Named) (hplain : c.Plain) :
    readFrame c.text = [c] := by
  have hpieces := pieces_sound hnamed hplain
  have hfilter : (([';'].intercalate (c.args.map argText)).splitOn ';').filter (· ≠ []) =
      c.args.map argText := by
    by_cases hnil : c.args.map argText = []
    · rw [hnil]
      rfl
    · rw [List.splitOn_intercalate ';' (fun piece hpiece => (hpieces piece hpiece).2.1) hnil,
        List.filter_eq_self]
      intro piece hpiece
      simpa using (hpieces piece hpiece).2.2
  have hread : (c.args.map argText).map readArg = c.args := by
    rw [List.map_map]
    exact (List.map_congr_left fun arg harg =>
      readArg_argText (hnamed.names arg harg).2.2).trans (List.map_id _)
  rw [readFrame, List.splitOn_eq_singleton (newline_not_mem_text hnamed hplain), List.map_singleton,
    readCommand, Command.text, partition_append hnamed.verb.2]
  simp only [hfilter, hread]

/-- A `;` at the end of a command is not read. -/
theorem readFrame_terminated {c : Command} (hnamed : c.Named) (hplain : c.Plain) :
    readFrame (c.text ++ [';']) = [c] := by
  have hline : '\n' ∉ c.text ++ [';'] := by
    simpa using newline_not_mem_text hnamed hplain
  have hread : readCommand (c.text ++ [';']) = readCommand c.text := by
    rw [Command.text, List.append_assoc, List.cons_append]
    simp only [readCommand, partition_append hnamed.verb.2, List.splitOn_append_cons_self]
    simp
  have hplainRead := readFrame_text hnamed hplain
  rw [readFrame, List.splitOn_eq_singleton (newline_not_mem_text hnamed hplain)] at hplainRead
  rw [readFrame, List.splitOn_eq_singleton hline, List.map_singleton, hread]
  exact hplainRead

/-- A command with sound names is read back exactly where no value holds a separator. -/
theorem readFrame_text_iff {c : Command} (hnamed : c.Named) :
    readFrame c.text = [c] ↔ c.Plain := by
  refine ⟨fun h => ?_, fun h => readFrame_text hnamed h⟩
  exact @plain_of_mem_readFrame c.text c (by rw [h]; simp)

/-- Two values in one, told apart at the last `,`. -/
def splitLastComma (value : Str) : Str × Str :=
  ((value.reverse.dropWhile (· ≠ ',')).tail.reverse, (value.reverse.takeWhile (· ≠ ',')).reverse)

/-- What follows the last `,` holds none. -/
theorem splitLastComma_append {a b : Str} (h : ',' ∉ b) :
    splitLastComma (a ++ ',' :: b) = (a, b) := by
  have hrev : ∀ c ∈ b.reverse, (decide (c ≠ ',')) = true := by
    intro c hc
    simpa using fun he : c = ',' => h (he ▸ List.mem_reverse.1 hc)
  have hvalue : (a ++ ',' :: b).reverse = b.reverse ++ ',' :: a.reverse := by simp
  rw [splitLastComma, hvalue, List.dropWhile_append_of_pos hrev, List.takeWhile_append_of_pos hrev]
  simp

end ClusterManager.Delimited
