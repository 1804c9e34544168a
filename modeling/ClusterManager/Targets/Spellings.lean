import ClusterManager.Targets.Policy
import ClusterManager.Targets.Texts

/-!
# The spellings of a denied address

An entry of a host list is read twice: the gate judges its host, and the driver dials it. What the
gate judges is the host the driver gets, less the white space and the brackets around it. So an
address it denies is refused however it is spelled, with one exception: what is cut off may be the
whole scope of an address of version 6, and the text that is left is of no address.
-/

namespace ClusterManager.Targets

open Clients IpAddress Str

/-- The host of an entry. -/
def hostPart : Str → Str
  | '[' :: rest => rest.takeWhile (· ≠ ']')
  | entry => if 2 ≤ entry.count ':' then entry else entry.takeWhile (· ≠ ':')

/-- The gate lets a host pass. -/
def Passes (host : Str) : Prop := isBlockedTarget false host = .ok false

/-- No list that holds the entry passes. -/
def Refuses (entry : Str) : Prop :=
  ∀ (hosts : List String) (port : ℕ), String.ofList entry ∈ hosts →
    ∃ e, assertTargetsAllowed false hosts port = .error e

/-- The text ends in a scope of nothing but white space. -/
def ScopeIsBlank (text : Str) : Prop :=
  '%' ∈ text ∧ (text.partition '%').2.2.all isSpace = true

/-! ### Entries -/

theorem hostPart_of_head {entry : Str} (h : entry.head? ≠ some '[') :
    hostPart entry = if 2 ≤ entry.count ':' then entry else entry.takeWhile (· ≠ ':') := by
  unfold hostPart
  split
  · exact (h rfl).elim
  · rfl

/-- The port takes no part in what the host is. -/
theorem parseHostPort_fst (entry : Str) (port : ℤ) :
    (parseHostPort entry port).1 = hostPart entry := by
  unfold parseHostPort
  split
  · rename_i rest
    have hhost := partition_fst ']' rest
    dsimp only
    split
    · exact hhost
    · exact hhost
  · rename_i hbracket
    have hhead : entry.head? ≠ some '[' := by
      intro h
      obtain ⟨rest, hrest⟩ := List.head?_eq_some_iff.1 h
      exact hbracket rest hrest
    rw [hostPart_of_head hhead]
    by_cases hcount : 2 ≤ entry.count ':'
    · rw [if_pos hcount, if_pos hcount]
    · rw [if_neg hcount, if_neg hcount, ← partition_fst]
      split
      · rename_i hfound
        rw [hfound]
      · rename_i hmissing
        by_cases hm : ':' ∈ entry
        · obtain ⟨a, b, rfl, ha⟩ := Str.eq_of_mem hm
          exact (hmissing _ _ (Str.partition_append ha)).elim
        · rw [Str.partition_of_not_mem hm]

/-- The gate decides on the host of every entry, and on nothing else. -/
theorem assertTargetsAllowed_iff {hosts : List String} {port : ℕ} :
    assertTargetsAllowed false hosts port = .ok () ↔
      ∀ entry ∈ hosts, Passes (hostPart entry.toList) := by
  induction hosts with
  | nil => exact iff_of_true rfl (by simp)
  | cons entry hosts ih =>
    rw [List.forall_mem_cons, ← ih, assertTargetsAllowed, parseHostPort_fst, Passes]
    rcases isBlockedTarget false (hostPart entry.toList) with e | blocked
    · exact iff_of_false (fun h => by cases h) fun h => by cases h.1
    · cases blocked
      · exact ⟨fun h => ⟨rfl, h⟩, And.right⟩
      · exact iff_of_false (fun h => by cases h) fun h => by cases h.1

theorem refuses_iff {entry : Str} :
    Refuses entry ↔ ¬Passes (hostPart entry) := by
  constructor
  · intro h hpasses
    obtain ⟨e, he⟩ := h [String.ofList entry] 0 (by simp)
    have hok : assertTargetsAllowed false [String.ofList entry] 0 = .ok () := by
      rw [assertTargetsAllowed_iff]
      simpa using hpasses
    rw [hok] at he
    cases he
  · intro h hosts port hmem
    cases hgate : assertTargetsAllowed false hosts port with
    | error e => exact ⟨e, rfl⟩
    | ok _ =>
      have := assertTargetsAllowed_iff.1 hgate _ hmem
      rw [String.toList_ofList] at this
      exact (h this).elim

/-! ### Hosts -/

/-- What is cut off the end of two texts is cut off the second, if the first ends in nothing that
is. -/
theorem rdropWhile_append {p : Char → Bool} {a b : Str} (ha : ∀ c ∈ a, p c = false) :
    (a ++ b).rdropWhile p = a ++ b.rdropWhile p := by
  induction b using List.reverseRecOn with
  | nil =>
    rw [List.append_nil, List.rdropWhile_nil, List.append_nil, List.rdropWhile_eq_self_iff]
    intro hne
    simp [ha _ (List.getLast_mem hne)]
  | append_singleton b c ih =>
    rw [← List.append_assoc]
    by_cases hc : p c = true
    · rw [List.rdropWhile_concat_pos p _ c hc, List.rdropWhile_concat_pos p _ c hc, ih]
    · rw [List.rdropWhile_concat_neg p _ c hc, List.rdropWhile_concat_neg p _ c hc,
        List.append_assoc]

theorem strip_append {a b : Str} (ha : NoSpace a) (hne : a ≠ []) :
    strip (a ++ b) = a ++ b.rdropWhile isSpace := by
  have hhead : (a ++ b).dropWhile isSpace = a ++ b := by
    obtain ⟨c, a, rfl⟩ := List.exists_cons_of_ne_nil hne
    rw [List.cons_append, List.dropWhile_cons_of_neg (by simp [ha c (by simp)])]
  rw [strip, hhead, rdropWhile_append ha]

/-- A host that begins like an address is judged without the white space after it. -/
theorem isBlockedTarget_append {a b : Str} (ha : ∀ c ∈ a, IsIpChar c) (hne : a ≠ []) :
    isBlockedTarget false (a ++ b) =
      (parseIpLiteral (a ++ b.rdropWhile isSpace)).map fun ip => ip.any IpAddress.isBlocked := by
  have hstrip : strip (a ++ b) = a ++ b.rdropWhile isSpace :=
    strip_append (fun c hc => not_isSpace_of_isIpChar (ha c hc)) hne
  obtain ⟨c, a, rfl⟩ := List.exists_cons_of_ne_nil hne
  have hbracket : unbracketed (c :: a ++ b.rdropWhile isSpace) =
      c :: a ++ b.rdropWhile isSpace := by
    rw [unbracketed, if_neg]
    rintro ⟨hc, -⟩
    exact (ne_of_isIpChar (ha c (by simp))).1 (Option.some.inj hc)
  rw [isBlockedTarget, hstrip, hbracket]
  simp

/-! ### Version 4 -/

/-- A number begins a spelling of an address of version 4, and white space ends the number. -/
structure Spelling4 (v : ℕ) (number rest : Str) : Prop where
  number : inetAtonExact number = some v
  rest : ∀ c ∈ rest.head?, isCSpace c = true

theorem Spelling4.isIpChar {v : ℕ} {number rest : Str} (h : Spelling4 v number rest) :
    ∀ c ∈ number, IsIpChar c :=
  fun c hc => Or.inr (isNumeric_of_mem_inetAtonExact h.number c hc)

theorem Spelling4.colon {v : ℕ} {number rest : Str} (h : Spelling4 v number rest) :
    ':' ∉ number := by
  intro hin
  have := inetAtonExact_of_colon hin
  rw [h.number] at this
  cases this

theorem Spelling4.ne_nil {v : ℕ} {number rest : Str} (h : Spelling4 v number rest) :
    number ≠ [] := by
  rintro rfl
  have hnone : inetAtonExact [] = none := by decide
  rw [h.number] at hnone
  cases hnone

/-- What is left of the rest still begins with white space, or there is nothing left. -/
theorem Spelling4.cut {v : ℕ} {number rest rest' : Str} (h : Spelling4 v number rest)
    (hbegins : rest' <+: rest) : Spelling4 v number rest' := by
  refine ⟨h.number, ?_⟩
  intro c hc
  obtain ⟨tail, rfl⟩ := hbegins
  refine h.rest c ?_
  obtain ⟨rest', rfl⟩ := List.head?_eq_some_iff.1 hc
  rfl

/-- No address of version 6 begins with a number and white space. -/
theorem Spelling4.not_prefix {v w : ℕ} {number rest addr tail : Str} (h : Spelling4 v number rest)
    (haddr : ipv6FromString addr = some w) : number ++ rest ≠ addr ++ tail := by
  intro heq
  have hcolon := colon_mem_of_ipv6FromString haddr
  rcases List.append_eq_append_iff.1 heq with ⟨more, rfl, rfl⟩ | ⟨more, rfl, -⟩
  · cases more with
    | nil =>
      rw [List.append_nil] at hcolon
      exact h.colon hcolon
    | cons c more =>
      have hspace := h.rest c rfl
      rw [not_isCSpace_of_isIpChar (isIpChar_of_ipv6FromString haddr c (by simp))] at hspace
      cases hspace
  · exact h.colon (List.mem_append_left _ hcolon)

/-- Whatever `ipaddress` makes of such a text, it is the address of the number. -/
theorem Spelling4.parse {v : ℕ} {number rest : Str} (h : Spelling4 v number rest)
    {ip : Option IpAddress} (hip : parseIpLiteral (number ++ rest) = .ok ip) :
    ip = some (.v4 v) := by
  have haton : inetAton (number ++ rest) = some v := inetAton_append h.number h.rest
  unfold parseIpLiteral at hip
  split at hip
  · rename_i ip' hread
    cases hip
    rcases ipAddress_cases hread with ⟨w, rfl, hw⟩ | ⟨w, addr, -, haddr, htext⟩
    · have hexact := inetAtonExact_of_ipv4FromString hw
      have hsame := @inetAton_append w _ [] hexact (by simp)
      rw [List.append_nil, haton] at hsame
      cases hsame
      rfl
    · rcases htext with htext | ⟨scope, htext, -⟩
      · exact (h.not_prefix haddr (htext.trans (List.append_nil _).symm)).elim
      · exact (h.not_prefix haddr htext).elim
  · split_ifs at hip
    rw [haton] at hip
    cases hip
    rfl

/-- No spelling of a denied address of version 4 passes. -/
theorem Spelling4.not_passes {v : ℕ} {number rest : Str} (h : Spelling4 v number rest)
    (hblocked : (IpAddress.v4 v).isBlocked = true) : ¬Passes (number ++ rest) := by
  rw [Passes, isBlockedTarget_append h.isIpChar h.ne_nil]
  have hcut := h.cut (List.rdropWhile_prefix isSpace rest)
  cases hparse : parseIpLiteral (number ++ rest.rdropWhile isSpace) with
  | error e =>
    intro hpass
    cases hpass
  | ok ip =>
    rw [hcut.parse hparse]
    intro hpass
    have hfalse : (some (IpAddress.v4 v)).any IpAddress.isBlocked = false := Except.ok.inj hpass
    simp [hblocked] at hfalse

/-! ### Version 6 -/

/-- An address of version 6, and perhaps a scope, which may be empty. -/
inductive Spelling6 (v : ℕ) : Str → Prop
  | bare (addr : Str) : ipv6FromString addr = some v → Spelling6 v addr
  | withScope (addr scope : Str) : ipv6FromString addr = some v → '%' ∉ scope → '/' ∉ scope →
      Spelling6 v (addr ++ '%' :: scope)

theorem percent_not_mem {addr : Str} {v : ℕ} (h : ipv6FromString addr = some v) : '%' ∉ addr :=
  fun hin => (ne_of_isIpChar (isIpChar_of_ipv6FromString h _ hin)).2.2.2.1 rfl

theorem scopeIsBlank_bare {addr : Str} {v : ℕ} (h : ipv6FromString addr = some v) :
    ¬ScopeIsBlank addr :=
  fun hblank => percent_not_mem h hblank.1

theorem scopeIsBlank_scoped {addr scope : Str} {v : ℕ} (h : ipv6FromString addr = some v) :
    ScopeIsBlank (addr ++ '%' :: scope) ↔ scope.all isSpace = true := by
  rw [ScopeIsBlank, Str.partition_append (percent_not_mem h)]
  simp

/-- Nothing of an address of version 6 is past a bracket, unless it is of the scope. -/
theorem Spelling6.takeWhile {v : ℕ} {text : Str} (h : Spelling6 v text) :
    Spelling6 v (text.takeWhile (· ≠ ']')) := by
  have hbracket : ∀ {addr : Str}, ipv6FromString addr = some v →
      ∀ c ∈ addr, (decide (c ≠ ']')) = true := by
    intro addr haddr c hc
    simpa using (ne_of_isIpChar (isIpChar_of_ipv6FromString haddr c hc)).2.1
  cases h with
  | bare _ haddr =>
    rw [List.takeWhile_eq_self_iff.2 (hbracket haddr)]
    exact .bare _ haddr
  | withScope addr scope haddr hpercent hslash =>
    rw [List.takeWhile_append_of_pos (hbracket haddr), List.takeWhile_cons_of_pos (by simp)]
    have hsub : ∀ c ∈ scope.takeWhile (· ≠ ']'), c ∈ scope :=
      fun c hc => (List.takeWhile_prefix _).mem hc
    exact .withScope _ _ haddr (fun hin => hpercent (hsub _ hin)) fun hin => hslash (hsub _ hin)

theorem Spelling6.two_le_count {v : ℕ} {text : Str} (h : Spelling6 v text) :
    2 ≤ text.count ':' := by
  cases h with
  | bare _ haddr => exact two_le_count_of_ipv6FromString haddr
  | withScope addr scope haddr =>
    rw [List.count_append]
    exact (two_le_count_of_ipv6FromString haddr).trans (Nat.le_add_right _ _)

theorem Spelling6.head {v : ℕ} {text : Str} (h : Spelling6 v text) : text.head? ≠ some '[' := by
  have haddr : ∀ {addr : Str}, ipv6FromString addr = some v → addr.head? ≠ some '[' := by
    intro addr haddr hhead
    exact (ne_of_isIpChar (isIpChar_of_ipv6FromString haddr _ (List.mem_of_head? hhead))).1 rfl
  cases h with
  | bare _ hv => exact haddr hv
  | withScope addr scope hv =>
    have hne := List.ne_nil_of_mem (colon_mem_of_ipv6FromString hv)
    rw [List.head?_append_of_ne_nil _ hne]
    exact haddr hv

/-- Without anything of its scope the text of a scoped address is of no address. -/
theorem parseIpLiteral_percent {addr : Str} {v : ℕ} (h : ipv6FromString addr = some v) :
    parseIpLiteral (addr ++ ['%']) = .ok none := by
  have hchars := isIpChar_of_ipv6FromString h
  have hread : ipAddress (addr ++ ['%']) = none := by
    rw [ipAddress_scoped h (by simp) (by simp), if_pos rfl]
  have hnul : Char.ofNat 0 ∉ addr ++ ['%'] := by
    rw [List.mem_append, List.mem_singleton]
    rintro (hin | hin)
    · exact (ne_of_isIpChar (hchars _ hin)).2.2.2.2 rfl
    · revert hin
      decide
  have hspace : ∀ c ∈ addr ++ ['%'], (!isCSpace c) = true := by
    intro c hc
    rcases List.mem_append.1 hc with hc | hc
    · rw [not_isCSpace_of_isIpChar (hchars c hc)]
      rfl
    · rw [List.mem_singleton.1 hc]
      decide
  have haton : inetAton (addr ++ ['%']) = none := by
    rw [inetAton, List.takeWhile_eq_self_iff.2 hspace]
    exact inetAtonExact_of_colon (List.mem_append_left _ (colon_mem_of_ipv6FromString h))
  rw [parseIpLiteral, hread]
  dsimp only
  rw [if_neg hnul, haton]
  rfl

/-- A spelling of a denied address of version 6 passes exactly where its scope is blank. -/
theorem Spelling6.passes_iff {v : ℕ} {text : Str} (h : Spelling6 v text)
    (hblocked : (IpAddress.v6 v).isBlocked = true) : Passes text ↔ ScopeIsBlank text := by
  cases h with
  | bare _ haddr =>
    have hchars := isIpChar_of_ipv6FromString haddr
    have hne := List.ne_nil_of_mem (colon_mem_of_ipv6FromString haddr)
    have hjudge := @isBlockedTarget_append text [] hchars hne
    rw [List.append_nil, List.rdropWhile_nil, List.append_nil, parseIpLiteral,
      ipAddress_of_ipv6FromString haddr] at hjudge
    refine iff_of_false ?_ (scopeIsBlank_bare haddr)
    rw [Passes, hjudge]
    intro hpass
    have hfalse : (some (IpAddress.v6 v)).any IpAddress.isBlocked = false := Except.ok.inj hpass
    simp [hblocked] at hfalse
  | withScope addr scope haddr hpercent hslash =>
    have hchars := isIpChar_of_ipv6FromString haddr
    have hne := List.ne_nil_of_mem (colon_mem_of_ipv6FromString haddr)
    have hcut : ('%' :: scope).rdropWhile isSpace = '%' :: scope.rdropWhile isSpace :=
      @rdropWhile_append isSpace ['%'] scope (by simp; decide)
    have hsub : ∀ c ∈ scope.rdropWhile isSpace, c ∈ scope :=
      fun c hc => (List.rdropWhile_prefix isSpace scope).mem hc
    rw [Passes, isBlockedTarget_append hchars hne, hcut, scopeIsBlank_scoped haddr]
    by_cases hnil : scope.rdropWhile isSpace = []
    · rw [hnil, parseIpLiteral_percent haddr]
      rw [List.rdropWhile_eq_nil_iff] at hnil
      exact iff_of_true rfl (List.all_eq_true.2 hnil)
    · have hread := ipAddress_scoped haddr (fun hin => hpercent (hsub _ hin))
        fun hin => hslash (hsub _ hin)
      rw [if_neg hnil] at hread
      rw [parseIpLiteral, hread]
      refine iff_of_false ?_ ?_
      · intro hpass
        have hfalse : (some (IpAddress.v6 v)).any IpAddress.isBlocked = false :=
          Except.ok.inj hpass
        simp [hblocked] at hfalse
      · intro hall
        exact hnil (List.rdropWhile_eq_nil_iff.2 (List.all_eq_true.1 hall))

end ClusterManager.Targets
