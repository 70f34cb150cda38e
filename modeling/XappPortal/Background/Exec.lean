/-
# What an autostart entry launches

The `Exec` value of a desktop entry is read back in two steps: its field codes are expanded, and
the result is split into words.  `flatpak_quote_argv` writes every argument as a word that spells
it, except that an empty argument is written as nothing; and the field codes are not escaped at all.
So the entry launches the command line it was written for when no argument is empty or has a
percent sign, and not otherwise (`autostart_launches_iff`).
-/
import XappPortal.Background.Autostart

namespace XappPortal.Background

open XappPortal.Lib Lib.Shell

/-! ## Reading the `Exec` value -/

/-- The byte that begins a field code. -/
def percent : UInt8 := 37

/-- The expansion of the field codes: `%%` is a percent sign, and what another code stands for is
given. -/
def expandFieldCodes (subst : UInt8 → List UInt8) : List UInt8 → List UInt8
  | [] => []
  | [c] => [c]
  | c :: d :: s =>
      if c = percent then
        (if d = percent then [percent] else subst d) ++ expandFieldCodes subst s
      else c :: expandFieldCodes subst (d :: s)

/-- Whatever the field codes stand for, the `Exec` value launches the command line. -/
def Launches (exec : List UInt8) (commandline : List (List UInt8)) : Prop :=
  ∀ subst, parseArgv (expandFieldCodes subst exec) = some commandline

lemma expandFieldCodes_of_notMem (subst : UInt8 → List UInt8) {s : List UInt8}
    (h : percent ∉ s) : expandFieldCodes subst s = s := by
  induction s with
  | nil => rfl
  | cons c s ih =>
    rw [List.mem_cons, not_or] at h
    cases s with
    | nil => rfl
    | cons d s => rw [expandFieldCodes, if_neg (Ne.symm h.1), ih h.2]

/-- A percent sign never becomes two when the other field codes are removed. -/
lemma count_expandFieldCodes_le (s : List UInt8) :
    (expandFieldCodes (fun _ => []) s).count percent ≤ s.count percent := by
  induction s using expandFieldCodes.induct with
  | case1 => exact Nat.le_refl _
  | case2 c => exact Nat.le_refl _
  | case3 d s ih =>
    rw [expandFieldCodes, if_pos rfl]
    by_cases hd : d = percent <;> simp [hd] <;> omega
  | case4 c d s hc ih =>
    rw [expandFieldCodes, if_neg hc, List.count_cons, List.count_cons]
    omega

/-- A field code loses its percent sign. -/
lemma count_expandFieldCodes_lt {s : List UInt8} (h : percent ∈ s)
    (hlast : s.getLast? ≠ some percent) :
    (expandFieldCodes (fun _ => []) s).count percent < s.count percent := by
  induction s using expandFieldCodes.induct with
  | case1 => exact absurd h List.not_mem_nil
  | case2 c =>
    obtain rfl := List.mem_singleton.mp h
    exact absurd rfl hlast
  | case3 d s ih =>
    have hrest := count_expandFieldCodes_le s
    rw [expandFieldCodes, if_pos rfl]
    by_cases hd : d = percent <;> simp [hd] <;> omega
  | case4 c d s hc ih =>
    have hmem : percent ∈ d :: s := (List.mem_cons.mp h).resolve_left (Ne.symm hc)
    have hrest := ih hmem (by simpa using hlast)
    rw [expandFieldCodes, if_neg hc, List.count_cons, List.count_cons]
    omega

/-! ## What `flatpak_quote_argv` writes -/

/-- What needs no quoting consists of bytes without a meaning to the shell or in field codes. -/
lemma notMem_of_not_needsQuoting {arg : List UInt8} (h : needsQuoting arg = false) :
    ∀ c ∈ arg, c ∉ percent :: special := by
  have hsafe : ∀ c : UInt8, isAlnum c = true ∨ c ∈ unquotedPunctuation →
      c ∉ percent :: special := by
    intro c hc hspecial
    revert hc
    simp only [special, List.mem_cons, List.not_mem_nil, or_false] at hspecial
    rcases hspecial with rfl | rfl | rfl | rfl | rfl | rfl | rfl | rfl <;> decide
  induction arg with
  | nil => exact fun c hc => absurd hc List.not_mem_nil
  | cons c arg ih =>
    rw [needsQuoting] at h
    split at h
    · exact absurd h (by simp)
    · next hc =>
      intro d hd
      rcases List.mem_cons.mp hd with rfl | hd
      · refine hsafe d ?_
        by_cases hpunct : d ∈ unquotedPunctuation
        · exact Or.inr hpunct
        · simp only [hpunct] at hc
          exact Or.inl (by simpa using hc)
      · exact ih h d hd

@[simp] lemma quoteArg_nil : quoteArg [] = [] := rfl

/-- Every argument but the empty one is written as a word that spells it. -/
lemma spells_quoteArg {arg : List UInt8} (hne : arg ≠ []) : Spells (quoteArg arg) arg := by
  rw [quoteArg]
  split
  · exact spells_quote arg
  · next hneeds =>
    have hplain := notMem_of_not_needsQuoting (by simpa using hneeds)
    exact spells_of_plain hne fun c hc hspecial => hplain c hc (List.mem_cons_of_mem _ hspecial)

lemma quoteArg_ne_nil {arg : List UInt8} : quoteArg arg ≠ [] ↔ arg ≠ [] := by
  rw [quoteArg]
  split
  · next hneeds =>
    refine ⟨fun _ hnil => ?_, fun _ => by simp [quote]⟩
    rw [hnil] at hneeds
    exact absurd hneeds (by decide)
  · exact Iff.rfl

/-- The written command line is split into the arguments that are not empty. -/
lemma parseArgv_flatpakQuoteArgv {argv : List (List UInt8)} (hne : ∃ arg ∈ argv, arg ≠ []) :
    parseArgv (flatpakQuoteArgv argv) = some (argv.filter (· ≠ [])) := by
  have hwords : ∀ arg ∈ argv, quoteArg arg = [] ∨ Spells (quoteArg arg) arg := by
    intro arg _
    by_cases hnil : arg = []
    · exact Or.inl (by rw [hnil, quoteArg_nil])
    · exact Or.inr (spells_quoteArg hnil)
  have hsome : ∃ arg ∈ argv, quoteArg arg ≠ [] := by
    obtain ⟨arg, harg, hne⟩ := hne
    exact ⟨arg, harg, quoteArg_ne_nil.mpr hne⟩
  rw [flatpakQuoteArgv, parseArgv_intercalate hwords hsome]
  simp only [quoteArg_ne_nil]

/-- **The written command line is split into exactly the arguments it was written for, when there
are arguments and none of them is empty**; and only then. -/
theorem flatpakQuoteArgv_round_trip (argv : List (List UInt8)) :
    parseArgv (flatpakQuoteArgv argv) = some argv ↔ argv ≠ [] ∧ ∀ arg ∈ argv, arg ≠ [] := by
  by_cases hne : ∃ arg ∈ argv, arg ≠ []
  · have hargv : argv ≠ [] := by
      obtain ⟨arg, harg, -⟩ := hne
      exact List.ne_nil_of_mem harg
    rw [parseArgv_flatpakQuoteArgv hne, Option.some.injEq, List.filter_eq_self]
    simp [hargv]
  · have hnil : ∀ arg ∈ argv, arg = [] :=
      fun arg harg => not_not.mp fun h => hne ⟨arg, harg, h⟩
    have hnone : parseArgv (flatpakQuoteArgv argv) = none := by
      refine parseArgv_intercalate_nil fun w hw => ?_
      obtain ⟨arg, harg, rfl⟩ := List.mem_map.mp hw
      rw [hnil arg harg, quoteArg_nil]
    rw [hnone]
    refine ⟨fun h => absurd h (by simp), fun ⟨hargv, h⟩ => ?_⟩
    obtain ⟨arg, harg⟩ := List.exists_mem_of_ne_nil argv hargv
    exact absurd (hnil arg harg) (h arg harg)

/-! ## Percent signs -/

lemma count_quoteArg (arg : List UInt8) : (quoteArg arg).count percent = arg.count percent := by
  have hquote : singleQuote ≠ percent ∧ backslash ≠ percent := by decide
  have hescape : ∀ s : List UInt8, (escape s).count percent = s.count percent := by
    intro s
    induction s with
    | nil => rfl
    | cons c s ih =>
      rw [escape]
      split
      · next hc => simp [hc, ih, hquote]
      · rw [List.count_cons, List.count_cons, ih]
  rw [quoteArg]
  split
  · simp [quote, hescape, hquote]
  · rfl

lemma count_flatpakQuoteArgv (argv : List (List UInt8)) :
    (flatpakQuoteArgv argv).count percent = argv.flatten.count percent := by
  induction argv with
  | nil => rfl
  | cons arg argv ih =>
    cases argv with
    | nil => simp [flatpakQuoteArgv, count_quoteArg]
    | cons arg' argv =>
      rw [flatpakQuoteArgv, List.map_cons, List.map_cons, List.intercalate_cons_cons,
        List.flatten_cons, List.count_append, List.count_append, List.count_append,
        count_quoteArg, ← ih]
      rfl

/-- The written command line never ends in the middle of a field code. -/
lemma getLast_flatpakQuoteArgv (argv : List (List UInt8)) :
    (flatpakQuoteArgv argv).getLast? ≠ some percent := by
  have hword : ∀ arg, (quoteArg arg).getLast? ≠ some percent := by
    intro arg
    rw [quoteArg]
    split
    · have hlast : (quote arg).getLast? = some singleQuote := by
        rw [quote, ← List.cons_append, List.getLast?_append]
        rfl
      rw [hlast]
      decide
    · next hneeds =>
      intro hlast
      have hplain := notMem_of_not_needsQuoting (by simpa using hneeds)
      exact hplain percent (List.mem_of_getLast? hlast) (List.mem_cons_self ..)
  induction argv with
  | nil => simp [flatpakQuoteArgv]
  | cons arg argv ih =>
    cases argv with
    | nil => simpa [flatpakQuoteArgv] using hword arg
    | cons arg' argv =>
      rw [flatpakQuoteArgv, List.map_cons, List.map_cons, List.intercalate_cons_cons]
      rw [flatpakQuoteArgv, List.map_cons] at ih
      cases hrest : [space].intercalate (quoteArg arg' :: argv.map quoteArg) with
      | nil => simp [percent, space]
      | cons c s =>
        rw [hrest] at ih
        simpa using ih

/-! ## The command line that is launched -/

/-- What is written launches the command line when no argument is empty or has a percent sign. -/
lemma launches_iff {argv : List (List UInt8)} (hne : ∃ arg ∈ argv, arg ≠ []) :
    Launches (flatpakQuoteArgv argv) argv ↔ ∀ arg ∈ argv, arg ≠ [] ∧ percent ∉ arg := by
  constructor
  · intro h
    have hpercent : percent ∉ argv.flatten := by
      intro hmem
      -- with the field codes removed there are not enough percent signs left
      have hexec : percent ∈ flatpakQuoteArgv argv := by
        rwa [← List.count_pos_iff, count_flatpakQuoteArgv, List.count_pos_iff]
      have hlt := count_expandFieldCodes_lt hexec (getLast_flatpakQuoteArgv argv)
      have hle := count_parseArgv_le (c := percent) (by decide) (h fun _ => [])
      rw [count_flatpakQuoteArgv] at hlt
      omega
    have hexec : percent ∉ flatpakQuoteArgv argv := by
      rwa [← List.count_eq_zero, count_flatpakQuoteArgv, List.count_eq_zero]
    have hparse := h fun _ => []
    rw [expandFieldCodes_of_notMem _ hexec, parseArgv_flatpakQuoteArgv hne, Option.some.injEq,
      List.filter_eq_self] at hparse
    exact fun arg harg => ⟨by simpa using hparse arg harg,
      fun hmem => hpercent (List.mem_flatten_of_mem harg hmem)⟩
  · intro h subst
    have hexec : percent ∉ flatpakQuoteArgv argv := by
      rw [← List.count_eq_zero, count_flatpakQuoteArgv, List.count_eq_zero]
      intro hmem
      obtain ⟨arg, harg, hmem⟩ := List.mem_flatten.mp hmem
      exact (h arg harg).2 hmem
    rw [expandFieldCodes_of_notMem subst hexec, parseArgv_flatpakQuoteArgv hne, Option.some.injEq,
      List.filter_eq_self]
    exact fun arg harg => by simpa using (h arg harg).1

/-- **A successful `EnableAutostart` writes an entry that launches the command line exactly when no
argument is empty or has a percent sign.** -/
theorem autostart_launches_iff (userConfigDir : List UInt8) (n : EnableAutostartCall)
    (env : Environment) (files : Files) (hfirst : ∃ arg ∈ n.commandline.head?, arg ≠ [])
    (hresult : (handleEnableAutostart userConfigDir n env files).1 = true) :
    (∃ entry, (handleEnableAutostart userConfigDir n env files).2
        (autostartFile userConfigDir n.appId) = some (.keyFile entry) ∧
      Launches entry.exec n.commandline) ↔
    ∀ arg ∈ n.commandline, arg ≠ [] ∧ percent ∉ arg := by
  have hne : ∃ arg ∈ n.commandline, arg ≠ [] := by
    obtain ⟨arg, harg, hne⟩ := hfirst
    exact ⟨arg, List.mem_of_mem_head? harg, hne⟩
  rw [handleEnableAutostart_written hresult, ← launches_iff hne]
  constructor
  · rintro ⟨entry, hentry, hlaunches⟩
    obtain rfl := File.keyFile.inj (Option.some.inj hentry)
    exact hlaunches
  · exact fun h => ⟨_, rfl, h⟩

/-- A command line with blanks and quotes. -/
theorem autostart_launches_iff_quoted :
    ∃ entry, (handleEnableAutostart (utf8 "/home/u/.config")
        ⟨utf8 "org.x.App", true, [utf8 "sh", utf8 "-c", utf8 "echo 'it is' >> ~/log"], 0⟩
        ⟨true, true, true⟩ fun _ => none).2
        (autostartFile (utf8 "/home/u/.config") (utf8 "org.x.App")) = some (.keyFile entry) ∧
      Launches entry.exec [utf8 "sh", utf8 "-c", utf8 "echo 'it is' >> ~/log"] :=
  (autostart_launches_iff (utf8 "/home/u/.config")
    ⟨utf8 "org.x.App", true, [utf8 "sh", utf8 "-c", utf8 "echo 'it is' >> ~/log"], 0⟩
    ⟨true, true, true⟩ (fun _ => none) ⟨utf8 "sh", rfl, by decide⟩ rfl).mpr (by decide)

/-- An empty argument is lost. -/
theorem not_autostart_launches : ¬ ∀ (userConfigDir : List UInt8) (n : EnableAutostartCall)
    (env : Environment) (files : Files), (∃ arg ∈ n.commandline.head?, arg ≠ []) →
    (handleEnableAutostart userConfigDir n env files).1 = true →
    ∃ entry, (handleEnableAutostart userConfigDir n env files).2
        (autostartFile userConfigDir n.appId) = some (.keyFile entry) ∧
      Launches entry.exec n.commandline := by
  intro h
  obtain ⟨entry, hentry, hlaunches⟩ := h (utf8 "/home/u/.config")
    ⟨utf8 "org.x.App", true, [utf8 "app", []], 0⟩ ⟨true, true, true⟩ (fun _ => none)
    ⟨utf8 "app", rfl, by decide⟩ rfl
  have hexec : entry.exec = utf8 "app " := by
    rw [handleEnableAutostart_written rfl] at hentry
    obtain rfl := File.keyFile.inj (Option.some.inj hentry)
    decide
  have hparse := hlaunches fun _ => []
  rw [hexec] at hparse
  exact absurd hparse (by decide)

end XappPortal.Background
