/-
# Which files `EnableAutostart` touches

The application id is put into a path as it is.  The part of it up to the last slash leads from the
autostart directory to some directory, and the rest names the file there (`autostartFile_eq`).  So
the file lies directly in the autostart directory exactly when the first part leads back to it, for
instance when the id has no slash at all; and calls for ids with different files commute, given that
their system calls have the same outcomes in either order (`autostart_confined`).
-/
import XappPortal.Background.Autostart

namespace XappPortal.Background

open XappPortal.Lib Lib.Path

/-! ## The file of an application id -/

/-- The part of an application id up to its last slash. -/
def directoryPart (appId : List UInt8) : List UInt8 := appId.rdropWhile (· ≠ slash)

/-- The part of an application id after its last slash. -/
def baseName (appId : List UInt8) : List UInt8 := appId.rtakeWhile (· ≠ slash)

lemma directoryPart_append_baseName (appId : List UInt8) :
    directoryPart appId ++ baseName appId = appId := List.rdropWhile_append_rtakeWhile ..

lemma slash_notMem_baseName (appId : List UInt8) : slash ∉ baseName appId := by
  intro h
  simpa using List.mem_rtakeWhile_imp h

/-- The first part is empty or ends with a slash. -/
lemma directoryPart_cases (appId : List UInt8) :
    directoryPart appId = [] ∨ ∃ p, directoryPart appId = p ++ [slash] := by
  by_cases hnil : directoryPart appId = []
  · exact Or.inl hnil
  · have hlast := List.rdropWhile_last_not (p := (· ≠ slash)) appId hnil
    refine Or.inr ⟨(directoryPart appId).dropLast, ?_⟩
    have hslash : (directoryPart appId).getLast hnil = slash := by
      simpa [directoryPart] using hlast
    rw [← hslash, List.dropLast_append_getLast]

/-- A path that follows the first part is followed from where that leads. -/
lemma resolve_directoryPart_append (dir : List (List UInt8)) (appId q : List UInt8) :
    resolve dir (directoryPart appId ++ q) = resolve (resolve dir (directoryPart appId)) q := by
  rcases directoryPart_cases appId with hnil | ⟨p, hp⟩
  · rw [hnil]
    simp [resolve]
  · rw [hp, List.append_assoc, List.singleton_append, resolve, resolve, resolve,
      components_append_slash, components_append_slash, components_nil, List.append_nil,
      List.foldl_append]

/-- The directory of the autostart entries, by its components. -/
def autostartRoot (userConfigDir : List UInt8) : List (List UInt8) :=
  resolve [] (autostartDir userConfigDir)

/-- Where the file of an application id is. -/
lemma autostartFile_eq (userConfigDir appId : List UInt8) :
    autostartFile userConfigDir appId
      = resolve (autostartRoot userConfigDir) (directoryPart appId)
        ++ [desktopFile (baseName appId)] := by
  have hname : slash ∉ utf8 ".desktop" := by decide
  have hlength : (utf8 ".desktop").length = 8 := rfl
  have hslash : slash ∉ desktopFile (baseName appId) := by
    intro h
    rcases List.mem_append.mp h with h | h
    · exact slash_notMem_baseName appId h
    · exact hname h
  have hlong : ∀ l : List UInt8, l.length < 8 → desktopFile (baseName appId) ≠ l := by
    rintro l hl rfl
    rw [desktopFile, List.length_append, hlength] at hl
    omega
  have hpath : desktopFile appId = directoryPart appId ++ desktopFile (baseName appId) := by
    rw [desktopFile, desktopFile, ← List.append_assoc, directoryPart_append_baseName]
  rw [autostartFile, autostartPath, resolve_buildFilename, hpath, resolve_directoryPart_append]
  exact resolve_of_name (p := []) _ (by simp) hslash (hlong _ (by simp)) (hlong _ (by simp))
    (hlong _ (by simp))

lemma desktopFile_injective : Function.Injective desktopFile :=
  fun _ _ h => List.append_cancel_right h

/-! ## Frame -/

section Frame

variable {userConfigDir : List UInt8} {n n' : EnableAutostartCall} {env env' : Environment}
  {files : Files}

/-- The result of a call does not depend on the files, and the file of its application id is the
only one that it can change. -/
lemma handleEnableAutostart_eq (userConfigDir : List UInt8) (n : EnableAutostartCall)
    (env : Environment) :
    ∃ (result : Bool) (file : Option (Option File)), ∀ files,
      handleEnableAutostart userConfigDir n env files = (result,
        file.elim files (Function.update files (autostartFile userConfigDir n.appId))) := by
  cases hn : n.enable with
  | true =>
    by_cases hok : env.dirsMade = true ∧ env.saved = true
    · refine ⟨true, some (some (.keyFile (autostartEntry n))), fun files => ?_⟩
      simp [handleEnableAutostart, hn, hok.1, hok.2]
    · refine ⟨false, none, fun files => ?_⟩
      by_cases hdirs : env.dirsMade = true
      · have hsaved : env.saved = false := by simpa [hdirs] using hok
        simp [handleEnableAutostart, hn, hdirs, hsaved]
      · simp [handleEnableAutostart, hn, hdirs]
  | false =>
    cases hunlink : env.unlinked with
    | true => exact ⟨false, some none, fun files => by simp [handleEnableAutostart, hn, hunlink]⟩
    | false => exact ⟨false, none, fun files => by simp [handleEnableAutostart, hn, hunlink]⟩

lemma handleEnableAutostart_of_ne {file : List (List UInt8)}
    (h : file ≠ autostartFile userConfigDir n.appId) :
    (handleEnableAutostart userConfigDir n env files).2 file = files file := by
  obtain ⟨result, written, heq⟩ := handleEnableAutostart_eq userConfigDir n env
  rw [heq]
  cases written with
  | none => rfl
  | some written => exact Function.update_of_ne h ..

lemma handleEnableAutostart_comm
    (h : autostartFile userConfigDir n.appId ≠ autostartFile userConfigDir n'.appId) :
    (handleEnableAutostart userConfigDir n' env'
        (handleEnableAutostart userConfigDir n env files).2).2
      = (handleEnableAutostart userConfigDir n env
        (handleEnableAutostart userConfigDir n' env' files).2).2 := by
  obtain ⟨result, written, heq⟩ := handleEnableAutostart_eq userConfigDir n env
  obtain ⟨result', written', heq'⟩ := handleEnableAutostart_eq userConfigDir n' env'
  simp only [heq, heq']
  cases written with
  | none => rfl
  | some written =>
    cases written' with
    | none => rfl
    | some written' => exact Function.update_comm h ..

end Frame

/-! ## Confinement -/

/-- The file lies directly in the directory. -/
def DirectChild (dir file : List (List UInt8)) : Prop := ∃ name, file = dir ++ [name]

/-- What the calls of `EnableAutostart` do to the files, for all application ids. -/
structure AutostartConfined (userConfigDir : List UInt8) : Prop where
  /-- A call touches the file of its application id only. -/
  touches : ∀ n env files file,
    (handleEnableAutostart userConfigDir n env files).2 file ≠ files file →
    file = autostartFile userConfigDir n.appId
  /-- That file lies in the autostart directory if and only if the first part of the id leads back
  to it. -/
  directChild_iff : ∀ appId,
    DirectChild (autostartRoot userConfigDir) (autostartFile userConfigDir appId) ↔
      resolve (autostartRoot userConfigDir) (directoryPart appId) = autostartRoot userConfigDir
  /-- Two ids have the same file if and only if they name the same entry of the same directory. -/
  sameFile_iff : ∀ appId appId',
    autostartFile userConfigDir appId = autostartFile userConfigDir appId' ↔
      resolve (autostartRoot userConfigDir) (directoryPart appId)
        = resolve (autostartRoot userConfigDir) (directoryPart appId') ∧
      baseName appId = baseName appId'
  /-- Without slashes the file lies in the autostart directory, and it is another one for every
  id. -/
  slashFree : ∀ appId, slash ∉ appId →
    DirectChild (autostartRoot userConfigDir) (autostartFile userConfigDir appId) ∧
    ∀ appId', slash ∉ appId' → appId ≠ appId' →
      autostartFile userConfigDir appId ≠ autostartFile userConfigDir appId'
  /-- Calls for ids with different files commute and give the same results in either order, when
  the system calls of each have the same outcomes in either order. -/
  commute : ∀ n n' env env' files,
    autostartFile userConfigDir n.appId ≠ autostartFile userConfigDir n'.appId →
    (handleEnableAutostart userConfigDir n' env'
        (handleEnableAutostart userConfigDir n env files).2).2
      = (handleEnableAutostart userConfigDir n env
        (handleEnableAutostart userConfigDir n' env' files).2).2 ∧
    (handleEnableAutostart userConfigDir n' env'
        (handleEnableAutostart userConfigDir n env files).2).1
      = (handleEnableAutostart userConfigDir n' env' files).1

section Files

variable (userConfigDir : List UInt8)

lemma directChild_iff (appId : List UInt8) :
    DirectChild (autostartRoot userConfigDir) (autostartFile userConfigDir appId) ↔
      resolve (autostartRoot userConfigDir) (directoryPart appId)
        = autostartRoot userConfigDir := by
  rw [autostartFile_eq]
  constructor
  · rintro ⟨name, h⟩
    exact (List.append_inj' h rfl).1
  · intro h
    exact ⟨desktopFile (baseName appId), by rw [h]⟩

lemma sameFile_iff (appId appId' : List UInt8) :
    autostartFile userConfigDir appId = autostartFile userConfigDir appId' ↔
      resolve (autostartRoot userConfigDir) (directoryPart appId)
        = resolve (autostartRoot userConfigDir) (directoryPart appId') ∧
      baseName appId = baseName appId' := by
  rw [autostartFile_eq, autostartFile_eq]
  constructor
  · intro h
    obtain ⟨hdir, hname⟩ := List.append_inj' h rfl
    exact ⟨hdir, desktopFile_injective (List.singleton_injective hname)⟩
  · rintro ⟨hdir, hname⟩
    rw [hdir, hname]

lemma parts_of_slashFree {appId : List UInt8} (h : slash ∉ appId) :
    directoryPart appId = [] ∧ baseName appId = appId := by
  have hnil : directoryPart appId = [] := by
    rcases directoryPart_cases appId with hnil | ⟨p, hp⟩
    · exact hnil
    · have hmem : slash ∈ directoryPart appId ++ baseName appId := by simp [hp]
      rw [directoryPart_append_baseName] at hmem
      exact absurd hmem h
  have hparts := directoryPart_append_baseName appId
  rw [hnil, List.nil_append] at hparts
  exact ⟨hnil, hparts⟩

end Files

/-- **`EnableAutostart` is confined to the file of its application id**, which lies in the autostart
directory if and only if the id does not lead out of it; and calls for ids with different files
commute, given the outcomes of their system calls. -/
theorem autostart_confined (userConfigDir : List UInt8) : AutostartConfined userConfigDir where
  touches n env files file h := by
    by_contra hne
    exact h (handleEnableAutostart_of_ne hne)
  directChild_iff := directChild_iff userConfigDir
  sameFile_iff := sameFile_iff userConfigDir
  slashFree appId h := by
    obtain ⟨hnil, hbase⟩ := parts_of_slashFree h
    refine ⟨(directChild_iff userConfigDir appId).mpr (by rw [hnil]; simp [resolve]), ?_⟩
    intro appId' h' hne hsame
    have hnames := ((sameFile_iff userConfigDir appId appId').mp hsame).2
    rw [hbase, (parts_of_slashFree h').2] at hnames
    exact hne hnames
  commute n n' env env' files h := by
    refine ⟨handleEnableAutostart_comm h, ?_⟩
    obtain ⟨result', written', heq'⟩ := handleEnableAutostart_eq userConfigDir n' env'
    rw [heq', heq']

/-- The id `../evil` names a file outside the autostart directory, and the ids `a` and `/a` name the
same file. -/
theorem not_autostart_confined :
    (¬ ∀ (userConfigDir : List UInt8) (n : EnableAutostartCall) (env : Environment)
      (files : Files) (file : List (List UInt8)),
      (handleEnableAutostart userConfigDir n env files).2 file ≠ files file →
      DirectChild (autostartRoot userConfigDir) file) ∧
    ¬ ∀ (userConfigDir appId appId' : List UInt8), appId ≠ appId' →
      autostartFile userConfigDir appId ≠ autostartFile userConfigDir appId' := by
  constructor
  · intro h
    obtain ⟨name, hname⟩ := h (utf8 "/c") ⟨utf8 "../evil", true, [utf8 "sh"], 0⟩
      ⟨true, true, true⟩ (fun _ => none) [utf8 "c", utf8 "evil.desktop"] (by decide)
    have hroot : autostartRoot (utf8 "/c") = [utf8 "c", utf8 "autostart"] := by decide
    rw [hroot] at hname
    exact absurd (congrArg List.length hname) (by simp)
  · intro h
    exact h (utf8 "/c") (utf8 "a") (utf8 "/a") (by decide) (by decide)

end XappPortal.Background
