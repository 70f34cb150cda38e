/-
# What storing a wallpaper changes

`store_wallpaper` writes the image and then, depending on the desktop, two settings, or it starts a
program; nothing is undone when a later step fails.  All this is interpreted here on a desktop with
files, settings and programs that were started, and the desktop that a failed call leaves behind is
described exactly (`store_failed`).
-/
import Mathlib.Logic.Function.Basic
import XappPortal.Wallpaper.Requests

namespace XappPortal.Wallpaper

open XappPortal

/-- A settings key, with its schema. -/
abbrev Key := String × String

/-- The files and the settings of the user, and the programs that have been started.  What a program
does afterwards is not part of it, so that nothing is known of the wallpaper that Xfce shows. -/
@[ext] structure Desktop where
  files : String → Option Bytes
  strings : Key → String
  enums : Key → ℤ
  /-- The arguments of the programs that have been started, in order. -/
  started : List (List String)

/-- The effect of a message.  A file that cannot be written and a key that is not writable keep
their contents, and a program that cannot be spawned is not started. -/
def Desktop.apply (d : Desktop) : Message → Desktop
  | .setContents path contents ok =>
      if ok then { d with files := Function.update d.files path (some contents) } else d
  | .setString schema key value ok =>
      if ok then { d with strings := Function.update d.strings (schema, key) value } else d
  | .setEnum schema key value ok =>
      if ok then { d with enums := Function.update d.enums (schema, key) value } else d
  | .spawn argv ok => if ok then { d with started := d.started ++ [argv] } else d
  | .loadContents _ | .completeSetWallpaperUri _ | .completeClose => d

/-- The effects of several messages. -/
def Desktop.applyAll (d : Desktop) (out : List Message) : Desktop := out.foldl Desktop.apply d

@[simp] lemma Desktop.applyAll_nil (d : Desktop) : d.applyAll [] = d := rfl

@[simp] lemma Desktop.applyAll_cons (d : Desktop) (m : Message) (out : List Message) :
    d.applyAll (m :: out) = (d.apply m).applyAll out := rfl

/-- The desktop after `store_wallpaper`. -/
def Desktop.store (d : Desktop) (mode : String) (env : Environment)
    (handle : WallpaperDialogHandle) : Desktop :=
  d.applyAll (storeWallpaper mode env handle).2

/-- The picture key that `set_gsettings` writes, with its value, if that write succeeds. -/
def pictureWritten (mode : String) (env : Environment) : Option (Key × String) :=
  match env.uri with
  | none => none
  | some uri =>
      if env.native = false ∨ env.stringSet = false then none
      else if cinnamonMode mode then some (("org.cinnamon.desktop.background", "picture-uri"), uri)
      else if mateMode mode then some (("org.mate.background", "picture-filename"), env.path)
      else none

/-- The desktop with a new background file, and with the picture key if it was written. -/
def Desktop.halfStored (d : Desktop) (mode : String) (env : Environment) (image : Bytes) :
    Desktop :=
  { d with
    files := Function.update d.files (backgroundPath env.userConfigDir) (some image)
    strings := match pictureWritten mode env with
      | none => d.strings
      | some (key, value) => Function.update d.strings key value }

section Store

variable {mode : String} {env : Environment} {handle : WallpaperDialogHandle} {d : Desktop}

/-- A failure of `set_gsettings` leaves at most the picture key behind. -/
lemma applyAll_setGsettings_failed {uri : String} (huri : env.uri = some uri)
    (h : (setGsettings mode uri env).1 = false) :
    d.applyAll (setGsettings mode uri env).2 = { d with
      strings := match pictureWritten mode env with
        | none => d.strings
        | some (key, value) => Function.update d.strings key value } := by
  rw [pictureWritten, huri]
  rw [setGsettings] at h ⊢
  cases hnative : env.native with
  | false => simp
  | true =>
    -- the picture key is written, and then the options key is refused
    have hwrite : ∀ schema key value zoomed,
        (setBackground schema key value zoomed env).1 = false →
        d.applyAll (setBackground schema key value zoomed env).2 = if env.stringSet then
          { d with strings := Function.update d.strings (schema, key) value } else d := by
      intro schema key value zoomed hfail
      rw [setBackground] at hfail ⊢
      cases hstring : env.stringSet with
      | false => simp [Desktop.apply]
      | true =>
        have henum : env.enumSet = false := by simpa [hstring] using hfail
        simp [Desktop.apply, henum]
    simp only [hnative, Bool.not_true, Bool.false_eq_true, if_false] at h ⊢
    by_cases hcinnamon : cinnamonMode mode = true
    · rw [if_pos hcinnamon] at h ⊢
      rw [hwrite _ _ _ _ h]
      cases hstring : env.stringSet <;> simp [hcinnamon]
    · rw [if_neg hcinnamon] at h ⊢
      by_cases hmate : mateMode mode = true
      · rw [if_pos hmate] at h ⊢
        rw [hwrite _ _ _ _ h]
        cases hstring : env.stringSet <;> simp [hcinnamon, hmate]
      · rw [if_neg hmate] at h ⊢
        -- the program could not be spawned, or there is none for the mode
        by_cases hxfce : xfceMode mode = true
        · rw [if_pos hxfce] at h ⊢
          have hspawned : env.spawned = false := h
          simp [Desktop.apply, hspawned, hcinnamon, hmate]
        · rw [if_neg hxfce]
          simp [hcinnamon, hmate]

/-- The closed form of a failure. -/
lemma store_of_failed (h : (storeWallpaper mode env handle).1 ≠ 0) :
    d.store mode env handle
      = if env.stored then d.halfStored mode env (handle.image.getD []) else d := by
  rw [Desktop.store]
  rw [storeWallpaper] at h ⊢
  cases hstored : env.stored with
  | false => simp [Desktop.apply]
  | true =>
    simp only [hstored, Bool.not_true, Bool.false_eq_true, if_false] at h ⊢
    cases huri : env.uri with
    | none => simp [Desktop.apply, Desktop.halfStored, pictureWritten, huri]
    | some uri =>
      have hfail : (setGsettings mode uri env).1 = false := by
        cases hok : (setGsettings mode uri env).1 with
        | false => rfl
        | true => simp [huri, hok] at h
      simp only [Desktop.applyAll_cons, applyAll_setGsettings_failed huri hfail]
      simp [Desktop.apply, Desktop.halfStored]

/-- A new file and a written key are the desktop from before only if they hold what was there. -/
lemma halfStored_eq_iff {image : Bytes} :
    d.halfStored mode env image = d ↔
      d.files (backgroundPath env.userConfigDir) = some image ∧
      ∀ key value, pictureWritten mode env = some (key, value) → d.strings key = value := by
  have hsplit : d.halfStored mode env image = d ↔
      (d.halfStored mode env image).files = d.files ∧
        (d.halfStored mode env image).strings = d.strings := by
    rw [Desktop.ext_iff]
    exact and_congr_right fun _ => and_iff_left ⟨rfl, rfl⟩
  rw [hsplit]
  refine and_congr ?_ ?_
  · rw [Desktop.halfStored, Function.update_eq_self_iff]
    exact eq_comm
  · rw [Desktop.halfStored]
    cases hwritten : pictureWritten mode env with
    | none => simp
    | some written =>
      obtain ⟨key, value⟩ := written
      simp only [Function.update_eq_self_iff, Option.some.injEq, Prod.mk.injEq]
      constructor
      · rintro rfl key' value' ⟨rfl, rfl⟩
        rfl
      · exact fun h => (h key value ⟨rfl, rfl⟩).symm

end Store

/-- **What a failed `store_wallpaper` leaves behind**: nothing if the file could not be written, and
otherwise the new file, with the picture key if that was written; the options key never changes, and
no program has been started.
So the desktop is as before only if these writes have changed nothing. -/
theorem store_failed (mode : String) (env : Environment) (handle : WallpaperDialogHandle)
    (d : Desktop) (h : (storeWallpaper mode env handle).1 ≠ 0) :
    d.store mode env handle
      = (if env.stored then d.halfStored mode env (handle.image.getD []) else d) ∧
    (d.store mode env handle = d ↔ (env.stored = true →
      d.files (backgroundPath env.userConfigDir) = some (handle.image.getD []) ∧
      ∀ key value, pictureWritten mode env = some (key, value) → d.strings key = value)) := by
  have hstore := store_of_failed (d := d) h
  refine ⟨hstore, ?_⟩
  rw [hstore]
  cases env.stored with
  | false => simp
  | true => simpa using halfStored_eq_iff

/-- The options key is refused after the picture key has been written. -/
theorem store_failed_options :
    (Desktop.store ⟨fun _ => none, fun _ => "old", fun _ => 0, []⟩ "cinnamon"
        ⟨"/c", true, some "file:///c/background", true, "/c/background", true, false, false, none⟩
        ⟨⟨false⟩, none, none, some [1], false, 0⟩).strings
      ("org.cinnamon.desktop.background", "picture-uri") = "file:///c/background" := by
  have hleft := (store_failed "cinnamon"
    ⟨"/c", true, some "file:///c/background", true, "/c/background", true, false, false, none⟩
    ⟨⟨false⟩, none, none, some [1], false, 0⟩ ⟨fun _ => none, fun _ => "old", fun _ => 0, []⟩
    (by decide)).1
  rw [hleft]
  decide

/-- The picture key is refused, and the new file stays. -/
theorem not_store_failed_unchanged : ¬ ∀ (mode : String) (env : Environment)
    (handle : WallpaperDialogHandle) (d : Desktop),
    (storeWallpaper mode env handle).1 ≠ 0 → d.store mode env handle = d := by
  intro h
  have hsame := h "cinnamon"
    ⟨"/c", true, some "file:///c/background", true, "/c/background", false, false, false, none⟩
    ⟨⟨false⟩, none, none, some [1], false, 0⟩ ⟨fun _ => none, fun _ => "old", fun _ => 0, []⟩
    (by decide)
  have hfile := congrFun (congrArg Desktop.files hsame) "/c/background"
  exact absurd hfile (by decide)

end XappPortal.Wallpaper
