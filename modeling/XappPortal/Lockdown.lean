/-
# The lockdown portal

The lockdown portal has no methods: `lockdown_init` of `lockdown.c` binds the properties of its
interface to keys of the settings of the desktop, and exports it.  Which keys there are depends on
the schemas that are installed.  A schema or a key that `GSettings` is asked for has to exist, or
the program is aborted; only the keys of the privacy schema are looked up first.

What is bound is the part of a table whose keys exist (`lockdownInit_eq`).  The main result,
`lockdown_in_sync`, says what the properties show while the settings and the properties are written
in any order: a bound property shows what its key holds, or is about to, throughout a run exactly if
a property whose key is locked is only set to the value that it shows or that its key holds, or
while a notification for its key is on its way; and a property that is not bound stays as it is until
it is set.
-/
import XappPortal.Lib.Binding
import XappPortal.Utils

namespace XappPortal.Lockdown

/-! ## The settings -/

/-- A settings key, with its schema. -/
structure Key where
  schema : String
  key : String
deriving DecidableEq

/-- The schemas that are installed, with their keys. -/
abbrev SchemaSource := String → Option (List String)

/-- There is such a schema, and it has the key. -/
def SchemaSource.Has (source : SchemaSource) (k : Key) : Prop :=
  ∃ keys, source k.schema = some keys ∧ k.key ∈ keys

instance (source : SchemaSource) (k : Key) : Decidable (source.Has k) :=
  match h : source k.schema with
  | none => isFalse (by rintro ⟨keys, hkeys, -⟩; rw [h] at hkeys; cases hkeys)
  | some keys => decidable_of_iff (k.key ∈ keys) (by simp [SchemaSource.Has, h])

/-- The flags of `g_settings_bind` that are used. -/
inductive BindFlags where
  /-- `G_SETTINGS_BIND_DEFAULT`. -/
  | default
  /-- `G_SETTINGS_BIND_INVERT_BOOLEAN`. -/
  | invertBoolean

/-- What becomes of a value between a key and a property, in either direction. -/
def BindFlags.mapping : BindFlags → Bool → Bool
  | .default, value => value
  | .invertBoolean, value => !value

lemma BindFlags.mapping_mapping (flags : BindFlags) (value : Bool) :
    flags.mapping (flags.mapping value) = value := by
  cases flags with
  | default => rfl
  | invertBoolean => exact Bool.not_not value

/-- A binding of a property of the lockdown interface. -/
abbrev LockdownBinding := Lib.Binding Key String Bool Bool

/-- The binding with the given flags. -/
def binding (schema key property : String) (flags : BindFlags) : LockdownBinding where
  key := ⟨schema, key⟩
  property := property
  get := flags.mapping
  set := flags.mapping
  get_set := flags.mapping_mapping

/-- `g_settings_new`, where settings are the schema they are for.  There are no settings without a
schema; if the schema is not installed, the program is aborted. -/
def settingsNew (source : SchemaSource) : Option String → Option (Option String)
  | none => some none
  | some schema => if (source schema).isSome then some (some schema) else none

/-- `g_settings_bind`, with the bindings that it makes.  If the schema has no such key, the program
is aborted. -/
def settingsBind (source : SchemaSource) (settings : Option String) (key property : String)
    (flags : BindFlags) : Option (List LockdownBinding) :=
  match settings with
  | none => some []
  | some schema =>
      if source.Has ⟨schema, key⟩ then some [binding schema key property flags] else none

/-! ## Starting the portal -/

/-- The lockdown and the privacy schema of a desktop; Xfce has not got any yet. -/
def schemas (mode : String) : Option (Option String × Option String) :=
  if cinnamonMode mode then
    some (some "org.cinnamon.desktop.lockdown", some "org.cinnamon.desktop.privacy")
  else if mateMode mode then some (some "org.mate.lockdown", some "org.mate.privacy")
  else if xfceMode mode then none
  else some (none, none)

/-- The binding of a privacy key, which need not exist. -/
def bindIfKey (source : SchemaSource) (settings : Option String) (keys : List String)
    (key : String) : Option (List LockdownBinding) :=
  if key ∈ keys then settingsBind source settings key key .default else some []

/-- The bindings of the privacy keys, if there is a privacy schema. -/
def bindPrivacy (source : SchemaSource) (privacySchema : Option String) :
    Option (List LockdownBinding) :=
  match privacySchema.bind source with
  | none => some []
  | some schema => do
      let privacy ← settingsNew source privacySchema
      let camera ← bindIfKey source privacy schema "disable-camera"
      let microphone ← bindIfKey source privacy schema "disable-microphone"
      let soundOutput ← bindIfKey source privacy schema "disable-sound-output"
      some (camera ++ microphone ++ soundOutput)

/-- What `lockdown_init` returns, the bindings it has made, and whether the interface is
exported. -/
structure Outcome where
  ok : Bool
  bound : List LockdownBinding
  exported : Bool

/-- `lockdown_init`, unless the program is aborted. -/
def lockdownInit (mode : String) (source : SchemaSource) (exportOk : Bool) : Option Outcome :=
  match schemas mode with
  | none => some { ok := true, bound := [], exported := false }
  | some (lockdownSchema, privacySchema) => do
      let lockdown ← settingsNew source lockdownSchema
      let printing ← settingsBind source lockdown "disable-printing" "disable-printing" .default
      let saveToDisk ←
        settingsBind source lockdown "disable-save-to-disk" "disable-save-to-disk" .default
      let handlers ← settingsBind source lockdown "disable-application-handlers"
        "disable-application-handlers" .default
      let location ← settingsNew source (some "org.gnome.system.location")
      let enabled ← settingsBind source location "enabled" "disable-location" .invertBoolean
      let privacy ← bindPrivacy source privacySchema
      some
        { ok := exportOk
          bound := printing ++ saveToDisk ++ handlers ++ enabled ++ privacy
          exported := exportOk }

/-! ## The table of the bindings -/

/-- The bindings to the keys that have to exist. -/
def requiredRows (lockdownSchema : Option String) : List LockdownBinding :=
  (match lockdownSchema with
    | none => []
    | some schema =>
        [binding schema "disable-printing" "disable-printing" .default,
          binding schema "disable-save-to-disk" "disable-save-to-disk" .default,
          binding schema "disable-application-handlers" "disable-application-handlers" .default])
    ++ [binding "org.gnome.system.location" "enabled" "disable-location" .invertBoolean]

/-- The bindings to the keys that may be missing. -/
def privacyRows (privacySchema : Option String) : List LockdownBinding :=
  match privacySchema with
  | none => []
  | some schema =>
      [binding schema "disable-camera" "disable-camera" .default,
        binding schema "disable-microphone" "disable-microphone" .default,
        binding schema "disable-sound-output" "disable-sound-output" .default]

/-- The bindings of a mode to the keys that have to exist. -/
def required (mode : String) : List LockdownBinding :=
  ((schemas mode).map fun s => requiredRows s.1).getD []

/-- The bindings of a mode to the keys that may be missing. -/
def privacy (mode : String) : List LockdownBinding :=
  ((schemas mode).map fun s => privacyRows s.2).getD []

/-- The bindings that a mode can make. -/
def rows (mode : String) : List LockdownBinding := required mode ++ privacy mode

variable {mode : String} {source : SchemaSource} {exportOk : Bool} {out : Outcome}

/-- The bindings whose keys exist. -/
def SchemaSource.present (source : SchemaSource) (bindings : List LockdownBinding) :
    List LockdownBinding :=
  bindings.filter (source.Has ·.key)

lemma SchemaSource.Has.schema {k : Key} (h : source.Has k) : (source k.schema).isSome := by
  obtain ⟨keys, hkeys, -⟩ := h
  rw [hkeys]
  rfl

lemma bindIfKey_eq {schema : String} {keys : List String} (h : source schema = some keys)
    (key : String) :
    bindIfKey source (some schema) keys key
      = some (source.present [binding schema key key .default]) := by
  have hhas : source.Has ⟨schema, key⟩ ↔ key ∈ keys := by simp [SchemaSource.Has, h]
  by_cases hkey : key ∈ keys
  · have hp : source.Has (binding schema key key .default).key := hhas.mpr hkey
    simp [bindIfKey, settingsBind, SchemaSource.present, hkey, hhas, hp]
  · have hp : ¬ source.Has (binding schema key key .default).key := mt hhas.mp hkey
    simp [bindIfKey, SchemaSource.present, hkey, hp]

/-- The privacy keys that exist are bound. -/
lemma bindPrivacy_eq (privacySchema : Option String) :
    bindPrivacy source privacySchema = some (source.present (privacyRows privacySchema)) := by
  cases privacySchema with
  | none => rfl
  | some schema =>
    cases h : source schema with
    | none =>
      have hnone : ∀ key, ¬ source.Has ⟨schema, key⟩ := by
        rintro key ⟨keys, hkeys, -⟩
        rw [h] at hkeys
        cases hkeys
      simp [bindPrivacy, h, SchemaSource.present, privacyRows, binding, hnone]
    | some keys =>
      simp only [bindPrivacy, Option.bind_some, h, settingsNew, Option.isSome_some, if_true,
        bindIfKey_eq h, Option.bind_eq_bind, privacyRows]
      rw [SchemaSource.present, SchemaSource.present, SchemaSource.present, ← List.filter_append,
        ← List.filter_append]
      rfl

@[simp] lemma settingsNew_none : settingsNew source none = some none := rfl

@[simp] lemma settingsBind_none (key property : String) (flags : BindFlags) :
    settingsBind source none key property flags = some [] := rfl

/-- Settings for a schema of which a key is bound right away. -/
lemma settingsNew_settingsBind {α : Type} (schema key property : String) (flags : BindFlags)
    (f : Option String → List LockdownBinding → Option α) :
    (settingsNew source (some schema)).bind (fun settings =>
        (settingsBind source settings key property flags).bind (f settings)) =
      if source.Has ⟨schema, key⟩ then f (some schema) [binding schema key property flags]
      else none := by
  by_cases h : source.Has ⟨schema, key⟩
  · have hschema : (source schema).isSome := h.schema
    simp only [settingsNew, settingsBind, hschema, h, if_true, Option.bind_some]
  · rw [if_neg h, settingsNew]
    split
    · simp only [settingsBind, h, if_false, Option.bind_some, Option.bind_none]
    · rfl

lemma settingsBind_bind {α : Type} (schema key property : String) (flags : BindFlags)
    (f : List LockdownBinding → Option α) :
    (settingsBind source (some schema) key property flags).bind f =
      if source.Has ⟨schema, key⟩ then f [binding schema key property flags] else none := by
  rw [settingsBind]
  split <;> rfl

/-- `lockdown_init` binds the part of the table whose keys exist; the program is aborted if one of
the required keys does not. -/
lemma lockdownInit_eq :
    lockdownInit mode source exportOk =
      if ∀ b ∈ required mode, source.Has b.key then
        some
          { ok := (schemas mode).isNone || exportOk
            bound := source.present (rows mode)
            exported := (schemas mode).isSome && exportOk }
      else none := by
  rcases hschemas : schemas mode with _ | ⟨lockdownSchema, privacySchema⟩
  · simp [lockdownInit, hschemas, required, privacy, rows, SchemaSource.present]
  · have hrequired : required mode = requiredRows lockdownSchema := by simp [required, hschemas]
    have hprivacy : privacy mode = privacyRows privacySchema := by simp [privacy, hschemas]
    rw [lockdownInit, hschemas, rows, hrequired, hprivacy]
    have hkey : ∀ schema key property flags,
        (binding schema key property flags).key = ⟨schema, key⟩ := fun _ _ _ _ => rfl
    cases lockdownSchema with
    | none =>
      simp only [Option.bind_eq_bind, settingsNew_none, settingsBind_none, Option.bind_some,
        settingsNew_settingsBind, bindPrivacy_eq]
      by_cases hlocation : source.Has ⟨"org.gnome.system.location", "enabled"⟩
      · simp [requiredRows, SchemaSource.present, hkey, hlocation]
      · simp [requiredRows, hkey, hlocation]
    | some schema =>
      simp only [Option.bind_eq_bind, settingsNew_settingsBind, settingsBind_bind, bindPrivacy_eq,
        Option.bind_some]
      by_cases hprinting : source.Has ⟨schema, "disable-printing"⟩
      · by_cases hsave : source.Has ⟨schema, "disable-save-to-disk"⟩
        · by_cases hhandlers : source.Has ⟨schema, "disable-application-handlers"⟩
          · by_cases hlocation : source.Has ⟨"org.gnome.system.location", "enabled"⟩
            · simp [requiredRows, SchemaSource.present, hkey, hprinting, hsave, hhandlers,
                hlocation]
            · simp [requiredRows, hkey, hprinting, hsave, hhandlers, hlocation]
          · simp [requiredRows, hkey, hprinting, hsave, hhandlers]
        · simp [requiredRows, hkey, hprinting, hsave]
      · simp [requiredRows, hkey, hprinting]

/-! ## The bindings over a run -/

/-- No two bindings of a mode share a key or a property. -/
lemma rows_nodup (mode : String) :
    ((rows mode).map Lib.Binding.key).Nodup ∧ ((rows mode).map Lib.Binding.property).Nodup := by
  have hmode : schemas mode = none ∨ schemas mode = some (none, none) ∨
      ∃ lockdownSchema privacySchema,
        schemas mode = some (some lockdownSchema, some privacySchema) := by
    rw [schemas]
    split_ifs <;> simp
  obtain h | h | ⟨lockdownSchema, privacySchema, h⟩ := hmode
  · simp [rows, required, privacy, h]
  · simp [rows, required, privacy, requiredRows, privacyRows, h]
  · simp [rows, required, privacy, requiredRows, privacyRows, h, binding]

/-- What `lockdown_init` binds. -/
lemma bound_eq (h : lockdownInit mode source exportOk = some out) :
    out.bound = source.present (rows mode) := by
  rw [lockdownInit_eq] at h
  split at h
  · cases h
    rfl
  · cases h

/-- The bindings of a portal that has been started. -/
def bindings (h : lockdownInit mode source exportOk = some out) :
    Lib.Bindings Key String Bool Bool where
  list := out.bound
  keys := by
    rw [bound_eq h]
    exact (rows_nodup mode).1.sublist (List.filter_sublist.map _)
  properties := by
    rw [bound_eq h]
    exact (rows_nodup mode).2.sublist (List.filter_sublist.map _)

/-- **What the lockdown properties show.**  A portal that has been started has bound the keys of its
table that exist.  Throughout a run of changes of the settings by others, notifications of these and
settings of properties, each bound property shows what its key holds (the location property, the
opposite) or is about to, exactly if each setting of a bound property is honoured: its key can be
written, or the property shows the value already, or its key holds it, or a notification for the key
is on its way.  The properties that are not bound stay as they are until they are set. -/
theorem lockdown_in_sync (h : lockdownInit mode source exportOk = some out) (store : Key → Bool)
    (props : String → Bool) (evs : List (Lib.Bindings.Event Key String Bool Bool)) :
    (∀ b, b ∈ out.bound ↔ b ∈ rows mode ∧ source.Has b.key) ∧
      ((∀ pre, pre <+: evs → ∀ b ∈ out.bound,
          (((bindings h).machine store props).run pre).props b.property
              = b.get ((((bindings h).machine store props).run pre).store b.key) ∨
            b.key ∈ (((bindings h).machine store props).run pre).changed) ↔
        ((bindings h).machine store props).Along (bindings h).Honoured
          ((bindings h).machine store props).init evs) ∧
      ∀ property, property ∉ out.bound.map Lib.Binding.property →
        (∀ e ∈ evs, ∀ value writable, e ≠ .setProperty property value writable) →
        (((bindings h).machine store props).run evs).props property = props property := by
  refine ⟨fun b => ?_, (bindings h).inSync_iff store props evs, fun property hunbound hevs =>
    Lib.Bindings.run_props_of_unbound (B := bindings h) hunbound store props hevs⟩
  rw [bound_eq h, SchemaSource.present, List.mem_filter, decide_eq_true_iff]

/-- The schemas of MATE, which has no privacy schema. -/
def mateSource : SchemaSource
  | "org.mate.lockdown" =>
      some ["disable-printing", "disable-save-to-disk", "disable-application-handlers"]
  | "org.gnome.system.location" => some ["enabled"]
  | _ => none

/-- On MATE, somebody disables the location services, and an application printing. -/
theorem lockdown_in_sync_mate :
    let evs : List (Lib.Bindings.Event Key String Bool Bool) :=
      [.write ⟨"org.gnome.system.location", "enabled"⟩ false, .notify,
        .setProperty "disable-printing" true true]
    ∃ out, ∃ h : lockdownInit "mate" mateSource true = some out,
      out.bound.length = 4 ∧
        (∀ pre, pre <+: evs →
          (bindings h).InSync
            (((bindings h).machine (fun _ => true) fun _ => false).run pre)) ∧
        (((bindings h).machine (fun _ => true) fun _ => false).run evs).props "disable-camera"
          = false := by
  intro evs
  have hinit : lockdownInit "mate" mateSource true
      = some
        { ok := true
          bound := mateSource.present (rows "mate")
          exported := true } := by
    rw [lockdownInit_eq]
    rfl
  have hsync := lockdown_in_sync hinit (fun _ => true) (fun _ => false) evs
  refine ⟨_, hinit, rfl, hsync.2.1.mpr ⟨trivial, trivial, Or.inl rfl, trivial⟩,
    hsync.2.2 "disable-camera" ?_ ?_⟩
  · decide
  · simp [evs]

end XappPortal.Lockdown
