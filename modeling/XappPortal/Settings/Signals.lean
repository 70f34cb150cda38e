/-
# Change signals

The appearance settings are derived from keys of a GSettings schema and from the GTK theme.  When a
key or the theme changes, `SettingChanged` is emitted with the new value of the setting that is
derived from it, and clients keep what they know about the settings by applying these signals.

GTK's part is left open: which themes name an accent color, and which texts are colors.
-/
import XappPortal.Lib.Machine
import XappPortal.Settings.Read
import Mathlib.Data.Rat.Defs

namespace XappPortal.Settings

open XappPortal.Lib

/-! ## The state of the settings -/

/-- A color. -/
structure Rgba where
  red : ℚ
  green : ℚ
  blue : ℚ
deriving DecidableEq, Repr

/-- What GTK knows about themes and colors. -/
structure Toolkit where
  /-- The color `accent_color` of a theme. -/
  accentColor : String → Option Rgba
  /-- `gdk_rgba_parse`. -/
  parseRgba : String → Option Rgba

/-- A GSettings object: its keys by the types that are read. -/
structure GSettings where
  enums : String → Int32
  booleans : String → Bool
  strings : String → String

/-- `SettingsBundle`, with the keys of the schema. -/
structure SettingsBundle where
  schema : List String
  settings : GSettings

/-- What the settings are derived from. -/
structure State where
  settingsTable : String → Option SettingsBundle
  useGtk : Bool
  gtkThemeName : String

/-- The value of a setting. -/
inductive Value where
  | uint32 (n : UInt32)
  | color (red green blue : ℚ)
deriving DecidableEq, Repr

/-! ## The table of definitions -/

/-- The lookup functions. -/
inductive LookupFunc where
  | getHighContrast
  | getColorScheme
  | getAccentColor
deriving DecidableEq, Repr

/-- `XAPP_PORTAL_INTERFACE_SCHEMA`. -/
def xappPortalInterfaceSchema : String := "org.x.apps.portal"

/-- `setting_defs`. -/
def settingDefs : List (SettingDefinition LookupFunc) :=
  [⟨"org.freedesktop.appearance", "contrast", xappPortalInterfaceSchema, "high-contrast",
      .getHighContrast⟩,
    ⟨"org.freedesktop.appearance", "color-scheme", xappPortalInterfaceSchema, "color-scheme",
      .getColorScheme⟩,
    ⟨"org.freedesktop.appearance", "accent-color", xappPortalInterfaceSchema, "accent-rgb",
      .getAccentColor⟩]

/-- `ACCENT_COLOR_DEF`. -/
def accentColorDef : Fin settingDefs.length := ⟨2, by decide⟩

/-- `COLOR_SCHEME_DEFAULT`. -/
def colorSchemeDefault : UInt32 := 0

/-- The color outside the range of colors, for no preference. -/
def noColor : Value := .color (-1) (-1) (-1)

/-- `get_color_scheme`. -/
def getColorScheme (s : State) (d : SettingDefinition LookupFunc) : Value :=
  match s.settingsTable d.gsSchemaId with
  | some bundle =>
      if "color-scheme" ∈ bundle.schema then
        .uint32 (bundle.settings.enums "color-scheme").toUInt32
      else .uint32 colorSchemeDefault
  | none => .uint32 colorSchemeDefault

/-- `get_high_contrast`. -/
def getHighContrast (s : State) (d : SettingDefinition LookupFunc) : Value :=
  match s.settingsTable d.gsSchemaId with
  | some bundle =>
      if "high-contrast" ∈ bundle.schema then
        .uint32 (if bundle.settings.booleans "high-contrast" then 1 else 0)
      else .uint32 0
  | none => .uint32 0

/-- The color in the settings, which `get_accent_color` falls back to. -/
def settingsColor (T : Toolkit) (s : State) (d : SettingDefinition LookupFunc) : Option Rgba :=
  match s.settingsTable d.gsSchemaId with
  | some bundle =>
      if "accent-rgb" ∈ bundle.schema then T.parseRgba (bundle.settings.strings "accent-rgb")
      else none
  | none => none

/-- `get_accent_color`. -/
def getAccentColor (T : Toolkit) (s : State) (d : SettingDefinition LookupFunc) : Value :=
  if !s.useGtk then noColor
  else
    match T.accentColor s.gtkThemeName with
    | some rgba => .color rgba.red rgba.green rgba.blue
    | none =>
        match settingsColor T s d with
        | some rgba => .color rgba.red rgba.green rgba.blue
        | none => noColor

/-- The call of a lookup function. -/
def State.lookup (T : Toolkit) (s : State) :
    LookupFunc → SettingDefinition LookupFunc → Value
  | .getHighContrast => getHighContrast s
  | .getColorScheme => getColorScheme s
  | .getAccentColor => getAccentColor T s

/-! ## Changes and signals -/

/-- The new value of a key. -/
inductive Change where
  | enum (key : String) (value : Int32)
  | boolean (key : String) (value : Bool)
  | string (key : String) (value : String)
  /-- A key of a type that is never read. -/
  | other (key : String)
deriving DecidableEq, Repr

/-- The key that changes. -/
def Change.key : Change → String
  | .enum key _ | .boolean key _ | .string key _ | .other key => key

/-- The settings after a change. -/
def GSettings.change (settings : GSettings) : Change → GSettings
  | .enum key value => { settings with enums := Function.update settings.enums key value }
  | .boolean key value => { settings with booleans := Function.update settings.booleans key value }
  | .string key value => { settings with strings := Function.update settings.strings key value }
  | .other _ => settings

/-- The bundle after a change. -/
def SettingsBundle.change (bundle : SettingsBundle) (c : Change) : SettingsBundle :=
  { bundle with settings := bundle.settings.change c }

/-- What happens outside. -/
inductive Event where
  /-- A key of a schema changes. -/
  | key (schemaId : String) (c : Change)
  /-- Another GTK theme is chosen. -/
  | theme (name : String)
deriving DecidableEq, Repr

/-- The signal `SettingChanged`. -/
structure SettingChanged where
  ns : String
  key : String
  value : Value
deriving DecidableEq, Repr

/-- `on_settings_changed`: the signal for the first definition that reads the key. -/
def onSettingsChanged (T : Toolkit) (s : State) (schemaId key : String) : List SettingChanged :=
  match settingDefs.find? fun d => schemaId = d.gsSchemaId ∧ key = d.gsKey with
  | some d => [⟨d.portalNs, d.portalKey, s.lookup T d.lookupFunc d⟩]
  | none => []

/-- `on_gtk3_theme_changed`. -/
def onGtk3ThemeChanged (T : Toolkit) (s : State) : List SettingChanged :=
  [⟨"org.freedesktop.appearance", "accent-color",
    getAccentColor T s (settingDefs.get accentColorDef)⟩]

/-- What a change does to the state. -/
def State.after (s : State) : Event → State
  | .key schemaId c =>
      match s.settingsTable schemaId with
      | some bundle =>
          if c.key ∈ bundle.schema then
            { s with
              settingsTable := Function.update s.settingsTable schemaId (some (bundle.change c)) }
          else s
      | none => s
  | .theme name => { s with gtkThemeName := name }

/-- The signals that follow a change, emitted in the state `s` after it.  There are signals for the
keys of the schemas in the table, and for the theme if there is a GDK backend. -/
def emitted (T : Toolkit) (s : State) : Event → List SettingChanged
  | .key schemaId c =>
      match s.settingsTable schemaId with
      | some bundle => if c.key ∈ bundle.schema then onSettingsChanged T s schemaId c.key else []
      | none => []
  | .theme _ => if s.useGtk then onGtk3ThemeChanged T s else []

/-- `init_settings_table`. -/
def initSettingsTable (source : String → Option SettingsBundle) : String → Option SettingsBundle :=
  settingDefs.foldl (fun table d =>
    match source d.gsSchemaId with
    | none => table
    | some bundle =>
        if (table d.gsSchemaId).isSome then table
        else Function.update table d.gsSchemaId (some bundle)) fun _ => none

/-- `settings_init`. -/
def settingsInit (source : String → Option SettingsBundle) (haveGdkBackend : Bool)
    (gtkThemeName : String) : State :=
  ⟨initSettingsTable source, haveGdkBackend, gtkThemeName⟩

/-- The signals emitted while a sequence of changes is handled. -/
def signals (T : Toolkit) : State → List Event → List SettingChanged
  | _, [] => []
  | s, e :: evs => emitted T (s.after e) e ++ signals T (s.after e) evs

/-- The settings as a machine. -/
def machine (s : State) : Machine State Event := ⟨s, State.after⟩

/-! ## What clients know -/

/-- The values that a client knows. -/
abbrev View := String → String → Option Value

/-- What a reply to `ReadAll` tells. -/
def View.ofReply (reply : List (String × Dict Value)) : View :=
  fun ns key => (reply.lookup ns).bind fun dict => dict key

/-- What a client knows after a signal. -/
def View.apply (view : View) (sig : SettingChanged) : View :=
  fun ns key => if ns = sig.ns ∧ key = sig.key then some sig.value else view ns key

/-- What a client knows after a sequence of signals. -/
def View.follow (view : View) (sigs : List SettingChanged) : View := sigs.foldl View.apply view

lemma follow_append (view : View) (sigs sigs' : List SettingChanged) :
    view.follow (sigs ++ sigs') = (view.follow sigs).follow sigs' := List.foldl_append

/-- What a fresh `ReadAll` tells. -/
def readAllView (T : Toolkit) (s : State) (patterns : List String) : View :=
  .ofReply (handleReadAll (s.lookup T) settingDefs patterns)

/-! ## Every change of a setting is signalled -/

variable {φ : Type}

/-- The values of a table have changed from `call` to `call'`, and signals tell so: they carry the
new values, and no changed value is without one. -/
structure Announces (defs : List (SettingDefinition φ))
    (call call' : φ → SettingDefinition φ → Value) (sigs : List SettingChanged) : Prop where
  sound : ∀ sig ∈ sigs, valueOf call' defs sig.ns sig.key = some sig.value
  complete : ∀ d ∈ defs, call' d.lookupFunc d ≠ call d.lookupFunc d →
    ∃ sig ∈ sigs, sig.ns = d.portalNs ∧ sig.key = d.portalKey

lemma portalNs_of_mem {d : SettingDefinition LookupFunc} (h : d ∈ settingDefs) :
    d.portalNs = "org.freedesktop.appearance" := by
  simp only [settingDefs, List.mem_cons, List.not_mem_nil, or_false] at h
  rcases h with rfl | rfl | rfl <;> rfl

lemma wellFormed_settingDefs : WellFormed settingDefs := ⟨by decide, by decide⟩

section Frame

variable {T : Toolkit} {s s' : State} {d : SettingDefinition LookupFunc}

/-- A lookup function reads the settings of its definition's schema, and the theme. -/
lemma lookup_congr (f : LookupFunc) (htable : s'.settingsTable d.gsSchemaId =
    s.settingsTable d.gsSchemaId) (hgtk : s'.useGtk = s.useGtk)
    (htheme : s'.gtkThemeName = s.gtkThemeName) : s'.lookup T f d = s.lookup T f d := by
  cases f with
  | getHighContrast => simp only [State.lookup, getHighContrast, htable]
  | getColorScheme => simp only [State.lookup, getColorScheme, htable]
  | getAccentColor =>
    simp only [State.lookup, getAccentColor, settingsColor, htable, hgtk, htheme]

/-- A change is a change of a key of a schema in the table, or it changes nothing. -/
lemma after_key_cases (s : State) (schemaId : String) (c : Change) :
    (∃ bundle, s.settingsTable schemaId = some bundle ∧ c.key ∈ bundle.schema ∧
      s.after (.key schemaId c) = { s with
        settingsTable := Function.update s.settingsTable schemaId (some (bundle.change c)) }) ∨
    s.after (.key schemaId c) = s := by
  rw [State.after]
  split
  · next bundle htable =>
    split
    · next hkey => exact Or.inl ⟨bundle, htable, hkey, rfl⟩
    · exact Or.inr rfl
  · exact Or.inr rfl

lemma change_of_key_ne (settings : GSettings) {c : Change} {key : String} (h : c.key ≠ key) :
    (settings.change c).enums key = settings.enums key ∧
    (settings.change c).booleans key = settings.booleans key ∧
    (settings.change c).strings key = settings.strings key := by
  cases c with
  | enum key' value => exact ⟨Function.update_of_ne (Ne.symm h) .., rfl, rfl⟩
  | boolean key' value => exact ⟨rfl, Function.update_of_ne (Ne.symm h) .., rfl⟩
  | string key' value => exact ⟨rfl, rfl, Function.update_of_ne (Ne.symm h) ..⟩
  | other key' => exact ⟨rfl, rfl, rfl⟩

/-- The change of a key that a definition does not read. -/
lemma lookup_after_key (hd : d ∈ settingDefs) {schemaId : String} {c : Change}
    (hne : schemaId = d.gsSchemaId → c.key ≠ d.gsKey) :
    (s.after (.key schemaId c)).lookup T d.lookupFunc d = s.lookup T d.lookupFunc d := by
  obtain ⟨bundle, htable, -, hafter⟩ | hafter := after_key_cases s schemaId c
  · rw [hafter]
    by_cases hid : schemaId = d.gsSchemaId
    · obtain ⟨henums, hbooleans, hstrings⟩ :=
        change_of_key_ne bundle.settings (hne hid)
      subst hid
      simp only [settingDefs, List.mem_cons, List.not_mem_nil, or_false] at hd
      rcases hd with rfl | rfl | rfl
      · simp only [State.lookup, getHighContrast, Function.update_self, htable,
          SettingsBundle.change, hbooleans]
      · simp only [State.lookup, getColorScheme, Function.update_self, htable,
          SettingsBundle.change, henums]
      · simp only [State.lookup, getAccentColor, settingsColor, Function.update_self, htable,
          SettingsBundle.change, hstrings]
    · exact lookup_congr _ (Function.update_of_ne (Ne.symm hid) ..) rfl rfl
  · rw [hafter]

/-- The settings after the change of a key that is monitored. -/
lemma emitted_after_key {bundle : SettingsBundle} {schemaId : String} {c : Change}
    (htable : s.settingsTable schemaId = some bundle) (hkey : c.key ∈ bundle.schema) :
    emitted T (s.after (.key schemaId c)) (.key schemaId c) =
      onSettingsChanged T (s.after (.key schemaId c)) schemaId c.key := by
  have hafter : (s.after (.key schemaId c)).settingsTable schemaId = some (bundle.change c) := by
    simp [State.after, htable, hkey]
  have hschema : c.key ∈ (bundle.change c).schema := hkey
  rw [emitted]
  simp only [hafter, if_pos hschema]

/-- A theme matters only to the accent color, and only with a GDK backend. -/
lemma lookup_after_theme {f : LookupFunc} {name : String}
    (h : f = .getAccentColor → s.useGtk = false) :
    (s.after (.theme name)).lookup T f d = s.lookup T f d := by
  cases f with
  | getHighContrast => rfl
  | getColorScheme => rfl
  | getAccentColor => simp [State.lookup, getAccentColor, State.after, h rfl]

/-- Signals carry the values of the state in which they are emitted. -/
lemma emitted_sound {e : Event} {sig : SettingChanged} (h : sig ∈ emitted T s e) :
    valueOf (s.lookup T) settingDefs sig.ns sig.key = some sig.value := by
  cases e with
  | key schemaId c =>
    have h : sig ∈ onSettingsChanged T s schemaId c.key := by
      rw [emitted] at h
      split at h
      · split at h
        · exact h
        · exact absurd h List.not_mem_nil
      · exact absurd h List.not_mem_nil
    rw [onSettingsChanged] at h
    split at h
    · next d hd =>
      obtain rfl := List.mem_singleton.mp h
      exact valueOf_of_mem wellFormed_settingDefs (List.mem_of_find?_eq_some hd)
    · exact absurd h List.not_mem_nil
  | theme name =>
    rw [emitted] at h
    split at h
    · obtain rfl := List.mem_singleton.mp h
      exact valueOf_of_mem wellFormed_settingDefs (List.get_mem settingDefs accentColorDef)
    · exact absurd h List.not_mem_nil

/-- A setting that changes is signalled. -/
lemma emitted_complete {e : Event} (hd : d ∈ settingDefs)
    (h : (s.after e).lookup T d.lookupFunc d ≠ s.lookup T d.lookupFunc d) :
    ∃ sig ∈ emitted T (s.after e) e, sig.ns = d.portalNs ∧ sig.key = d.portalKey := by
  cases e with
  | key schemaId c =>
    have hread : schemaId = d.gsSchemaId ∧ c.key = d.gsKey := by
      by_contra hne
      exact h (lookup_after_key hd fun hid hkey => hne ⟨hid, hkey⟩)
    obtain ⟨bundle, htable, hkey, -⟩ | hafter := after_key_cases s schemaId c
    · rw [emitted_after_key htable hkey, onSettingsChanged]
      have hdistinct : (settingDefs.map fun d => (d.gsSchemaId, d.gsKey)).Nodup := by decide
      split
      · next d' hd' =>
        -- no two definitions read one key
        have hsame : (d'.gsSchemaId, d'.gsKey) = (d.gsSchemaId, d.gsKey) := by
          have := List.find?_some hd'
          simp only [decide_eq_true_eq] at this
          rw [← this.1, ← this.2, hread.1, hread.2]
        obtain rfl := List.inj_on_of_nodup_map hdistinct (List.mem_of_find?_eq_some hd') hd hsame
        exact ⟨_, List.mem_singleton_self _, rfl, rfl⟩
      · next hnone => exact absurd (List.find?_eq_none.mp hnone d hd) (by simp [hread])
    · exact absurd (by rw [hafter]) h
  | theme name =>
    have haccent : d.lookupFunc = .getAccentColor ∧ s.useGtk = true := by
      by_contra hne
      refine h (lookup_after_theme fun hf => ?_)
      cases hgtk : s.useGtk with
      | false => rfl
      | true => exact absurd ⟨hf, hgtk⟩ hne
    have hgtk : (s.after (.theme name)).useGtk = true := haccent.2
    rw [emitted, if_pos hgtk]
    refine ⟨_, List.mem_singleton_self _, ?_⟩
    simp only [settingDefs, List.mem_cons, List.not_mem_nil, or_false] at hd
    rcases hd with rfl | rfl | rfl
    · exact absurd haccent.1 (by simp)
    · exact absurd haccent.1 (by simp)
    · exact ⟨rfl, rfl⟩

lemma announces_emitted (T : Toolkit) (s : State) (e : Event) :
    Announces settingDefs (s.lookup T) ((s.after e).lookup T) (emitted T (s.after e) e) :=
  ⟨fun _ => emitted_sound, fun _ => emitted_complete⟩

end Frame

/-! ## Clients that follow the signals -/

section Follow

variable {defs : List (SettingDefinition φ)} {call call' : φ → SettingDefinition φ → Value}
  {patterns : List String} {view : View} {sigs : List SettingChanged} {ns key : String}

lemma ofReply_handleReadAll (h : WellFormed defs) :
    View.ofReply (handleReadAll call defs patterns) ns key =
      if namespaceMatches ns patterns then valueOf call defs ns key else none := by
  rw [View.ofReply]
  cases hlookup : (handleReadAll call defs patterns).lookup ns with
  | none =>
    have hnotMem : ns ∉ (handleReadAll call defs patterns).map Prod.fst := by
      intro hmem
      obtain ⟨entry, hentry, rfl⟩ := List.mem_map.mp hmem
      exact absurd (List.lookup_eq_none_iff.mp hlookup entry hentry) (by simp)
    rw [mem_handleReadAll_iff h, ← namespaceMatches_iff] at hnotMem
    split
    · next hmatches =>
      cases hvalue : valueOf call defs ns key with
      | none => rfl
      | some v =>
        obtain ⟨d, hd, hns, -⟩ := exists_valueOf_iff.mp ⟨v, hvalue⟩
        exact absurd ⟨⟨d, hd, hns⟩, hmatches⟩ hnotMem
    · rfl
  | some dict =>
    have hmem : (ns, dict) ∈ handleReadAll call defs patterns := by
      obtain ⟨l₁, l₂, hl, -⟩ := List.lookup_eq_some_iff.mp hlookup
      simp [hl]
    have hselects := ((mem_handleReadAll_iff h).mp (List.mem_map_of_mem hmem)).2
    rw [if_pos (namespaceMatches_iff.mpr hselects), Option.bind_some, dict_eq_valueOf h hmem]

/-- Signals that agree about a key. -/
lemma follow_eq {v : Option Value}
    (h : ∀ sig ∈ sigs, ns = sig.ns ∧ key = sig.key → some sig.value = v) :
    view.follow sigs ns key =
      if ∃ sig ∈ sigs, ns = sig.ns ∧ key = sig.key then v else view ns key := by
  induction sigs generalizing view with
  | nil => simp [View.follow]
  | cons sig sigs ih =>
    have hrest := @ih (view.apply sig) fun sig' hsig' => h sig' (List.mem_cons_of_mem _ hsig')
    rw [View.follow, List.foldl_cons, ← View.follow, hrest]
    simp only [List.exists_mem_cons_iff]
    by_cases hlater : ∃ sig' ∈ sigs, ns = sig'.ns ∧ key = sig'.key
    · rw [if_pos hlater, if_pos (Or.inr hlater)]
    · rw [if_neg hlater, View.apply]
      by_cases hsig : ns = sig.ns ∧ key = sig.key
      · rw [if_pos hsig, if_pos (Or.inl hsig), h sig (List.mem_cons_self ..) hsig]
      · rw [if_neg hsig, if_neg (not_or.mpr ⟨hsig, hlater⟩)]

/-- A value without a signal is the old one. -/
lemma Announces.valueOf_eq (h : Announces defs call call' sigs)
    (hnone : ¬ ∃ sig ∈ sigs, ns = sig.ns ∧ key = sig.key) :
    valueOf call' defs ns key = valueOf call defs ns key := by
  rw [valueOf, valueOf]
  cases hfind : defs.find? fun d => ns = d.portalNs ∧ key = d.portalKey with
  | none => rfl
  | some d =>
    have hd := List.find?_some hfind
    simp only [decide_eq_true_eq] at hd
    by_contra hne
    obtain ⟨sig, hsig, hns, hkey⟩ := h.complete d (List.mem_of_find?_eq_some hfind)
      fun heq => hne (by simp [heq])
    exact hnone ⟨sig, hsig, by rw [hd.1, hns], by rw [hd.2, hkey]⟩

/-- A client that applies the signals of the namespaces it has asked for knows what a fresh
`ReadAll` would tell it. -/
lemma Announces.follow_eq (h : Announces defs call call' sigs) (hdefs : WellFormed defs) :
    (View.ofReply (handleReadAll call defs patterns)).follow
        (sigs.filter fun sig => namespaceMatches sig.ns patterns) =
      .ofReply (handleReadAll call' defs patterns) := by
  funext ns key
  have hvalue : ∀ sig ∈ sigs.filter fun sig => namespaceMatches sig.ns patterns,
      ns = sig.ns ∧ key = sig.key → some sig.value = valueOf call' defs ns key := by
    rintro sig hsig ⟨rfl, rfl⟩
    exact (h.sound sig (List.mem_filter.mp hsig).1).symm
  rw [Settings.follow_eq hvalue, ofReply_handleReadAll hdefs, ofReply_handleReadAll hdefs]
  by_cases hmatches : namespaceMatches ns patterns = true
  · rw [if_pos hmatches, if_pos hmatches]
    split
    · rfl
    · next hnone =>
      refine (h.valueOf_eq fun ⟨sig, hsig, hns, hkey⟩ => hnone ⟨sig, ?_, hns, hkey⟩).symm
      exact List.mem_filter.mpr ⟨hsig, by rwa [← hns]⟩
  · have hnone : ¬ ∃ sig ∈ sigs.filter fun sig => namespaceMatches sig.ns patterns,
        ns = sig.ns ∧ key = sig.key := by
      rintro ⟨sig, hsig, rfl, -⟩
      exact hmatches (List.mem_filter.mp hsig).2
    rw [if_neg hnone, if_neg hmatches, if_neg hmatches]

end Follow

/-- The signals of a run keep such a client up to date. -/
lemma follow_signals (T : Toolkit) (s : State) (evs : List Event) (patterns : List String) :
    (readAllView T s patterns).follow
        ((signals T s evs).filter fun sig => namespaceMatches sig.ns patterns) =
      readAllView T ((machine s).run evs) patterns := by
  induction evs generalizing s with
  | nil => rfl
  | cons e evs ih =>
    have hstep : (readAllView T s patterns).follow
        ((emitted T (s.after e) e).filter fun sig => namespaceMatches sig.ns patterns) =
        readAllView T (s.after e) patterns :=
      (announces_emitted T s e).follow_eq wellFormed_settingDefs
    rw [signals, List.filter_append, follow_append, hstep]
    exact ih (s.after e)

/-- All the signals are about the appearance. -/
lemma ns_of_mem_signals {T : Toolkit} {s : State} {evs : List Event} {sig : SettingChanged}
    (h : sig ∈ signals T s evs) : sig.ns = "org.freedesktop.appearance" := by
  induction evs generalizing s with
  | nil => exact absurd h List.not_mem_nil
  | cons e evs ih =>
    rcases List.mem_append.mp h with h | h
    · obtain ⟨d, hd, hns, -⟩ := exists_valueOf_iff.mp ⟨_, emitted_sound h⟩
      rw [← hns, portalNs_of_mem hd]
    · exact ih h

/-- A `ReadAll` of all the settings tells what every `Read` does. -/
lemma readAllView_eq_read {T : Toolkit} {s : State} {patterns : List String}
    (h : Selects "org.freedesktop.appearance" patterns) (ns key : String) :
    readAllView T s patterns ns key = (handleRead (s.lookup T) ns key settingDefs).toOption := by
  rw [readAllView, ofReply_handleReadAll wellFormed_settingDefs, handleRead_eq]
  cases hvalue : valueOf (s.lookup T) settingDefs ns key with
  | none => exact ite_self _
  | some v =>
    obtain ⟨d, hd, hns, -⟩ := exists_valueOf_iff.mp ⟨v, hvalue⟩
    rw [← hns, portalNs_of_mem hd, if_pos (namespaceMatches_iff.mpr h)]
    rfl

/-- **The signals keep the views of clients exact.**  Whenever a client reads the settings, and
whatever changes then, following the signals of the namespaces it has asked for leaves it with what
a fresh `ReadAll` tells; if it has asked for the appearance it may follow all the signals, and knows
what every `Read` answers. -/
theorem client_view_exact (T : Toolkit) (source : String → Option SettingsBundle)
    (haveGdkBackend : Bool) (gtkThemeName : String) (before evs : List Event)
    (patterns : List String) :
    let s := (machine (settingsInit source haveGdkBackend gtkThemeName)).run before
    let s' := (machine s).run evs
    (readAllView T s patterns).follow
        ((signals T s evs).filter fun sig => namespaceMatches sig.ns patterns) =
      readAllView T s' patterns ∧
    (Selects "org.freedesktop.appearance" patterns →
      (readAllView T s patterns).follow (signals T s evs) = readAllView T s' patterns ∧
      ∀ ns key, readAllView T s' patterns ns key =
        (handleRead (s'.lookup T) ns key settingDefs).toOption) := by
  intro s s'
  refine ⟨follow_signals T s evs patterns, fun hselects => ⟨?_, readAllView_eq_read hselects⟩⟩
  have hall : (signals T s evs).filter (fun sig => namespaceMatches sig.ns patterns) =
      signals T s evs := by
    refine List.filter_eq_self.mpr fun sig hsig => ?_
    rw [ns_of_mem_signals hsig]
    exact namespaceMatches_iff.mpr hselects
  have hfollow := follow_signals T s evs patterns
  rwa [hall] at hfollow

end XappPortal.Settings
