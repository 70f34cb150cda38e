/-
# Reading settings

The Settings portal offers what a table of definitions says, read from wherever a definition's
lookup function finds it.  `Read` answers for one key; `ReadAll` goes through the table once and
groups the values by namespace, for the namespaces that match the patterns of the call.

The strings of a call are texts, which D-Bus guarantees; the lookup functions and the values they
return stay arbitrary here.
-/
import XappPortal.Lib.Grouping
import Mathlib.Data.List.Infix
import Mathlib.Logic.Function.Basic

namespace XappPortal.Settings

open XappPortal.Lib

/-- `SettingDefinition`. -/
structure SettingDefinition (φ : Type) where
  portalNs : String
  portalKey : String
  gsSchemaId : String
  gsKey : String
  lookupFunc : φ
deriving DecidableEq, Repr

/-- The entries of an `a{sv}`. -/
abbrev Dict (V : Type) := String → Option V

variable {φ V : Type}

/-! ## Namespace patterns -/

/-- Whether `strncmp` of two strings is zero. -/
def strncmpZero : ℕ → List Char → List Char → Bool
  | 0, _, _ => true
  | _ + 1, [], [] => true
  | _ + 1, [], _ :: _ => false
  | _ + 1, _ :: _, [] => false
  | n + 1, c :: s, d :: t => c == d && strncmpZero n s t

/-- The loop of `namespace_matches` from the pattern with index `i` on. -/
def namespaceMatchesFrom (ns : String) (i : ℕ) : List String → Bool
  | [] => i == 0
  | pattern :: patterns =>
      if pattern.toList[0]? = none then true
      else if ns = pattern then true
      else if pattern.toList[pattern.length - 1]? = some '*' ∧
          strncmpZero (pattern.length - 1) ns.toList pattern.toList then true
      else namespaceMatchesFrom ns (i + 1) patterns

/-- `namespace_matches`. -/
def namespaceMatches (ns : String) (patterns : List String) : Bool :=
  namespaceMatchesFrom ns 0 patterns

/-- A pattern selects a namespace: it is empty or the namespace itself, or it ends in an asterisk
and the namespace begins with the rest. -/
def PatternSelects (ns pattern : String) : Prop :=
  pattern = "" ∨ pattern = ns ∨ ∃ stem, pattern = stem ++ "*" ∧ stem.toList <+: ns.toList

/-- The patterns of a call select a namespace; no patterns select all of them. -/
def Selects (ns : String) (patterns : List String) : Prop :=
  patterns = [] ∨ ∃ pattern ∈ patterns, PatternSelects ns pattern

lemma strncmpZero_iff {n : ℕ} {s t : List Char} (hn : n ≤ t.length) :
    strncmpZero n s t = true ↔ t.take n <+: s := by
  induction n generalizing s t with
  | zero => simp [strncmpZero]
  | succ n ih =>
    cases t with
    | nil => exact absurd hn (by simp)
    | cons d t =>
      rw [List.take_succ_cons]
      cases s with
      | nil => simp [strncmpZero]
      | cons c s =>
        rw [strncmpZero, Bool.and_eq_true, beq_iff_eq, ih (Nat.le_of_succ_le_succ hn),
          List.cons_prefix_cons, eq_comm]

/-- The test for an asterisk at the end of a pattern that is not empty. -/
lemma asterisk_iff {ns pattern : String} (hne : pattern.toList ≠ []) :
    pattern.toList[pattern.length - 1]? = some '*' ∧
        strncmpZero (pattern.length - 1) ns.toList pattern.toList = true ↔
      ∃ stem, pattern = stem ++ "*" ∧ stem.toList <+: ns.toList := by
  rw [← String.length_toList, strncmpZero_iff (Nat.sub_le _ _), ← List.getLast?_eq_getElem?,
    ← List.dropLast_eq_take]
  constructor
  · rintro ⟨hlast, hfront⟩
    refine ⟨String.ofList pattern.toList.dropLast, ?_, by simpa using hfront⟩
    rw [← String.toList_inj]
    simpa using (List.dropLast_append_getLast? '*' hlast).symm
  · rintro ⟨stem, rfl, hfront⟩
    simpa using hfront

lemma namespaceMatchesFrom_iff {ns : String} {i : ℕ} {patterns : List String} :
    namespaceMatchesFrom ns i patterns = true ↔
      (i = 0 ∧ patterns = []) ∨ ∃ pattern ∈ patterns, PatternSelects ns pattern := by
  induction patterns generalizing i with
  | nil => simp [namespaceMatchesFrom]
  | cons pattern patterns ih =>
    have hhead : (pattern = "" ∨ ns = pattern ∨ (pattern.toList[pattern.length - 1]? = some '*' ∧
        strncmpZero (pattern.length - 1) ns.toList pattern.toList = true)) ↔
        PatternSelects ns pattern := by
      by_cases hnil : pattern.toList = []
      · have : pattern = "" := String.toList_inj.mp hnil
        simp [PatternSelects, this]
      · rw [PatternSelects, asterisk_iff hnil, eq_comm (a := ns)]
    rw [namespaceMatchesFrom, List.exists_mem_cons_iff, ← hhead]
    have hempty : pattern.toList[0]? = none ↔ pattern = "" := by
      rw [List.getElem?_eq_none_iff, Nat.le_zero, List.length_eq_zero_iff, String.toList_eq_nil_iff]
    split
    · next h => simp [hempty.mp h]
    · next h =>
      rw [hempty] at h
      split
      · next hns => simp [hns]
      · next hns =>
        split
        · next hstar => simp [hstar]
        · next hstar =>
          rw [ih]
          simp [h, hns, hstar]

/-- **`namespace_matches` tells whether the patterns select the namespace.** -/
theorem namespaceMatches_iff {ns : String} {patterns : List String} :
    namespaceMatches ns patterns = true ↔ Selects ns patterns := by
  rw [namespaceMatches, namespaceMatchesFrom_iff, Selects]
  simp

/-! ## `Read` -/

/-- A D-Bus error, with its name. -/
structure Error where
  name : String
  message : String
deriving DecidableEq, Repr

/-- `XDG_DESKTOP_PORTAL_ERROR_NOT_FOUND`. -/
def settingNotFound : Error :=
  ⟨"org.freedesktop.portal.Error.NotFound", "Requested setting not found"⟩

-- what the call of a definition's lookup function with the definition itself returns
variable (call : φ → SettingDefinition φ → V)

/-- `settings_handle_read`. -/
def handleRead (argNamespace argKey : String) : List (SettingDefinition φ) → Except Error V
  | [] => .error settingNotFound
  | d :: defs =>
      if argNamespace = d.portalNs ∧ argKey = d.portalKey then .ok (call d.lookupFunc d)
      else handleRead argNamespace argKey defs

/-! ## `ReadAll` -/

/-- The variables of `settings_handle_read_all`. -/
structure ReadAll (V : Type) where
  builder : List (String × Dict V)
  currentNs : Option String
  dict : Dict V

namespace ReadAll

/-- Before the loop. -/
def init : ReadAll V := ⟨[], none, fun _ => none⟩

/-- The namespaces added so far and the one at work. -/
def finish (s : ReadAll V) : List (String × Dict V) :=
  match s.currentNs with
  | some ns => s.builder ++ [(ns, s.dict)]
  | none => s.builder

/-- A change of the namespace. -/
def enter (s : ReadAll V) (ns : String) : ReadAll V :=
  if s.currentNs = some ns then s else ⟨s.finish, some ns, fun _ => none⟩

/-- The value of a definition. -/
def insertValue (dict : Dict V) (d : SettingDefinition φ) : Dict V :=
  Function.update dict d.portalKey (some (call d.lookupFunc d))

/-- An iteration of the loop. -/
def visit (patterns : List String) (s : ReadAll V) (d : SettingDefinition φ) : ReadAll V :=
  if namespaceMatches d.portalNs patterns then
    let s := s.enter d.portalNs
    { s with dict := insertValue call s.dict d }
  else s

end ReadAll

/-- `settings_handle_read_all`. -/
def handleReadAll (defs : List (SettingDefinition φ)) (argNamespaces : List String) :
    List (String × Dict V) :=
  (defs.foldl (ReadAll.visit call argNamespaces) ReadAll.init).finish

variable {call}

/-! ## The loop groups by namespace -/

namespace ReadAll

/-- The variables as a grouping pass sees them. -/
def groups (s : ReadAll V) : Groups String (Dict V) := ⟨s.builder, s.currentNs.map (·, s.dict)⟩

lemma finish_eq (s : ReadAll V) : s.finish = s.groups.all := by
  rw [finish, groups, Groups.all]
  cases s.currentNs with
  | none => simp
  | some ns => rfl

lemma groups_visit {patterns : List String} {s : ReadAll V} {d : SettingDefinition φ}
    (h : namespaceMatches d.portalNs patterns = true) :
    (visit call patterns s d).groups =
      s.groups.add SettingDefinition.portalNs (insertValue call) (fun _ => none) d := by
  rw [visit, if_pos h, enter, finish_eq]
  cases hns : s.currentNs with
  | none => simp [groups, Groups.add, hns]
  | some ns =>
    by_cases hd : ns = d.portalNs
    · simp [groups, Groups.add, hns, hd]
    · simp [groups, Groups.add, hns, hd]

lemma groups_foldl_visit {patterns : List String} (defs : List (SettingDefinition φ))
    (s : ReadAll V) :
    (defs.foldl (visit call patterns) s).groups =
      (defs.filter fun d => namespaceMatches d.portalNs patterns).foldl
        (Groups.add SettingDefinition.portalNs (insertValue call) fun _ => none) s.groups := by
  induction defs generalizing s with
  | nil => rfl
  | cons d defs ih =>
    rw [List.foldl_cons, ih]
    by_cases h : namespaceMatches d.portalNs patterns = true
    · rw [List.filter_cons, if_pos h, List.foldl_cons, groups_visit h]
    · rw [List.filter_cons, if_neg h, visit, if_neg h]

/-- The values of definitions with different keys, each under its key. -/
lemma foldl_insertValue {l : List (SettingDefinition φ)} (h : (l.map (·.portalKey)).Nodup)
    (dict : Dict V) (key : String) :
    l.foldl (insertValue call) dict key =
      ((l.find? (key = ·.portalKey)).map fun d => call d.lookupFunc d).or (dict key) := by
  induction l generalizing dict with
  | nil => rfl
  | cons d l ih =>
    rw [List.map_cons, List.nodup_cons] at h
    rw [List.foldl_cons, ih h.2, insertValue, List.find?_cons]
    by_cases hkey : key = d.portalKey
    · subst hkey
      have hnone : l.find? (d.portalKey = ·.portalKey) = none := by
        refine List.find?_eq_none.mpr fun d' hd' hkey => h.1 ?_
        rw [of_decide_eq_true hkey]
        exact List.mem_map_of_mem hd'
      simp [hnone]
    · simp [hkey]

end ReadAll

/-! ## `ReadAll` against `Read` -/

/-- What a table has to keep to: equal namespaces stand together, and no key of a namespace is
defined twice. -/
structure WellFormed (defs : List (SettingDefinition φ)) : Prop where
  grouped : Contiguous (defs.map (·.portalNs))
  distinct : (defs.map fun d => (d.portalNs, d.portalKey)).Nodup

/-- What a table says about a key. -/
def valueOf (call : φ → SettingDefinition φ → V) (defs : List (SettingDefinition φ))
    (ns key : String) : Option V :=
  (defs.find? fun d => ns = d.portalNs ∧ key = d.portalKey).map fun d => call d.lookupFunc d

variable {defs : List (SettingDefinition φ)} {patterns : List String} {ns key : String}

lemma handleRead_eq :
    handleRead call ns key defs = (valueOf call defs ns key).elim (.error settingNotFound) .ok := by
  induction defs with
  | nil => rfl
  | cons d defs ih =>
    rw [handleRead, valueOf, List.find?_cons]
    by_cases h : ns = d.portalNs ∧ key = d.portalKey
    · simp [h]
    · rw [if_neg h, ih, valueOf]
      simp [h]

lemma handleRead_eq_ok_iff {v : V} :
    handleRead call ns key defs = .ok v ↔ valueOf call defs ns key = some v := by
  rw [handleRead_eq]
  cases valueOf call defs ns key <;> simp

lemma exists_valueOf_iff :
    (∃ v, valueOf call defs ns key = some v) ↔
      ∃ d ∈ defs, d.portalNs = ns ∧ d.portalKey = key := by
  rw [← Option.isSome_iff_exists, valueOf, Option.isSome_map, List.find?_isSome]
  simp [eq_comm (a := ns), eq_comm (a := key)]

/-- A definition is found by its namespace and key. -/
lemma valueOf_of_mem (h : WellFormed defs) {d : SettingDefinition φ} (hd : d ∈ defs) :
    valueOf call defs d.portalNs d.portalKey = some (call d.lookupFunc d) := by
  rw [valueOf]
  cases hfind : defs.find? fun d' => d.portalNs = d'.portalNs ∧ d.portalKey = d'.portalKey with
  | none => exact absurd (List.find?_eq_none.mp hfind d hd) (by simp)
  | some d' =>
    have hpair : (d'.portalNs, d'.portalKey) = (d.portalNs, d.portalKey) := by
      have := List.find?_some hfind
      simp only [decide_eq_true_eq] at this
      rw [this.1, this.2]
    rw [List.inj_on_of_nodup_map h.distinct (List.mem_of_find?_eq_some hfind) hd hpair]
    rfl

/-- A reply to `ReadAll` has one entry for every selected namespace of the table, with exactly the
keys of the namespace, and their values are the ones that `Read` answers with. -/
structure ReadAllSpec (call : φ → SettingDefinition φ → V) (defs : List (SettingDefinition φ))
    (patterns : List String) (reply : List (String × Dict V)) : Prop where
  nodup : (reply.map Prod.fst).Nodup
  mem_iff : ∀ ns, ns ∈ reply.map Prod.fst ↔ (∃ d ∈ defs, d.portalNs = ns) ∧ Selects ns patterns
  keys : ∀ ns dict, (ns, dict) ∈ reply → ∀ key,
    (∃ v, dict key = some v) ↔ ∃ d ∈ defs, d.portalNs = ns ∧ d.portalKey = key
  values : ∀ ns dict, (ns, dict) ∈ reply → ∀ key v,
    dict key = some v → handleRead call ns key defs = .ok v

/-- The reply gathers the selected definitions. -/
lemma gathers_handleReadAll (call : φ → SettingDefinition φ → V) (h : WellFormed defs)
    (patterns : List String) :
    ∃ G : Groups String (Dict V), G.all = handleReadAll call defs patterns ∧
      G.Gathers SettingDefinition.portalNs (ReadAll.insertValue call) (fun _ => none)
        (defs.filter fun d => namespaceMatches d.portalNs patterns) := by
  refine ⟨(defs.foldl (ReadAll.visit call patterns) ReadAll.init).groups, ?_, ?_⟩
  · rw [handleReadAll, ReadAll.finish_eq]
  · rw [ReadAll.groups_foldl_visit]
    exact Groups.gathers_foldl (h.grouped.sublist (List.filter_sublist.map _))

/-- The keys of a namespace are different. -/
lemma WellFormed.nodup_keys (h : WellFormed defs) (ns : String) :
    ((defs.filter fun d => d.portalNs = ns).map (·.portalKey)).Nodup := by
  have hpairs : (defs.filter fun d => d.portalNs = ns).map (fun d => (d.portalNs, d.portalKey)) =
      ((defs.filter fun d => d.portalNs = ns).map (·.portalKey)).map fun key => (ns, key) := by
    rw [List.map_map]
    refine List.map_congr_left fun d hd => ?_
    have hns : d.portalNs = ns := by simpa using (List.mem_filter.mp hd).2
    rw [Function.comp_apply, hns]
  refine List.Nodup.of_map (fun key => (ns, key)) ?_
  rw [← hpairs]
  exact h.distinct.sublist (List.filter_sublist.map _)

lemma mem_handleReadAll_iff (h : WellFormed defs) :
    ns ∈ (handleReadAll call defs patterns).map Prod.fst ↔
      (∃ d ∈ defs, d.portalNs = ns) ∧ Selects ns patterns := by
  obtain ⟨G, hall, hG⟩ := gathers_handleReadAll call h patterns
  rw [← hall, hG.mem_iff, ← namespaceMatches_iff]
  simp only [List.mem_map, List.mem_filter]
  constructor
  · rintro ⟨d, ⟨hd, hmatches⟩, rfl⟩
    exact ⟨⟨d, hd, rfl⟩, hmatches⟩
  · rintro ⟨⟨d, hd, rfl⟩, hmatches⟩
    exact ⟨d, ⟨hd, hmatches⟩, rfl⟩

/-- The dictionary of a namespace in a reply is the table's. -/
lemma dict_eq_valueOf (h : WellFormed defs) {dict : Dict V}
    (hmem : (ns, dict) ∈ handleReadAll call defs patterns) :
    dict key = valueOf call defs ns key := by
  have hselects := ((mem_handleReadAll_iff h).mp (List.mem_map_of_mem hmem)).2
  obtain ⟨G, hall, hG⟩ := gathers_handleReadAll call h patterns
  rw [← hall] at hmem
  -- the patterns let through every definition of the namespace
  have hfilter : ((defs.filter fun d => namespaceMatches d.portalNs patterns).filter
      fun d => d.portalNs = ns) = defs.filter fun d => d.portalNs = ns := by
    rw [List.filter_filter]
    refine List.filter_congr fun d _ => ?_
    by_cases hns : d.portalNs = ns
    · simp [hns, namespaceMatches_iff.mpr hselects]
    · simp [hns]
  have hdict : dict = _ := hG.content _ hmem
  rw [hdict, hfilter, ReadAll.foldl_insertValue (h.nodup_keys ns), Option.or_none, valueOf,
    List.find?_filter]
  congr 2
  funext d
  simp [eq_comm (a := ns)]

/-- **For every table that keeps to its rules, every array of patterns and whatever the lookup
functions return, `ReadAll` is exactly the matching part of `Read`.** -/
theorem handleReadAll_spec (call : φ → SettingDefinition φ → V) (h : WellFormed defs)
    (patterns : List String) :
    ReadAllSpec call defs patterns (handleReadAll call defs patterns) where
  nodup := by
    obtain ⟨G, hall, hG⟩ := gathers_handleReadAll call h patterns
    rw [← hall]
    exact hG.nodup
  mem_iff _ := mem_handleReadAll_iff h
  keys ns dict hmem key := by rw [dict_eq_valueOf h hmem, exists_valueOf_iff]
  values ns dict hmem key v hv := by rwa [handleRead_eq_ok_iff, ← dict_eq_valueOf h hmem]

/-- Two namespaces, and patterns of every kind. -/
theorem handleReadAll_spec_two :
    ReadAllSpec (fun (value : ℕ) _ => value)
      [⟨"org.a", "x", "s", "x", 1⟩, ⟨"org.a", "y", "s", "y", 2⟩, ⟨"org.b", "x", "s", "z", 3⟩]
      ["org.b", "org.*", "", "org.b"]
      (handleReadAll (fun (value : ℕ) _ => value)
        [⟨"org.a", "x", "s", "x", 1⟩, ⟨"org.a", "y", "s", "y", 2⟩, ⟨"org.b", "x", "s", "z", 3⟩]
        ["org.b", "org.*", "", "org.b"]) :=
  handleReadAll_spec _ ⟨by decide, by decide⟩ _

end XappPortal.Settings
