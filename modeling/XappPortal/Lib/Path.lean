/-
# File paths

Paths are strings of bytes.  What a path means is the list of its components, read from a
directory on: empty components and `.` stay where they are, and `..` goes up (`resolve`).  There
are no symbolic links in this picture.

`buildFilename` joins elements as `g_build_filename` does: with single slashes, and without the
slashes that the elements have at their boundaries.  Its result has the components of its elements
(`components_buildFilename`).
-/
import Mathlib.Data.List.DropRight
import Mathlib.Tactic.Common

namespace XappPortal.Lib.Path

def slash : UInt8 := 47
def dot : UInt8 := 46

/-- The components of a path. -/
def components (path : List UInt8) : List (List UInt8) := (path.splitOn slash).filter (· ≠ [])

/-- Go from a directory to one of its entries. -/
def enter (dir : List (List UInt8)) (component : List UInt8) : List (List UInt8) :=
  if component = [dot] then dir
  else if component = [dot, dot] then dir.dropLast
  else dir ++ [component]

/-- Follow a path from a directory on. -/
def resolve (dir : List (List UInt8)) (path : List UInt8) : List (List UInt8) :=
  (components path).foldl enter dir

/-- An element without the slashes at its ends. -/
def trim (element : List UInt8) : List UInt8 :=
  (element.dropWhile (· = slash)).rdropWhile (· = slash)

/-- `g_build_filename`: the slashes before the first element and after the last one are kept. -/
def buildFilename (elements : List (List UInt8)) : List UInt8 :=
  match elements.filter (· ≠ []) with
  | [] => []
  | [e] => e
  | e :: es =>
      e.takeWhile (· = slash) ++ [slash].intercalate (((e :: es).map trim).filter (· ≠ []))
        ++ ((e :: es).getLastD []).rtakeWhile (· = slash)

/-! ## Components -/

section Components

variable {p q : List UInt8}

@[simp] lemma components_nil : components [] = [] := by
  simp [components]

lemma components_append_slash (p q : List UInt8) :
    components (p ++ slash :: q) = components p ++ components q := by
  rw [components, List.splitOn_append_cons_self, List.filter_append]
  rfl

lemma components_of_notMem (h : slash ∉ p) (hne : p ≠ []) : components p = [p] := by
  rw [components, List.splitOn_eq_singleton h]
  simp [hne]

lemma components_slashes (h : ∀ c ∈ p, c = slash) : components p = [] := by
  induction p with
  | nil => exact components_nil
  | cons c p ih =>
    obtain rfl := h c (List.mem_cons_self ..)
    have := components_append_slash [] p
    rw [List.nil_append, components_nil, List.nil_append] at this
    rw [this]
    exact ih fun d hd => h d (List.mem_cons_of_mem _ hd)

/-- Slashes at the beginning do not count. -/
lemma components_slashes_append (h : ∀ c ∈ p, c = slash) (q : List UInt8) :
    components (p ++ q) = components q := by
  induction p with
  | nil => rfl
  | cons c p ih =>
    obtain rfl := h c (List.mem_cons_self ..)
    have := components_append_slash [] (p ++ q)
    rw [List.nil_append, components_nil, List.nil_append] at this
    rw [List.cons_append, this]
    exact ih fun d hd => h d (List.mem_cons_of_mem _ hd)

/-- Slashes at the end do not count. -/
lemma components_append_slashes (p : List UInt8) (h : ∀ c ∈ q, c = slash) :
    components (p ++ q) = components p := by
  cases q with
  | nil => rw [List.append_nil]
  | cons c q =>
    obtain rfl := h c (List.mem_cons_self ..)
    have hq := components_slashes fun d hd => h d (List.mem_cons_of_mem slash hd)
    rw [components_append_slash, hq, List.append_nil]

lemma components_trim (e : List UInt8) : components (trim e) = components e := by
  have hleft : components (e.dropWhile (· = slash)) = components e := by
    have hslash : ∀ c ∈ e.takeWhile (· = slash), c = slash := by
      intro c hc
      simpa using List.mem_takeWhile_imp hc
    have := components_slashes_append hslash (e.dropWhile (· = slash))
    rwa [List.takeWhile_append_dropWhile, eq_comm] at this
  have hright : ∀ d : List UInt8, components (d.rdropWhile (· = slash)) = components d := by
    intro d
    have hslash : ∀ c ∈ d.rtakeWhile (· = slash), c = slash := by
      intro c hc
      simpa using List.mem_rtakeWhile_imp hc
    have := components_append_slashes (d.rdropWhile (· = slash)) hslash
    rwa [List.rdropWhile_append_rtakeWhile, eq_comm] at this
  rw [trim, hright, hleft]

lemma components_intercalate (es : List (List UInt8)) :
    components ([slash].intercalate es) = es.flatMap components := by
  induction es with
  | nil => exact components_nil
  | cons e es ih =>
    cases es with
    | nil => simp
    | cons e' es =>
      rw [List.intercalate_cons_cons, List.append_assoc, List.singleton_append,
        components_append_slash, ih]
      exact List.flatMap_cons.symm

/-- Empty elements do not count. -/
lemma flatMap_components_filter (es : List (List UInt8)) :
    (es.filter (· ≠ [])).flatMap components = es.flatMap components := by
  induction es with
  | nil => rfl
  | cons e es ih =>
    by_cases he : e = []
    · simpa [he] using ih
    · simpa [he] using ih

/-- **A path that is built has the components of its elements.** -/
theorem components_buildFilename (es : List (List UInt8)) :
    components (buildFilename es) = es.flatMap components := by
  rw [← flatMap_components_filter, buildFilename]
  cases es.filter (· ≠ []) with
  | nil => exact components_nil
  | cons e es =>
    cases es with
    | nil => simp
    | cons e' es =>
      have hleft : ∀ c ∈ e.takeWhile (· = slash), c = slash := by
        intro c hc
        simpa using List.mem_takeWhile_imp hc
      have hright : ∀ c ∈ ((e :: e' :: es).getLastD []).rtakeWhile (· = slash), c = slash := by
        intro c hc
        simpa using List.mem_rtakeWhile_imp hc
      rw [components_append_slashes _ hright, components_slashes_append hleft,
        components_intercalate, flatMap_components_filter, List.flatMap_map]
      simp only [components_trim]

end Components

/-! ## Following paths -/

lemma resolve_buildFilename (dir : List (List UInt8)) (e e' : List UInt8) :
    resolve dir (buildFilename [e, e']) = resolve (resolve dir e) e' := by
  simp [resolve, components_buildFilename]

/-- A name without slashes other than `.` and `..` is an entry of the directory, also with slashes
before it. -/
lemma resolve_of_name {p q : List UInt8} (dir : List (List UInt8)) (hp : ∀ c ∈ p, c = slash)
    (hq : slash ∉ q) (hne : q ≠ []) (hdot : q ≠ [dot]) (hdots : q ≠ [dot, dot]) :
    resolve dir (p ++ q) = dir ++ [q] := by
  rw [resolve, components_slashes_append hp, components_of_notMem hq hne]
  simp [enter, hdot, hdots]

end XappPortal.Lib.Path
