/-
# Parent windows

Callers name the parent window of a dialog by a handle: `x11:` with the number of an X11 window, or
`wayland:` with an exported handle.  The number is converted by the C library, and what remains of
the string and the range of the value are checked; but the conversion skips white space and takes a
sign, and no check is about the beginning of the string (`parsedByGrammar_iff`).

The displays and what they know about windows are left open.
-/
import XappPortal.Lib.Numeral

namespace XappPortal.External

open XappPortal.Lib.Numeral

/-- `G_MAXUINT32`. -/
def maxUInt32 : UInt64 := 0xffffffff

/-- The warnings of this part of the portal. -/
inductive Warning where
  | invalidXid (handleStr : String)
  | noXDisplay
  | noForeignWindow (xid : UInt64)
  | emptyHandle
  | noWaylandDisplay
  | unhandledType (handleStr : String)
deriving DecidableEq, Repr

/-- The text of a warning. -/
def Warning.text : Warning → String
  | .invalidXid s => "Failed to reference external X11 window, invalid XID '" ++ s ++ "'"
  | .noXDisplay => "No X display connection, ignoring X11 parent"
  | .noForeignWindow xid =>
      "Failed to create foreign window for XID 0x" ++ String.ofList (Nat.toDigits 16 xid.toNat)
  | .emptyHandle => "Failed to reference external Wayland window, empty handle"
  | .noWaylandDisplay => "No Wayland display connection, ignoring Wayland parent"
  | .unhandledType s => "Unhandled parent window type " ++ s

/-- An external window on displays `δ`, with foreign windows `ω` of X11. -/
inductive ExternalWindow (δ ω : Type) where
  | x11 (display : δ) (foreignGdkWindow : ω)
  | wayland (display : δ) (handleStr : String)
deriving DecidableEq, Repr

variable {δ ω : Type}

/-- The conversion at the head of `external_window_x11_new` and its check; `none` if the handle is
an invalid XID. -/
def validXid (handleStr : String) : Option UInt64 :=
  let conversion := strtoull handleStr.toList
  let xid := conversion.value
  if conversion.rest = handleStr.toList ∨ conversion.rest ≠ [] ∨ xid = 0 ∨ xid > maxUInt32 then none
  else some xid

/-- `external_window_x11_new`, with the X11 display and what it makes of window ids. -/
def externalWindowX11New (getX11Display : Option δ) (foreignNew : δ → UInt64 → Option ω)
    (handleStr : String) : Except Warning (ExternalWindow δ ω) :=
  match validXid handleStr with
  | none => .error (.invalidXid handleStr)
  | some xid =>
      match getX11Display with
      | none => .error .noXDisplay
      | some display =>
          match foreignNew display xid with
          | none => .error (.noForeignWindow xid)
          | some foreignGdkWindow => .ok (.x11 display foreignGdkWindow)

/-- `external_window_wayland_new`, with the Wayland display. -/
def externalWindowWaylandNew (getWaylandDisplay : Option δ) (handleStr : String) :
    Except Warning (ExternalWindow δ ω) :=
  if handleStr.toList = [] then .error .emptyHandle
  else
    match getWaylandDisplay with
    | none => .error .noWaylandDisplay
    | some display => .ok (.wayland display handleStr)

/-- `create_external_window_from_handle`; without a handle there is no window and no warning. -/
def createExternalWindowFromHandle (getX11Display getWaylandDisplay : Option δ)
    (foreignNew : δ → UInt64 → Option ω) (handleStr : Option String) :
    Option (Except Warning (ExternalWindow δ ω)) :=
  match handleStr with
  | none => none
  | some s =>
      if s.toList = [] then none
      else if "x11:".toList.isPrefixOf s.toList then
        some (externalWindowX11New getX11Display foreignNew (String.ofList (s.toList.drop 4)))
      else if "wayland:".toList.isPrefixOf s.toList then
        some (externalWindowWaylandNew getWaylandDisplay (String.ofList (s.toList.drop 8)))
      else some (.error (.unhandledType s))

/-- What follows the prefix `x11:` is handed on. -/
lemma createExternalWindowFromHandle_x11 (getX11Display getWaylandDisplay : Option δ)
    (foreignNew : δ → UInt64 → Option ω) (s : String) :
    createExternalWindowFromHandle getX11Display getWaylandDisplay foreignNew (some ("x11:" ++ s)) =
      some (externalWindowX11New getX11Display foreignNew s) := by
  have hlist : ("x11:" ++ s).toList = 'x' :: '1' :: '1' :: ':' :: s.toList := by simp
  simp [createExternalWindowFromHandle, hlist]

/-! ## Validation -/

/-- `external_window_x11_new` goes on with the window id `x`. -/
def PassesValidation (handleStr : String) (x : ℕ) : Prop :=
  ∃ xid, validXid handleStr = some xid ∧ xid.toNat = x

/-- Whatever the displays are like, `external_window_x11_new` warns about an invalid XID. -/
def Rejected (handleStr : String) : Prop :=
  ∀ (δ ω : Type) (getX11Display : Option δ) (foreignNew : δ → UInt64 → Option ω),
    externalWindowX11New getX11Display foreignNew handleStr = .error (.invalidXid handleStr)

lemma rejected_of_not_passes {s : String} (h : ∀ x, ¬ PassesValidation s x) : Rejected s := by
  have hnone : validXid s = none :=
    Option.eq_none_iff_forall_not_mem.mpr fun xid hxid => h _ ⟨xid, hxid, rfl⟩
  intro δ ω getX11Display foreignNew
  rw [externalWindowX11New, hnone]

/-- A handle that passes is looked up under its window id. -/
lemma externalWindowX11New_of_passes {s : String} {x : ℕ} (h : PassesValidation s x) (display : δ)
    (foreignNew : δ → UInt64 → Option ω) {w : ω}
    (hw : foreignNew display (UInt64.ofNat x) = some w) :
    externalWindowX11New (some display) foreignNew s = .ok (.x11 display w) := by
  obtain ⟨xid, hxid, rfl⟩ := h
  rw [UInt64.ofNat_toNat] at hw
  simp only [externalWindowX11New, hxid, hw]

lemma validXid_eq_some_iff {s : String} {xid : UInt64} :
    validXid s = some xid ↔
      (strtoull s.toList = ⟨xid, []⟩ ∧ s.toList ≠ []) ∧ 1 ≤ xid.toNat ∧ xid.toNat ≤ 0xffffffff := by
  have hzero : xid = 0 ↔ xid.toNat = 0 := by
    rw [← UInt64.toNat_inj]
    rfl
  have hmax : xid > maxUInt32 ↔ 0xffffffff < xid.toNat := by
    rw [gt_iff_lt, UInt64.lt_iff_toNat_lt]
    rfl
  rw [validXid]
  obtain ⟨value, rest⟩ := strtoull s.toList
  simp only [Conversion.mk.injEq]
  constructor
  · intro h
    split at h
    · exact absurd h (by simp)
    · next hvalid =>
      obtain rfl := Option.some.inj h
      simp only [not_or, not_not] at hvalid
      obtain ⟨hne, rfl, hvalue, hle⟩ := hvalid
      rw [hzero] at hvalue
      rw [hmax] at hle
      exact ⟨⟨⟨rfl, rfl⟩, Ne.symm hne⟩, by omega, by omega⟩
  · rintro ⟨⟨⟨rfl, rfl⟩, hne⟩, hpos, hle⟩
    rw [if_neg]
    rw [hzero, hmax]
    simp only [not_or, not_not]
    exact ⟨Ne.symm hne, trivial, by omega, by omega⟩

/-- The values of numerals behind a sign that are window ids. -/
def InRange (sign : Sign) (v : ℕ) : Prop :=
  match sign with
  | .minus => 0xffffffff00000001 ≤ v ∧ v ≤ 0xffffffffffffffff
  | .none | .plus => 1 ≤ v ∧ v ≤ 0xffffffff

lemma convert_inRange_iff {sign : Sign} {v : ℕ} :
    1 ≤ (convert sign v).toNat ∧ (convert sign v).toNat ≤ 0xffffffff ↔ InRange sign v := by
  have hsize : UInt64.size = 0x10000000000000000 := rfl
  rcases Nat.lt_or_ge v UInt64.size with hv | hv
  · cases sign with
    | minus =>
      rw [toNat_convert_minus hv, InRange]
      rw [hsize] at hv ⊢
      omega
    | none => rw [toNat_convert_of_lt (by simp) hv, InRange]
    | plus => rw [toNat_convert_of_lt (by simp) hv, InRange]
  · rw [toNat_convert_of_le hv]
    cases sign <;> simp only [InRange] <;> omega

/-- **The handles that pass**: numerals behind white space and a sign, with a value in range. -/
theorem passesValidation_iff {s : String} {x : ℕ} :
    PassesValidation s x ↔ ∃ blanks sign t v, s.toList = blanks ++ Sign.text sign ++ t ∧
      (∀ c ∈ blanks, isSpace c = true) ∧ IsNumeral t v ∧ InRange sign v ∧
      x = (convert sign v).toNat := by
  constructor
  · rintro ⟨xid, hxid, rfl⟩
    obtain ⟨hread, hrange⟩ := validXid_eq_some_iff.mp hxid
    obtain ⟨blanks, sign, t, v, hs, hblanks, ht, rfl⟩ := strtoull_eq_iff.mp hread
    exact ⟨blanks, sign, t, v, hs, hblanks, ht, convert_inRange_iff.mp hrange, rfl⟩
  · rintro ⟨blanks, sign, t, v, hs, hblanks, ht, hrange, rfl⟩
    refine ⟨convert sign v, validXid_eq_some_iff.mpr ⟨?_, convert_inRange_iff.mpr hrange⟩, rfl⟩
    exact strtoull_eq_iff.mpr ⟨blanks, sign, t, v, hs, hblanks, ht, rfl⟩

example : validXid "0x2a00007" = some 0x2a00007 := by decide

/-! ## The grammar of window ids -/

/-- The handle is parsed by the grammar of window ids: it passes with `x` exactly if it is an
unsigned hexadecimal numeral of value `x`, which is a window id, and is rejected if it is none. -/
structure ParsedByGrammar (s : String) : Prop where
  passes_iff : ∀ x, PassesValidation s x ↔ IsNumeral s.toList x ∧ 1 ≤ x ∧ x ≤ 0xffffffff
  rejected : (∀ x, ¬ (IsNumeral s.toList x ∧ 1 ≤ x ∧ x ≤ 0xffffffff)) → Rejected s

lemma ParsedByGrammar.of_passes_iff {s : String}
    (h : ∀ x, PassesValidation s x ↔ IsNumeral s.toList x ∧ 1 ≤ x ∧ x ≤ 0xffffffff) :
    ParsedByGrammar s :=
  ⟨h, fun hnone => rejected_of_not_passes fun x hx => hnone x ((h x).mp hx)⟩

/-- White space or a sign stands before a numeral whose converted value is in range. -/
def HasLenientPrefix (s : String) : Prop :=
  ∃ blanks sign t v, s.toList = blanks ++ Sign.text sign ++ t ∧
    (∀ c ∈ blanks, isSpace c = true) ∧ IsNumeral t v ∧ InRange sign v ∧
    (blanks ≠ [] ∨ sign ≠ .none)

/-- A numeral has neither white space nor a sign in front. -/
lemma not_isNumeral_of_lenient {blanks t : List Char} {sign : Sign} {x : ℕ}
    (hblanks : ∀ c ∈ blanks, isSpace c = true) (hfront : blanks ≠ [] ∨ sign ≠ .none) :
    ¬ IsNumeral (blanks ++ sign.text ++ t) x := by
  intro h
  obtain ⟨c, t', heq, hc⟩ := h.head
  obtain ⟨hspace, hplus, hminus⟩ := not_space_of_hexDigit hc
  cases blanks with
  | cons b blanks =>
    obtain ⟨rfl, -⟩ := List.cons.inj heq
    rw [hblanks b (List.mem_cons_self ..)] at hspace
    exact Bool.noConfusion hspace
  | nil =>
    cases sign with
    | none => exact hfront.elim (fun h => h rfl) fun h => h rfl
    | plus => exact hplus (List.cons.inj heq).1.symm
    | minus => exact hminus (List.cons.inj heq).1.symm

/-- **A handle is parsed by the grammar unless white space or a sign stands before a numeral of a
value in range**, and then it is not. -/
theorem parsedByGrammar_iff (s : String) : ParsedByGrammar s ↔ ¬ HasLenientPrefix s := by
  constructor
  · rintro h ⟨blanks, sign, t, v, hs, hblanks, ht, hrange, hfront⟩
    have hpasses := passesValidation_iff.mpr ⟨blanks, sign, t, v, hs, hblanks, ht, hrange, rfl⟩
    have hnumeral := ((h.passes_iff _).mp hpasses).1
    rw [hs] at hnumeral
    exact not_isNumeral_of_lenient hblanks hfront hnumeral
  · intro h
    refine .of_passes_iff fun x => ⟨?_, ?_⟩
    · intro hpasses
      obtain ⟨blanks, sign, t, v, hs, hblanks, ht, hrange, rfl⟩ := passesValidation_iff.mp hpasses
      have hplain : blanks = [] ∧ sign = .none := by
        by_contra hne
        exact h ⟨blanks, sign, t, v, hs, hblanks, ht, hrange, by tauto⟩
      obtain ⟨rfl, rfl⟩ := hplain
      have hlt : v < UInt64.size := Nat.lt_of_le_of_lt hrange.2 (by decide)
      rw [toNat_convert_of_lt (by simp) hlt, hs]
      exact ⟨ht, hrange⟩
    · rintro ⟨hnumeral, hrange⟩
      refine passesValidation_iff.mpr ⟨[], .none, s.toList, x, rfl, by simp, hnumeral, hrange, ?_⟩
      exact (toNat_convert_of_lt (by simp) (Nat.lt_of_le_of_lt hrange.2 (by decide))).symm

/-- A negative number is taken for the window id `0xffffffff`. -/
theorem not_parsedByGrammar : ¬ ∀ s, ParsedByGrammar s := by
  intro h
  have hpasses : PassesValidation "-ffffffff00000001" 0xffffffff := ⟨0xffffffff, by decide, rfl⟩
  obtain ⟨c, t, heq, hc⟩ := (((h _).passes_iff _).mp hpasses).1.head
  obtain ⟨rfl, -⟩ := List.cons.inj heq
  exact absurd hc (by decide)

end XappPortal.External
