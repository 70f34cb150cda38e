/-
# Reading hexadecimal numerals

Unsigned hexadecimal numerals with their values, and the conversion of C libraries that reads more
than numerals: it skips white space, takes a sign, and stops where the digits end.  What it reads to
the end is a numeral behind white space and a sign (`strtoull_eq_iff`).
-/
import Mathlib.Data.List.TakeWhile
import Mathlib.Tactic.Common

namespace XappPortal.Lib.Numeral

/-! ## Numerals -/

/-- `isxdigit`. -/
def isHexDigit (c : Char) : Bool :=
  ('0' ≤ c && c ≤ '9') || ('A' ≤ c && c ≤ 'F') || ('a' ≤ c && c ≤ 'f')

/-- The value of a digit. -/
def digitValue (c : Char) : ℕ :=
  if c ≤ '9' then c.toNat - '0'.toNat
  else if c ≤ 'F' then c.toNat - 'A'.toNat + 10
  else c.toNat - 'a'.toNat + 10

/-- The value of a sequence of digits. -/
def digitsValue (ds : List Char) : ℕ := ds.foldl (fun v c => 16 * v + digitValue c) 0

/-- Unsigned hexadecimal numerals and their values. -/
inductive IsNumeral : List Char → ℕ → Prop where
  | plain {ds : List Char} (hne : ds ≠ []) (hds : ∀ c ∈ ds, isHexDigit c = true) :
      IsNumeral ds (digitsValue ds)
  | prefixed {x : Char} {ds : List Char} (hx : x = 'x' ∨ x = 'X') (hne : ds ≠ [])
      (hds : ∀ c ∈ ds, isHexDigit c = true) : IsNumeral ('0' :: x :: ds) (digitsValue ds)

/-! ## The conversion -/

/-- `isspace`. -/
def isSpace (c : Char) : Bool := c ∈ [' ', '\t', '\n', '\x0b', '\x0c', '\r']

/-- A sign, or none. -/
inductive Sign where
  | none
  | plus
  | minus
deriving DecidableEq, Repr

/-- The sign as it is written. -/
def Sign.text : Sign → List Char
  | .none => []
  | .plus => ['+']
  | .minus => ['-']

/-- The sign at the front, and what comes after it. -/
def takeSign : List Char → Sign × List Char
  | '-' :: s => (.minus, s)
  | '+' :: s => (.plus, s)
  | s => (.none, s)

/-- What comes after the prefix of hexadecimal numerals. -/
def afterPrefix : List Char → Option (List Char)
  | '0' :: x :: s => if x = 'x' ∨ x = 'X' then some s else none
  | _ => none

/-- The value that is returned: the greatest one if the number is too great, whatever its sign, and
the negation modulo `2 ^ 64` after a minus sign. -/
def convert (sign : Sign) (v : ℕ) : UInt64 :=
  if UInt64.size ≤ v then UInt64.ofNat (UInt64.size - 1)
  else if sign = .minus then -UInt64.ofNat v
  else UInt64.ofNat v

/-- A value, and the part of the string from the end pointer on. -/
structure Conversion where
  value : UInt64
  rest : List Char
deriving DecidableEq, Repr

/-- `g_ascii_strtoull` with base 16. -/
def strtoull (s : List Char) : Conversion :=
  let (sign, t) := takeSign (s.dropWhile isSpace)
  let digits := (afterPrefix t).getD t
  if digits.takeWhile isHexDigit = [] then
    -- without digits after the prefix its zero is the number, and else there is none
    ⟨0, if (afterPrefix t).isSome then t.tail else s⟩
  else ⟨convert sign (digitsValue (digits.takeWhile isHexDigit)), digits.dropWhile isHexDigit⟩

section Convert

variable {sign : Sign} {v : ℕ}

lemma toNat_convert_of_lt (hsign : sign ≠ .minus) (hv : v < UInt64.size) :
    (convert sign v).toNat = v := by
  rw [convert, if_neg (Nat.not_le.mpr hv), if_neg hsign]
  exact UInt64.toNat_ofNat_of_lt' hv

lemma toNat_convert_minus (hv : v < UInt64.size) :
    (convert .minus v).toNat = (UInt64.size - v) % UInt64.size := by
  rw [convert, if_neg (Nat.not_le.mpr hv), if_pos rfl]
  refine (UInt64.toNat_neg _).trans ?_
  exact congrArg (fun m => (UInt64.size - m) % UInt64.size) (UInt64.toNat_ofNat_of_lt' hv)

lemma toNat_convert_of_le (hv : UInt64.size ≤ v) :
    (convert sign v).toNat = UInt64.size - 1 := by
  rw [convert, if_pos hv]
  rfl

end Convert

/-! ## What is read to the end -/

variable {s t : List Char} {c : Char} {v : ℕ}

lemma takeSign_text (s : List Char) : s = (takeSign s).1.text ++ (takeSign s).2 := by
  rw [takeSign.eq_def]
  split <;> rfl

/-- A numeral begins with a digit. -/
lemma IsNumeral.head (h : IsNumeral s v) : ∃ c t, s = c :: t ∧ isHexDigit c = true := by
  cases h with
  | plain hne hds =>
    obtain ⟨c, t, rfl⟩ := List.exists_cons_of_ne_nil hne
    exact ⟨c, t, rfl, hds c (List.mem_cons_self ..)⟩
  | prefixed hx hne hds => exact ⟨'0', _, rfl, by decide⟩

/-- White space and signs are not digits. -/
lemma not_space_of_hexDigit (h : isHexDigit c = true) : isSpace c = false ∧ c ≠ '+' ∧ c ≠ '-' := by
  refine ⟨?_, fun hc => ?_, fun hc => ?_⟩
  · rw [isSpace, decide_eq_false_iff_not]
    intro hmem
    simp only [List.mem_cons, List.not_mem_nil, or_false] at hmem
    rcases hmem with rfl | rfl | rfl | rfl | rfl | rfl <;> exact absurd h (by decide)
  · rw [hc] at h
    exact absurd h (by decide)
  · rw [hc] at h
    exact absurd h (by decide)

lemma takeSign_numeral (sign : Sign) (h : IsNumeral t v) :
    takeSign (sign.text ++ t) = (sign, t) := by
  obtain ⟨c, t, rfl, hc⟩ := h.head
  obtain ⟨-, hplus, hminus⟩ := not_space_of_hexDigit hc
  cases sign with
  | none =>
    rw [Sign.text, List.nil_append, takeSign.eq_def]
    split
    · next heq => exact absurd (List.cons.inj heq).1 hminus
    · next heq => exact absurd (List.cons.inj heq).1 hplus
    · rfl
  | plus => rfl
  | minus => rfl

lemma dropWhile_blanks {blanks : List Char} (hblanks : ∀ c ∈ blanks, isSpace c = true)
    (sign : Sign) (h : IsNumeral t v) :
    (blanks ++ sign.text ++ t).dropWhile isSpace = sign.text ++ t := by
  rw [List.append_assoc, List.dropWhile_append_of_pos hblanks]
  obtain ⟨c, t, rfl, hc⟩ := h.head
  have hspace := (not_space_of_hexDigit hc).1
  cases sign with
  | none => simp [Sign.text, hspace]
  | plus => rfl
  | minus => rfl

lemma afterPrefix_of_digits (h : ∀ c ∈ t, isHexDigit c = true) : afterPrefix t = none := by
  rw [afterPrefix.eq_def]
  split
  · next x s =>
    have hx : isHexDigit x = true := h x (by simp)
    rw [if_neg]
    rintro (rfl | rfl)
    · exact absurd hx (by decide)
    · exact absurd hx (by decide)
  · rfl

/-- The digits of a numeral. -/
lemma IsNumeral.digits (h : IsNumeral t v) :
    ((afterPrefix t).getD t).takeWhile isHexDigit ≠ [] ∧
    digitsValue (((afterPrefix t).getD t).takeWhile isHexDigit) = v ∧
    ((afterPrefix t).getD t).dropWhile isHexDigit = [] := by
  cases h with
  | plain hne hds =>
    rw [afterPrefix_of_digits hds, Option.getD_none, List.takeWhile_eq_self_iff.mpr hds]
    exact ⟨hne, rfl, List.dropWhile_eq_nil_iff.mpr hds⟩
  | prefixed hx hne hds =>
    rw [afterPrefix, if_pos hx, Option.getD_some, List.takeWhile_eq_self_iff.mpr hds]
    exact ⟨hne, rfl, List.dropWhile_eq_nil_iff.mpr hds⟩

lemma strtoull_numeral {blanks : List Char} (hblanks : ∀ c ∈ blanks, isSpace c = true)
    (sign : Sign) (h : IsNumeral t v) :
    strtoull (blanks ++ sign.text ++ t) = ⟨convert sign v, []⟩ := by
  obtain ⟨hne, hvalue, hrest⟩ := h.digits
  simp only [strtoull, dropWhile_blanks hblanks sign h, takeSign_numeral sign h, if_neg hne,
    hvalue, hrest]

/-- What is nothing but digits, after the prefix if there is one, is a numeral. -/
lemma isNumeral_of_digits (hne : ((afterPrefix t).getD t).takeWhile isHexDigit ≠ [])
    (hrest : ((afterPrefix t).getD t).dropWhile isHexDigit = []) :
    IsNumeral t (digitsValue (((afterPrefix t).getD t).takeWhile isHexDigit)) := by
  have hds := List.dropWhile_eq_nil_iff.mp hrest
  rw [List.takeWhile_eq_self_iff.mpr hds] at hne ⊢
  revert hne hds
  rw [afterPrefix.eq_def]
  split
  · next x s =>
    split
    · next hx => exact fun hne hds => .prefixed hx hne hds
    · exact fun hne hds => .plain hne hds
  · exact fun hne hds => .plain hne hds

/-- **A string is read to its end exactly when it is a numeral behind white space and a sign.** -/
theorem strtoull_eq_iff {x : UInt64} :
    strtoull s = ⟨x, []⟩ ∧ s ≠ [] ↔
      ∃ blanks sign t v, s = blanks ++ Sign.text sign ++ t ∧
        (∀ c ∈ blanks, isSpace c = true) ∧ IsNumeral t v ∧ x = convert sign v := by
  constructor
  · rintro ⟨h, hne⟩
    have hs : s = s.takeWhile isSpace ++ (takeSign (s.dropWhile isSpace)).1.text ++
        (takeSign (s.dropWhile isSpace)).2 := by
      rw [List.append_assoc, ← takeSign_text, List.takeWhile_append_dropWhile]
    have hread : ∃ v, IsNumeral (takeSign (s.dropWhile isSpace)).2 v ∧
        x = convert (takeSign (s.dropWhile isSpace)).1 v := by
      rw [strtoull] at h
      simp only at h
      split at h
      · -- there is something after the end pointer
        obtain ⟨-, hrest⟩ := Conversion.mk.inj h
        split at hrest
        · next hfront =>
          rw [afterPrefix.eq_def] at hfront
          split at hfront
          · next heq => exact absurd hrest (by simp [heq])
          · exact absurd hfront (by simp)
        · exact absurd hrest hne
      · next hdigits =>
        obtain ⟨hvalue, hrest⟩ := Conversion.mk.inj h
        exact ⟨_, isNumeral_of_digits hdigits hrest, hvalue.symm⟩
    obtain ⟨v, ht, hx⟩ := hread
    exact ⟨_, _, _, v, hs, fun c hc => List.mem_takeWhile_imp hc, ht, hx⟩
  · rintro ⟨blanks, sign, t, v, rfl, hblanks, ht, rfl⟩
    obtain ⟨c, t', rfl, -⟩ := ht.head
    exact ⟨strtoull_numeral hblanks sign ht, by simp⟩

end XappPortal.Lib.Numeral
