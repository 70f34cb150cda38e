/-
# Key files

The text format of `GKeyFile`: groups of keys with values, one a line.  A value is read from its
first byte on that is not white space, so that blanks at the beginning of a string and the bytes
that would end the line are written as escape sequences.

Whatever the strings are, the file that is written has the lines of its own groups and keys and no
others (`read_write`).  A string is read back as it was unless it begins with a form feed, which is
white space for the reader and is not escaped by the writer (`getString_escape_iff`).
-/
import Mathlib.Data.List.DropRight
import Mathlib.Data.List.Nodup
import Mathlib.Tactic.Common

namespace XappPortal.Lib.KeyFile

def tab : UInt8 := 9
def newline : UInt8 := 10
def formFeed : UInt8 := 12
def carriageReturn : UInt8 := 13
def space : UInt8 := 32
def hash : UInt8 := 35
def equalsSign : UInt8 := 61
def openBracket : UInt8 := 91
def backslash : UInt8 := 92
def closeBracket : UInt8 := 93

/-- `g_ascii_isspace`. -/
def isSpace (c : UInt8) : Bool :=
  c == tab || c == newline || c == formFeed || c == carriageReturn || c == space

/-- `g_ascii_iscntrl`. -/
def isControl (c : UInt8) : Bool := c < 32 || c == 127

/-! ## Strings as values -/

/-- The letter of the escape sequence for a byte, if it has one; white space at the beginning
has. -/
def letter (leading : Bool) (c : UInt8) : Option UInt8 :=
  if c = space then if leading then some 115 else none
  else if c = tab then if leading then some 116 else none
  else if c = newline then some 110
  else if c = carriageReturn then some 114
  else if c = backslash then some backslash
  else none

/-- Whether nothing but white space has been seen after a byte. -/
def stillLeading (leading : Bool) (c : UInt8) : Bool :=
  leading && (c == space || c == tab || c == newline || c == carriageReturn)

/-- `g_key_file_parse_string_as_value`; the flag tells whether only white space has been seen. -/
def escapeFrom : Bool → List UInt8 → List UInt8
  | _, [] => []
  | leading, c :: s =>
      match letter leading c with
      | some d => backslash :: d :: escapeFrom (stillLeading leading c) s
      | none => c :: escapeFrom (stillLeading leading c) s

/-- The value of a string. -/
def escape (s : List UInt8) : List UInt8 := escapeFrom true s

/-- The byte that an escape sequence stands for. -/
def unletter (c : UInt8) : Option UInt8 :=
  if c = 115 then some space
  else if c = 116 then some tab
  else if c = 110 then some newline
  else if c = 114 then some carriageReturn
  else if c = backslash then some backslash
  else none

/-- `g_key_file_parse_value_as_string`; `none` for an invalid escape sequence. -/
def unescape : List UInt8 → Option (List UInt8)
  | [] => some []
  | [c] => if c = backslash then none else some [c]
  | c :: d :: s =>
      if c = backslash then (unletter d).bind fun b => (unescape s).map (b :: ·)
      else (unescape (d :: s)).map (c :: ·)

/-! ## Reading -/

/-- A key with its value as it stands in the file, and its group. -/
structure Entry where
  group : List UInt8
  key : List UInt8
  value : List UInt8
deriving DecidableEq, Repr

/-- What has been read: the group of the last header, and the entries. -/
structure Reader where
  group : Option (List UInt8)
  entries : List Entry
deriving DecidableEq, Repr

/-- `g_key_file_is_group_name`. -/
def isGroupName (name : List UInt8) : Bool :=
  name ≠ [] && name.all fun c => c ≠ openBracket && c ≠ closeBracket && !isControl c

/-- `g_key_file_is_key_name`, for keys without a locale. -/
def isKeyName (key : List UInt8) : Bool :=
  key ≠ [] && key.head? ≠ some space && key.getLast? ≠ some space &&
    key.all fun c => c ≠ equalsSign && c ≠ openBracket && c ≠ closeBracket

/-- The name in a line that is a group header. -/
def groupHeader : List UInt8 → Option (List UInt8)
  | [] => none
  | c :: rest =>
      if c = openBracket then
        match rest.dropWhile (· ≠ closeBracket) with
        | [] => none
        | _ :: after =>
            if after.all fun c => c == space || c == tab then
              some (rest.takeWhile (· ≠ closeBracket))
            else none
      else none

/-- The key and the value in a line that has both. -/
def keyValuePair (line : List UInt8) : Option (List UInt8 × List UInt8) :=
  if equalsSign ∈ line ∧ line.head? ≠ some equalsSign then
    some ((line.takeWhile (· ≠ equalsSign)).rdropWhile isSpace,
      (line.dropWhile (· ≠ equalsSign)).tail.dropWhile isSpace)
  else none

/-- A line without the carriage return at its end. -/
def stripReturn (line : List UInt8) : List UInt8 :=
  if line.getLast? = some carriageReturn then line.dropLast else line

/-- `g_key_file_parse_line`; `none` for a line that makes the file invalid. -/
def Reader.readLine (r : Reader) (line : List UInt8) : Option Reader :=
  let line := (stripReturn line).dropWhile isSpace
  if line = [] ∨ line.head? = some hash then some r
  else
    match groupHeader line with
    | some name => if isGroupName name then some { r with group := some name } else none
    | none =>
        match r.group, keyValuePair line with
        | some group, some (key, value) =>
            if isKeyName key then some { r with entries := r.entries ++ [⟨group, key, value⟩] }
            else none
        | _, _ => none

/-- The entries of a file, if it is valid. -/
def read (text : List UInt8) : Option (List Entry) :=
  ((text.splitOn newline).foldlM Reader.readLine ⟨none, []⟩).map Reader.entries

/-- `g_key_file_get_value`: the last value of a key counts. -/
def getValue (entries : List Entry) (group key : List UInt8) : Option (List UInt8) :=
  (entries.reverse.find? fun e => e.group = group ∧ e.key = key).map Entry.value

/-- `g_key_file_get_string`, for files whose values are UTF-8, as texts are; it refuses others. -/
def getString (entries : List Entry) (group key : List UInt8) : Option (List UInt8) :=
  (getValue entries group key).bind unescape

/-! ## Writing -/

/-- The bytes that the Desktop Entry Specification allows in keys. -/
def isKeyByte (c : UInt8) : Bool :=
  (48 ≤ c && c ≤ 57) || (65 ≤ c && c ≤ 90) || (97 ≤ c && c ≤ 122) || c == 45

/-- A key as the Desktop Entry Specification has them. -/
def isPlainKey (key : List UInt8) : Bool := key ≠ [] && key.all isKeyByte

/-- A value that stays on its line. -/
def isOneLine (value : List UInt8) : Bool := newline ∉ value && carriageReturn ∉ value

/-- A group that has been set, with its keys and their values. -/
structure Group where
  name : List UInt8
  keys : List (List UInt8 × List UInt8)
  name_ok : isGroupName name = true
  keys_ok : ∀ p ∈ keys, isPlainKey p.1 = true
  values_ok : ∀ p ∈ keys, isOneLine p.2 = true

/-- The lines of a group. -/
def Group.lines (g : Group) : List (List UInt8) :=
  (openBracket :: g.name ++ [closeBracket]) :: g.keys.map fun p => p.1 ++ equalsSign :: p.2

/-- `g_key_file_to_data`: the groups are separated by empty lines. -/
def write (groups : List Group) : List UInt8 :=
  ([[]].intercalate (groups.map Group.lines)).flatMap fun line => line ++ [newline]

/-- The entries of a group as they are read. -/
def Group.entries (g : Group) : List Entry :=
  g.keys.map fun p => ⟨g.name, p.1, p.2.dropWhile isSpace⟩

/-! ## Escape sequences -/

section Escape

variable {c d : UInt8} {s t : List UInt8} {leading : Bool}

lemma unletter_of_letter (h : letter leading c = some d) : unletter d = some c := by
  rw [letter] at h
  split at h
  · next hc =>
    cases leading <;> simp at h
    subst h hc
    rfl
  · split at h
    · next hc =>
      cases leading <;> simp at h
      subst h hc
      rfl
    · split at h
      · next hc => subst hc; cases h; rfl
      · split at h
        · next hc => subst hc; cases h; rfl
        · split at h
          · next hc => subst hc; cases h; rfl
          · exact absurd h (by simp)

/-- The letters of escape sequences. -/
lemma mem_of_unletter (h : unletter d = some c) :
    d ∈ [115, 116, 110, 114, backslash] ∧ c ∈ [space, tab, newline, carriageReturn, backslash] := by
  rw [unletter] at h
  split at h
  · next hd => cases h; simp [hd]
  · split at h
    · next hd => cases h; simp [hd]
    · split at h
      · next hd => cases h; simp [hd]
      · split at h
        · next hd => cases h; simp [hd]
        · split at h
          · next hd => cases h; simp [hd]
          · exact absurd h (by simp)

/-- The bytes that are left alone. -/
lemma ne_of_letter (h : letter leading c = none) :
    c ≠ newline ∧ c ≠ carriageReturn ∧ c ≠ backslash ∧
      (leading = true → c ≠ space ∧ c ≠ tab) := by
  refine ⟨?_, ?_, ?_, ?_⟩
  · rintro rfl
    exact absurd h (by cases leading <;> decide)
  · rintro rfl
    exact absurd h (by cases leading <;> decide)
  · rintro rfl
    exact absurd h (by cases leading <;> decide)
  · rintro rfl
    constructor
    · rintro rfl
      exact absurd h (by decide)
    · rintro rfl
      exact absurd h (by decide)

lemma unescape_cons (hc : c ≠ backslash) (s : List UInt8) :
    unescape (c :: s) = (unescape s).map (c :: ·) := by
  cases s with
  | nil => simp [unescape, hc]
  | cons d s => rw [unescape, if_neg hc]

lemma unescape_backslash (d : UInt8) (s : List UInt8) :
    unescape (backslash :: d :: s) = (unletter d).bind fun b => (unescape s).map (b :: ·) := by
  rw [unescape, if_pos rfl]

lemma unescape_escapeFrom (leading : Bool) (s : List UInt8) :
    unescape (escapeFrom leading s) = some s := by
  induction s generalizing leading with
  | nil => rfl
  | cons c s ih =>
    rw [escapeFrom]
    split
    · next d hd => rw [unescape_backslash, unletter_of_letter hd, ih]; rfl
    · next hc => rw [unescape_cons (ne_of_letter hc).2.2.1, ih]; rfl

/-- **A string is what its value stands for.** -/
theorem unescape_escape (s : List UInt8) : unescape (escape s) = some s :=
  unescape_escapeFrom true s

/-- The value of a string stays on its line. -/
lemma isOneLine_escape (s : List UInt8) : isOneLine (escape s) = true := by
  have hmem : ∀ leading, ∀ b ∈ escapeFrom leading s, b ≠ newline ∧ b ≠ carriageReturn := by
    induction s with
    | nil => simp [escapeFrom]
    | cons c s ih =>
      intro leading b hb
      rw [escapeFrom] at hb
      split at hb
      · next d hd =>
        have hletter := (mem_of_unletter (unletter_of_letter hd)).1
        rcases List.mem_cons.mp hb with rfl | hb
        · decide
        · rcases List.mem_cons.mp hb with rfl | hb
          · simp only [List.mem_cons, List.not_mem_nil, or_false] at hletter
            rcases hletter with rfl | rfl | rfl | rfl | rfl <;> decide
          · exact ih _ b hb
      · next hc =>
        rcases List.mem_cons.mp hb with rfl | hb
        · exact ⟨(ne_of_letter hc).1, (ne_of_letter hc).2.1⟩
        · exact ih _ b hb
  rw [isOneLine, Bool.and_eq_true, decide_eq_true_iff, decide_eq_true_iff]
  exact ⟨fun h => (hmem true _ h).1 rfl, fun h => (hmem true _ h).2 rfl⟩

/-- Escape sequences never stand for a form feed. -/
lemma count_unescape (h : unescape s = some t) : t.count formFeed = s.count formFeed := by
  fun_induction unescape s generalizing t with
  | case1 => cases h; rfl
  | case2 => cases h
  | case3 => cases h; rfl
  | case4 d s ih =>
    obtain ⟨b, hb, h⟩ := Option.bind_eq_some_iff.mp h
    obtain ⟨t, ht, rfl⟩ := Option.map_eq_some_iff.mp h
    obtain ⟨hdmem, hbmem⟩ := mem_of_unletter hb
    have hdne : d ≠ formFeed := by
      rintro rfl
      exact absurd hdmem (by decide)
    have hbne : b ≠ formFeed := by
      rintro rfl
      exact absurd hbmem (by decide)
    rw [List.count_cons_of_ne hbne, List.count_cons_of_ne (by decide),
      List.count_cons_of_ne hdne, ih ht]
  | case5 c d s hc ih =>
    obtain ⟨t, ht, rfl⟩ := Option.map_eq_some_iff.mp h
    rw [List.count_cons, List.count_cons, ih ht]

/-- What the reader takes for the white space before a value. -/
lemma dropWhile_escape (h : s.head? ≠ some formFeed) : (escape s).dropWhile isSpace = escape s := by
  cases s with
  | nil => rfl
  | cons c s =>
    rw [escape, escapeFrom]
    split
    · exact List.dropWhile_cons_of_neg (by decide)
    · next hc =>
      obtain ⟨hnewline, hreturn, -, hblank⟩ := ne_of_letter hc
      obtain ⟨hspace, htab⟩ := hblank rfl
      have hfeed : c ≠ formFeed := by simpa using h
      exact List.dropWhile_cons_of_neg (by simp [isSpace, *])

/-- **A string is read back from its value exactly when it does not begin with a form feed.** -/
theorem unescape_dropWhile_escape_iff (s : List UInt8) :
    unescape ((escape s).dropWhile isSpace) = some s ↔ s.head? ≠ some formFeed := by
  refine ⟨fun h hfeed => ?_, fun h => by rw [dropWhile_escape h, unescape_escape]⟩
  cases s with
  | nil => exact absurd hfeed (by simp)
  | cons c s =>
    obtain rfl : c = formFeed := by simpa using hfeed
    have hcount : (escape (formFeed :: s)).count formFeed = (formFeed :: s).count formFeed :=
      (count_unescape (unescape_escape _)).symm
    -- the form feed is dropped, and nothing stands for another one
    have hdrop : ((escape (formFeed :: s)).dropWhile isSpace).count formFeed
        ≤ (escapeFrom false s).count formFeed := by
      have hfirst : (escape (formFeed :: s)).dropWhile isSpace
          = (escapeFrom false s).dropWhile isSpace := List.dropWhile_cons_of_pos (by decide)
      rw [hfirst]
      exact (List.dropWhile_suffix isSpace).sublist.count_le formFeed
    have hcons : (escape (formFeed :: s)).count formFeed
        = (escapeFrom false s).count formFeed + 1 := List.count_cons_self
    have := count_unescape h
    omega

end Escape

/-! ## Reading what has been written -/

section Lines

variable {c : UInt8} {key value line : List UInt8} {r : Reader}

lemma ne_of_isKeyByte (h : isKeyByte c = true) :
    isSpace c = false ∧ c ≠ hash ∧ c ≠ equalsSign ∧ c ≠ openBracket ∧ c ≠ closeBracket := by
  refine ⟨?_, ?_, ?_, ?_, ?_⟩
  · by_contra hspace
    simp only [isSpace, Bool.not_eq_false, Bool.or_eq_true, beq_iff_eq] at hspace
    rcases hspace with (((rfl | rfl) | rfl) | rfl) | rfl <;> exact absurd h (by decide)
  all_goals
    rintro rfl
    exact absurd h (by decide)

lemma stripReturn_of_notMem (h : carriageReturn ∉ line) : stripReturn line = line := by
  rw [stripReturn, if_neg]
  exact fun hlast => h (List.mem_of_getLast? hlast)

lemma isPlainKey_iff :
    isPlainKey key = true ↔ key ≠ [] ∧ ∀ c ∈ key, isKeyByte c = true := by
  simp [isPlainKey]

lemma isKeyName_of_plain (h : isPlainKey key = true) : isKeyName key = true := by
  obtain ⟨hne, hall⟩ := isPlainKey_iff.mp h
  have hspace : ∀ c ∈ key, c ≠ space := by
    rintro c hc rfl
    exact absurd (hall _ hc) (by decide)
  simp only [isKeyName, Bool.and_eq_true, decide_eq_true_iff, List.all_eq_true]
  refine ⟨⟨⟨hne, fun hhead => hspace _ (List.mem_of_head? hhead) rfl⟩,
    fun hlast => hspace _ (List.mem_of_getLast? hlast) rfl⟩, fun c hc => ?_⟩
  obtain ⟨-, -, heq, hopen, hclose⟩ := ne_of_isKeyByte (hall c hc)
  exact ⟨⟨heq, hopen⟩, hclose⟩

/-- A line with a key and a value. -/
lemma keyValuePair_append (h : isPlainKey key = true) (value : List UInt8) :
    keyValuePair (key ++ equalsSign :: value) = some (key, value.dropWhile isSpace) := by
  obtain ⟨hne, hall⟩ := isPlainKey_iff.mp h
  have hbytes : ∀ c ∈ key, decide (c ≠ equalsSign) = true := fun c hc =>
    decide_eq_true (ne_of_isKeyByte (hall c hc)).2.2.1
  have hhead : (key ++ equalsSign :: value).head? ≠ some equalsSign := by
    rw [List.head?_append_of_ne_nil _ hne]
    intro hh
    exact (ne_of_isKeyByte (hall _ (List.mem_of_head? hh))).2.2.1 rfl
  have htake : (key ++ equalsSign :: value).takeWhile (· ≠ equalsSign) = key := by
    rw [List.takeWhile_append_of_pos hbytes, List.takeWhile_cons_of_neg (by simp),
      List.append_nil]
  have hdrop : (key ++ equalsSign :: value).dropWhile (· ≠ equalsSign) = equalsSign :: value := by
    rw [List.dropWhile_append_of_pos hbytes, List.dropWhile_cons_of_neg (by simp)]
  have hkey : key.rdropWhile isSpace = key := by
    refine List.rdropWhile_eq_self_iff.mpr fun hne' => ?_
    simp [(ne_of_isKeyByte (hall _ (List.getLast_mem hne'))).1]
  rw [keyValuePair, if_pos ⟨by simp, hhead⟩, htake, hdrop, hkey]
  rfl

lemma readLine_pair {group : List UInt8} {entries : List Entry} (hkey : isPlainKey key = true)
    (hvalue : isOneLine value = true) :
    Reader.readLine ⟨some group, entries⟩ (key ++ equalsSign :: value)
      = some ⟨some group, entries ++ [⟨group, key, value.dropWhile isSpace⟩]⟩ := by
  obtain ⟨hne, hall⟩ := isPlainKey_iff.mp hkey
  obtain ⟨c, key', rfl⟩ := List.exists_cons_of_ne_nil hne
  obtain ⟨hspace, hhash, -, hopen, -⟩ := ne_of_isKeyByte (hall c (List.mem_cons_self ..))
  have hreturn : carriageReturn ∉ c :: key' ++ equalsSign :: value := by
    simp only [isOneLine, Bool.and_eq_true, decide_eq_true_iff] at hvalue
    rw [List.mem_append, List.mem_cons (a := carriageReturn) (b := equalsSign)]
    rintro (hmem | hmem | hmem)
    · exact absurd (hall _ hmem) (by decide)
    · exact absurd hmem (by decide)
    · exact hvalue.2 hmem
  have hline : (stripReturn (c :: key' ++ equalsSign :: value)).dropWhile isSpace
      = c :: key' ++ equalsSign :: value := by
    rw [stripReturn_of_notMem hreturn]
    exact List.dropWhile_cons_of_neg (by simp [hspace])
  have hgroup : groupHeader (c :: key' ++ equalsSign :: value) = none := if_neg hopen
  have hcontent : ¬ (c :: key' ++ equalsSign :: value = [] ∨
      (c :: key' ++ equalsSign :: value).head? = some hash) := by
    simp [hhash]
  rw [Reader.readLine, hline]
  simp only [if_neg hcontent, hgroup, keyValuePair_append hkey, isKeyName_of_plain hkey, if_true]

lemma readLine_header {name : List UInt8} (hname : isGroupName name = true) :
    r.readLine (openBracket :: name ++ [closeBracket]) = some { r with group := some name } := by
  have hbytes : ∀ c ∈ name, c ≠ closeBracket := by
    simp only [isGroupName, Bool.and_eq_true, List.all_eq_true, decide_eq_true_iff] at hname
    exact fun c hc => (hname.2 c hc).1.2
  have hline : (stripReturn (openBracket :: name ++ [closeBracket])).dropWhile isSpace
      = openBracket :: name ++ [closeBracket] := by
    have hlast : (openBracket :: name ++ [closeBracket]).getLast? ≠ some carriageReturn := by
      rw [List.getLast?_concat]
      decide
    rw [stripReturn, if_neg hlast]
    exact List.dropWhile_cons_of_neg (by decide)
  have hbytes' : ∀ c ∈ name, decide (c ≠ closeBracket) = true := fun c hc =>
    decide_eq_true (hbytes c hc)
  have hheader : groupHeader (openBracket :: name ++ [closeBracket]) = some name := by
    have hdrop : (name ++ [closeBracket]).dropWhile (· ≠ closeBracket) = [closeBracket] := by
      rw [List.dropWhile_append_of_pos hbytes', List.dropWhile_cons_of_neg (by simp)]
    have htake : (name ++ [closeBracket]).takeWhile (· ≠ closeBracket) = name := by
      rw [List.takeWhile_append_of_pos hbytes', List.takeWhile_cons_of_neg (by simp),
        List.append_nil]
    rw [List.cons_append, groupHeader, if_pos rfl, hdrop, htake]
    rfl
  have hcontent : ¬ (openBracket :: name ++ [closeBracket] = [] ∨
      (openBracket :: name ++ [closeBracket]).head? = some hash) := by
    rintro (hnil | hhead)
    · exact absurd hnil (by simp)
    · exact absurd (Option.some.inj hhead) (by decide)
  rw [Reader.readLine, hline]
  simp only [if_neg hcontent, hheader, hname, if_true]

lemma readLine_blank : r.readLine [] = some r := rfl

end Lines

/-! ## Whole files -/

section Files

variable {r : Reader}

lemma splitOn_flatMap {lines : List (List UInt8)} (h : ∀ line ∈ lines, newline ∉ line) :
    (lines.flatMap fun line => line ++ [newline]).splitOn newline = lines ++ [[]] := by
  induction lines with
  | nil => rfl
  | cons line lines ih =>
    have hline := List.splitOn_eq_singleton (h line (List.mem_cons_self ..))
    rw [List.flatMap_cons, List.append_assoc, List.singleton_append, List.splitOn_append_cons_self,
      hline, ih fun l hl => h l (List.mem_cons_of_mem _ hl)]
    rfl

lemma newline_notMem_lines (g : Group) : ∀ line ∈ g.lines, newline ∉ line := by
  intro line hline hmem
  rcases List.mem_cons.mp hline with rfl | hline
  · have hname := g.name_ok
    simp only [isGroupName, Bool.and_eq_true, List.all_eq_true] at hname
    have hbytes : ∀ c ∈ g.name, c ≠ newline := by
      rintro c hc rfl
      exact absurd (hname.2 _ hc) (by decide)
    simp only [List.mem_append, List.mem_cons, List.not_mem_nil, or_false] at hmem
    rcases hmem with (h | h) | h
    · exact absurd h (by decide)
    · exact hbytes _ h rfl
    · exact absurd h (by decide)
  · obtain ⟨p, hp, rfl⟩ := List.mem_map.mp hline
    have hvalue := g.values_ok p hp
    simp only [isOneLine, Bool.and_eq_true, decide_eq_true_iff] at hvalue
    rcases List.mem_append.mp hmem with h | h
    · exact absurd ((isPlainKey_iff.mp (g.keys_ok p hp)).2 _ h) (by decide)
    · rcases List.mem_cons.mp h with h | h
      · exact absurd h (by decide)
      · exact hvalue.1 h

/-- The keys of a group are read in its group. -/
lemma foldlM_keys (name : List UInt8) {keys : List (List UInt8 × List UInt8)}
    (hkeys : ∀ p ∈ keys, isPlainKey p.1 = true) (hvalues : ∀ p ∈ keys, isOneLine p.2 = true)
    (entries : List Entry) :
    (keys.map fun p => p.1 ++ equalsSign :: p.2).foldlM Reader.readLine ⟨some name, entries⟩
      = some ⟨some name, entries ++ keys.map fun p => ⟨name, p.1, p.2.dropWhile isSpace⟩⟩ := by
  induction keys generalizing entries with
  | nil => simp
  | cons p keys ih =>
    have hrest := ih (fun q hq => hkeys q (List.mem_cons_of_mem _ hq))
      (fun q hq => hvalues q (List.mem_cons_of_mem _ hq))
      (entries ++ [⟨name, p.1, p.2.dropWhile isSpace⟩])
    rw [List.map_cons, List.foldlM_cons, readLine_pair (hkeys p (List.mem_cons_self ..))
      (hvalues p (List.mem_cons_self ..))]
    simpa using hrest

lemma foldlM_group (g : Group) (r : Reader) :
    g.lines.foldlM Reader.readLine r = some ⟨some g.name, r.entries ++ g.entries⟩ := by
  rw [Group.lines, List.foldlM_cons, readLine_header g.name_ok]
  exact foldlM_keys g.name g.keys_ok g.values_ok r.entries

/-- The lines of several groups. -/
lemma lines_cons_cons (g g' : Group) (groups : List Group) :
    [[]].intercalate ((g :: g' :: groups).map Group.lines)
      = g.lines ++ [] :: [[]].intercalate ((g' :: groups).map Group.lines) := by
  simp [List.intercalate]

lemma newline_notMem_groups (groups : List Group) :
    ∀ line ∈ [[]].intercalate (groups.map Group.lines), newline ∉ line := by
  induction groups with
  | nil => simp [List.intercalate]
  | cons g groups ih =>
    cases groups with
    | nil => simpa [List.intercalate] using newline_notMem_lines g
    | cons g' groups =>
      rw [lines_cons_cons]
      intro line hline
      rcases List.mem_append.mp hline with h | h
      · exact newline_notMem_lines g line h
      · rcases List.mem_cons.mp h with rfl | h
        · exact List.not_mem_nil
        · exact ih line h

/-- The groups are read one after the other, with the empty lines between them. -/
lemma foldlM_groups (groups : List Group) (r : Reader) :
    (([[]].intercalate (groups.map Group.lines)).foldlM Reader.readLine r).map Reader.entries
      = some (r.entries ++ groups.flatMap Group.entries) := by
  induction groups generalizing r with
  | nil => simp [List.intercalate]
  | cons g groups ih =>
    cases groups with
    | nil => simp [List.intercalate, foldlM_group]
    | cons g' groups =>
      have hrest := ih ⟨some g.name, r.entries ++ g.entries⟩
      rw [lines_cons_cons, List.foldlM_append, foldlM_group, Option.bind_eq_bind, Option.bind_some,
        List.foldlM_cons, readLine_blank, Option.bind_eq_bind, Option.bind_some, hrest]
      simp

/-- **A file that is written has the entries of its groups and no others**, whatever the values
are. -/
theorem read_write (groups : List Group) :
    read (write groups) = some (groups.flatMap Group.entries) := by
  rw [read, write, splitOn_flatMap (newline_notMem_groups groups), List.foldlM_append]
  have hread := foldlM_groups groups ⟨none, []⟩
  obtain ⟨r, hr, hentries⟩ := Option.map_eq_some_iff.mp hread
  rw [hr, Option.bind_eq_bind, Option.bind_some, List.foldlM_cons, readLine_blank]
  exact congrArg some hentries

variable {g : Group} {key value : List UInt8}

/-- The value of a key that is set once. -/
lemma getValue_of_mem (hnodup : (g.keys.map Prod.fst).Nodup) (h : (key, value) ∈ g.keys) :
    getValue g.entries g.name key = some (value.dropWhile isSpace) := by
  have hmem : (⟨g.name, key, value.dropWhile isSpace⟩ : Entry) ∈ g.entries.reverse := by
    rw [List.mem_reverse]
    exact List.mem_map.mpr ⟨(key, value), h, rfl⟩
  have hsome : (g.entries.reverse.find? fun e => e.group = g.name ∧ e.key = key).isSome := by
    rw [List.find?_isSome]
    exact ⟨_, hmem, by simp⟩
  obtain ⟨e, he⟩ := Option.isSome_iff_exists.mp hsome
  -- what is found has the key, and is the only entry with it
  have hfound := List.find?_some he
  simp only [decide_eq_true_iff] at hfound
  obtain ⟨p, hp, rfl⟩ := List.mem_map.mp (List.mem_reverse.mp (List.mem_of_find?_eq_some he))
  obtain rfl : p = (key, value) := List.inj_on_of_nodup_map hnodup hp h hfound.2
  rw [getValue, he]
  rfl

lemma getValue_of_notMem (h : key ∉ g.keys.map Prod.fst) :
    getValue g.entries g.name key = none := by
  rw [getValue, Option.map_eq_none_iff, List.find?_eq_none]
  intro e he
  obtain ⟨p, hp, rfl⟩ := List.mem_map.mp (List.mem_reverse.mp he)
  simp only [decide_eq_true_iff]
  rintro ⟨-, rfl⟩
  exact h (List.mem_map_of_mem hp)

/-- A string that is set once is read back exactly when it does not begin with a form feed. -/
theorem getString_escape_iff {s : List UInt8} (hnodup : (g.keys.map Prod.fst).Nodup)
    (h : (key, escape s) ∈ g.keys) :
    getString g.entries g.name key = some s ↔ s.head? ≠ some formFeed := by
  rw [getString, getValue_of_mem hnodup h, Option.bind_some]
  exact unescape_dropWhile_escape_iff s

end Files

end XappPortal.Lib.KeyFile
