/-
# Splitting command lines like a shell

The word rules of `g_shell_parse_argv` and `g_shell_unquote`: blanks separate words, single and
double quotes and backslashes protect characters, and `#` starts a comment.  Command lines are
strings of bytes.

A word spells an argument (`Spells`) if it is read as one word, whatever stands before it, and
unquoted to the argument.  Words that spell something can be joined by blanks
(`parseArgv_intercalate`); how words are written, by quoting or because no byte needs it, is then a
matter of each word alone (`spells_quote`, `spells_of_plain`).
-/
import Mathlib.Data.List.Basic
import Mathlib.Data.List.Count
import Mathlib.Tactic.Common

namespace XappPortal.Lib.Shell

/-! ## The bytes with a meaning -/

def tab : UInt8 := 9
def newline : UInt8 := 10
def space : UInt8 := 32
def doubleQuote : UInt8 := 34
def hash : UInt8 := 35
def dollar : UInt8 := 36
def singleQuote : UInt8 := 39
def backslash : UInt8 := 92
def backquote : UInt8 := 96

/-- The bytes that are never part of a word by themselves. -/
def special : List UInt8 := [tab, newline, space, doubleQuote, hash, singleQuote, backslash]

/-! ## Words -/

/-- What the next byte is subject to. -/
inductive Quote where
  | none
  | backslash
  /-- Directly after the `#` of a comment. -/
  | hash
  | comment
  | single
  | double
deriving DecidableEq, Repr

/-- The state of `tokenize_command_line`. -/
structure Lexer where
  quote : Quote
  /-- Whether an odd number of backslashes stands directly before. -/
  quoted : Bool
  previous : Option UInt8
  token : Option (List UInt8)
  tokens : List (List UInt8)
deriving DecidableEq, Repr

namespace Lexer

/-- The lexer before the first byte. -/
def start : Lexer := ⟨.none, false, none, none, []⟩

/-- Append a byte to the token, which is begun if there is none. -/
def append (L : Lexer) (c : UInt8) : Lexer := { L with token := some (L.token.getD [] ++ [c]) }

/-- `delimit_token`. -/
def delimit (L : Lexer) : Lexer :=
  match L.token with
  | none => L
  | some t => { L with token := none, tokens := L.tokens ++ [t] }

/-- An unquoted byte. -/
def readPlain (L : Lexer) (c : UInt8) : Lexer :=
  if c = newline then L.delimit
  else if c = space ∨ c = tab then
    if L.token.getD [] = [] then L else L.delimit
  else if c = singleQuote then { L.append c with quote := .single }
  else if c = doubleQuote then { L.append c with quote := .double }
  else if c = backslash then { L with quote := .backslash }
  else if c = hash then
    -- a comment starts at the beginning of the line or after a blank, but not after a tab
    if L.previous = none ∨ L.previous = some space ∨ L.previous = some newline then
      { L with quote := .hash }
    else L.append c
  else L.append c

/-- A byte in the context of the quote before it. -/
def readQuoted (L : Lexer) (c : UInt8) : Lexer :=
  match L.quote with
  | .none => L.readPlain c
  | .backslash =>
      if c = newline then { L with quote := .none }
      else { (L.append Shell.backslash).append c with quote := .none }
  | .hash | .comment =>
      if c = newline then { L with quote := .none } else { L with quote := .comment }
  | .single =>
      if c = singleQuote then { L.append c with quote := .none } else L.append c
  | .double =>
      if c = doubleQuote ∧ L.quoted = false then { L.append c with quote := .none }
      else L.append c

/-- The next byte. -/
def read (L : Lexer) (c : UInt8) : Lexer :=
  { L.readQuoted c with quoted := c == Shell.backslash && !L.quoted, previous := some c }

/-- The bytes of a string. -/
def readAll (L : Lexer) (s : List UInt8) : Lexer := s.foldl read L

end Lexer

/-- `tokenize_command_line`. -/
def tokenize (s : List UInt8) : Option (List (List UInt8)) :=
  let L := (Lexer.start.readAll s).delimit
  match L.quote with
  | .none | .comment => if L.tokens = [] then none else some L.tokens
  | .backslash | .hash | .single | .double => none

/-- Where `g_shell_unquote` stands in a word. -/
inductive Place where
  | plain
  /-- After a backslash outside quotes. -/
  | escaped
  | single
  | double
  /-- After a backslash in double quotes. -/
  | doubleEscaped
deriving DecidableEq, Repr

/-- The rest of a word, from a place in it on; `none` if a quote is not closed. -/
def unquoteFrom : Place → List UInt8 → Option (List UInt8)
  -- a backslash at the very end is dropped
  | .plain, [] | .escaped, [] => some []
  | .single, [] | .double, [] | .doubleEscaped, [] => none
  | .plain, c :: s =>
      if c = singleQuote then unquoteFrom .single s
      else if c = doubleQuote then unquoteFrom .double s
      else if c = backslash then unquoteFrom .escaped s
      else (unquoteFrom .plain s).map (c :: ·)
  | .escaped, c :: s =>
      if c = newline then unquoteFrom .plain s else (unquoteFrom .plain s).map (c :: ·)
  | .single, c :: s =>
      if c = singleQuote then unquoteFrom .plain s else (unquoteFrom .single s).map (c :: ·)
  | .double, c :: s =>
      if c = doubleQuote then unquoteFrom .plain s
      else if c = backslash then unquoteFrom .doubleEscaped s
      else (unquoteFrom .double s).map (c :: ·)
  | .doubleEscaped, c :: s =>
      if c ∈ [doubleQuote, backslash, backquote, dollar, newline] then
        (unquoteFrom .double s).map (c :: ·)
      else (unquoteFrom .double s).map (backslash :: c :: ·)

/-- `g_shell_unquote`. -/
def unquote (s : List UInt8) : Option (List UInt8) := unquoteFrom .plain s

/-- `g_shell_parse_argv`. -/
def parseArgv (s : List UInt8) : Option (List (List UInt8)) :=
  (tokenize s).bind fun tokens => tokens.mapM unquote

/-- The body of `g_shell_quote`: an embedded single quote is closed, escaped and opened again. -/
def escape : List UInt8 → List UInt8
  | [] => []
  | c :: s =>
      if c = singleQuote then singleQuote :: backslash :: singleQuote :: singleQuote :: escape s
      else c :: escape s

/-- `g_shell_quote`. -/
def quote (s : List UInt8) : List UInt8 := singleQuote :: (escape s ++ [singleQuote])

/-! ## Words that spell an argument -/

/-- The parts of the lexer that matter for plain bytes and single quotes. -/
structure Lexer.At (L : Lexer) (q : Quote) (token : Option (List UInt8))
    (tokens : List (List UInt8)) : Prop where
  quote : L.quote = q
  token : L.token = token
  tokens : L.tokens = tokens

/-- The word `w` is read as a part of one word, and unquoted to `a`. -/
structure Spells (w a : List UInt8) : Prop where
  read : ∀ {L : Lexer} {token tokens}, L.At .none token tokens →
    (L.readAll w).At .none (some (token.getD [] ++ w)) tokens
  unquote : unquote w = some a

section Reading

variable {L : Lexer} {t : List UInt8} {token : Option (List UInt8)} {tokens : List (List UInt8)}
  {c : UInt8}

lemma readAll_append (L : Lexer) (s s' : List UInt8) :
    L.readAll (s ++ s') = (L.readAll s).readAll s' := List.foldl_append

lemma readAll_cons (L : Lexer) (c : UInt8) (s : List UInt8) :
    L.readAll (c :: s) = (L.read c).readAll s := rfl

/-- A byte without a special meaning is appended. -/
lemma Lexer.At.read_plain (h : L.At .none token tokens) (hc : c ∉ special) :
    (L.read c).At .none (some (token.getD [] ++ [c])) tokens := by
  obtain ⟨hq, rfl, rfl⟩ := h
  simp only [special, List.mem_cons, List.not_mem_nil, or_false, not_or] at hc
  obtain ⟨htab, hnewline, hspace, hdouble, hhash, hsingle, hbackslash⟩ := hc
  have hread : L.readQuoted c = L.append c := by
    rw [Lexer.readQuoted, hq]
    simp [Lexer.readPlain, htab, hnewline, hspace, hdouble, hhash, hsingle, hbackslash]
  refine ⟨?_, ?_, ?_⟩ <;> simp [Lexer.read, hread, Lexer.append, hq]

lemma Lexer.At.read_openSingle (h : L.At .none token tokens) :
    (L.read singleQuote).At .single (some (token.getD [] ++ [singleQuote])) tokens := by
  obtain ⟨hq, rfl, rfl⟩ := h
  have hread : L.readQuoted singleQuote = { L.append singleQuote with quote := .single } := by
    rw [Lexer.readQuoted, hq]
    simp [Lexer.readPlain, singleQuote, newline, space, tab]
  refine ⟨?_, ?_, ?_⟩ <;> simp [Lexer.read, hread, Lexer.append]

lemma Lexer.At.read_closeSingle (h : L.At .single (some t) tokens) :
    (L.read singleQuote).At .none (some (t ++ [singleQuote])) tokens := by
  obtain ⟨hq, ht, rfl⟩ := h
  refine ⟨?_, ?_, ?_⟩ <;> simp [Lexer.read, Lexer.readQuoted, Lexer.append, hq, ht]

lemma Lexer.At.read_single (h : L.At .single (some t) tokens) (hc : c ≠ singleQuote) :
    (L.read c).At .single (some (t ++ [c])) tokens := by
  obtain ⟨hq, ht, rfl⟩ := h
  refine ⟨?_, ?_, ?_⟩ <;> simp [Lexer.read, Lexer.readQuoted, Lexer.append, hq, ht, hc]

lemma Lexer.At.read_backslash (h : L.At .none token tokens) :
    (L.read backslash).At .backslash token tokens := by
  obtain ⟨hq, rfl, rfl⟩ := h
  have hread : L.readQuoted backslash = { L with quote := .backslash } := by
    rw [Lexer.readQuoted, hq]
    simp [Lexer.readPlain, singleQuote, doubleQuote, backslash, newline, space, tab]
  refine ⟨?_, ?_, ?_⟩ <;> simp [Lexer.read, hread]

lemma Lexer.At.read_escaped (h : L.At .backslash (some t) tokens) (hc : c ≠ newline) :
    (L.read c).At .none (some (t ++ [backslash, c])) tokens := by
  obtain ⟨hq, ht, rfl⟩ := h
  refine ⟨?_, ?_, ?_⟩ <;> simp [Lexer.read, Lexer.readQuoted, Lexer.append, hq, ht, hc]

/-- Inside single quotes an escaped text is read as it stands. -/
lemma Lexer.At.readAll_escape (s : List UInt8) (h : L.At .single (some t) tokens) :
    (L.readAll (escape s)).At .single (some (t ++ escape s)) tokens := by
  induction s generalizing L t with
  | nil => simpa [escape, Lexer.readAll] using h
  | cons c s ih =>
    by_cases hc : c = singleQuote
    · have hne : singleQuote ≠ newline := by decide
      have := ih (h.read_closeSingle.read_backslash.read_escaped hne).read_openSingle
      simpa [escape, hc, readAll_cons] using this
    · have := ih (h.read_single hc)
      simpa [escape, hc, readAll_cons] using this

end Reading

lemma unquoteFrom_escape (s rest : List UInt8) :
    unquoteFrom .single (escape s ++ rest) = (unquoteFrom .single rest).map (s ++ ·) := by
  induction s with
  | nil => simp [escape]
  | cons c s ih =>
    by_cases hc : c = singleQuote
    · have hquotes : singleQuote ≠ doubleQuote ∧ singleQuote ≠ backslash ∧
          backslash ≠ singleQuote ∧ backslash ≠ doubleQuote ∧ singleQuote ≠ newline := by decide
      obtain ⟨-, -, h₁, h₂, h₃⟩ := hquotes
      simp [escape, hc, unquoteFrom, ih, h₁, h₂, h₃, Function.comp_def]
    · simp [escape, hc, unquoteFrom, ih, Function.comp_def]

/-- A quoted argument is spelled by its quotation. -/
theorem spells_quote (s : List UInt8) : Spells (quote s) s where
  read h := by
    have hclosed := (h.read_openSingle.readAll_escape s).read_closeSingle
    simpa [quote, readAll_cons, readAll_append, Lexer.readAll] using hclosed
  unquote := by
    have hne : singleQuote ≠ doubleQuote := by decide
    simp [unquote, quote, unquoteFrom, unquoteFrom_escape]

lemma Lexer.At.readAll_plain {L : Lexer} {t : List UInt8} {tokens : List (List UInt8)}
    (h : L.At .none (some t) tokens) {s : List UInt8} (hs : ∀ c ∈ s, c ∉ special) :
    (L.readAll s).At .none (some (t ++ s)) tokens := by
  induction s generalizing L t with
  | nil => simpa [Lexer.readAll] using h
  | cons c s ih =>
    have hread := h.read_plain (hs c (List.mem_cons_self ..))
    have := ih hread fun d hd => hs d (List.mem_cons_of_mem c hd)
    simpa [readAll_cons] using this

lemma unquoteFrom_plain {s : List UInt8} (hs : ∀ c ∈ s, c ∉ special) :
    unquoteFrom .plain s = some s := by
  induction s with
  | nil => rfl
  | cons c s ih =>
    have hc := hs c (List.mem_cons_self ..)
    simp only [special, List.mem_cons, List.not_mem_nil, or_false, not_or] at hc
    rw [unquoteFrom, if_neg hc.2.2.2.2.2.1, if_neg hc.2.2.2.1, if_neg hc.2.2.2.2.2.2,
      ih fun d hd => hs d (List.mem_cons_of_mem c hd)]
    rfl

/-- An argument without special bytes is spelled by itself. -/
theorem spells_of_plain {s : List UInt8} (hne : s ≠ []) (hs : ∀ c ∈ s, c ∉ special) :
    Spells s s where
  read {L token tokens} h := by
    cases s with
    | nil => exact absurd rfl hne
    | cons c s =>
      have hread := h.read_plain (hs c (List.mem_cons_self ..))
      have := hread.readAll_plain fun d hd => hs d (List.mem_cons_of_mem c hd)
      simpa [readAll_cons] using this
  unquote := unquoteFrom_plain hs

/-! ## Words joined by blanks -/

section Joined

variable {L : Lexer} {w : List UInt8} {ws tokens : List (List UInt8)}

lemma Lexer.At.delimit_some (h : L.At .none (some w) tokens) :
    L.delimit.At .none none (tokens ++ [w]) := by
  obtain ⟨hq, ht, rfl⟩ := h
  refine ⟨?_, ?_, ?_⟩ <;> simp [Lexer.delimit, ht, hq]

lemma Lexer.At.delimit_none (h : L.At .none none tokens) : L.delimit.At .none none tokens := by
  have hstay : L.delimit = L := by rw [Lexer.delimit, h.token]
  rw [hstay]
  exact h

/-- A blank ends the word before it, if there is one. -/
lemma Lexer.At.read_space {token : Option (List UInt8)} (h : L.At .none token tokens)
    (hne : token ≠ some []) :
    (L.read space).At .none none (tokens ++ token.toList) := by
  have hspace : space ≠ newline ∧ space = space := by decide
  cases token with
  | none =>
    obtain ⟨hq, ht, rfl⟩ := h
    have hread : L.readQuoted space = L := by
      rw [Lexer.readQuoted, hq]
      simp [Lexer.readPlain, hspace, ht]
    refine ⟨?_, ?_, ?_⟩ <;> simp [Lexer.read, hread, hq, ht]
  | some w =>
    have hw : w ≠ [] := fun hw => hne (by rw [hw])
    have hread : L.readQuoted space = L.delimit := by
      rw [Lexer.readQuoted, h.quote]
      simp [Lexer.readPlain, hspace, h.token, hw]
    have hdelimit := h.delimit_some
    refine ⟨?_, ?_, ?_⟩
    · rw [Lexer.read, hread]
      exact hdelimit.quote
    · rw [Lexer.read, hread]
      exact hdelimit.token
    · rw [Lexer.read, hread]
      exact hdelimit.tokens

/-- A word that is empty or spells something. -/
lemma Lexer.At.readAll_word (h : L.At .none none tokens) (hw : w = [] ∨ ∃ a, Spells w a) :
    (L.readAll w).At .none (if w = [] then none else some w) tokens := by
  by_cases hnil : w = []
  · rw [hnil, if_pos rfl]
    exact h
  · obtain ⟨a, ha⟩ := hw.resolve_left hnil
    rw [if_neg hnil]
    exact ha.read h

/-- Joined words are read one by one, except that empty ones leave no trace. -/
lemma Lexer.At.readAll_intercalate (h : L.At .none none tokens)
    (hws : ∀ w ∈ ws, w = [] ∨ ∃ a, Spells w a) :
    (L.readAll ([space].intercalate ws)).delimit.At .none none
      (tokens ++ ws.filter (· ≠ [])) := by
  induction ws generalizing L tokens with
  | nil => simpa [Lexer.readAll] using h.delimit_none
  | cons w ws ih =>
    have hword := h.readAll_word (hws w (List.mem_cons_self ..))
    cases ws with
    | nil =>
      by_cases hnil : w = []
      · rw [if_pos hnil] at hword
        simpa [hnil] using hword.delimit_none
      · rw [if_neg hnil] at hword
        simpa [hnil] using hword.delimit_some
    | cons w' ws =>
      have hspace := hword.read_space (by split <;> simp_all)
      have := ih hspace fun v hv => hws v (List.mem_cons_of_mem w hv)
      rw [List.intercalate_cons_cons, readAll_append, readAll_append]
      by_cases hnil : w = [] <;> simpa [hnil, readAll_cons, Lexer.readAll] using this

end Joined

/-- The words of a line of joined words. -/
lemma tokenize_intercalate {ws : List (List UInt8)} (hws : ∀ w ∈ ws, w = [] ∨ ∃ a, Spells w a)
    (hne : ∃ w ∈ ws, w ≠ []) :
    tokenize ([space].intercalate ws) = some (ws.filter (· ≠ [])) := by
  have hstart : Lexer.start.At .none none [] := ⟨rfl, rfl, rfl⟩
  obtain ⟨hq, -, htokens⟩ := hstart.readAll_intercalate hws
  obtain ⟨w, hw, hwne⟩ := hne
  have hsome : ws.filter (· ≠ []) ≠ [] := by
    intro hnil
    rw [List.filter_eq_nil_iff] at hnil
    exact absurd (hnil w hw) (by simp [hwne])
  rw [tokenize]
  simp only [hq, htokens, List.nil_append, if_neg hsome]

/-- A line of empty words cannot be split. -/
lemma parseArgv_intercalate_nil {ws : List (List UInt8)} (hws : ∀ w ∈ ws, w = []) :
    parseArgv ([space].intercalate ws) = none := by
  have hstart : Lexer.start.At .none none [] := ⟨rfl, rfl, rfl⟩
  obtain ⟨hq, -, htokens⟩ := hstart.readAll_intercalate fun w hw => Or.inl (hws w hw)
  have hnil : ws.filter (· ≠ []) = [] :=
    List.filter_eq_nil_iff.mpr fun w hw => by simp [hws w hw]
  rw [parseArgv, tokenize]
  simp only [hq, htokens, hnil, List.nil_append, if_true, Option.bind_none]

/-- **Joined words are split into the arguments they spell**; those written as nothing are lost. -/
theorem parseArgv_intercalate {f : List UInt8 → List UInt8} {args : List (List UInt8)}
    (hf : ∀ a ∈ args, f a = [] ∨ Spells (f a) a) (hne : ∃ a ∈ args, f a ≠ []) :
    parseArgv ([space].intercalate (args.map f)) = some (args.filter (f · ≠ [])) := by
  have hwords : ∀ w ∈ args.map f, w = [] ∨ ∃ a, Spells w a := by
    intro w hw
    obtain ⟨a, ha, rfl⟩ := List.mem_map.mp hw
    exact (hf a ha).imp_right fun h => ⟨a, h⟩
  have hunquote : ∀ l : List (List UInt8), (∀ a ∈ l, Spells (f a) a) →
      (l.map f).mapM unquote = some l := by
    intro l hl
    induction l with
    | nil => rfl
    | cons a l ih =>
      rw [List.map_cons, List.mapM_cons, (hl a (List.mem_cons_self ..)).unquote,
        ih fun b hb => hl b (List.mem_cons_of_mem a hb)]
      rfl
  obtain ⟨a, ha, hane⟩ := hne
  rw [parseArgv, tokenize_intercalate hwords ⟨f a, List.mem_map_of_mem ha, hane⟩, List.filter_map]
  refine hunquote _ fun b hb => ?_
  obtain ⟨hb, hbne⟩ := List.mem_filter.mp hb
  exact (hf b hb).resolve_left (by simpa using hbne)

/-! ## Nothing is made up -/

/-- The bytes of all the words read so far. -/
def Lexer.bytes (L : Lexer) : List UInt8 := (L.tokens ++ L.token.toList).flatten

lemma bytes_append (L : Lexer) (d : UInt8) : (L.append d).bytes = L.bytes ++ [d] := by
  cases h : L.token <;> simp [Lexer.bytes, Lexer.append, h]

lemma bytes_delimit (L : Lexer) : L.delimit.bytes = L.bytes := by
  cases h : L.token <;> simp [Lexer.bytes, Lexer.delimit, h]

/-- A byte is added to the words as it is, after the backslash that escapes it, or not at all. -/
lemma bytes_read (L : Lexer) (d : UInt8) :
    (L.read d).bytes = L.bytes ∨ (L.read d).bytes = L.bytes ++ [d] ∨
      (L.read d).bytes = L.bytes ++ [backslash, d] := by
  have hbytes : (L.read d).bytes = (L.readQuoted d).bytes := rfl
  have hquote : ∀ (L : Lexer) (q : Quote), ({ L with quote := q } : Lexer).bytes = L.bytes :=
    fun _ _ => rfl
  have hplain : (L.readPlain d).bytes = L.bytes ∨ (L.readPlain d).bytes = L.bytes ++ [d] := by
    rw [Lexer.readPlain]
    repeat' split
    all_goals simp [hquote, bytes_append, bytes_delimit]
  rw [hbytes, Lexer.readQuoted]
  split
  · exact hplain.imp_right Or.inl
  all_goals split <;> simp [hquote, bytes_append]

section Count

variable {c : UInt8} (hc : c ≠ backslash)
include hc

lemma count_readAll_le (L : Lexer) (s : List UInt8) :
    (L.readAll s).bytes.count c ≤ L.bytes.count c + s.count c := by
  induction s generalizing L with
  | nil => exact Nat.le_refl _
  | cons d s ih =>
    have hread : (L.read d).bytes.count c ≤ L.bytes.count c + [d].count c := by
      rcases bytes_read L d with h | h | h
      · rw [h]
        exact Nat.le_add_right _ _
      · exact Nat.le_of_eq (by rw [h, List.count_append])
      · exact Nat.le_of_eq (by rw [h, List.count_append, List.count_cons_of_ne (Ne.symm hc)])
    have := ih (L.read d)
    rw [readAll_cons, ← List.singleton_append, List.count_append]
    omega

lemma count_tokenize_le {s : List UInt8} {tokens : List (List UInt8)}
    (h : tokenize s = some tokens) : tokens.flatten.count c ≤ s.count c := by
  have hall := count_readAll_le hc Lexer.start s
  rw [← bytes_delimit] at hall
  have htokens : (Lexer.start.readAll s).delimit.tokens = tokens := by
    rw [tokenize] at h
    split at h <;> first | contradiction | skip
    all_goals
      split at h
      · contradiction
      · exact Option.some.inj h
  rw [Lexer.bytes, htokens, List.flatten_append, List.count_append] at hall
  have hstart : Lexer.start.bytes.count c = 0 := rfl
  omega

lemma count_unquoteFrom_le {p : Place} {s r : List UInt8} (h : unquoteFrom p s = some r) :
    r.count c ≤ s.count c := by
  have hskip : ∀ {d : UInt8} {s r : List UInt8}, r.count c ≤ s.count c →
      r.count c ≤ (d :: s).count c := fun h => Nat.le_trans h (List.count_le_count_cons ..)
  have hkeep : ∀ {d : UInt8} {s r : List UInt8}, r.count c ≤ s.count c →
      (d :: r).count c ≤ (d :: s).count c := by
    intro d s r h
    rw [List.count_cons, List.count_cons]
    omega
  have hescape : ∀ {d : UInt8} {s r : List UInt8}, r.count c ≤ s.count c →
      (backslash :: d :: r).count c ≤ (d :: s).count c := by
    intro d s r h
    rw [List.count_cons_of_ne (Ne.symm hc)]
    exact hkeep h
  induction s generalizing p r with
  | nil => cases p <;> simp [unquoteFrom] at h <;> simp [← h]
  | cons d s ih =>
    cases p with
    | plain =>
      rw [unquoteFrom] at h
      split at h
      · exact hskip (ih h)
      · split at h
        · exact hskip (ih h)
        · split at h
          · exact hskip (ih h)
          · obtain ⟨r', hr', rfl⟩ := Option.map_eq_some_iff.mp h
            exact hkeep (ih hr')
    | escaped =>
      rw [unquoteFrom] at h
      split at h
      · exact hskip (ih h)
      · obtain ⟨r', hr', rfl⟩ := Option.map_eq_some_iff.mp h
        exact hkeep (ih hr')
    | single =>
      rw [unquoteFrom] at h
      split at h
      · exact hskip (ih h)
      · obtain ⟨r', hr', rfl⟩ := Option.map_eq_some_iff.mp h
        exact hkeep (ih hr')
    | double =>
      rw [unquoteFrom] at h
      split at h
      · exact hskip (ih h)
      · split at h
        · exact hskip (ih h)
        · obtain ⟨r', hr', rfl⟩ := Option.map_eq_some_iff.mp h
          exact hkeep (ih hr')
    | doubleEscaped =>
      rw [unquoteFrom] at h
      split at h
      · obtain ⟨r', hr', rfl⟩ := Option.map_eq_some_iff.mp h
        exact hkeep (ih hr')
      · obtain ⟨r', hr', rfl⟩ := Option.map_eq_some_iff.mp h
        exact hescape (ih hr')

lemma count_mapM_unquote_le {tokens argv : List (List UInt8)}
    (h : tokens.mapM unquote = some argv) :
    argv.flatten.count c ≤ tokens.flatten.count c := by
  induction tokens generalizing argv with
  | nil =>
    obtain rfl := Option.some.inj h
    exact Nat.le_refl _
  | cons w tokens ih =>
    rw [List.mapM_cons, Option.bind_eq_bind, Option.bind_eq_some_iff] at h
    obtain ⟨a, ha, h⟩ := h
    rw [Option.bind_eq_bind, Option.bind_eq_some_iff] at h
    obtain ⟨argv', hargv, h⟩ := h
    obtain rfl := Option.some.inj h
    have hword := count_unquoteFrom_le hc ha
    have hrest := ih hargv
    rw [List.flatten_cons, List.flatten_cons, List.count_append, List.count_append]
    omega

/-- **Every byte of the arguments but backslashes comes from the command line.** -/
theorem count_parseArgv_le {s : List UInt8} {argv : List (List UInt8)}
    (h : parseArgv s = some argv) : argv.flatten.count c ≤ s.count c := by
  obtain ⟨tokens, htokens, hargv⟩ := Option.bind_eq_some_iff.mp h
  exact Nat.le_trans (count_mapM_unquote_le hc hargv) (count_tokenize_le hc htokens)

end Count

end XappPortal.Lib.Shell
