/-
# Where screenshots are saved

The file of a screenshot is named after the local time at which it was requested, to the second,
and nothing looks whether the file exists.  A request that succeeds has had the desktop's program
run, which is told to save to that file, and the URI that is returned is the URI of that file; so
two requests that succeed have the same file exactly when they name the same directory at the same
displayed time (`screenshot_paths_iff`).
-/
import XappPortal.Screenshot.Completion

namespace XappPortal.Screenshot

open XappPortal.Lib

/-! ## File names -/

/-- A local time, as `g_date_time_new_now_local` gives it, to the second. -/
@[ext] structure LocalTime where
  year : ℕ
  month : ℕ
  day : ℕ
  hour : ℕ
  minute : ℕ
  second : ℕ
  month_lt : month < 13
  day_lt : day < 32
  hour_lt : hour < 24
  minute_lt : minute < 60
  second_lt : second < 60
deriving DecidableEq

/-- A number below 100 with a leading zero. -/
def twoDigits (n : ℕ) : List Char := [Nat.digitChar (n / 10), Nat.digitChar (n % 10)]

/-- `g_date_time_format` for the format `%Y-%m-%d %H-%M-%S`. -/
def LocalTime.format (t : LocalTime) : String :=
  String.ofList (Nat.toDigits 10 t.year ++ '-' :: twoDigits t.month ++ '-' :: twoDigits t.day
    ++ ' ' :: twoDigits t.hour ++ '-' :: twoDigits t.minute ++ '-' :: twoDigits t.second)

lemma twoDigits_injective {m n : ℕ} (hm : m < 100) (hn : n < 100)
    (h : twoDigits m = twoDigits n) : m = n := by
  obtain ⟨htens, hones⟩ : Nat.digitChar (m / 10) = Nat.digitChar (n / 10) ∧
      Nat.digitChar (m % 10) = Nat.digitChar (n % 10) := by
    simpa [twoDigits] using h
  have htens' := congrArg Char.toNat htens
  have hones' := congrArg Char.toNat hones
  rw [Nat.toNat_digitChar_of_lt_ten (by omega), Nat.toNat_digitChar_of_lt_ten (by omega)] at htens'
  rw [Nat.toNat_digitChar_of_lt_ten (by omega), Nat.toNat_digitChar_of_lt_ten (by omega)] at hones'
  omega

lemma slash_notMem_twoDigits {n : ℕ} (hn : n < 100) : '/' ∉ twoDigits n := by
  intro h
  have hdigit : ('/' : Char).isDigit = true := by
    rcases List.mem_cons.mp h with h | h
    · rw [h, Nat.isDigit_digitChar]
      exact decide_eq_true (by omega)
    · rw [List.mem_singleton.mp h, Nat.isDigit_digitChar]
      exact decide_eq_true (by omega)
  exact absurd hdigit (by decide)

/-- The displayed time determines the local time. -/
lemma LocalTime.format_injective {t t' : LocalTime} (h : t.format = t'.format) : t = t' := by
  have hchars := congrArg String.toList h
  simp only [LocalTime.format, String.toList_ofList, twoDigits, List.append_assoc, List.cons_append,
    List.nil_append] at hchars
  -- all but the year has a fixed length
  obtain ⟨hyear, hrest⟩ := List.append_inj' hchars rfl
  have hyear' := congrArg (Nat.ofDigitChars 10 · 0) hyear
  simp only [Nat.ofDigitChars_ten_toDigits] at hyear'
  simp only [List.cons.injEq, true_and, and_true] at hrest
  obtain ⟨hmo₁, hmo₂, hd₁, hd₂, hh₁, hh₂, hmi₁, hmi₂, hs₁, hs₂⟩ := hrest
  have hpair : ∀ {m n : ℕ}, m < 100 → n < 100 → Nat.digitChar (m / 10) = Nat.digitChar (n / 10) →
      Nat.digitChar (m % 10) = Nat.digitChar (n % 10) → m = n := by
    intro m n hm hn h₁ h₂
    exact twoDigits_injective hm hn (by rw [twoDigits, twoDigits, h₁, h₂])
  have := t.month_lt
  have := t.day_lt
  have := t.hour_lt
  have := t.minute_lt
  have := t.second_lt
  have := t'.month_lt
  have := t'.day_lt
  have := t'.hour_lt
  have := t'.minute_lt
  have := t'.second_lt
  refine LocalTime.ext hyear' ?_ ?_ ?_ ?_ ?_
  · exact hpair (by omega) (by omega) hmo₁ hmo₂
  · exact hpair (by omega) (by omega) hd₁ hd₂
  · exact hpair (by omega) (by omega) hh₁ hh₂
  · exact hpair (by omega) (by omega) hmi₁ hmi₂
  · exact hpair (by omega) (by omega) hs₁ hs₂

lemma LocalTime.slash_notMem_format (t : LocalTime) : '/' ∉ t.format.toList := by
  have hyear : '/' ∉ Nat.toDigits 10 t.year := by
    intro h
    have hdigit := Nat.isDigit_of_mem_toDigits (by decide) (by decide) h
    exact absurd hdigit (by decide)
  have hmonth := slash_notMem_twoDigits (show t.month < 100 by have := t.month_lt; omega)
  have hday := slash_notMem_twoDigits (show t.day < 100 by have := t.day_lt; omega)
  have hhour := slash_notMem_twoDigits (show t.hour < 100 by have := t.hour_lt; omega)
  have hminute := slash_notMem_twoDigits (show t.minute < 100 by have := t.minute_lt; omega)
  have hsecond := slash_notMem_twoDigits (show t.second < 100 by have := t.second_lt; omega)
  simp [LocalTime.format, hyear, hmonth, hday, hhour, hminute, hsecond]

/-- The directory in which a call saves its screenshot. -/
def Environment.directory (env : Environment) : String := env.picturesDir.getD env.homeDir

/-- The environment of a call at a local time: the formatted time, and the URI of the file, which
`g_filename_to_uri` makes from its path. -/
structure Environment.At (toUri : String → Option String) (env : Environment) (t : LocalTime) :
    Prop where
  timestamp : env.timestamp = t.format
  uri : env.uri = toUri (constructFilename env)

/-- What stands after the last slash is determined, and so is what stands before it. -/
lemma split_last_slash {d d' n n' : List Char} (hn : '/' ∉ n) (hn' : '/' ∉ n')
    (h : d ++ '/' :: n = d' ++ '/' :: n') : d = d' ∧ n = n' := by
  have hreverse := congrArg List.reverse h
  simp only [List.reverse_append, List.reverse_cons, List.append_assoc, List.singleton_append]
    at hreverse
  have hsplit : ∀ {a a' b b' : List Char}, '/' ∉ a → '/' ∉ a' →
      a ++ '/' :: b = a' ++ '/' :: b' → a = a' ∧ b = b' := by
    intro a a' b b' ha ha' hab
    induction a generalizing a' with
    | nil =>
      cases a' with
      | nil => exact ⟨rfl, (List.cons.inj hab).2⟩
      | cons c a' => exact absurd (by rw [(List.cons.inj hab).1]; exact List.mem_cons_self ..) ha'
    | cons c a ih =>
      cases a' with
      | nil => exact absurd (by rw [← (List.cons.inj hab).1]; exact List.mem_cons_self ..) ha
      | cons c' a' =>
        obtain ⟨hhead, htail⟩ := List.cons.inj hab
        obtain ⟨rfl, rfl⟩ := ih (fun hc => ha (List.mem_cons_of_mem _ hc))
          (fun hc => ha' (List.mem_cons_of_mem _ hc)) htail
        exact ⟨by rw [hhead], rfl⟩
  obtain ⟨hname, hdir⟩ := hsplit (by simpa using hn) (by simpa using hn') hreverse
  exact ⟨List.reverse_injective hdir, List.reverse_injective hname⟩

/-- Two paths are the same exactly when the directories and the displayed times are. -/
lemma constructFilename_eq_iff {toUri : String → Option String} {env env' : Environment}
    {t t' : LocalTime} (h : env.At toUri t) (h' : env'.At toUri t') :
    constructFilename env = constructFilename env' ↔
      env.directory = env'.directory ∧ t = t' := by
  have hpath : ∀ (env : Environment) (t : LocalTime), env.timestamp = t.format →
      (constructFilename env).toList = env.directory.toList ++ '/' ::
        ("Screenshot from ".toList ++ t.format.toList ++ ".png".toList) := by
    intro env t ht
    have hslash : "/Screenshot from ".toList = '/' :: "Screenshot from ".toList := rfl
    simp only [constructFilename, Environment.directory, String.toList_append, hslash, ht,
      List.append_assoc, List.cons_append]
  have hname : ∀ t : LocalTime,
      '/' ∉ "Screenshot from ".toList ++ t.format.toList ++ ".png".toList := by
    intro t hmem
    rcases List.mem_append.mp hmem with hmem | hmem
    · rcases List.mem_append.mp hmem with hmem | hmem
      · exact absurd hmem (by decide)
      · exact t.slash_notMem_format hmem
    · exact absurd hmem (by decide)
  constructor
  · intro heq
    have hchars := congrArg String.toList heq
    rw [hpath env t h.timestamp, hpath env' t' h'.timestamp] at hchars
    obtain ⟨hdir, hnames⟩ := split_last_slash (hname t) (hname t') hchars
    have htime := List.append_cancel_left (List.append_cancel_right hnames)
    exact ⟨String.toList_injective hdir, LocalTime.format_injective (String.toList_injective htime)⟩
  · rintro ⟨hdir, rfl⟩
    refine String.toList_injective ?_
    rw [hpath env t h.timestamp, hpath env' t h'.timestamp, hdir]

/-! ## What is done with the path -/

/-- The arguments of the program that is run in a desktop mode. -/
def screenshotArgv (mode : String) (arg : Arguments) (savePath : String) : List String :=
  if xfceMode mode then xfceArgv arg savePath else cinnamonArgv arg savePath

/-- The results of a successful answer. -/
def uriResults (uri : Option String) : List (String × Value) :=
  match uri with
  | some uri => [("uri", .string uri)]
  | none => []

/-- A request with what was sent for it, and the call it comes from: every program that was run for
it saves to the path of the call, and a success came after such a program and returned the URI of
that path. -/
structure SavesTo (mode : String) (arg : Arguments) (env : Environment) (x : ScreenshotRequest)
    (out : List Message) : Prop where
  handle : ∀ h, x.handle = some h → h.uri = env.uri ∧ h.retval = "url"
  spawned : ∀ argv, .spawn argv ∈ out → argv = screenshotArgv mode arg (constructFilename env)
  started : x.pending ≠ [] → ∃ argv, .spawn argv ∈ out
  answered : ∀ results, (0, results) ∈ answers out →
    (∃ argv, .spawn argv ∈ out) ∧ results = uriResults env.uri

namespace SavesTo

variable {mode : String} {arg : Arguments} {env : Environment} {x : ScreenshotRequest}
  {out : List Message}

/-- A part of a handler that runs no program and gives no answer. -/
lemma quiet (h : SavesTo mode arg env x out) {x' : ScreenshotRequest} {out' : List Message}
    (hhandle : ∀ h', x'.handle = some h' → h'.uri = env.uri ∧ h'.retval = "url")
    (hpending : x'.pending ≠ [] → x.pending ≠ [])
    (hspawn : ∀ argv, .spawn argv ∉ out') (hanswers : answers out' = []) :
    SavesTo mode arg env x' (out ++ out') where
  handle := hhandle
  spawned argv hmem := by
    rcases List.mem_append.mp hmem with hmem | hmem
    · exact h.spawned argv hmem
    · exact absurd hmem (hspawn argv)
  started hne := by
    obtain ⟨argv, hmem⟩ := h.started (hpending hne)
    exact ⟨argv, List.mem_append_left _ hmem⟩
  answered results hmem := by
    rw [answers_append, hanswers, List.append_nil] at hmem
    obtain ⟨⟨argv, hargv⟩, hresults⟩ := h.answered results hmem
    exact ⟨⟨argv, List.mem_append_left _ hargv⟩, hresults⟩

/-- A change of the request that leaves the handle's URI alone. -/
lemma of_handle (h : SavesTo mode arg env x out) {x' : ScreenshotRequest}
    (hhandle : ∀ h', x'.handle = some h' → h'.uri = env.uri ∧ h'.retval = "url")
    (hpending : x'.pending ≠ [] → x.pending ≠ []) : SavesTo mode arg env x' out := by
  have hquiet : SavesTo mode arg env x' (out ++ []) :=
    h.quiet hhandle hpending (fun _ => List.not_mem_nil) rfl
  rwa [List.append_nil] at hquiet

lemma write (h : SavesTo mode arg env x out) (f : ScreenshotHandle → ScreenshotHandle)
    (hf : ∀ h, (f h).uri = h.uri ∧ (f h).retval = h.retval) :
    SavesTo mode arg env (x.write f) out := by
  refine h.of_handle (fun h' hh' => ?_) (by simp)
  obtain ⟨h₀, hsome, rfl⟩ := Handled.handle_of_write hh'
  rw [(hf h₀).1, (hf h₀).2]
  exact h.handle h₀ hsome

/-- Sending the response; a success only after a program was run. -/
lemma sendResponse (h : SavesTo mode arg env x out)
    (hzero : ∀ h', x.handle = some h' → h'.response = 0 → ∃ argv, .spawn argv ∈ out) :
    SavesTo mode arg env (sendResponse x).1 (out ++ (sendResponse x).2) := by
  rw [Screenshot.sendResponse, Handled.sendResponse, Handled.access]
  split
  · next hnone => exact h.quiet h.handle id (fun _ => List.not_mem_nil) rfl
  · next hnd hsome =>
    obtain ⟨huri, hretval⟩ := h.handle hnd hsome
    have hcompletion : completion hnd = .completeScreenshot hnd.response
        (if hnd.response = 0 then uriResults env.uri else []) := by
      rw [completion, if_pos hretval, huri]
      cases env.uri <;> simp [uriResults]
    have hspawn : ∀ argv, .spawn argv ∉ [completion hnd] := by
      intro argv hmem
      rw [hcompletion] at hmem
      exact absurd (List.mem_singleton.mp hmem) (by simp)
    refine ⟨fun h' hh' => absurd hh' (by simp [Handled.free]), fun argv hmem => ?_, fun hne => ?_,
      fun results hmem => ?_⟩
    · exact h.spawned argv ((List.mem_append.mp hmem).resolve_right (hspawn argv))
    · obtain ⟨argv, hmem⟩ := h.started hne
      exact ⟨argv, List.mem_append_left _ hmem⟩
    · rw [answers_append, List.mem_append] at hmem
      rcases hmem with hmem | hmem
      · obtain ⟨⟨argv, hargv⟩, hresults⟩ := h.answered results hmem
        exact ⟨⟨argv, List.mem_append_left _ hargv⟩, hresults⟩
      · have hanswer : (0, results) = (hnd.response,
            if hnd.response = 0 then uriResults env.uri else []) := by
          rw [hcompletion] at hmem
          exact List.mem_singleton.mp hmem
        obtain ⟨hresponse, hresults⟩ := Prod.mk.inj hanswer
        obtain ⟨argv, hargv⟩ := hzero hnd hsome hresponse.symm
        exact ⟨⟨argv, List.mem_append_left _ hargv⟩, by rw [hresults, if_pos hresponse.symm]⟩

/-- Responding; with success only after a program was run. -/
lemma respond (h : SavesTo mode arg env x out) {response : ℤ}
    (hzero : response = 0 → ∃ argv, .spawn argv ∈ out) :
    SavesTo mode arg env (respond response x).1 (out ++ (respond response x).2) := by
  have hwritten := h.write (fun handle => { handle with response := response }) fun _ => ⟨rfl, rfl⟩
  refine hwritten.sendResponse fun h' hh' hresponse => hzero ?_
  obtain ⟨h₀, -, rfl⟩ := Handled.handle_of_write hh'
  exact hresponse

/-! ### The callbacks -/

lemma screenshotFinished (h : SavesTo mode arg env x out) (hrun : ∃ argv, .spawn argv ∈ out)
    (unsuccessful : ℤ) (result : WaitResult) :
    SavesTo mode arg env (screenshotFinished unsuccessful result x).1
      (out ++ (screenshotFinished unsuccessful result x).2) := by
  rw [Screenshot.screenshotFinished, Handled.access]
  split
  · exact h.quiet h.handle id (fun _ => List.not_mem_nil) rfl
  · cases result with
    | waitError => exact h.respond fun _ => hrun
    | exited successful =>
      dsimp only
      split
      · exact h.respond fun _ => hrun
      · split <;> exact h.respond fun _ => hrun

lemma cinnamonColorPickDone (h : SavesTo mode arg env x out) (hrun : ∃ argv, .spawn argv ∈ out)
    (result : PickColorResult) :
    SavesTo mode arg env (cinnamonColorPickDone result x).1
      (out ++ (cinnamonColorPickDone result x).2) := by
  cases result with
  | error cancelled => cases cancelled <;> exact h.respond fun _ => hrun
  | noColor => exact h.respond fun _ => hrun
  | color red green blue =>
    have hcolor := h.write (fun handle =>
      { handle with red := red, green := green, blue := blue }) fun _ => ⟨rfl, rfl⟩
    exact hcolor.respond fun _ => hrun

/-- A callback is called only for a program that was run. -/
lemma receive (h : SavesTo mode arg env x out) (p : Callback) (r : Result)
    {callback : ScreenshotRequest → ScreenshotRequest × List Message}
    (hcallback : ∀ {x}, SavesTo mode arg env x out → (∃ argv, .spawn argv ∈ out) →
      SavesTo mode arg env (callback x).1 (out ++ (callback x).2)) :
    SavesTo mode arg env (x.receive p r callback).1 (out ++ (x.receive p r callback).2) := by
  rw [Handled.receive]
  split
  · next hp =>
    have hne : x.pending ≠ [] := List.ne_nil_of_mem hp
    refine hcallback (h.of_handle h.handle fun _ => hne) (h.started hne)
  · rw [List.append_nil]
    exact h

lemma deliver (h : SavesTo mode arg env x out) (result : Result) :
    SavesTo mode arg env (deliver result x).1 (out ++ (deliver result x).2) := by
  cases result with
  | wait result =>
    rw [Screenshot.deliver]
    split
    · exact h.receive _ _ fun h hrun => h.screenshotFinished hrun 2 result
    · exact h.receive _ _ fun h hrun => h.screenshotFinished hrun 1 result
  | pickColor result =>
    dsimp only [Screenshot.deliver]
    exact h.receive _ _ fun h hrun => h.cinnamonColorPickDone hrun _

/-- A `Close` call runs no program and gives no answer. -/
lemma handleClose (h : SavesTo mode arg env x out) :
    SavesTo mode arg env (handleClose x).1 (out ++ (handleClose x).2) := by
  rw [Screenshot.handleClose, Handled.access]
  split
  · exact h.quiet h.handle id (fun _ => List.not_mem_nil) rfl
  · have hclosed := h.write (fun handle =>
      { handle with closed := true, cancellable := handle.cancellable.map fun _ => ⟨true⟩ })
      fun _ => ⟨rfl, rfl⟩
    refine hclosed.quiet hclosed.handle id (fun argv => ?_) ?_
    · split <;> simp
    · split <;> rfl

lemma close (h : SavesTo mode arg env x out) :
    SavesTo mode arg env (Handled.dispatchClose Screenshot.handleClose .completeClose x).1
      (out ++ (Handled.dispatchClose Screenshot.handleClose .completeClose x).2) := by
  have hheld : SavesTo mode arg env
      { x with request := Request.objectRef x.request, closeDelivered := true } out :=
    h.of_handle h.handle id
  have hhandler := hheld.handleClose
  have hreplied : SavesTo mode arg env _ ((out ++ _) ++ [.completeClose]) :=
    hhandler.quiet hhandler.handle id (by simp) rfl
  rw [List.append_assoc] at hreplied
  exact hreplied.of_handle hreplied.handle id

/-! ### The method call -/

/-- A request for which a program is to be run. -/
lemma runProgram (h : SavesTo mode arg env x []) (callback : Callback) :
    SavesTo mode arg env
      (runProgram (screenshotArgv mode arg (constructFilename env)) callback env x).1
      (runProgram (screenshotArgv mode arg (constructFilename env)) callback env x).2 := by
  have hrun : SavesTo mode arg env x
      [.spawn (screenshotArgv mode arg (constructFilename env))] := by
    refine ⟨h.handle, fun argv hmem => ?_, fun _ => ⟨_, List.mem_singleton_self _⟩,
      fun results hmem => absurd hmem List.not_mem_nil⟩
    exact Message.spawn.inj (List.mem_singleton.mp hmem)
  rw [Screenshot.runProgram]
  split
  · split
    · exact hrun.respond fun h0 => absurd h0 (by decide)
    · have hwritten := hrun.write (fun handle =>
        { handle with proc := some (screenshotArgv mode arg (constructFilename env)) })
        fun _ => ⟨rfl, rfl⟩
      exact ⟨hwritten.handle, hwritten.spawned, fun _ => ⟨_, List.mem_singleton_self _⟩,
        hwritten.answered⟩
  · exact h.respond fun h0 => absurd h0 (by decide)

lemma handleScreenshot (mode : String) (arg : Arguments) (env : Environment) (exportOk : Bool) :
    SavesTo mode arg env (handleScreenshot mode arg env exportOk).1
      (handleScreenshot mode arg env exportOk).2 := by
  have hcreated : SavesTo mode arg env (.create (Request.requestNew arg.sender arg.appId arg.handle)
      exportOk
      { response := 0, uri := env.uri, red := 0, green := 0, blue := 0, retval := "url",
        savePath := some (constructFilename env), proc := none, cancellable := none,
        closed := false }) [] := by
    refine ⟨fun h hh => ?_, fun _ hmem => absurd hmem List.not_mem_nil, fun hne => absurd rfl hne,
      fun _ hmem => absurd hmem List.not_mem_nil⟩
    obtain rfl := Option.some.inj hh
    exact ⟨rfl, rfl⟩
  have hleave : ∀ {x out}, SavesTo mode arg env x out → SavesTo mode arg env x.leave out :=
    fun h => h.of_handle h.handle id
  rw [Screenshot.handleScreenshot]
  refine hleave ?_
  split
  · next hxfce =>
    have := hcreated.runProgram .xfce4ScreenshooterFinished
    rwa [screenshotArgv, if_pos hxfce] at this
  · next hxfce =>
    split
    · have := hcreated.runProgram .cinnamonScreenshotFinished
      rwa [screenshotArgv, if_neg hxfce] at this
    · exact hcreated.respond fun h0 => absurd h0 (by decide)

end SavesTo

/-- What the call that a request comes from says about it. -/
def Origin (mode : String) : Call → ScreenshotRequest → List Message → Prop
  | .screenshot arg env => SavesTo mode arg env
  | .pickColor _ => fun _ _ => True

lemma keepsOrigin (mode : String) (cinnamon : Bool) :
    (service mode cinnamon).KeepsOrigin (Origin mode) where
  accepts n ok := by cases n <;> exact ⟨_, _, rfl⟩
  call n ok x out hcall := by
    cases n with
    | screenshot arg env =>
      obtain ⟨rfl, rfl⟩ : (handleScreenshot mode arg env ok).1 = x ∧
          (handleScreenshot mode arg env ok).2 = out := by
        simpa [service, Prod.ext_iff] using hcall
      exact SavesTo.handleScreenshot mode arg env ok
    | pickColor arg => trivial
  close n x out h := by
    cases n with
    | screenshot arg env => exact SavesTo.close h
    | pickColor arg => trivial
  deliver n result x out h := by
    cases n with
    | screenshot arg env => exact SavesTo.deliver h result
    | pickColor arg => trivial

/-- The request with number `i` comes from a `Screenshot` call, and has been answered with
success. -/
structure Taken (mode : String) (cinnamon : Bool) (evs : List Event) (i : ℕ) (arg : Arguments)
    (env : Environment) (results : List (String × Value)) : Prop where
  call : (Service.calls evs)[i]? = some (.screenshot arg env)
  answer : (0, results) ∈ answers (((service mode cinnamon).machine.run evs).requests.outputsOf i)

/-- What has been sent for a request that is answered with success: the program that saves to its
path was run for it, and no other one, and the results are the URI of that path. -/
structure Saved (toUri : String → Option String) (mode : String) (arg : Arguments)
    (env : Environment) (results : List (String × Value)) (out : List Message) : Prop where
  ran : .spawn (screenshotArgv mode arg (constructFilename env)) ∈ out
  spawned : ∀ argv, .spawn argv ∈ out → argv = screenshotArgv mode arg (constructFilename env)
  results_eq : results = uriResults (toUri (constructFilename env))

lemma Taken.saved {mode : String} {cinnamon : Bool} {evs : List Event} {i : ℕ} {arg : Arguments}
    {env : Environment} {results : List (String × Value)} {toUri : String → Option String}
    {t : LocalTime} (h : Taken mode cinnamon evs i arg env results) (ht : env.At toUri t) :
    Saved toUri mode arg env results
      (((service mode cinnamon).machine.run evs).requests.outputsOf i) := by
  obtain ⟨hlength, horigin⟩ := Service.origin_run (keepsOrigin mode cinnamon) evs
  obtain ⟨hlt, -⟩ := List.getElem?_eq_some_iff.mp h.call
  rw [← hlength] at hlt
  have hsaves : SavesTo mode arg env _ _ :=
    horigin i _ (List.getElem?_eq_getElem hlt) (.screenshot arg env) h.call
  obtain ⟨⟨argv, hargv⟩, hresults⟩ := hsaves.answered results h.answer
  refine ⟨?_, hsaves.spawned, by rw [hresults, ht.uri]⟩
  rw [← hsaves.spawned argv hargv]
  exact hargv

lemma eq_some_of_uriResults {uri? : Option String} {uri : String}
    (h : uriResults uri? = [("uri", .string uri)]) : uri? = some uri := by
  cases uri? with
  | none => simp [uriResults] at h
  | some uri' => simpa [uriResults] using h

/-- **Two screenshots have the same file exactly when they name the same directory at the same
displayed time**: for each of two requests of a run that are answered with success the desktop's
program was run to save to its path, and the results are the URI of that path; and both the paths
and the URIs are the same if and only if the directories and the local times, to the second, are. -/
theorem screenshot_paths_iff (mode : String) (cinnamon : Bool) (evs : List Event)
    (toUri : String → Option String)
    (hinj : ∀ p q uri, toUri p = some uri → toUri q = some uri → p = q)
    {i j : ℕ} {arg arg' : Arguments} {env env' : Environment} {t t' : LocalTime}
    {results results' : List (String × Value)} (ht : env.At toUri t) (ht' : env'.At toUri t')
    (hi : Taken mode cinnamon evs i arg env results)
    (hj : Taken mode cinnamon evs j arg' env' results') :
    Saved toUri mode arg env results
      (((service mode cinnamon).machine.run evs).requests.outputsOf i) ∧
    Saved toUri mode arg' env' results'
      (((service mode cinnamon).machine.run evs).requests.outputsOf j) ∧
    (constructFilename env = constructFilename env' ↔
      env.directory = env'.directory ∧ t = t') ∧
    ∀ uri uri', results = [("uri", .string uri)] → results' = [("uri", .string uri')] →
      (uri = uri' ↔ env.directory = env'.directory ∧ t = t') := by
  have hpaths := constructFilename_eq_iff ht ht'
  have hsaved := hi.saved ht
  have hsaved' := hj.saved ht'
  refine ⟨hsaved, hsaved', hpaths, fun uri uri' huri huri' => ?_⟩
  have h : toUri (constructFilename env) = some uri :=
    eq_some_of_uriResults (hsaved.results_eq.symm.trans huri)
  have h' : toUri (constructFilename env') = some uri' :=
    eq_some_of_uriResults (hsaved'.results_eq.symm.trans huri')
  rw [← hpaths]
  constructor
  · rintro rfl
    exact hinj _ _ _ h h'
  · intro hpath
    rw [hpath] at h
    exact Option.some.inj (h.symm.trans h')

/-! ## Two requests -/

/-- The path and the URI of a screenshot taken at noon, at a given second. -/
def noonPath (second : String) : String :=
  "/home/u/Screenshot from 2024-05-21 12-00-" ++ second ++ ".png"

def noonUri (second : String) : String :=
  "file:///home/u/Screenshot%20from%202024-05-21%2012-00-" ++ second ++ ".png"

/-- The environment of a call at noon. -/
def noon (second : String) : Environment :=
  ⟨none, "/home/u", "2024-05-21 12-00-" ++ second, some (noonUri second), true, true⟩

/-- Two calls, whose programs end with success in the other order. -/
def twoScreenshots (second second' : String) : List Event :=
  [.call (.screenshot ⟨":1.7", "/r/a", "", none, none⟩ (noon second)) true,
    .call (.screenshot ⟨":1.8", "/r/b", "", none, none⟩ (noon second')) true,
    .deliver 1 (.wait (.exited true)), .deliver 0 (.wait (.exited true))]

/-- The local time of such a call. -/
def noonTime (second : ℕ) (h : second < 60) : LocalTime :=
  ⟨2024, 5, 21, 12, 0, second, by decide, by decide, by decide, by decide, h⟩

/-- `g_filename_to_uri` on the paths of the two seconds. -/
def noonToUri (path : String) : Option String :=
  if path = noonPath "00" then some (noonUri "00")
  else if path = noonPath "01" then some (noonUri "01")
  else none

/-- One second lies between the two calls. -/
theorem screenshot_paths_iff_two :
    constructFilename (noon "00") ≠ constructFilename (noon "01") ∧ noonUri "00" ≠ noonUri "01" := by
  have hinj : ∀ p q uri, noonToUri p = some uri → noonToUri q = some uri → p = q := by
    intro p q uri hp hq
    have hne : noonUri "01" ≠ noonUri "00" := by decide
    rw [noonToUri] at hp hq
    split_ifs at hp hq <;> simp_all
  have ht : (noon "00").At noonToUri (noonTime 0 (by decide)) := ⟨by decide, by decide⟩
  have ht' : (noon "01").At noonToUri (noonTime 1 (by decide)) := ⟨by decide, by decide⟩
  have hi : Taken "cinnamon" true (twoScreenshots "00" "01") 0 ⟨":1.7", "/r/a", "", none, none⟩
      (noon "00") [("uri", .string (noonUri "00"))] := ⟨by decide, by decide⟩
  have hj : Taken "cinnamon" true (twoScreenshots "00" "01") 1 ⟨":1.8", "/r/b", "", none, none⟩
      (noon "01") [("uri", .string (noonUri "01"))] := ⟨by decide, by decide⟩
  have hseconds : ¬ ((noon "00").directory = (noon "01").directory ∧
      noonTime 0 (by decide) = noonTime 1 (by decide)) := by decide
  obtain ⟨-, -, hpaths, huris⟩ := screenshot_paths_iff "cinnamon" true (twoScreenshots "00" "01")
    noonToUri hinj ht ht' hi hj
  exact ⟨mt hpaths.mp hseconds, mt (huris _ _ rfl rfl).mp hseconds⟩

/-- Two requests in the same second share a file and its URI. -/
theorem not_screenshot_paths_distinct : ¬ ∀ (mode : String) (cinnamon : Bool) (evs : List Event)
    (i j : ℕ) (arg arg' : Arguments) (env env' : Environment)
    (results results' : List (String × Value)), i ≠ j →
    Taken mode cinnamon evs i arg env results → Taken mode cinnamon evs j arg' env' results' →
    constructFilename env ≠ constructFilename env' := by
  intro h
  exact h "cinnamon" true (twoScreenshots "00" "00") 0 1 ⟨":1.7", "/r/a", "", none, none⟩
    ⟨":1.8", "/r/b", "", none, none⟩ (noon "00") (noon "00")
    [("uri", .string (noonUri "00"))] [("uri", .string (noonUri "00"))] (by decide)
    ⟨by decide, by decide⟩ ⟨by decide, by decide⟩ rfl

end XappPortal.Screenshot
