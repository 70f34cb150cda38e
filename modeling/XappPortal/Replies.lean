/-
# No call is left without a reply

D-Bus calls are replied to by the handlers that complete their invocations, at once or when the
operation ends that was started for them; a handler that forgets to do so leaves its caller waiting
until the bus gives up.

Over all the requests of the three interfaces, whatever the order of events, each method call makes
a request or is refused, each request is sent one reply, or none while it is still to be answered,
and each `Close` call that the bus routes to a request is replied to once, while it is handled
(`portal_replies`).
-/
import XappPortal.Ownership
import XappPortal.Screenshot.Transcript
import XappPortal.Wallpaper.Outcome

namespace XappPortal

open XappPortal.Lib

/-! ## Services that reply -/

namespace Service

variable {α ν ε ω : Type} {S : Service α ν ε ω} {P : α → List ω → Prop} {reply : ω → Bool}
  {waiting : α → Bool}

/-- Every call makes an object or is refused. -/
lemma length_calls (evs : List (Event ν ε)) :
    (S.machine.run evs).requests.objects.length + (S.machine.run evs).refused.length
      = (calls evs).length := by
  induction evs using List.reverseRecOn with
  | nil => rfl
  | append_singleton evs e ih =>
    have hstep : S.machine.run (evs ++ [e]) = S.step (S.machine.run evs) e :=
      Machine.run_concat ..
    have hreact : ∀ (i : ℕ) (f : α → α × List ω),
        ((S.machine.run evs).requests.react i f).objects.length
          = (S.machine.run evs).requests.objects.length := by
      intro i f
      cases ha : (S.machine.run evs).requests.objects[i]? with
      | none => rw [Ensemble.react_of_none ha]
      | some a => rw [Ensemble.objects_react ha, List.length_set]
    rw [hstep, calls_concat, List.length_append, ← ih]
    cases e with
    | call n busOk =>
      have hone : (calls [(.call n busOk : Event ν ε)]).length = 1 := rfl
      rw [step, hone]
      split
      · simp only [Ensemble.objects_spawn, List.length_append, List.length_singleton]
        omega
      · simp only [List.length_append, List.length_singleton]
        omega
    | close path =>
      rw [step]
      split
      · rfl
      · exact congrArg (· + _) (hreact ..)
    | deliver i d => exact congrArg (· + _) (hreact ..)

/-- Objects that are sent one reply each, unless they are waiting for it, are as many as the replies
and those that are waiting. -/
lemma countP_log {E : Ensemble α ω} (h : E.Each fun a out =>
    out.countP reply + (if waiting a then 1 else 0) = 1) :
    (E.log.map Prod.snd).countP reply + E.objects.countP waiting = E.objects.length := by
  have hcount : ∀ out : List ω,
      (out.filterMap fun m => if reply m then some () else none).length = out.countP reply := by
    intro out
    rw [List.length_filterMap_eq_countP]
    refine List.countP_congr fun m _ => ?_
    cases reply m <;> simp
  have hunit : E.Each fun a out => (out.filterMap fun m => if reply m then some () else none)
      = if waiting a then [] else [()] := by
    intro i a ha
    have hone : (E.outputsOf i).countP reply + (if waiting a then 1 else 0) = 1 := h i a ha
    rw [← hcount] at hone
    have hlength : ((E.outputsOf i).filterMap fun m => if reply m then some () else none).length
        = if waiting a then 0 else 1 := by
      cases hw : waiting a <;> simp only [hw, if_true, Bool.false_eq_true, if_false] at hone ⊢ <;>
        omega
    rw [(List.eq_replicate_iff (a := ())).mpr ⟨hlength, fun _ _ => rfl⟩]
    cases waiting a <;> rfl
  have hperm := (Ensemble.perm_of_each hunit).length_eq
  have hobjects : ∀ l : List α,
      (l.flatMap fun a => if waiting a then [] else [()]).length + l.countP waiting = l.length := by
    intro l
    induction l with
    | nil => rfl
    | cons a l ih =>
      rw [List.flatMap_cons, List.length_append, List.countP_cons, List.length_cons, ← ih]
      cases waiting a <;> simp only [if_true, Bool.false_eq_true, if_false, List.length_nil,
        List.length_singleton] <;> omega
  rw [← hcount, hperm]
  exact hobjects E.objects

variable (S) in
/-- The `Close` handler acknowledges the call that it handles, and no other handler sends such an
acknowledgement. -/
structure Acknowledges (P : α → List ω → Prop) (ack : ω → Bool) : Prop where
  call : ∀ n ok a out, S.call n ok = .ok (a, out) → out.countP ack = 0
  close : ∀ a out, (S.request a).registered = true → P a out → (S.close a).2.countP ack = 1
  deliver : ∀ e a out, P a out → (S.deliver e a).2.countP ack = 0

/-- Whether the bus routes the event to a request as a `Close` call. -/
def routesClose (S : Service α ν ε ω) (s : State α ω) : Event ν ε → Bool
  | .close path => (S.route s path).isSome
  | .call _ _ | .deliver _ _ => false

/-- The acknowledgements grow by one with each `Close` call that is routed. -/
lemma Acknowledges.step {ack : ω → Bool} (h : S.Acknowledges P ack) {s : State α ω}
    (hs : s.requests.Each P) (e : Event ν ε) :
    ((S.step s e).requests.log.map Prod.snd).countP ack
      = (s.requests.log.map Prod.snd).countP ack + if S.routesClose s e then 1 else 0 := by
  have hlog : ∀ (E : Ensemble α ω) (i : ℕ) (added : List ω),
      E.log = s.requests.log ++ added.map (fun m => (i, m)) →
      (E.log.map Prod.snd).countP ack
        = (s.requests.log.map Prod.snd).countP ack + added.countP ack := by
    intro E i added heq
    rw [heq, List.map_append, List.countP_append, List.map_map]
    congr 2
    exact List.map_id added
  cases e with
  | call n busOk =>
    rw [Service.step, routesClose]
    split
    · next a out hcall => rw [hlog _ _ out rfl, h.call n _ a out hcall]; rfl
    · rfl
  | close path =>
    rw [Service.step, routesClose]
    cases hroute : S.route s path with
    | none => rfl
    | some i =>
      obtain ⟨a, ha, hreg, -⟩ := registered_of_route hroute
      dsimp only
      rw [hlog _ i _ (Ensemble.log_react ha _), h.close a _ hreg (hs i a ha)]
      rfl
  | deliver i d =>
    rw [Service.step, routesClose]
    cases ha : s.requests.objects[i]? with
    | none =>
      rw [Ensemble.react_of_none ha]
      rfl
    | some a =>
      dsimp only
      rw [hlog _ i _ (Ensemble.log_react ha _), h.deliver d a _ (hs i a ha)]
      rfl

section Sum

variable {β μ δ ξ : Type} {T : Service β μ δ ξ} {Q : β → List ξ → Prop} {ack : ω → Bool}
  {ack' : ξ → Bool}

/-- Services that acknowledge do so side by side. -/
lemma Acknowledges.sum (hS : S.Acknowledges P ack) (hT : T.Acknowledges Q ack') :
    (S.sum T).Acknowledges (OfEach P Q) (Sum.elim ack ack') where
  call n ok x out hcall := by
    cases n with
    | inl n =>
      cases h : S.call n ok with
      | error m => simp [Service.sum, h] at hcall
      | ok r =>
        obtain ⟨a, sent⟩ := r
        obtain ⟨rfl, rfl⟩ : .inl a = x ∧ sent.map .inl = out := by
          simpa [Service.sum, h] using hcall
        rw [List.countP_map]
        exact hS.call n ok a sent h
    | inr n =>
      cases h : T.call n ok with
      | error m => simp [Service.sum, h] at hcall
      | ok r =>
        obtain ⟨b, sent⟩ := r
        obtain ⟨rfl, rfl⟩ : .inr b = x ∧ sent.map .inr = out := by
          simpa [Service.sum, h] using hcall
        rw [List.countP_map]
        exact hT.call n ok b sent h
  close x out hreg h := by
    cases x with
    | inl a =>
      obtain ⟨sent, -, hP⟩ := h
      simp only [Service.sum, List.countP_map]
      exact hS.close a sent hreg hP
    | inr b =>
      obtain ⟨sent, -, hQ⟩ := h
      simp only [Service.sum, List.countP_map]
      exact hT.close b sent hreg hQ
  deliver e x out h := by
    cases e with
    | inl e =>
      cases x with
      | inl a =>
        obtain ⟨sent, -, hP⟩ := h
        simp only [Service.sum, List.countP_map]
        exact hS.deliver e a sent hP
      | inr b => rfl
    | inr e =>
      cases x with
      | inl a => rfl
      | inr b =>
        obtain ⟨sent, -, hQ⟩ := h
        simp only [Service.sum, List.countP_map]
        exact hT.deliver e b sent hQ

end Sum

end Service

namespace Ownership

/-! ## The three interfaces -/

/-- Whether a message is the reply to a method call. -/
def isReply : Message → Bool :=
  Sum.elim
    (fun
      | .completeInhibit | .returnError _ _ => true
      | _ => false)
    (Sum.elim (fun m => m.answer.isSome)
      (fun
        | .completeSetWallpaperUri _ => true
        | _ => false))

/-- Whether a message is the reply to a `Close` call. -/
def isCloseReply : Message → Bool :=
  Sum.elim (· = .completeClose) (Sum.elim (· = .completeClose) (· = .completeClose))

/-- Whether the method call of a request is still to be replied to. -/
def awaitsReply : PortalRequest → Bool :=
  Sum.elim (fun _ => false) (Sum.elim (fun x => x.handle.isSome) (fun x => x.handle.isSome))

section Inhibit

open Inhibit

variable {a : InhibitRequest} {b : Backend}

/-- A request is replied to when it is created. -/
lemma keeps_replied_inhibit (b : Backend) :
    (Inhibit.service b).Keeps (fun _ _ => True) (fun _ _ => True) fun a out =>
      Coherent a ∧ out.countP (fun m => isReply (.inl m)) = 1 where
  call n ok a out hcall _ := by
    refine ⟨(keeps_coherent b).call n ok a out hcall trivial, ?_⟩
    cases b with
    | gnome =>
      obtain ⟨-, rfl⟩ : Inhibit.inhibitRequest n ok = a ∧ _ = out := by
        simpa [Inhibit.service, handleInhibitGnome] using hcall
      rfl
    | fdo =>
      simp only [Inhibit.service, handleInhibitFdo] at hcall
      split at hcall
      · simp at hcall
      · obtain ⟨-, rfl⟩ : Inhibit.inhibitRequest n ok = a ∧ _ = out := by simpa using hcall
        rfl
  close a out hreg h := by
    refine ⟨(keeps_coherent b).close a out hreg h.1, ?_⟩
    rw [service_request] at hreg
    rw [service_close, List.countP_append, h.2, h.1.dispatchClose_eq hreg]
    by_cases hcookie : a.cookie ≠ 0
    · cases b <;> simp [hcookie, uninhibit, isReply]
    · cases b <;> simp [hcookie, isReply]
  deliver reply a out h _ := by
    refine ⟨(keeps_coherent b).deliver reply a out h.1 trivial, ?_⟩
    rw [service_deliver, List.countP_append, h.2]
    by_cases hcall : a.call = .inFlight
    · rw [h.1.inhibitDone_eq hcall]
      split <;> cases b <;> rfl
    · rw [Coherent.inhibitDone_of_answered hcall]
      rfl

lemma acknowledges_inhibit (b : Backend) :
    (Inhibit.service b).Acknowledges (fun a out =>
      Coherent a ∧ out.countP (fun m => isReply (.inl m)) = 1) (· = .completeClose) where
  call n ok a out hcall := by
    cases b with
    | gnome =>
      obtain ⟨-, rfl⟩ : Inhibit.inhibitRequest n ok = a ∧ _ = out := by
        simpa [Inhibit.service, handleInhibitGnome] using hcall
      rfl
    | fdo =>
      simp only [Inhibit.service, handleInhibitFdo] at hcall
      split at hcall
      · simp at hcall
      · obtain ⟨-, rfl⟩ : Inhibit.inhibitRequest n ok = a ∧ _ = out := by simpa using hcall
        rfl
  close a out hreg h := by
    rw [service_request] at hreg
    rw [service_close, h.1.dispatchClose_eq hreg]
    by_cases hcookie : a.cookie ≠ 0
    · cases b <;> simp [hcookie, uninhibit]
    · cases b <;> simp [hcookie]
  deliver reply a out h := by
    rw [service_deliver]
    by_cases hcall : a.call = .inFlight
    · rw [h.1.inhibitDone_eq hcall]
      split <;> cases b <;> rfl
    · rw [Coherent.inhibitDone_of_answered hcall]
      rfl

end Inhibit

section Screenshot

open Screenshot

lemma countP_closes_eq_zero {out : List Screenshot.Message}
    (h : ∀ m ∈ out, m ≠ .completeClose) :
    out.countP (fun m => decide (m = .completeClose)) = 0 :=
  List.countP_eq_zero.mpr fun m hm => by simpa using h m hm

lemma acknowledges_screenshot (mode : String) (cinnamon : Bool) :
    (Screenshot.service mode cinnamon).Acknowledges (Screenshot.Settled 0)
      (· = .completeClose) where
  call n ok x out hcall := by
    have hanswer : ∀ {m : Screenshot.Message}, m.answer.isSome = true → m ≠ .completeClose := by
      rintro m hm rfl
      exact absurd hm (by decide)
    refine countP_closes_eq_zero fun m hm => ?_
    cases n with
    | screenshot arg env =>
      obtain ⟨-, rfl⟩ : (handleScreenshot mode arg env ok).1 = x ∧
          (handleScreenshot mode arg env ok).2 = out := by
        simpa [Screenshot.service, Prod.ext_iff] using hcall
      have hrun : ∀ argv callback y, ∀ m ∈ (runProgram argv callback env y).2,
          m ≠ .completeClose := by
        intro argv callback y m hm
        rw [runProgram] at hm
        split at hm
        · split at hm
          · rcases List.mem_cons.mp hm with rfl | hm
            · exact fun h => by cases h
            · exact hanswer (answer_of_mem_respond hm)
          · obtain rfl := List.mem_singleton.mp hm
            exact fun h => by cases h
        · exact hanswer (answer_of_mem_respond hm)
      rw [handleScreenshot] at hm
      dsimp only at hm
      split at hm
      · exact hrun _ _ _ m hm
      · split at hm
        · exact hrun _ _ _ m hm
        · exact hanswer (answer_of_mem_respond hm)
    | pickColor arg =>
      obtain ⟨-, rfl⟩ : (handlePickColor mode cinnamon arg ok).1 = x ∧
          (handlePickColor mode cinnamon arg ok).2 = out := by
        simpa [Screenshot.service, Prod.ext_iff] using hcall
      rw [handlePickColor] at hm
      dsimp only at hm
      split at hm
      · exact hanswer (answer_of_mem_respond hm)
      · obtain rfl := List.mem_singleton.mp hm
        exact fun h => by cases h
  close x out _ _ := by
    have hhandler : ∀ y : ScreenshotRequest,
        (Screenshot.handleClose y).2.countP (fun m => decide (m = .completeClose)) = 0 := by
      intro y
      rw [Screenshot.handleClose, Handled.access]
      split
      · rfl
      · split <;> rfl
    simp only [Screenshot.service, Handled.dispatchClose, List.countP_append, hhandler]
    rfl
  deliver result x out _ := countP_closes_eq_zero fun m hm h => by
    subst h
    exact absurd (answer_of_mem_deliver hm) (by decide)

end Screenshot

section Wallpaper

open Wallpaper

/-- Storing a wallpaper replies to nothing. -/
lemma closes_storeWallpaper (mode : String) (env : Environment) (h : WallpaperDialogHandle) :
    (storeWallpaper mode env h).2.countP (fun m => decide (m = .completeClose)) = 0 := by
  have hback : ∀ schema key value zoomed,
      (setBackground schema key value zoomed env).2.countP
        (fun m => decide (m = .completeClose)) = 0 := by
    intro schema key value zoomed
    rw [setBackground]
    split <;> rfl
  rw [storeWallpaper]
  dsimp only
  split
  · rfl
  · cases env.uri with
    | none => rfl
    | some uri =>
      dsimp only
      rw [List.countP_cons_of_neg (by simp), setGsettings]
      split
      · rfl
      · split
        · exact hback ..
        · split
          · exact hback ..
          · split <;> rfl

lemma acknowledges_wallpaper (mode : String) :
    (Wallpaper.service mode).Acknowledges (Wallpaper.Settled 0) (· = .completeClose) where
  call n ok x out hcall := by
    obtain ⟨-, rfl⟩ : (handleSetWallpaperUri n ok).1 = x ∧
        (handleSetWallpaperUri n ok).2 = out := by
      simpa [Wallpaper.service, Prod.ext_iff] using hcall
    rfl
  close x out hreg hs := by
    obtain ⟨h, ho⟩ := hs.open_of_registered hreg
    simp only [Wallpaper.service, Wallpaper.dispatchClose_eq ho hreg]
    rfl
  deliver d x out hs := by
    simp only [Wallpaper.service]
    cases hs.sends mode d with
    | nothing hsent => rw [hsent]; rfl
    | stored bytes env h _ _ _ hsent =>
      rw [hsent, List.countP_append, closes_storeWallpaper]
      rfl
    | dismissed _ hsent => rw [hsent]; rfl
    | failed _ _ hsent => rw [hsent]; rfl

end Wallpaper

/-! ## All runs -/

/-- What holds of every request of a run. -/
def Replied : PortalRequest → List Message → Prop :=
  Service.OfEach
    (fun a out => Inhibit.Coherent a ∧ out.countP (fun m => isReply (.inl m)) = 1)
    (Service.OfEach (Screenshot.Settled 0) (Wallpaper.Settled 0))

/-- A request is replied to once or waits for its reply. -/
lemma Replied.once {a : PortalRequest} {out : List Message} (h : Replied a out) :
    out.countP isReply + (if awaitsReply a then 1 else 0) = 1 := by
  rcases a with a | x | x
  · obtain ⟨sent, rfl, -, hone⟩ := h
    rw [List.countP_map]
    exact hone
  · obtain ⟨_, rfl, sent, rfl, hs⟩ := h
    have honce := hs.answeredOnce
    have hcount : (Screenshot.answers sent).length = sent.countP fun m => m.answer.isSome :=
      List.length_filterMap_eq_countP
    rw [List.countP_map, List.countP_map]
    show (sent.countP fun m => m.answer.isSome) + (if x.handle.isSome then 1 else 0) = 1
    rw [← hcount, honce.answered]
    by_cases hp : x.pending = []
    · rw [if_pos hp, honce.freed.mpr hp]
      rfl
    · obtain ⟨handle, hh⟩ := Option.ne_none_iff_exists'.mp (mt honce.freed.mp hp)
      rw [if_neg hp, hh]
      rfl
  · obtain ⟨_, rfl, sent, rfl, hs⟩ := h
    have hcount : (Wallpaper.answers sent).length
        = sent.countP fun m => isReply (.inr (.inr m)) := by
      rw [Wallpaper.answers, List.length_filterMap_eq_countP]
      refine List.countP_congr fun m _ => ?_
      cases m <;> simp [isReply]
    rw [List.countP_map, List.countP_map]
    show (sent.countP fun m => isReply (.inr (.inr m))) + (if x.handle.isSome then 1 else 0) = 1
    rw [← hcount, (hs.answeredOnce "").answered]
    cases x.handle <;> rfl

lemma replied_run (backend : Inhibit.Backend) (mode : String) (cinnamon : Bool)
    (evs : List (Service.Event Call Result)) :
    ((portal backend mode cinnamon).machine.run evs).requests.Each Replied :=
  Service.each_run
    ((keeps_replied_inhibit backend).sum
      ((Screenshot.keeps_settled mode cinnamon).sum (Wallpaper.keeps_settled mode)))
    (Service.along_trivial evs)

/-- **Every call is replied to once, is refused, or waits for its reply**: each method call of a run
has made a request or was refused, and each request has been sent one reply, or none while it waits
for it, so that the totals agree; and a step replies to one `Close` call if it handles one and to
none otherwise. -/
theorem portal_replies (backend : Inhibit.Backend) (mode : String) (cinnamon : Bool)
    (evs : List (Service.Event Call Result)) (e : Service.Event Call Result) :
    let s := (portal backend mode cinnamon).machine.run evs
    let s' := (portal backend mode cinnamon).machine.run (evs ++ [e])
    s.requests.objects.length + s.refused.length = (Service.calls evs).length ∧
      (s.requests.Each fun a out => out.countP isReply = if awaitsReply a then 0 else 1) ∧
      (s.requests.log.map Prod.snd).countP isReply + s.refused.length
        + s.requests.objects.countP awaitsReply = (Service.calls evs).length ∧
      (s'.requests.log.map Prod.snd).countP isCloseReply
        = (s.requests.log.map Prod.snd).countP isCloseReply
          + if (portal backend mode cinnamon).routesClose s e then 1 else 0 := by
  intro s s'
  have hcalls : s.requests.objects.length + s.refused.length = (Service.calls evs).length :=
    Service.length_calls evs
  have honce : s.requests.Each fun a out =>
      out.countP isReply + (if awaitsReply a then 1 else 0) = 1 :=
    fun i a ha => (replied_run backend mode cinnamon evs i a ha).once
  refine ⟨hcalls, fun i a ha => ?_, ?_, ?_⟩
  · have hone := honce i a ha
    cases hwaits : awaitsReply a <;> simpa [hwaits] using hone
  · have hreplies : (s.requests.log.map Prod.snd).countP isReply
        + s.requests.objects.countP awaitsReply = s.requests.objects.length :=
      Service.countP_log honce
    rw [← hcalls, ← hreplies, Nat.add_right_comm]
  · have hack : (portal backend mode cinnamon).Acknowledges Replied isCloseReply :=
      (acknowledges_inhibit backend).sum
        ((acknowledges_screenshot mode cinnamon).sum (acknowledges_wallpaper mode))
    have hstep : s' = (portal backend mode cinnamon).step s e := Machine.run_concat _ evs e
    rw [hstep]
    exact hack.step (replied_run backend mode cinnamon evs) e

end Ownership

end XappPortal
