/-
# Services

The portal interfaces whose method calls create request objects (Inhibit, Screenshot, Wallpaper)
are services: a call that is accepted creates an object with a request exported at the handle of
the call, the caller may close the request through the bus, and the operations the object has
started deliver their results to it.

A service gives the handlers for one object.  The machine of the service interleaves any number
of objects; GDBus appears in it as the routing of `Close` calls to the object registered at the
path, and as the refusal to register two objects at one path.  Properties of single objects are
lifted to all the runs of the machine by `Service.each_run`.
-/
import XappPortal.Lib.Machine
import XappPortal.Lib.Ensemble
import XappPortal.Request.Object

namespace XappPortal

open XappPortal.Lib

/-- The handlers of a portal interface, for objects `α` created by method calls `ν`, receiving
results `ε` of the operations they start, and sending messages `ω`. -/
structure Service (α ν ε ω : Type) where
  /-- The request of an object. -/
  request : α → Request
  /-- The handle named by a method call. -/
  path : ν → String
  /-- The handler of a method call, which either creates an object or answers with an error;
  the flag is the result of exporting the request. -/
  call : ν → Bool → Except ω (α × List ω)
  /-- The handling of a `Close` call on the request. -/
  close : α → α × List ω
  /-- The handling of a result. -/
  deliver : ε → α → α × List ω

namespace Service

variable {α ν ε ω : Type}

/-- What the main loop hands to a service. -/
inductive Event (ν ε : Type) where
  /-- A method call; `busOk` tells whether the bus can take a registration. -/
  | call (n : ν) (busOk : Bool)
  /-- A `Close` call on a request. -/
  | close (path : String)
  /-- A result for the object with number `i`. -/
  | deliver (i : ℕ) (e : ε)
deriving DecidableEq, Repr

/-- The objects of a service and the errors it answered calls with. -/
structure State (α ω : Type) where
  requests : Ensemble α ω
  refused : List ω

variable (S : Service α ν ε ω)

/-- Whether GDBus has the request of an object registered at a path. -/
def registeredAt (path : String) (a : α) : Bool :=
  (S.request a).registered && (S.request a).id == path

/-- The object to which GDBus delivers a call on a path. -/
def route (s : State α ω) (path : String) : Option ℕ :=
  s.requests.objects.findIdx? (S.registeredAt path)

/-- The result of exporting the request of a call: the bus must take registrations, and the
handle must not be in use. -/
def exportOk (s : State α ω) (n : ν) (busOk : Bool) : Bool :=
  busOk && (S.route s (S.path n)).isNone

/-- The handling of an event. -/
def step (s : State α ω) : Event ν ε → State α ω
  | .call n busOk =>
      match S.call n (S.exportOk s n busOk) with
      | .ok (a, out) => { s with requests := s.requests.spawn a out }
      | .error m => { s with refused := s.refused ++ [m] }
  | .close path =>
      match S.route s path with
      | none => s
      | some i => { s with requests := s.requests.react i S.close }
  | .deliver i e => { s with requests := s.requests.react i (S.deliver e) }

/-- Before any call. -/
def initial : State α ω := ⟨Ensemble.empty, []⟩

/-- The service as a machine. -/
def machine : Machine (State α ω) (Event ν ε) := ⟨initial, S.step⟩

/-! ## Properties of single objects -/

/-- A condition on events: on the method calls, given the result of their export, and on the
results, given the object they are delivered to. -/
def Meets (Gcall : ν → Bool → Prop) (Gdeliver : ε → α → Prop) (s : State α ω) :
    Event ν ε → Prop
  | .call n busOk => Gcall n (S.exportOk s n busOk)
  | .close _ => True
  | .deliver i e => ∀ a ∈ s.requests.objects[i]?, Gdeliver e a

instance (Gcall : ν → Bool → Prop) (Gdeliver : ε → α → Prop) [∀ n ok, Decidable (Gcall n ok)]
    [∀ e a, Decidable (Gdeliver e a)] (s : State α ω) : ∀ e, Decidable (S.Meets Gcall Gdeliver s e)
  | .call n busOk => inferInstanceAs (Decidable (Gcall n (S.exportOk s n busOk)))
  | .close _ => inferInstanceAs (Decidable True)
  | .deliver i e => inferInstanceAs (Decidable (∀ a ∈ s.requests.objects[i]?, Gdeliver e a))

/-- The handlers establish and keep a property of an object and of what was sent for it. -/
structure Keeps (Gcall : ν → Bool → Prop) (Gdeliver : ε → α → Prop)
    (P : α → List ω → Prop) : Prop where
  call : ∀ n ok a out, S.call n ok = .ok (a, out) → Gcall n ok → P a out
  close : ∀ a out, (S.request a).registered = true → P a out →
    P (S.close a).1 (out ++ (S.close a).2)
  deliver : ∀ e a out, P a out → Gdeliver e a → P (S.deliver e a).1 (out ++ (S.deliver e a).2)

variable {S} {Gcall : ν → Bool → Prop} {Gdeliver : ε → α → Prop} {P : α → List ω → Prop}
  {s : State α ω}

/-- GDBus delivers calls only to registered objects. -/
lemma registered_of_route {path : String} {i : ℕ} (h : S.route s path = some i) :
    ∃ a, s.requests.objects[i]? = some a ∧ (S.request a).registered = true ∧
      (S.request a).id = path := by
  obtain ⟨hlt, hp, -⟩ := List.findIdx?_eq_some_iff_getElem.mp h
  refine ⟨s.requests.objects[i], List.getElem?_eq_getElem hlt, ?_⟩
  simpa [registeredAt] using hp

lemma each_step (hk : S.Keeps Gcall Gdeliver P) (h : s.requests.Each P) {e : Event ν ε}
    (he : S.Meets Gcall Gdeliver s e) : (S.step s e).requests.Each P := by
  cases e with
  | call n busOk =>
    rw [step]
    split
    · next a out hcall => exact h.spawn (hk.call n _ a out hcall he)
    · exact h
  | close path =>
    rw [step]
    split
    · exact h
    · next i hi =>
      obtain ⟨a, ha, hreg, -⟩ := registered_of_route hi
      refine h.react fun b hb hP => ?_
      obtain rfl : a = b := Option.some.inj (ha.symm.trans hb)
      exact hk.close a _ hreg hP
  | deliver i e => exact h.react fun a ha hP => hk.deliver e a _ hP (he a ha)

/-- What an event adds to the messages sent for an object. -/
lemma outputsOf_step_cases (s : State α ω) (e : Event ν ε) (i : ℕ) :
    (S.step s e).requests.outputsOf i = s.requests.outputsOf i ∨
    (∃ n ok a, S.call n ok = .ok (a, (S.step s e).requests.outputsOf i) ∧
      s.requests.outputsOf i = []) ∨
    (∃ a, s.requests.objects[i]? = some a ∧ (S.request a).registered = true ∧
      (S.step s e).requests.outputsOf i = s.requests.outputsOf i ++ (S.close a).2) ∨
    ∃ d a, e = .deliver i d ∧ s.requests.objects[i]? = some a ∧
      (S.step s e).requests.outputsOf i = s.requests.outputsOf i ++ (S.deliver d a).2 := by
  cases e with
  | call n busOk =>
    rw [step]
    split
    · next a out hcall =>
      show (s.requests.spawn a out).outputsOf i = _ ∨ _
      rw [Ensemble.outputsOf_spawn]
      rcases eq_or_ne i s.requests.objects.length with rfl | hi
      · rw [if_pos rfl]
        exact Or.inr (Or.inl ⟨n, _, a, hcall, Ensemble.outputsOf_of_length_le (Nat.le_refl _)⟩)
      · exact Or.inl (if_neg hi)
    · exact Or.inl rfl
  | close path =>
    rw [step]
    split
    · exact Or.inl rfl
    · next j hj =>
      obtain ⟨a, ha, hreg, -⟩ := registered_of_route hj
      rw [Ensemble.outputsOf_react ha]
      rcases eq_or_ne j i with rfl | hij
      · exact Or.inr (Or.inr (Or.inl ⟨a, ha, hreg, by rw [if_pos rfl]⟩))
      · exact Or.inl (by rw [if_neg hij, List.append_nil])
  | deliver j d =>
    rw [step]
    cases ha : s.requests.objects[j]? with
    | none => exact Or.inl (by rw [Ensemble.react_of_none ha])
    | some a =>
      rw [Ensemble.outputsOf_react ha]
      rcases eq_or_ne j i with rfl | hij
      · exact Or.inr (Or.inr (Or.inr ⟨d, a, rfl, ha, by rw [if_pos rfl]⟩))
      · exact Or.inl (by rw [if_neg hij, List.append_nil])

/-- What an event adds to the log: the messages that one object has sent while handling it. -/
lemma log_step_cases (s : State α ω) (e : Event ν ε) :
    ∃ i added, (S.step s e).requests.log = s.requests.log ++ added.map (fun m => (i, m)) ∧
      (added = [] ∨ (∃ n ok a, S.call n ok = .ok (a, added)) ∨
        (∃ a, s.requests.objects[i]? = some a ∧ (S.request a).registered = true ∧
          added = (S.close a).2) ∨
        ∃ d a, e = .deliver i d ∧ s.requests.objects[i]? = some a ∧ added = (S.deliver d a).2) := by
  have hnone : ∃ i added, s.requests.log = s.requests.log ++ added.map (fun m : ω => (i, m)) ∧
      added = [] := ⟨0, [], by simp, rfl⟩
  cases e with
  | call n busOk =>
    rw [step]
    split
    · next a out hcall => exact ⟨_, out, rfl, Or.inr (Or.inl ⟨n, _, a, hcall⟩)⟩
    · obtain ⟨i, added, hlog, hadded⟩ := hnone
      exact ⟨i, added, hlog, Or.inl hadded⟩
  | close path =>
    rw [step]
    split
    · obtain ⟨i, added, hlog, hadded⟩ := hnone
      exact ⟨i, added, hlog, Or.inl hadded⟩
    · next i hi =>
      obtain ⟨a, ha, hreg, -⟩ := registered_of_route hi
      exact ⟨i, _, Ensemble.log_react ha _, Or.inr (Or.inr (Or.inl ⟨a, ha, hreg, rfl⟩))⟩
  | deliver i d =>
    rw [step]
    cases ha : s.requests.objects[i]? with
    | none =>
      rw [Ensemble.react_of_none ha]
      obtain ⟨j, added, hlog, hadded⟩ := hnone
      exact ⟨j, added, hlog, Or.inl hadded⟩
    | some a =>
      exact ⟨i, _, Ensemble.log_react ha _, Or.inr (Or.inr (Or.inr ⟨d, a, rfl, ha, rfl⟩))⟩

/-- A property kept by the handlers holds of every object throughout every run that meets the
condition. -/
theorem each_run (hk : S.Keeps Gcall Gdeliver P) {evs : List (Event ν ε)}
    (h : S.machine.Along (S.Meets Gcall Gdeliver) initial evs) :
    (S.machine.run evs).requests.Each P :=
  Machine.inv_run (I := fun s => s.requests.Each P) Ensemble.Each.empty
    (fun _ _ hs he => each_step hk hs he) h

/-- The condition that holds of every event. -/
lemma along_trivial (evs : List (Event ν ε)) :
    S.machine.Along (S.Meets (fun _ _ => True) fun _ _ => True) initial evs := by
  refine Machine.along_of_mem fun e _ s => ?_
  cases e with
  | call n busOk => trivial
  | close path => trivial
  | deliver i e => exact fun _ _ => trivial

/-! ## The calls that the objects come from -/

/-- The method calls among the events. -/
def calls (evs : List (Event ν ε)) : List ν :=
  evs.filterMap fun
    | .call n _ => some n
    | _ => none

lemma calls_concat (evs : List (Event ν ε)) (e : Event ν ε) :
    calls (evs ++ [e]) = calls evs ++ calls [e] := List.filterMap_append

variable (S) in
/-- The handlers accept every call, and establish and keep a property that an object shares with the
call it comes from. -/
structure KeepsOrigin (Q : ν → α → List ω → Prop) : Prop where
  accepts : ∀ n ok, ∃ a out, S.call n ok = .ok (a, out)
  call : ∀ n ok a out, S.call n ok = .ok (a, out) → Q n a out
  close : ∀ n a out, Q n a out → Q n (S.close a).1 (out ++ (S.close a).2)
  deliver : ∀ n e a out, Q n a out → Q n (S.deliver e a).1 (out ++ (S.deliver e a).2)

/-- The objects come from the calls, in their order. -/
theorem origin_run {Q : ν → α → List ω → Prop} (hk : S.KeepsOrigin Q) (evs : List (Event ν ε)) :
    (S.machine.run evs).requests.objects.length = (calls evs).length ∧
    (S.machine.run evs).requests.EachAt fun i a out => ∀ n ∈ (calls evs)[i]?, Q n a out := by
  induction evs using List.reverseRecOn with
  | nil => exact ⟨rfl, Ensemble.EachAt.empty⟩
  | append_singleton evs e ih =>
    obtain ⟨hlength, heach⟩ := ih
    have hstep : S.machine.run (evs ++ [e]) = S.step (S.machine.run evs) e :=
      Machine.run_concat ..
    -- a reaction of an object leaves it with the call it comes from
    have hreact : ∀ (i : ℕ) (f : α → α × List ω),
        (∀ n a out, Q n a out → Q n (f a).1 (out ++ (f a).2)) →
        ((S.machine.run evs).requests.react i f).objects.length = (calls evs).length ∧
        ((S.machine.run evs).requests.react i f).EachAt fun i a out =>
          ∀ n ∈ (calls evs)[i]?, Q n a out := by
      intro i f hf
      refine ⟨?_, heach.react fun a _ hQ n hn => hf n a _ (hQ n hn)⟩
      cases ha : (S.machine.run evs).requests.objects[i]? with
      | none => rw [Ensemble.react_of_none ha, hlength]
      | some a => rw [Ensemble.objects_react ha, List.length_set, hlength]
    rw [hstep, calls_concat]
    cases e with
    | call n busOk =>
      obtain ⟨a, out, hcall⟩ := hk.accepts n (S.exportOk (S.machine.run evs) n busOk)
      have hcalls : calls [(.call n busOk : Event ν ε)] = [n] := rfl
      rw [step, hcalls]
      simp only [hcall]
      have hold : (S.machine.run evs).requests.EachAt fun i a out =>
          ∀ n' ∈ (calls evs ++ [n])[i]?, Q n' a out := by
        intro i b hb n' hn'
        have hlt : i < (calls evs).length := by
          rw [← hlength]
          exact (List.getElem?_eq_some_iff.mp hb).1
        rw [List.getElem?_append_left hlt] at hn'
        exact heach i b hb n' hn'
      refine ⟨by simp [hlength], hold.spawn fun n' hn' => ?_⟩
      rw [hlength, List.getElem?_concat_length] at hn'
      obtain rfl := Option.some.inj hn'
      exact hk.call n _ a out hcall
    | close path =>
      have hcalls : calls [(.close path : Event ν ε)] = [] := rfl
      rw [step, hcalls, List.append_nil]
      split
      · exact ⟨hlength, heach⟩
      · exact hreact _ _ hk.close
    | deliver i d =>
      have hcalls : calls [(.deliver i d : Event ν ε)] = [] := rfl
      rw [step, hcalls, List.append_nil]
      exact hreact i _ fun n a out => hk.deliver n d a out

/-! ## The registrations -/

variable (S) in
/-- The handlers export a new request at the handle of its call, and never register it again. -/
structure Lawful : Prop where
  call_id : ∀ n ok a out, S.call n ok = .ok (a, out) → (S.request a).id = S.path n
  call_registered : ∀ n ok a out, S.call n ok = .ok (a, out) →
    (S.request a).registered = true → ok = true
  close : ∀ a, (S.request a).LeadsTo (S.request (S.close a).1)
  deliver : ∀ e a, (S.request a).LeadsTo (S.request (S.deliver e a).1)

variable (S) in
/-- No two requests are registered at one path. -/
def Unambiguous (s : State α ω) : Prop :=
  ∀ (i j : ℕ) (a b : α), s.requests.objects[i]? = some a → s.requests.objects[j]? = some b →
    (S.request a).registered = true → (S.request b).registered = true →
    (S.request a).id = (S.request b).id → i = j

lemma unambiguous_react (h : S.Unambiguous s) {i : ℕ} {f : α → α × List ω}
    (hf : ∀ a, (S.request a).LeadsTo (S.request (f a).1)) :
    S.Unambiguous { s with requests := s.requests.react i f } := by
  have hback : ∀ (j : ℕ) (b : α), (s.requests.react i f).objects[j]? = some b →
      (S.request b).registered = true →
      ∃ a, s.requests.objects[j]? = some a ∧ (S.request a).registered = true ∧
        (S.request a).id = (S.request b).id := by
    intro j b hb hb'
    rw [Ensemble.getElem?_objects_react] at hb
    split at hb
    · obtain ⟨a, ha, rfl⟩ := Option.map_eq_some_iff.mp hb
      exact ⟨a, ha, (hf a).registered hb', (hf a).id.symm⟩
    · exact ⟨b, hb, hb', rfl⟩
  intro j k b c hb hc hb' hc' hbc
  obtain ⟨b₀, hb₀, hbr, hbi⟩ := hback j b hb hb'
  obtain ⟨c₀, hc₀, hcr, hci⟩ := hback k c hc hc'
  exact h j k b₀ c₀ hb₀ hc₀ hbr hcr (by rw [hbi, hci, hbc])

lemma route_eq_none_iff {path : String} :
    S.route s path = none ↔ ∀ (i : ℕ) (a : α), s.requests.objects[i]? = some a →
      (S.request a).registered = true → (S.request a).id ≠ path := by
  rw [route, List.findIdx?_eq_none_iff]
  constructor
  · intro h i a ha hreg hid
    have := h a (List.mem_of_getElem? ha)
    simp [registeredAt, hreg, hid] at this
  · intro h a ha
    obtain ⟨i, hi⟩ := List.mem_iff_getElem?.mp ha
    have := h i a hi
    cases hreg : (S.request a).registered <;> simp_all [registeredAt]

lemma unambiguous_step (hS : S.Lawful) (h : S.Unambiguous s) (e : Event ν ε) :
    S.Unambiguous (S.step s e) := by
  cases e with
  | call n busOk =>
    rw [step]
    split
    · next a out hcall =>
      have hid := hS.call_id n _ a out hcall
      -- a newly registered request found its path free
      have hfresh : ∀ (j : ℕ) (b : α), s.requests.objects[j]? = some b →
          (S.request b).registered = true → (S.request a).registered = true →
            (S.request b).id ≠ (S.request a).id := by
        intro j b hb hb' ha'
        have hok := hS.call_registered n _ a out hcall ha'
        have hnone : S.route s (S.path n) = none := by
          simpa [exportOk] using (Bool.and_eq_true_iff.mp hok).2
        rw [hid]
        exact route_eq_none_iff.mp hnone j b hb hb'
      intro i j b c hb hc hb' hc' hbc
      simp only [Ensemble.objects_spawn] at hb hc
      rw [List.getElem?_append] at hb hc
      split at hb <;> split at hc
      · exact h i j b c hb hc hb' hc' hbc
      · have : c = a := by simpa using (List.mem_of_getElem? hc)
        subst this
        exact absurd hbc (hfresh i b hb hb' hc')
      · have : b = a := by simpa using (List.mem_of_getElem? hb)
        subst this
        exact absurd hbc.symm (hfresh j c hc hc' hb')
      · have hi := (List.getElem?_eq_some_iff.mp hb).1
        have hj := (List.getElem?_eq_some_iff.mp hc).1
        simp only [List.length_singleton] at hi hj
        omega
    · exact h
  | close path =>
    rw [step]
    split
    · exact h
    · exact unambiguous_react h hS.close
  | deliver i e => exact unambiguous_react h (hS.deliver e)

lemma unambiguous_initial : S.Unambiguous (initial : State α ω) := by
  intro i j a b ha
  simp [initial, Ensemble.empty] at ha

/-- A registered request is the one that GDBus delivers calls on its path to. -/
lemma route_of_registered (h : S.Unambiguous s) {i : ℕ} {a : α}
    (ha : s.requests.objects[i]? = some a) (hreg : (S.request a).registered = true) :
    S.route s (S.request a).id = some i := by
  cases hroute : S.route s (S.request a).id with
  | none => exact absurd rfl (route_eq_none_iff.mp hroute i a ha hreg)
  | some j =>
    obtain ⟨b, hb, hb', hid⟩ := registered_of_route hroute
    rw [h i j a b ha hb hreg hb' hid.symm]

/-! ## Services on one bus -/

section Sum

variable {β μ δ ξ : Type}

/-- Two services on one bus, where their requests compete for the paths.  A result belongs to the
service whose operation delivers it. -/
def sum (S : Service α ν ε ω) (T : Service β μ δ ξ) :
    Service (α ⊕ β) (ν ⊕ μ) (ε ⊕ δ) (ω ⊕ ξ) where
  request := Sum.elim S.request T.request
  path := Sum.elim S.path T.path
  call
    | .inl n, exportOk =>
        match S.call n exportOk with
        | .ok (a, out) => .ok (.inl a, out.map .inl)
        | .error m => .error (.inl m)
    | .inr n, exportOk =>
        match T.call n exportOk with
        | .ok (b, out) => .ok (.inr b, out.map .inr)
        | .error m => .error (.inr m)
  close
    | .inl a => (.inl (S.close a).1, (S.close a).2.map .inl)
    | .inr b => (.inr (T.close b).1, (T.close b).2.map .inr)
  deliver
    | .inl e, .inl a => (.inl (S.deliver e a).1, (S.deliver e a).2.map .inl)
    | .inr e, .inr b => (.inr (T.deliver e b).1, (T.deliver e b).2.map .inr)
    | _, x => (x, [])

/-- A property of the objects of each service, with the messages that were sent for them. -/
def OfEach (P : α → List ω → Prop) (Q : β → List ξ → Prop) : α ⊕ β → List (ω ⊕ ξ) → Prop
  | .inl a, out => ∃ sent, out = sent.map .inl ∧ P a sent
  | .inr b, out => ∃ sent, out = sent.map .inr ∧ Q b sent

/-- Properties that the services keep whatever happens are kept side by side. -/
theorem Keeps.sum {T : Service β μ δ ξ} {Q : β → List ξ → Prop}
    (hS : S.Keeps (fun _ _ => True) (fun _ _ => True) P)
    (hT : T.Keeps (fun _ _ => True) (fun _ _ => True) Q) :
    (S.sum T).Keeps (fun _ _ => True) (fun _ _ => True) (OfEach P Q) where
  call n exportOk x out hcall _ := by
    cases n with
    | inl n =>
      cases h : S.call n exportOk with
      | error m => simp [Service.sum, h] at hcall
      | ok r =>
        obtain ⟨a, sent⟩ := r
        obtain ⟨rfl, rfl⟩ : .inl a = x ∧ sent.map .inl = out := by
          simpa [Service.sum, h] using hcall
        exact ⟨sent, rfl, hS.call n exportOk a sent h trivial⟩
    | inr n =>
      cases h : T.call n exportOk with
      | error m => simp [Service.sum, h] at hcall
      | ok r =>
        obtain ⟨b, sent⟩ := r
        obtain ⟨rfl, rfl⟩ : .inr b = x ∧ sent.map .inr = out := by
          simpa [Service.sum, h] using hcall
        exact ⟨sent, rfl, hT.call n exportOk b sent h trivial⟩
  close x out hreg h := by
    cases x with
    | inl a =>
      obtain ⟨sent, rfl, hP⟩ := h
      exact ⟨_, List.map_append.symm, hS.close a sent hreg hP⟩
    | inr b =>
      obtain ⟨sent, rfl, hQ⟩ := h
      exact ⟨_, List.map_append.symm, hT.close b sent hreg hQ⟩
  deliver e x out h _ := by
    cases e with
    | inl e =>
      cases x with
      | inl a =>
        obtain ⟨sent, rfl, hP⟩ := h
        exact ⟨_, List.map_append.symm, hS.deliver e a sent hP trivial⟩
      | inr b =>
        show OfEach P Q (.inr b) (out ++ [])
        rwa [List.append_nil]
    | inr e =>
      cases x with
      | inl a =>
        show OfEach P Q (.inl a) (out ++ [])
        rwa [List.append_nil]
      | inr b =>
        obtain ⟨sent, rfl, hQ⟩ := h
        exact ⟨_, List.map_append.symm, hT.deliver e b sent hQ trivial⟩

end Sum

end Service

end XappPortal
