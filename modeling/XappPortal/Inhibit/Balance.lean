/-
# The balance of the inhibitors

What the portal and the backend make of the inhibitors together, in whatever order the messages
between them are handled, and whether or not the requests could be exported.

* An inhibitor is only given up by the release of its own request, after that was closed
  (`inhibitor_given_up`), although cookies are granted again and the release of a failed call names
  the cookie 0.
* It is in force from its grant until that release is handled, so that nothing but the inhibitors of
  open requests stays in force, except for those that are granted to a call after it has timed out:
  nobody knows of these, and they stay (`inhibitors_inForce`).
* Whatever is on its way is handled in the end (`exchange_settles`).
-/
import XappPortal.Inhibit.Backend

namespace XappPortal.Inhibit

open XappPortal.Lib

namespace Exchange

variable {b : Backend} {s : Exchange}

/-! ## The balance -/

/-- Every request that waits is waited for once, every cookie is granted once at a time, and the
inhibitor of a call that has not timed out is in force from its grant until the release of its
closed request is handled. -/
structure Balanced (s : Exchange) : Prop where
  each : s.portal.requests.Each fun a _ => Coherent a
  nonzero : ∀ i a, s.request? i = some a → a.call ≠ .granted 0
  waiting_nodup : (s.asked ++ s.replies.map Prod.fst).Nodup
  waiting_iff : ∀ i, i ∈ s.asked ++ s.replies.map Prod.fst ∧ i ∉ s.timedOut ↔
    ∃ a, s.request? i = some a ∧ a.call = .inFlight
  /-- A call that has timed out has failed for the portal. -/
  failed : ∀ i ∈ s.timedOut, ∃ a, s.request? i = some a ∧ a.call = .failed
  grant_ne_zero : ∀ i, (i, .success 0) ∉ s.replies
  inhibitor_ne_zero : ∀ x ∈ s.inhibitors, x.cookie ≠ 0
  cookies_nodup : (s.inhibitors.map Inhibitor.cookie).Nodup
  releases_nodup : (s.releases.filter (·.2 ≠ 0)).Nodup
  /-- What is given back was granted to a request that is closed. -/
  release : ∀ i cookie, (i, cookie) ∈ s.releases → cookie ≠ 0 →
    ∃ a, s.request? i = some a ∧ a.call = .granted cookie ∧ a.closeDelivered = true
  inForce : ∀ i cookie, i ∉ s.timedOut →
    (⟨cookie, i⟩ ∈ s.inhibitors ↔ (i, .success cookie) ∈ s.replies ∨
      ∃ a, s.request? i = some a ∧ a.call = .granted cookie ∧
        (a.closeDelivered = false ∨ (i, cookie) ∈ s.releases))

namespace Balanced

lemma request?_lt {i : ℕ} {a : InhibitRequest} (h : s.request? i = some a) :
    i < s.portal.requests.objects.length := (List.getElem?_eq_some_iff.mp h).1

lemma initial : Balanced Exchange.initial where
  each := Ensemble.Each.empty
  nonzero i a h := by simp [request?, Exchange.initial, Service.initial, Ensemble.empty] at h
  waiting_nodup := List.nodup_nil
  waiting_iff i := by
    simp [request?, Exchange.initial, Service.initial, Ensemble.empty]
  failed i h := absurd h List.not_mem_nil
  grant_ne_zero i := List.not_mem_nil
  inhibitor_ne_zero x h := absurd h List.not_mem_nil
  cookies_nodup := List.nodup_nil
  releases_nodup := List.nodup_nil
  release i cookie h := absurd h List.not_mem_nil
  inForce i cookie _ := by
    simp [request?, Exchange.initial, Service.initial, Ensemble.empty]

/-- A waiting request has one call or one answer on its way. -/
lemma waiting (h : Balanced s) {i : ℕ} (hi : i ∈ s.asked ++ s.replies.map Prod.fst)
    (htime : i ∉ s.timedOut) : ∃ a, s.request? i = some a ∧ a.call = .inFlight :=
  (h.waiting_iff i).mp ⟨hi, htime⟩

/-- A call or an answer on its way is that of a request, which may have stopped waiting. -/
lemma known (h : Balanced s) {i : ℕ} (hi : i ∈ s.asked ++ s.replies.map Prod.fst) :
    ∃ a, s.request? i = some a := by
  by_cases htime : i ∈ s.timedOut
  · obtain ⟨a, ha, -⟩ := h.failed i htime
    exact ⟨a, ha⟩
  · obtain ⟨a, ha, -⟩ := h.waiting hi htime
    exact ⟨a, ha⟩

/-- A request that was granted an inhibitor has had its answer in time. -/
lemma inTime (h : Balanced s) {i : ℕ} {a : InhibitRequest} (ha : s.request? i = some a)
    (hcall : a.call ≠ .failed) : i ∉ s.timedOut := by
  intro htime
  obtain ⟨a', ha', hfailed⟩ := h.failed i htime
  obtain rfl := Option.some.inj (ha.symm.trans ha')
  exact hcall hfailed

/-- A cookie in force belongs to one request. -/
lemma owner_unique (h : Balanced s) {i j : ℕ} {cookie : UInt32}
    (hi : ⟨cookie, i⟩ ∈ s.inhibitors) (hj : ⟨cookie, j⟩ ∈ s.inhibitors) : i = j := by
  have hinj := List.inj_on_of_nodup_map h.cookies_nodup hi hj rfl
  exact (Inhibitor.mk.inj hinj).2

/-- A release on its way names the inhibitor of the request it was sent for. -/
lemma inhibitor_of_release (h : Balanced s) {i : ℕ} {cookie : UInt32}
    (hmem : (i, cookie) ∈ s.releases) (hne : cookie ≠ 0) : ⟨cookie, i⟩ ∈ s.inhibitors := by
  obtain ⟨a, ha, hcall, -⟩ := h.release i cookie hmem hne
  have htime : i ∉ s.timedOut := h.inTime ha (by simp [hcall])
  exact (h.inForce i cookie htime).mpr (Or.inr ⟨a, ha, hcall, Or.inr hmem⟩)

/-- A request whose call is answered still waits, for the answer. -/
lemma answered_perm {i : ℕ} (hi : i ∈ s.asked) (reply : Reply) :
    (s.asked.erase i ++ (s.replies ++ [(i, reply)]).map Prod.fst).Perm
      (s.asked ++ s.replies.map Prod.fst) := by
  rw [List.map_append, ← List.append_assoc]
  refine (List.perm_append_comm).trans ?_
  have hperm := (List.perm_cons_erase hi).symm
  exact hperm.append_right _

/-- The backend answers a call with an error. -/
lemma refuse (h : Balanced s) {i : ℕ} (hi : i ∈ s.asked) :
    Balanced { s with asked := s.asked.erase i, replies := s.replies ++ [(i, .failure)] } where
  each := h.each
  nonzero := h.nonzero
  waiting_nodup := (answered_perm hi _).nodup_iff.mpr h.waiting_nodup
  waiting_iff j := (and_congr_left' (answered_perm hi _).mem_iff).trans (h.waiting_iff j)
  failed := h.failed
  grant_ne_zero j hj := by simp [h.grant_ne_zero j] at hj
  inhibitor_ne_zero := h.inhibitor_ne_zero
  cookies_nodup := h.cookies_nodup
  releases_nodup := h.releases_nodup
  release := h.release
  inForce j cookie htime := by simpa [request?] using h.inForce j cookie htime

/-- The backend grants an inhibitor, which is in force from then on. -/
lemma grant (h : Balanced s) {i : ℕ} {cookie : UInt32} (hi : i ∈ s.asked) (hne : cookie ≠ 0)
    (hfresh : cookie ∉ s.inhibitors.map Inhibitor.cookie) :
    Balanced { s with
      asked := s.asked.erase i
      replies := s.replies ++ [(i, .success cookie)]
      inhibitors := s.inhibitors ++ [⟨cookie, i⟩] } where
  each := h.each
  nonzero := h.nonzero
  waiting_nodup := (answered_perm hi _).nodup_iff.mpr h.waiting_nodup
  waiting_iff j := (and_congr_left' (answered_perm hi _).mem_iff).trans (h.waiting_iff j)
  failed := h.failed
  grant_ne_zero j hj := by
    rcases List.mem_append.mp hj with hj | hj
    · exact h.grant_ne_zero j hj
    · simp [hne.symm] at hj
  inhibitor_ne_zero x hx := by
    rcases List.mem_append.mp hx with hx | hx
    · exact h.inhibitor_ne_zero x hx
    · rw [List.mem_singleton.mp hx]
      exact hne
  cookies_nodup := by
    rw [List.map_append]
    exact h.cookies_nodup.append (List.nodup_singleton _) (by simpa using hfresh)
  releases_nodup := h.releases_nodup
  release := h.release
  inForce j c htime := by
    rw [List.mem_append, List.mem_append, h.inForce j c htime]
    simp only [List.mem_singleton, Inhibitor.mk.injEq, Prod.mk.injEq, Reply.success.injEq]
    rw [or_right_comm, and_comm (a := c = cookie)]
    rfl

/-- The backend gives up the inhibitor that a release names. -/
lemma giveUp (h : Balanced s) {i : ℕ} {cookie : UInt32} (hi : (i, cookie) ∈ s.releases) :
    Balanced { s with
      releases := s.releases.erase (i, cookie)
      inhibitors := s.inhibitors.filter fun x => x.cookie ≠ cookie } where
  each := h.each
  nonzero := h.nonzero
  waiting_nodup := h.waiting_nodup
  waiting_iff := h.waiting_iff
  failed := h.failed
  grant_ne_zero := h.grant_ne_zero
  inhibitor_ne_zero x hx := h.inhibitor_ne_zero x (List.mem_of_mem_filter hx)
  cookies_nodup := h.cookies_nodup.sublist (List.filter_sublist.map _)
  releases_nodup := h.releases_nodup.sublist (List.erase_sublist.filter _)
  release j c hj := h.release j c (List.mem_of_mem_erase hj)
  inForce j c htime := by
    have hfilter : (⟨c, j⟩ : Inhibitor) ∈ s.inhibitors.filter (fun x => x.cookie ≠ cookie) ↔
        ⟨c, j⟩ ∈ s.inhibitors ∧ c ≠ cookie := by simp
    rw [hfilter]
    rcases eq_or_ne c cookie with rfl | hc
    · -- only the request of the release had this cookie, and there is no second release
      refine ⟨fun hmem => absurd rfl hmem.2, fun hmem => ?_⟩
      exfalso
      have hin : ⟨c, j⟩ ∈ s.inhibitors := by
        refine (h.inForce j c htime).mpr (hmem.imp_right ?_)
        rintro ⟨a, ha, hcall, hopen⟩
        exact ⟨a, ha, hcall, hopen.imp_right List.mem_of_mem_erase⟩
      have hne : c ≠ 0 := h.inhibitor_ne_zero _ hin
      obtain rfl := h.owner_unique hin (h.inhibitor_of_release hi hne)
      obtain ⟨a, ha, hcall, hclosed⟩ := h.release j c hi hne
      rcases hmem with hreply | ⟨a', ha', -, hopen⟩
      · obtain ⟨a', ha', hwait⟩ :=
          h.waiting (List.mem_append_right _ (List.mem_map_of_mem (f := Prod.fst) hreply)) htime
        obtain rfl := Option.some.inj (ha.symm.trans ha')
        rw [hcall] at hwait
        exact absurd hwait (by simp)
      · obtain rfl := Option.some.inj (ha.symm.trans ha')
        rcases hopen with hopen | hagain
        · rw [hclosed] at hopen
          exact absurd hopen (by simp)
        · have hfiltered : (j, c) ∈ (s.releases.erase (j, c)).filter (·.2 ≠ 0) :=
            List.mem_filter.mpr ⟨hagain, by simpa using hne⟩
          have herase : (s.releases.erase (j, c)).filter (·.2 ≠ 0)
              = (s.releases.filter (·.2 ≠ 0)).erase (j, c) := by
            rw [List.erase_filter]
          rw [herase] at hfiltered
          exact h.releases_nodup.not_mem_erase hfiltered
    · rw [h.inForce j c htime]
      have herase : (j, c) ∈ s.releases.erase (i, cookie) ↔ (j, c) ∈ s.releases :=
        List.mem_erase_of_ne (by simp [hc])
      simp only [herase]
      exact and_iff_left hc

/-- Nothing but the errors that the portal has answered calls with is different. -/
lemma of_eq (h : Balanced s) {s' : Exchange} (hrequests : s'.portal.requests = s.portal.requests)
    (hasked : s'.asked = s.asked) (hreplies : s'.replies = s.replies)
    (hreleases : s'.releases = s.releases) (hinhibitors : s'.inhibitors = s.inhibitors)
    (htimedOut : s'.timedOut = s.timedOut) : Balanced s' := by
  obtain ⟨⟨requests, refused⟩, asked, replies, releases, inhibitors, timedOut⟩ := s'
  simp only at hrequests hasked hreplies hreleases hinhibitors htimedOut
  subst hrequests hasked hreplies hreleases hinhibitors htimedOut
  exact ⟨h.each, h.nonzero, h.waiting_nodup, h.waiting_iff, h.failed, h.grant_ne_zero,
    h.inhibitor_ne_zero, h.cookies_nodup, h.releases_nodup, h.release, h.inForce⟩

lemma request?_spawn {s' : Exchange} {a : InhibitRequest} {out : List Message}
    (hs' : s'.portal.requests = s.portal.requests.spawn a out) (j : ℕ) :
    s'.request? j = if j = s.portal.requests.objects.length then some a else s.request? j := by
  rw [request?, hs', Ensemble.objects_spawn, List.getElem?_append]
  split
  · next hlt => rw [if_neg (Nat.ne_of_lt hlt), request?]
  · next hge =>
    split
    · next hj => simp [hj]
    · next hj =>
      have hge' : s.portal.requests.objects.length < j := by omega
      rw [request?, List.getElem?_eq_none (by simp; omega), List.getElem?_eq_none hge'.le]

/-- A new request waits. -/
lemma spawn (h : Balanced s) {s' : Exchange} {n : InhibitCall} {ok : Bool} {out : List Message}
    (hrequests : s'.portal.requests = s.portal.requests.spawn (inhibitRequest n ok) out)
    (hasked : s'.asked = s.asked ++ [s.portal.requests.objects.length])
    (hreplies : s'.replies = s.replies) (hreleases : s'.releases = s.releases)
    (hinhibitors : s'.inhibitors = s.inhibitors) (htimedOut : s'.timedOut = s.timedOut) :
    Balanced s' := by
  have hrequest := request?_spawn hrequests
  have hold : ∀ i a, s.request? i = some a → s'.request? i = some a := by
    intro i a ha
    rw [hrequest, if_neg (Nat.ne_of_lt (request?_lt ha)), ha]
  have hnew : ∀ i a, s'.request? i = some a → a.call ≠ .inFlight → s.request? i = some a := by
    intro i a ha hcall
    rw [hrequest] at ha
    split at ha
    · obtain rfl := Option.some.inj ha
      exact absurd rfl hcall
    · exact ha
  have hfresh : s.portal.requests.objects.length ∉ s.asked ++ s.replies.map Prod.fst := by
    intro hmem
    obtain ⟨a, ha⟩ := h.known hmem
    exact absurd (request?_lt ha) (Nat.lt_irrefl _)
  have hinTime : s.portal.requests.objects.length ∉ s.timedOut := by
    intro hmem
    obtain ⟨a, ha, -⟩ := h.failed _ hmem
    exact absurd (request?_lt ha) (Nat.lt_irrefl _)
  have hperm : (s'.asked ++ s'.replies.map Prod.fst).Perm
      (s.portal.requests.objects.length :: (s.asked ++ s.replies.map Prod.fst)) := by
    rw [hasked, hreplies, List.append_assoc]
    exact List.perm_middle
  refine ⟨?_, fun i a ha hcall => ?_, ?_, fun i => ?_, fun i hi => ?_, ?_, ?_, ?_, ?_,
    fun i cookie hmem hne => ?_, fun i cookie htime => ?_⟩
  · rw [hrequests]
    exact h.each.spawn (Coherent.inhibitRequest n ok)
  · exact h.nonzero i a (hnew i a ha (by simp [hcall])) hcall
  · rw [hperm.nodup_iff, List.nodup_cons]
    exact ⟨hfresh, h.waiting_nodup⟩
  · rw [hperm.mem_iff, List.mem_cons, htimedOut, hrequest i]
    split
    · next hi => simp [hi, hinTime, inhibitRequest]
    · next hi => simpa [hi] using h.waiting_iff i
  · rw [htimedOut] at hi
    obtain ⟨a, ha, hcall⟩ := h.failed i hi
    exact ⟨a, hold i a ha, hcall⟩
  · rw [hreplies]
    exact h.grant_ne_zero
  · rw [hinhibitors]
    exact h.inhibitor_ne_zero
  · rw [hinhibitors]
    exact h.cookies_nodup
  · rw [hreleases]
    exact h.releases_nodup
  · rw [hreleases] at hmem
    obtain ⟨a, ha, hcall, hclosed⟩ := h.release i cookie hmem hne
    exact ⟨a, hold i a ha, hcall, hclosed⟩
  · rw [htimedOut] at htime
    rw [hinhibitors, hreplies, hreleases, h.inForce i cookie htime]
    refine or_congr_right ⟨?_, ?_⟩
    · rintro ⟨a, ha, hcall, hopen⟩
      exact ⟨a, hold i a ha, hcall, hopen⟩
    · rintro ⟨a, ha, hcall, hopen⟩
      exact ⟨a, hnew i a ha (by simp [hcall]), hcall, hopen⟩

/-- One request reacts, and gives back `cookies`, none of which was on its way back before. -/
lemma react (h : Balanced s) (cookies : List UInt32) {s' : Exchange} {i : ℕ}
    {a' : InhibitRequest} (heach : s'.portal.requests.Each fun a _ => Coherent a)
    (ha' : s'.request? i = some a') (hother : ∀ j, i ≠ j → s'.request? j = s.request? j)
    (hnonzero : a'.call ≠ .granted 0)
    (hnodup : (s'.asked ++ s'.replies.map Prod.fst).Nodup)
    (hiff : ∀ j, j ∈ s'.asked ++ s'.replies.map Prod.fst ∧ j ∉ s'.timedOut ↔
      ∃ a, s'.request? j = some a ∧ a.call = .inFlight)
    (htimedOut : ∀ j, i ≠ j → (j ∈ s'.timedOut ↔ j ∈ s.timedOut))
    (hfailed : i ∈ s'.timedOut → a'.call = .failed)
    (hsub : ∀ m ∈ s'.replies, m ∈ s.replies)
    (hreplies : ∀ j reply, i ≠ j → ((j, reply) ∈ s'.replies ↔ (j, reply) ∈ s.replies))
    (hinhibitors : s'.inhibitors = s.inhibitors)
    (hreleases : s'.releases = s.releases ++ cookies.map fun cookie => (i, cookie))
    (hnone : ∀ cookie, cookie ≠ 0 → (i, cookie) ∉ s.releases) (hlength : cookies.length ≤ 1)
    (hcookies : ∀ cookie, cookie ≠ 0 →
      (cookie ∈ cookies ↔ a'.call = .granted cookie ∧ a'.closeDelivered = true))
    (hforce : i ∉ s'.timedOut → ∀ cookie, ⟨cookie, i⟩ ∈ s.inhibitors ↔
      (i, .success cookie) ∈ s'.replies ∨ a'.call = .granted cookie) : Balanced s' := by
  have hmem : ∀ j cookie, cookie ≠ 0 → ((j, cookie) ∈ s'.releases ↔
      if i = j then cookie ∈ cookies else (j, cookie) ∈ s.releases) := by
    intro j cookie hne
    rw [hreleases, List.mem_append]
    split
    · next hij =>
      subst hij
      simp [hnone cookie hne]
    · next hij => simp [hij]
  refine ⟨heach, fun j a ha => ?_, hnodup, hiff, fun j hj => ?_,
    fun j hj => h.grant_ne_zero j (hsub _ hj), ?_, ?_, ?_, fun j cookie hj hne => ?_,
    fun j cookie htime => ?_⟩
  · rcases eq_or_ne i j with rfl | hij
    · obtain rfl := Option.some.inj (ha'.symm.trans ha)
      exact hnonzero
    · exact h.nonzero j a (hother j hij ▸ ha)
  · rcases eq_or_ne i j with rfl | hij
    · exact ⟨a', ha', hfailed hj⟩
    · rw [hother j hij]
      exact h.failed j ((htimedOut j hij).mp hj)
  · rw [hinhibitors]
    exact h.inhibitor_ne_zero
  · rw [hinhibitors]
    exact h.cookies_nodup
  · rw [hreleases, List.filter_append]
    refine h.releases_nodup.append ?_ ?_
    · refine List.Nodup.filter _ (List.Nodup.map (fun _ _ heq => (Prod.mk.inj heq).2) ?_)
      match cookies, hlength with
      | [], _ => exact List.nodup_nil
      | [c], _ => exact List.nodup_singleton c
    · intro m hm hm'
      obtain ⟨hm', hne⟩ := List.mem_filter.mp hm'
      obtain ⟨c, -, rfl⟩ := List.mem_map.mp hm'
      exact hnone c (by simpa using hne) (List.mem_of_mem_filter hm)
  · rw [hmem j cookie hne] at hj
    split at hj
    · next hij =>
      subst hij
      exact ⟨a', ha', (hcookies cookie hne).mp hj⟩
    · next hij =>
      rw [hother j hij]
      exact h.release j cookie hj hne
  · rw [hinhibitors]
    rcases eq_or_ne i j with rfl | hij
    · rw [hforce htime cookie]
      refine or_congr_right ⟨fun hcall => ⟨a', ha', hcall, ?_⟩, ?_⟩
      · have hne : cookie ≠ 0 := fun hzero => hnonzero (hzero ▸ hcall)
        cases hclosed : a'.closeDelivered with
        | false => exact Or.inl rfl
        | true =>
          rw [hmem i cookie hne, if_pos rfl, hcookies cookie hne]
          exact Or.inr ⟨hcall, hclosed⟩
      · rintro ⟨a, ha, hcall, -⟩
        obtain rfl := Option.some.inj (ha'.symm.trans ha)
        exact hcall
    · rw [h.inForce j cookie (mt (htimedOut j hij).mpr htime), hother j hij, hreplies j _ hij]
      refine or_congr_right (exists_congr fun a => and_congr_right fun ha =>
        and_congr_right fun hcall => or_congr_right ?_)
      have hne : cookie ≠ 0 := fun hzero => h.nonzero j a ha (hzero ▸ hcall)
      rw [hmem j cookie hne, if_neg hij]

/-- The cookies of an open or waiting request are not on their way back. -/
lemma release_notMem (h : Balanced s) {i : ℕ} {a : InhibitRequest} (ha : s.request? i = some a)
    (hopen : a.closeDelivered = false ∨ a.call = .inFlight) {cookie : UInt32} (hne : cookie ≠ 0) :
    (i, cookie) ∉ s.releases := by
  intro hmem
  obtain ⟨a₁, ha₁, hcall, hclosed⟩ := h.release i cookie hmem hne
  obtain rfl := Option.some.inj (ha.symm.trans ha₁)
  rcases hopen with hopen | hopen
  · rw [hopen] at hclosed
    exact absurd hclosed (by simp)
  · rw [hopen] at hcall
    exact absurd hcall (by simp)

/-- An open request is closed: a cookie that was granted to it is on its way back. -/
lemma close (h : Balanced s) {s' : Exchange} {i : ℕ} {a : InhibitRequest} {b : Backend}
    (ha : s.request? i = some a) (hopen : a.closeDelivered = false)
    (hreg : a.request.registered = true)
    (hrequests : s'.portal.requests
      = s.portal.requests.react i (dispatchClose (handleClose (uninhibit b))))
    (hs' : s' = { s with
      portal := s'.portal
      releases := s.releases ++ if a.cookie ≠ 0 then [(i, a.cookie)] else [] }) :
    Balanced s' := by
  have hcoherent := h.each i a ha
  have heq := hcoherent.dispatchClose_eq hreg (uninhibit b)
  -- the request after the call
  obtain ⟨a', ha', hcall', hclosed'⟩ : ∃ a', s'.request? i = some a' ∧ a'.call = a.call ∧
      a'.closeDelivered = true := by
    refine ⟨_, by rw [request?_react hrequests, if_pos rfl, ha, Option.map_some], ?_, ?_⟩
    · rw [heq]
    · rw [heq]
  have hother : ∀ j, i ≠ j → s'.request? j = s.request? j := by
    intro j hij
    rw [request?_react hrequests, if_neg hij]
  have hasked : s'.asked = s.asked := by rw [hs']
  have hreplies : s'.replies = s.replies := by rw [hs']
  have htimedOut : s'.timedOut = s.timedOut := by rw [hs']
  have hwait : ∀ j, (∃ a, s'.request? j = some a ∧ a.call = .inFlight) ↔
      ∃ a, s.request? j = some a ∧ a.call = .inFlight := by
    intro j
    rcases eq_or_ne i j with rfl | hij
    · simp [ha, ha', hcall']
    · rw [hother j hij]
  have hnonzero : a'.call ≠ .granted 0 := by
    rw [hcall']
    exact h.nonzero i a ha
  refine h.react (if a.cookie ≠ 0 then [a.cookie] else []) ?_ ha' hother hnonzero
    ?_ (fun j => ?_) (fun j _ => by rw [htimedOut]) (fun hi => ?_) ?_ (fun j reply _ => ?_)
    (by rw [hs']) ?_ (fun _ => h.release_notMem ha (Or.inl hopen)) ?_ (fun cookie hne => ?_)
    (fun htime cookie => ?_)
  · rw [hrequests]
    refine h.each.react fun a₁ ha₁ hP => ?_
    obtain rfl := Option.some.inj (ha.symm.trans ha₁)
    exact hP.close hreg _
  · rw [hasked, hreplies]
    exact h.waiting_nodup
  · rw [hasked, hreplies, htimedOut, hwait j]
    exact h.waiting_iff j
  · rw [htimedOut] at hi
    obtain ⟨a₁, ha₁, hfailed⟩ := h.failed i hi
    obtain rfl := Option.some.inj (ha.symm.trans ha₁)
    exact hcall'.trans hfailed
  · rw [hreplies]
    exact fun _ hm => hm
  · rw [hreplies]
  · rw [hs']
    split <;> rfl
  · split <;> simp
  · -- the object data hold the cookie exactly if it was granted
    rw [hcall', hclosed']
    constructor
    · intro hmem
      split at hmem
      · next hc =>
        obtain rfl := List.mem_singleton.mp hmem
        exact ⟨hcoherent.granted hc, rfl⟩
      · exact absurd hmem List.not_mem_nil
    · rintro ⟨hcall, -⟩
      rw [hcoherent.kept cookie hcall hopen, if_pos hne]
      exact List.mem_singleton_self cookie
  · rw [htimedOut] at htime
    rw [h.inForce i cookie htime, hreplies, hcall']
    refine or_congr_right ⟨?_, fun hcall => ⟨a, ha, hcall, Or.inl hopen⟩⟩
    rintro ⟨a₁, ha₁, hcall, -⟩
    obtain rfl := Option.some.inj (ha.symm.trans ha₁)
    exact hcall

/-- A request after its answer. -/
lemma request?_done (h : Balanced s) {s' : Exchange} {i : ℕ} {reply : Reply} {a : InhibitRequest}
    (ha : s.request? i = some a) (hcall : a.call = .inFlight)
    (hrequests : s'.portal.requests
      = s.portal.requests.react i (inhibitDone (uninhibit b) reply)) :
    ∃ a', s'.request? i = some a' ∧ a'.call = reply.outcome ∧
      a'.closeDelivered = a.closeDelivered := by
  have heq := (h.each i a ha).inhibitDone_eq hcall (uninhibit b) reply
  refine ⟨_, by rw [request?_react hrequests, if_pos rfl, ha, Option.map_some], ?_, ?_⟩
  · rw [heq]
  · rw [heq]

/-- An answer reaches its request in time, and the request stores the cookie or gives it back if it
is closed. -/
lemma reply (h : Balanced s) {s' : Exchange} {i : ℕ} {reply : Reply} {a : InhibitRequest}
    (hmem : (i, reply) ∈ s.replies) (ha : s.request? i = some a)
    (hcall : a.call = .inFlight)
    (hrequests : s'.portal.requests
      = s.portal.requests.react i (inhibitDone (uninhibit b) reply))
    (hs' : s' = { s with
      portal := s'.portal
      replies := s.replies.erase (i, reply)
      releases := s.releases ++ if a.closeDelivered then [(i, reply.cookie)] else [] }) :
    Balanced s' := by
  obtain ⟨a', ha', hcall', hclosed'⟩ := h.request?_done ha hcall hrequests
  have hother : ∀ j, i ≠ j → s'.request? j = s.request? j := by
    intro j hij
    rw [request?_react hrequests, if_neg hij]
  have hasked : s'.asked = s.asked := by rw [hs']
  have hreplies : s'.replies = s.replies.erase (i, reply) := by rw [hs']
  have htimedOut : s'.timedOut = s.timedOut := by rw [hs']
  have hinTime : i ∉ s.timedOut := h.inTime ha (by simp [hcall])
  -- exactly the answer that arrives is not waited for any more
  have hperm : (s.asked ++ s.replies.map Prod.fst).Perm
      (i :: (s'.asked ++ s'.replies.map Prod.fst)) := by
    rw [hasked, hreplies]
    have herase := (List.perm_cons_erase hmem).map Prod.fst
    exact (herase.append_left _).trans List.perm_middle
  have hnodup := hperm.nodup_iff.mp h.waiting_nodup
  obtain ⟨hgone, hnodup⟩ := List.nodup_cons.mp hnodup
  have hnomore : ∀ r, (i, r) ∉ s'.replies := by
    intro r hr
    exact hgone (List.mem_append_right _ (List.mem_map_of_mem (f := Prod.fst) hr))
  have hnonzero : reply ≠ .success 0 := fun hzero => h.grant_ne_zero i (hzero ▸ hmem)
  have hgranted : ∀ cookie, cookie ≠ 0 →
      (reply.outcome = .granted cookie ↔ reply.cookie = cookie) := by
    intro cookie hne
    cases reply with
    | failure => simp [Reply.outcome, Reply.cookie, hne.symm]
    | success c => simp [Reply.outcome, Reply.cookie]
  refine h.react (if a.closeDelivered then [reply.cookie] else []) ?_ ha' hother ?_
    hnodup (fun j => ?_) (fun j _ => by rw [htimedOut]) (fun hi => ?_) ?_ (fun j r hij => ?_)
    (by rw [hs']) ?_ (fun _ => h.release_notMem ha (Or.inr hcall)) ?_ (fun cookie hne => ?_)
    (fun _ cookie => ?_)
  · rw [hrequests]
    exact h.each.react fun _ _ hP => hP.done _ reply
  · rw [hcall']
    cases reply with
    | failure => simp [Reply.outcome]
    | success c => simpa [Reply.outcome] using hnonzero
  · have hcons := (and_congr_left' (hperm.mem_iff (a := j))).symm.trans (h.waiting_iff j)
    rw [htimedOut]
    rcases eq_or_ne i j with rfl | hij
    · refine ⟨fun hj => absurd hj.1 hgone, ?_⟩
      rintro ⟨a₁, ha₁, hwait⟩
      obtain rfl := Option.some.inj (ha'.symm.trans ha₁)
      rw [hcall'] at hwait
      cases reply <;> simp [Reply.outcome] at hwait
    · rw [hother j hij, ← hcons, List.mem_cons]
      simp [Ne.symm hij]
  · rw [htimedOut] at hi
    exact absurd hi hinTime
  · rw [hreplies]
    exact fun _ hm => List.mem_of_mem_erase hm
  · rw [hreplies]
    exact List.mem_erase_of_ne (by simp [Ne.symm hij])
  · rw [hs']
    split <;> rfl
  · split <;> simp
  · rw [hcall', hclosed', hgranted cookie hne]
    cases a.closeDelivered <;> simp [eq_comm]
  · rw [h.inForce i cookie hinTime, hcall']
    constructor
    · rintro (hreply | ⟨a₁, ha₁, hcall₁, -⟩)
      · -- no other answer is on its way to the request
        have hsame : reply = .success cookie := by
          by_contra hne
          refine hnomore (.success cookie) ?_
          rw [hreplies]
          exact (List.mem_erase_of_ne (by simpa using Ne.symm hne)).mpr hreply
        rw [hsame]
        exact Or.inr rfl
      · obtain rfl := Option.some.inj (ha.symm.trans ha₁)
        rw [hcall] at hcall₁
        exact absurd hcall₁ (by simp)
    · rintro (hreply | houtcome)
      · exact absurd hreply (hnomore _)
      · cases reply with
        | failure => exact absurd houtcome (by simp [Reply.outcome])
        | success c =>
          obtain rfl : c = cookie := by simpa [Reply.outcome] using houtcome
          exact Or.inl hmem

/-- An answer that comes too late is dropped. -/
lemma late (h : Balanced s) {i : ℕ} {reply : Reply} (htime : i ∈ s.timedOut) :
    Balanced { s with replies := s.replies.erase (i, reply) } where
  each := h.each
  nonzero := h.nonzero
  waiting_nodup :=
    h.waiting_nodup.sublist ((List.Sublist.refl _).append (List.erase_sublist.map _))
  waiting_iff j := by
    have hsub : (s.asked ++ (s.replies.erase (i, reply)).map Prod.fst).Sublist
        (s.asked ++ s.replies.map Prod.fst) :=
      (List.Sublist.refl _).append (List.erase_sublist.map _)
    refine Iff.trans (and_congr_left fun hj => ⟨fun hmem => hsub.subset hmem, fun hmem => ?_⟩)
      (h.waiting_iff j)
    -- the answers to the others are still there
    rcases List.mem_append.mp hmem with hasked | hreplies
    · exact List.mem_append_left _ hasked
    · obtain ⟨m, hm, rfl⟩ := List.mem_map.mp hreplies
      have hne : m ≠ (i, reply) := by
        rintro rfl
        exact hj htime
      exact List.mem_append_right _ (List.mem_map_of_mem ((List.mem_erase_of_ne hne).mpr hm))
  failed := h.failed
  grant_ne_zero j hj := h.grant_ne_zero j (List.mem_of_mem_erase hj)
  inhibitor_ne_zero := h.inhibitor_ne_zero
  cookies_nodup := h.cookies_nodup
  releases_nodup := h.releases_nodup
  release := h.release
  inForce j cookie hj := by
    have hne : (j, Reply.success cookie) ≠ (i, reply) := by
      intro heq
      exact hj ((Prod.mk.inj heq).1 ▸ htime)
    refine (h.inForce j cookie hj).trans (or_congr_left ?_)
    exact (List.mem_erase_of_ne hne).symm

/-- A call times out: its request takes it for a failure. -/
lemma timeout (h : Balanced s) {s' : Exchange} {i : ℕ} {a : InhibitRequest}
    (ha : s.request? i = some a) (hcall : a.call = .inFlight)
    (hrequests : s'.portal.requests
      = s.portal.requests.react i (inhibitDone (uninhibit b) .failure))
    (hs' : s' = { s with
      portal := s'.portal
      releases := s.releases ++ if a.closeDelivered then [(i, 0)] else []
      timedOut := i :: s.timedOut }) :
    Balanced s' := by
  obtain ⟨a', ha', hcall', -⟩ := h.request?_done ha hcall hrequests
  have hfailed : a'.call = .failed := hcall'
  have hother : ∀ j, i ≠ j → s'.request? j = s.request? j := by
    intro j hij
    rw [request?_react hrequests, if_neg hij]
  have hasked : s'.asked = s.asked := by rw [hs']
  have hreplies : s'.replies = s.replies := by rw [hs']
  have htimedOut : s'.timedOut = i :: s.timedOut := by rw [hs']
  have hi : i ∈ s'.timedOut := by
    rw [htimedOut]
    exact List.mem_cons_self ..
  refine h.react (if a.closeDelivered then [0] else []) ?_ ha' hother ?_ ?_ (fun j => ?_)
    (fun j hij => ?_) (fun _ => hfailed) ?_ (fun j r _ => by rw [hreplies]) (by rw [hs']) ?_
    (fun _ => h.release_notMem ha (Or.inr hcall)) ?_ (fun cookie hne => ?_)
    (fun htime => absurd hi htime)
  · rw [hrequests]
    exact h.each.react fun _ _ hP => hP.done _ .failure
  · rw [hfailed]
    simp
  · rw [hasked, hreplies]
    exact h.waiting_nodup
  · rcases eq_or_ne i j with rfl | hij
    · refine ⟨fun hj => absurd hi hj.2, ?_⟩
      rintro ⟨a₁, ha₁, hwait⟩
      obtain rfl := Option.some.inj (ha'.symm.trans ha₁)
      rw [hfailed] at hwait
      exact absurd hwait (by simp)
    · rw [hasked, hreplies, htimedOut, hother j hij, ← h.waiting_iff j, List.mem_cons]
      simp [Ne.symm hij]
  · rw [htimedOut, List.mem_cons]
    simp [Ne.symm hij]
  · rw [hreplies]
    exact fun _ hm => hm
  · rw [hs']
    split <;> rfl
  · split <;> simp
  · -- what is given back is no cookie
    rw [hfailed]
    cases a.closeDelivered <;> simp [hne]

end Balanced

/-- Every event keeps the balance. -/
lemma balanced_step (h : Balanced s) (e : ExchangeEvent) : Balanced (s.step b e) := by
  cases e with
  | call n busOk =>
    obtain ⟨hreleases, ⟨hrequests, hasked⟩ | ⟨ok, out, hrequests, hasked⟩⟩ :=
      portalStep_call (b := b) s n busOk
    · exact h.of_eq hrequests hasked rfl hreleases rfl rfl
    · exact h.spawn hrequests hasked rfl hreleases rfl rfl
  | close path =>
    rw [step]
    obtain hsame | ⟨i, a, ha, hopen, hreg, hrequests, hs'⟩ :=
      portalStep_close (b := b) h.each path
    · rwa [hsame]
    · exact h.close ha hopen hreg hrequests hs'
  | grant i cookie =>
    rw [step]
    split
    · next hgrant => exact h.grant hgrant.1 hgrant.2.1 hgrant.2.2
    · exact h
  | refuse i =>
    rw [step]
    split
    · next hi => exact h.refuse hi
    · exact h
  | release i cookie =>
    rw [step]
    split
    · next hi => exact h.giveUp hi
    · exact h
  | reply i reply =>
    rw [step]
    split
    · next hi =>
      dsimp only
      split
      · next htime => exact h.late htime
      · next htime =>
        obtain ⟨a, ha, hcall⟩ :=
          h.waiting (List.mem_append_right _ (List.mem_map_of_mem (f := Prod.fst) hi)) htime
        obtain ⟨hrequests, hs'⟩ := portalStep_deliver (b := b)
          (s := { s with replies := s.replies.erase (i, reply) }) h.each ha hcall reply
        exact h.reply hi ha hcall hrequests hs'
    · exact h
  | timeout i =>
    rw [step]
    split
    · next hi =>
      obtain ⟨a, ha, hcall⟩ := h.waiting hi.1 hi.2
      obtain ⟨hrequests, hs'⟩ := portalStep_deliver (b := b)
        (s := { s with timedOut := i :: s.timedOut }) h.each ha hcall .failure
      exact h.timeout ha hcall hrequests hs'
    · exact h

lemma balanced_run (b : Backend) (evs : List ExchangeEvent) : Balanced ((machine b).run evs) :=
  Machine.inv_run (M := machine b) (I := Balanced) (P := fun _ _ => True) Balanced.initial
    (fun _ e h _ => balanced_step h e) (Machine.along_of_mem fun _ _ _ => trivial)

/-! ## Whose inhibitor is given up -/

@[simp] lemma portalStep_inhibitors (e : Event) (s : Exchange) :
    (s.portalStep b e).inhibitors = s.inhibitors := rfl

@[simp] lemma portalStep_timedOut (e : Event) (s : Exchange) :
    (s.portalStep b e).timedOut = s.timedOut := rfl

/-- Only the release of its own closed request takes an inhibitor away. -/
lemma given_up_step (h : Balanced s) {e : ExchangeEvent} {x : Inhibitor} (hx : x ∈ s.inhibitors)
    (hgone : x ∉ (s.step b e).inhibitors) :
    e = .release x.owner x.cookie ∧ ∃ a, s.request? x.owner = some a ∧
      a.call = .granted x.cookie ∧ a.closeDelivered = true := by
  cases e with
  | call n busOk => exact absurd hx hgone
  | close path => exact absurd hx hgone
  | grant i cookie =>
    rw [step] at hgone
    split at hgone
    · exact absurd (List.mem_append_left _ hx) hgone
    · exact absurd hx hgone
  | refuse i =>
    rw [step] at hgone
    split at hgone <;> exact absurd hx hgone
  | release i cookie =>
    rw [step] at hgone
    split at hgone
    · next hi =>
      have hcookie : x.cookie = cookie := by
        by_contra hne
        exact hgone (List.mem_filter.mpr ⟨hx, by simpa using hne⟩)
      subst hcookie
      have hne : x.cookie ≠ 0 := h.inhibitor_ne_zero x hx
      obtain rfl : i = x.owner := h.owner_unique (h.inhibitor_of_release hi hne) hx
      exact ⟨rfl, h.release _ _ hi hne⟩
    · exact absurd hx hgone
  | reply i reply =>
    rw [step] at hgone
    split at hgone
    · dsimp only at hgone
      split at hgone <;> exact absurd hx hgone
    · exact absurd hx hgone
  | timeout i =>
    rw [step] at hgone
    split at hgone <;> exact absurd hx hgone

/-- **An inhibitor is only given up by the release of its own request, after that was closed.** -/
theorem inhibitor_given_up (b : Backend) (evs : List ExchangeEvent) (e : ExchangeEvent) :
    let s := (machine b).run evs
    let s' := (machine b).run (evs ++ [e])
    ∀ x ∈ s.inhibitors, x ∉ s'.inhibitors →
      e = .release x.owner x.cookie ∧ ∃ a, s.request? x.owner = some a ∧
        a.call = .granted x.cookie ∧ a.closeDelivered = true := by
  intro s s' x hx hgone
  have hs' : s' = s.step b e := Machine.run_concat _ evs e
  rw [hs'] at hgone
  exact given_up_step (balanced_run b evs) hx hgone

/-- What has timed out has done so in an event, and is never waited for again. -/
lemma timedOut_step (s : Exchange) (e : ExchangeEvent) :
    (s.step b e).timedOut = s.timedOut ∨
      ∃ i, e = .timeout i ∧ (s.step b e).timedOut = i :: s.timedOut := by
  cases e with
  | call n busOk => exact Or.inl rfl
  | close path => exact Or.inl rfl
  | grant i cookie =>
    rw [step]
    split <;> exact Or.inl rfl
  | refuse i =>
    rw [step]
    split <;> exact Or.inl rfl
  | release i cookie =>
    rw [step]
    split <;> exact Or.inl rfl
  | reply i reply =>
    rw [step]
    split
    · dsimp only
      split <;> exact Or.inl rfl
    · exact Or.inl rfl
  | timeout i =>
    rw [step]
    split
    · exact Or.inr ⟨i, rfl, rfl⟩
    · exact Or.inl rfl

lemma timeout_of_mem_timedOut {evs : List ExchangeEvent} {i : ℕ}
    (hi : i ∈ ((machine b).run evs).timedOut) : .timeout i ∈ evs := by
  induction evs using List.reverseRecOn with
  | nil => exact absurd hi List.not_mem_nil
  | append_singleton evs e ih =>
    rw [Machine.run_concat] at hi
    rcases timedOut_step (b := b) ((machine b).run evs) e with hsame | ⟨j, rfl, hnew⟩
    · exact List.mem_append_left _ (ih (hsame ▸ hi))
    · have hmem : i ∈ j :: ((machine b).run evs).timedOut := hnew ▸ hi
      rcases List.mem_cons.mp hmem with rfl | hold
      · exact List.mem_append_right _ (List.mem_singleton_self _)
      · exact List.mem_append_left _ (ih hold)

/-- An inhibitor whose request has not waited for it stays. -/
lemma inhibitor_stays (h : Balanced s) {x : Inhibitor} (hx : x ∈ s.inhibitors)
    (htime : x.owner ∈ s.timedOut) (later : List ExchangeEvent) :
    x ∈ ((machine b).runFrom s later).inhibitors := by
  induction later generalizing s with
  | nil => exact hx
  | cons e later ih =>
    refine ih (balanced_step h e) ?_ ?_
    · by_contra hgone
      obtain ⟨-, a, ha, hcall, -⟩ := given_up_step h hx hgone
      exact h.inTime ha (by simp [hcall]) htime
    · show x.owner ∈ (s.step b e).timedOut
      rcases timedOut_step (b := b) s e with hsame | ⟨i, -, hnew⟩
      · rw [hsame]
        exact htime
      · rw [hnew]
        exact List.mem_cons_of_mem _ htime

/-! ## Once nothing is on its way -/

/-- The backend or the bus can handle something that is on its way; time may pass in between. -/
def Enabled (s : Exchange) : ExchangeEvent → Prop
  | .call .. => False
  | .close _ => False
  | .grant i cookie => i ∈ s.asked ∧ cookie ≠ 0 ∧ cookie ∉ s.inhibitors.map Inhibitor.cookie
  | .refuse i => i ∈ s.asked
  | .release i cookie => (i, cookie) ∈ s.releases
  | .reply i reply => (i, reply) ∈ s.replies
  | .timeout _ => False

/-- What is on its way, counted by the messages that it can still lead to. -/
def onItsWay (s : Exchange) : ℕ := 3 * s.asked.length + 2 * s.replies.length + s.releases.length

lemma length_erase_add_one {α : Type*} [BEq α] [LawfulBEq α] {l : List α} {m : α} (hm : m ∈ l) :
    (l.erase m).length + 1 = l.length := by
  have hpos := List.length_pos_of_mem hm
  rw [List.length_erase_of_mem hm]
  omega

/-- Handling what is on its way leaves less of it. -/
lemma onItsWay_step (h : Balanced s) {e : ExchangeEvent} (he : s.Enabled e) :
    (s.step b e).onItsWay < s.onItsWay := by
  cases e with
  | call n busOk => exact he.elim
  | close path => exact he.elim
  | grant i cookie =>
    rw [Enabled] at he
    have hlength := length_erase_add_one he.1
    rw [step, if_pos he]
    simp only [onItsWay, List.length_append, List.length_singleton]
    omega
  | refuse i =>
    rw [Enabled] at he
    have hlength := length_erase_add_one he
    rw [step, if_pos he]
    simp only [onItsWay, List.length_append, List.length_singleton]
    omega
  | release i cookie =>
    rw [Enabled] at he
    have hlength := length_erase_add_one he
    rw [step, if_pos he]
    simp only [onItsWay]
    omega
  | reply i reply =>
    rw [Enabled] at he
    have hlength := length_erase_add_one he
    rw [step, if_pos he]
    dsimp only
    split
    · simp only [onItsWay]
      omega
    · next htime =>
      obtain ⟨a, ha, hcall⟩ :=
        h.waiting (List.mem_append_right _ (List.mem_map_of_mem (f := Prod.fst) he)) htime
      obtain ⟨-, hs'⟩ := portalStep_deliver (b := b)
        (s := { s with replies := s.replies.erase (i, reply) }) h.each ha hcall reply
      rw [hs']
      simp only [onItsWay, List.length_append]
      split <;> simp only [List.length_singleton, List.length_nil] <;> omega
  | timeout i => exact he.elim

/-- Whatever is on its way can be handled; a call can at least be refused. -/
lemma exists_enabled (hne : s.onItsWay ≠ 0) : ∃ e, s.Enabled e := by
  by_cases hasked : s.asked = []
  · by_cases hreplies : s.replies = []
    · have hreleases : s.releases ≠ [] := by
        rintro hreleases
        simp [onItsWay, hasked, hreplies, hreleases] at hne
      obtain ⟨⟨i, cookie⟩, hm⟩ := List.exists_mem_of_ne_nil _ hreleases
      exact ⟨.release i cookie, hm⟩
    · obtain ⟨⟨i, reply⟩, hm⟩ := List.exists_mem_of_ne_nil _ hreplies
      exact ⟨.reply i reply, hm⟩
  · obtain ⟨i, hm⟩ := List.exists_mem_of_ne_nil _ hasked
    exact ⟨.refuse i, hm⟩

lemma nil_of_not_enabled (h : ∀ e, ¬ s.Enabled e) : s.replies = [] ∧ s.releases = [] := by
  have hzero : s.onItsWay = 0 := by
    by_contra hne
    obtain ⟨e, he⟩ := exists_enabled hne
    exact h e he
  refine ⟨List.length_eq_zero_iff.mp ?_, List.length_eq_zero_iff.mp ?_⟩ <;>
    · rw [onItsWay] at hzero
      omega

/-- **An inhibitor is in force from its grant until the release of its closed request is handled**;
so once nothing is on its way, the inhibitors in force are those of the open requests that were
granted one.  This is so for the calls that do not time out; an inhibitor that is granted to one
that has timed out stays in force for good. -/
theorem inhibitors_inForce (b : Backend) (evs : List ExchangeEvent) :
    let s := (machine b).run evs
    (s.inhibitors.map Inhibitor.cookie).Nodup ∧
    (∀ x, x.owner ∉ s.timedOut → (x ∈ s.inhibitors ↔
      (x.owner, .success x.cookie) ∈ s.replies ∨
        ∃ a, s.request? x.owner = some a ∧ a.call = .granted x.cookie ∧
          (a.closeDelivered = false ∨ (x.owner, x.cookie) ∈ s.releases))) ∧
    ((∀ e, ¬ s.Enabled e) → ∀ x, x.owner ∉ s.timedOut → (x ∈ s.inhibitors ↔
      ∃ a, s.request? x.owner = some a ∧ a.call = .granted x.cookie ∧
        a.closeDelivered = false)) ∧
    (∀ x ∈ s.inhibitors, x.owner ∈ s.timedOut →
      ∀ later, x ∈ ((machine b).run (evs ++ later)).inhibitors) ∧
    ∀ i ∈ s.timedOut, .timeout i ∈ evs := by
  intro s
  have hbalanced : Balanced s := balanced_run b evs
  refine ⟨hbalanced.cookies_nodup, fun x htime => hbalanced.inForce x.owner x.cookie htime,
    fun hquiet x htime => (hbalanced.inForce x.owner x.cookie htime).trans ?_,
    fun x hx htime later => ?_, fun i hi => timeout_of_mem_timedOut hi⟩
  · obtain ⟨hreplies, hreleases⟩ := nil_of_not_enabled hquiet
    simp [hreplies, hreleases]
  · rw [Machine.run, Machine.runFrom_append]
    exact inhibitor_stays hbalanced hx htime later

lemma length_le_onItsWay (h : Balanced s) {later : List ExchangeEvent}
    (hlater : (machine b).Along Enabled s later) : later.length ≤ s.onItsWay := by
  induction later generalizing s with
  | nil => exact Nat.zero_le _
  | cons e later ih =>
    have hless := onItsWay_step (b := b) h hlater.1
    have hrest := ih (balanced_step (b := b) h e) hlater.2
    rw [List.length_cons]
    omega

lemma exists_settled (n : ℕ) (h : Balanced s) (hn : s.onItsWay ≤ n) :
    ∃ later, (machine b).Along Enabled s later ∧
      ∀ e, ¬ ((machine b).runFrom s later).Enabled e := by
  induction n generalizing s with
  | zero =>
    refine ⟨[], trivial, fun e he => ?_⟩
    have hless := onItsWay_step (b := b) h he
    omega
  | succ n ih =>
    by_cases henabled : ∃ e, s.Enabled e
    · obtain ⟨e, he⟩ := henabled
      have hless := onItsWay_step (b := b) h he
      obtain ⟨later, hlater, hquiet⟩ := ih (balanced_step (b := b) h e) (by omega)
      exact ⟨e :: later, ⟨he, hlater⟩, hquiet⟩
    · exact ⟨[], trivial, fun e he => henabled ⟨e, he⟩⟩

/-- **What is on its way is handled in the end**: in every reachable state there is a bound on what
the backend and the bus can still handle without new calls of the applications, and they can reach
a state in which nothing is on its way. -/
theorem exchange_settles (b : Backend) (evs : List ExchangeEvent) :
    let s := (machine b).run evs
    (∀ later, (machine b).Along Enabled s later → later.length ≤ s.onItsWay) ∧
    ∃ later, (machine b).Along Enabled s later ∧
      ∀ e, ¬ ((machine b).run (evs ++ later)).Enabled e := by
  intro s
  have hbalanced : Balanced s := balanced_run b evs
  refine ⟨fun later hlater => length_le_onItsWay hbalanced hlater, ?_⟩
  obtain ⟨later, hlater, hquiet⟩ := exists_settled (b := b) s.onItsWay hbalanced le_rfl
  refine ⟨later, hlater, ?_⟩
  rw [Machine.run, Machine.runFrom_append]
  exact hquiet

end Exchange

end XappPortal.Inhibit
