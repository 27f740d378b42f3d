import Simplenet.Proofs.Tracker

/-! Request exclusivity on the client: no request id gets two terminal events, each terminal
event is for an added request, and while the client is not dropped every added id is pending
or has its terminal event. -/

namespace Simplenet

open ClientState

variable {encodes : Payload → Bool}

/-- The request a terminal event settles. -/
def ClientEvent.outcomeId? : ClientEvent → Option Nat
  | .response _ id | .ack id | .reject id | .sendFailed id | .responseLost id => some id
  | _ => none

def outcomeIds (es : List ClientEvent) : List Nat := es.filterMap ClientEvent.outcomeId?

def pendingIds (s : ClientState) : List Nat := s.pendingRequests.pending.map (·.1)

theorem outcomeIds_enqueueAll (s : ClientState) (es : List ClientEvent) :
    outcomeIds (s.enqueueAll es).events =
      outcomeIds s.events ++ if s.dropped then [] else outcomeIds es := by
  unfold enqueueAll outcomeIds
  split <;> simp_all

theorem outcomeIds_failAll (p : List (Nat × Nat)) (written : List Nat) :
    outcomeIds (p.map fun e => if e.2 ∈ written then .responseLost e.1 else .sendFailed e.1) =
      p.map (·.1) := by
  have hf : (ClientEvent.outcomeId? ∘ fun e : Nat × Nat =>
      if e.2 ∈ written then ClientEvent.responseLost e.1 else .sendFailed e.1) = some ∘ (·.1) := by
    funext e; simp only [Function.comp]; split <;> rfl
  rw [outcomeIds, List.filterMap_map, hf, List.filterMap_eq_map]

/-- What a backend step does to the pending ids and the terminal events: nothing, the
sweep, or the answer to one pending request. -/
theorem backendStep_outcomes {s s' : ClientState} {b : BackendAct} {ls : List Label}
    (h : backendStep s b = some (s', ls)) :
    (pendingIds s' = pendingIds s ∧ outcomeIds s'.events = outcomeIds s.events) ∨
    (pendingIds s' = [] ∧
      outcomeIds s'.events = outcomeIds s.events ++ if s.dropped then [] else pendingIds s) ∨
    (∃ id ∈ pendingIds s, pendingIds s' = (pendingIds s).filter (· != id) ∧
      outcomeIds s'.events = outcomeIds s.events ++ if s.dropped then [] else [id]) := by
  have hrep : ∀ e : ClientEvent, e.outcomeId? = none →
      outcomeIds (s.enqueue e).events = outcomeIds s.events := fun e he => by
    rw [enqueue, outcomeIds_enqueueAll]; simp [outcomeIds, he]
  cases backendStep_move h with
  | @answer id e _ _ he hp =>
    have hid : e.outcomeId? = some id := by rcases he with ⟨p, rfl⟩ | rfl | rfl <;> rfl
    refine .inr (.inr ⟨id, by simpa [pendingIds, PendingRequestTracker.resolve] using hp, ?_, ?_⟩)
    · simp [pendingIds, enqueue, enqueueAll, PendingRequestTracker.resolve, List.filter_map,
        Function.comp_def]
    · rw [enqueue, outcomeIds_enqueueAll]; simp [outcomeIds, hid]
  | lostSweep | dyingSweep =>
    exact .inr (.inl ⟨rfl, by
      rw [sweep, PendingRequestTracker.failAll, outcomeIds_enqueueAll, outcomeIds_failAll]; rfl⟩)
  | connect | reconnect | closedByServer | lostReport | dyingReport | msg =>
    exact .inl ⟨rfl, hrep _ rfl⟩
  | _ => exact .inl ⟨rfl, rfl⟩

/-- A host step adds a tracker entry only at `add_request`, which shows the add. -/
theorem hostStep_pending {s s' : ClientState} {t : Nat} {pc : HostPc} {ls : List Label}
    (h : hostStep encodes s t pc = some (s', ls)) :
    (pendingIds s' = pendingIds s ∧ addIds ls = []) ∨
    (∃ id k, pc = .requestAdd id k ∧ pendingIds s' = pendingIds s ++ [id] ∧
      ls = [.add t id, .ret t (.requested id)]) := by
  cases hostStep_move h with
  | requestAdd =>
    exact .inr ⟨_, _, rfl, by simp [pendingIds, PendingRequestTracker.addRequest], rfl⟩
  | @closeRefused d | @closeRejected d | @closeStore d => exact .inl ⟨rfl, by cases d <;> rfl⟩
  | _ => exact .inl ⟨rfl, rfl⟩

/-- What a run keeps of its requests' outcomes. -/
structure OutcomeInv (s : ClientState) (tr : List Label) : Prop where
  nodup : (pendingIds s ++ outcomeIds s.events).Nodup
  added : ∀ id ∈ pendingIds s ++ outcomeIds s.events, id ∈ addIds tr
  kept : s.dropped = false → ∀ id ∈ addIds tr, id ∈ pendingIds s ++ outcomeIds s.events

theorem outcomeInv_init : OutcomeInv ClientState.init [] :=
  ⟨List.nodup_nil, by simp [pendingIds, outcomeIds, ClientState.init], by simp [addIds]⟩

section Step

variable {s s' : ClientState} {tr ls : List Label}

theorem addIds_append_of_nil (hls : addIds ls = []) : addIds (tr ++ ls) = addIds tr := by
  simp only [addIds, List.filterMap_append] at hls ⊢
  rw [hls, List.append_nil]

/-- A step that adds nothing and moves ids between the tracker and the terminal events. -/
theorem outcomeInv_perm (h : OutcomeInv s tr) (hls : addIds ls = [])
    (hp : (pendingIds s' ++ outcomeIds s'.events).Perm (pendingIds s ++ outcomeIds s.events))
    (hd : s'.dropped = false → s.dropped = false) : OutcomeInv s' (tr ++ ls) := by
  have ha : addIds (tr ++ ls) = addIds tr := addIds_append_of_nil hls
  exact ⟨hp.nodup_iff.2 h.nodup, fun id hid => ha ▸ h.added id (hp.mem_iff.1 hid),
    fun hd' id hid => hp.mem_iff.2 (h.kept (hd hd') id (ha ▸ hid))⟩

/-- A step of a dropped client, which may lose ids: their events have no receiver. -/
theorem outcomeInv_dropped (h : OutcomeInv s tr) (hls : addIds ls = [])
    (hs : (pendingIds s' ++ outcomeIds s'.events).Sublist (pendingIds s ++ outcomeIds s.events))
    (hd : s'.dropped = true) : OutcomeInv s' (tr ++ ls) := by
  have ha : addIds (tr ++ ls) = addIds tr := addIds_append_of_nil hls
  exact ⟨h.nodup.sublist hs, fun id hid => ha ▸ h.added id (hs.subset hid), by simp [hd]⟩

theorem outcomeInv_backend {b : BackendAct} (h : OutcomeInv s tr)
    (hs : backendStep s b = some (s', ls)) : OutcomeInv s' (tr ++ ls) := by
  have hf := backendStep_frame hs
  have hls : addIds ls = [] := List.filterMap_eq_nil_iff.2 fun l hl => by
    have := hf.labels l hl
    cases l <;> simp_all [Label.thread?, Label.addId?]
  have hd : s'.dropped = false → s.dropped = false := fun h' => hf.dropped ▸ h'
  rcases backendStep_outcomes hs with ⟨hp, ho⟩ | ⟨hp, ho⟩ | ⟨id, hid, hp, ho⟩
  · exact outcomeInv_perm h hls (by rw [hp, ho]) hd
  · cases hdr : s.dropped
    · refine outcomeInv_perm h hls ?_ hd
      simpa [hp, ho, hdr] using List.perm_append_comm
    · refine outcomeInv_dropped h hls ?_ (hf.dropped.trans hdr)
      simp [hp, ho, hdr]
  · have hnd : (pendingIds s).Nodup := h.nodup.sublist (List.sublist_append_left _ _)
    have hfilter : (pendingIds s).filter (· != id) = (pendingIds s).erase id :=
      (hnd.erase_eq_filter id).symm
    cases hdr : s.dropped
    · refine outcomeInv_perm h hls ?_ hd
      rw [hp, ho, hdr, hfilter, if_neg Bool.false_ne_true, ← List.append_assoc]
      exact List.perm_append_comm.trans ((List.perm_cons_erase hid).symm.append_right _)
    · refine outcomeInv_dropped h hls ?_ (hf.dropped.trans hdr)
      rw [hp, ho, hdr, if_pos rfl, List.append_nil]
      exact (List.filter_sublist _).append_right _

theorem outcomeInv_host {t : Nat} (h : OutcomeInv s tr) (ht : TrackerInv s tr)
    (hs : hostStep encodes s t (s.threads t) = some (s', ls)) : OutcomeInv s' (tr ++ ls) := by
  have hf := hostStep_frame hs
  have ho : outcomeIds s'.events = outcomeIds s.events := by
    rcases hf.events with he | he <;> simp [he, outcomeIds, ClientEvent.outcomeId?]
  have hd : s'.dropped = false → s.dropped = false := fun h' => by
    cases hdr : s.dropped
    · rfl
    · simp [hf.dropped hdr] at h'
  rcases hostStep_pending hs with ⟨hp, hls⟩ | ⟨id, k, hpc, hp, rfl⟩
  · exact outcomeInv_perm h hls (by rw [hp, ho]) hd
  · have hfresh : id ∉ addIds tr := fun hm =>
      Nat.lt_irrefl _ ((ht.reserved t id (by simp [hpc, HostPc.reserved?])).2 id hm)
    have haddIds : addIds (tr ++ [.add t id, .ret t (.requested id)]) = addIds tr ++ [id] := by
      simp [addIds, Label.addId?]
    have hperm : (pendingIds s' ++ outcomeIds s'.events).Perm
        (id :: (pendingIds s ++ outcomeIds s.events)) := by
      rw [hp, ho, List.append_assoc, List.singleton_append]
      exact List.perm_middle
    refine ⟨hperm.nodup_iff.2 (List.nodup_cons.2 ⟨fun hm => hfresh (h.added id hm), h.nodup⟩),
      fun x hx => ?_, fun hd' x hx => hperm.mem_iff.2 ?_⟩
    · rw [haddIds]
      rcases List.mem_cons.1 (hperm.mem_iff.1 hx) with rfl | hx
      · exact List.mem_append_right _ (List.mem_singleton_self _)
      · exact List.mem_append_left _ (h.added x hx)
    · rw [haddIds] at hx
      rcases List.mem_append.1 hx with hx | hx
      · exact List.mem_cons_of_mem _ (h.kept (hd hd') x hx)
      · exact List.mem_cons.2 (.inl (List.mem_singleton.1 hx))

theorem outcomeInv_step {a : Act} (h : OutcomeInv s tr) (ht : TrackerInv s tr)
    (hs : step encodes s a = some (s', ls)) : OutcomeInv s' (tr ++ ls) := by
  cases a with
  | invoke t c =>
    obtain ⟨-, -, ⟨-, ⟨n, rfl⟩, e, rfl⟩ | ⟨-, rfl, rfl⟩⟩ := step_invoke_cases hs
    · exact outcomeInv_perm h rfl (List.Perm.refl _) id
    · exact outcomeInv_perm h (by cases c <;> rfl) (List.Perm.refl _) id
  | host t => exact outcomeInv_host h ht hs
  | backend b => exact outcomeInv_backend h hs

end Step

theorem Run.outcomeInv {tr : List Label} {s : ClientState} (h : Run encodes tr s) :
    OutcomeInv s tr := by
  induction h with
  | nil => exact outcomeInv_init
  | snoc hr hs ih => exact outcomeInv_step ih hr.trackerInv hs

theorem request_outcome_once {tr : List Label} {s : ClientState} (h : Run encodes tr s) :
    (outcomeIds s.events).Nodup ∧ (∀ id ∈ outcomeIds s.events, id ∈ addIds tr) ∧
      (s.dropped = false → ∀ id ∈ addIds tr, id ∈ pendingIds s ∨ id ∈ outcomeIds s.events) := by
  have hi := h.outcomeInv
  exact ⟨hi.nodup.sublist (List.sublist_append_right _ _),
    fun id hid => hi.added id (List.mem_append_right _ hid),
    fun hd id hid => List.mem_append.1 (hi.kept hd id hid)⟩

/-- Request 1 is answered by the server; request 2 is failed by the sweep of a lost
connection. -/
theorem request_outcome_once_answer_and_sweep :
    ∃ tr s, Run (fun _ => true) tr s ∧ outcomeIds s.events = [1, 2] ∧
      (outcomeIds s.events).Nodup ∧ (∀ id ∈ outcomeIds s.events, id ∈ addIds tr) ∧
      (s.dropped = false → ∀ id ∈ addIds tr, id ∈ pendingIds s ∨ id ∈ outcomeIds s.events) := by
  let request (t : Nat) : List Act := .invoke t (.request []) :: List.replicate 6 (.host t)
  let sched : List Act := [.backend .connect] ++ request 0 ++
    [.backend (.receive (.response [] 1))] ++ request 1 ++ [.backend .lose, .backend .proceed]
  obtain ⟨r, he, hr⟩ : ∃ r, exec (fun _ => true) .init sched = some r ∧
      outcomeIds r.2.events = [1, 2] := ⟨_, rfl, by decide⟩
  exact ⟨r.1, r.2, Run.of_exec he, hr, request_outcome_once (Run.of_exec he)⟩

end Simplenet
