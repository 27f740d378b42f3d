import Simplenet.Proofs.Outcomes

/-! The sweep before the reports of a lost connection: when `Disconnected` or `IsDead` is
enqueued the tracker is empty, and every request added before it has its terminal outcome
among the events before the report. -/

namespace Simplenet

open ClientState

variable {encodes : Payload → Bool}

/-- The backend has swept the tracker and not connected since. -/
def BackendPc.afterSweep : BackendPc → Bool
  | .lostSwept | .dyingSwept | .dyingReported | .dyingSignalled | .dead => true
  | _ => false

theorem foldl_staleStep_of_thread {ls : List Label} (h : ∀ l ∈ ls, l.thread? ≠ none) :
    ∀ b, ls.foldl staleStep b = b := by
  induction ls with
  | nil => intro b; rfl
  | cons l ls ih =>
    intro b
    have hl : staleStep b l = b := by
      have := h l (List.mem_cons_self _ _)
      cases l <;> first | rfl | simp [Label.thread?] at this
    rw [List.foldl_cons, hl, ih fun l hl => h l (List.mem_cons_of_mem _ hl)]

section Step

variable {s s' : ClientState} {b : BackendAct} {tr ls : List Label}

/-- What a backend step does to the sweep: set the connected flag outside the swept phases,
sweep the tracker into a swept phase, or show only quiet labels and enter no swept phase. -/
theorem backendStep_sweepCases (h : backendStep s b = some (s', ls)) :
    (ls = [.setConnected] ∧ s'.backend.afterSweep = false) ∨
    (∃ f, ls = [.sweep f] ∧ pendingIds s' = [] ∧ s'.backend.afterSweep = true) ∨
    ((∀ l ∈ ls, l.quiet = true) ∧
      (s'.backend.afterSweep = true → s.backend.afterSweep = true)) := by
  have hm := backendStep_move h
  clear h
  cases hm with
  | connect | reconnect => exact .inl ⟨rfl, rfl⟩
  | lostSweep | dyingSweep => exact .inr (.inl ⟨_, rfl, rfl, rfl⟩)
  | _ => exact .inr (.inr ⟨by decide, by simp_all [enqueue, enqueueAll, BackendPc.afterSweep]⟩)

/-- Only the backend's last step of a lost connection reports `Disconnected`, and only its
step after the final sweep reports `IsDead`, each on a client not dropped. -/
theorem backendStep_report {r : ClientReport} (h : backendStep s b = some (s', ls))
    (he : s'.events = s.events ++ [.report r]) (hr : r = .disconnected ∨ r = .isDead) :
    s.backend.afterSweep = true ∧ s.dropped = false := by
  have hm := backendStep_move h
  clear h
  cases hd : s.dropped <;> cases hm <;>
    simp_all [enqueue, enqueueAll, sweep, PendingRequestTracker.failAll, BackendPc.afterSweep,
      List.map_eq_cons_iff, ite_eq_iff]
  all_goals subst r; simp at hr

/-- Only the backend's step after a sweep reports `Disconnected` or `IsDead`: a host step
enqueues at most `ClosedBySelf`, and a call enqueues nothing. -/
theorem step_report {a : Act} {r : ClientReport} (hs : step encodes s a = some (s', ls))
    (he : s'.events = s.events ++ [.report r]) (hr : r = .disconnected ∨ r = .isDead) :
    s.backend.afterSweep = true ∧ s.dropped = false := by
  cases a with
  | invoke t c =>
    obtain ⟨-, -, ⟨-, ⟨n, rfl⟩, -⟩ | ⟨-, rfl, -⟩⟩ := step_invoke_cases hs <;>
      simp [setPc] at he
  | host t =>
    rcases (hostStep_frame hs).events with he' | he' <;> rw [he'] at he
    · simp at he
    · obtain rfl : ClientReport.closedBySelf = r := by simpa using he
      simp at hr
  | backend b => exact backendStep_report hs he hr

/-- What a run keeps of its sweeps: a run whose last sweep came after its last connect has
an empty tracker, and a swept backend has not connected since its sweep. -/
structure SweepInv (s : ClientState) (tr : List Label) : Prop where
  empty : stale tr = true → pendingIds s = []
  swept : s.backend.afterSweep = true → stale tr = true

theorem sweepInv_init : SweepInv ClientState.init [] :=
  ⟨fun h => by simp [stale] at h, fun h => by simp [ClientState.init, BackendPc.afterSweep] at h⟩

/-- A step that shows only labels of threads, keeps the backend, and changes the tracker
only while the run is not stale. -/
theorem sweepInv_thread (h : SweepInv s tr) (hls : ∀ l ∈ ls, l.thread? ≠ none)
    (hb : s'.backend = s.backend) (hp : stale tr = true → pendingIds s' = pendingIds s) :
    SweepInv s' (tr ++ ls) := by
  have hst : stale (tr ++ ls) = stale tr := by rw [stale_append, foldl_staleStep_of_thread hls]
  exact ⟨fun h' => (hp (hst ▸ h')).trans (h.empty (hst ▸ h')), fun h' => hst ▸ h.swept (hb ▸ h')⟩

theorem backendStep_pending_nil (h : backendStep s b = some (s', ls)) (hp : pendingIds s = []) :
    pendingIds s' = [] := by
  rcases backendStep_outcomes h with ⟨hp', -⟩ | ⟨hp', -⟩ | ⟨id, hid, -⟩
  · rwa [hp']
  · exact hp'
  · simp [hp] at hid

theorem sweepInv_backend (h : SweepInv s tr) (hs : backendStep s b = some (s', ls)) :
    SweepInv s' (tr ++ ls) := by
  rcases backendStep_sweepCases hs with ⟨rfl, ha⟩ | ⟨f, rfl, hp, -⟩ | ⟨hq, ha⟩
  · have hst : stale (tr ++ [.setConnected]) = false := by rw [stale_append]; rfl
    exact ⟨fun h' => by simp [hst] at h', fun h' => by simp [ha] at h'⟩
  · have hst : stale (tr ++ [.sweep f]) = true := by rw [stale_append]; rfl
    exact ⟨fun _ => hp, fun _ => hst⟩
  · have hst : stale (tr ++ ls) = stale tr := by rw [stale_append, foldl_staleStep_quiet hq]
    exact ⟨fun h' => backendStep_pending_nil hs (h.empty (hst ▸ h')),
      fun h' => hst ▸ h.swept (ha h')⟩

theorem sweepInv_step {a : Act} (h : SweepInv s tr) (ht : TrackerInv s tr)
    (hs : step encodes s a = some (s', ls)) : SweepInv s' (tr ++ ls) := by
  cases a with
  | invoke t c =>
    obtain ⟨-, -, ⟨-, ⟨n, rfl⟩, e, rfl⟩ | ⟨-, rfl, rfl⟩⟩ := step_invoke_cases hs
    · exact sweepInv_thread h (by simp [Label.thread?]) rfl fun _ => rfl
    · exact sweepInv_thread h (by simp [Label.thread?]) rfl fun _ => rfl
  | host t =>
    have hf := hostStep_frame hs
    refine sweepInv_thread h (fun l hl => by simp [hf.labels l hl]) hf.backend fun hst => ?_
    rcases hostStep_pending hs with ⟨hp, -⟩ | ⟨id, k, hpc, -, -⟩
    · exact hp
    · have := ht.fresh t (by simp [hpc, HostPc.pastConnected])
      simp [hst] at this
  | backend b => exact sweepInv_backend h hs

end Step

theorem Run.sweepInv {tr : List Label} {s : ClientState} (h : Run encodes tr s) :
    SweepInv s tr := by
  induction h with
  | nil => exact sweepInv_init
  | snoc hr hs ih => exact sweepInv_step ih hr.trackerInv hs

theorem outcomes_before_disconnect_report {tr ls : List Label} {s s' : ClientState} {a : Act}
    {r : ClientReport} (h : Run encodes tr s) (hs : step encodes s a = some (s', ls))
    (he : s'.events = s.events ++ [.report r]) (hr : r = .disconnected ∨ r = .isDead) :
    pendingIds s = [] ∧ ∀ id ∈ addIds tr, id ∈ outcomeIds s.events := by
  obtain ⟨ha, hd⟩ := step_report hs he hr
  have hp : pendingIds s = [] := h.sweepInv.empty (h.sweepInv.swept ha)
  exact ⟨hp, fun id hid => by simpa [hp] using h.outcomeInv.kept hd id hid⟩

/-- Three requests, the first of them written, then `close`; the backend dies, fails the
three under the mutex, and reports `IsDead` next. -/
theorem outcomes_before_disconnect_report_close :
    ∃ tr s s' ls, Run (fun _ => true) tr s ∧
      step (fun _ => true) s (.backend .proceed) = some (s', ls) ∧
      s'.events = s.events ++ [.report .isDead] ∧ outcomeIds s.events = [1, 2, 3] ∧
      pendingIds s = [] ∧ ∀ id ∈ addIds tr, id ∈ outcomeIds s.events := by
  let request : List Act := .invoke 0 (.request []) :: List.replicate 6 (.host 0)
  let sched : List Act := [.backend .connect] ++ request ++ request ++ request ++
    [.backend (.write 0), .invoke 0 .close] ++ List.replicate 5 (.host 0) ++
    [.backend .die, .backend .proceed]
  obtain ⟨r, he, q, hq, hev, ho⟩ : ∃ r, exec (fun _ => true) .init sched = some r ∧
      ∃ q, step (fun _ => true) r.2 (.backend .proceed) = some q ∧
        q.1.events = r.2.events ++ [.report .isDead] ∧ outcomeIds r.2.events = [1, 2, 3] :=
    ⟨_, rfl, _, rfl, by decide, by decide⟩
  exact ⟨r.1, r.2, q.1, q.2, Run.of_exec he, hq, hev, ho,
    outcomes_before_disconnect_report (Run.of_exec he) hq hev (.inr rfl)⟩

end Simplenet
