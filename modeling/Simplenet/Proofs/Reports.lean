import Simplenet.Sanity.ClientRun

/-! The client's report stream: after `IsDead` the channel takes only `ClosedBySelf` reports,
so `IsDead` is enqueued at most once, but overlapping `close` calls can still enqueue their
`ClosedBySelf` after it, one each. -/

namespace Simplenet

open ClientState

variable {encodes : Payload → Bool}

/-- Every event after an `IsDead` is a `ClosedBySelf` report. -/
def AfterDead (es : List ClientEvent) : Prop :=
  ∀ pre post, es = pre ++ .report .isDead :: post → ∀ e ∈ post, e = .report .closedBySelf

theorem afterDead_of_not_mem {es : List ClientEvent} (h : .report .isDead ∉ es) : AfterDead es :=
  fun pre post he => absurd (by simp [he]) h

theorem afterDead_singleton : AfterDead [.report .isDead] := by
  rintro (_ | ⟨x, pre⟩) post he e he'
  · simp_all
  · simp at he

theorem afterDead_append {es new : List ClientEvent} (h : .report .isDead ∉ es)
    (hn : AfterDead new) : AfterDead (es ++ new) := by
  intro pre post he
  rcases List.append_eq_append_iff.1 he with ⟨a, rfl, hn'⟩ | ⟨c, rfl, hc⟩
  · exact hn a post hn'
  · rcases c with _ | ⟨x, c⟩
    · exact hn [] post (by simpa using hc.symm)
    · obtain ⟨rfl, -⟩ := List.cons.inj hc
      simp at h

theorem afterDead_append_closedBySelf {es : List ClientEvent} (h : AfterDead es) :
    AfterDead (es ++ [.report .closedBySelf]) := by
  intro pre post he
  rcases List.append_eq_append_iff.1 he with ⟨a, rfl, ha⟩ | ⟨c, rfl, hc⟩
  · rcases a with _ | ⟨y, a⟩ <;> simp at ha
  · rcases c with _ | ⟨x, c⟩
    · simp at hc
    · obtain ⟨rfl, rfl⟩ := List.cons.inj hc
      intro e he'
      rcases List.mem_append.1 he' with he' | he'
      · exact h pre c rfl e he'
      · simpa using he'

def BackendPc.reported : BackendPc → Bool
  | .dyingReported | .dyingSignalled | .dead => true
  | _ => false

/-- What a run keeps of its report stream. -/
structure ReportInv (s : ClientState) : Prop where
  afterDead : AfterDead s.events
  reported : .report .isDead ∈ s.events → s.backend.reported = true

theorem reportInv_init : ReportInv ClientState.init :=
  ⟨afterDead_of_not_mem (by simp [ClientState.init]), by simp [ClientState.init]⟩

theorem reportInv_of_not_mem {s : ClientState} (hd : .report .isDead ∉ s.events) :
    ReportInv s :=
  ⟨afterDead_of_not_mem hd, fun hm => absurd hm hd⟩

/-- A step that enqueues nothing and keeps the backend past its `IsDead`. -/
theorem reportInv_same {s s' : ClientState} (h : ReportInv s) (he : s'.events = s.events)
    (hb : s.backend.reported = true → s'.backend.reported = true) : ReportInv s' :=
  ⟨he ▸ h.afterDead, fun hm => hb (h.reported (he ▸ hm))⟩

theorem reportInv_enqueueAll {s : ClientState} {es : List ClientEvent}
    (hd : .report .isDead ∉ s.events) (hes : .report .isDead ∉ es) :
    ReportInv (s.enqueueAll es) := by
  apply reportInv_of_not_mem
  unfold enqueueAll
  split <;> simp_all

theorem reportInv_enqueue_isDead {s : ClientState} (hd : .report .isDead ∉ s.events)
    (hb : s.backend.reported = true) : ReportInv (s.enqueue (.report .isDead)) := by
  refine ⟨?_, fun _ => hb⟩
  unfold enqueue enqueueAll
  split
  · exact afterDead_of_not_mem hd
  · exact afterDead_append hd afterDead_singleton

theorem reportInv_backendStep {s s' : ClientState} {b : BackendAct} {ls : List Label}
    (h : ReportInv s) (hs : backendStep s b = some (s', ls)) : ReportInv s' := by
  have hd : s.backend.reported = false → .report .isDead ∉ s.events :=
    fun hb hm => by simp [h.reported hm] at hb
  cases backendStep_move hs with
  | dyingReport hb => exact reportInv_enqueue_isDead (hd (by simp [hb, BackendPc.reported])) rfl
  | answer hb _ he _ =>
    exact reportInv_enqueueAll (hd (by simp [hb, BackendPc.reported]))
      (by rcases he with ⟨p, rfl⟩ | rfl | rfl <;> simp)
  | answerLate => exact h
  | lose hb | dieConnecting hb | dieConnected hb | dieReconnecting hb | dyingSignal hb
  | dyingStop hb | write hb => exact reportInv_same h rfl (by simp [hb, BackendPc.reported])
  | connect hb | reconnect hb | closedByServer hb | lostReport hb | msg hb =>
    exact reportInv_enqueueAll (hd (by simp [hb, BackendPc.reported])) (by simp)
  | lostSweep hb | dyingSweep hb =>
    exact reportInv_enqueueAll (hd (by simp [hb, BackendPc.reported])) (by simp [ite_eq_iff])

theorem reportInv_step {s s' : ClientState} {a : Act} {ls : List Label} (h : ReportInv s)
    (hs : step encodes s a = some (s', ls)) : ReportInv s' := by
  cases a with
  | invoke t c =>
    obtain ⟨-, -, ⟨-, ⟨n, rfl⟩, -⟩ | ⟨-, rfl, -⟩⟩ := step_invoke_cases hs
    · exact reportInv_same h rfl id
    · exact reportInv_same h rfl id
  | host t =>
    have hf := hostStep_frame hs
    have hb := hf.backend
    rcases hf.events with he | he
    · exact reportInv_same h he (hb ▸ id)
    · refine ⟨he ▸ afterDead_append_closedBySelf h.afterDead, fun hm => hb ▸ h.reported ?_⟩
      simpa [he] using hm
  | backend b => exact reportInv_backendStep h hs

theorem Run.reportInv {tr : List Label} {s : ClientState} (h : Run encodes tr s) : ReportInv s := by
  induction h with
  | nil => exact reportInv_init
  | snoc _ hs ih => exact reportInv_step ih hs

theorem reports_after_isDead {tr : List Label} {s : ClientState} (h : Run encodes tr s) :
    ∀ pre post, s.events = pre ++ .report .isDead :: post →
      ∀ e ∈ post, e = .report .closedBySelf :=
  h.reportInv.afterDead

/-- Two threads call `close` on a connected client; both pass `is_closed` and hand over
their close frames before either stores `closed_by_self`; then the backend dies and reports
`IsDead`; then both threads enqueue their `ClosedBySelf`. -/
def closeTwiceThenDie : List Act :=
  [.backend .connect, .invoke 0 .close, .invoke 1 .close, .host 0, .host 0, .host 1, .host 1,
    .host 0, .host 1, .backend .die, .backend .proceed, .backend .proceed, .backend .proceed,
    .host 0, .host 1, .host 0, .host 1]

theorem closeTwiceThenDie_exec :
    ∃ r, exec (fun _ => true) .init closeTwiceThenDie = some r ∧
      r.2.events = [.report .connected, .report .isDead, .report .closedBySelf,
        .report .closedBySelf] :=
  ⟨_, rfl, by decide⟩

theorem reports_after_isDead_close_twice :
    ∃ tr s, Run (fun _ => true) tr s ∧
      s.events = [.report .connected, .report .isDead, .report .closedBySelf,
        .report .closedBySelf] ∧
      ∀ pre post, s.events = pre ++ .report .isDead :: post →
        ∀ e ∈ post, e = .report .closedBySelf := by
  obtain ⟨r, he, hr⟩ := closeTwiceThenDie_exec
  exact ⟨r.1, r.2, Run.of_exec he, hr, reports_after_isDead (Run.of_exec he)⟩

theorem close_twice_reports_after_isDead :
    ∃ tr s, Run (fun _ => true) tr s ∧
      s.events = [.report .connected, .report .isDead, .report .closedBySelf,
        .report .closedBySelf] := by
  obtain ⟨r, he, hr⟩ := closeTwiceThenDie_exec
  exact ⟨r.1, r.2, Run.of_exec he, hr⟩

end Simplenet
