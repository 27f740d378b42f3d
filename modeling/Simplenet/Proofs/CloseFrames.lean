import Mathlib.Data.List.Nodup
import Simplenet.Proofs.Reports

/-! Close frames: along every run each thread hands the websocket client at most one close
frame, and the event channel holds no more `ClosedBySelf` reports than close frames were
handed over. -/

namespace Simplenet

open ClientState

variable {encodes : Payload → Bool}

/-- The threads that handed the websocket client a close frame along a run, in order. -/
def closers (tr : List Label) : List Nat :=
  tr.filterMap fun
    | .frame t (.close _) => some t
    | _ => none

@[simp] theorem closers_append (tr ls : List Label) :
    closers (tr ++ ls) = closers tr ++ closers ls :=
  List.filterMap_append _ _ _

theorem closers_eq_nil {ls : List Label} (h : ∀ l ∈ ls, l.thread? = none) : closers ls = [] :=
  List.filterMap_eq_nil_iff.2 fun l hl => by
    cases l with
    | frame t o => exact absurd (h _ hl) (by simp [Label.thread?])
    | _ => rfl

/-- Past the load of `closed_by_self` in `close`, before the close frame is handed over. -/
def HostPc.pastSelfLoad : HostPc → Bool
  | .check (.close _) .closed | .closeInner _ => true
  | _ => false

/-- Past the close frame, before `closed_by_self` is stored. -/
def HostPc.closing : HostPc → Bool
  | .closeSend _ | .closeStore _ => true
  | _ => false

/-- About to enqueue `ClosedBySelf`. -/
def HostPc.sending : HostPc → Bool
  | .closeSend _ => true
  | _ => false

theorem HostPc.sending_eq_false {pc : HostPc} (h : pc.closing = false) : pc.sending = false := by
  cases pc <;> simp_all [closing, sending]

/-- A load that moves a test of `close` past `closed_by_self` found it clear. -/
theorem pastSelfLoad_load {s : ClientState} {c : Checked} {f f' : Flag}
    (hp : s.loadPasses f = true) (hn : f.next = some f') (hs : s.closedBySelf = true) :
    (HostPc.check c f').pastSelfLoad = false := by
  cases f <;> simp only [Flag.next, Option.some.injEq, reduceCtorEq] at hn <;> subst hn
  · cases c <;> rfl
  · simp [loadPasses, hs] at hp

/-- One more element of `l` passes `q` than passes `p`, where the two differ only at `t`. -/
theorem countP_update_le {l : List Nat} {p q : Nat → Bool} {t : Nat} (ht : t ∈ l)
    (hp : p t = false) (hq : q t = true) (hpq : ∀ x, x ≠ t → q x = p x) :
    l.countP p + 1 ≤ l.countP q := by
  have hle : ∀ l : List Nat, l.countP p ≤ l.countP q := fun _ =>
    List.countP_mono_left fun x _ hx => by
      by_cases e : x = t
      · simp [e, hp] at hx
      · rwa [hpq x e]
  obtain ⟨l₁, l₂, rfl⟩ := List.append_of_mem ht
  have h₁ := hle l₁
  have h₂ := hle l₂
  simp only [List.countP_append, List.countP_cons, hp, hq, if_true, Bool.false_eq_true, if_false]
  omega

theorem count_enqueueAll {s : ClientState} {es : List ClientEvent} {e : ClientEvent}
    (h : e ∉ es) : (s.enqueueAll es).events.count e = s.events.count e := by
  unfold enqueueAll
  split <;> simp [List.count_eq_zero.2 h]

/-- The backend enqueues no `ClosedBySelf`. -/
theorem backendStep_count_closedBySelf {s s' : ClientState} {b : BackendAct} {ls : List Label}
    (hs : backendStep s b = some (s', ls)) :
    s'.events.count (.report .closedBySelf) = s.events.count (.report .closedBySelf) := by
  cases backendStep_move hs with
  | lose | dieConnecting | dieConnected | dieReconnecting | dyingSignal | dyingStop | write
  | answerLate => rfl
  | connect | reconnect | closedByServer | lostReport | dyingReport | msg =>
    exact count_enqueueAll (by simp)
  | lostSweep | dyingSweep => exact count_enqueueAll (by simp [ite_eq_iff])
  | answer _ _ he => exact count_enqueueAll (by rcases he with ⟨p, rfl⟩ | rfl | rfl <;> simp)

/-- Each thread that handed over a close frame did so once, and is either still inside that
`close` or has stored `closed_by_self` and has not passed its test again; a thread about to
enqueue `ClosedBySelf` has handed over its frame; and every `ClosedBySelf` enqueued is matched
by the frame of a thread past its enqueue. -/
structure CloserInv (s : ClientState) (tr : List Label) : Prop where
  nodup : (closers tr).Nodup
  closer : ∀ t ∈ closers tr, (s.threads t).closing = true ∨
    (s.closedBySelf = true ∧ (s.threads t).pastSelfLoad = false)
  sending : ∀ t, (s.threads t).sending = true → t ∈ closers tr
  count : s.events.count (.report .closedBySelf) ≤
    (closers tr).countP fun t => !(s.threads t).sending

section Step

variable {s s' : ClientState} {tr ls : List Label} {t : Nat}

theorem CloserInv.selfClosed (h : CloserInv s tr) (ht : t ∈ closers tr)
    (hc : (s.threads t).closing = false) :
    s.closedBySelf = true ∧ (s.threads t).pastSelfLoad = false :=
  (h.closer t ht).resolve_left (by simp [hc])

theorem countP_sending_congr {l : List Nat} (hth : ∀ t', t' ≠ t → s'.threads t' = s.threads t')
    (ht : (s'.threads t).sending = (s.threads t).sending) :
    l.countP (fun t => !(s'.threads t).sending) = l.countP fun t => !(s.threads t).sending :=
  List.countP_congr fun t' _ => by
    by_cases e : t' = t
    · rw [e, ht]
    · rw [hth t' e]

theorem closerInv_init : CloserInv ClientState.init [] :=
  ⟨List.nodup_nil, nofun, fun _ h => by simp [ClientState.init, HostPc.sending] at h,
    by simp [ClientState.init]⟩

/-- A step of thread `t` that hands over no close frame, enqueues nothing, and leaves `t`
neither about to enqueue nor, on a thread that closed, past its test of `closed_by_self`. -/
theorem closerInv_keep (h : CloserInv s tr) (hl : closers ls = []) (he : s'.events = s.events)
    (hself : s.closedBySelf = true → s'.closedBySelf = true)
    (hth : ∀ t', t' ≠ t → s'.threads t' = s.threads t')
    (hsend : (s.threads t).sending = false) (hc : (s'.threads t).closing = false)
    (hin : t ∈ closers tr → s'.closedBySelf = true ∧ (s'.threads t).pastSelfLoad = false) :
    CloserInv s' (tr ++ ls) := by
  have hcl : closers (tr ++ ls) = closers tr := by rw [closers_append, hl, List.append_nil]
  have hs' := HostPc.sending_eq_false hc
  refine ⟨hcl ▸ h.nodup, fun t' ht' => ?_, fun t' ht' => ?_, ?_⟩
  · rw [hcl] at ht'
    by_cases e : t' = t
    · subst e; exact .inr (hin ht')
    · rw [hth t' e]; exact (h.closer t' ht').imp id fun hc => ⟨hself hc.1, hc.2⟩
  · rw [hcl]
    by_cases e : t' = t
    · subst e; simp [hs'] at ht'
    · exact h.sending t' (by rwa [← hth t' e])
  · rw [hcl, he, countP_sending_congr hth (hs'.trans hsend.symm)]
    exact h.count

theorem closerInv_hostStep (h : CloserInv s tr)
    (hs : hostStep encodes s t (s.threads t) = some (s', ls)) : CloserInv s' (tr ++ ls) := by
  have hf := hostStep_frame hs
  generalize hpc : s.threads t = pc at hs
  cases hostStep_move hs with
  | @load c f f' hp hn =>
    refine closerInv_keep h rfl rfl id hf.others (by rw [hpc]; rfl) (by simp [setPc, HostPc.closing])
      fun ht => ?_
    have hc := h.selfClosed ht (by rw [hpc]; rfl)
    exact ⟨hc.1, by simpa [setPc] using pastSelfLoad_load hp hn hc.1⟩
  | @closeChecked d _ =>
    refine closerInv_keep h rfl rfl id hf.others (by rw [hpc]; rfl) (by simp [setPc, HostPc.closing])
      fun ht => absurd (h.selfClosed ht (by rw [hpc]; rfl)).2 (by simp [hpc, HostPc.pastSelfLoad])
  | @closeInner d _ =>
    have hnot : t ∉ closers tr := fun ht =>
      absurd (h.selfClosed ht (by rw [hpc]; rfl)).2 (by simp [hpc, HostPc.pastSelfLoad])
    have hcl : closers (tr ++ [.frame t (.close closureFrame)]) = closers tr ++ [t] :=
      closers_append _ _
    have hne : ∀ t' ∈ closers tr, t' ≠ t := fun t' ht' e => hnot (e ▸ ht')
    refine ⟨hcl ▸ h.nodup.append (List.nodup_singleton t) (List.disjoint_singleton.2 hnot),
      fun t' ht' => ?_, fun t' ht' => ?_, ?_⟩
    · rw [hcl, List.mem_append, List.mem_singleton] at ht'
      rcases ht' with ht' | rfl
      · rw [hf.others t' (hne t' ht')]; exact h.closer t' ht'
      · exact .inl (by simp [setPc, push, HostPc.closing])
    · rw [hcl]
      by_cases e : t' = t
      · exact List.mem_append_right _ (List.mem_singleton.2 e)
      · exact List.mem_append_left _ (h.sending t' (by rwa [← hf.others t' e]))
    · have hc : (closers tr).countP (fun x => !(((s.setPc t (.closeSend d)).push
          (.close closureFrame)).threads x).sending) =
          (closers tr).countP fun t => !(s.threads t).sending :=
        List.countP_congr fun t' ht' => by rw [hf.others t' (hne t' ht')]
      rw [hcl, List.countP_append, hc]
      simpa [setPc, push, HostPc.sending] using h.count
  | @closeSend d =>
    have ht : t ∈ closers tr := h.sending t (by rw [hpc]; rfl)
    rw [List.append_nil]
    refine ⟨h.nodup, fun t' ht' => ?_, fun t' ht' => ?_, ?_⟩
    · by_cases e : t' = t
      · subst e; exact .inl (by simp [setPc, enqueue, enqueueAll, HostPc.closing])
      · rw [hf.others t' e]; exact h.closer t' ht'
    · by_cases e : t' = t
      · subst e; simp [setPc, enqueue, enqueueAll, HostPc.sending] at ht'
      · exact h.sending t' (by rwa [← hf.others t' e])
    · calc _ ≤ s.events.count (.report .closedBySelf) + 1 := by
            rcases hf.events with he | he <;> simp [he]
        _ ≤ (closers tr).countP (fun t => !(s.threads t).sending) + 1 :=
            Nat.add_le_add_right h.count 1
        _ ≤ _ := countP_update_le ht (by simp [hpc, HostPc.sending])
            (by simp [setPc, enqueue, enqueueAll, HostPc.sending]) fun x e => by
              rw [hf.others x e]
  | @closeStore d =>
    exact closerInv_keep h rfl rfl (fun _ => rfl) hf.others (by rw [hpc]; rfl)
      (by simp [setPc, HostPc.closing]) fun _ => ⟨rfl, by simp [setPc, HostPc.pastSelfLoad]⟩
  | _ =>
    exact closerInv_keep h rfl rfl hf.closedBySelf hf.others (by rw [hpc]; rfl)
      (by simp [setPc, push, HostPc.closing]) fun ht =>
        ⟨hf.closedBySelf (h.selfClosed ht (by rw [hpc]; rfl)).1,
          by simp [setPc, push, HostPc.pastSelfLoad]⟩

theorem closerInv_backendStep {b : BackendAct} (h : CloserInv s tr)
    (hs : backendStep s b = some (s', ls)) : CloserInv s' (tr ++ ls) := by
  have hf := backendStep_frame hs
  have hcl : closers (tr ++ ls) = closers tr := by
    rw [closers_append, closers_eq_nil hf.labels, List.append_nil]
  refine ⟨hcl ▸ h.nodup, fun t ht => ?_, fun t ht => hcl ▸ h.sending t (hf.threads ▸ ht), ?_⟩
  · rw [hf.threads, hf.closedBySelf]; exact h.closer t (hcl ▸ ht)
  · rw [hcl, hf.threads, backendStep_count_closedBySelf hs]; exact h.count

theorem closerInv_step {a : Act} (h : CloserInv s tr) (hs : step encodes s a = some (s', ls)) :
    CloserInv s' (tr ++ ls) := by
  cases a with
  | invoke t c =>
    obtain ⟨hi, -, ⟨-, ⟨n, rfl⟩, e, rfl⟩ | ⟨-, rfl, rfl⟩⟩ := step_invoke_cases hs
    · exact closerInv_keep h rfl rfl id (fun _ _ => rfl) (by rw [hi]; rfl) (by rw [hi]; rfl)
        fun ht => h.selfClosed ht (by rw [hi]; rfl)
    · have hentry : (HostPc.entry c).closing = false ∧ (HostPc.entry c).pastSelfLoad = false := by
        cases c <;> exact ⟨rfl, rfl⟩
      exact closerInv_keep h rfl rfl id (fun t' e => Function.update_noteq e _ _) (by rw [hi]; rfl)
        (by simpa [setPc] using hentry.1)
        fun ht => ⟨(h.selfClosed ht (by rw [hi]; rfl)).1, by simpa [setPc] using hentry.2⟩
  | host t => exact closerInv_hostStep h hs
  | backend b => exact closerInv_backendStep h hs

end Step

theorem Run.closerInv {tr : List Label} {s : ClientState} (h : Run encodes tr s) :
    CloserInv s tr := by
  induction h with
  | nil => exact closerInv_init
  | snoc _ hs ih => exact closerInv_step ih hs

theorem close_frame_once_per_thread {tr : List Label} {s : ClientState} (h : Run encodes tr s) :
    (closers tr).Nodup ∧ s.events.count (.report .closedBySelf) ≤ (closers tr).length :=
  ⟨h.closerInv.nodup, h.closerInv.count.trans (List.countP_le_length _)⟩

/-- After the run of `closeTwiceThenDie`, threads 0 and 1 have each handed over one close
frame, and the channel holds two `ClosedBySelf` reports: the bound is reached. -/
theorem close_frame_once_per_thread_close_twice :
    ∃ tr s, Run (fun _ => true) tr s ∧ closers tr = [0, 1] ∧
      s.events.count (.report .closedBySelf) = 2 ∧
      (closers tr).Nodup ∧ s.events.count (.report .closedBySelf) ≤ (closers tr).length := by
  obtain ⟨r, he, hc, hn⟩ : ∃ r, exec (fun _ => true) .init closeTwiceThenDie = some r ∧
      closers r.1 = [0, 1] ∧ r.2.events.count (.report .closedBySelf) = 2 :=
    ⟨_, rfl, by decide, by decide⟩
  exact ⟨r.1, r.2, Run.of_exec he, hc, hn, close_frame_once_per_thread (Run.of_exec he)⟩

end Simplenet
