import Simplenet.Sanity.ClientRun

/-! Facts of every reachable client state: the connected flag is up exactly while the backend
is connected, the mutex is held by exactly the thread inside `request`'s critical section, the
websocket client refuses host messages only once `client_closed_signal` is set, and `close`
never loads the connected flag. -/

namespace Simplenet

open ClientState

variable {encodes : Payload → Bool}

/-- The pcs inside `request`'s critical section, where the thread holds the mutex. -/
def HostPc.holdsLock : HostPc → Bool
  | .check (.request _) _ | .requestBinary _ _ | .requestAdd _ _ => true
  | _ => false

def LockInv (s : ClientState) : Prop :=
  ∀ t, s.lockHolder = some t ↔ (s.threads t).holdsLock = true

section Lock

variable {s : ClientState} {t : Nat} {pc : HostPc}

theorem lockInv_setPc (h : LockInv s) (hpc : pc.holdsLock = (s.threads t).holdsLock) :
    LockInv (s.setPc t pc) := by
  intro t'
  by_cases ht : t' = t
  · subst ht; simpa [ClientState.setPc, hpc] using h t'
  · simpa [ClientState.setPc, ht] using h t'

theorem lockInv_release (h : LockInv s) (ht : (s.threads t).holdsLock = true)
    (hpc : pc.holdsLock = false) : LockInv { s.setPc t pc with lockHolder := none } := by
  intro t'
  by_cases htt : t' = t
  · subst htt; simp [ClientState.setPc, hpc]
  · have ht' := h t'
    rw [(h t).2 ht, Option.some.injEq] at ht'
    simp only [ClientState.setPc, Function.update_noteq htt, reduceCtorEq, false_iff]
    simpa [Ne.symm htt] using ht'

theorem lockInv_acquire (h : LockInv s) (hfree : s.lockHolder = none)
    (hpc : pc.holdsLock = true) : LockInv { s.setPc t pc with lockHolder := some t } := by
  intro t'
  by_cases htt : t' = t
  · subst htt; simp [ClientState.setPc, hpc]
  · have ht' := h t'
    rw [hfree] at ht'
    simp only [ClientState.setPc, Function.update_noteq htt, Option.some.injEq]
    simpa [Ne.symm htt] using ht'

theorem lockInv_hostStep {s' : ClientState} {ls : List Label} (h : LockInv s)
    (hs : hostStep encodes s t (s.threads t) = some (s', ls)) : LockInv s' := by
  generalize hpc : s.threads t = pc at hs
  cases hostStep_move hs with
  | @load c f f' =>
    exact lockInv_setPc h (by rw [hpc]; cases c <;> rfl)
  | requestUnencoded | requestRefused | requestRejected | requestAdd =>
    exact lockInv_release h (hpc ▸ rfl) rfl
  | requestLock hl => exact lockInv_acquire h hl rfl
  | _ => exact lockInv_setPc h (hpc ▸ rfl)

end Lock

/-- `close` begins with its load of `closed_by_self`: no thread loads the connected flag
for it. -/
theorem hostStep_closeFlag {s s' : ClientState} {t : Nat} {pc : HostPc} {ls : List Label}
    (h : hostStep encodes s t pc = some (s', ls)) (d : Bool) :
    s'.threads t ≠ .check (.close d) .connected := by
  cases hostStep_move h with
  | @load c f f' _ hn =>
    have hf' : f' ≠ .connected := by cases f <;> simp [Flag.next] at hn <;> simp [← hn]
    simp [setPc, hf']
  | _ => simp [setPc, push, enqueue, enqueueAll]

structure ClientState.Wf (s : ClientState) : Prop where
  connected : s.clientConnectedSignal = true ↔ s.backend = .connected
  lock : LockInv s
  signalled : s.backend = .dyingSignalled ∨ s.backend = .dead → s.clientClosedSignal = true
  accepting : s.accepting = false → s.backend = .dead
  closeFlag : ∀ t d, s.threads t ≠ .check (.close d) .connected

theorem wf_init : ClientState.init.Wf where
  connected := by simp [ClientState.init]
  lock t := by simp [ClientState.init, HostPc.holdsLock]
  signalled := by simp [ClientState.init]
  accepting := by simp [ClientState.init]
  closeFlag := by simp [ClientState.init]

theorem wf_backendStep {s s' : ClientState} {b : BackendAct} {ls : List Label} (h : s.Wf)
    (hs : backendStep s b = some (s', ls)) : s'.Wf := by
  have hf := backendStep_frame hs
  have hl : LockInv s' := fun t => by rw [hf.lockHolder, hf.threads]; exact h.lock t
  have hcf : ∀ t d, s'.threads t ≠ .check (.close d) .connected := hf.threads ▸ h.closeFlag
  have hm := backendStep_move hs
  obtain ⟨hc, -, hsig, hacc, -⟩ := h
  clear hf hs
  cases hm <;> refine ⟨?_, hl, ?_, ?_, hcf⟩ <;> clear hl hcf <;>
    simp_all [ClientState.enqueue, ClientState.enqueueAll, sweep]

theorem wf_step {s s' : ClientState} {a : Act} {ls : List Label} (h : s.Wf)
    (hs : step encodes s a = some (s', ls)) : s'.Wf := by
  cases a with
  | invoke t c =>
    obtain ⟨hi, -, ⟨-, ⟨n, rfl⟩, -⟩ | ⟨-, rfl, -⟩⟩ := step_invoke_cases hs
    · exact ⟨h.connected, h.lock, h.signalled, h.accepting, h.closeFlag⟩
    · refine ⟨h.connected, lockInv_setPc h.lock (by rw [hi]; cases c <;> rfl), h.signalled,
        h.accepting, fun t' d => ?_⟩
      by_cases ht : t' = t
      · subst ht; cases c <;> simp [setPc, HostPc.entry]
      · simpa [setPc, ht] using h.closeFlag t' d
  | host t =>
    have hf := hostStep_frame hs
    refine ⟨by rw [hf.connected, hf.backend]; exact h.connected, lockInv_hostStep h.lock hs,
      by rw [hf.closed, hf.backend]; exact h.signalled,
      by rw [hf.accepting, hf.backend]; exact h.accepting, fun t' d => ?_⟩
    by_cases ht : t' = t
    · subst ht; exact hostStep_closeFlag hs d
    · rw [hf.others t' ht]; exact h.closeFlag t' d
  | backend b => exact wf_backendStep h hs

theorem Run.wf {tr : List Label} {s : ClientState} (h : Run encodes tr s) : s.Wf := by
  induction h with
  | nil => exact wf_init
  | snoc _ hs ih => exact wf_step ih hs

end Simplenet
