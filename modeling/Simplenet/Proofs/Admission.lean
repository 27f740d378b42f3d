import Simplenet.Spec.ServerStep

/-! The connection cap under concurrent admission: in every reachable state the counter is
the number of installed sessions and at most `max_connections`, however many upgrade
requests pass prevalidation before the worker installs one. -/

namespace Simplenet

variable {protocolVersion : String} {authenticator : Authenticator} {config : ServerConfig}

/-- What every reachable server state keeps of its sessions. -/
structure AdmissionInv (config : ServerConfig) (s : ServerState) : Prop where
  counter : s.connectionCounter = s.live.length
  cap : s.live.length ≤ config.maxConnections

section Step

variable {s s' : ServerState}

theorem admissionInv_init : AdmissionInv config ServerState.init where
  counter := rfl
  cap := Nat.zero_le _

/-- Ending installed session `i` keeps the counter on the sessions. -/
theorem AdmissionInv.eraseIdx (h : AdmissionInv config s) {i : Nat} (hi : i < s.live.length)
    (hc : s'.connectionCounter = s.connectionCounter - 1) (hl : s'.live = s.live.eraseIdx i) :
    AdmissionInv config s' := by
  have hlen : (s.live.eraseIdx i).length = s.live.length - 1 := List.length_eraseIdx_of_lt hi
  have := h.cap
  exact ⟨by rw [hc, hl, hlen, h.counter], by rw [hl, hlen]; omega⟩

theorem AdmissionInv.closePrior (h : AdmissionInv config s) (id : Nat) :
    AdmissionInv config (closePrior s id) := by
  unfold Simplenet.closePrior onDisconnect
  split
  · split
    · rename_i hi
      exact h.eraseIdx (List.getElem?_eq_some_iff.1 hi).1 rfl rfl
    · exact h
  · exact h

theorem admissionInv_step {a : ServerAct} (hi : AdmissionInv config s)
    (h : serverStep protocolVersion authenticator config s a = some s') :
    AdmissionInv config s' := by
  cases serverStep_move h with
  | @install conn _ _ _ hc =>
    have hp := hi.closePrior conn.clientId
    refine ⟨?_, ?_⟩ <;> simp only [List.length_append, List.length_singleton, ← hp.counter]
    omega
  | @overCap conn _ _ _ _ =>
    have hp := hi.closePrior conn.clientId
    exact ⟨hp.counter, hp.cap⟩
  | @terminate i _ _ hl => exact hi.eraseIdx (List.getElem?_eq_some_iff.1 hl).1 rfl rfl
  | _ => exact ⟨hi.counter, hi.cap⟩

end Step

theorem ServerRun.admissionInv {s : ServerState}
    (h : ServerRun protocolVersion authenticator config s) : AdmissionInv config s := by
  induction h with
  | init => exact admissionInv_init
  | step _ hs ih => exact admissionInv_step ih hs

theorem connection_cap {s : ServerState} (h : ServerRun protocolVersion authenticator config s) :
    s.numConnections ≤ config.maxConnections := by
  have hi := h.admissionInv
  rw [ServerState.numConnections, hi.counter]
  exact hi.cap

/-- With a cap of one, two upgrade requests both pass prevalidation before the worker takes
either; the worker installs the first and closes the second. -/
def raceSchedule : List ServerAct :=
  [.upgradeRequest ⟨"v1", "native", .none 1, []⟩, .upgradeRequest ⟨"v1", "native", .none 2, []⟩,
    .onConnect, .onConnect]

theorem raceSchedule_exec :
    (∃ s, serverExec "v1" ⟨fun _ => true⟩ ⟨1, 0, 0⟩ .init (raceSchedule.take 2) = some s ∧
      s.upgraded.length = 2) ∧
    ∃ s, serverExec "v1" ⟨fun _ => true⟩ ⟨1, 0, 0⟩ .init raceSchedule = some s ∧
      s.upgraded = [] ∧ s.events = [.connected 1 []] :=
  ⟨⟨_, rfl, by decide⟩, _, rfl, by decide⟩

theorem connection_cap_race :
    ∃ s₁ s₂, ServerRun "v1" ⟨fun _ => true⟩ ⟨1, 0, 0⟩ s₁ ∧ s₁.upgraded.length = 2 ∧
      ServerRun "v1" ⟨fun _ => true⟩ ⟨1, 0, 0⟩ s₂ ∧ s₂.upgraded = [] ∧
      s₂.events = [.connected 1 []] ∧ s₂.numConnections ≤ 1 := by
  obtain ⟨⟨s₁, he₁, h₁⟩, s₂, he₂, h₂⟩ := raceSchedule_exec
  have hr₂ := ServerRun.of_exec .init he₂
  exact ⟨s₁, s₂, ServerRun.of_exec .init he₁, h₁, hr₂, h₂.1, h₂.2, connection_cap hr₂⟩

end Simplenet
