import Simplenet.Spec.ClientStep

/-! Runs of the client system and what one step touches: `HostMove` and `BackendMove` list
the moves of `hostStep` and `backendStep`, `HostFrame` and `BackendFrame` what each leaves
alone, and `Grows` what no step undoes. -/

namespace Simplenet

open ClientState

variable {encodes : Payload → Bool}

/-- A schedule that runs from a reachable state extends the run. -/
theorem run_exec {as : List Act} : ∀ {tr tr' : List Label} {s s' : ClientState},
    Run encodes tr s → exec encodes s as = some (tr', s') → Run encodes (tr ++ tr') s' := by
  induction as with
  | nil =>
    intro tr tr' s s' hr h
    cases h
    simpa using hr
  | cons a as ih =>
    intro tr tr' s s' hr h
    simp only [exec] at h
    split at h
    · rename_i s₁ ls hs
      obtain ⟨⟨r, s₂⟩, he, hrs⟩ := Option.map_eq_some'.1 h
      cases hrs
      simpa [List.append_assoc] using ih (Run.snoc hr hs) he
    · cases h

theorem Run.of_exec {as : List Act} {r : List Label × ClientState}
    (h : exec encodes ClientState.init as = some r) : Run encodes r.1 r.2 := by
  simpa using run_exec Run.nil h

/-- A call starts on an idle thread of a client not yet dropped: `next` takes the next
event at once, every other call moves the thread to its first step. -/
theorem step_invoke_cases {s s' : ClientState} {t : Nat} {c : Call} {ls : List Label}
    (h : step encodes s (.invoke t c) = some (s', ls)) :
    s.threads t = .idle ∧ s.dropped = false ∧
      ((c = .next ∧ (∃ n, s' = { s with delivered := n }) ∧
          ∃ e, ls = [.invoke t .next, .ret t (.event e)]) ∨
        (c ≠ .next ∧ s' = s.setPc t (HostPc.entry c) ∧ ls = [.invoke t c])) := by
  cases c with
  | next =>
    simp only [step, clientNext] at h
    split at h
    · rename_i hi
      refine ⟨hi.1, hi.2, .inl ⟨rfl, ?_⟩⟩
      split at h <;> cases h
      · exact ⟨⟨_, rfl⟩, _, rfl⟩
      · exact ⟨⟨s.delivered, rfl⟩, _, rfl⟩
    · cases h
  | _ =>
    simp only [step] at h
    split at h
    · rename_i hi
      cases h
      exact ⟨hi.1, hi.2, .inr ⟨nofun, rfl, rfl⟩⟩
    · cases h

/-- `P` holds of every element of `l` together with the part of `l` before it. -/
def Before {α : Type} (P : List α → α → Prop) (l : List α) : Prop :=
  ∀ pre x post, l = pre ++ x :: post → P pre x

theorem before_append {α : Type} {P : List α → α → Prop} {l m : List α} :
    Before P (l ++ m) ↔ Before P l ∧ Before (fun pre x => P (l ++ pre) x) m := by
  constructor
  · intro h
    exact ⟨fun pre x post he => h pre x (post ++ m) (by simp [he]),
      fun pre x post he => h (l ++ pre) x post (by simp [he])⟩
  · rintro ⟨hl, hm⟩ pre x post he
    rcases List.append_eq_append_iff.1 he with ⟨a, rfl, hm'⟩ | ⟨c, rfl, hc⟩
    · exact hm a x post hm'
    · cases c with
      | nil => simpa using hm [] x post (by simpa using hc.symm)
      | cons y c =>
        obtain ⟨rfl, -⟩ := List.cons.inj hc
        exact hl pre x c rfl

theorem before_nil {α : Type} {P : List α → α → Prop} : Before P [] := by
  intro pre x post he
  simp at he

theorem before_cons {α : Type} {P : List α → α → Prop} {x : α} {l : List α} :
    Before P (x :: l) ↔ P [] x ∧ Before (fun pre y => P (x :: pre) y) l := by
  constructor
  · intro h
    exact ⟨h [] x l rfl, fun pre y post he => h (x :: pre) y post (by simp [he])⟩
  · rintro ⟨hx, hl⟩ (_ | ⟨z, pre⟩) y post he
    · obtain ⟨rfl, rfl⟩ := List.cons.inj he; exact hx
    · obtain ⟨rfl, rfl⟩ := List.cons.inj he; exact hl pre y post rfl

/-- The thread a label is about; backend labels are about none. -/
def Label.thread? : Label → Option Nat
  | .invoke t _ | .ret t _ | .frame t _ | .add t _ => some t
  | _ => none

/-- A host thread's moves, one per branch of `hostStep`, with `checked` and `refuse` taken
apart per call. -/
inductive HostMove (encodes : Payload → Bool) (s : ClientState) (t : Nat) :
    HostPc → ClientState → List Label → Prop
  | load {c : Checked} {f f' : Flag} (hp : s.loadPasses f = true) (hn : f.next = some f') :
    HostMove encodes s t (.check c f) (s.setPc t (.check c f')) []
  | sendChecked {p : Payload} (hp : s.loadPasses .closed = true) (he : encodes p = true) :
    HostMove encodes s t (.check (.send p) .closed) (s.setPc t (.sendBinary p)) []
  | sendUnencoded {p : Payload} (hp : s.loadPasses .closed = true) (he : encodes p = false) :
    HostMove encodes s t (.check (.send p) .closed) (s.setPc t .idle) [.ret t .refused]
  | requestChecked {p : Payload} (hp : s.loadPasses .closed = true) (he : encodes p = true) :
    HostMove encodes s t (.check (.request p) .closed)
      { s.setPc t (.requestBinary p s.pendingRequests.reserveId.1) with
        pendingRequests := s.pendingRequests.reserveId.2 } []
  | requestUnencoded {p : Payload} (hp : s.loadPasses .closed = true) (he : encodes p = false) :
    HostMove encodes s t (.check (.request p) .closed)
      { s.setPc t .idle with pendingRequests := s.pendingRequests.reserveId.2, lockHolder := none }
      [.ret t .refused]
  | closeChecked {d : Bool} (hp : s.loadPasses .closed = true) :
    HostMove encodes s t (.check (.close d) .closed) (s.setPc t (.closeInner d)) []
  | dropChecked (hp : s.loadPasses .closed = true) :
    HostMove encodes s t (.check .drop .closed) (s.setPc t (.check (.close true) .closedBySelf)) []
  | sendRefused {p : Payload} {f : Flag} (hp : s.loadPasses f = false) :
    HostMove encodes s t (.check (.send p) f) (s.setPc t .idle) [.ret t .refused]
  | requestRefused {p : Payload} {f : Flag} (hp : s.loadPasses f = false) :
    HostMove encodes s t (.check (.request p) f) { s.setPc t .idle with lockHolder := none }
      [.ret t .refused]
  | closeRefused {d : Bool} {f : Flag} (hp : s.loadPasses f = false) :
    HostMove encodes s t (.check (.close d) f) { s.setPc t .idle with dropped := s.dropped || d }
      [.ret t (if d then .dropped else .closed)]
  | dropRefused {f : Flag} (hp : s.loadPasses f = false) :
    HostMove encodes s t (.check .drop f) { s.setPc t .idle with dropped := true } [.ret t .dropped]
  | sendBinary {p : Payload} (ha : s.accepting = true) :
    HostMove encodes s t (.sendBinary p) ((s.setPc t .idle).push (.binary (.msg p)))
      [.frame t (.binary (.msg p)), .ret t .sent]
  | sendRejected {p : Payload} (ha : s.accepting = false) :
    HostMove encodes s t (.sendBinary p) (s.setPc t .idle) [.ret t .refused]
  | requestLock {p : Payload} (hl : s.lockHolder = none) :
    HostMove encodes s t (.requestLock p)
      { s.setPc t (.check (.request p) .connected) with lockHolder := some t } []
  | requestBinary {p : Payload} {id : Nat} (ha : s.accepting = true) :
    HostMove encodes s t (.requestBinary p id)
      ((s.setPc t (.requestAdd id s.frames.length)).push (.binary (.request p id)))
      [.frame t (.binary (.request p id))]
  | requestRejected {p : Payload} {id : Nat} (ha : s.accepting = false) :
    HostMove encodes s t (.requestBinary p id) { s.setPc t .idle with lockHolder := none }
      [.ret t .refused]
  | requestAdd {id k : Nat} :
    HostMove encodes s t (.requestAdd id k)
      { s.setPc t .idle with
        pendingRequests := s.pendingRequests.addRequest id k, lockHolder := none }
      [.add t id, .ret t (.requested id)]
  | closeInner {d : Bool} (ha : s.accepting = true) :
    HostMove encodes s t (.closeInner d) ((s.setPc t (.closeSend d)).push (.close closureFrame))
      [.frame t (.close closureFrame)]
  | closeRejected {d : Bool} (ha : s.accepting = false) :
    HostMove encodes s t (.closeInner d) { s.setPc t .idle with dropped := s.dropped || d }
      [.ret t (if d then .dropped else .closed)]
  | closeSend {d : Bool} :
    HostMove encodes s t (.closeSend d)
      ((s.setPc t (.closeStore d)).enqueue (.report .closedBySelf)) []
  | closeStore {d : Bool} :
    HostMove encodes s t (.closeStore d)
      { s.setPc t .idle with closedBySelf := true, dropped := s.dropped || d }
      [.ret t (if d then .dropped else .closed)]

/-- `close` and `drop` end alike: the thread returns, and `drop` also drops the client. -/
theorem finishClose_eq (s : ClientState) (t : Nat) (d : Bool) :
    finishClose s t d =
      ({ s.setPc t .idle with dropped := s.dropped || d },
        [.ret t (if d then .dropped else .closed)]) := by
  cases d
  · simp [finishClose]; rfl
  · simp [finishClose]

section Host

variable {s s' : ClientState} {t : Nat} {pc : HostPc} {ls : List Label}


theorem hostStep_move (h : hostStep encodes s t pc = some (s', ls)) :
    HostMove encodes s t pc s' ls := by
  cases pc with
  | idle => cases h
  | check c f =>
    simp only [hostStep] at h
    split at h
    · rename_i hp
      split at h
      · cases h; exact .load hp ‹_›
      · obtain rfl : f = .closed := by cases f <;> simp_all [Flag.next]
        cases c with
        | send p =>
          simp only [checked] at h
          split at h <;> cases h
          · exact .sendChecked hp ‹_›
          · rename_i he
            exact .sendUnencoded hp (by simpa using he)
        | request p =>
          simp only [checked] at h
          split at h <;> cases h
          · exact .requestChecked hp ‹_›
          · rename_i he
            exact .requestUnencoded hp (by simpa using he)
        | close d => cases h; exact .closeChecked hp
        | drop => cases h; exact .dropChecked hp
    · rename_i hp
      have hp : s.loadPasses f = false := by simpa using hp
      cases c with
      | send p => cases h; exact .sendRefused hp
      | request p => cases h; exact .requestRefused hp
      | close d =>
        rw [refuse, finishClose_eq] at h
        cases h; exact .closeRefused hp
      | drop => cases h; exact .dropRefused hp
  | sendBinary p =>
    simp only [hostStep] at h
    split at h <;> cases h
    · exact .sendBinary ‹_›
    · rename_i ha
      exact .sendRejected (by simpa using ha)
  | requestLock p =>
    simp only [hostStep] at h
    split at h <;> cases h
    exact .requestLock ‹_›
  | requestBinary p id =>
    simp only [hostStep] at h
    split at h <;> cases h
    · exact .requestBinary ‹_›
    · rename_i ha
      exact .requestRejected (by simpa using ha)
  | requestAdd id k => cases h; exact .requestAdd
  | closeInner d =>
    simp only [hostStep] at h
    split at h
    · cases h; exact .closeInner ‹_›
    · rename_i ha
      rw [finishClose_eq] at h
      cases h; exact .closeRejected (by simpa using ha)
  | closeSend d => cases h; exact .closeSend
  | closeStore d =>
    simp only [hostStep, finishClose_eq] at h
    cases h; exact .closeStore


theorem HostMove.hostStep (h : HostMove encodes s t pc s' ls) :
    hostStep encodes s t pc = some (s', ls) := by
  cases h <;> simp_all [Simplenet.hostStep, checked, refuse, finishClose_eq, Flag.next, setPc]

theorem enqueue_events (s : ClientState) (e : ClientEvent) :
    (s.enqueue e).events = s.events ∨ (s.enqueue e).events = s.events ++ [e] := by
  unfold enqueue enqueueAll; split <;> simp

end Host

/-- A host step of thread `t` writes only the host side of the state, never clears a flag,
enqueues at most a `ClosedBySelf` report, and shows only labels of `t`, none of them a
call. -/
structure HostFrame (t : Nat) (s s' : ClientState) (ls : List Label) : Prop where
  connected : s'.clientConnectedSignal = s.clientConnectedSignal
  closed : s'.clientClosedSignal = s.clientClosedSignal
  backend : s'.backend = s.backend
  accepting : s'.accepting = s.accepting
  written : s'.written = s.written
  closedBySelf : s.closedBySelf = true → s'.closedBySelf = true
  dropped : s.dropped = true → s'.dropped = true
  events : s'.events = s.events ∨ s'.events = s.events ++ [.report .closedBySelf]
  others : ∀ t', t' ≠ t → s'.threads t' = s.threads t'
  labels : ∀ l ∈ ls, l.thread? = some t
  noInvoke : ∀ t' c, Label.invoke t' c ∉ ls

theorem hostStep_frame {s s' : ClientState} {t : Nat} {pc : HostPc} {ls : List Label}
    (h : hostStep encodes s t pc = some (s', ls)) : HostFrame t s s' ls := by
  have hm := hostStep_move h
  clear h
  cases hm <;>
    exact ⟨rfl, rfl, rfl, rfl, rfl, fun h => by first | exact h | rfl,
      fun h => by first | exact h | rfl | simp [h],
      by first | exact .inl rfl | exact enqueue_events _ _,
      fun t' ht => Function.update_noteq ht _ _,
      by first
        | exact List.forall_mem_nil _
        | exact List.forall_mem_singleton.2 rfl
        | exact List.forall_mem_cons.2 ⟨rfl, List.forall_mem_singleton.2 rfl⟩,
      fun _ _ h => by simp only [List.mem_cons, List.not_mem_nil, reduceCtorEq, or_false] at h⟩

/-- The backend's moves, one per branch of `backendStep`. -/
inductive BackendMove (s : ClientState) : ClientState → List Label → Prop
  | connect (hb : s.backend = .connecting) :
    BackendMove s ({ s with clientConnectedSignal := true, backend := .connected }.enqueue
      (.report .connected)) [.setConnected]
  | reconnect (hb : s.backend = .reconnecting) :
    BackendMove s ({ s with clientConnectedSignal := true, backend := .connected }.enqueue
      (.report .connected)) [.setConnected]
  | lose (hb : s.backend = .connected) :
    BackendMove s { s with clientConnectedSignal := false, backend := .lostCleared }
      [.clearConnected]
  | closedByServer (hb : s.backend = .connected) :
    BackendMove s ({ s with clientConnectedSignal := false, backend := .dyingCleared }.enqueue
      (.report .closedByServer)) [.clearConnected]
  | dieConnecting (hb : s.backend = .connecting) :
    BackendMove s { s with clientConnectedSignal := false, backend := .dyingCleared }
      [.clearConnected]
  | dieConnected (hb : s.backend = .connected) :
    BackendMove s { s with clientConnectedSignal := false, backend := .dyingCleared }
      [.clearConnected]
  | dieReconnecting (hb : s.backend = .reconnecting) :
    BackendMove s { s with clientConnectedSignal := false, backend := .dyingCleared }
      [.clearConnected]
  | lostSweep (hb : s.backend = .lostCleared) (hl : s.lockHolder = none) :
    BackendMove s (sweep s .lostSwept) [.sweep false]
  | lostReport (hb : s.backend = .lostSwept) :
    BackendMove s ({ s with backend := .reconnecting }.enqueue (.report .disconnected)) []
  | dyingSweep (hb : s.backend = .dyingCleared) (hl : s.lockHolder = none) :
    BackendMove s (sweep s .dyingSwept) [.sweep true]
  | dyingReport (hb : s.backend = .dyingSwept) :
    BackendMove s ({ s with backend := .dyingReported }.enqueue (.report .isDead)) []
  | dyingSignal (hb : s.backend = .dyingReported) :
    BackendMove s { s with clientClosedSignal := true, backend := .dyingSignalled } []
  | dyingStop (hb : s.backend = .dyingSignalled) :
    BackendMove s { s with accepting := false, backend := .dead } []
  | write {k : Nat} (hb : s.backend = .connected) (hk : k < s.frames.length) (hw : k ∉ s.written) :
    BackendMove s { s with written := s.written ++ [k] } []
  | msg {p : Payload} (hb : s.backend = .connected) : BackendMove s (s.enqueue (.msg p)) []
  | answer {id : Nat} {e : ClientEvent} (hb : s.backend = .connected) (hl : s.lockHolder = none)
      (he : (∃ p, e = .response p id) ∨ e = .ack id ∨ e = .reject id)
      (hp : (s.pendingRequests.resolve id).1 = true) :
    BackendMove s ({ s with pendingRequests := (s.pendingRequests.resolve id).2 }.enqueue e) []
  | answerLate {id : Nat} (hb : s.backend = .connected) (hl : s.lockHolder = none)
      (hp : (s.pendingRequests.resolve id).1 = false) : BackendMove s s []

section Backend

variable {s s' : ClientState} {b : BackendAct} {ls : List Label}

theorem receive_answer_move {id : Nat} {e : ClientEvent} (hb : s.backend = .connected)
    (he : (∃ p, e = .response p id) ∨ e = .ack id ∨ e = .reject id)
    (h : receive.answer s id e = some s') : BackendMove s s' [] := by
  unfold receive.answer at h
  split at h
  · rename_i hl
    cases hp : (s.pendingRequests.resolve id).1 <;> simp only [hp] at h <;> cases h
    · exact .answerLate hb hl hp
    · exact .answer hb hl he hp
  · cases h

theorem backendStep_move (h : backendStep s b = some (s', ls)) : BackendMove s s' ls := by
  cases b with
  | receive m =>
    simp only [backendStep] at h
    split at h
    · rename_i hb
      obtain ⟨s₁, hr, he⟩ := Option.map_eq_some'.1 h
      cases he
      cases m with
      | msg p => cases hr; exact .msg hb
      | response p id => exact receive_answer_move hb (.inl ⟨p, rfl⟩) hr
      | ack id => exact receive_answer_move hb (.inr (.inl rfl)) hr
      | reject id => exact receive_answer_move hb (.inr (.inr rfl)) hr
    · cases h
  | connect =>
    simp only [backendStep] at h
    split at h <;> cases h
    · exact .connect ‹_›
    · exact .reconnect ‹_›
  | lose =>
    simp only [backendStep] at h
    split at h <;> cases h
    exact .lose ‹_›
  | closedByServer =>
    simp only [backendStep] at h
    split at h <;> cases h
    exact .closedByServer ‹_›
  | die =>
    simp only [backendStep] at h
    split at h <;> cases h
    · exact .dieConnecting ‹_›
    · exact .dieConnected ‹_›
    · exact .dieReconnecting ‹_›
  | proceed =>
    simp only [backendStep] at h
    split at h
    · split at h <;> cases h; exact .lostSweep ‹_› ‹_›
    · cases h; exact .lostReport ‹_›
    · split at h <;> cases h; exact .dyingSweep ‹_› ‹_›
    · cases h; exact .dyingReport ‹_›
    · cases h; exact .dyingSignal ‹_›
    · cases h; exact .dyingStop ‹_›
    · cases h
  | write k =>
    simp only [backendStep] at h
    split at h <;> cases h
    rename_i hc
    exact .write hc.1 hc.2.1 hc.2.2

theorem BackendMove.backendStep (h : BackendMove s s' ls) :
    ∃ b, backendStep s b = some (s', ls) := by
  cases h with
  | connect hb | reconnect hb => exact ⟨.connect, by simp [backendStep, hb]⟩
  | lose hb => exact ⟨.lose, by simp [backendStep, hb]⟩
  | closedByServer hb => exact ⟨.closedByServer, by simp [backendStep, hb]⟩
  | dieConnecting hb | dieConnected hb | dieReconnecting hb =>
    exact ⟨.die, by simp [backendStep, hb]⟩
  | lostSweep hb hl => exact ⟨.proceed, by simp [backendStep, hb, hl]⟩
  | lostReport hb => exact ⟨.proceed, by simp [backendStep, hb]⟩
  | dyingSweep hb hl => exact ⟨.proceed, by simp [backendStep, hb, hl]⟩
  | dyingReport hb => exact ⟨.proceed, by simp [backendStep, hb]⟩
  | dyingSignal hb => exact ⟨.proceed, by simp [backendStep, hb]⟩
  | dyingStop hb => exact ⟨.proceed, by simp [backendStep, hb]⟩
  | @write k hb hk hw => exact ⟨.write k, by simp [backendStep, hb, hk, hw]⟩
  | @msg p hb => exact ⟨.receive (.msg p), by simp [backendStep, receive, hb]⟩
  | @answer id e hb hl he hp =>
    rcases he with ⟨p, rfl⟩ | rfl | rfl
    · exact ⟨.receive (.response p id), by simp [backendStep, receive, receive.answer, hb, hl, hp]⟩
    · exact ⟨.receive (.ack id), by simp [backendStep, receive, receive.answer, hb, hl, hp]⟩
    · exact ⟨.receive (.reject id), by simp [backendStep, receive, receive.answer, hb, hl, hp]⟩
  | @answerLate id hb hl hp =>
    exact ⟨.receive (.ack id), by simp [backendStep, receive, receive.answer, hb, hl, hp]⟩

end Backend

/-- A backend step leaves the host threads, the mutex and the host's flags alone, never
clears `client_closed_signal` or takes an event back, and shows only backend labels. -/
structure BackendFrame (s s' : ClientState) (ls : List Label) : Prop where
  threads : s'.threads = s.threads
  lockHolder : s'.lockHolder = s.lockHolder
  closedBySelf : s'.closedBySelf = s.closedBySelf
  dropped : s'.dropped = s.dropped
  frames : s'.frames = s.frames
  requestCounter : s'.pendingRequests.requestCounter = s.pendingRequests.requestCounter
  closed : s.clientClosedSignal = true → s'.clientClosedSignal = true
  events : s.events <+: s'.events
  labels : ∀ l ∈ ls, l.thread? = none

theorem backendStep_frame {s s' : ClientState} {b : BackendAct} {ls : List Label}
    (h : backendStep s b = some (s', ls)) : BackendFrame s s' ls := by
  cases backendStep_move h <;>
    exact ⟨rfl, rfl, rfl, rfl, rfl, rfl, by first | exact id | exact fun _ => rfl,
      by first | exact List.prefix_refl _ | exact prefix_enqueueAll_events _ _, by decide⟩

/-- What no step undoes. -/
structure Grows (s s' : ClientState) : Prop where
  closedBySelf : s.closedBySelf = true → s'.closedBySelf = true
  closed : s.clientClosedSignal = true → s'.clientClosedSignal = true
  dropped : s.dropped = true → s'.dropped = true
  events : s.events <+: s'.events

theorem grows_step {s s' : ClientState} {a : Act} {ls : List Label}
    (h : step encodes s a = some (s', ls)) : Grows s s' := by
  cases a with
  | invoke t c =>
    cases c <;> simp only [step, clientNext] at h <;> repeat' split at h
    all_goals cases h <;> constructor <;> simp [ClientState.setPc]
  | host t =>
    have hf := hostStep_frame h
    exact ⟨hf.closedBySelf, fun h' => hf.closed ▸ h', hf.dropped,
      by rcases hf.events with he | he <;> simp [he]⟩
  | backend b =>
    have hf := backendStep_frame h
    exact ⟨fun h' => hf.closedBySelf ▸ h', hf.closed, fun h' => hf.dropped ▸ h', hf.events⟩

end Simplenet
