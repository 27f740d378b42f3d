import Simplenet.Sanity.ClientRun

/-! The flag tests of `is_connected`, `is_closed` and `is_dead` are linearizable: a test whose
call goes on to hand over a frame held at the instant of its first load, although its loads
interleave with other threads and the backend. -/

namespace Simplenet

open ClientState

variable {encodes : Payload → Bool}

/-- Where a flag stands in the order the tests load them. -/
def Flag.rank : Flag → Nat
  | .connected => 0
  | .closedBySelf => 1
  | .closed => 2

theorem Flag.rank_next {f f' : Flag} (h : f.next = some f') : f'.rank = f.rank + 1 := by
  cases f <;> simp only [Flag.next, Option.some.injEq, reduceCtorEq] at h <;> subst h <;> rfl

theorem Flag.rank_inj {f g : Flag} (h : f.rank = g.rank) : f = g := by
  cases f <;> cases g <;> first | rfl | cases h

theorem Flag.rank_le (f : Flag) : f.rank ≤ Flag.closed.rank := by
  cases f <;> decide

/-- The test a call makes from its load of `f` on: `is_connected` from the connected flag,
`!is_closed` from `closed_by_self`, `!is_dead` from `client_closed_signal`. -/
def ClientState.testFrom (s : ClientState) : Flag → Bool
  | .connected => s.isConnected
  | .closedBySelf => !s.isClosed
  | .closed => !s.isDead

/-- The first label a run shows of thread `t`. -/
def firstOf (t : Nat) (tr : List Label) : Option Label :=
  tr.find? fun l => l.thread? == some t

@[simp] theorem firstOf_append (t : Nat) (ls tr : List Label) :
    firstOf t (ls ++ tr) = (firstOf t ls).or (firstOf t tr) :=
  List.find?_append

theorem firstOf_eq_none {t : Nat} {ls : List Label} (h : ∀ l ∈ ls, l.thread? ≠ some t) :
    firstOf t ls = none :=
  List.find?_eq_none.2 fun l hl => by simpa using h l hl

/-- A test that fails from `f` on, past a load of `f` that passes, fails at a later flag. -/
theorem testFrom_eq_false {s : ClientState} {f : Flag} (h : s.testFrom f = false)
    (hp : s.loadPasses f = true) : ∃ g, f.rank < g.rank ∧ s.loadPasses g = false := by
  cases f with
  | connected =>
    cases hb : s.closedBySelf
    · refine ⟨.closed, by decide, ?_⟩
      simp_all [testFrom, isConnected, isClosed, isDead, loadPasses]
    · exact ⟨.closedBySelf, by decide, by simp [loadPasses, hb]⟩
  | closedBySelf =>
    refine ⟨.closed, by decide, ?_⟩
    simp_all [testFrom, isClosed, isDead, loadPasses]
  | closed => simp_all [testFrom, isDead, loadPasses]

/-- A flag past the connected one that fails a load keeps failing: no step clears it. -/
theorem loadPasses_false_of_grows {s s' : ClientState} {g : Flag} (hg : 0 < g.rank)
    (hgr : Grows s s') (h : s.loadPasses g = false) : s'.loadPasses g = false := by
  cases g with
  | connected => cases hg
  | closedBySelf => simpa [loadPasses] using hgr.closedBySelf (by simpa [loadPasses] using h)
  | closed => simpa [loadPasses] using hgr.closed (by simpa [loadPasses] using h)

section Step

variable {s s' : ClientState} {t : Nat} {ls : List Label}

/-- A step of thread `t` inside a flag test: a load that passes and moves on without a label,
the last load passing, or a refusal that returns. -/
theorem hostStep_check_cases {c : Checked} {h : Flag}
    (hs : hostStep encodes s t (.check c h) = some (s', ls)) :
    (s.loadPasses h = true ∧ ∃ h', h.next = some h' ∧ ls = [] ∧ s'.threads t = .check c h' ∧
      ∀ g, s'.loadPasses g = s.loadPasses g) ∨
    (s.loadPasses h = true ∧ h = .closed) ∨ ∃ r, ls = [.ret t r] := by
  generalize hpc : HostPc.check c h = pc at hs
  cases hostStep_move hs <;> cases hpc
  case load hp hn => exact .inl ⟨hp, _, hn, rfl, by simp [setPc], fun _ => rfl⟩
  all_goals first | exact .inr (.inl ⟨‹_›, rfl⟩) | exact .inr (.inr ⟨_, rfl⟩)

/-- A step of another thread or of the backend leaves a thread inside a call where it is. -/
theorem step_threads_other {a : Act} (hs : step encodes s a = some (s', ls)) (ha : a ≠ .host t)
    (ht : s.threads t ≠ .idle) : s'.threads t = s.threads t := by
  cases a with
  | invoke t' c =>
    obtain ⟨hi, -, ⟨-, ⟨n, rfl⟩, -⟩ | ⟨-, rfl, -⟩⟩ := step_invoke_cases hs
    · rfl
    · have : t ≠ t' := fun e => ht (e ▸ hi)
      simp [setPc, this]
  | host t' => exact (hostStep_frame hs).others t fun e => ha (e ▸ rfl)
  | backend b => rw [(backendStep_frame hs).threads]

/-- A step of another thread or of the backend shows no label of `t` while `t` is inside a
call. -/
theorem step_labels_other {a : Act} (hs : step encodes s a = some (s', ls)) (ha : a ≠ .host t)
    (ht : s.threads t ≠ .idle) : ∀ l ∈ ls, l.thread? ≠ some t := by
  cases a with
  | invoke t' c =>
    obtain ⟨hi, -, ⟨-, -, e, rfl⟩ | ⟨-, -, rfl⟩⟩ := step_invoke_cases hs
    all_goals
      have : t' ≠ t := fun e => ht (e ▸ hi)
      simp [Label.thread?, this]
  | host t' =>
    intro l hl
    rw [(hostStep_frame hs).labels l hl]
    exact fun e => ha (by cases e; rfl)
  | backend b => intro l hl; simp [(backendStep_frame hs).labels l hl]

end Step

theorem exec_cons_some {s s' : ClientState} {a : Act} {as : List Act} {tr : List Label}
    (h : exec encodes s (a :: as) = some (tr, s')) :
    ∃ s₁ ls tr₁, step encodes s a = some (s₁, ls) ∧ exec encodes s₁ as = some (tr₁, s') ∧
      tr = ls ++ tr₁ := by
  simp only [exec] at h
  split at h
  · rename_i s₁ ls hs
    obtain ⟨⟨tr₁, s₂⟩, he, hx⟩ := Option.map_eq_some'.1 h
    cases hx
    exact ⟨s₁, ls, tr₁, hs, he, rfl⟩
  · cases h

/-- A thread inside a flag test, not yet past its load of a flag that is set and is never
cleared, shows a return before any other label, whatever the schedule. -/
theorem exec_returns_first {t : Nat} {g : Flag} (hg : 0 < g.rank) {as : List Act} :
    ∀ {s s' : ClientState} {tr : List Label} {c : Checked} {h : Flag},
      s.threads t = .check c h → h.rank ≤ g.rank → s.loadPasses g = false →
      exec encodes s as = some (tr, s') → ∀ l, firstOf t tr = some l → ∃ r, l = .ret t r := by
  induction as with
  | nil => intro s s' tr c h _ _ _ he l hl; cases he; cases hl
  | cons a as ih =>
    intro s s' tr c h hpc hle hg' he l hl
    obtain ⟨s₁, ls, tr₁, hs, he₁, rfl⟩ := exec_cons_some he
    by_cases ha : a = .host t
    · subst ha
      rw [step, hpc] at hs
      rcases hostStep_check_cases hs with ⟨hp, h', hn, rfl, hpc₁, hlp⟩ | ⟨hp, rfl⟩ | ⟨r, rfl⟩
      · have hne : h.rank ≠ g.rank := fun e => by simp [Flag.rank_inj e, hg'] at hp
        have hrank : h'.rank ≤ g.rank := by have := Flag.rank_next hn; omega
        exact ih hpc₁ hrank (by rw [hlp]; exact hg') he₁ l (by simpa using hl)
      · obtain rfl := Flag.rank_inj (Nat.le_antisymm hle (Flag.rank_le g))
        simp [hg'] at hp
      · exact ⟨r, by simpa [firstOf, Label.thread?] using hl.symm⟩
    · have ht : s.threads t ≠ .idle := by simp [hpc]
      have hpc₁ := step_threads_other hs ha ht
      rw [firstOf_append, firstOf_eq_none (step_labels_other hs ha ht), Option.none_or] at hl
      exact ih (hpc₁.trans hpc) hle (loadPasses_false_of_grows hg (grows_step hs) hg') he₁ l hl

theorem flag_test_linearizes {s s' : ClientState} {as : List Act} {tr : List Label} {t : Nat}
    {c : Checked} {f : Flag} {o : Outgoing} (hpc : s.threads t = .check c f)
    (he : exec encodes s (.host t :: as) = some (tr, s'))
    (hfr : firstOf t tr = some (.frame t o)) : s.testFrom f = true := by
  by_contra hne
  have hft : s.testFrom f = false := by simpa using hne
  have hfirst : ∀ g, 0 < g.rank → f.rank ≤ g.rank → s.loadPasses g = false → False :=
    fun g hg hle hfail => by
      obtain ⟨r, hr⟩ := exec_returns_first hg hpc hle hfail he _ hfr
      cases hr
  cases hp : s.loadPasses f
  · obtain ⟨s₁, ls, tr₁, hs, -, rfl⟩ := exec_cons_some he
    rw [step, hpc] at hs
    rcases hostStep_check_cases hs with ⟨hp', -⟩ | ⟨hp', -⟩ | ⟨r, rfl⟩
    · simp [hp] at hp'
    · simp [hp] at hp'
    · simp [firstOf, Label.thread?] at hfr
  · obtain ⟨g, hlt, hg⟩ := testFrom_eq_false hft hp
    exact hfirst g (Nat.lt_of_le_of_lt (Nat.zero_le _) hlt) (Nat.le_of_lt hlt) hg

/-- Thread 0 sends on a connected client; the backend loses the connection between the
thread's load of the connected flag and its hand-over, and the message is still handed over:
`is_connected` held at the first load. -/
theorem flag_test_linearizes_lost :
    ∃ tr₀ s tr s', Run (fun _ => true) tr₀ s ∧ s.threads 0 = .check (.send []) .connected ∧
      exec (fun _ => true) s [.host 0, .backend .lose, .host 0, .host 0, .host 0] = some (tr, s') ∧
      firstOf 0 tr = some (.frame 0 (.binary (.msg []))) ∧ s.testFrom .connected = true := by
  obtain ⟨r, q, hr, hpc, hq, hf⟩ : ∃ r q,
      exec (fun _ => true) .init [.backend .connect, .invoke 0 (.send [])] = some r ∧
      r.2.threads 0 = .check (.send []) .connected ∧
      exec (fun _ => true) r.2 [.host 0, .backend .lose, .host 0, .host 0, .host 0] = some q ∧
      firstOf 0 q.1 = some (.frame 0 (.binary (.msg []))) :=
    ⟨_, _, rfl, rfl, rfl, rfl⟩
  exact ⟨r.1, r.2, q.1, q.2, Run.of_exec hr, hpc, hq, hf, flag_test_linearizes hpc hq hf⟩

end Simplenet
