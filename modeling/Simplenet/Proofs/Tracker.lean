import Simplenet.Sanity.ClientWf

/-! The pending-request tracker under any interleaving of `Client::request` with the backend:
entries are added in strictly increasing id order, each `Ok` carries its own id, and an entry
is added after a sweep only once the connected flag has been set again; after the final
sweep, never. -/

namespace Simplenet

open ClientState

variable {encodes : Payload → Bool}

def Label.addId? : Label → Option Nat
  | .add _ id => some id
  | _ => none

def Label.okId? : Label → Option Nat
  | .ret _ (.requested id) => some id
  | _ => none

/-- The ids of the tracker entries a run added, in order. -/
def addIds (tr : List Label) : List Nat := tr.filterMap Label.addId?

/-- The ids carried by the `Ok(RequestSignal)`s a run returned, in order. -/
def okIds (tr : List Label) : List Nat := tr.filterMap Label.okId?

def staleStep (b : Bool) : Label → Bool
  | .sweep _ => true
  | .setConnected => false
  | _ => b

/-- The run's last sweep came after the last time the connected flag was set. -/
def stale (tr : List Label) : Bool := tr.foldl staleStep false

theorem stale_append (l m : List Label) : stale (l ++ m) = m.foldl staleStep (stale l) :=
  List.foldl_append _ _ _ _

/-- Labels that neither add a tracker entry, return an `Ok(RequestSignal)`, sweep, nor set
the connected flag. -/
def Label.quiet : Label → Bool
  | .add _ _ | .ret _ (.requested _) | .sweep _ | .setConnected => false
  | _ => true

theorem staleStep_of_quiet {x : Label} (hx : x.quiet = true) (b : Bool) : staleStep b x = b := by
  cases x <;> first | rfl | cases hx

theorem addId_of_quiet {x : Label} (hx : x.quiet = true) : x.addId? = none := by
  cases x <;> first | rfl | cases hx

theorem okId_of_quiet {x : Label} (hx : x.quiet = true) : x.okId? = none := by
  rcases x with _ | ⟨_, _ | _⟩ <;> first | rfl | cases hx

theorem foldl_staleStep_quiet {m : List Label} (hm : ∀ x ∈ m, x.quiet = true) (b : Bool) :
    m.foldl staleStep b = b := by
  induction m generalizing b with
  | nil => rfl
  | cons x m ih =>
    rw [List.foldl_cons, staleStep_of_quiet (hm x (List.mem_cons_self _ _)),
      ih (fun y hy => hm y (List.mem_cons_of_mem _ hy))]

theorem addIds_quiet {m : List Label} (hm : ∀ x ∈ m, x.quiet = true) :
    m.filterMap Label.addId? = [] :=
  List.filterMap_eq_nil_iff.2 fun l hl => addId_of_quiet (hm l hl)

theorem okIds_quiet {m : List Label} (hm : ∀ x ∈ m, x.quiet = true) :
    m.filterMap Label.okId? = [] :=
  List.filterMap_eq_nil_iff.2 fun l hl => okId_of_quiet (hm l hl)

theorem setConnected_mem_of_foldl {mid : List Label} :
    ∀ {c : Bool}, mid.foldl staleStep c = false → c = true → .setConnected ∈ mid := by
  induction mid with
  | nil => intro c hc hct; simp_all
  | cons x mid ih =>
    intro c hc hct
    cases x <;> first
      | exact List.mem_cons_self _ _
      | exact List.mem_cons_of_mem _ (ih hc (by simp [staleStep, hct]))

/-- A sweep is followed by a set of the flag wherever the run is not stale. -/
theorem setConnected_mem_of_not_stale {pre mid : List Label} {b : Bool}
    (h : stale (pre ++ .sweep b :: mid) = false) : .setConnected ∈ mid := by
  rw [stale_append, List.foldl_cons] at h
  exact setConnected_mem_of_foldl h rfl

/-- The pcs of `request`. -/
def HostPc.inRequest : HostPc → Bool
  | .requestLock _ | .check (.request _) _ | .requestBinary _ _ | .requestAdd _ _ => true
  | _ => false

/-- The pcs of `request` after its load of the connected flag found it set. -/
def HostPc.pastConnected : HostPc → Bool
  | .check (.request _) .closedBySelf | .check (.request _) .closed
  | .requestBinary _ _ | .requestAdd _ _ => true
  | _ => false

/-- The id a thread has reserved and not yet added. -/
def HostPc.reserved? : HostPc → Option Nat
  | .requestBinary _ id | .requestAdd id _ => some id
  | _ => none

theorem HostPc.inRequest_of_pastConnected {pc : HostPc} (h : pc.pastConnected = true) :
    pc.inRequest = true := by
  rcases pc with _ | ⟨_ | _ | _ | _, _ | _ | _⟩ <;> simp_all [pastConnected, inRequest]

theorem HostPc.inRequest_of_reserved {pc : HostPc} {id : Nat} (h : pc.reserved? = some id) :
    pc.inRequest = true := by
  cases pc <;> simp_all [reserved?, inRequest]

theorem HostPc.holdsLock_of_pastConnected {pc : HostPc} (h : pc.pastConnected = true) :
    pc.holdsLock = true := by
  rcases pc with _ | ⟨_ | _ | _ | _, _ | _ | _⟩ <;> simp_all [pastConnected, holdsLock]

theorem HostPc.holdsLock_of_reserved {pc : HostPc} {id : Nat} (h : pc.reserved? = some id) :
    pc.holdsLock = true := by
  cases pc <;> simp_all [reserved?, holdsLock]

/-- Outside `request`, a host step leaves the tracker alone, stays outside `request` and
shows only quiet labels. -/
theorem hostStep_outside {s s' : ClientState} {t : Nat} {pc : HostPc} {ls : List Label}
    (h : hostStep encodes s t pc = some (s', ls)) (hpc : pc.inRequest = false) :
    s'.pendingRequests = s.pendingRequests ∧ (s'.threads t).inRequest = false ∧
      ∀ l ∈ ls, l.quiet = true := by
  have hm := hostStep_move h
  clear h
  cases hm with
  | @load c => cases c <;> simp_all [setPc, HostPc.inRequest]
  | @closeRefused d | @closeRejected d | @closeStore d =>
    cases d <;> simp_all [setPc, HostPc.inRequest, Label.quiet]
  | _ => simp_all [setPc, push, enqueue, enqueueAll, HostPc.inRequest, Label.quiet]

/-- Where a backend step can take the backend, and what it shows. -/
def BackendPc.swept : BackendPc → Bool
  | .dyingSwept | .dyingReported | .dyingSignalled | .dead => true
  | _ => false

theorem backendStep_cases {s s' : ClientState} {b : BackendAct} {ls : List Label}
    (h : backendStep s b = some (s', ls)) :
    (ls = [.setConnected] ∧ s.backend.swept = false) ∨
    (∃ f, ls = [.sweep f] ∧ s.lockHolder = none ∧ s'.backend ≠ .connected ∧
      s.backend.swept = false ∧ (f = true → s'.backend.swept = true)) ∨
    ((∀ l ∈ ls, l.quiet = true) ∧ (s'.backend = .connected → s.backend = .connected) ∧
      (s.backend.swept = true → s'.backend.swept = true)) := by
  cases backendStep_move h <;> clear h <;>
    simp_all [ClientState.enqueue, ClientState.enqueueAll, sweep, BackendPc.swept, Label.quiet]

/-- What a run keeps of the tracker protocol. -/
structure TrackerInv (s : ClientState) (tr : List Label) : Prop where
  le_counter : ∀ x ∈ addIds tr, x ≤ s.pendingRequests.requestCounter
  reserved : ∀ t id, (s.threads t).reserved? = some id →
    id = s.pendingRequests.requestCounter ∧ ∀ x ∈ addIds tr, x < id
  sorted : (addIds tr).Pairwise (· < ·)
  ok : okIds tr = addIds tr
  staleOff : stale tr = true → s.backend ≠ .connected
  fresh : ∀ t, (s.threads t).pastConnected = true → stale tr = false
  adds : Before (fun pre x => ∀ t id, x = .add t id → stale pre = false) tr
  finalSwept : .sweep true ∈ tr → s.backend.swept = true
  final : Before (fun pre x => x = .setConnected → .sweep true ∉ pre) tr

theorem trackerInv_init : TrackerInv ClientState.init [] where
  le_counter := by simp [addIds]
  reserved := by simp [ClientState.init, HostPc.reserved?]
  sorted := by simp [addIds]
  ok := rfl
  staleOff := by simp [stale]
  fresh := by simp [ClientState.init, HostPc.pastConnected]
  adds := before_nil
  finalSwept := by simp
  final := before_nil

section Step

variable {s s' : ClientState} {tr ls : List Label}

/-- A step that shows only quiet labels, reserves only the next id, never connects the
backend, and puts no thread past the connected test while the run is stale. -/
theorem trackerInv_quiet (h : TrackerInv s tr) (hls : ∀ l ∈ ls, l.quiet = true)
    (hc : s.pendingRequests.requestCounter ≤ s'.pendingRequests.requestCounter)
    (hb : s'.backend = .connected → s.backend = .connected)
    (hsw : s.backend.swept = true → s'.backend.swept = true)
    (hpast : ∀ t, (s'.threads t).pastConnected = true →
      (s.threads t).pastConnected = true ∨ stale tr = false)
    (hres : ∀ t id, (s'.threads t).reserved? = some id →
      id = s'.pendingRequests.requestCounter ∧ ∀ x ∈ addIds tr, x < id) :
    TrackerInv s' (tr ++ ls) := by
  have hst : stale (tr ++ ls) = stale tr := by rw [stale_append, foldl_staleStep_quiet hls]
  have haddIds : addIds (tr ++ ls) = addIds tr := by
    rw [addIds, List.filterMap_append, addIds_quiet hls, List.append_nil]; rfl
  have hq : ∀ pre x post, ls = pre ++ x :: post → x.quiet = true := by
    intro pre x post he; exact hls x (by rw [he]; simp)
  refine ⟨?_, ?_, ?_, ?_, ?_, ?_, ?_, ?_, ?_⟩
  · rw [haddIds]; exact fun x hx => Nat.le_trans (h.le_counter x hx) hc
  · rw [haddIds]; exact hres
  · rw [haddIds]; exact h.sorted
  · rw [haddIds, okIds, List.filterMap_append, okIds_quiet hls, List.append_nil]; exact h.ok
  · rw [hst]; exact fun hs hc' => h.staleOff hs (hb hc')
  · intro t ht
    rw [hst]
    exact (hpast t ht).elim (h.fresh t) id
  · exact before_append.2 ⟨h.adds, fun pre x post he t id hx => by
      simpa [hx, Label.quiet] using hq pre x post he⟩
  · intro hm
    rcases List.mem_append.1 hm with hm | hm
    · exact hsw (h.finalSwept hm)
    · simpa [Label.quiet] using hls _ hm
  · exact before_append.2 ⟨h.final, fun pre x post he hx => by
      simpa [hx, Label.quiet] using hq pre x post he⟩

/-- A step that moves only thread `t`, and not into the tracker's critical part unless the
run is fresh. -/
theorem trackerInv_move {t : Nat} (h : TrackerInv s tr) (hls : ∀ l ∈ ls, l.quiet = true)
    (hc : s'.pendingRequests.requestCounter = s.pendingRequests.requestCounter)
    (hb : s'.backend = s.backend) (hth : ∀ t', t' ≠ t → s'.threads t' = s.threads t')
    (hpast : (s'.threads t).pastConnected = true →
      (s.threads t).pastConnected = true ∨ stale tr = false)
    (hres : ∀ id, (s'.threads t).reserved? = some id → (s.threads t).reserved? = some id) :
    TrackerInv s' (tr ++ ls) := by
  refine trackerInv_quiet h hls (Nat.le_of_eq hc.symm) (fun h' => hb ▸ h') (fun h' => hb ▸ h')
    ?_ ?_
  · intro t' ht'
    by_cases htt : t' = t
    · subst htt; exact hpast ht'
    · rw [hth t' htt] at ht'; exact .inl ht'
  · intro t' id ht'
    rw [hc]
    by_cases htt : t' = t
    · subst htt; exact h.reserved t' id (hres id ht')
    · rw [hth t' htt] at ht'; exact h.reserved t' id ht'

/-- Only the holder of the mutex is inside `request`'s critical section. -/
theorem eq_of_holdsLock (hw : s.Wf) {t t' : Nat} (ht : (s.threads t).holdsLock = true)
    (ht' : (s.threads t').holdsLock = true) : t' = t :=
  Option.some.inj (((hw.lock t').2 ht').symm.trans ((hw.lock t).2 ht))

theorem trackerInv_invoke {t : Nat} {c : Call} (h : TrackerInv s tr)
    (hs : step encodes s (.invoke t c) = some (s', ls)) : TrackerInv s' (tr ++ ls) := by
  obtain ⟨-, -, ⟨-, ⟨n, rfl⟩, e, rfl⟩ | ⟨-, rfl, rfl⟩⟩ := step_invoke_cases hs
  · exact trackerInv_move (t := t) h (by simp [Label.quiet]) rfl rfl (fun _ _ => rfl) .inl
      fun _ => id
  · refine trackerInv_move h (by simp [Label.quiet]) rfl rfl
      (fun t' ht' => Function.update_noteq ht' _ _) ?_ ?_
    · cases c <;> simp [setPc, HostPc.entry, HostPc.pastConnected]
    · cases c <;> simp [setPc, HostPc.entry, HostPc.reserved?]

/-- `request` past its last flag load reserves the next id under the mutex, then goes on to
send the request or, when it does not serialize, returns. -/
theorem trackerInv_reserve {t : Nat} {p : Payload} {pc : HostPc} {lh : Option Nat}
    {l : List Label} (hw : s.Wf) (h : TrackerInv s tr)
    (hpc : s.threads t = .check (.request p) .closed) (hl : ∀ x ∈ l, x.quiet = true)
    (hnext : pc = .requestBinary p s.pendingRequests.reserveId.1 ∨ pc = .idle) :
    TrackerInv
      { s.setPc t pc with pendingRequests := s.pendingRequests.reserveId.2, lockHolder := lh }
      (tr ++ l) := by
  have hfresh : stale tr = false := h.fresh t (by simp [hpc, HostPc.pastConnected])
  have hother : ∀ t', t' ≠ t → (s.threads t').reserved? = none := by
    intro t' ht'
    cases hr : (s.threads t').reserved? with
    | none => rfl
    | some id =>
      exact absurd (eq_of_holdsLock hw (by simp [hpc, HostPc.holdsLock])
        (HostPc.holdsLock_of_reserved hr)) ht'
  have hlt : ∀ x ∈ addIds tr, x < s.pendingRequests.requestCounter + 1 :=
    fun x hx => Nat.lt_succ_of_le (h.le_counter x hx)
  refine trackerInv_quiet h hl (Nat.le_succ _) id id (fun _ _ => .inr hfresh) ?_
  intro t' id ht'
  by_cases htt : t' = t
  · subst htt
    rcases hnext with rfl | rfl
    · simp only [setPc, Function.update_same, HostPc.reserved?, Option.some.injEq] at ht'
      exact ⟨ht'.symm, ht' ▸ hlt⟩
    · simp [setPc, HostPc.reserved?] at ht'
  · simp [setPc, Function.update_noteq htt, hother t' htt] at ht'

/-- `add_request`: the reserved id enters the tracker, and `request` returns it. -/
theorem trackerInv_add {t id k : Nat} (hw : s.Wf) (h : TrackerInv s tr)
    (hpc : s.threads t = .requestAdd id k) :
    TrackerInv { s.setPc t .idle with
        pendingRequests := s.pendingRequests.addRequest id k, lockHolder := none }
      (tr ++ [.add t id, .ret t (.requested id)]) := by
  obtain ⟨hid, hlt⟩ := h.reserved t id (by simp [hpc, HostPc.reserved?])
  have hfresh : stale tr = false := h.fresh t (by simp [hpc, HostPc.pastConnected])
  have hst : stale (tr ++ [.add t id, .ret t (.requested id)]) = stale tr := by
    rw [stale_append]; rfl
  have haddIds : addIds (tr ++ [.add t id, .ret t (.requested id)]) = addIds tr ++ [id] := by
    simp [addIds, Label.addId?]
  have hother : ∀ t', t' ≠ t → (s.threads t').holdsLock = false := by
    intro t' ht'
    cases hl : (s.threads t').holdsLock with
    | false => rfl
    | true => exact absurd (eq_of_holdsLock hw (by simp [hpc, HostPc.holdsLock]) hl) ht'
  refine ⟨?_, ?_, ?_, ?_, ?_, ?_, ?_, ?_, ?_⟩
  · rw [haddIds]
    intro x hx
    rcases List.mem_append.1 hx with hx | hx
    · exact h.le_counter x hx
    · simp_all [PendingRequestTracker.addRequest]
  · intro t' id' ht'
    by_cases htt : t' = t
    · subst htt; simp [setPc, HostPc.reserved?] at ht'
    · simp only [setPc, Function.update_noteq htt] at ht'
      simpa [hother t' htt] using HostPc.holdsLock_of_reserved ht'
  · rw [haddIds, List.pairwise_append]
    exact ⟨h.sorted, List.pairwise_singleton _ _, fun x hx y hy => by simp_all⟩
  · rw [haddIds, okIds, List.filterMap_append, ← okIds, h.ok]; rfl
  · rw [hst]; exact h.staleOff
  · intro t' ht'
    rw [hst]
    by_cases htt : t' = t
    · exact hfresh
    · simp only [setPc, Function.update_noteq htt] at ht'
      exact h.fresh t' ht'
  · exact before_append.2 ⟨h.adds, before_cons.2 ⟨fun _ _ _ => by simpa using hfresh,
      before_cons.2 ⟨fun _ _ => nofun, before_nil⟩⟩⟩
  · intro hm
    exact h.finalSwept (by simpa using hm)
  · exact before_append.2 ⟨h.final, before_cons.2 ⟨nofun, before_cons.2 ⟨nofun, before_nil⟩⟩⟩

theorem trackerInv_host {t : Nat} (hw : s.Wf) (h : TrackerInv s tr)
    (hs : hostStep encodes s t (s.threads t) = some (s', ls)) : TrackerInv s' (tr ++ ls) := by
  have hf := hostStep_frame hs
  have hth : ∀ {pc : HostPc} t', t' ≠ t → (s.setPc t pc).threads t' = s.threads t' :=
    fun t' ht' => Function.update_noteq ht' _ _
  cases hin : (s.threads t).inRequest
  · obtain ⟨hp, hout, hq⟩ := hostStep_outside hs hin
    refine trackerInv_move h hq (by rw [hp]) hf.backend hf.others (fun h' => ?_) (fun id h' => ?_)
    · simp [HostPc.inRequest_of_pastConnected h'] at hout
    · simp [HostPc.inRequest_of_reserved h'] at hout
  generalize hpc : s.threads t = pc at hs hin
  cases hostStep_move hs with
  | requestLock =>
    exact trackerInv_move h (by simp) rfl rfl hth (by simp [setPc, HostPc.pastConnected])
      (by simp [setPc, HostPc.reserved?])
  | @load c f f' hl hn =>
    cases c <;> simp [HostPc.inRequest] at hin
    have hfresh : stale tr = false := by
      cases f with
      | connected =>
        cases hst : stale tr
        · rfl
        · exact absurd (hw.connected.1 hl) (h.staleOff hst)
      | closedBySelf => exact h.fresh t (by simp [hpc, HostPc.pastConnected])
      | closed => simp [Flag.next] at hn
    exact trackerInv_move h (by simp) rfl rfl hth (fun _ => .inr hfresh)
      (by simp [setPc, HostPc.reserved?])
  | requestChecked => exact trackerInv_reserve hw h hpc (by simp) (.inl rfl)
  | requestUnencoded => exact trackerInv_reserve hw h hpc (by simp [Label.quiet]) (.inr rfl)
  | requestRefused | requestRejected =>
    exact trackerInv_move h (by simp [Label.quiet]) rfl rfl hth
      (by simp [setPc, HostPc.pastConnected]) (by simp [setPc, HostPc.reserved?])
  | requestBinary =>
    exact trackerInv_move h (by simp [Label.quiet]) rfl rfl hth
      (fun _ => .inr (h.fresh t (by simp [hpc, HostPc.pastConnected])))
      (by simp [setPc, push, hpc, HostPc.reserved?])
  | requestAdd => exact trackerInv_add hw h hpc
  | _ => simp [HostPc.inRequest] at hin

/-- A backend step that sets the connected flag or sweeps the tracker. -/
theorem trackerInv_backendLabel {l : Label} (h : TrackerInv s tr)
    (hl : l = .setConnected ∨ ∃ f, l = .sweep f)
    (hth : s'.threads = s.threads)
    (hc : s'.pendingRequests.requestCounter = s.pendingRequests.requestCounter)
    (hstaleOff : stale (tr ++ [l]) = true → s'.backend ≠ .connected)
    (hfresh : ∀ t, (s.threads t).pastConnected = true → stale (tr ++ [l]) = false)
    (hfinalSwept : .sweep true ∈ tr ++ [l] → s'.backend.swept = true)
    (hfinal : l = .setConnected → .sweep true ∉ tr) : TrackerInv s' (tr ++ [l]) := by
  have hadd : l.addId? = none := by rcases hl with rfl | ⟨f, rfl⟩ <;> rfl
  have hok : l.okId? = none := by rcases hl with rfl | ⟨f, rfl⟩ <;> rfl
  have haddIds : addIds (tr ++ [l]) = addIds tr := by simp [addIds, hadd]
  refine ⟨?_, ?_, ?_, ?_, hstaleOff, hth ▸ hfresh, ?_, hfinalSwept, ?_⟩
  · rw [haddIds, hc]; exact h.le_counter
  · rw [haddIds, hc, hth]; exact h.reserved
  · rw [haddIds]; exact h.sorted
  · rw [haddIds, ← h.ok]; simp [okIds, hok]
  · refine before_append.2 ⟨h.adds, before_cons.2 ⟨fun t id he => ?_, before_nil⟩⟩
    rcases hl with rfl | ⟨f, rfl⟩ <;> cases he
  · exact before_append.2 ⟨h.final, before_cons.2 ⟨fun he => by simpa using hfinal he, before_nil⟩⟩

theorem trackerInv_backend {b : BackendAct} (hw : s.Wf) (h : TrackerInv s tr)
    (hs : backendStep s b = some (s', ls)) : TrackerInv s' (tr ++ ls) := by
  have hf := backendStep_frame hs
  have hfinal : s.backend.swept = false → .sweep true ∉ tr := fun hsw hm => by
    simp [h.finalSwept hm] at hsw
  rcases backendStep_cases hs with ⟨rfl, hsw⟩ | ⟨f, rfl, hfree, hb, hsw, hfin⟩ | ⟨hq, hb, hsw⟩
  · have hst : stale (tr ++ [.setConnected]) = false := by rw [stale_append]; rfl
    refine trackerInv_backendLabel h (.inl rfl) hf.threads hf.requestCounter (by simp [hst])
      (fun _ _ => hst) (fun hm => absurd (by simpa using hm) (hfinal hsw)) fun _ => hfinal hsw
  · refine trackerInv_backendLabel h (.inr ⟨f, rfl⟩) hf.threads hf.requestCounter
      (fun _ => hb) (fun t ht => ?_) ?_ (by simp)
    · have := (hw.lock t).2 (HostPc.holdsLock_of_pastConnected ht)
      simp [hfree] at this
    · intro hm
      rcases List.mem_append.1 hm with hm | hm
      · exact absurd hm (hfinal hsw)
      · exact hfin (by simpa using hm)
  · exact trackerInv_quiet h hq (Nat.le_of_eq hf.requestCounter.symm) hb hsw
      (fun t ht => .inl (hf.threads ▸ ht)) (by rw [hf.threads, hf.requestCounter]; exact h.reserved)

theorem trackerInv_step {a : Act} (hw : s.Wf) (h : TrackerInv s tr)
    (hs : step encodes s a = some (s', ls)) : TrackerInv s' (tr ++ ls) := by
  cases a with
  | invoke t c => exact trackerInv_invoke h hs
  | host t => exact trackerInv_host hw h hs
  | backend b => exact trackerInv_backend hw h hs

end Step

theorem Run.trackerInv {tr : List Label} {s : ClientState} (h : Run encodes tr s) :
    TrackerInv s tr := by
  induction h with
  | nil => exact trackerInv_init
  | snoc hr hs ih => exact trackerInv_step hr.wf ih hs

/-- The tracker protocol a run shows: entries are added in strictly increasing id order;
the `Ok(RequestSignal)`s carry the ids of the entries their calls added, so no two carry the
same id; an entry added after a sweep is added after the connected flag was set again; and
none is added after the final sweep. -/
def TrackerProtocol (tr : List Label) : Prop :=
  (addIds tr).Pairwise (· < ·) ∧ okIds tr = addIds tr ∧ (okIds tr).Nodup ∧
  (∀ pre f mid t id post, tr = pre ++ .sweep f :: (mid ++ .add t id :: post) →
    .setConnected ∈ mid) ∧
  ∀ pre post, tr = pre ++ .sweep true :: post → ∀ t id, .add t id ∉ post

theorem request_tracker_protocol {tr : List Label} {s : ClientState} (h : Run encodes tr s) :
    TrackerProtocol tr := by
  have hi := h.trackerInv
  have hadd : ∀ pre f mid t id post, tr = pre ++ .sweep f :: (mid ++ .add t id :: post) →
      .setConnected ∈ mid := fun pre f mid t id post he =>
    setConnected_mem_of_not_stale (hi.adds (pre ++ .sweep f :: mid) _ post (by simp [he]) t id rfl)
  refine ⟨hi.sorted, hi.ok, hi.ok ▸ hi.sorted.imp Nat.ne_of_lt, hadd, ?_⟩
  intro pre post he t id hm
  obtain ⟨mid, post', rfl⟩ := List.append_of_mem hm
  obtain ⟨mid₁, mid₂, rfl⟩ := List.append_of_mem (hadd pre true mid t id post' he)
  exact hi.final (pre ++ .sweep true :: mid₁) _ (mid₂ ++ .add t id :: post') (by simp [he]) rfl
    (by simp)

/-- Two requests on either side of a lost connection, then the client dies. -/
theorem request_tracker_protocol_reconnect :
    ∃ tr s, Run (fun _ => true) tr s ∧ addIds tr = [1, 2] ∧ .sweep false ∈ tr ∧
      .sweep true ∈ tr ∧ TrackerProtocol tr := by
  let request (t : Nat) : List Act := .invoke t (.request []) :: List.replicate 6 (.host t)
  let sched : List Act := [.backend .connect] ++ request 0 ++
    [.backend .lose, .backend .proceed, .backend .proceed, .backend .connect] ++ request 1 ++
    [.backend .die, .backend .proceed]
  obtain ⟨r, he, hr⟩ : ∃ r, exec (fun _ => true) .init sched = some r ∧
      addIds r.1 = [1, 2] ∧ .sweep false ∈ r.1 ∧ .sweep true ∈ r.1 := ⟨_, rfl, by decide⟩
  exact ⟨r.1, r.2, Run.of_exec he, hr.1, hr.2.1, hr.2.2, request_tracker_protocol (Run.of_exec he)⟩

end Simplenet
