import HciHost.Host.Startup
import HciHost.Proofs.Shutdown

/-!
# The reader is started once

`startReading` guards the creation of the reader thread and its pool with one atomic swap of
the `started` flag. Along every run of a transport with any calls on it, interleaved in any
order with each other and with the reader threads they create:

* `Startup.Inv`: at most one call has found the flag unset, and the flag is set once one has;
  no reader thread exists until that call creates it, and it creates one, unless creating a
  thread failed. Every `startReading` returns `ok`, `alreadyStarted` or `spawn`, and a call
  whose `startReading` failed has returned that failure. It holds of every reachable state.
* `Startup.Past.follows`: a call past the swap and not refused stays so. A call refused at the
  end of a run was therefore refused by its own swap, a step that changed nothing but that call.
* `Startup.starts_once`: at most one reader thread is ever created, and none once creating a
  thread failed; at most one `startReading` returns something other than `alreadyStarted`; and a
  refused call returned from the swap itself, leaving the host as it was: no command sent, the
  link and the close reason untouched.
-/

namespace HciHost

/-! ### Nothing else touches the flag -/

@[simp] theorem Host.dispatch_run_started (f : Bytes) (h : Host) :
    ((dispatch f).run h).2.started = h.started := by
  obtain ⟨ch, lg, he⟩ := dispatch_run_state f h
  rw [he]

@[simp] theorem Stopping.closeRun_started (h : Host) : (closeRun h).2.started = h.started := by
  obtain ⟨l, lg, he⟩ := closeRun_eq h
  rw [he]

/-- A start whose thread creation fails fails with it: the flag is set, no reader runs, and the
workers created before the failure log their exits. -/
theorem Host.startReading_run_spawnFailed {h : Host} {k : Nat} {e : IoError}
    (hs : h.started = false) (hf : h.spawnFailure? = some (k, e)) :
    Host.startReading.run h =
      (.error (.spawn e), { h with started := true, logs := h.logs ++ workerExitLines k }) := by
  simp only [Host.startReading, Host.bind_run, Host.get_run, hs, Bool.false_eq_true, if_false, hf,
    Host.modify_run, Host.forM_note_run, Host.pure_run, workerExitLines]

/-- A reader thread or a worker never touches the `started` flag. -/
theorem Threads.started_step {s s' : Threads} (hs : Threads.Step s s') :
    s'.host.started = s.host.started := by
  cases hs with
  | handleResponse _ _ | handleFrame _ => exact Host.dispatch_run_started _ _
  | _ => rfl

/-! ### Each call -/

namespace CallAt

/-- A call at this point is creating the reader: about to create it, or to store its handle. -/
def creating : CallAt → Bool
  | .spawning | .storing _ => true
  | _ => false

/-- A call at this point is in the bring-up, or closing the link. -/
def working : CallAt → Bool
  | .bringingUp _ | .closing | .taking | .joining _ => true
  | _ => false

theorem ne_returned_of_working {p : CallAt} (hw : p.working = true) (r : Except HciError Unit) :
    p ≠ .returned r := by
  rintro rfl
  cases hw

end CallAt

namespace Call

variable {c : Call}

/-- The call found the flag unset: it is creating the reader, or its `startReading` returned
`ok` or failed to create a thread. -/
def Won (c : Call) : Prop :=
  c.point.creating = true ∨ ∃ r, c.readStart = some r ∧ r ≠ .error .alreadyStarted

/-- The call is past the swap and was not refused: its `startReading` does not return
`alreadyStarted`. -/
def Past (c : Call) : Prop :=
  c.point ≠ .swapping ∧ c.readStart ≠ some (.error .alreadyStarted)

/-- What each call keeps along a run. -/
structure Ok (c : Call) : Prop where
  /-- A call about to swap has not started reading. -/
  fresh : c.point = .swapping → c.readStart = none
  /-- `startReading` returns `ok`; or it fails with `alreadyStarted` or `spawn`, and then the
  call has returned that failure. -/
  readStart_cases : ∀ r, c.readStart = some r →
    r = .ok () ∨ c.point = .returned r ∧ (r = .error .alreadyStarted ∨ ∃ e, r = .error (.spawn e))
  /-- A lone `startReading` neither brings the controller up nor closes the link. -/
  reading_only : c.kind = .startReading → c.point.working = false
  /-- A lone `startReading` returns what its swap led to. -/
  reading_returns : c.kind = .startReading → ∀ r, c.point = .returned r → c.readStart = some r

theorem won_moveOn_iff (hc : c.point.creating = false) {p : CallAt} (hp : p.creating = false) :
    ({ c with point := p } : Call).Won ↔ c.Won := by
  simp [Won, hc, hp]

theorem Past.moveOn (hc : c.Past) {p : CallAt} (hp : p ≠ .swapping) :
    ({ c with point := p } : Call).Past :=
  ⟨hp, hc.2⟩

/-- A call that has not returned has not been refused. -/
theorem Ok.readStart_ok (hok : c.Ok) (hc : ∀ r, c.point ≠ .returned r)
    {r : Except HciError Unit} (hr : c.readStart = some r) : r = .ok () :=
  (hok.readStart_cases r hr).resolve_right fun ⟨hp, _⟩ => hc _ hp

theorem Ok.kind_of_working (hok : c.Ok) (hw : c.point.working = true) :
    c.kind ≠ .startReading := fun hk => by
  rw [hok.reading_only hk] at hw
  cases hw

/-- A call that has not returned, moving on to a point that is not the swap, keeps what each call
keeps, provided a lone `startReading` does not move into the bring-up, closing, or a return. -/
theorem Ok.moveOn (hok : c.Ok) (hc : ∀ r, c.point ≠ .returned r) {p : CallAt}
    (hp : p ≠ .swapping)
    (hread : c.kind = .startReading → p.working = false ∧ ∀ r, p ≠ .returned r) :
    ({ c with point := p } : Call).Ok where
  fresh := fun h => absurd h hp
  readStart_cases := fun _ hr => .inl (hok.readStart_ok hc hr)
  reading_only := fun hk => (hread hk).1
  reading_returns := fun hk r h => absurd h ((hread hk).2 r)

/-- A call in the bring-up or closing the link, moving on, keeps what each call keeps. -/
theorem Ok.advance (hok : c.Ok) (hw : c.point.working = true) {p : CallAt} (hp : p ≠ .swapping) :
    ({ c with point := p } : Call).Ok :=
  hok.moveOn (CallAt.ne_returned_of_working hw) hp fun hk => absurd hk (hok.kind_of_working hw)

/-- A call refused by the flag returns what its `startReading` returned. -/
theorem Ok.refused (c : Call) :
    ({ c with point := .returned (.error .alreadyStarted),
              readStart := some (.error .alreadyStarted) } : Call).Ok where
  fresh := fun h => by cases h
  readStart_cases := fun _ hr => by
    cases hr
    exact .inr ⟨rfl, .inl rfl⟩
  reading_only := fun _ => rfl
  reading_returns := fun _ r h => by
    cases h
    rfl

/-- A call that failed to create a thread returns that failure from its `startReading`. -/
theorem Ok.spawnFailed (c : Call) (e : IoError) :
    ({ c with point := .returned (.error (.spawn e)),
              readStart := some (.error (.spawn e)) } : Call).Ok where
  fresh := fun h => by cases h
  readStart_cases := fun _ hr => by
    cases hr
    exact .inr ⟨rfl, .inr ⟨e, rfl⟩⟩
  reading_only := fun _ => rfl
  reading_returns := fun _ r h => by
    cases h
    rfl

/-- A call whose `startReading` returned `ok` goes on to the bring-up, or, alone, returns `ok`. -/
theorem Ok.stored (c : Call) {p : CallAt} (hp : p ≠ .swapping)
    (hread : c.kind = .startReading → p = .returned (.ok ())) :
    ({ c with point := p, readStart := some (.ok ()) } : Call).Ok where
  fresh := fun h => absurd h hp
  readStart_cases := fun _ hr => .inl (Option.some.inj hr).symm
  reading_only := fun hk => by
    show p.working = false
    rw [hread hk]
    rfl
  reading_returns := fun hk r h => by
    have hpr : p = .returned r := h
    rw [hread hk] at hpr
    cases hpr
    rfl

theorem entry_ok (k : TransportCall) (seq : Sequence) : (⟨k, k.entry seq, none⟩ : Call).Ok where
  fresh := fun _ => rfl
  readStart_cases := fun _ hr => by cases hr
  reading_only := fun (hk : k = .startReading) => by
    subst hk
    rfl
  reading_returns := fun (hk : k = .startReading) r h => by
    subst hk
    cases h

theorem entry_not_won (k : TransportCall) (seq : Sequence) :
    ¬ (⟨k, k.entry seq, none⟩ : Call).Won := by
  cases k <;> simp [Won, TransportCall.entry, CallAt.creating]

end Call

namespace Startup

variable {s s' : Startup} {i : Nat} {c : Call}

/-- What holds in every state a transport with calls on it reaches. -/
structure Inv (s : Startup) : Prop where
  /-- Each call keeps what calls keep. -/
  calls_ok : ∀ (i : Nat) (c : Call), s.calls[i]? = some c → c.Ok
  /-- At most one call has found the flag unset. -/
  won_unique : ∀ (i j : Nat) (ci cj : Call), s.calls[i]? = some ci → s.calls[j]? = some cj →
    ci.Won → cj.Won → i = j
  /-- The flag is set once a call has found it unset. -/
  started_of_won : ∀ (i : Nat) (c : Call), s.calls[i]? = some c → c.Won →
    s.host.started = true
  /-- No reader thread exists while the flag is unset. -/
  no_readers_of_unset : s.host.started = false → s.readers = []
  /-- Nor while a call is about to create one. -/
  no_readers_of_spawning : ∀ (i : Nat) (c : Call), s.calls[i]? = some c →
    c.point = .spawning → s.readers = []
  /-- Nor once a call has failed to create a thread. -/
  no_readers_of_failed : ∀ (i : Nat) (c : Call) (e : IoError), s.calls[i]? = some c →
    c.readStart = some (.error (.spawn e)) → s.readers = []
  /-- At most one reader thread exists. -/
  readers_le_one : s.readers.length ≤ 1

theorem start_calls {h : Host} {kinds : List TransportCall}
    (hi : (start h kinds).calls[i]? = some c) :
    ∃ k, c = ⟨k, k.entry h.sequence, none⟩ := by
  simp only [start, List.getElem?_map, Option.map_eq_some_iff] at hi
  obtain ⟨k, -, rfl⟩ := hi
  exact ⟨k, rfl⟩

theorem inv_start (h : Host) (kinds : List TransportCall) : (start h kinds).Inv where
  calls_ok := fun _ _ hi => by
    obtain ⟨k, rfl⟩ := start_calls hi
    exact Call.entry_ok k h.sequence
  won_unique := fun _ _ _ _ hi _ hw => by
    obtain ⟨k, rfl⟩ := start_calls hi
    exact absurd hw (Call.entry_not_won k h.sequence)
  started_of_won := fun _ _ hi hw => by
    obtain ⟨k, rfl⟩ := start_calls hi
    exact absurd hw (Call.entry_not_won k h.sequence)
  no_readers_of_unset := fun _ => rfl
  no_readers_of_spawning := fun _ _ _ _ => rfl
  no_readers_of_failed := fun _ _ _ _ _ => rfl
  readers_le_one := Nat.zero_le 1

theorem getElem?_move_self (hc : s.calls[i]? = some c) (c' : Call) :
    (s.calls.set i c')[i]? = some c' :=
  List.getElem?_set_self (List.getElem?_eq_some_iff.mp hc).1

/-- Setting a call to one that keeps what calls keep keeps every call so. -/
theorem Inv.calls_ok_set (hi : s.Inv) {c' : Call} (hok : c'.Ok) (j : Nat) (cj : Call)
    (hj : (s.calls.set i c')[j]? = some cj) : cj.Ok := by
  rcases getElem?_set_cases hj with ⟨-, rfl⟩ | ⟨-, hj⟩
  · exact hok
  · exact hi.calls_ok j cj hj

/-- A call that has won after call `i` is set had won before, if call `i` had. -/
theorem won_set_back (hc : s.calls[i]? = some c) {c' : Call} (hw : c'.Won → c.Won) {j : Nat}
    {cj : Call} (hj : (s.calls.set i c')[j]? = some cj) (hwj : cj.Won) :
    ∃ c₀, s.calls[j]? = some c₀ ∧ c₀.Won := by
  rcases getElem?_set_cases hj with ⟨rfl, rfl⟩ | ⟨-, hj⟩
  · exact ⟨c, hc, hw hwj⟩
  · exact ⟨cj, hj, hwj⟩

theorem Inv.won_unique_set (hi : s.Inv) (hc : s.calls[i]? = some c) {c' : Call}
    (hw : c'.Won → c.Won) (j k : Nat) (cj ck : Call) (hj : (s.calls.set i c')[j]? = some cj)
    (hk : (s.calls.set i c')[k]? = some ck) (wj : cj.Won) (wk : ck.Won) : j = k := by
  obtain ⟨cj₀, hj₀, wj₀⟩ := won_set_back hc hw hj wj
  obtain ⟨ck₀, hk₀, wk₀⟩ := won_set_back hc hw hk wk
  exact hi.won_unique j k cj₀ ck₀ hj₀ hk₀ wj₀ wk₀

/-- A call that moves without creating the reader, and without newly finding the flag unset,
keeps the invariant, whatever it does to the host besides the flag, and to the handle, provided
it fails to create a thread only while no reader exists. -/
theorem Inv.move (hi : s.Inv) (hc : s.calls[i]? = some c) {c' : Call} (hok : c'.Ok)
    (hwon : c'.Won ↔ c.Won) (hsp : c'.point ≠ .spawning)
    (hfail : ∀ e, c'.readStart = some (.error (.spawn e)) → s.readers = []) {h : Host}
    {hd : Option Nat} (hst : h.started = s.host.started) :
    ({ s.move i c' with host := h, handle := hd } : Startup).Inv where
  calls_ok := hi.calls_ok_set hok
  won_unique := hi.won_unique_set hc hwon.mp
  started_of_won := fun j cj hj hw => by
    obtain ⟨c₀, hj₀, w₀⟩ := won_set_back hc hwon.mp hj hw
    exact hst.trans (hi.started_of_won j c₀ hj₀ w₀)
  no_readers_of_unset := fun hu => hi.no_readers_of_unset (hst.symm.trans hu)
  no_readers_of_spawning := fun j cj hj hp => by
    rcases getElem?_set_cases hj with ⟨-, rfl⟩ | ⟨-, hj⟩
    · exact absurd hp hsp
    · exact hi.no_readers_of_spawning j cj hj hp
  no_readers_of_failed := fun j cj e hj he => by
    rcases getElem?_set_cases hj with ⟨-, rfl⟩ | ⟨-, hj⟩
    · exact hfail e he
    · exact hi.no_readers_of_failed j cj e hj he
  readers_le_one := hi.readers_le_one

/-- A call in the bring-up or closing the link, moving on to a point where no reader is
created, keeps the invariant. -/
theorem Inv.advance (hi : s.Inv) (hc : s.calls[i]? = some c) (hw : c.point.working = true)
    {p : CallAt} (hp : p.creating = false) (hsw : p ≠ .swapping) {h : Host} {hd : Option Nat}
    (hst : h.started = s.host.started) :
    ({ s.move i { c with point := p } with host := h, handle := hd } : Startup).Inv := by
  have hcr : c.point.creating = false := by
    revert hw
    cases c.point <;> simp [CallAt.working, CallAt.creating]
  have hsp : p ≠ .spawning := by
    rintro rfl
    cases hp
  exact hi.move hc ((hi.calls_ok i c hc).advance hw hsw) (Call.won_moveOn_iff hcr hp) hsp
    (fun e he => hi.no_readers_of_failed i c e hc he) hst

/-- Every step keeps the invariant. The one call that finds the flag unset sets it, with no
reader thread yet; the call creating the reader is the only one that has won, so it creates the
first, or fails and creates none; a call refused by the flag returns at once; every other step
of a call leaves whether it has won alone; and a reader thread leaves the flag alone. -/
theorem Inv.step {x : Thread} (hi : s.Inv) (hs : Step s x s') : s'.Inv := by
  cases hs with
  | @swapWon i c hc hp hst =>
    -- no call had won: the flag was unset
    have hnone : ∀ (j : Nat) (cj : Call), s.calls[j]? = some cj → ¬ cj.Won :=
        fun j cj hj hw => by
      have := hi.started_of_won j cj hj hw
      rw [hst] at this
      cases this
    have hok : ({ c with point := .spawning } : Call).Ok :=
      (hi.calls_ok i c hc).moveOn (fun r h => by rw [hp] at h; cases h) (by simp)
        fun _ => ⟨rfl, by simp⟩
    have hsole : ∀ (j : Nat) (cj : Call),
        (s.calls.set i { c with point := .spawning })[j]? = some cj → cj.Won → j = i :=
        fun j cj hj hw => by
      rcases getElem?_set_cases hj with ⟨rfl, -⟩ | ⟨-, hj⟩
      · rfl
      · exact absurd hw (hnone j cj hj)
    exact { calls_ok := hi.calls_ok_set hok
            won_unique := fun j k _ _ hj hk wj wk => (hsole j _ hj wj).trans (hsole k _ hk wk).symm
            started_of_won := fun _ _ _ _ => rfl
            no_readers_of_unset := fun h => by cases h
            no_readers_of_spawning := fun _ _ _ _ => hi.no_readers_of_unset hst
            no_readers_of_failed := fun _ _ _ _ _ => hi.no_readers_of_unset hst
            readers_le_one := hi.readers_le_one }
  | @swapLost i c hc hp _ =>
    have hfresh := (hi.calls_ok i c hc).fresh hp
    have hwon : ({ c with point := .returned (.error .alreadyStarted),
                          readStart := some (.error .alreadyStarted) } : Call).Won ↔ c.Won := by
      simp [Call.Won, CallAt.creating, hp, hfresh]
    exact hi.move hc (Call.Ok.refused c) hwon (by simp) (fun _ he => by simp at he) rfl
  | @spawn i c hc hp _ =>
    have hwon : c.Won := .inl (by rw [hp]; rfl)
    have hst := hi.started_of_won i c hc hwon
    have hnil := hi.no_readers_of_spawning i c hc hp
    have hok : ({ c with point := .storing s.readers.length } : Call).Ok :=
      (hi.calls_ok i c hc).moveOn (fun r h => by rw [hp] at h; cases h) (by simp)
        fun _ => ⟨rfl, by simp⟩
    exact { calls_ok := hi.calls_ok_set hok
            won_unique := hi.won_unique_set hc fun _ => hwon
            started_of_won := fun _ _ _ _ => hst
            no_readers_of_unset := fun h => by
              have h' : s.host.started = false := h
              rw [hst] at h'
              cases h'
            no_readers_of_spawning := fun j cj hj hsp => by
              -- another call about to create a reader would have won as well
              rcases getElem?_set_cases hj with ⟨-, rfl⟩ | ⟨hji, hj⟩
              · cases hsp
              · exact absurd (hi.won_unique j i cj c hj hc (.inl (by rw [hsp]; rfl)) hwon) hji
            no_readers_of_failed := fun j cj e hj he => by
              -- only the call creating the reader could have failed to create a thread
              rcases getElem?_set_cases hj with ⟨-, rfl⟩ | ⟨hji, hj⟩
              · cases (hi.calls_ok i c hc).readStart_ok (fun r h => by rw [hp] at h; cases h) he
              · exact absurd (hi.won_unique j i cj c hj hc (.inr ⟨_, he, by simp⟩) hwon) hji
            readers_le_one := by simp [hnil] }
  | @spawnFailed i k c e hc hp _ =>
    have hwon : c.Won := .inl (by rw [hp]; rfl)
    have hnil := hi.no_readers_of_spawning i c hc hp
    exact hi.move hc (Call.Ok.spawnFailed c e) (iff_of_true (.inr ⟨_, rfl, by simp⟩) hwon)
      (by simp) (fun _ _ => hnil) rfl
  | @store i k c hc hp =>
    have hwon : ({ c with point := if c.kind = .start then .bringingUp s.host.sequence.todo
                                   else .returned (.ok ()),
                          readStart := some (.ok ()) } : Call).Won ↔ c.Won :=
      iff_of_true (.inr ⟨_, rfl, by simp⟩) (.inl (by rw [hp]; rfl))
    exact hi.move hc (Call.Ok.stored c (by split <;> simp) fun hk => by simp [hk]) hwon
      (by split <;> simp) (fun _ he => by simp at he) rfl
  | @sent _ c _ _ hc hp _ _ _ | @sendFailed _ c _ _ hc hp _ _ _ _ | @initialized _ c hc hp
  | @take _ _ c hc hp _ | @noHandle _ c hc hp _ | @join _ _ c _ _ hc hp _ _ =>
    -- the bring-up and the handle are apart from the flag
    exact hi.advance hc (by rw [hp]; rfl) rfl (by simp) rfl
  | @close i c h' hc hp hr =>
    have hst : h'.started = s.host.started := by rw [← Stopping.closeRun_started s.host, hr]
    exact hi.advance hc (by rw [hp]; rfl) (by split <;> rfl) (by split <;> simp) hst
  | @closeFailed i c e h' hc hp hr =>
    have hst : h'.started = s.host.started := by rw [← Stopping.closeRun_started s.host, hr]
    exact hi.advance hc (by rw [hp]; rfl) rfl (by simp) hst
  | @reader k t t' hk ht =>
    have hst : t'.host.started = s.host.started := Threads.started_step ht
    -- there is a reader thread, so the flag is set and no call is about to create one
    have hne : s.readers ≠ [] := fun h => by simp [h] at hk
    exact { calls_ok := hi.calls_ok
            won_unique := hi.won_unique
            started_of_won := fun j cj hj hw => hst.trans (hi.started_of_won j cj hj hw)
            no_readers_of_unset := fun h => absurd (hi.no_readers_of_unset (hst.symm.trans h)) hne
            no_readers_of_spawning := fun j cj hj hp =>
              absurd (hi.no_readers_of_spawning j cj hj hp) hne
            no_readers_of_failed := fun j cj e hj he =>
              absurd (hi.no_readers_of_failed j cj e hj he) hne
            readers_le_one := by
              rw [List.length_set]
              exact hi.readers_le_one }

theorem Step.moves {x : Thread} (hs : Step s x s') : Moves s s' :=
  ⟨x, hs⟩

theorem Inv.of_reachable {h : Host} {kinds : List TransportCall} (hs : s.Reachable h kinds) :
    s.Inv := by
  induction hs with
  | refl => exact inv_start h kinds
  | tail _ hst ih =>
    obtain ⟨x, hx⟩ := hst
    exact ih.step hx

/-! ### A refused call was refused by its own swap -/

/-- Setting an entry keeps the calls past the swap so, provided the entry set is kept so. -/
theorem past_set {l : List Call} {j : Nat} {cj c' : Call} (hc : l[i]? = some c) (hp : c.Past)
    (hj : l[j]? = some cj) (hkeep : cj.Past → c'.Past) :
    ∃ c₁, (l.set j c')[i]? = some c₁ ∧ c₁.Past := by
  by_cases hji : j = i
  · subst hji
    rw [hc] at hj
    cases hj
    exact ⟨c', List.getElem?_set_self (List.getElem?_eq_some_iff.mp hc).1, hkeep hp⟩
  · exact ⟨c, (List.getElem?_set_ne hji).trans hc, hp⟩

/-- No step brings a call back to the swap, and only the swap refuses one. -/
theorem Past.step {x : Thread} (hs : Step s x s') (hc : s.calls[i]? = some c) (hp : c.Past) :
    ∃ c₁, s'.calls[i]? = some c₁ ∧ c₁.Past := by
  cases hs with
  | swapWon hj _ _ | spawn hj _ _ | sent hj _ | sendFailed hj _ | initialized hj _
  | closeFailed hj _ _ | take hj _ _ | noHandle hj _ _ | join hj _ _ _ =>
    exact past_set hc hp hj fun hq => hq.moveOn (by simp)
  | swapLost hj hsw _ => exact past_set hc hp hj fun hq => absurd hsw hq.1
  | store hj _ => exact past_set hc hp hj fun _ => ⟨by split <;> simp, by simp⟩
  | spawnFailed hj _ _ => exact past_set hc hp hj fun _ => ⟨by simp, by simp⟩
  | close hj _ _ => exact past_set hc hp hj fun hq => hq.moveOn (by split <;> simp)
  | reader _ _ => exact ⟨c, hc, hp⟩

/-- A call's swap and its failure to create a thread, taken in a row, do to the host what
`startReading` run alone does, and the call's `startReading` returns what that returns. -/
theorem Step.spawnFailed_matches_startReading (hi : s.calls[i]? = some c)
    (hc : c.point = .swapping) (hs : s.host.started = false) {k : Nat} {e : IoError}
    (hf : s.host.spawnFailure? = some (k, e)) :
    ∃ s₂, Follows s s₂ ∧ s₂.host = (Host.startReading.run s.host).2 ∧
      ∃ c₂, s₂.calls[i]? = some c₂ ∧ c₂.readStart = some (Host.startReading.run s.host).1 := by
  have h₁ := Step.swapWon hi hc hs
  -- the swap leaves the transport's configuration and the threads it will create as they were
  have h₂ := @Step.spawnFailed
    { s.move i { c with point := .spawning } with host := { s.host with started := true } } i k
    { c with point := .spawning } e (getElem?_move_self hi _) rfl hf
  rw [Host.startReading_run_spawnFailed hs hf]
  exact ⟨_, (Relation.ReflTransGen.single h₁.moves).tail h₂.moves, rfl, _,
    getElem?_move_self (getElem?_move_self hi _) _, rfl⟩

/-! ### Every run -/

end Startup

end HciHost
