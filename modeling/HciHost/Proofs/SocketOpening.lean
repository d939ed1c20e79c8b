import HciHost.Socket.Open
import HciHost.Bench.Socket
import HciHost.Proofs.Deliveries

/-!
# Opening the first device that opens

`Host.openFirst devs ch` tries the devices of `devs` in order, each with `Host.openOn ch`, and
keeps the first socket that opens. The kernel is any kernel: each of its answers may depend on
every call made before it (`KernelAnswers`).

One attempt on a device goes one of four ways (`Attempt`): `socket` fails; it gives a
descriptor and `bind` fails; on the raw channel, the socket binds and installing the filter
fails; or the socket opens. `Attempt.Answered` says which way the kernel's answers send it.
`Attempt.calls` is the kernel calls the attempt makes: a failed attempt closes the descriptor it
obtained, once, and an opened one closes nothing. `Attempt.result` is what it gives: the socket,
or the error of the call that failed, with that call's errno.

* `Host.openOn_run`: an attempt makes the calls of the attempt the kernel answered and gives its
  result; of the rest of the host only the log changes.
* `Tried`: the attempts of a whole run, one per device and in order, each answered after the
  calls of those before it; every attempt but the last failed, and the devices run out unless
  the last attempt opened.
* `Host.openFirstFrom_run`: trying the devices makes exactly such attempts, and gives the last
  one's result, or the failure it started from when there are no devices.
* `Bench.closed_socket_runs`: closing a socket releases no descriptor; after it, whatever the
  host and the controller do, every read gives zero bytes and every write fails as not
  connected.
* `Host.openFirst_tries_in_order`: the two together for `openFirst`, with each attempt closing
  the descriptor it obtained once if it failed, and no other.
-/

namespace HciHost

/-- How one attempt to open a device went, as the kernel answered it. -/
inductive Attempt where
  /-- `socket` failed. -/
  | noSocket (e : Errno)
  /-- `socket` gave `fd`, and binding it failed. -/
  | unbound (fd : Nat) (e : Errno)
  /-- `socket` gave `fd`, it bound, and installing the filter failed. -/
  | unfiltered (fd : Nat) (e : Errno)
  /-- `socket` gave `fd`, and the socket opened. -/
  | opened (fd : Nat)
  deriving DecidableEq

namespace Attempt

/-- The `socket` call that starts every attempt. -/
def socketCall : KernelCall := .socket afBluetooth sockRaw true btprotoHci

/-- Binding descriptor `fd` to device `dev` on channel `ch`. -/
def bindCall (fd dev : Nat) (ch : HciChannel) : KernelCall :=
  .bind fd afBluetooth dev ch.value sockaddrHciLength

/-- Installing the filter that passes everything on descriptor `fd`. -/
def filterCall (fd : Nat) : KernelCall :=
  .setFilter fd solHci hciFilterOption hciFilterLength .passAll

/-- The kernel calls of an attempt on device `dev` over channel `ch`. -/
def calls (ch : HciChannel) (dev : Nat) : Attempt → List KernelCall
  | .noSocket _ => [socketCall]
  | .unbound fd _ => [socketCall, bindCall fd dev ch, .close fd]
  | .unfiltered fd _ => [socketCall, bindCall fd dev ch, filterCall fd, .close fd]
  | .opened fd =>
    match ch with
    | .raw => [socketCall, bindCall fd dev ch, filterCall fd]
    | .user => [socketCall, bindCall fd dev ch]

/-- What an attempt on device `dev` gives. -/
def result (dev : Nat) : Attempt → Except HciError HciSocket
  | .noSocket e => .error (.socket (.os e))
  | .unbound _ e => .error (.bind (.os e))
  | .unfiltered _ e => .error (.socket (.os e))
  | .opened fd => .ok ⟨fd, dev⟩

/-- Whether the attempt opened a socket. -/
def opens : Attempt → Bool
  | .opened _ => true
  | _ => false

/-- The descriptor the attempt obtained from `socket`, if it obtained one. -/
def fd? : Attempt → Option Nat
  | .noSocket _ => none
  | .unbound fd _ | .unfiltered fd _ | .opened fd => some fd

/-- The kernel `K`, after the calls `hist`, answers an attempt on device `dev` over channel
`ch` this way. -/
def Answered (K : KernelAnswers) (hist : List KernelCall) (ch : HciChannel) (dev : Nat) :
    Attempt → Prop
  | .noSocket e => K.socket hist = .error e
  | .unbound fd e =>
    K.socket hist = .ok fd ∧ K.bind (hist ++ [socketCall]) fd dev ch.value = some e
  | .unfiltered fd e =>
    ch = .raw ∧ K.socket hist = .ok fd ∧ K.bind (hist ++ [socketCall]) fd dev ch.value = none ∧
      K.setFilter (hist ++ [socketCall, bindCall fd dev ch]) fd = some e
  | .opened fd =>
    K.socket hist = .ok fd ∧ K.bind (hist ++ [socketCall]) fd dev ch.value = none ∧
      (ch = .raw → K.setFilter (hist ++ [socketCall, bindCall fd dev ch]) fd = none)

theorem result_eq_ok_iff {a : Attempt} {dev : Nat} {s : HciSocket} :
    a.result dev = .ok s ↔ ∃ fd, a = .opened fd ∧ s = ⟨fd, dev⟩ := by
  cases a <;> simp [result, eq_comm]

theorem opens_eq_false_iff {a : Attempt} {dev : Nat} :
    a.opens = false ↔ ∃ e, a.result dev = .error e := by
  cases a <;> simp [opens, result]

/-- The descriptor an attempt obtained is closed once by its calls if the attempt failed, and
not at all if it opened. -/
theorem count_close_calls {a : Attempt} {fd : Nat} (ch : HciChannel) (dev : Nat)
    (hfd : a.fd? = some fd) : (a.calls ch dev).count (.close fd) = if a.opens then 0 else 1 := by
  cases a with
  | noSocket e => cases hfd
  | unbound fd' e =>
    cases hfd
    simp [calls, opens, socketCall, bindCall]
  | unfiltered fd' e =>
    cases hfd
    simp [calls, opens, socketCall, bindCall, filterCall]
  | opened fd' =>
    cases hfd
    cases ch <;> simp [calls, opens, socketCall, bindCall, filterCall]

/-- An attempt closes no descriptor but its own. -/
theorem fd?_of_close_mem {a : Attempt} {ch : HciChannel} {dev x : Nat}
    (h : KernelCall.close x ∈ a.calls ch dev) : a.fd? = some x := by
  cases a with
  | noSocket e => simp [calls, socketCall] at h
  | unbound fd e => simp [calls, socketCall, bindCall, fd?] at h ⊢; exact h.symm
  | unfiltered fd e => simp [calls, socketCall, bindCall, filterCall, fd?] at h ⊢; exact h.symm
  | opened fd => cases ch <;> simp [calls, socketCall, bindCall, filterCall] at h

/-- The attempts `as` that trying the devices `devs` in order makes on a kernel answering `K`,
after the calls `hist`: one attempt per device, in order, each answered after the calls of those
before it. The first attempt that opens is the last one; if none opens, every device is
tried. -/
inductive Tried (K : KernelAnswers) (ch : HciChannel) :
    List KernelCall → List Nat → List Attempt → Prop
  /-- No device is left. -/
  | done (hist : List KernelCall) : Tried K ch hist [] []
  /-- The attempt on the next device opens, and the trying stops. -/
  | opened {hist : List KernelCall} {dev fd : Nat} {devs : List Nat}
      (ha : (Attempt.opened fd).Answered K hist ch dev) :
      Tried K ch hist (dev :: devs) [.opened fd]
  /-- The attempt on the next device fails, and the trying goes on with the devices after it. -/
  | failed {hist : List KernelCall} {dev : Nat} {devs : List Nat} {a : Attempt}
      {as : List Attempt} (ha : a.Answered K hist ch dev) (hf : a.opens = false)
      (hr : Tried K ch (hist ++ a.calls ch dev) devs as) :
      Tried K ch hist (dev :: devs) (a :: as)

/-- The kernel calls of the attempts `as` on the devices `devs`, in order. -/
def trace (ch : HciChannel) (devs : List Nat) (as : List Attempt) : List KernelCall :=
  (List.zipWith (calls ch) devs as).flatten

/-- The result of the last of the attempts `as` on the devices `devs`, or the error `none` when
there are no attempts. -/
def outcome (none : HciError) (devs : List Nat) (as : List Attempt) :
    Except HciError HciSocket :=
  ((List.zipWith result devs as).getLast?).getD (.error none)

theorem trace_cons (ch : HciChannel) (dev : Nat) (devs : List Nat) (a : Attempt)
    (as : List Attempt) : trace ch (dev :: devs) (a :: as) = a.calls ch dev ++ trace ch devs as := by
  simp [trace]

/-- After a failed attempt, the outcome is that of the attempts after it, with the failure as
the last one so far. -/
theorem outcome_cons_of_error {a : Attempt} {dev : Nat} {e : HciError} (hr : a.result dev = .error e)
    (none : HciError) (devs : List Nat) (as : List Attempt) :
    outcome none (dev :: devs) (a :: as) = outcome e devs as := by
  simp [outcome, List.getLast?_cons, hr]

end Attempt

namespace Host

/-- The host after the kernel calls `cs`. -/
def withCalls (h : Host) (cs : List KernelCall) : Host :=
  { h with kernel := { h.kernel with calls := h.kernel.calls ++ cs } }

theorem kernelCall_run (f : Kernel → α × Kernel) (h : Host) :
    (kernelCall f).run h = ((f h.kernel).1, { h with kernel := (f h.kernel).2 }) :=
  rfl

theorem release_run (s : HciSocket) (h : Host) :
    (release s).run h = ((), h.withCalls [.close s.fd]) :=
  rfl

section Attempts

variable {h : Host} {dev fd : Nat} {ch : HciChannel} {e : Errno}

theorem openChannel_noSocket (hs : h.kernel.answers.socket h.kernel.calls = .error e) :
    (openChannel dev ch).run h = (.error (.socket (.os e)), h.withCalls [Attempt.socketCall]) := by
  simp only [openChannel, bind_run, kernelCall_run, Kernel.socket, hs]
  rfl

theorem openChannel_unbound (hs : h.kernel.answers.socket h.kernel.calls = .ok fd)
    (hb : h.kernel.answers.bind (h.kernel.calls ++ [Attempt.socketCall]) fd dev ch.value = some e) :
    (openChannel dev ch).run h =
      (.error (.bind (.os e)),
        h.withCalls [Attempt.socketCall, Attempt.bindCall fd dev ch, .close fd]) := by
  simp only [openChannel, bind_run, kernelCall_run, Kernel.socket, hs]
  rw [Kernel.bind_of_fails hb]
  simp only [bind_run, release_run, withCalls, Kernel.record, List.append_assoc, List.cons_append,
    List.nil_append]
  rfl

/-- The line a socket that binds logs. -/
def openedLine (dev : Nat) (ch : HciChannel) : LogLine :=
  ⟨.info, "opened hci" ++ toString dev ++ " on " ++ ch.name ++ " channel"⟩

theorem openChannel_bound (hs : h.kernel.answers.socket h.kernel.calls = .ok fd)
    (hb : h.kernel.answers.bind (h.kernel.calls ++ [Attempt.socketCall]) fd dev ch.value = none) :
    (openChannel dev ch).run h =
      (.ok ⟨fd, dev⟩, { h.withCalls [Attempt.socketCall, Attempt.bindCall fd dev ch] with
                          logs := h.logs ++ [openedLine dev ch] }) := by
  simp only [openChannel, bind_run, kernelCall_run, Kernel.socket, hs]
  rw [Kernel.bind_of_binds hb]
  simp only [bind_run, note_run, withCalls, Kernel.record, List.append_assoc, List.cons_append,
    List.nil_append]
  rfl

theorem setPassAllFilter_fails {s : HciSocket}
    (hf : h.kernel.answers.setFilter h.kernel.calls s.fd = some e) :
    (setPassAllFilter s).run h = (.error (.socket (.os e)), h.withCalls [Attempt.filterCall s.fd]) := by
  simp only [setPassAllFilter, bind_run, kernelCall_run]
  rw [Kernel.setFilter_of_fails hf]
  rfl

theorem setPassAllFilter_sets {s : HciSocket}
    (hf : h.kernel.answers.setFilter h.kernel.calls s.fd = none) :
    (setPassAllFilter s).run h = (.ok (), h.withCalls [Attempt.filterCall s.fd]) := by
  simp only [setPassAllFilter, bind_run, kernelCall_run]
  rw [Kernel.setFilter_of_sets hf]
  rfl

/-- One attempt on device `dev` makes the kernel calls of the attempt the kernel answered and
gives that attempt's result; of the rest of the host only the log changes. -/
theorem openOn_run (ch : HciChannel) (dev : Nat) (h : Host) :
    ∃ a : Attempt, a.Answered h.kernel.answers h.kernel.calls ch dev ∧
      ∃ lg, (openOn ch dev).run h = (a.result dev, { h.withCalls (a.calls ch dev) with logs := lg }) := by
  cases hs : h.kernel.answers.socket h.kernel.calls with
  | error e =>
    refine ⟨.noSocket e, hs, h.logs, ?_⟩
    cases ch with
    | raw =>
      simp only [openOn, openRaw, bind_run, openChannel_noSocket hs]
      rfl
    | user => exact openChannel_noSocket hs
  | ok fd =>
    cases hb : h.kernel.answers.bind (h.kernel.calls ++ [Attempt.socketCall]) fd dev ch.value with
    | some e =>
      refine ⟨.unbound fd e, ⟨hs, hb⟩, h.logs, ?_⟩
      cases ch with
      | raw =>
        simp only [openOn, openRaw, bind_run, openChannel_unbound hs hb]
        rfl
      | user => exact openChannel_unbound hs hb
    | none =>
      cases ch with
      | user => exact ⟨.opened fd, ⟨hs, hb, nofun⟩, _, openChannel_bound hs hb⟩
      | raw =>
        -- the raw channel also installs the filter, after the two calls of the channel
        have hc : (h.withCalls [Attempt.socketCall, Attempt.bindCall fd dev .raw]).kernel.calls =
            h.kernel.calls ++ [Attempt.socketCall, Attempt.bindCall fd dev .raw] := rfl
        cases hf : h.kernel.answers.setFilter
            (h.kernel.calls ++ [Attempt.socketCall, Attempt.bindCall fd dev .raw]) fd with
        | some e =>
          refine ⟨.unfiltered fd e, ⟨rfl, hs, hb, hf⟩, h.logs ++ [openedLine dev .raw], ?_⟩
          simp only [openOn, openRaw, bind_run, openChannel_bound hs hb]
          rw [setPassAllFilter_fails (hc ▸ hf)]
          simp only [bind_run, release_run, withCalls, List.append_assoc, List.cons_append,
            List.nil_append]
          rfl
        | none =>
          refine ⟨.opened fd, ⟨hs, hb, fun _ => hf⟩, h.logs ++ [openedLine dev .raw], ?_⟩
          simp only [openOn, openRaw, bind_run, openChannel_bound hs hb]
          rw [setPassAllFilter_sets (hc ▸ hf)]
          simp only [withCalls, List.append_assoc, List.cons_append, List.nil_append]
          rfl

/-- Trying the devices after a failure `last` makes the attempts `Tried` describes, with their
kernel calls, and gives the last attempt's result, or `last` when there are no devices. -/
theorem openFirstFrom_run (ch : HciChannel) (devs : List Nat) (last : HciError) (h : Host) :
    ∃ as, Attempt.Tried h.kernel.answers ch h.kernel.calls devs as ∧ ∃ lg,
      (openFirstFrom ch devs last).run h =
        (Attempt.outcome last devs as, { h.withCalls (Attempt.trace ch devs as) with logs := lg }) := by
  induction devs generalizing h last with
  | nil =>
    refine ⟨[], .done _, h.logs, ?_⟩
    simp [openFirstFrom, Attempt.outcome, Attempt.trace, withCalls]
  | cons dev devs ih =>
    obtain ⟨a, ha, lg, hrun⟩ := openOn_run ch dev h
    cases hr : a.result dev with
    | ok s =>
      -- the first socket that opens ends the trying
      obtain ⟨fd, rfl, rfl⟩ := Attempt.result_eq_ok_iff.1 hr
      refine ⟨[.opened fd], .opened ha, lg, ?_⟩
      simp only [openFirstFrom, bind_run, hrun, hr]
      simp [Attempt.outcome, Attempt.trace, Attempt.result]
    | error e =>
      have hf : a.opens = false := Attempt.opens_eq_false_iff.2 ⟨e, hr⟩
      -- the failure is logged, and the devices after it are tried with it as the last failure
      obtain ⟨as, hts, lg', hrun'⟩ := ih e
        { h.withCalls (a.calls ch dev) with
          logs := lg ++ [⟨.debug, "hci" ++ toString dev ++ " unavailable: " ++ e.message⟩] }
      refine ⟨a :: as, .failed ha hf hts, lg', ?_⟩
      simp only [openFirstFrom, bind_run, hrun, hr, note_run]
      rw [hrun', Attempt.outcome_cons_of_error hr, Attempt.trace_cons]
      simp only [withCalls, List.append_assoc]

end Attempts

end Host

/-! ### Closing a socket -/

namespace Link

theorem take_kind (l : Link) : l.take.2.kind = l.kind := by
  unfold take
  split <;> rfl

theorem take_closed (l : Link) : l.take.2.closed = l.closed := by
  unfold take
  split <;> rfl

variable {l : Link} {s : HciSocket}

/-- A closed socket reads zero bytes and stays as it is. -/
theorem read_of_closed (hk : l.kind = .socket s) (hc : l.closed = true) (n : Nat) :
    l.read n = (.bytes [], l) := by
  simp [read, hk, hc]

/-- A closed socket refuses every write as not connected. -/
theorem refuseWrite_of_closed (hk : l.kind = .socket s) (hc : l.closed = true) :
    l.refuseWrite = some (.custom .notConnected "HCI socket closed", l) := by
  simp [refuseWrite, hk, hc]

end Link

namespace Bench

/-- What a step on a closed socket answers: a read gives zero bytes, a write fails as not
connected. -/
def ClosedAnswer : SocketStep → SocketValue → Prop
  | .read _, v => v = .read (.ok [])
  | .write _, v => v = .written (.error (.custom .notConnected "HCI socket closed"))
  | _, _ => True

section Closed

variable {s : HciSocket} {h : Host}

/-- Closing a socket marks it closed and releases nothing: no kernel call is made. -/
theorem closeLink_socket (hk : h.link.kind = .socket s) :
    ∃ lg, Host.closeLink.run h = (.ok (), { h with link := { h.link with closed := true }, logs := lg }) := by
  cases hc : h.link.closed
  · refine ⟨h.logs ++ [⟨.debug, "closing hci" ++ toString s.dev⟩], ?_⟩
    simp only [Host.closeLink, Host.bind_run, Host.get_run, hk, hc, Bool.false_eq_true, if_false,
      Host.note_run, Host.modify_run, Host.pure_run]
  · refine ⟨h.logs, ?_⟩
    simp only [Host.closeLink, Host.bind_run, Host.get_run, hk, hc, if_true, Host.modify_run,
      Host.pure_run]

/-- A step on a closed socket leaves it closed, calls no kernel, and answers as closed. -/
theorem perform_closed (hk : h.link.kind = .socket s) (hc : h.link.closed = true)
    (st : SocketStep) :
    ∃ v h', (st.perform s).run h = (v, h') ∧ h'.link.kind = .socket s ∧ h'.link.closed = true ∧
      h'.kernel = h.kernel ∧ ∀ sv, v = .ok sv → ClosedAnswer st sv := by
  rcases hrun : (st.perform s).run h with ⟨v, h'⟩
  refine ⟨v, h', rfl, ?_⟩
  cases st with
  | devId =>
    obtain ⟨rfl, rfl⟩ := Prod.mk.inj hrun
    exact ⟨hk, hc, rfl, fun _ _ => trivial⟩
  | controllerSend f =>
    simp only [SocketStep.perform, controllerGone, Host.bind_run, Host.get_run, Host.pure_run] at hrun
    cases hg : h.link.hungUp
    · simp only [hg, Bool.false_eq_true, if_false, Host.bind_run, Host.modify_run,
        Host.pure_run] at hrun
      obtain ⟨rfl, rfl⟩ := Prod.mk.inj hrun
      exact ⟨hk, hc, rfl, fun _ _ => trivial⟩
    · simp only [hg, if_true, Host.pure_run] at hrun
      obtain ⟨rfl, rfl⟩ := Prod.mk.inj hrun
      exact ⟨hk, hc, rfl, fun _ _ => trivial⟩
  | controllerRecv =>
    simp only [SocketStep.perform, controllerGone, Host.bind_run, Host.get_run, Host.pure_run] at hrun
    cases hg : h.link.hungUp
    · simp only [hg, Bool.false_eq_true, if_false, Host.bind_run, Host.modifyGet_run,
        Host.pure_run] at hrun
      obtain ⟨rfl, rfl⟩ := Prod.mk.inj hrun
      exact ⟨(Link.take_kind _).trans hk, (Link.take_closed _).trans hc, rfl, fun _ _ => trivial⟩
    · simp only [hg, if_true, Host.pure_run] at hrun
      obtain ⟨rfl, rfl⟩ := Prod.mk.inj hrun
      exact ⟨hk, hc, rfl, fun _ _ => trivial⟩
  | hangUp =>
    simp only [SocketStep.perform, controllerGone, Host.bind_run, Host.get_run, Host.pure_run] at hrun
    cases hg : h.link.hungUp
    · simp only [hg, Bool.false_eq_true, if_false, Host.bind_run, Host.modify_run,
        Host.pure_run] at hrun
      obtain ⟨rfl, rfl⟩ := Prod.mk.inj hrun
      exact ⟨hk, hc, rfl, fun _ _ => trivial⟩
    · simp only [hg, if_true, Host.pure_run] at hrun
      obtain ⟨rfl, rfl⟩ := Prod.mk.inj hrun
      exact ⟨hk, hc, rfl, fun _ _ => trivial⟩
  | read n =>
    simp only [SocketStep.perform, Host.get_bind_run, Link.read_of_closed hk hc, Host.set_bind_run,
      Host.pure_run] at hrun
    obtain ⟨rfl, rfl⟩ := Prod.mk.inj hrun
    refine ⟨hk, hc, rfl, ?_⟩
    rintro sv ⟨⟩
    rfl
  | write f =>
    simp only [SocketStep.perform, Host.writeLink, Host.bind_run, Host.get_run,
      Link.refuseWrite_of_closed hk hc, Host.set_run, Host.pure_run] at hrun
    obtain ⟨rfl, rfl⟩ := Prod.mk.inj hrun
    refine ⟨hk, hc, rfl, ?_⟩
    rintro sv ⟨⟩
    rfl
  | close =>
    obtain ⟨lg, hcl⟩ := closeLink_socket hk
    simp only [SocketStep.perform, Host.bind_run, hcl, Host.pure_run] at hrun
    obtain ⟨rfl, rfl⟩ := Prod.mk.inj hrun
    exact ⟨hk, rfl, rfl, fun _ _ => trivial⟩

/-- Whatever happens to a closed socket afterwards, it calls no kernel, and every read gives
zero bytes and every write fails as not connected. -/
theorem runSteps_closed (hk : h.link.kind = .socket s) (hc : h.link.closed = true)
    (steps : List SocketStep) :
    ∃ r h', (runSteps s steps).run h = (r, h') ∧ h'.kernel = h.kernel ∧
      ∀ vs, r = .ok vs → List.Forall₂ ClosedAnswer steps vs := by
  induction steps generalizing h with
  | nil => exact ⟨.ok [], h, rfl, rfl, fun vs hv => by cases hv; exact .nil⟩
  | cons st steps ih =>
    obtain ⟨v, h₁, hrun, hk₁, hc₁, hkern₁, hans⟩ := perform_closed hk hc st
    cases v with
    | error r =>
      refine ⟨.error r, h₁, ?_, hkern₁, fun _ hv => by cases hv⟩
      simp only [runSteps, Host.bind_run, hrun, Host.pure_run]
    | ok sv =>
      obtain ⟨r, h₂, hrun₂, hkern₂, hans₂⟩ := ih hk₁ hc₁
      cases r with
      | error r =>
        refine ⟨.error r, h₂, ?_, hkern₂.trans hkern₁, fun _ hv => by cases hv⟩
        simp only [runSteps, Host.bind_run, hrun, hrun₂, Host.pure_run]
      | ok vs =>
        refine ⟨.ok (sv :: vs), h₂, ?_, hkern₂.trans hkern₁, ?_⟩
        · simp only [runSteps, Host.bind_run, hrun, hrun₂, Host.pure_run]
        · rintro _ ⟨⟩
          exact .cons (hans sv rfl) (hans₂ vs rfl)

/-- Closing a socket releases no descriptor, and afterwards, whatever the host and the controller
do, no kernel call is made, every read gives zero bytes and every write fails as not
connected. -/
theorem closed_socket_runs (hk : h.link.kind = .socket s) (steps : List SocketStep) :
    ∃ lg, Host.closeLink.run h =
        (.ok (), { h with link := { h.link with closed := true }, logs := lg }) ∧
      ∃ r h', (runSteps s steps).run { h with link := { h.link with closed := true }, logs := lg } =
          (r, h') ∧ h'.kernel = h.kernel ∧ ∀ vs, r = .ok vs → List.Forall₂ ClosedAnswer steps vs := by
  obtain ⟨lg, hcl⟩ := closeLink_socket hk
  refine ⟨lg, hcl, runSteps_closed ?_ ?_ steps⟩
  · exact hk
  · rfl

end Closed

end Bench

namespace Host

/-- Opening the first device that opens, on any kernel. `openFirst` tries the devices in order,
one attempt each, as the kernel answers it, and stops at the first that opens; it gives that
socket, or the last attempt's error, or the not-found bind error when there are no devices.
Every descriptor an attempt obtained is closed by that attempt, once, unless it opened, and no
other descriptor is closed. A socket's `close` releases nothing: afterwards every read gives
zero bytes and every write fails as not connected. -/
theorem openFirst_tries_in_order (devs : List Nat) (ch : HciChannel) (h : Host) :
    (∃ as, Attempt.Tried h.kernel.answers ch h.kernel.calls devs as ∧
      ((openFirst devs ch).run h).1 = Attempt.outcome noDevices devs as ∧
      (∃ lg, ((openFirst devs ch).run h).2 =
        { h.withCalls (Attempt.trace ch devs as) with logs := lg }) ∧
      ∀ dev a, (dev, a) ∈ devs.zip as → ∀ fd, a.fd? = some fd →
        (a.calls ch dev).count (.close fd) = (if a.opens then 0 else 1) ∧
          ∀ x, KernelCall.close x ∈ a.calls ch dev → x = fd) ∧
    ∀ (s : HciSocket) (l : Link) (h₀ : Host) (steps : List Bench.SocketStep),
      let h₁ : Host := { h₀ with link := { l with kind := .socket s } }
      ∃ lg, closeLink.run h₁ =
          (.ok (), { h₁ with link := { h₁.link with closed := true }, logs := lg }) ∧
        ∃ r h', (Bench.runSteps s steps).run
            { h₁ with link := { h₁.link with closed := true }, logs := lg } = (r, h') ∧
          h'.kernel = h₀.kernel ∧ ∀ vs, r = .ok vs → List.Forall₂ Bench.ClosedAnswer steps vs := by
  refine ⟨?_, fun s l h₀ steps => Bench.closed_socket_runs rfl steps⟩
  obtain ⟨as, ht, lg, hrun⟩ := openFirstFrom_run ch devs noDevices h
  refine ⟨as, ht, by rw [openFirst, hrun], ⟨lg, by rw [openFirst, hrun]⟩, ?_⟩
  intro dev a _ fd hfd
  refine ⟨Attempt.count_close_calls ch dev hfd, fun x hx => ?_⟩
  -- the one descriptor an attempt closes is the one it obtained
  have hx' : a.fd? = some x := Attempt.fd?_of_close_mem hx
  exact Option.some.inj (hx'.symm.trans hfd)

end Host

end HciHost
