import HciHost.Socket.Open
import HciHost.Bench.Transport

/-!
# Benches for HCI sockets

Both benches open an HCI socket on an emulated kernel and report the kernel calls made.

* `Bench.socket` drives the socket and its controller end step by step: the controller sends
  and takes messages and may hang up; the host reads, writes and closes. A read that would
  wait, or a controller send or take after the controller hung up, refuses the rest of the
  run; the kernel calls and the log up to that point are kept. Hanging up twice is the same
  as hanging up once. The socket is dropped after the last step.
* `Bench.socketTransport` runs a transport with a commander on the socket, its controller
  answering each command. After the controller's frames, the run ends by closing the
  transport, by the controller hanging up, or by the controller going deaf, the host writing
  packets it never takes, and the controller hanging up on them.
-/

namespace HciHost
namespace Bench

/-- How a bench opens its socket. -/
inductive OpenSpec where
  /-- A raw-channel socket on one device. -/
  | raw (dev : Nat)
  /-- A user-channel socket on one device. -/
  | user (dev : Nat)
  /-- The first of these devices that opens on the channel. -/
  | first (devs : List Nat) (ch : HciChannel)

/-- Opens the socket as the spec says. -/
def OpenSpec.run : OpenSpec → HostM (Except HciError HciSocket)
  | .raw dev => Host.openRaw dev
  | .user dev => Host.openUser dev
  | .first devs ch => Host.openFirst devs ch

/-- A step of the socket bench. -/
inductive SocketStep where
  /-- The socket's device number. -/
  | devId
  /-- The controller sends one message. -/
  | controllerSend (frame : Bytes)
  /-- The controller takes one message, if one is waiting. -/
  | controllerRecv
  /-- The controller closes its end. -/
  | hangUp
  /-- The host reads with a buffer of `size` bytes. -/
  | read (size : Nat)
  /-- The host writes a packet. -/
  | write (frame : Bytes)
  /-- The host closes the socket. -/
  | close

/-- What a step of the socket bench answers. -/
inductive SocketValue where
  /-- A number: a device number or a byte count. -/
  | number (n : Nat)
  /-- The message the controller took, if there was one. -/
  | received (b : Option Bytes)
  /-- The step succeeded. -/
  | done
  /-- What a host read gave. -/
  | read (r : Except IoError Bytes)
  /-- What a host write gave. -/
  | written (r : Except IoError Nat)

/-- Whether the controller already hung up. -/
def controllerGone : HostM Bool :=
  return (← get).link.hungUp

/-- Performs one step on the open socket `s`. -/
def SocketStep.perform (s : HciSocket) : SocketStep → HostM (Except Refusal SocketValue)
  | .devId => pure (.ok (.number s.dev))
  | .controllerSend f => do
    if ← controllerGone then return .error .controllerGone
    modify fun h => { h with link := h.link.push [.frame f] }
    pure (.ok (.number f.length))
  | .controllerRecv => do
    if ← controllerGone then return .error .controllerGone
    let r ← modifyGet fun h =>
      let (p, l) := h.link.take
      (p, { h with link := l })
    pure (.ok (.received r))
  | .hangUp => do
    unless ← controllerGone do
      modify fun h => { h with link := h.link.hangUp }
    pure (.ok .done)
  | .read size => do
    let h ← get
    match h.link.read size with
    | (.blocked, _) => pure (.error .readWouldBlock)
    | (.bytes b, l) =>
      set { h with link := l }
      pure (.ok (.read (.ok b)))
    | (.failed e, l) =>
      set { h with link := l }
      pure (.ok (.read (.error e)))
  | .write f => return .ok (.written (← Host.writeLink f))
  | .close => do
    let _ ← Host.closeLink
    pure (.ok .done)

/-- Performs the steps in order, stopping at the first refusal. -/
def runSteps (s : HciSocket) : List SocketStep → HostM (Except Refusal (List SocketValue))
  | [] => pure (.ok [])
  | st :: rest => do
    match ← st.perform s with
    | .error r => pure (.error r)
    | .ok v =>
      match ← runSteps s rest with
      | .error r => pure (.error r)
      | .ok vs => pure (.ok (v :: vs))

/-- What the socket bench reports. -/
structure SocketReport where
  /-- The open socket and each step's answer, or why opening failed; or why the run was
  refused. -/
  outcome : Except Refusal (Except HciError (HciSocket × List SocketValue))
  /-- The kernel calls made. -/
  kernel : List KernelCall
  /-- The log, in order. -/
  logs : List LogLine

/-- Opens a socket on the emulated kernel with `rules` and performs the steps. -/
def socket (rules : KernelRules) (spec : OpenSpec) (steps : List SocketStep) :
    SocketReport :=
  let run : HostM (Except Refusal (Except HciError (HciSocket × List SocketValue))) := do
    match ← spec.run with
    | .error e => pure (.ok (.error e))
    | .ok s =>
      modify fun h => { h with link := { kind := .socket s, deaf := true } }
      match ← runSteps s steps with
      | .error r => pure (.error r)
      | .ok vs =>
        Host.release s
        pure (.ok (.ok (s, vs)))
  let (r, h) := run.run { kernel := { answers := rules.answers } }
  { outcome := r, kernel := h.kernel.calls, logs := h.logs }

/-- How a socket transport run ends. -/
inductive SocketEnding where
  /-- The transport is closed. -/
  | close
  /-- The controller hangs up. -/
  | hangUp
  /-- The controller stops taking packets, the host writes these, and the controller hangs
  up. -/
  | reset (writes : List Bytes)

/-- What a transport on a socket reports. -/
structure SocketRun where
  /-- The start: reader and bring-up. -/
  start : Except HciError Unit
  /-- Starting the reader once more. -/
  startAgain : Except HciError Unit
  /-- Closing the transport; `ok` when the controller ended the run. -/
  close : Except HciError Unit
  /-- Why the reader stopped, once the run ended. -/
  closeReason : Option CloseReason
  /-- Whether the reader has stopped, after shutdown. -/
  closed : Bool
  /-- The upper-layer calls, as reported. -/
  calls : List (L2capEvent × Bytes)
  /-- The packets the controller took. -/
  written : List Bytes
  /-- What each of the host's last writes gave. -/
  hostWrites : List (Except IoError Nat)

/-- What the socket transport bench reports. -/
structure SocketTransportReport where
  /-- The open socket and the run, or why opening failed. -/
  opened : Except HciError (HciSocket × SocketRun)
  /-- The kernel calls made. -/
  kernel : List KernelCall
  /-- The log, sorted. -/
  logs : List LogLine

/-- Applies a socket transport ending: the outcome of closing, and the host's last writes. -/
def SocketEnding.apply : SocketEnding → HostM (Except HciError Unit × List (Except IoError Nat))
  | .close => return (← Host.close, [])
  | .hangUp => do
    Host.hangUp
    pure (.ok (), [])
  | .reset ws => do
    modify fun h => { h with link := { h.link with deaf := true } }
    let rs ← ws.mapM Host.writeLink
    Host.hangUp
    pure (.ok (), rs)

/-- Runs a transport on the open socket `s` answered by `controller`. -/
def SocketRun.run (s : HciSocket) (controller : Controller) (frames : List Bytes)
    (ending : SocketEnding) : HostM SocketRun := do
  Host.attach s controller
  let start ← Host.start
  let again ← Host.startReading
  Host.feed (frames.map .frame)
  let (close, writes) ← ending.apply
  let reason := (← get).closeReason
  let _ ← Host.shutdown
  let closed := (← get).closeReason.isSome
  Host.drop
  Host.release s
  let h ← get
  pure { start, startAgain := again, close, closeReason := reason, closed
         calls := reportedCalls h.config.workers h.upper.calls
         written := h.link.written
         hostWrites := writes }

/-- Opens a socket on `host`'s kernel and runs a transport on it. -/
def socketTransport (host : Host) (spec : OpenSpec) (controller : Controller)
    (frames : List Bytes) (ending : SocketEnding) : SocketTransportReport :=
  let run : HostM (Except HciError (HciSocket × SocketRun)) := do
    match ← spec.run with
    | .error e => pure (.error e)
    | .ok s => return .ok (s, ← SocketRun.run s controller frames ending)
  let (r, h) := run.run host
  { opened := r, kernel := h.kernel.calls, logs := sortLines h.logs }

end Bench
end HciHost
