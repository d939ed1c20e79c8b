import HciHost.Host.Transport

/-!
# Opening HCI sockets

How an HCI socket is opened through the kernel:

* `openChannel` creates a raw Bluetooth socket (close-on-exec) and binds it to a device and
  channel; a failed bind closes the descriptor again. A bound socket logs
  `opened hci<dev> on <channel> channel`.
* `openRaw` also installs the filter that passes every packet type and event, without which a
  raw socket receives nothing; a failed filter closes the socket.
* `openUser` binds the user channel, which needs no filter.
* `openFirst` tries devices in order and keeps the first that opens, logging each failure; it
  fails with the last failure, or with a not-found bind error when no devices were given.

`attach` makes an open socket the host's link. `release` closes its descriptor, as dropping
the socket does.
-/

namespace HciHost
namespace Host

/-- Makes a kernel call on the host's kernel. -/
def kernelCall (f : Kernel → α × Kernel) : HostM α :=
  modifyGet fun h =>
    let (a, k) := f h.kernel
    (a, { h with kernel := k })

/-- Closes the socket's descriptor. -/
def release (s : HciSocket) : HostM Unit :=
  modify fun h => { h with kernel := h.kernel.close s.fd }

/-- Creates a socket and binds it to device `dev` on channel `ch`. -/
def openChannel (dev : Nat) (ch : HciChannel) : HostM (Except HciError HciSocket) := do
  match ← kernelCall (·.socket afBluetooth sockRaw true btprotoHci) with
  | .error e => pure (.error (.socket (.os e)))
  | .ok fd =>
    match ← kernelCall (·.bind fd afBluetooth dev ch.value sockaddrHciLength) with
    | .error e =>
      release ⟨fd, dev⟩
      pure (.error (.bind (.os e)))
    | .ok () =>
      note .info ("opened hci" ++ toString dev ++ " on " ++ ch.name ++ " channel")
      pure (.ok ⟨fd, dev⟩)

/-- Installs the filter that passes everything. -/
def setPassAllFilter (s : HciSocket) : HostM (Except HciError Unit) := do
  match ← kernelCall (·.setFilter s.fd solHci hciFilterOption hciFilterLength .passAll) with
  | .error e => pure (.error (.socket (.os e)))
  | .ok () => pure (.ok ())

/-- Opens device `dev` on the raw channel, with the pass-everything filter. -/
def openRaw (dev : Nat) : HostM (Except HciError HciSocket) := do
  match ← openChannel dev .raw with
  | .error e => pure (.error e)
  | .ok s =>
    match ← setPassAllFilter s with
    | .error e =>
      release s
      pure (.error e)
    | .ok () => pure (.ok s)

/-- Opens device `dev` on the user channel. -/
def openUser (dev : Nat) : HostM (Except HciError HciSocket) :=
  openChannel dev .user

/-- Opens device `dev` on channel `ch`. -/
def openOn (ch : HciChannel) (dev : Nat) : HostM (Except HciError HciSocket) :=
  match ch with
  | .raw => openRaw dev
  | .user => openUser dev

/-- Tries the devices in order after a failure `last`. -/
def openFirstFrom (ch : HciChannel) : List Nat → HciError → HostM (Except HciError HciSocket)
  | [], last => pure (.error last)
  | dev :: rest, _ => do
    match ← openOn ch dev with
    | .ok s => pure (.ok s)
    | .error e =>
      note .debug ("hci" ++ toString dev ++ " unavailable: " ++ e.message)
      openFirstFrom ch rest e

/-- The failure of trying no devices at all. -/
def noDevices : HciError :=
  .bind (.custom .notFound "no HCI device ids given")

/-- Opens the first of `devs` that can be opened on channel `ch`. -/
def openFirst (devs : List Nat) (ch : HciChannel) : HostM (Except HciError HciSocket) :=
  openFirstFrom ch devs noDevices

/-- Makes the socket the host's link, answered by `controller`. -/
def attach (s : HciSocket) (controller : Controller) : HostM Unit :=
  modify fun h => { h with link := { kind := .socket s, controller } }

end Host
end HciHost
