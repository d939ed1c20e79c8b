import HciHost.Host.Reader

/-!
# Sending commands

`Host.writeLink` writes a packet to the link. The controller takes it and reacts: the write
fails, or frames come back. On an immediate link they are handled as the write happens; on
any other they wait to be read, and the reader reads them before the writer goes on. A
reaction the controller cannot act on fails the write and marks the link as spoiled.

`Host.send` is the commander's send: the command is framed (a parameter block over 255 bytes
is refused before anything else), its opcode registered (one command per opcode), the command
logged and written (`Host.writeAndAwait`). A failed write cancels the registration. Then the call
waits for the answer in the command's slot (`Host.awaitAnswer`). Nothing answers a command after
its write is over, so an empty slot stays empty: with a response timeout the wait runs out and
cancels the registration; without one the call waits for good, which the host records as a
stall (`Host.stalled`).

`Host.sendAndVerify` also requires the answer to be the expected bytes. On a scripted channel
it takes the next scripted response instead, `00` once they are used up.
-/

namespace HciHost

/-- Whether a command on this channel waits for its answer without bound: a commander with no
response timeout. -/
def Channel.waitsForever : Channel → Bool
  | .commander c => c.timeout.isNone
  | .scripted _ => false

namespace Host

/-- Writes `pkt` to the link, returning how many bytes were written. -/
def writeLink (pkt : Bytes) : HostM (Except IoError Nat) := do
  let h ← get
  match h.link.refuseWrite with
  | some (e, l) =>
    set { h with link := l }
    pure (.error e)
  | none =>
    if h.link.deaf then
      set { h with link := { h.link with unread := h.link.unread ++ [pkt] } }
      pure (.ok pkt.length)
    else
      let (reaction, c) := h.link.controller.react pkt
      match reaction with
      | .fail =>
        set { h with link := { h.link with controller := c } }
        pure (.error (.custom .brokenPipe "write failed"))
      | .unreadable why =>
        set { h with link := { h.link with controller := c, spoiled := some why } }
        pure (.error (.custom .other why))
      | .answer items =>
        let op := (Controller.packetOpcode? pkt).getD ⟨0⟩
        let frames := items.map (·.toFrame op)
        set { h with link := { h.link with controller := c, written := h.link.written ++ [pkt] } }
        if h.link.immediate then
          frames.forM fun f => do
            let r ← handlePacket f
            modify fun h => { h with injected := h.injected ++ [r] }
        else
          modify fun h => { h with link := h.link.push (frames.map .frame) }
          pump
        pure (.ok pkt.length)

/-- Registers `op` in the commander's registry. -/
def register (op : Opcode) : HostM (Except HciError SlotId) :=
  withRegistry (fun r =>
    match r.register op with
    | .ok (id, r') => (.ok id, r')
    | .error e => (.error e, r)) (.error .linkClosed)

/-- Cancels the registration of `op`. -/
def cancel (op : Opcode) : HostM Unit :=
  withRegistry (fun r => ((), r.cancel op)) ()

/-- Waits for the answer to `op` in `slot`, once the command's write is over. A filled slot
gives its answer. An empty one: with a response timeout the wait runs out, the registration is
cancelled and the call fails with `commandTimeout`; without one the call never returns. The host
then records the stall and the registration stays, still pending, which is the value given
back; it stands for no outcome of the call. -/
def awaitAnswer (op : Opcode) (slot : SlotId) : HostM (Except HciError Bytes) := do
  match ← withRegistry (·.take slot) none with
  | some resp => pure (.ok resp)
  | none =>
    if (← get).channel.waitsForever then
      modify fun h => { h with stalled := some op }
      pure (.error (.commandPending op))
    else
      cancel op
      pure (.error (.commandTimeout op))

/-- Writes the packet `pkt` of a command registered under `op` with slot `slot`, and waits for
its answer; a failed write cancels the registration. -/
def writeAndAwait (op : Opcode) (slot : SlotId) (pkt : Bytes) : HostM (Except HciError Bytes) := do
  match ← writeLink pkt with
  | .error io =>
    cancel op
    pure (.error (.send io))
  | .ok _ => awaitAnswer op slot

/-- Sends a command through the commander and returns the answer. -/
def send (c : Command) : HostM (Except HciError Bytes) := do
  match c.toPacket with
  | .error e => pure (.error e)
  | .ok pkt =>
    let op := c.opcode
    match ← register op with
    | .error e => pure (.error e)
    | .ok slot =>
      note .debug ("sending " ++ op.text ++ ": " ++ c.describe)
      writeAndAwait op slot pkt

/-- The outcome of comparing an answer with the expected bytes. -/
def verify (op : Opcode) (expected resp : Bytes) : Except HciError Unit :=
  if resp = expected then .ok () else .error (.unexpectedResponse op expected resp)

/-- Sends a command and requires the expected answer. -/
def sendAndVerify (c : Command) (expected : Bytes) : HostM (Except HciError Unit) := do
  match (← get).channel with
  | .scripted s =>
    let (resp, rest) := match s.responses with
      | [] => ([0x00], [])
      | r :: rest => (r, rest)
    withScript fun s => { s with responses := rest, sent := s.sent ++ [c.opcode] }
    pure (verify c.opcode expected resp)
  | .commander _ =>
    match ← send c with
    | .error e => pure (.error e)
    | .ok resp => pure (verify c.opcode expected resp)

end Host

end HciHost
