import HciHost.Host.Commands

/-!
# Send calls side by side

Any number of threads may call `send` on one commander while the reader hands it the answers
that come back. Each registry operation is atomic; between them the calls and the deliveries
interleave in any order. A call of `send c` passes through these points:

* `calling c`: it frames the command (a parameter block over 255 bytes fails the call) and
  registers the opcode, or fails with `commandPending`;
* `writing c id`: registered with slot `id`, it logs the command and writes it; the write
  succeeds or fails, whatever the link;
* `waiting c id`: it takes the answer once the slot is filled; with a response timeout, the
  wait may also run out while the slot is still empty;
* `cancelling c id e`: after a failed write or a wait that ran out, it cancels the
  registration for its opcode and fails with `e`;
* `returned r`: the call is over, with outcome `r`.

Meanwhile the reader hands Command Complete and Command Status parameters to the commander.
The link itself is left out: a write's outcome is any, and so is the order of the answers.
-/

namespace HciHost

/-- Where a call of `send` is. -/
inductive SendAt where
  | calling (c : Command)
  | writing (c : Command) (id : SlotId)
  | waiting (c : Command) (id : SlotId)
  | cancelling (c : Command) (id : SlotId) (e : HciError)
  | returned (r : Except HciError Bytes)

namespace SendAt

/-- The registration a call holds between registering and returning: its command's opcode and
its slot. -/
def registration? : SendAt → Option (Opcode × SlotId)
  | .writing c id | .waiting c id | .cancelling c id _ => some (c.opcode, id)
  | .calling _ | .returned _ => none

end SendAt

/-- Who takes a step: a call of `send`, by its number, or the reader with an answer. -/
inductive Actor where
  | sender (i : Nat)
  | complete (p : Bytes)
  | status (p : Bytes)

/-- A commander's host and the calls of `send` on it. -/
structure Senders where
  host : Host
  calls : List SendAt

namespace Senders

/-- The calls `send c`, one for each `c` of `cmds`, on a commander with response timeout
`timeout` and nothing registered. -/
def start (timeout : Option Nat) (cmds : List Command) : Senders :=
  { host := { channel := .commander { timeout } }, calls := cmds.map .calling }

/-- Call `i` moves to `a`, and the host becomes `h`. -/
def move (s : Senders) (i : Nat) (a : SendAt) (h : Host) : Senders :=
  { host := h, calls := s.calls.set i a }

/-- The commander's registry. -/
def registry (s : Senders) : Registry :=
  match s.host.channel with
  | .commander cm => cm.registry
  | .scripted _ => {}

/-- The host after a call logs the command it is about to write. -/
def logSending (h : Host) (c : Command) : Host :=
  ((note .debug ("sending " ++ c.opcode.text ++ ": " ++ c.describe) : HostM Unit).run h).2

/-- One atomic step of a call, or one delivery by the reader. -/
inductive Step : Senders → Actor → Senders → Prop where
  | tooLong {s : Senders} {i : Nat} {c : Command} {e : HciError}
      (hi : s.calls[i]? = some (.calling c)) (hp : c.toPacket = .error e) :
      Step s (.sender i) (s.move i (.returned (.error e)) s.host)
  | register {s : Senders} {i : Nat} {c : Command} {pkt : Bytes} {id : SlotId} {h' : Host}
      (hi : s.calls[i]? = some (.calling c)) (hp : c.toPacket = .ok pkt)
      (hr : (Host.register c.opcode).run s.host = (.ok id, h')) :
      Step s (.sender i) (s.move i (.writing c id) h')
  | refused {s : Senders} {i : Nat} {c : Command} {pkt : Bytes} {e : HciError} {h' : Host}
      (hi : s.calls[i]? = some (.calling c)) (hp : c.toPacket = .ok pkt)
      (hr : (Host.register c.opcode).run s.host = (.error e, h')) :
      Step s (.sender i) (s.move i (.returned (.error e)) h')
  | written {s : Senders} {i : Nat} {c : Command} {id : SlotId}
      (hi : s.calls[i]? = some (.writing c id)) :
      Step s (.sender i) (s.move i (.waiting c id) (logSending s.host c))
  | writeFailed {s : Senders} {i : Nat} {c : Command} {id : SlotId} (io : IoError)
      (hi : s.calls[i]? = some (.writing c id)) :
      Step s (.sender i) (s.move i (.cancelling c id (.send io)) (logSending s.host c))
  | wake {s : Senders} {i : Nat} {c : Command} {id : SlotId} {v : Bytes} {h' : Host}
      (hi : s.calls[i]? = some (.waiting c id))
      (ht : (Host.withRegistry (·.take id) none).run s.host = (some v, h')) :
      Step s (.sender i) (s.move i (.returned (.ok v)) h')
  | timeout {s : Senders} {i : Nat} {c : Command} {id : SlotId} {cm : Commander}
      (hi : s.calls[i]? = some (.waiting c id)) (hc : s.host.channel = .commander cm)
      (ht : cm.timeout.isSome) (he : cm.registry.isFilled id = false) :
      Step s (.sender i) (s.move i (.cancelling c id (.commandTimeout c.opcode)) s.host)
  | cancel {s : Senders} {i : Nat} {c : Command} {id : SlotId} {e : HciError}
      (hi : s.calls[i]? = some (.cancelling c id e)) :
      Step s (.sender i) (s.move i (.returned (.error e)) ((Host.cancel c.opcode).run s.host).2)
  | complete (s : Senders) (p : Bytes) :
      Step s (.complete p) { s with host := ((Host.onComplete p).run s.host).2 }
  | status (s : Senders) (p : Bytes) :
      Step s (.status p) { s with host := ((Host.onStatus p).run s.host).2 }

/-- The states that the calls `send c`, `c ∈ cmds`, reach together with any deliveries. -/
inductive Reachable (timeout : Option Nat) (cmds : List Command) : Senders → Prop where
  | start : Reachable timeout cmds (Senders.start timeout cmds)
  | step {s s' : Senders} {x : Actor} : Reachable timeout cmds s → Step s x s' →
      Reachable timeout cmds s'

/-- The states that follow `s`, step by step. -/
inductive Follows : Senders → Senders → Prop where
  | refl (s : Senders) : Follows s s
  | step {s s' s'' : Senders} {x : Actor} : Step s x s' → Follows s' s'' → Follows s s''

end Senders

end HciHost
