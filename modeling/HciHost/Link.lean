import HciHost.Socket.Kernel
import HciHost.Controller

/-!
# Controller links

A link carries frames between host and controller. The host's end is modelled by what waits to
be read on it, whether it is closed, and what the host has written that the controller took.

* A `memory` link is a channel of frames: a read takes the next frame, cut to the reader's
  buffer, or the next injected error; once closed and drained, a read gives zero bytes.
* A `stuck` link gives zero bytes on every read and cannot be closed.
* A `socket` link is an HCI socket whose controller is the other end of a socket pair: once
  closed it reads zero bytes; after the controller hangs up, the pending frames are read and
  then zero bytes, and writes fail with a broken pipe. A read into an empty buffer waits until
  the socket is readable and then gives zero bytes, taking nothing off it. If the controller hung up on packets
  it never took (an empty one at the front of them aside), the socket holds a connection
  reset: the host's next read or write fails with it, before anything else, and only that
  one.

`Link.read` is one read by the host; `blocked` means the read would wait for the controller.
-/

namespace HciHost

/-- What waits to be read on a link: a frame or an error. -/
inductive Inbound where
  | frame (b : Bytes)
  | failure (e : IoError)

/-- The kinds of link. -/
inductive LinkKind where
  | memory
  | stuck
  | socket (s : HciSocket)
  deriving DecidableEq

/-- The outcome of one read. -/
inductive ReadResult where
  /-- These bytes were read; none means the link is finished. -/
  | bytes (b : Bytes)
  /-- The read failed. -/
  | failed (e : IoError)
  /-- Nothing can be read until the controller sends more. -/
  | blocked

/-- A link between host and controller. -/
structure Link where
  /-- What kind of link this is. -/
  kind : LinkKind := .memory
  /-- What waits to be read, oldest first. -/
  inbound : List Inbound := []
  /-- Whether the host closed its end. -/
  closed : Bool := false
  /-- Whether the controller closed its end. -/
  hungUp : Bool := false
  /-- Whether the controller has stopped taking what the host writes. -/
  deaf : Bool := false
  /-- What the host wrote that the controller has not taken yet, oldest first. -/
  unread : List Bytes := []
  /-- An error the socket reports once, on the host's next read or write, before anything
  else. -/
  pending : Option IoError := none
  /-- The packets the controller took, in order. -/
  written : List Bytes := []
  /-- How the controller answers. -/
  controller : Controller := .silent
  /-- Whether the controller's answers are handed to the host as the write happens, instead
  of waiting to be read. -/
  immediate : Bool := false
  /-- Why the controller could not act on a reaction a write reached, once one did. -/
  spoiled : Option String := none

namespace Link

/-- One read with a buffer of `size` bytes. -/
def read (l : Link) (size : Nat) : ReadResult × Link :=
  match l.kind with
  | .stuck => (.bytes [], l)
  | .memory =>
    match l.inbound with
    | .frame b :: rest => (.bytes (b.take size), { l with inbound := rest })
    | .failure e :: rest => (.failed e, { l with inbound := rest })
    | [] => if l.closed then (.bytes [], l) else (.blocked, l)
  | .socket _ =>
    if l.closed then (.bytes [], l)
    else if size = 0 then
      if l.pending.isSome || !l.inbound.isEmpty || l.hungUp then (.bytes [], l) else (.blocked, l)
    else
      match l.pending with
      | some e => (.failed e, { l with pending := none })
      | none =>
        match l.inbound with
        | .frame b :: rest => (.bytes (b.take size), { l with inbound := rest })
        | .failure e :: rest => (.failed e, { l with inbound := rest })
        | [] => if l.hungUp then (.bytes [], l) else (.blocked, l)

/-- How many reads can take something off the link: the frames and errors waiting, and the
socket's pending error. -/
def backlog (l : Link) : Nat :=
  l.inbound.length + (if l.pending.isSome then 1 else 0)

/-- Why a write fails at once, if it does, and the link after it: the host closed the link,
the socket's pending error (which the write takes), or the controller hung up. -/
def refuseWrite (l : Link) : Option (IoError × Link) :=
  if l.closed then
    match l.kind with
    | .socket _ => some (.custom .notConnected "HCI socket closed", l)
    | _ => some (.custom .notConnected "closed", l)
  else
    match l.pending with
    | some e => some (e, { l with pending := none })
    | none => if l.hungUp then some (.os .epipe, l) else none

/-- Frames the controller sends to the host. -/
def push (l : Link) (frames : List Inbound) : Link :=
  { l with inbound := l.inbound ++ frames }

/-- The controller takes the oldest packet it has not taken yet, if there is one. -/
def take (l : Link) : Option Bytes × Link :=
  match l.unread with
  | [] => (none, l)
  | p :: rest => (some p, { l with unread := rest })

/-- Whether the controller hanging up on these untaken packets resets the connection: it does
when a packet is left once an empty packet at the front is set aside. An empty packet at the
front is taken to be one already consumed, so it alone does not count. -/
def resetsOnHangUp : List Bytes → Bool
  | [] => false
  | [] :: rest => !rest.isEmpty
  | _ :: _ => true

/-- The controller closes its end; if that resets the connection (`resetsOnHangUp`), the socket
holds a connection reset for the host's next read or write. -/
def hangUp (l : Link) : Link :=
  { l with hungUp := true, unread := [],
           pending := if resetsOnHangUp l.unread then some (.os .econnreset) else l.pending }

end Link

end HciHost
