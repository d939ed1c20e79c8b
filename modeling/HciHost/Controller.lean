import HciHost.Event.Reply

/-!
# Simulated controllers

A simulated controller sits at the far end of an in-memory link and reacts to every packet
the host writes. A reaction either makes the write fail or sends back some frames; a reply
item is a raw frame or a Command Complete or Command Status built for the written command,
whose opcode it answers unless the item names another. A script may also hold a reaction the
controller cannot act on, given in a form it cannot read: it matters only once a write
reaches it.

`Controller.react` gives the reaction to one written packet and the controller after it:

* `silent` never answers;
* `scripted` answers the writes in order from a list of reactions, then with a fallback;
* `byOpcode` answers each opcode from a table, others with a fallback;
* `statuses` answers every command with a Command Complete carrying one status byte, `00`
  unless the table gives another for the opcode.
-/

namespace HciHost

/-- One frame of a controller's answer. -/
inductive ReplyItem where
  /-- A frame given byte for byte. -/
  | frame (b : Bytes)
  /-- A Command Complete with these return parameters, credits and, if given, opcode. -/
  | complete (returned : Bytes) (op : Option Opcode) (credits : UInt8)
  /-- A Command Status with this status, credits and, if given, opcode. -/
  | status (s : UInt8) (op : Option Opcode) (credits : UInt8)

/-- The frame of a reply item answering a command with opcode `op`. -/
def ReplyItem.toFrame (op : Opcode) : ReplyItem → Bytes
  | .frame b => b
  | .complete r o n => completeFrameWith n (o.getD op) r
  | .status s o n => statusFrameWith n (o.getD op) s

/-- How a controller reacts to one written packet. -/
inductive Reaction where
  /-- The write fails with a broken pipe. -/
  | fail
  /-- The write succeeds and these frames come back. -/
  | answer (items : List ReplyItem)
  /-- A reaction the controller cannot act on, and why: the write that reaches it fails, and
  the run it belongs to is void. -/
  | unreadable (why : String)

namespace Reaction

/-- No frames come back. -/
def quiet : Reaction := .answer []

/-- A Command Complete with status `00` comes back. -/
def success : Reaction := .answer [.complete [0x00] none 1]

end Reaction

/-- A simulated controller. -/
inductive Controller where
  /-- Never answers. -/
  | silent
  /-- Reacts to the writes in order, then with the fallback. -/
  | scripted (reactions : List Reaction) (fallback : Reaction)
  /-- Reacts by the written opcode, then with the fallback. -/
  | byOpcode (table : List (Opcode × List ReplyItem)) (fallback : Reaction)
  /-- Completes every command with one status byte. -/
  | statuses (table : List (Opcode × UInt8))

namespace Controller

/-- The opcode of a written command packet. -/
def packetOpcode? (pkt : Bytes) : Option Opcode :=
  Opcode.ofLE? (pkt.drop 1)

/-- The reaction to the written packet `pkt`, and the controller after it. -/
def react (c : Controller) (pkt : Bytes) : Reaction × Controller :=
  match c with
  | .silent => (.quiet, c)
  | .scripted [] fb => (fb, c)
  | .scripted (r :: rest) fb => (r, .scripted rest fb)
  | .byOpcode table fb =>
    match packetOpcode? pkt with
    | some op =>
      match table.find? (·.1 == op) with
      | some (_, items) => (.answer items, c)
      | none => (fb, c)
    | none => (fb, c)
  | .statuses table =>
    match packetOpcode? pkt with
    | some op =>
      let s := match table.find? (·.1 == op) with
        | some (_, s) => s
        | none => 0x00
      (.answer [.complete [s] none 1], c)
    | none => (.quiet, c)

end Controller

end HciHost
