import HciHost.Opcode
import HciHost.Event.Basic

/-!
# Replies to commands

The controller answers a command with one of two events:

* Command Complete: a credit count (how many more commands it accepts), the opcode answered
  and the command's return parameters;
* Command Status: a status byte, a credit count and the opcode answered.

`CommandComplete.parse?` and `CommandStatus.parse?` read their parameters; `completeFrame`
and `statusFrame` build the whole frame a controller sends, tag byte included, with one
credit (`completeFrameWith` and `statusFrameWith` take any count). `parse?_completeFrame` and
`parse?_statusFrame` say that the builders' parameters read back as what was put in.
-/

namespace HciHost

/-- The parameters of a Command Complete event. -/
structure CommandComplete where
  /-- How many more commands the controller accepts. -/
  credits : UInt8
  /-- The opcode of the command answered; zero only reports credits. -/
  opcode : Opcode
  /-- What the command returned. -/
  returned : Bytes

/-- The parameters of a Command Status event. -/
structure CommandStatus where
  /-- Zero if the controller accepted the command. -/
  status : UInt8
  /-- How many more commands the controller accepts. -/
  credits : UInt8
  /-- The opcode of the command answered; zero only reports credits. -/
  opcode : Opcode

namespace CommandComplete

/-- Reads credits, opcode and return parameters; at least three bytes are needed. -/
def parse? : Bytes → Option CommandComplete
  | n :: lo :: hi :: rest => some ⟨n, Opcode.ofBytes lo hi, rest⟩
  | _ => none

theorem parse?_eq_none_iff {p : Bytes} : parse? p = none ↔ p.length < 3 := by
  match p with
  | [] | [_] | [_, _] => simp [parse?]
  | _ :: _ :: _ :: _ => simp [parse?]

end CommandComplete

namespace CommandStatus

/-- Reads status, credits and opcode; at least four bytes are needed, later ones are
ignored. -/
def parse? : Bytes → Option CommandStatus
  | s :: n :: lo :: hi :: _ => some ⟨s, n, Opcode.ofBytes lo hi⟩
  | _ => none

theorem parse?_eq_none_iff {p : Bytes} : parse? p = none ↔ p.length < 4 := by
  match p with
  | [] | [_] | [_, _] | [_, _, _] => simp [parse?]
  | _ :: _ :: _ :: _ :: _ => simp [parse?]

end CommandStatus

/-! ### Reply frames -/

/-- The Command Complete frame answering `o` with return parameters `r` and `n` credits.
The length byte is `3 + r.length` kept to eight bits. -/
def completeFrameWith (n : UInt8) (o : Opcode) (r : Bytes) : Bytes :=
  [0x04, EventCode.commandComplete, UInt8.ofNat (3 + r.length), n] ++ o.toLE ++ r

/-- The Command Status frame answering `o` with status `s` and `n` credits. -/
def statusFrameWith (n : UInt8) (o : Opcode) (s : UInt8) : Bytes :=
  [0x04, EventCode.commandStatus, 4, s, n] ++ o.toLE

/-- The Command Complete frame answering `o` with return parameters `r` and one credit. -/
def completeFrame (o : Opcode) (r : Bytes) : Bytes :=
  completeFrameWith 1 o r

/-- The Command Status frame answering `o` with status `s` and one credit. -/
def statusFrame (o : Opcode) (s : UInt8) : Bytes :=
  statusFrameWith 1 o s

theorem parse?_completeFrame (o : Opcode) (r : Bytes) :
    CommandComplete.parse? (1 :: o.toLE ++ r) = some ⟨1, o, r⟩ := by
  have h := Opcode.ofLE?_toLE_append o r
  simp only [Opcode.toLE, Bytes.le, List.cons_append, List.nil_append, Opcode.ofLE?,
    Option.some.injEq] at h ⊢
  simp only [CommandComplete.parse?, h]

theorem parse?_statusFrame (o : Opcode) (s : UInt8) :
    CommandStatus.parse? (s :: 1 :: o.toLE) = some ⟨s, 1, o⟩ := by
  have h := Opcode.ofLE?_toLE_append o []
  simp only [Opcode.toLE, Bytes.le, List.cons_append, List.nil_append, Opcode.ofLE?,
    Option.some.injEq] at h ⊢
  simp only [CommandStatus.parse?, h]

end HciHost
