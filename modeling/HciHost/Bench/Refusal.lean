/-!
# Refused requests

A test bench refuses a request it cannot carry out without waiting forever or acting on
something that is gone, or when a reaction its controller reaches cannot be acted on.
`Refusal.message` gives the reason in words.
-/

namespace HciHost

/-- Why a bench refuses a request. -/
inductive Refusal where
  /-- A wait names an opcode that was never registered. -/
  | noSlot
  /-- A wait without bound on a slot that holds no answer. -/
  | waitWouldBlock
  /-- A send without a response timeout whose answer cannot come any more. -/
  | sendWouldBlock
  /-- A read with nothing to read and the link still open. -/
  | readWouldBlock
  /-- A controller action after the controller hung up. -/
  | controllerGone
  /-- A frame longer than the reader's buffer. -/
  | frameTooLong
  /-- A reaction the controller could not act on, and why. -/
  | unreadableReaction (why : String)
  deriving DecidableEq

/-- The reason for a refusal, in words. -/
def Refusal.message : Refusal → String
  | .noSlot => "no slot was registered for opcode"
  | .waitWouldBlock => "wait_forever would block"
  | .sendWouldBlock => "send would wait forever"
  | .readWouldBlock => "read would block"
  | .controllerGone => "controller end is gone"
  | .frameTooLong => "frame longer than read_buffer_size"
  | .unreadableReaction why => why

end HciHost
