import HciHost.Link
import HciHost.BringUp
import HciHost.Demux
import HciHost.Command.Registry
import HciHost.Command.Describe

/-!
# The host stack

The state of the host side of a controller link, and of what it is connected to:

* the link and the controller behind it;
* the command channel: a commander, which writes commands and matches answers to them in its
  registry, or a scripted channel that answers from a list;
* the upper layer, recorded: every callback it gets, and which ones refuse;
* the transport: its configuration, bring-up sequence, whether its reader was started, and
  why the reader stopped;
* the emulated kernel its sockets come from;
* the log lines written so far.

Every operation of the stack is a `HostM` computation over this state.
-/

namespace HciHost

/-- The upper layer as a recorder: every callback is kept; the refusing ones then fail. -/
structure Upper where
  /-- The callbacks received, in order. -/
  calls : List (L2capEvent × Bytes) := []
  /-- The callbacks that fail after being recorded. -/
  refusing : List L2capEvent := []

/-- A scripted command channel: bring-up commands get the listed responses in order, then
`00`; command-channel callbacks are recorded. -/
structure Script where
  /-- The responses still to hand out. -/
  responses : List Bytes := []
  /-- The opcodes of the commands sent, in order. -/
  sent : List Opcode := []
  /-- The parameters of the Command Complete events received. -/
  completes : List Bytes := []
  /-- The parameters of the Command Status events received. -/
  statuses : List Bytes := []

/-- A commander: its registry of outstanding commands, and how long a command waits for its
answer (`none`: without bound). -/
structure Commander where
  /-- The outstanding commands. -/
  registry : Registry := {}
  /-- The response timeout in milliseconds; without one (the default) a command waits for its
  answer without bound. -/
  timeout : Option Nat := none

/-- The command channel of a host. -/
inductive Channel where
  | scripted (s : Script)
  | commander (c : Commander)

/-- Why a transport's reader stopped. -/
inductive CloseReason where
  /-- A read gave zero bytes. -/
  | endOfStream
  /-- A read failed. -/
  | readError (kind : IoKind) (message : String)
  deriving DecidableEq

/-- Where a transport's reader is. -/
inductive ReaderPhase where
  /-- Not started. -/
  | idle
  /-- Reading. -/
  | running
  /-- Stopped, for a reason. -/
  | stopped (r : CloseReason)

/-- A transport's configuration. -/
structure Config where
  /-- The size of the buffer each read lands in. -/
  readBufferSize : Nat := 4096
  /-- How many threads handle frames; one runs even if this is zero. -/
  workers : Nat := 4
  /-- How many frames may wait for a worker. -/
  queueDepth : Nat := 64

/-- The host side of a controller link and what it is connected to. -/
structure Host where
  /-- The link and the controller behind it. -/
  link : Link := {}
  /-- The command channel. -/
  channel : Channel := .scripted {}
  /-- The upper layer. -/
  upper : Upper := {}
  /-- The transport's configuration. -/
  config : Config := {}
  /-- The transport's bring-up sequence. -/
  sequence : Sequence := .standard
  /-- Whether the transport's reader was started. -/
  started : Bool := false
  /-- The transport's reader. -/
  reader : ReaderPhase := .idle
  /-- The outcomes of the frames handed over by an immediate link, in order. -/
  injected : List (Except HciError Unit) := []
  /-- The emulated kernel the host's sockets come from. -/
  kernel : Kernel := {}
  /-- The creation of a thread that fails, if one does: its number among the threads the
  transport creates when its reader starts, its workers first and the reader last, and the
  error. -/
  threadFailure : Option (Nat × IoError) := none
  /-- The log lines written so far. -/
  logs : List LogLine := []
  /-- The opcode a call of `send` waits for without bound once nothing is left to answer it:
  that call never returns, and nothing after it on its thread happens. -/
  stalled : Option Opcode := none

/-- A computation of the host stack. -/
abbrev HostM := StateM Host

instance : Logger HostM := ⟨fun l => modify fun h => { h with logs := h.logs ++ [l] }⟩

namespace Host

/-! ### Running a host computation

What each building block of a `HostM` computation does to the host. Proofs evaluate the stack's
operations with these, and never unfold the state monad. -/

section Run

variable {α β : Type}

@[simp high] theorem bind_run (x : HostM α) (f : α → HostM β) (h : Host) :
    (x >>= f).run h = (f (x.run h).1).run (x.run h).2 :=
  rfl

@[simp high] theorem pure_run (a : α) (h : Host) : (pure a : HostM α).run h = (a, h) :=
  rfl

@[simp high] theorem get_run (h : Host) : (get : HostM Host).run h = (h, h) :=
  rfl

@[simp high] theorem set_run (h' h : Host) : (set h' : HostM PUnit).run h = (⟨⟩, h') :=
  rfl

@[simp high] theorem modify_run (f : Host → Host) (h : Host) :
    (modify f : HostM PUnit).run h = (⟨⟩, f h) :=
  rfl

@[simp high] theorem modifyGet_run (f : Host → α × Host) (h : Host) :
    (modifyGet f : HostM α).run h = f h :=
  rfl

@[simp high] theorem note_run (lv : Level) (t : String) (h : Host) :
    (note lv t : HostM Unit).run h = ((), { h with logs := h.logs ++ [⟨lv, t⟩] }) :=
  rfl

/-- Logging one line for each entry of a list logs them all, in order. -/
@[simp high] theorem forM_note_run (l : List α) (lv : Level) (t : α → String) (h : Host) :
    (l.forM fun a => note lv (t a) : HostM PUnit).run h =
      (⟨⟩, { h with logs := h.logs ++ l.map fun a => ⟨lv, t a⟩ }) := by
  induction l generalizing h with
  | nil => simp
  | cons a l ih =>
    simp only [List.forM, bind_run, note_run, ih, List.map_cons, List.append_assoc,
      List.singleton_append]

theorem get_bind_run (f : Host → HostM β) (h : Host) : (get >>= f).run h = (f h).run h :=
  rfl

theorem set_bind_run (h' : Host) (f : PUnit → HostM β) (h : Host) :
    (set h' >>= f).run h = (f ⟨⟩).run h' :=
  rfl

end Run

/-- Why the reader stopped, if it has. -/
def closeReason (h : Host) : Option CloseReason :=
  match h.reader with
  | .stopped r => some r
  | _ => none

/-- The command-channel recording of a scripted host. -/
def script (h : Host) : Script :=
  match h.channel with
  | .scripted s => s
  | .commander _ => {}

end Host

end HciHost
