import HciHost.Io

/-!
# The kernel behind an HCI socket

The kernel calls an HCI socket makes, and how the kernel answers them. Every call is recorded,
in order, and each answer may depend on every call made before it, so a `Kernel` is any kernel
as far as the socket can tell: `socket` gives a descriptor or fails, `bind` and `setsockopt`
may fail on any descriptor, and `close` releases a descriptor and cannot fail.

The emulated kernel of the tests answers by rules (`KernelRules.answers`) instead of a real
Bluetooth stack: socket descriptors are numbered from zero in the order they are created, and a
failed `socket` call gets no number.

* `socket` fails with the rule's error if there is one.
* `bind` looks up the device and channel in the rules; a device or channel the rules do not
  name fails with `ENODEV`.
* `setsockopt` (the filter of a raw socket) fails with the rule's error if there is one.

Sockets that bind are one end of a socket pair whose other end is the controller; what
travels between the two ends is the business of the link (`HciHost.Link`).
-/

namespace HciHost

/-- The channel an HCI socket is bound to. -/
inductive HciChannel where
  /-- Shared access alongside the kernel's own Bluetooth stack. -/
  | raw
  /-- Exclusive access to the device. -/
  | user
  deriving DecidableEq

namespace HciChannel

/-- The channel number in a socket address. -/
def value : HciChannel → Nat
  | .raw => 0
  | .user => 1

/-- The channel's name in log text. -/
def name : HciChannel → String
  | .raw => "Raw"
  | .user => "User"

end HciChannel

/-! ### The calls -/

/-- The Bluetooth address family. -/
def afBluetooth : Nat := 31

/-- The raw socket type. -/
def sockRaw : Nat := 3

/-- The HCI protocol of the Bluetooth family. -/
def btprotoHci : Nat := 1

/-- The socket option level of HCI. -/
def solHci : Nat := 0

/-- The HCI filter option. -/
def hciFilterOption : Nat := 2

/-- The size of an HCI socket address: family, device and channel, two bytes each. -/
def sockaddrHciLength : Nat := 6

/-- The size of an HCI filter: three 32-bit masks and a 16-bit opcode, padded. -/
def hciFilterLength : Nat := 16

/-- An HCI socket filter: the packet types, the events and the opcode that pass. -/
structure HciFilter where
  /-- One bit per packet type. -/
  typeMask : Nat
  /-- One bit per event code, in two 32-bit words. -/
  eventMask : Nat × Nat
  /-- The one command opcode whose events pass, or zero for all. -/
  opcode : Nat
  deriving DecidableEq

/-- The filter that passes every packet type and every event. -/
def HciFilter.passAll : HciFilter :=
  { typeMask := 0xFFFFFFFF, eventMask := (0xFFFFFFFF, 0xFFFFFFFF), opcode := 0 }

/-- A call made to the kernel, with its arguments. -/
inductive KernelCall where
  /-- Create a socket; `cloexec` is the close-on-exec flag given with the type. -/
  | socket (domain type : Nat) (cloexec : Bool) (protocol : Nat)
  /-- Bind socket `sock` to a device and channel. -/
  | bind (sock family dev channel addrlen : Nat)
  /-- Install a filter on socket `sock`. -/
  | setFilter (sock level name optlen : Nat) (filter : HciFilter)
  /-- Close socket `sock`. -/
  | close (sock : Nat)
  deriving DecidableEq

/-- Whether a call creates a socket. -/
def KernelCall.isSocket : KernelCall → Bool
  | .socket .. => true
  | _ => false

/-! ### The rules -/

/-- How binding each channel of one device ends: `none` binds, `some e` fails with `e`. -/
structure DeviceRules where
  /-- Binding the raw channel. -/
  raw : Option Errno := some .enodev
  /-- Binding the user channel. -/
  user : Option Errno := some .enodev

/-- How binding channel number `ch` ends; no other channel numbers exist. -/
def DeviceRules.forChannel (d : DeviceRules) : Nat → Option Errno
  | 0 => d.raw
  | 1 => d.user
  | _ => some .einval

/-- What the emulated kernel answers. -/
structure KernelRules where
  /-- The error every `socket` call fails with, if any. -/
  socketError : Option Errno := none
  /-- The error every filter installation fails with, if any. -/
  filterError : Option Errno := none
  /-- The devices by number; a device not listed does not exist. -/
  devices : List (Nat × DeviceRules) := []

/-- How binding device `dev` on channel number `ch` ends. -/
def KernelRules.bindError (r : KernelRules) (dev ch : Nat) : Option Errno :=
  match r.devices.find? (·.1 == dev) with
  | some (_, d) => d.forChannel ch
  | none => some .enodev

/-! ### The kernel -/

/-- How a kernel answers the calls of an HCI socket, each given the calls made before it. -/
structure KernelAnswers where
  /-- The descriptor a `socket` call gives, or its error. -/
  socket : List KernelCall → Except Errno Nat
  /-- How binding socket `sock` to device `dev` on channel number `ch` ends: `none` binds. -/
  bind : List KernelCall → (sock dev ch : Nat) → Option Errno
  /-- How installing a filter on socket `sock` ends: `none` installs it. -/
  setFilter : List KernelCall → (sock : Nat) → Option Errno

/-- The emulated kernel's answers. Its rules never change, so while `socket` works every
earlier `socket` call worked too, and their number is the next descriptor. -/
def KernelRules.answers (r : KernelRules) : KernelAnswers where
  socket calls :=
    match r.socketError with
    | some e => .error e
    | none => .ok (calls.countP KernelCall.isSocket)
  bind _ _ dev ch := r.bindError dev ch
  setFilter _ _ := r.filterError

/-- A kernel: how it answers, and the calls made so far. -/
structure Kernel where
  /-- How it answers. -/
  answers : KernelAnswers := KernelRules.answers {}
  /-- The calls made, in order. -/
  calls : List KernelCall := []

namespace Kernel

/-- Records a call. -/
def record (k : Kernel) (c : KernelCall) : Kernel :=
  { k with calls := k.calls ++ [c] }

/-- `socket(domain, type, protocol)`: a new descriptor, or an error. -/
def socket (k : Kernel) (domain type : Nat) (cloexec : Bool) (protocol : Nat) :
    Except Errno Nat × Kernel :=
  (k.answers.socket k.calls, k.record (.socket domain type cloexec protocol))

/-- `bind(sock, address)` for an HCI address. -/
def bind (k : Kernel) (sock family dev channel addrlen : Nat) : Except Errno Unit × Kernel :=
  let r : Except Errno Unit :=
    match k.answers.bind k.calls sock dev channel with
    | some e => .error e
    | none => .ok ()
  (r, k.record (.bind sock family dev channel addrlen))

/-- `setsockopt(sock, level, name, filter)`. -/
def setFilter (k : Kernel) (sock level name optlen : Nat) (f : HciFilter) :
    Except Errno Unit × Kernel :=
  let r : Except Errno Unit :=
    match k.answers.setFilter k.calls sock with
    | some e => .error e
    | none => .ok ()
  (r, k.record (.setFilter sock level name optlen f))

/-- `close(sock)`. -/
def close (k : Kernel) (sock : Nat) : Kernel :=
  k.record (.close sock)

theorem socket_calls (k : Kernel) (d t : Nat) (c : Bool) (p : Nat) :
    (k.socket d t c p).2.calls = k.calls ++ [.socket d t c p] := rfl

theorem bind_calls (k : Kernel) (s f d ch l : Nat) :
    (k.bind s f d ch l).2.calls = k.calls ++ [.bind s f d ch l] := rfl

@[simp] theorem record_answers (k : Kernel) (c : KernelCall) : (k.record c).answers = k.answers :=
  rfl

@[simp] theorem record_calls (k : Kernel) (c : KernelCall) : (k.record c).calls = k.calls ++ [c] :=
  rfl

section Answers

variable {k : Kernel} {s f d ch l : Nat} {e : Errno}

theorem bind_of_fails (hb : k.answers.bind k.calls s d ch = some e) :
    k.bind s f d ch l = (.error e, k.record (.bind s f d ch l)) := by
  simp [bind, hb]

theorem bind_of_binds (hb : k.answers.bind k.calls s d ch = none) :
    k.bind s f d ch l = (.ok (), k.record (.bind s f d ch l)) := by
  simp [bind, hb]

theorem setFilter_of_fails {n : Nat} {flt : HciFilter} (hf : k.answers.setFilter k.calls s = some e) :
    k.setFilter s l n d flt = (.error e, k.record (.setFilter s l n d flt)) := by
  simp [setFilter, hf]

theorem setFilter_of_sets {n : Nat} {flt : HciFilter} (hf : k.answers.setFilter k.calls s = none) :
    k.setFilter s l n d flt = (.ok (), k.record (.setFilter s l n d flt)) := by
  simp [setFilter, hf]

end Answers

end Kernel

/-- An open HCI socket: its descriptor and the device it is bound to. -/
structure HciSocket where
  /-- The descriptor the kernel gave it. -/
  fd : Nat
  /-- The device number. -/
  dev : Nat
  deriving DecidableEq

end HciHost
