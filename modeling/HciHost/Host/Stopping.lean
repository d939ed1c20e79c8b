import HciHost.Host.Threads
import HciHost.Host.Transport

/-!
# Shutting a started transport down

Once `startReading` has returned, the transport holds the handle of its reader thread, and
`shutdown` uses it: it closes the link, takes the handle out of the transport and joins the
reader thread, which ends once the reader has published why it stopped. Only one call can take
the handle; a call that finds it gone returns at once.

Any number of threads may call `shutdown` while the reader and the workers run, and other
calls go on meanwhile. A call of `shutdown` passes through these points:

* `closing`: it logs and closes the link, and fails with `close` if closing fails;
* `taking`: it takes the reader's handle out of the transport, if the handle is still there,
  and otherwise returns;
* `joining`: holding the handle, it waits for the reader thread to end;
* `returned r`: the call is over, with outcome `r`.

Other calls (`close`, bring-up, commands, calls to the upper layer) may change the host's
link, command channel, upper layer and log at any point; the reader's published state is
written by the reader alone.

`Stopping` is that system: the threads of `Threads`, whether the transport still holds the
reader's handle, and the calls of `shutdown`. `Stopping.Step` is one atomic step of any of
them.
-/

namespace HciHost

/-- Where a call of `shutdown` is. -/
inductive ShutdownAt where
  | closing
  | taking
  | joining
  | returned (r : Except HciError Unit)

/-- A started transport: its threads, its handle on the reader thread, and the calls of
`shutdown`. -/
structure Stopping where
  /-- The reader, the workers and the host they share. -/
  threads : Threads
  /-- Whether the transport still holds the reader thread's handle. -/
  handle : Bool
  /-- The calls of `shutdown`, by number. -/
  calls : List ShutdownAt

namespace Stopping

/-- A transport whose `startReading` on host `h` has returned, with `n` calls of `shutdown`
about to start. -/
def start (h : Host) (n : Nat) : Stopping where
  threads := Threads.start h
  handle := true
  calls := List.replicate n .closing

/-- What `close` does to the host: it logs and closes the link. -/
def closeRun (h : Host) : Except IoError Unit × Host :=
  (do
    note .info "closing HCI transport"
    Host.closeLink : HostM (Except IoError Unit)).run h

/-- One atomic step of the reader, a worker, a call of `shutdown` or another call. -/
inductive Step : Stopping → Stopping → Prop where
  /-- The reader or a worker takes a step. -/
  | thread {s : Stopping} {t : Threads} (ht : Threads.Step s.threads t) :
      Step s { s with threads := t }
  /-- Another call changes the link, the command channel, the upper layer or the log. -/
  | other {s : Stopping} (h : Host) (hr : h.reader = s.threads.host.reader)
      (hc : h.config = s.threads.host.config) :
      Step s { s with threads := { s.threads with host := h } }
  /-- A call of `shutdown` closes the link. -/
  | close {s : Stopping} {i : Nat} {h : Host} (hi : s.calls[i]? = some .closing)
      (hc : closeRun s.threads.host = (.ok (), h)) :
      Step s { s with threads := { s.threads with host := h }, calls := s.calls.set i .taking }
  /-- Closing the link fails, and so does the call. -/
  | closeFailed {s : Stopping} {i : Nat} {e : IoError} {h : Host}
      (hi : s.calls[i]? = some .closing) (hc : closeRun s.threads.host = (.error e, h)) :
      Step s { s with threads := { s.threads with host := h },
                      calls := s.calls.set i (.returned (.error (.close e))) }
  /-- A call takes the reader's handle out of the transport. -/
  | take {s : Stopping} {i : Nat} (hi : s.calls[i]? = some .taking) (hh : s.handle = true) :
      Step s { s with handle := false, calls := s.calls.set i .joining }
  /-- A call finds the handle gone and returns. -/
  | noHandle {s : Stopping} {i : Nat} (hi : s.calls[i]? = some .taking) (hh : s.handle = false) :
      Step s { s with calls := s.calls.set i (.returned (.ok ())) }
  /-- The reader thread has ended, and the call holding its handle returns. -/
  | join {s : Stopping} {i : Nat} {r : CloseReason} (hi : s.calls[i]? = some .joining)
      (hr : s.threads.reader = .finished r) :
      Step s { s with calls := s.calls.set i (.returned (.ok ())) }

/-- The states reached from a transport whose `startReading` on `h` has returned, with `n`
calls of `shutdown`. -/
def Reachable (h : Host) (n : Nat) (s : Stopping) : Prop :=
  Relation.ReflTransGen Step (start h n) s

end Stopping

end HciHost
