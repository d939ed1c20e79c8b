import HciHost.Host.Basic

/-!
# Handling inbound frames

`Host.handlePacket` handles a frame by its tag byte, an event through the standard routes
(`RouteTable.handle`), and so runs the decision of `Frame.classify`: a command echo and an
unhandled event are logged, ACL data and connection events go to the upper layer, Command
Complete and Command Status to the command channel. A commander hands each answer to the
command registered under its opcode, logging it, and warns when no command waits for it; an
answer for opcode zero only reports how many commands the controller accepts.

`Host.dispatch` is how a transport handles a frame: it logs a failure with the frame's bytes.
-/

namespace HciHost

namespace Host

/-- Runs an upper-layer callback: the call is recorded, and a refusing callback then
fails. -/
def upperCall (e : L2capEvent) (p : Bytes) : HostM (Except HciError Unit) :=
  modifyGet fun h =>
    let r : Except HciError Unit :=
      if h.upper.refusing.contains e then .error (.handler (e.name ++ " rejected")) else .ok ()
    (r, { h with upper := { h.upper with calls := h.upper.calls ++ [(e, p)] } })

/-- Applies `f` to the commander's registry; `d` if the channel has no registry. -/
def withRegistry (f : Registry → α × Registry) (d : α) : HostM α :=
  modifyGet fun h =>
    match h.channel with
    | .commander c =>
      let (a, r) := f c.registry
      (a, { h with channel := .commander { c with registry := r } })
    | .scripted _ => (d, h)

theorem withRegistry_run {α : Type} {h : Host} {cm : Commander} (hc : h.channel = .commander cm)
    (f : Registry → α × Registry) (d : α) :
    (withRegistry f d).run h =
      ((f cm.registry).1,
        { h with channel := .commander { cm with registry := (f cm.registry).2 } }) := by
  simp only [withRegistry, modifyGet_run, hc]

/-- Applies `f` to the scripted channel's recording, if the channel is scripted. -/
def withScript (f : Script → Script) : HostM Unit :=
  modify fun h =>
    match h.channel with
    | .scripted s => { h with channel := .scripted (f s) }
    | .commander _ => h

/-- Hands the answer `resp` to the command registered under `op`. -/
def deliver (op : Opcode) (resp : Bytes) : HostM Unit := do
  note .trace ("response for " ++ op.text ++ ": [" ++ resp.hex ++ "]")
  let taken ← withRegistry (·.complete op resp) false
  unless taken do note .warn ("no outstanding command for " ++ op.text)

/-- The log text of an answer that only reports credits. -/
def creditsText (n : UInt8) : String :=
  "controller ready for " ++ toString n.toNat ++ " commands"

/-- The command channel's handling of Command Complete parameters. -/
def onComplete (p : Bytes) : HostM (Except HciError Unit) := do
  match (← get).channel with
  | .scripted _ =>
    withScript fun s => { s with completes := s.completes ++ [p] }
    pure (.ok ())
  | .commander _ =>
    match CommandComplete.parse? p with
    | none => pure (.error .invalidPacketFormat)
    | some cc =>
      if cc.opcode.value = 0 then note .trace (creditsText cc.credits)
      else deliver cc.opcode cc.returned
      pure (.ok ())

/-- The command channel's handling of Command Status parameters. -/
def onStatus (p : Bytes) : HostM (Except HciError Unit) := do
  match (← get).channel with
  | .scripted _ =>
    withScript fun s => { s with statuses := s.statuses ++ [p] }
    pure (.ok ())
  | .commander _ =>
    match CommandStatus.parse? p with
    | none => pure (.error .invalidPacketFormat)
    | some cs =>
      if cs.opcode.value = 0 then note .trace (creditsText cs.credits)
      else deliver cs.opcode [cs.status]
      pure (.ok ())

/-- Runs the handler a route names on its parameters. -/
def deliverTo : Target → Bytes → HostM (Except HciError Unit)
  | .l2cap e, p => upperCall e p
  | .commandComplete, p => onComplete p
  | .commandStatus, p => onStatus p

/-- Handles one inbound frame, tag byte first. -/
def handlePacket : Bytes → HostM (Except HciError Unit)
  | [] => pure (.error .invalidPacketFormat)
  | tag :: payload =>
    match PacketKind.ofTag? tag with
    | none => pure (.error (.unknownPacketType tag))
    | some .command => do
      note .info (Frame.echoText payload)
      pure (.ok ())
    | some .aclData => upperCall .data payload
    | some .scoData => pure (.error (.unsupported .scoData))
    | some .event => standardRoutes.handle deliverTo payload
    | some .vendor => pure (.error (.unsupported .vendor))

/-- Handling a frame runs what `Frame.classify` decides for it. -/
theorem handlePacket_eq_classify (f : Bytes) :
    handlePacket f =
      match Frame.classify f with
      | .error e => pure (.error e)
      | .ok (.echo p) => note .info (Frame.echoText p) >>= fun _ => pure (.ok ())
      | .ok (.deliver t p) => deliverTo t p
      | .ok (.unhandled c p) =>
        note .debug (RouteTable.unhandledText c p) >>= fun _ => pure (.ok ()) := by
  rcases f with _ | ⟨tag, payload⟩
  · rfl
  -- one case per tag; ACL data and the events are the frames that reach a handler
  rcases hk : PacketKind.ofTag? tag with _ | _ | _ | _ | _ | _
  all_goals simp only [handlePacket, Frame.classify, hk]
  · rfl
  · unfold RouteTable.handle
    cases standardRoutes.dispatch payload with
    | error e => rfl
    | ok r => cases r <;> rfl

/-- Handles one frame for a transport, logging a failure with the frame's bytes. -/
def dispatch (f : Bytes) : HostM Unit := do
  match ← handlePacket f with
  | .ok () => pure ()
  | .error e => note .warn ("hci: " ++ e.message ++ ", [" ++ f.hex ++ "]")

end Host

end HciHost
