import Mathlib.Data.List.Forall2
import HciHost.Proofs.SendOutcome
import HciHost.Proofs.ResponsePath
import HciHost.Bench.Commander

/-!
# Bring-up over a live link

A test controller on a memory link answers every command at once with a Command Complete
carrying one status byte, taken from a table by opcode, `00` when the table has none. Started
over such a link, a transport runs its whole stack for each bring-up step: the commander
frames and registers the command and writes it, the controller answers, the reader reads the
answer and hands it to the commander, and the commander takes it out of the command's slot.

For a sequence whose commands have nonzero opcodes and parameter blocks of at most 255 bytes,
all of this amounts to a scripted command channel that answers step `i` with the status the
table gives step `i`'s opcode (`start_matches_scripted`): the same outcome, the packets
written are those of the commands issued, in order, and the upper layer is never called.

* `Host.pump_one_reply` and `Host.writeLink_ready`: one write and the read that follows it.
* `Host.sendAndVerify_ready` and `Host.sendAndVerify_scripted`: one step on either channel.
* `Sequence.runStage_sim`: two hosts whose channels answer every step alike run a stage to
  the same outcome.
-/

namespace HciHost

namespace Controller

/-- The status byte a controller of `statuses table` answers opcode `op` with. -/
def statusFor (table : List (Opcode × UInt8)) (op : Opcode) : UInt8 :=
  ((table.find? (·.1 == op)).map (·.2)).getD 0x00

theorem react_statuses (table : List (Opcode × UInt8)) {pkt : Bytes} {op : Opcode}
    (hp : packetOpcode? pkt = some op) :
    (statuses table).react pkt = (.answer [.complete [statusFor table op] none 1], statuses table) := by
  simp only [react, hp, statusFor]
  cases table.find? (·.1 == op) <;> rfl

end Controller

theorem Command.packetOpcode?_of_toPacket {c : Command} {pkt : Bytes} (hp : c.toPacket = .ok pkt) :
    Controller.packetOpcode? pkt = some c.opcode := by
  obtain ⟨-, rfl⟩ := Command.toPacket_eq_ok_iff.mp hp
  simp only [Controller.packetOpcode?, List.append_assoc, List.singleton_append]
  exact Opcode.ofLE?_toLE_append _ _

/-- On an idle registry, the answer to a freshly registered command lands in its slot and
leaves nothing pending. -/
theorem Registry.complete_withFresh_idle {r : Registry} (hr : r.pending = []) (op : Opcode)
    (v : Bytes) :
    ((r.withFresh op).complete op v).2 =
      { pending := [], slots := (r.slots ++ [none]).set r.slots.length (some v) } := by
  simp [complete, withFresh, hr]

namespace Host

/-! ### One command and its answer on the link -/

theorem dispatch_run_channel (f : Bytes) (h : Host) :
    ((dispatch f).run h).2.channel = ((handlePacket f).run h).2.channel := by
  simp only [dispatch, bind, StateT.bind, StateT.run]
  rcases handlePacket f h with ⟨r, h'⟩
  cases r <;> rfl

/-- Handling a Command Complete for a nonzero opcode completes that opcode's registration and
touches nothing else but the log. -/
theorem dispatch_completeFrame {h : Host} {cm : Commander} (hc : h.channel = .commander cm)
    {op : Opcode} (hop : op.value ≠ 0) {r : Bytes} (hr : r.length ≤ 252) :
    ∃ lg, ((dispatch (completeFrame op r)).run h).2 =
      { h with channel := .commander { cm with registry := (cm.registry.complete op r).2 }, logs := lg } := by
  obtain ⟨ch, lg, he⟩ := dispatch_run_state (completeFrame op r) h
  rw [Frame.upperCalls_eq_nil (Frame.isCommandResponse_completeFrame op r), List.append_nil] at he
  have hch : ch = .commander { cm with registry := (cm.registry.complete op r).2 } := by
    rw [← completeFrame_registry hc op hop r hr, ← dispatch_run_channel, he]
  exact ⟨lg, by rw [he, hch]⟩

theorem readOnce_blocked {h : Host} (hr : h.reader = .running) (hk : h.link.kind = .memory)
    (hi : h.link.inbound = []) (hcl : h.link.closed = false) : readOnce.run h = (false, h) := by
  unfold readOnce
  rw [get_bind_run]
  split
  · simp only [Link.read, hk, hi, hcl, Bool.false_eq_true, if_false, set_bind_run]
    rfl
  · rename_i hne
    exact absurd hr hne

theorem readOnce_frame {h : Host} (hr : h.reader = .running) (hk : h.link.kind = .memory)
    {b : Bytes} {rest : List Inbound} (hi : h.link.inbound = .frame b :: rest)
    (hb : b.length ≤ h.config.readBufferSize) (hne : b ≠ []) :
    readOnce.run h = (true, ((dispatch b).run { h with link := { h.link with inbound := rest } }).2) := by
  obtain ⟨x, xs, rfl⟩ := List.exists_cons_of_ne_nil hne
  unfold readOnce
  rw [get_bind_run]
  split
  · simp only [Link.read, hk, hi, List.take_of_length_le hb, bind_run]
    rfl
  · rename_i hne
    exact absurd hr hne

theorem pumpFor_succ_run (n : Nat) (h : Host) :
    (pumpFor (n + 1)).run h =
      (if (readOnce.run h).1 then (pumpFor n).run (readOnce.run h).2 else ((), (readOnce.run h).2)) := by
  simp only [pumpFor, bind_run]
  cases (readOnce.run h).1 <;> rfl

/-- The reader reads the one Command Complete waiting on a memory link, hands it to the
commander, and waits again. -/
theorem pump_one_reply {g : Host} (hr : g.reader = .running) (hk : g.link.kind = .memory)
    (hcl : g.link.closed = false) (hpe : g.link.pending = none) {cm : Commander}
    (hc : g.channel = .commander cm) {op : Opcode} (hop : op.value ≠ 0) {r : Bytes}
    (hrl : r.length ≤ 252) (hi : g.link.inbound = [.frame (completeFrame op r)])
    (hb : (completeFrame op r).length ≤ g.config.readBufferSize) :
    ∃ lg, pump.run g =
      ((), { g with link := { g.link with inbound := [] },
                    channel := .commander { cm with registry := (cm.registry.complete op r).2 },
                    logs := lg }) := by
  have hne : completeFrame op r ≠ [] := by simp [completeFrame, completeFrameWith]
  obtain ⟨lg, hd⟩ := @dispatch_completeFrame { g with link := { g.link with inbound := [] } } cm hc
    op hop r hrl
  refine ⟨lg, ?_⟩
  have hback : g.link.backlog = 1 := by simp [Link.backlog, hi, hpe]
  -- the first read takes the answer, the second finds nothing and waits
  simp only [pump, get_bind_run, hback, pumpFor_succ_run, readOnce_frame hr hk hi hb hne, if_true]
  rw [hd]
  simp only [readOnce_blocked, hr, hk, hcl, Bool.false_eq_true, if_false]

/-- The controller's answer lands on an idle memory link; the reader reads it, hands it to the
commander and waits again, and the write returns. -/
theorem answer_run {g : Host} (hr : g.reader = .running) (hk : g.link.kind = .memory)
    (hcl : g.link.closed = false) (hpe : g.link.pending = none) (hi : g.link.inbound = [])
    {cm : Commander} (hc : g.channel = .commander cm) {op : Opcode} (hop : op.value ≠ 0)
    {r : Bytes} (hrl : r.length ≤ 252) (hb : (completeFrame op r).length ≤ g.config.readBufferSize)
    (n : Nat) :
    ∃ lg, (modify (fun h => { h with link := h.link.push (List.map Inbound.frame
        (List.map (fun x => ReplyItem.toFrame op x) [.complete r none 1])) }) >>= fun _ =>
        pump >>= fun _ => pure (Except.ok n : Except IoError Nat)).run g =
      (.ok n, { g with channel := .commander { cm with registry := (cm.registry.complete op r).2 },
                       logs := lg }) := by
  obtain ⟨lg, hp⟩ := @pump_one_reply { g with link := g.link.push [.frame (completeFrame op r)] }
    hr hk hcl hpe cm hc op hop r hrl (by simp [Link.push, hi]) hb
  refine ⟨lg, ?_⟩
  have hf : List.map Inbound.frame (List.map (fun x => ReplyItem.toFrame op x) [.complete r none 1]) =
      [.frame (completeFrame op r)] := rfl
  rw [bind_run, modify_run, bind_run]
  dsimp only
  rw [hf, hp]
  -- the link is back as it was: the answer was pushed and read off
  have hl : ({ g.link.push [.frame (completeFrame op r)] with inbound := [] } : Link) = g.link := by
    rw [← hi]
    rfl
  simp only [hl]
  rfl

/-- A memory link to a controller that answers every command at once with one status byte,
and a running reader whose buffer holds such an answer. -/
structure LinkReady (S : List (Opcode × UInt8)) (h : Host) : Prop where
  kind : h.link.kind = .memory
  inbound : h.link.inbound = []
  closed : h.link.closed = false
  hungUp : h.link.hungUp = false
  deaf : h.link.deaf = false
  pending : h.link.pending = none
  immediate : h.link.immediate = false
  controller : h.link.controller = .statuses S
  reader : h.reader = .running
  buffer : 7 ≤ h.config.readBufferSize

namespace LinkReady

variable {S : List (Opcode × UInt8)} {h h' : Host}

/-- Readiness depends only on the link's state other than what was written, the reader and
the configuration. -/
theorem of_link (hl : LinkReady S h) {w : List Bytes} (hk : h'.link = { h.link with written := w })
    (hr : h'.reader = h.reader) (hcf : h'.config = h.config) : LinkReady S h' := by
  constructor <;> simp only [hk, hr, hcf, hl.kind, hl.inbound, hl.closed, hl.hungUp, hl.deaf,
    hl.pending, hl.immediate, hl.controller, hl.reader, hl.buffer]

end LinkReady

/-- Writing a command to a ready link: the controller takes the packet and answers, and the
reader hands the answer to the commander before the write returns. -/
theorem writeLink_ready {S : List (Opcode × UInt8)} {h : Host} (hl : LinkReady S h)
    {cm : Commander} (hc : h.channel = .commander cm) {pkt : Bytes} {op : Opcode}
    (hp : Controller.packetOpcode? pkt = some op) (hop : op.value ≠ 0) :
    ∃ lg, (writeLink pkt).run h =
      (.ok pkt.length, { h with link := { h.link with written := h.link.written ++ [pkt] },
                                channel := .commander { cm with
                                  registry := (cm.registry.complete op [Controller.statusFor S op]).2 },
                                logs := lg }) := by
  have hrw : h.link.refuseWrite = none := by
    simp [Link.refuseWrite, hl.closed, hl.pending, hl.hungUp]
  unfold writeLink
  rw [get_bind_run]
  simp only [hrw, hl.deaf, hl.controller, Controller.react_statuses S hp, Bool.false_eq_true,
    if_false, set_bind_run, hl.immediate, hp, Option.getD_some]
  -- the host is fixed by the goal, so the link facts are passed only once it is known
  refine answer_run ?_ ?_ ?_ ?_ ?_ ?_ hop ?_ ?_ pkt.length
  · exact hl.reader
  · exact hl.kind
  · exact hl.closed
  · exact hl.pending
  · exact hl.inbound
  · exact hc
  · simp
  · show 7 ≤ h.config.readBufferSize
    exact hl.buffer

theorem take_run_filled {h : Host} {cm : Commander} (hc : h.channel = .commander cm) {id : SlotId}
    {v : Bytes} (hv : cm.registry.slots[id.index]? = some (some v)) :
    (withRegistry (·.take id) none).run h =
      (some v, { h with channel := .commander { cm with registry :=
        { cm.registry with slots := cm.registry.slots.set id.index none } } }) := by
  rw [take_run hc, Registry.take_of_filled hv]

/-- One command on a ready link with nothing outstanding: it is written, answered with the
table's status for its opcode, and the answer is checked; the link stays ready and nothing is
left outstanding. -/
theorem sendAndVerify_ready {S : List (Opcode × UInt8)} {h : Host} (hl : LinkReady S h)
    {cm : Commander} (hc : h.channel = .commander cm) (hidle : cm.registry.pending = [])
    {c : Command} {pkt : Bytes} (hp : c.toPacket = .ok pkt) (hop : c.opcode.value ≠ 0) (e : Bytes) :
    ∃ h', (sendAndVerify c e).run h = (verify c.opcode e [Controller.statusFor S c.opcode], h') ∧
      LinkReady S h' ∧ (∃ cm', h'.channel = .commander cm' ∧ cm'.registry.pending = []) ∧
      h'.link.written = h.link.written ++ [pkt] ∧ h'.upper = h.upper := by
  have hn : cm.registry.isPending c.opcode = false := by simp [Registry.isPending, hidle]
  -- the write goes out with the command registered under a fresh slot, and is answered
  have hls : LinkReady S (sendingHost h cm c) := hl.of_link rfl rfl rfl
  obtain ⟨lg, hw⟩ := writeLink_ready hls rfl (Command.packetOpcode?_of_toPacket hp) hop
  have hfill : ((cm.registry.withFresh c.opcode).complete c.opcode
      [Controller.statusFor S c.opcode]).2.slots[cm.registry.slots.length]? =
      some (some [Controller.statusFor S c.opcode]) := by
    simp [Registry.complete_withFresh_idle hidle]
  -- the answer is taken out of the slot
  have hs := send_run_answered hc hp hn hw (take_run_filled rfl hfill)
  refine ⟨_, sendAndVerify_run hc e hs, hl.of_link rfl rfl rfl, ⟨_, rfl, ?_⟩, rfl, rfl⟩
  simp [Registry.complete_withFresh_idle hidle]

/-- One command on a scripted channel: the next response is checked, and the command's opcode
recorded. -/
theorem sendAndVerify_scripted {h : Host} {s : Script} (hc : h.channel = .scripted s) {r : Bytes}
    {rest : List Bytes} (hr : s.responses = r :: rest) (c : Command) (e : Bytes) :
    (sendAndVerify c e).run h =
      (verify c.opcode e r,
        { h with channel := .scripted { s with responses := rest, sent := s.sent ++ [c.opcode] } }) := by
  unfold sendAndVerify
  rw [get_bind_run]
  simp only [hc, hr]
  rw [bind_run, withScript, modify_run]
  simp only [hc]
  rfl

end Host

/-! ### Two hosts running the same sequence -/

namespace Sequence

section Simulation

/- `Sim rem hL hS`: two hosts, with the steps `rem` still to run, agree on every step: each
issues it to the same outcome, and they agree again on the steps after it. The log is not
part of the agreement. -/
variable {Sim : List Step → Host → Host → Prop} {send : Command → Bytes → HostM (Except HciError Unit)}
  (hlogs : ∀ rem hL hS (lL lS : List LogLine), Sim rem hL hS →
    Sim rem { hL with logs := lL } { hS with logs := lS })
  (hstep : ∀ st rest hL hS, Sim (st :: rest) hL hS → ∃ r hL' hS',
    (send st.command st.expected).run hL = (r, hL') ∧ (send st.command st.expected).run hS = (r, hS') ∧
      Sim rest hL' hS')
include hlogs hstep

/-- Agreeing hosts run a stage to the same outcome, and agree afterwards; past the stage when it
succeeds. -/
theorem runStage_sim (stage : Stage) (l tail : List Step) (i : Nat) {hL hS : Host}
    (h : Sim (l ++ tail) hL hS) :
    ∃ r hL' hS' rem, (runStage send stage i l).run hL = (r, hL') ∧
      (runStage send stage i l).run hS = (r, hS') ∧ Sim rem hL' hS' ∧ (r = .ok () → rem = tail) := by
  induction l generalizing i hL hS with
  | nil => exact ⟨.ok (), hL, hS, tail, rfl, rfl, h, fun _ => rfl⟩
  | cons st rest ih =>
    -- both log the step, then issue it
    obtain ⟨r, hL', hS', hrL, hrS, h'⟩ := hstep st (rest ++ tail) _ _ (hlogs _ _ _
      (hL.logs ++ [⟨.debug, stage.name ++ " step " ++ toString i ++ ": " ++ st.command.opcode.text⟩])
      (hS.logs ++ [⟨.debug, stage.name ++ " step " ++ toString i ++ ": " ++ st.command.opcode.text⟩]) h)
    simp only [runStage, Host.bind_run, Host.note_run, hrL, hrS]
    cases r with
    | ok u => exact ih (i + 1) h'
    | error e => exact ⟨_, hL', hS', rest ++ tail, rfl, rfl, h', fun hr => by cases hr⟩

/-- Agreeing hosts run a whole sequence to the same outcome, and agree afterwards. -/
theorem run_sim (seq : Sequence) {hL hS : Host} (h : Sim (seq.baseline ++ seq.vendor) hL hS) :
    ∃ r hL' hS' rem, (seq.run send).run hL = (r, hL') ∧ (seq.run send).run hS = (r, hS') ∧
      Sim rem hL' hS' := by
  obtain ⟨r, hL₁, hS₁, rem, hrL, hrS, h₁, hok⟩ := runStage_sim hlogs hstep .baseline seq.baseline
    seq.vendor 0 h
  cases r with
  | error e =>
    refine ⟨.error e, hL₁, hS₁, rem, ?_, ?_, h₁⟩
    · simp only [run, Host.bind_run, hrL]
      rfl
    · simp only [run, Host.bind_run, hrS]
      rfl
  | ok u =>
    -- the baseline ran through, so the vendor steps are what is left
    obtain rfl := hok rfl
    obtain ⟨r, hL₂, hS₂, rem, hrL', hrS', h₂, -⟩ := runStage_sim hlogs hstep .vendor seq.vendor [] 0
      (by rwa [List.append_nil])
    cases r with
    | error e =>
      refine ⟨.error e, hL₂, hS₂, rem, ?_, ?_, h₂⟩
      · simp only [run, Host.bind_run, hrL, hrL']
        rfl
      · simp only [run, Host.bind_run, hrS, hrS']
        rfl
    | ok u' =>
      -- both report the finished run
      let line : LogLine := ⟨.info, "controller initialized (" ++ toString seq.length ++ " commands)"⟩
      refine ⟨.ok (), _, _, rem, ?_, ?_, hlogs _ _ _ (hL₂.logs ++ [line]) (hS₂.logs ++ [line]) h₂⟩
      · simp only [run, Host.bind_run, hrL, hrL', Host.note_run]
        rfl
      · simp only [run, Host.bind_run, hrS, hrS', Host.note_run]
        rfl

end Simulation

/-- The script that answers each step of `seq` with the status `table` gives its opcode. -/
def statusScript (table : List (Opcode × UInt8)) (seq : Sequence) : List Bytes :=
  (seq.baseline ++ seq.vendor).map fun st => [Controller.statusFor table st.command.opcode]

end Sequence

namespace Host

/-- A transport over a memory link to a controller of `statuses table`, with a commander that
waits without bound. -/
def live (table : List (Opcode × UInt8)) (cfg : Config) (seq : Sequence) : Host :=
  { link := { controller := .statuses table }, channel := .commander { timeout := none },
    config := cfg, sequence := seq }

/-! ### Starting the transport -/

theorem pump_waiting {g : Host} (hr : g.reader = .running) (hk : g.link.kind = .memory)
    (hi : g.link.inbound = []) (hcl : g.link.closed = false) (hpe : g.link.pending = none) :
    pump.run g = ((), g) := by
  have hback : g.link.backlog = 0 := by simp [Link.backlog, hi, hpe]
  simp only [pump, get_bind_run, hback, pumpFor_succ_run, readOnce_blocked hr hk hi hcl,
    Bool.false_eq_true, if_false]

/-- On an idle memory link where creating threads succeeds, starting the reader only marks it
started and running. -/
theorem startReading_run {h : Host} (hs : h.started = false) (hf : h.spawnFailure? = none)
    (hk : h.link.kind = .memory) (hi : h.link.inbound = []) (hcl : h.link.closed = false)
    (hpe : h.link.pending = none) :
    startReading.run h = (.ok (), { h with started := true, reader := .running }) := by
  unfold startReading
  rw [get_bind_run]
  simp only [hs, Bool.false_eq_true, if_false, bind_run, get_run, hf, modify_run]
  rw [@pump_waiting { h with started := true, reader := .running } rfl hk hi hcl hpe]
  rfl

theorem start_run {h h₁ : Host} (hsr : startReading.run h = (.ok (), h₁)) :
    start.run h = bringUp.run h₁ := by
  unfold start
  rw [bind_run, hsr]

theorem bringUp_run (h : Host) {r : Except HciError Unit} {h' : Host}
    (hr : (h.sequence.run sendAndVerify).run h = (r, h')) :
    ∃ lg, bringUp.run h = (r, { h' with logs := lg }) := by
  unfold bringUp
  rw [get_bind_run, bind_run, hr]
  cases r with
  | error e => exact ⟨_, rfl⟩
  | ok u => exact ⟨h'.logs, rfl⟩

/-! ### The live host against the scripted one -/

/-- The live host and the scripted host after the steps `done`, with the steps `rem` to run:
the link is ready with nothing outstanding, the packets written frame the steps done, the
script holds the table's statuses for the steps to run and has recorded the steps done, and
the upper layer has had no call. -/
structure Mirror (S : List (Opcode × UInt8)) (done rem : List Step) (hL hS : Host) : Prop where
  ready : LinkReady S hL
  idle : ∃ cm, hL.channel = .commander cm ∧ cm.registry.pending = []
  written : List.Forall₂ (fun st pkt => st.command.toPacket = .ok pkt) done hL.link.written
  script : ∃ s, hS.channel = .scripted s ∧
    s.responses = rem.map (fun st => [Controller.statusFor S st.command.opcode]) ∧
    s.sent = done.map (·.command.opcode)
  calls : hL.upper.calls = []

/-- The two hosts mirror each other part way through the steps `L`. -/
def Mirrors (S : List (Opcode × UInt8)) (L rem : List Step) (hL hS : Host) : Prop :=
  ∃ done, done ++ rem = L ∧ Mirror S done rem hL hS

namespace Mirror

variable {S : List (Opcode × UInt8)} {done rem : List Step} {hL hS : Host}

theorem logs (hm : Mirror S done rem hL hS) (lL lS : List LogLine) :
    Mirror S done rem { hL with logs := lL } { hS with logs := lS } :=
  ⟨hm.ready.of_link rfl rfl rfl, hm.idle, hm.written, hm.script, hm.calls⟩

/-- A step with a nonzero opcode and a parameter block that fits goes the same way on both
hosts. -/
theorem step {st : Step} {rest : List Step} (hm : Mirror S done (st :: rest) hL hS)
    (hop : st.command.opcode.value ≠ 0) (hlen : st.command.params.length ≤ 255) :
    ∃ r hL' hS', (sendAndVerify st.command st.expected).run hL = (r, hL') ∧
      (sendAndVerify st.command st.expected).run hS = (r, hS') ∧ Mirror S (done ++ [st]) rest hL' hS' := by
  obtain ⟨cm, hc, hidle⟩ := hm.idle
  obtain ⟨s, hsc, hresp, hsent⟩ := hm.script
  have hp : st.command.toPacket = .ok _ := Command.toPacket_eq_ok_iff.mpr ⟨hlen, rfl⟩
  obtain ⟨hL', hrL, hready, hidle', hw, hup⟩ := sendAndVerify_ready hm.ready hc hidle hp hop st.expected
  refine ⟨_, hL', _, hrL, sendAndVerify_scripted hsc (by rw [hresp, List.map_cons]) st.command
    st.expected, hready, hidle', ?_, ⟨_, rfl, rfl, by simp [hsent]⟩, by rw [hup]; exact hm.calls⟩
  rw [hw]
  exact List.rel_append hm.written (.cons hp .nil)

end Mirror

theorem Mirrors.logs {S : List (Opcode × UInt8)} {L : List Step} (rem : List Step) (hL hS : Host)
    (lL lS : List LogLine) (hm : Mirrors S L rem hL hS) :
    Mirrors S L rem { hL with logs := lL } { hS with logs := lS } := by
  obtain ⟨done, hd, hm⟩ := hm
  exact ⟨done, hd, hm.logs lL lS⟩

theorem Mirrors.step {S : List (Opcode × UInt8)} {L : List Step}
    (hcmd : ∀ st ∈ L, st.command.opcode.value ≠ 0 ∧ st.command.params.length ≤ 255)
    (st : Step) (rest : List Step) (hL hS : Host) (hm : Mirrors S L (st :: rest) hL hS) :
    ∃ r hL' hS', (sendAndVerify st.command st.expected).run hL = (r, hL') ∧
      (sendAndVerify st.command st.expected).run hS = (r, hS') ∧ Mirrors S L rest hL' hS' := by
  obtain ⟨done, hd, hm⟩ := hm
  have hmem : st ∈ L := by simp [← hd]
  obtain ⟨r, hL', hS', hrL, hrS, hm'⟩ := hm.step (hcmd st hmem).1 (hcmd st hmem).2
  exact ⟨r, hL', hS', hrL, hrS, done ++ [st], by simp [hd], hm'⟩

/-- The packets written name the opcodes of the steps they frame. -/
theorem filterMap_packetOpcode {done : List Step} {written : List Bytes}
    (hw : List.Forall₂ (fun st pkt => st.command.toPacket = .ok pkt) done written) :
    written.filterMap Controller.packetOpcode? = done.map (·.command.opcode) := by
  induction hw with
  | nil => rfl
  | cons hp _ ih => simp [Command.packetOpcode?_of_toPacket hp, ih]

end Host

/-- Bring-up over a live link to a controller that answers each command with the status its
table gives the opcode is bring-up against a script of those statuses: the same outcome, the
packets written frame exactly the commands the script was sent, in order, and the upper layer
gets no call. -/
theorem start_matches_scripted (S : List (Opcode × UInt8)) (B V : List Step) (cfg : Config)
    (hcmd : ∀ st ∈ B ++ V, st.command.opcode.value ≠ 0 ∧ st.command.params.length ≤ 255)
    (hbuf : 7 ≤ cfg.readBufferSize) :
    let live := Host.start.run (Host.live S cfg ⟨B, V⟩)
    let bench := Bench.bringUp ⟨B, V⟩ (Sequence.statusScript S ⟨B, V⟩)
    live.1 = bench.1 ∧
    (∃ n, List.Forall₂ (fun st pkt => st.command.toPacket = .ok pkt) ((B ++ V).take n)
        live.2.link.written ∧ bench.2.1 = ((B ++ V).take n).map (·.command.opcode)) ∧
    live.2.link.written.filterMap Controller.packetOpcode? = bench.2.1 ∧
    live.2.upper.calls = [] := by
  intro live bench
  -- the reader starts and finds nothing to read; then both hosts mirror each other
  have hsr := @Host.startReading_run (Host.live S cfg ⟨B, V⟩) rfl rfl rfl rfl rfl rfl
  have hm₀ : Host.Mirror S [] (B ++ V) { Host.live S cfg ⟨B, V⟩ with started := true, reader := .running }
      { channel := .scripted { responses := Sequence.statusScript S ⟨B, V⟩ } } :=
    { ready := ⟨rfl, rfl, rfl, rfl, rfl, rfl, rfl, rfl, rfl, hbuf⟩
      idle := ⟨_, rfl, rfl⟩
      written := .nil
      script := ⟨_, rfl, rfl, rfl⟩
      calls := rfl }
  obtain ⟨r, hL, hS, rem, hrL, hrS, done, hdone, hm⟩ :=
    Sequence.run_sim Host.Mirrors.logs (Host.Mirrors.step hcmd) ⟨B, V⟩ ⟨[], rfl, hm₀⟩
  obtain ⟨lg, hb⟩ := Host.bringUp_run { Host.live S cfg ⟨B, V⟩ with started := true, reader := .running } hrL
  have hlive : live = (r, { hL with logs := lg }) := by
    show Host.start.run _ = _
    rw [Host.start_run hsr, hb]
  have hbench : bench = (r, hS.script.sent, hS.logs) := by
    show Bench.bringUp _ _ = _
    simp only [Bench.bringUp]
    rw [hrS]
  obtain ⟨s, hsc, -, hsent⟩ := hm.script
  have hscript : hS.script.sent = done.map (·.command.opcode) := by
    simp [Host.script, hsc, hsent]
  rw [hlive, hbench]
  refine ⟨rfl, ⟨done.length, ?_, ?_⟩, ?_, hm.calls⟩
  · rw [← hdone, List.take_left]
    exact hm.written
  · rw [hscript, ← hdone, List.take_left]
  · rw [hscript]
    exact Host.filterMap_packetOpcode hm.written

/-- A reset, then a vendor step turning simple pairing on, against a controller that answers
the vendor step with status 0x0C: the live bring-up fails at the vendor step as the script does,
with the status it got. -/
theorem start_matches_scripted_vendor_refusal :
    (∀ st ∈ [Step.succeeding .reset] ++ [Step.succeeding (.writeSimplePairingMode 1)],
      st.command.opcode.value ≠ 0 ∧ st.command.params.length ≤ 255) ∧
    7 ≤ ({} : Config).readBufferSize ∧
    (Host.start.run (Host.live [((Command.writeSimplePairingMode 1).opcode, 0x0C)] {}
        ⟨[.succeeding .reset], [.succeeding (.writeSimplePairingMode 1)]⟩)).1 =
      .error (.bringUp .vendor 0 (Command.writeSimplePairingMode 1).opcode
        (.unexpectedResponse (Command.writeSimplePairingMode 1).opcode [0x00] [0x0C])) := by
  have hcmd : ∀ st ∈ [Step.succeeding .reset] ++ [Step.succeeding (.writeSimplePairingMode 1)],
      st.command.opcode.value ≠ 0 ∧ st.command.params.length ≤ 255 := by
    decide
  refine ⟨hcmd, by decide, ?_⟩
  -- the live outcome is the script's, which the script computes at once
  rw [(start_matches_scripted [((Command.writeSimplePairingMode 1).opcode, 0x0C)]
    [.succeeding .reset] [.succeeding (.writeSimplePairingMode 1)] {} hcmd (by decide)).1]
  rfl

end HciHost