import HciHost.Host.Replies

/-!
# Routing inbound frames

An inbound frame is decided by its tag byte, and an event frame further by the length its
header declares and by its code. This module writes that decision down as a table over the
bytes of the frame, by position, the way the wire format is described, and proves that the
host follows it.

* `PacketKind.ofTag?_eq`, `Event.parse?_eq` and `standardRoutes_find?` are the three tables:
  the tag bytes, the event header by byte position, and the five standard routes.
* `Host.handlePacket_run_by_tag` is the whole behaviour of handling one frame: it runs at
  most one handler, once, on the bytes the table names, and returns what that handler
  returns; a frame that reaches no handler changes nothing but the log.
* `Frame.classify_eq_deliver` lists every way a frame reaches a handler. From it,
  `Frame.isCommandResponse_of_deliver` and `Frame.classify_ne_deliver_l2cap` say that the
  reader's quick test for command responses (`Frame.isCommandResponse_iff`) agrees with the
  routes: a frame that reaches the command channel passes the test, and a frame that passes
  it reaches no upper-layer callback.
-/

namespace HciHost

/-! ### The three tables -/

/-- The tag byte table: five bytes name a packet kind, every other byte none. -/
theorem PacketKind.ofTag?_eq (t : UInt8) :
    PacketKind.ofTag? t =
      if t = 0x01 then some .command else if t = 0x02 then some .aclData
      else if t = 0x03 then some .scoData else if t = 0x04 then some .event
      else if t = 0xFF then some .vendor else none := by
  simp only [PacketKind.ofTag?, ← UInt8.toNat_inj, UInt8.toNat_ofNat]
  split <;> simp_all

/-- An event string read by byte position: the code is byte 0, the declared length byte 1,
and the parameters the declared number of bytes from byte 2 on. -/
theorem Event.parse?_eq (b : Bytes) :
    Event.parse? b =
      if b.length < 2 ∨ b.length < 2 + (b.getD 1 0).toNat then none
      else some ⟨b.getD 0 0, b.getD 1 0, (b.drop 2).take (b.getD 1 0).toNat⟩ := by
  rcases b with _ | ⟨code, _ | ⟨len, rest⟩⟩
  · rfl
  · rfl
  · simp only [Event.parse?, List.length_cons, List.getD_cons_succ, List.getD_cons_zero,
      List.drop_succ_cons, List.drop_zero]
    by_cases h : len.toNat ≤ rest.length
    · rw [if_pos h, if_neg (by omega)]
    · rw [if_neg h, if_pos (by omega)]

/-- The five standard routes: LE meta, disconnection complete and completed packets to the
upper layer, Command Complete and Command Status to the command channel. -/
theorem standardRoutes_find? (code : UInt8) :
    standardRoutes.find? code =
      if code = 0x3E then some (.l2cap .leMeta)
      else if code = 0x05 then some (.l2cap .disconnectionComplete)
      else if code = 0x13 then some (.l2cap .completedPackets)
      else if code = 0x0E then some .commandComplete
      else if code = 0x0F then some .commandStatus
      else none := by
  by_cases h1 : code = 0x3E
  · subst h1; rfl
  by_cases h2 : code = 0x05
  · subst h2; rfl
  by_cases h3 : code = 0x13
  · subst h3; rfl
  by_cases h4 : code = 0x0E
  · subst h4; rfl
  by_cases h5 : code = 0x0F
  · subst h5; rfl
  -- no route matches, so the search runs off the end of the table
  simp only [standardRoutes, RouteTable.find?, List.find?, EventCode.leMeta,
    EventCode.disconnectionComplete, EventCode.completedPackets, EventCode.commandComplete,
    EventCode.commandStatus, h1, h2, h3, h4, h5, if_false, beq_false_of_ne (Ne.symm h1),
    beq_false_of_ne (Ne.symm h2), beq_false_of_ne (Ne.symm h3), beq_false_of_ne (Ne.symm h4),
    beq_false_of_ne (Ne.symm h5), Option.map_none]

namespace Frame

/-- An event frame is refused if its header is incomplete or fewer parameter bytes follow
than it declares; otherwise its route, if the code has one, gets the declared parameters. -/
theorem classify_event (p : Bytes) :
    classify (0x04 :: p) =
      if p.length < 2 ∨ p.length < 2 + (p.getD 1 0).toNat then .error .invalidPacketFormat
      else
        match standardRoutes.find? (p.getD 0 0) with
        | some t => .ok (.deliver t ((p.drop 2).take (p.getD 1 0).toNat))
        | none => .ok (.unhandled (p.getD 0 0) ((p.drop 2).take (p.getD 1 0).toNat)) := by
  have hk : PacketKind.ofTag? 0x04 = some .event := rfl
  simp only [classify, hk, RouteTable.dispatch, Event.parse?_eq]
  by_cases hs : p.length < 2 ∨ p.length < 2 + (p.getD 1 0).toNat
  · simp only [hs, if_true]
  · simp only [hs, if_false]
    cases standardRoutes.find? (p.getD 0 0) <;> rfl

end Frame

/-! ### Handling one frame -/

namespace Host

/-- Handling an event frame: the tag byte aside, the bytes are read as in
`Frame.classify_event`, and the route's handler runs on the parameters. -/
theorem handlePacket_event (p : Bytes) (h : Host) :
    (handlePacket (0x04 :: p)).run h =
      if p.length < 2 ∨ p.length < 2 + (p.getD 1 0).toNat then (.error .invalidPacketFormat, h)
      else
        let code := p.getD 0 0
        let params := (p.drop 2).take (p.getD 1 0).toNat
        if code = 0x3E then (upperCall .leMeta params).run h
        else if code = 0x05 then (upperCall .disconnectionComplete params).run h
        else if code = 0x13 then (upperCall .completedPackets params).run h
        else if code = 0x0E then (onComplete params).run h
        else if code = 0x0F then (onStatus params).run h
        else (.ok (), { h with logs := h.logs ++ [⟨.debug, RouteTable.unhandledText code params⟩] }) := by
  simp only [handlePacket_eq_classify, Frame.classify_event]
  by_cases hs : p.length < 2 ∨ p.length < 2 + (p.getD 1 0).toNat
  · simp only [hs, if_true]
    rfl
  simp only [hs, if_false, standardRoutes_find?]
  generalize p.getD 0 0 = code
  -- one case per standard route, then the codes no route takes
  by_cases c1 : code = 0x3E
  · subst c1; rfl
  by_cases c2 : code = 0x05
  · subst c2; rfl
  by_cases c3 : code = 0x13
  · subst c3; rfl
  by_cases c4 : code = 0x0E
  · subst c4; rfl
  by_cases c5 : code = 0x0F
  · subst c5; rfl
  simp only [c1, c2, c3, c4, c5, if_false]
  rfl

/-- Handling one frame, by its bytes. An empty frame and an unknown tag are refused; a command
echo is only logged, whole or truncated; ACL data goes to the upper layer without its tag;
SCO and vendor frames are unsupported; an event frame shorter than its header or than its
declared length is refused, and otherwise the parameters `f[3 .. 3 + f[2]]` go to the one
handler its code `f[1]` is routed to, or are logged if no route takes the code. Every
handler that runs is run once, on those bytes, and its answer is the answer; in every other
case the host is left as it was but for one log line. -/
theorem handlePacket_run_by_tag (f : Bytes) (h : Host) :
    (handlePacket f).run h =
      match f with
      | [] => (.error .invalidPacketFormat, h)
      | tag :: payload =>
        if tag = 0x01 then
          (.ok (), { h with logs := h.logs ++ [⟨.info, Frame.echoText payload⟩] })
        else if tag = 0x02 then (upperCall .data payload).run h
        else if tag = 0x03 then (.error (.unsupported .scoData), h)
        else if tag = 0xFF then (.error (.unsupported .vendor), h)
        else if tag = 0x04 then
          if f.length < 3 ∨ f.length < 3 + (f.getD 2 0).toNat then
            (.error .invalidPacketFormat, h)
          else
            let code := f.getD 1 0
            let params := (f.drop 3).take (f.getD 2 0).toNat
            if code = 0x3E then (upperCall .leMeta params).run h
            else if code = 0x05 then (upperCall .disconnectionComplete params).run h
            else if code = 0x13 then (upperCall .completedPackets params).run h
            else if code = 0x0E then (onComplete params).run h
            else if code = 0x0F then (onStatus params).run h
            else
              (.ok (), { h with logs := h.logs ++ [⟨.debug, RouteTable.unhandledText code params⟩] })
        else (.error (.unknownPacketType tag), h) := by
  cases f with
  | nil => rfl
  | cons tag payload =>
    by_cases h1 : tag = 0x01
    · subst h1; rfl
    by_cases h2 : tag = 0x02
    · subst h2; rfl
    by_cases h3 : tag = 0x03
    · subst h3; rfl
    by_cases h5 : tag = 0xFF
    · subst h5; rfl
    by_cases h4 : tag = 0x04
    · -- the frame's positions are the payload's, shifted by the tag byte
      subst h4
      have hlen : ((0x04 : UInt8) :: payload).length = payload.length + 1 := rfl
      have hcond :
          (payload.length + 1 < 3 ∨ payload.length + 1 < 3 + (payload.getD 1 0).toNat) ↔
          (payload.length < 2 ∨ payload.length < 2 + (payload.getD 1 0).toNat) := by
        omega
      simp only [hlen, List.getD_cons_succ, List.drop_succ_cons, hcond, handlePacket_event,
        if_neg (show ¬ (0x04 : UInt8) = 0x01 by decide),
        if_neg (show ¬ (0x04 : UInt8) = 0x02 by decide),
        if_neg (show ¬ (0x04 : UInt8) = 0x03 by decide),
        if_neg (show ¬ (0x04 : UInt8) = 0xFF by decide), if_true]
    · have hk : PacketKind.ofTag? tag = none := by
        simp only [PacketKind.ofTag?_eq, h1, h2, h3, h4, h5, if_false]
      simp only [handlePacket, hk, h1, h2, h3, h4, h5, if_false]
      rfl

end Host

/-! ### Command responses -/

namespace Frame

/-- The reader's test for command responses, by byte position. -/
theorem isCommandResponse_iff (f : Bytes) :
    isCommandResponse f = true ↔
      2 ≤ f.length ∧ f.getD 0 0 = 0x04 ∧ (f.getD 1 0 = 0x0E ∨ f.getD 1 0 = 0x0F) := by
  rcases f with _ | ⟨t, _ | ⟨c, rest⟩⟩
  · simp [isCommandResponse]
  · simp [isCommandResponse]
  · simp [isCommandResponse, EventCode.commandComplete, EventCode.commandStatus]

/-- Every way a frame reaches a handler: ACL data, or an event frame long enough for its
declared length whose code has a route. -/
theorem classify_eq_deliver {f : Bytes} {t : Target} {p : Bytes} :
    classify f = .ok (.deliver t p) ↔
      (f = 0x02 :: p ∧ t = .l2cap .data) ∨
      ∃ code len rest, f = 0x04 :: code :: len :: rest ∧ len.toNat ≤ rest.length ∧
        standardRoutes.find? code = some t ∧ p = rest.take len.toNat := by
  cases f with
  | nil => simp [classify]
  | cons tag payload =>
    by_cases h4 : tag = 0x04
    · subst h4
      rw [classify_event]
      rcases payload with _ | ⟨code, _ | ⟨len, rest⟩⟩
      · simp
      · simp
      · simp only [List.length_cons, List.getD_cons_succ, List.getD_cons_zero,
          List.drop_succ_cons, List.drop_zero]
        -- the header bytes are fixed here, so the existential is about them only
        have h42 : ((0x04 : UInt8) = 0x02) = False := by decide
        simp only [List.cons.injEq, h42, false_and, false_or, and_assoc, exists_and_left,
          exists_eq_left', true_and]
        by_cases hle : len.toNat ≤ rest.length
        · rw [if_neg (by omega)]
          cases hr : standardRoutes.find? code with
          | none => simp [hle]
          | some v =>
            simp only [hle, Except.ok.injEq, Delivery.deliver.injEq, Option.some.injEq, true_and]
            constructor
            · rintro ⟨rfl, rfl⟩; exact ⟨rfl, rfl⟩
            · rintro ⟨rfl, rfl⟩; exact ⟨rfl, rfl⟩
        · rw [if_pos (by omega)]
          simp [hle]
    · have hne : ∀ code len rest, tag :: payload ≠ 0x04 :: code :: len :: rest := by
        intro code len rest he
        exact h4 (List.cons.inj he).1
      simp only [hne, false_and, exists_false, or_false, List.cons.injEq]
      simp only [classify, PacketKind.ofTag?_eq]
      by_cases h1 : tag = 0x01
      · subst h1; simp
      by_cases h2 : tag = 0x02
      · subst h2; simp [eq_comm, and_comm]
      by_cases h3 : tag = 0x03
      · subst h3; simp
      by_cases h5 : tag = 0xFF
      · subst h5; simp
      simp [h1, h2, h3, h4, h5]

/-- Of the standard routes, exactly the codes `0x0E` and `0x0F` lead to the command
channel. -/
theorem standardRoutes_find?_command {code : UInt8} {t : Target}
    (hr : standardRoutes.find? code = some t) :
    (t = .commandComplete ∨ t = .commandStatus) ↔ (code = 0x0E ∨ code = 0x0F) := by
  rw [standardRoutes_find?] at hr
  by_cases c1 : code = 0x3E
  · subst c1; simp at hr; subst hr; simp
  by_cases c2 : code = 0x05
  · subst c2; simp at hr; subst hr; simp
  by_cases c3 : code = 0x13
  · subst c3; simp at hr; subst hr; simp
  by_cases c4 : code = 0x0E
  · subst c4; simp at hr; subst hr; simp
  by_cases c5 : code = 0x0F
  · subst c5; simp at hr; subst hr; simp
  simp [c1, c2, c3, c4, c5] at hr

/-- A frame that reaches the command channel passes the reader's test for command
responses. -/
theorem isCommandResponse_of_deliver {f p : Bytes} {t : Target}
    (hd : classify f = .ok (.deliver t p)) (ht : t = .commandComplete ∨ t = .commandStatus) :
    isCommandResponse f = true := by
  rcases classify_eq_deliver.mp hd with ⟨_, rfl⟩ | ⟨code, len, rest, rfl, -, hr, -⟩
  · simp at ht
  · have hc := (standardRoutes_find?_command hr).mp ht
    rw [isCommandResponse_iff]
    simpa using hc

/-- A frame that passes the reader's test for command responses reaches no upper-layer
callback. -/
theorem classify_ne_deliver_l2cap {f p : Bytes} (e : L2capEvent)
    (hr : isCommandResponse f = true) : classify f ≠ .ok (.deliver (.l2cap e) p) := by
  intro hd
  obtain ⟨-, htag, hcode⟩ := (isCommandResponse_iff f).mp hr
  rcases classify_eq_deliver.mp hd with ⟨rfl, -⟩ | ⟨code, len, rest, rfl, -, hfind, -⟩
  · simp at htag
  · simp only [List.getD_cons_succ, List.getD_cons_zero] at hcode
    have := (standardRoutes_find?_command hfind).mpr hcode
    simp at this

end Frame

end HciHost
