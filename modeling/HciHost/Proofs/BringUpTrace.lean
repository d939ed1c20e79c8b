import HciHost.BringUp

/-!
# The order of bring-up

`Sequence.run` issues the baseline steps and then the vendor steps through a command channel,
one call at a time, and stops at the first call that fails. This module watches a run from
outside: a `Tape` records, in order, every line logged and every call made, and
`Tape.channel answer` is a command channel whose `i`-th call (from zero) answers `answer i`,
which is any channel whose outcome is fixed call by call.

* `runStage_ok` and `runStage_fail` run one stage: every step is logged and then issued, and
  the first failing call ends the stage with its error wrapped by stage, index and opcode.
* `run_tape` is the whole run. If no call fails, every step is issued once, in list order,
  and the run succeeds after logging how many commands it sent. If the first failing call is
  the `k`-th, exactly `k + 1` calls were made, no vendor step is issued when the failing step
  is a baseline one, and the error names the stage, the index within the stage and the opcode
  of the failing step, with the channel's error inside, unchanged.
-/

namespace HciHost

/-- What the log and a command channel see of a bring-up run. -/
inductive Seen where
  /-- A line is logged. -/
  | line (l : LogLine)
  /-- The channel is asked to send `c` and check the answer against `expected`. -/
  | call (c : Command) (expected : Bytes)

/-- A run watched from outside: everything seen so far, and how many calls were made. -/
structure Tape where
  /-- Every line and call, oldest first. -/
  seen : List Seen := []
  /-- How many calls were made. -/
  issued : Nat := 0

/-- A computation watched by a tape. -/
abbrev TapeM := StateM Tape

instance : Logger TapeM := ⟨fun l t => ((), { t with seen := t.seen ++ [.line l] })⟩

namespace Tape

/-- The channel whose `i`-th call, counting from zero, answers `answer i`. -/
def channel (answer : Nat → Except HciError Unit) (c : Command) (e : Bytes) :
    TapeM (Except HciError Unit) :=
  fun t => (answer t.issued, { seen := t.seen ++ [.call c e], issued := t.issued + 1 })

end Tape

namespace Sequence

/-- What issuing the steps of one stage shows, numbered from `i`: for each step, its log line
and then its call. -/
def stageSeen (stage : Stage) (i : Nat) (steps : List Step) : List Seen :=
  (steps.zipIdx i).flatMap fun (s, j) =>
    [.line ⟨.debug, stage.name ++ " step " ++ toString j ++ ": " ++ s.command.opcode.text⟩,
      .call s.command s.expected]

@[simp] theorem stageSeen_nil (stage : Stage) (i : Nat) : stageSeen stage i [] = [] := rfl

theorem stageSeen_cons (stage : Stage) (i : Nat) (s : Step) (rest : List Step) :
    stageSeen stage i (s :: rest) =
      .line ⟨.debug, stage.name ++ " step " ++ toString i ++ ": " ++ s.command.opcode.text⟩ ::
        .call s.command s.expected :: stageSeen stage (i + 1) rest := rfl

theorem tape_pure (a : α) (t : Tape) : (pure a : TapeM α) t = (a, t) := rfl

/-- What issuing one step shows: its line, then its call. -/
theorem stageSeen_cons_append (stage : Stage) (i : Nat) (s : Step) (rest : List Step) :
    stageSeen stage i (s :: rest) = stageSeen stage i [s] ++ stageSeen stage (i + 1) rest := by
  simp only [stageSeen_cons, stageSeen_nil, List.cons_append, List.nil_append]

section Stage

variable {answer : Nat → Except HciError Unit} {stage : Stage} {i : Nat} {s : Step}
  {rest : List Step} {t : Tape}

/-- The first step of a stage shows its line and its call; if the call succeeds, the stage goes
on with the rest, numbered from the next index. -/
theorem runStage_cons_ok (h0 : answer t.issued = .ok ()) :
    (runStage (Tape.channel answer) stage i (s :: rest)).run t =
      (runStage (Tape.channel answer) stage (i + 1) rest).run
        { seen := t.seen ++ stageSeen stage i [s], issued := t.issued + 1 } := by
  simp only [runStage, bind, StateT.bind, StateT.run, note, Logger.emit, Tape.channel, h0,
    stageSeen_cons, stageSeen_nil, List.append_assoc, List.cons_append, List.nil_append]

/-- If the call of the first step fails, the stage stops there, with the call's error wrapped
by stage, index and opcode. -/
theorem runStage_cons_error {e : HciError} (he : answer t.issued = .error e) :
    (runStage (Tape.channel answer) stage i (s :: rest)).run t =
      (.error (.bringUp stage i s.command.opcode e),
        { seen := t.seen ++ stageSeen stage i [s], issued := t.issued + 1 }) := by
  simp only [runStage, bind, StateT.bind, StateT.run, note, Logger.emit, Tape.channel, he,
    tape_pure, stageSeen_cons, stageSeen_nil, List.append_assoc, List.cons_append,
    List.nil_append]

end Stage

/-- A stage whose calls all succeed logs and issues every step, in order. -/
theorem runStage_ok (answer : Nat → Except HciError Unit) (stage : Stage) :
    ∀ (steps : List Step) (i : Nat) (t : Tape),
      (∀ j < steps.length, answer (t.issued + j) = .ok ()) →
      (runStage (Tape.channel answer) stage i steps).run t =
        (.ok (), { seen := t.seen ++ stageSeen stage i steps, issued := t.issued + steps.length })
  | [], i, t, _ => by
    simp only [runStage, StateT.run, tape_pure, stageSeen_nil, List.append_nil, List.length_nil,
      Nat.add_zero]
  | s :: rest, i, t, hok => by
    -- the first call succeeds; the rest of the stage starts one call later
    have h0 : answer t.issued = .ok () := by simpa using hok 0 (by simp)
    have hrest : ∀ j < rest.length, answer (t.issued + 1 + j) = .ok () := fun j hj => by
      simpa [Nat.add_assoc, Nat.add_comm 1 j] using hok (j + 1) (by simp; omega)
    rw [runStage_cons_ok h0, runStage_ok answer stage rest (i + 1) _ hrest,
      stageSeen_cons_append stage i s rest, List.append_assoc, List.length_cons, Nat.add_assoc,
      Nat.add_comm 1]

/-- A stage whose `k`-th call is the first to fail stops right after it, with the call's
error wrapped by stage, index and opcode. -/
theorem runStage_fail (answer : Nat → Except HciError Unit) (stage : Stage) (e : HciError) :
    ∀ (steps : List Step) (i : Nat) (t : Tape) (k : Nat) (hk : k < steps.length),
      (∀ j < k, answer (t.issued + j) = .ok ()) → answer (t.issued + k) = .error e →
      (runStage (Tape.channel answer) stage i steps).run t =
        (.error (.bringUp stage (i + k) steps[k].command.opcode e),
          { seen := t.seen ++ stageSeen stage i (steps.take (k + 1)), issued := t.issued + k + 1 })
  | s :: rest, i, t, 0, _, _, he => by
    rw [runStage_cons_error (by simpa using he)]
    simp only [Nat.add_zero, List.getElem_cons_zero, List.take_succ_cons, List.take_zero]
  | s :: rest, i, t, k + 1, hk, hok, he => by
    -- the first call succeeds, and the rest of the stage fails at its `k`-th call
    have h0 : answer t.issued = .ok () := by simpa using hok 0 (by omega)
    have hrest : ∀ j < k, answer (t.issued + 1 + j) = .ok () := fun j hj => by
      simpa [Nat.add_assoc, Nat.add_comm 1 j] using hok (j + 1) (by omega)
    have hek : answer (t.issued + 1 + k) = .error e := by
      simpa [Nat.add_assoc, Nat.add_comm 1 k] using he
    rw [runStage_cons_ok h0, runStage_fail answer stage e rest (i + 1) _ k (by simpa using hk)
      hrest hek, List.take_succ_cons, stageSeen_cons_append stage i s (rest.take (k + 1)),
      List.append_assoc,
      List.getElem_cons_succ]
    simp only [Nat.add_assoc, Nat.add_comm 1 k]

/-- A bring-up run through a channel whose `i`-th call answers `answer i`. If every call
succeeds, each step's line and call are seen in order, baseline then vendor, and the count of
commands is logged. If the `k`-th call is the first to fail, with error `e`, the run stops
there: `k + 1` calls were made, and the error is `e` wrapped with the failing step's stage,
its index in that stage and its opcode. -/
theorem run_tape (B V : List Step) (answer : Nat → Except HciError Unit) :
    ((∀ j < B.length + V.length, answer j = .ok ()) →
      (run (Tape.channel answer) ⟨B, V⟩).run {} =
        (.ok (),
          { seen := stageSeen .baseline 0 B ++ stageSeen .vendor 0 V ++
              [.line ⟨.info, "controller initialized (" ++ toString (B.length + V.length) ++
                " commands)"⟩],
            issued := B.length + V.length })) ∧
    (∀ k (hk : k < (B ++ V).length), (∀ j < k, answer j = .ok ()) → ∀ e,
      answer k = .error e →
      (run (Tape.channel answer) ⟨B, V⟩).run {} =
        (.error (if k < B.length then .bringUp .baseline k (B ++ V)[k].command.opcode e
            else .bringUp .vendor (k - B.length) (B ++ V)[k].command.opcode e),
          { seen := stageSeen .baseline 0 (B.take (k + 1)) ++
              stageSeen .vendor 0 (V.take (k + 1 - B.length)),
            issued := k + 1 })) := by
  refine ⟨fun hok => ?_, fun k hk hok e he => ?_⟩
  · -- every call succeeds, so both stages run to their end
    have hB := runStage_ok answer .baseline B 0 {} (fun j hj => by simpa using hok j (by omega))
    have hV := runStage_ok answer .vendor V 0
      { seen := stageSeen .baseline 0 B, issued := B.length }
      (fun j hj => hok (B.length + j) (by omega))
    simp only [StateT.run] at hB hV
    simp only [run, bind, StateT.bind, StateT.run, hB, List.nil_append, Nat.zero_add, hV,
      note, Logger.emit, tape_pure, length]
  · by_cases hkB : k < B.length
    · -- the failing call is a baseline step; no vendor step is issued
      have hB := runStage_fail answer .baseline e B 0 {} k hkB (fun j hj => by simpa using hok j hj)
        (by simpa using he)
      simp only [StateT.run] at hB
      simp only [run, bind, StateT.bind, StateT.run, hB, List.nil_append, Nat.zero_add, if_pos hkB,
        List.getElem_append_left hkB, show k + 1 - B.length = 0 by omega, List.take_zero,
        stageSeen_nil, List.append_nil, tape_pure]
    · -- the baseline succeeds, and the failing call is vendor step `k - B.length`
      have hkV : k - B.length < V.length := by simp at hk; omega
      have hB := runStage_ok answer .baseline B 0 {} (fun j hj => by simpa using hok j (by omega))
      have hV := runStage_fail answer .vendor e V 0
        { seen := stageSeen .baseline 0 B, issued := B.length } (k - B.length) hkV
        (fun j hj => hok (B.length + j) (by omega))
        (by simpa [show B.length + (k - B.length) = k by omega] using he)
      simp only [StateT.run] at hB hV
      simp only [run, bind, StateT.bind, StateT.run, hB, List.nil_append, Nat.zero_add, hV,
        if_neg hkB, List.getElem_append_right (Nat.le_of_not_lt hkB),
        List.take_of_length_le (show B.length ≤ k + 1 by omega), tape_pure,
        show k + 1 - B.length = k - B.length + 1 by omega,
        show B.length + (k - B.length) + 1 = k + 1 by omega]

theorem run_tape_vendor_refusal :
    (∀ j < 1, (fun j => if j = 1 then .error (.commandTimeout ⟨0x0C45⟩) else .ok ()) j =
      (.ok () : Except HciError Unit)) ∧
    (fun j => if j = 1 then .error (.commandTimeout ⟨0x0C45⟩) else .ok ()) 1 =
      (.error (.commandTimeout ⟨0x0C45⟩) : Except HciError Unit) ∧
    (run (Tape.channel fun j => if j = 1 then .error (.commandTimeout ⟨0x0C45⟩) else .ok ())
        ⟨[.succeeding .reset], [.succeeding (.writeInquiryMode 2)]⟩).run {} =
      (.error (.bringUp .vendor 0 ⟨0x0C45⟩ (.commandTimeout ⟨0x0C45⟩)),
        { seen := stageSeen .baseline 0 [.succeeding .reset] ++
            stageSeen .vendor 0 [.succeeding (.writeInquiryMode 2)],
          issued := 2 }) := by
  have h1 : ∀ j < 1,
      (fun j => if j = 1 then .error (.commandTimeout ⟨0x0C45⟩) else .ok ()) j =
        (.ok () : Except HciError Unit) := by
    intro j hj
    simp only [show j ≠ 1 by omega, if_false]
  refine ⟨h1, rfl, ?_⟩
  have := (run_tape [.succeeding .reset] [.succeeding (.writeInquiryMode 2)]
    (fun j => if j = 1 then .error (.commandTimeout ⟨0x0C45⟩) else .ok ())).2 1 (by decide) h1
    (.commandTimeout ⟨0x0C45⟩) rfl
  rw [this]
  rfl

end Sequence

end HciHost
