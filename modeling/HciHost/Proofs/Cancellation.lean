import HciHost.Host.Senders
import HciHost.Proofs.SendOutcome

/-!
# Who removes a registration

Send calls on one commander share its registry, and deliveries from the reader come between
their steps in any order. This module follows the registry and the calls along every such
interleaving.

* `Senders.Inv`: the registry is well formed, every call holds a slot that was handed out, and
  no two calls hold the same slot. It holds of every reachable state.
* `Senders.Step.effect` says once what a step does to the calls and the registry: one call moves
  on, leaving the registry, taking a fresh registration, taking its answer out of its slot or
  cancelling by opcode; or the reader delivers.
* `Senders.registration_removal`: a registration leaves the registry only by a delivery for its
  opcode, which fills exactly its slot, or by a call that cancels its opcode; and an answer
  delivered to the registration of a waiting call is the answer that call returns, if it
  returns.
* `Senders.cancel_race`: the call that cancels need not be the one that registered. A call
  whose wait ran out cancels by opcode, so it removes the registration that a later call made
  for the same opcode; and an answer delivered while it still held its own registration is
  lost.
-/

namespace HciHost

/-- What a step hands to the commander: the answer in a Command Complete or Command Status for
a nonzero opcode. -/
def Actor.delivers : Actor → Option (Opcode × Bytes)
  | .sender _ => none
  | .complete p => CommandComplete.delivery? p
  | .status p => CommandStatus.delivery? p

namespace Senders

/-! ### The calls and their slots -/

theorem registry_eq {s : Senders} {cm : Commander} (hc : s.host.channel = .commander cm) :
    s.registry = cm.registry := by
  simp [registry, hc]

/-- Every call holds a slot below `n`, if any. -/
def SlotsBelow (n : Nat) (calls : List SendAt) : Prop :=
  ∀ (i : Nat) (a : SendAt) (r : Opcode × SlotId), calls[i]? = some a → a.registration? = some r →
    r.2.index < n

/-- No two calls hold the same slot. -/
def SlotsApart (calls : List SendAt) : Prop :=
  ∀ (i j : Nat) (a b : SendAt) (r q : Opcode × SlotId), calls[i]? = some a → calls[j]? = some b →
    a.registration? = some r → b.registration? = some q → r.2 = q.2 → i = j

section Move

variable {calls : List SendAt} {i : Nat} {a b : SendAt}

/- A call that moves on keeps its registration or gives it up. -/
theorem SlotsBelow.set {n n' : Nat} (h : SlotsBelow n calls) (hi : calls[i]? = some a)
    (hb : ∀ r, b.registration? = some r → a.registration? = some r) (hn : n ≤ n') :
    SlotsBelow n' (calls.set i b) := by
  intro j x r hj hx
  rcases getElem?_set_cases hj with ⟨-, rfl⟩ | ⟨-, hj⟩
  · exact Nat.lt_of_lt_of_le (h i a r hi (hb r hx)) hn
  · exact Nat.lt_of_lt_of_le (h j x r hj hx) hn

theorem SlotsApart.set (h : SlotsApart calls) (hi : calls[i]? = some a)
    (hb : ∀ r, b.registration? = some r → a.registration? = some r) :
    SlotsApart (calls.set i b) := by
  intro j k x y r q hj hk hx hy hrq
  rcases getElem?_set_cases hj with ⟨hji, hxb⟩ | ⟨-, hj⟩ <;>
    rcases getElem?_set_cases hk with ⟨hki, hyb⟩ | ⟨-, hk⟩
  · exact hji.trans hki.symm
  · rw [hxb] at hx
    exact hji.trans (h _ _ _ _ _ _ hi hk (hb r hx) hy hrq)
  · rw [hyb] at hy
    exact (h _ _ _ _ _ _ hj hi hx (hb q hy) hrq).trans hki.symm
  · exact h _ _ _ _ _ _ hj hk hx hy hrq

/- A call that registers takes the next slot, which no call holds. -/
theorem SlotsBelow.set_fresh {n : Nat} (h : SlotsBelow n calls)
    (hb : ∀ r, b.registration? = some r → r.2 = ⟨n⟩) : SlotsBelow (n + 1) (calls.set i b) := by
  intro j x r hj hx
  rcases getElem?_set_cases hj with ⟨-, rfl⟩ | ⟨-, hj⟩
  · rw [hb r hx]
    exact Nat.lt_succ_self n
  · exact Nat.lt_succ_of_lt (h j x r hj hx)

theorem SlotsApart.set_fresh {n : Nat} (h : SlotsApart calls) (hbelow : SlotsBelow n calls)
    (hb : ∀ r, b.registration? = some r → r.2 = ⟨n⟩) : SlotsApart (calls.set i b) := by
  -- every other call holds an older slot
  have hold : ∀ j x q, j ≠ i → calls[j]? = some x → x.registration? = some q → q.2 ≠ ⟨n⟩ :=
    fun j x q _ hj hx hq => by
      have hlt := hbelow j x q hj hx
      rw [hq] at hlt
      exact Nat.lt_irrefl n hlt
  intro j k x y r q hj hk hx hy hrq
  rcases getElem?_set_cases hj with ⟨hji, hxb⟩ | ⟨hji, hj⟩ <;>
    rcases getElem?_set_cases hk with ⟨hki, hyb⟩ | ⟨hki, hk⟩
  · exact hji.trans hki.symm
  · rw [hxb] at hx
    exact absurd (hrq.symm.trans (hb r hx)) (hold k y q hki hk hy)
  · rw [hyb] at hy
    exact absurd (hrq.trans (hb q hy)) (hold j x r hji hj hx)
  · exact h _ _ _ _ _ _ hj hk hx hy hrq

end Move

/-! ### What a step does -/

/-- The registry is well formed, every call holds a slot that was handed out, and no two calls
hold the same slot. -/
structure Inv (s : Senders) : Prop where
  commander : ∃ cm, s.host.channel = .commander cm
  wellFormed : s.registry.WellFormed
  below : SlotsBelow s.registry.slots.length s.calls
  apart : SlotsApart s.calls

/-- A step either moves one call on, leaving the registry or taking a fresh registration, a
filled slot or a cancellation for it, or hands the commander what the reader delivered. -/
theorem Step.effect {s s' : Senders} {x : Actor} (hinv : Inv s) (hs : Step s x s') :
    (∃ cm, s'.host.channel = .commander cm) ∧
    ((∃ i a b, x = .sender i ∧ s.calls[i]? = some a ∧ s'.calls = s.calls.set i b ∧
        (∀ r, b.registration? = some r → a.registration? = some r) ∧ s'.registry = s.registry) ∨
     (∃ i c, x = .sender i ∧ s.calls[i]? = some (.calling c) ∧
        s.registry.isPending c.opcode = false ∧
        s'.calls = s.calls.set i (.writing c ⟨s.registry.slots.length⟩) ∧
        s'.registry = s.registry.withFresh c.opcode) ∨
     (∃ i c id v, x = .sender i ∧ s.calls[i]? = some (.waiting c id) ∧
        s.registry.slots[id.index]? = some (some v) ∧ s'.calls = s.calls.set i (.returned (.ok v)) ∧
        s'.registry = { s.registry with slots := s.registry.slots.set id.index none }) ∨
     (∃ i c id e, x = .sender i ∧ s.calls[i]? = some (.cancelling c id e) ∧
        s'.calls = s.calls.set i (.returned (.error e)) ∧ s'.registry = s.registry.cancel c.opcode) ∨
     ((∀ i, x ≠ .sender i) ∧ s'.calls = s.calls ∧
        s'.registry = s.registry.completeAll x.delivers.toList)) := by
  obtain ⟨cm, hc⟩ := hinv.commander
  have hr := registry_eq hc
  cases hs with
  | tooLong hi _ =>
    exact ⟨⟨cm, hc⟩, .inl ⟨_, _, _, rfl, hi, rfl, (fun _ h => by cases h), rfl⟩⟩
  | register hi _ hreg =>
    -- a pending opcode is refused, so the registration is the fresh one
    rw [Host.register_run hc] at hreg
    split at hreg
    · injection hreg with h1
      cases h1
    · rename_i hp
      injection hreg with h1 h2
      injection h1 with h1
      subst h1 h2
      refine ⟨⟨_, rfl⟩, .inr (.inl ⟨_, _, rfl, hi, ?_, ?_, ?_⟩)⟩
      · rw [hr]
        simpa using hp
      · rw [hr]
        rfl
      · rw [hr]
        rfl
  | refused hi _ hreg =>
    rw [Host.register_run hc] at hreg
    split at hreg
    · injection hreg with _ h2
      subst h2
      exact ⟨⟨cm, hc⟩, .inl ⟨_, _, _, rfl, hi, rfl, (fun _ h => by cases h), rfl⟩⟩
    · injection hreg with h1
      cases h1
  | written hi =>
    exact ⟨⟨cm, hc⟩, .inl ⟨_, _, _, rfl, hi, rfl, fun _ h => h, rfl⟩⟩
  | writeFailed io hi =>
    exact ⟨⟨cm, hc⟩, .inl ⟨_, _, _, rfl, hi, rfl, fun _ h => h, rfl⟩⟩
  | wake hi ht =>
    -- only a filled slot gives an answer
    rw [Host.take_run hc] at ht
    injection ht with hv h2
    subst h2
    rcases Registry.take_cases cm.registry _ with ⟨-, htk⟩ | ⟨v', hslot, htk⟩
    · rw [htk] at hv
      cases hv
    · rw [htk] at hv
      cases hv
      refine ⟨⟨_, rfl⟩, .inr (.inr (.inl ⟨_, _, _, _, rfl, hi, hr ▸ hslot, rfl, ?_⟩))⟩
      rw [hr]
      simp only [registry, move, htk]
  | timeout hi _ _ _ =>
    exact ⟨⟨cm, hc⟩, .inl ⟨_, _, _, rfl, hi, rfl, fun _ h => h, rfl⟩⟩
  | @cancel _ c _ _ hi =>
    have hch : ((Host.cancel c.opcode).run s.host).2.channel =
        .commander { cm with registry := cm.registry.cancel c.opcode } := by
      rw [Host.cancel_run hc]
    refine ⟨⟨_, hch⟩, .inr (.inr (.inr (.inl ⟨_, _, _, _, rfl, hi, rfl, ?_⟩)))⟩
    rw [hr]
    simp only [registry, move, hch]
  | complete p =>
    have hch := Host.onComplete_channel hc p
    refine ⟨⟨_, hch⟩, .inr (.inr (.inr (.inr ⟨(fun _ h => by cases h), rfl, ?_⟩)))⟩
    simp only [registry, hc, hch]
    rfl
  | status p =>
    have hch := Host.onStatus_channel hc p
    refine ⟨⟨_, hch⟩, .inr (.inr (.inr (.inr ⟨(fun _ h => by cases h), rfl, ?_⟩)))⟩
    simp only [registry, hc, hch]
    rfl

/-- A step moves at most one call, and only one that has not returned. -/
theorem Step.calls_eq {s s' : Senders} {x : Actor} (hs : Step s x s') :
    s'.calls = s.calls ∨ ∃ j a b, x = .sender j ∧ s.calls[j]? = some a ∧
      (∀ r, a ≠ .returned r) ∧ s'.calls = s.calls.set j b := by
  cases hs with
  | tooLong hi _ => exact .inr ⟨_, _, _, rfl, hi, (fun _ h => by cases h), rfl⟩
  | register hi _ _ => exact .inr ⟨_, _, _, rfl, hi, (fun _ h => by cases h), rfl⟩
  | refused hi _ _ => exact .inr ⟨_, _, _, rfl, hi, (fun _ h => by cases h), rfl⟩
  | written hi => exact .inr ⟨_, _, _, rfl, hi, (fun _ h => by cases h), rfl⟩
  | writeFailed _ hi => exact .inr ⟨_, _, _, rfl, hi, (fun _ h => by cases h), rfl⟩
  | wake hi _ => exact .inr ⟨_, _, _, rfl, hi, (fun _ h => by cases h), rfl⟩
  | timeout hi _ _ _ => exact .inr ⟨_, _, _, rfl, hi, (fun _ h => by cases h), rfl⟩
  | cancel hi => exact .inr ⟨_, _, _, rfl, hi, (fun _ h => by cases h), rfl⟩
  | complete p => exact .inl rfl
  | status p => exact .inl rfl

theorem Step.calls_other {s s' : Senders} {x : Actor} (hs : Step s x s') {i : Nat}
    (hx : x ≠ .sender i) : s'.calls[i]? = s.calls[i]? := by
  rcases hs.calls_eq with hc | ⟨j, -, b, hxj, -, -, hc⟩
  · rw [hc]
  · rw [hc, List.getElem?_set_ne]
    rintro rfl
    exact hx hxj

theorem Step.returned_kept {s s' : Senders} {x : Actor} (hs : Step s x s') {i : Nat}
    {r : Except HciError Bytes} (hi : s.calls[i]? = some (.returned r)) :
    s'.calls[i]? = some (.returned r) := by
  rcases hs.calls_eq with hc | ⟨j, a, b, -, hj, ha, hc⟩
  · rw [hc, hi]
  · rw [hc, List.getElem?_set_ne]
    · exact hi
    · rintro rfl
      rw [hi] at hj
      cases hj
      exact ha r rfl

theorem Follows.returned_kept {s s'' : Senders} (hf : Follows s s'') {i : Nat}
    {r : Except HciError Bytes} (hi : s.calls[i]? = some (.returned r)) :
    s''.calls[i]? = some (.returned r) := by
  induction hf with
  | refl => exact hi
  | step hs _ ih => exact ih (hs.returned_kept hi)

/-! ### The invariant holds throughout -/

theorem inv_start (t : Option Nat) (cmds : List Command) : Inv (start t cmds) := by
  -- no call has registered yet
  have hnone : ∀ (i : Nat) (a : SendAt), (start t cmds).calls[i]? = some a →
      a.registration? = none := by
    intro i a hi
    simp only [start, List.getElem?_map, Option.map_eq_some_iff] at hi
    obtain ⟨c, -, rfl⟩ := hi
    rfl
  refine ⟨⟨_, rfl⟩, Registry.wellFormed_empty, ?_, ?_⟩
  · intro i a r hi hr
    rw [hnone i a hi] at hr
    cases hr
  · intro i j a b r q hi _ hr
    rw [hnone i a hi] at hr
    cases hr

theorem Inv.step {s s' : Senders} {x : Actor} (hinv : Inv s) (hs : Step s x s') : Inv s' := by
  obtain ⟨hcm, h | h | h | h | h⟩ := hs.effect hinv
  · -- a call moves on and the registry stays
    obtain ⟨i, a, b, -, hi, hcalls, hkeep, hreg⟩ := h
    refine ⟨hcm, hreg ▸ hinv.wellFormed, ?_, ?_⟩
    · rw [hcalls, hreg]
      exact hinv.below.set hi hkeep (Nat.le_refl _)
    · rw [hcalls]
      exact hinv.apart.set hi hkeep
  · -- a call registers with the next slot
    obtain ⟨i, c, -, -, hp, hcalls, hreg⟩ := h
    have hfresh : ∀ r, (SendAt.writing c ⟨s.registry.slots.length⟩).registration? = some r →
        r.2 = ⟨s.registry.slots.length⟩ := fun r hr => by
      cases hr
      rfl
    have hlen : (s.registry.withFresh c.opcode).slots.length = s.registry.slots.length + 1 := by
      simp [Registry.withFresh]
    refine ⟨hcm, ?_, ?_, ?_⟩
    · rw [hreg]
      exact hinv.wellFormed.register (Registry.register_ok hp)
    · rw [hcalls, hreg, hlen]
      exact hinv.below.set_fresh hfresh
    · rw [hcalls]
      exact hinv.apart.set_fresh hinv.below hfresh
  · -- a call takes the answer in its slot
    obtain ⟨i, c, id, v, -, hi, hslot, hcalls, hreg⟩ := h
    have hwf := hinv.wellFormed.take id
    rw [Registry.take_of_filled hslot] at hwf
    refine ⟨hcm, hreg ▸ hwf, ?_, ?_⟩
    · rw [hcalls, hreg]
      exact hinv.below.set hi (fun _ h => by cases h) (by simp)
    · rw [hcalls]
      exact hinv.apart.set hi fun _ h => by cases h
  · -- a call cancels the registration for its opcode
    obtain ⟨i, c, id, e, -, hi, hcalls, hreg⟩ := h
    refine ⟨hcm, hreg ▸ hinv.wellFormed.cancel _, ?_, ?_⟩
    · rw [hcalls, hreg]
      exact hinv.below.set hi (fun _ h => by cases h) (Nat.le_refl _)
    · rw [hcalls]
      exact hinv.apart.set hi fun _ h => by cases h
  · -- the reader delivers
    obtain ⟨-, hcalls, hreg⟩ := h
    refine ⟨hcm, hreg ▸ hinv.wellFormed.completeAll _, ?_, hcalls ▸ hinv.apart⟩
    rw [hcalls, hreg, Registry.length_slots_completeAll]
    exact hinv.below

theorem Inv.of_reachable {t : Option Nat} {cmds : List Command} {s : Senders}
    (hr : Reachable t cmds s) : Inv s := by
  induction hr with
  | start => exact inv_start t cmds
  | step _ hs ih => exact ih.step hs

/-! ### Removing registrations and filling slots -/

section Removal

variable {s s' : Senders} {x : Actor}

/-- A registration leaves the registry only by a delivery for its opcode, which puts its answer
into exactly that registration's slot, or by a call that cancels its opcode. -/
theorem Step.removes (hinv : Inv s) (hs : Step s x s') {e : Opcode × SlotId}
    (he : e ∈ s.registry.pending) (hgone : e ∉ s'.registry.pending) :
    (∃ v, x.delivers = some (e.1, v) ∧ s'.registry.slots[e.2.index]? = some (some v)) ∨
    ∃ i c id err, x = .sender i ∧ s.calls[i]? = some (.cancelling c id err) ∧ c.opcode = e.1 := by
  obtain ⟨-, h | h | h | h | h⟩ := hs.effect hinv
  · -- the registry is as it was
    obtain ⟨_, _, _, -, -, -, -, hreg⟩ := h
    rw [hreg] at hgone
    exact absurd he hgone
  · -- a fresh registration adds to the registry
    obtain ⟨_, _, -, -, -, -, hreg⟩ := h
    rw [hreg] at hgone
    exact absurd (List.mem_append_left _ he) hgone
  · -- taking an answer leaves the registrations
    obtain ⟨_, _, _, _, -, -, -, -, hreg⟩ := h
    rw [hreg] at hgone
    exact absurd he hgone
  · -- a cancellation removes the registration for its opcode
    obtain ⟨i, c, id, err, hx, hi, -, hreg⟩ := h
    rw [hreg] at hgone
    refine .inr ⟨i, c, id, err, hx, hi, ?_⟩
    by_contra hne
    exact hgone (List.mem_filter.mpr ⟨he, by simpa using Ne.symm hne⟩)
  · -- a delivery removes the registration for its opcode and fills its slot
    obtain ⟨-, -, hreg⟩ := h
    rw [hreg] at hgone ⊢
    obtain ⟨v, hv, hslot⟩ := hinv.wellFormed.removed_by_completeAll he _ hgone
    exact .inl ⟨v, Registry.firstAnswer_toList hv, hslot⟩

/-- An answer delivered for the opcode of a registration lands in its slot. -/
theorem Step.delivered_slot (hinv : Inv s) (hs : Step s x s') {e : Opcode × SlotId} {v : Bytes}
    (he : e ∈ s.registry.pending) (hd : x.delivers = some (e.1, v)) :
    s'.registry.slots[e.2.index]? = some (some v) := by
  obtain ⟨-, h | h | h | h | h⟩ := hs.effect hinv
  -- a call's step delivers nothing
  · obtain ⟨_, _, _, rfl, -⟩ := h
    cases hd
  · obtain ⟨_, _, rfl, -⟩ := h
    cases hd
  · obtain ⟨_, _, _, _, rfl, -⟩ := h
    cases hd
  · obtain ⟨_, _, _, _, rfl, -⟩ := h
    cases hd
  · obtain ⟨-, -, hreg⟩ := h
    rw [hreg, hd]
    obtain ⟨hslot, -⟩ := Registry.slot_completeAll_solo _ s.registry he
      (hinv.wellFormed.unfilled e he) (hinv.wellFormed.solo he)
    rw [hslot]
    simp [firstAnswer_cons_self]

/-- A slot that no registration holds and that no call takes in this step stays as it is. -/
theorem Step.slot_kept (hinv : Inv s) (hs : Step s x s') {k : SlotId}
    (hfree : ∀ e ∈ s.registry.pending, e.2 ≠ k)
    (hwait : ∀ j c, x = .sender j → s.calls[j]? ≠ some (.waiting c k))
    (hk : k.index < s.registry.slots.length) :
    s'.registry.slots[k.index]? = s.registry.slots[k.index]? := by
  obtain ⟨-, h | h | h | h | h⟩ := hs.effect hinv
  · obtain ⟨_, _, _, -, -, -, -, hreg⟩ := h
    rw [hreg]
  · -- the fresh slot comes after every slot handed out
    obtain ⟨_, _, -, -, -, -, hreg⟩ := h
    rw [hreg]
    exact List.getElem?_append_left hk
  · -- the slot taken is the waiting call's own, not `k`
    obtain ⟨j, c, id, -, hx, hi, -, -, hreg⟩ := h
    have hne : id.index ≠ k.index := fun hid =>
      hwait j c hx (by rw [hi, show id = k from congrArg SlotId.mk hid])
    rw [hreg]
    exact List.getElem?_set_ne hne
  · obtain ⟨_, _, _, -, -, -, -, hreg⟩ := h
    rw [hreg]
    rfl
  · obtain ⟨-, -, hreg⟩ := h
    rw [hreg]
    exact Registry.slot_completeAll_of_free _ _ hfree

/-- A call waiting on a filled slot stays waiting on it, or takes the answer: its wait does not
run out, and no other step touches the slot. -/
theorem Step.waiting_kept (hinv : Inv s) (hs : Step s x s') {i : Nat} {c : Command} {id : SlotId}
    {v : Bytes} (hi : s.calls[i]? = some (.waiting c id))
    (hv : s.registry.slots[id.index]? = some (some v)) :
    (s'.calls[i]? = some (.waiting c id) ∧ s'.registry.slots[id.index]? = some (some v)) ∨
      s'.calls[i]? = some (.returned (.ok v)) := by
  obtain ⟨cm, hc⟩ := hinv.commander
  by_cases hx : x = .sender i
  · -- the call's own step can only be to take the answer
    subst hx
    right
    have hlt : i < s.calls.length := (List.getElem?_eq_some_iff.mp hi).1
    cases hs with
    | tooLong hi' _ => simp [hi] at hi'
    | register hi' _ _ => simp [hi] at hi'
    | refused hi' _ _ => simp [hi] at hi'
    | written hi' => simp [hi] at hi'
    | writeFailed _ hi' => simp [hi] at hi'
    | cancel hi' => simp [hi] at hi'
    | wake hi' ht =>
      rw [hi] at hi'
      cases hi'
      rw [Host.take_run hc, Registry.take_of_filled (registry_eq hc ▸ hv)] at ht
      injection ht with hv' _
      cases hv'
      exact List.getElem?_set_self hlt
    | timeout hi' hc' _ he =>
      rw [hi] at hi'
      cases hi'
      rw [registry_eq hc'] at hv
      simp [Registry.isFilled, hv] at he
  · -- any other step leaves the call, and the slot, which no registration and no other call holds
    left
    have hfree : ∀ e ∈ s.registry.pending, e.2 ≠ id := fun e he hid => by
      have hu := hinv.wellFormed.unfilled e he
      rw [hid, hv] at hu
      cases hu
    have hwait : ∀ j c', x = .sender j → s.calls[j]? ≠ some (.waiting c' id) := fun j c' hxj hj =>
      hx (hxj.trans (congrArg Actor.sender (hinv.apart j i _ _ _ _ hj hi rfl rfl rfl)))
    have hk : id.index < s.registry.slots.length := (List.getElem?_eq_some_iff.mp hv).1
    exact ⟨(hs.calls_other hx).trans hi, (hs.slot_kept hinv hfree hwait hk).trans hv⟩

end Removal

/-- Whatever follows, a call waiting on a filled slot is still waiting on it or has returned
that answer. -/
theorem Follows.waiting_returns {s s'' : Senders} (hf : Follows s s'') (hinv : Inv s) {i : Nat}
    {c : Command} {id : SlotId} {v : Bytes} (hi : s.calls[i]? = some (.waiting c id))
    (hv : s.registry.slots[id.index]? = some (some v)) :
    s''.calls[i]? = some (.waiting c id) ∨ s''.calls[i]? = some (.returned (.ok v)) := by
  induction hf with
  | refl => exact .inl hi
  | step hs hf ih =>
    rcases hs.waiting_kept hinv hi hv with ⟨hi', hv'⟩ | hret
    · exact ih (hinv.step hs) hi' hv'
    · exact .inr (hf.returned_kept hret)

/-! ### Who removes a registration, and who gets an answer -/

/-- The step from `s` by `x` to `s'` removes a registration only by a delivery for its opcode,
whose answer is then in its slot, or by a call that cancels its opcode. -/
def RemovesByOpcode (s : Senders) (x : Actor) (s' : Senders) : Prop :=
  ∀ e ∈ s.registry.pending, e ∉ s'.registry.pending →
    (∃ v, x.delivers = some (e.1, v) ∧ s'.registry.slots[e.2.index]? = some (some v)) ∨
    ∃ i c id err, x = .sender i ∧ s.calls[i]? = some (.cancelling c id err) ∧ c.opcode = e.1

/-- A call waiting on a registration that the step delivers an answer to returns that answer,
if it returns at all, whatever follows. -/
def WaiterGetsDelivery (s : Senders) (x : Actor) (s' : Senders) : Prop :=
  ∀ (i : Nat) (c : Command) (id : SlotId) (v : Bytes), s.calls[i]? = some (.waiting c id) →
    (c.opcode, id) ∈ s.registry.pending → x.delivers = some (c.opcode, v) →
      ∀ s'', Follows s' s'' → ∀ r : Except HciError Bytes, s''.calls[i]? = some (.returned r) →
        r = .ok v

/-- Along every interleaving of send calls and deliveries, a registration is removed only by a
delivery for its opcode, which fills exactly its slot, or by a call that cancels its opcode; and
a call that is waiting when its answer is delivered returns that answer. -/
theorem registration_removal {t : Option Nat} {cmds : List Command} {s s' : Senders} {x : Actor}
    (hr : Reachable t cmds s) (hs : Step s x s') :
    RemovesByOpcode s x s' ∧ WaiterGetsDelivery s x s' := by
  have hinv := Inv.of_reachable hr
  refine ⟨fun e he hgone => hs.removes hinv he hgone, ?_⟩
  intro i c id v hi hm hd s'' hf r hret
  -- the delivery fills the waiting call's slot and leaves the call waiting
  have hx : x ≠ .sender i := by
    rintro rfl
    cases hd
  have hslot := hs.delivered_slot hinv hm hd
  rcases hf.waiting_returns (hinv.step hs) ((hs.calls_other hx).trans hi) hslot with hw | hok
  · rw [hw] at hret
    cases hret
  · rw [hok] at hret
    cases hret
    rfl

/-- A reset waiting on its registration when its answer arrives: the delivery is for the
registration the call holds, and the step keeps both laws. -/
theorem registration_removal_waiting :
    ∃ s s', Reachable (some 0) [.reset] s ∧ Step s (.complete [0x01, 0x03, 0x0c, 0x00]) s' ∧
      s.calls[0]? = some (.waiting .reset ⟨0⟩) ∧ (Command.reset.opcode, ⟨0⟩) ∈ s.registry.pending ∧
      RemovesByOpcode s (.complete [0x01, 0x03, 0x0c, 0x00]) s' ∧
      WaiterGetsDelivery s (.complete [0x01, 0x03, 0x0c, 0x00]) s' := by
  -- the call registers reset's opcode with slot 0 and writes; then its answer arrives
  have hr := Reachable.step (Reachable.step (@Reachable.start (some 0) [.reset])
    (@Step.register _ 0 _ _ _ _ rfl rfl rfl)) (@Step.written _ 0 _ _ rfl)
  exact ⟨_, _, hr, Step.complete _ _, rfl, by decide, registration_removal hr (Step.complete _ _)⟩

/-- The step removes a registration only by a delivery for its opcode, or by the call that
holds it. -/
def RemovesOwnOnly (s : Senders) (x : Actor) (s' : Senders) : Prop :=
  ∀ e ∈ s.registry.pending, e ∉ s'.registry.pending →
    (∃ v, x.delivers = some (e.1, v) ∧ s'.registry.slots[e.2.index]? = some (some v)) ∨
    ∃ i, x = .sender i ∧ (s.calls[i]?).bind SendAt.registration? = some e

/-- A call holding a registration that the step delivers an answer to returns that answer, if it
returns at all, whatever follows. -/
def HolderGetsDelivery (s : Senders) (x : Actor) (s' : Senders) : Prop :=
  ∀ (i : Nat) (e : Opcode × SlotId) (v : Bytes), (s.calls[i]?).bind SendAt.registration? = some e →
    e ∈ s.registry.pending → x.delivers = some (e.1, v) →
      ∀ s'', Follows s' s'' → ∀ r : Except HciError Bytes, s''.calls[i]? = some (.returned r) →
        r = .ok v

/-- Two resets on a commander with a response timeout: the first call's wait runs out, its
answer arrives late, and the second call registers the same opcode before the first cancels.
The first call's cancel removes the second call's registration, and the first call fails
although its answer was delivered while it held its registration. -/
theorem cancel_race :
    (∃ s x s', Reachable (some 0) [.reset, .reset] s ∧ Step s x s' ∧ ¬ RemovesOwnOnly s x s') ∧
    (∃ s x s', Reachable (some 0) [.reset, .reset] s ∧ Step s x s' ∧ ¬ HolderGetsDelivery s x s') := by
  -- call 0 registers reset's opcode with slot 0, writes, and its wait runs out
  have r3 := Reachable.step (Reachable.step (Reachable.step
    (@Reachable.start (some 0) [.reset, .reset]) (@Step.register _ 0 _ _ _ _ rfl rfl rfl))
    (@Step.written _ 0 _ _ rfl)) (@Step.timeout _ 0 _ _ _ rfl rfl rfl rfl)
  -- the answer to it arrives: a Command Complete for reset with status 00
  have r4 := Reachable.step r3 (Step.complete _ [0x01, 0x03, 0x0c, 0x00])
  -- call 1 registers the same opcode with slot 1 and writes
  have r6 := Reachable.step (Reachable.step r4 (@Step.register _ 1 _ _ _ _ rfl rfl rfl))
    (@Step.written _ 1 _ _ rfl)
  refine ⟨⟨_, _, _, r6, @Step.cancel _ 0 _ _ _ rfl, ?_⟩,
    ⟨_, _, _, r3, Step.complete _ [0x01, 0x03, 0x0c, 0x00], ?_⟩⟩
  · -- call 0's cancel removes the registration of call 1
    intro h
    rcases h (Command.reset.opcode, ⟨1⟩) (by decide) (by decide) with ⟨v, hv, -⟩ | ⟨i, hx, hown⟩
    · cases hv
    · cases hx
      exact absurd hown (by decide)
  · -- call 0 held its registration when the answer came, and still fails
    intro h
    have hret := h 0 (Command.reset.opcode, ⟨0⟩) [0x00] rfl (by decide) rfl _
      (.step (@Step.register _ 1 _ _ _ _ rfl rfl rfl) (.step (@Step.written _ 1 _ _ rfl)
        (.step (@Step.cancel _ 0 _ _ _ rfl) (.refl _)))) _ rfl
    cases hret

end Senders

end HciHost
