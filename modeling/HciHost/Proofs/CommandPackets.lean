import HciHost.Command.Basic

/-!
# Command packets

What a command packet says, read back from its bytes. A command's fields, in the order they are
declared, each go on the wire little-endian at the width of its type: eight bytes for a 64-bit
mask, two for a 16-bit word, one for a byte; a device class and a raw command's parameters are
written byte by byte, as given.

* `Command.fields` lists a command's fields with their widths, and `Bytes.readFields` reads
  little-endian numbers of given widths one after another.
* `Command.readFields_params`: reading a command's parameter block at its fields' widths gives
  the fields back and leaves nothing over, so the block has the fixed length of its kind.
* `Command.toPacket_layout`: a command is framed exactly when its parameter block has at most
  255 bytes; the packet is the tag, the opcode low byte first, the exact length and the
  parameters; otherwise the error names the length, and only a raw command gets it.
-/

namespace HciHost

namespace Bytes

/-- Reads a little-endian number of `w` bytes from the front of `b`: the number and the bytes
after it; `none` if `b` has fewer than `w` bytes. -/
def readField (w : Nat) (b : Bytes) : Option (Nat × Bytes) :=
  if w ≤ b.length then some (toNatLE (b.take w), b.drop w) else none

/-- Reads little-endian numbers of widths `ws`, one after another, from the front of `b`: the
numbers and the bytes after the last. -/
def readFields : List Nat → Bytes → Option (List Nat × Bytes)
  | [], b => some ([], b)
  | w :: ws, b =>
    match readField w b with
    | none => none
    | some (n, rest) => (readFields ws rest).map fun (ns, rest') => (n :: ns, rest')

/-- Numbers written one after another, each `(width, value)` little-endian at its width. -/
def writeFields (fs : List (Nat × Nat)) : Bytes :=
  fs.flatMap fun f => le f.1 f.2

theorem readField_le_append {w n : Nat} (hn : n < Nat.pow 256 w) (rest : Bytes) :
    readField w (le w n ++ rest) = some (n, rest) := by
  have hlen := length_le w n
  have htake : (le w n ++ rest).take w = le w n := List.take_left' hlen
  have hdrop : (le w n ++ rest).drop w = rest := List.drop_left' hlen
  rw [readField, if_pos (by simp [hlen]), htake, hdrop, toNatLE_le, Nat.mod_eq_of_lt hn]

/-- Numbers that fit their widths are read back from what `writeFields` writes. -/
theorem readFields_writeFields (fs : List (Nat × Nat)) (hfs : ∀ f ∈ fs, f.2 < Nat.pow 256 f.1)
    (rest : Bytes) : readFields (fs.map (·.1)) (writeFields fs ++ rest) = some (fs.map (·.2), rest) := by
  induction fs with
  | nil => rfl
  | cons f fs ih =>
    have hf := hfs f (List.mem_cons_self ..)
    have hrest := ih (fun g hg => hfs g (List.mem_cons_of_mem _ hg))
    simp only [List.map_cons, writeFields, List.flatMap_cons, List.append_assoc] at hrest ⊢
    rw [readFields, readField_le_append hf]
    dsimp only
    rw [hrest]
    rfl

theorem length_writeFields (fs : List (Nat × Nat)) :
    (writeFields fs).length = (fs.map (·.1)).foldr (· + ·) 0 := by
  induction fs with
  | nil => rfl
  | cons f fs ih =>
    simp only [writeFields, List.flatMap_cons, List.length_append, List.map_cons,
      List.foldr_cons] at ih ⊢
    rw [length_le, ih]

/-- A byte is its own one-byte little-endian form. -/
theorem le_one_toNat (x : UInt8) : le 1 x.toNat = [x] := by
  simp [le]

end Bytes

namespace Command

/-- The fields of a command in the order they are declared, each with its width in bytes and
its value. A device class and a raw command's parameters are one-byte fields. -/
def fields : Command → List (Nat × Nat)
  | .reset => []
  | .setEventMask m => [(8, m.toNat)]
  | .leSetEventMask m => [(8, m.bits.toNat)]
  | .writeSimplePairingMode x => [(1, x.toNat)]
  | .writeLeHostSupported a b => [(1, a.toNat), (1, b.toNat)]
  | .writeInquiryMode x => [(1, x.toNat)]
  | .writePageScanType x => [(1, x.toNat)]
  | .writeInquiryScanType x => [(1, x.toNat)]
  | .writeClassOfDevice d => d.bytes.map fun b => (1, b.toNat)
  | .writePageTimeout t => [(2, t.toNat)]
  | .writeDefaultLinkPolicy p => [(2, p.bits.toNat)]
  | .hostBufferSize a s c d => [(2, a.toNat), (1, s.toNat), (2, c.toNat), (2, d.toNat)]
  | .raw _ p => p.map fun b => (1, b.toNat)

/-- Every field fits its width. -/
theorem fields_lt (c : Command) : ∀ f ∈ c.fields, f.2 < Nat.pow 256 f.1 := by
  have h8 : ∀ x : UInt8, x.toNat < 256 := fun x => x.toNat_lt
  have h16 : ∀ x : UInt16, x.toNat < 65536 := fun x => x.toNat_lt
  have h64 : ∀ x : UInt64, x.toNat < 18446744073709551616 := fun x => x.toNat_lt
  cases c <;> simp [fields, Nat.pow_eq, h8, h16, h64]

theorem params_eq_writeFields (c : Command) : c.params = Bytes.writeFields c.fields := by
  cases c <;> simp [params, fields, Bytes.writeFields, Bytes.le_one_toNat, List.flatMap_map]

/-- Reading a command's parameter block at its fields' widths gives its fields back and leaves
nothing over. -/
theorem readFields_params (c : Command) :
    Bytes.readFields (c.fields.map (·.1)) c.params = some (c.fields.map (·.2), []) := by
  rw [params_eq_writeFields, ← List.append_nil (Bytes.writeFields c.fields)]
  exact Bytes.readFields_writeFields c.fields c.fields_lt []

theorem length_params (c : Command) : c.params.length = (c.fields.map (·.1)).foldr (· + ·) 0 := by
  rw [params_eq_writeFields, Bytes.length_writeFields]

/-- The two wire bytes of an opcode: the low byte, then the high byte. -/
theorem toLE_lo_hi (o : Opcode) :
    ∃ lo hi : UInt8, o.toLE = [lo, hi] ∧ lo.toNat + 256 * hi.toNat = o.value.toNat := by
  refine ⟨_, _, rfl, ?_⟩
  have hv := o.value.toNat_lt
  simp only [UInt8.toNat_ofNat', Nat.reducePow] at hv ⊢
  omega

/-- A command is framed exactly when its parameter block has at most 255 bytes. The packet is
then the command tag `0x01`, the opcode low byte first, the block's length in one byte, exact,
and the block, from which the opcode reads back. The block holds the command's fields
little-endian at their widths, so its length is fixed by the command's kind. Otherwise framing
fails with the block's length, and only a raw command's block is that long. -/
theorem toPacket_layout (c : Command) :
    ((∃ p, c.toPacket = .ok p) ↔ c.params.length ≤ 255) ∧
    (∀ p, c.toPacket = .ok p →
      ∃ lo hi len : UInt8, p = 0x01 :: lo :: hi :: len :: c.params ∧
        lo.toNat + 256 * hi.toNat = c.opcode.value.toNat ∧ len.toNat = c.params.length ∧
        Opcode.ofLE? (p.drop 1) = some c.opcode ∧ p.length = 4 + c.params.length) ∧
    Bytes.readFields (c.fields.map (·.1)) c.params = some (c.fields.map (·.2), []) ∧
    c.params.length = (c.fields.map (·.1)).foldr (· + ·) 0 ∧
    (∀ e, c.toPacket = .error e →
      e = .invalidParamLength c.params.length ∧ 255 < c.params.length ∧
        ∃ op ps, c = .raw op ps) := by
  refine ⟨⟨fun ⟨_, hp⟩ => (toPacket_eq_ok_iff.mp hp).1,
      fun hle => ⟨_, toPacket_eq_ok_iff.mpr ⟨hle, rfl⟩⟩⟩,
    fun p hp => ?_, readFields_params c, length_params c, fun e he => ?_⟩
  · obtain ⟨hle, rfl⟩ := toPacket_eq_ok_iff.mp hp
    obtain ⟨lo, hi, hop, hval⟩ := toLE_lo_hi c.opcode
    have hlen : (UInt8.ofNat c.params.length).toNat = c.params.length := by
      simp only [UInt8.toNat_ofNat', Nat.reducePow]
      exact Nat.mod_eq_of_lt (Nat.lt_succ_of_le hle)
    have hdrop : ([0x01] ++ c.opcode.toLE ++ [UInt8.ofNat c.params.length] ++ c.params).drop 1 =
        c.opcode.toLE ++ (UInt8.ofNat c.params.length :: c.params) := by
      simp
    refine ⟨lo, hi, UInt8.ofNat c.params.length, by simp [hop], hval, hlen, ?_, by simp [hop]; omega⟩
    rw [hdrop]
    exact Opcode.ofLE?_toLE_append c.opcode _
  · obtain ⟨hlt, rfl⟩ := toPacket_eq_error_iff.mp he
    refine ⟨rfl, hlt, ?_⟩
    -- any other command's block has at most eight bytes
    by_cases hraw : ∃ op ps, c = .raw op ps
    · exact hraw
    · have h8 := params_length_le c fun op ps h => hraw ⟨op, ps, h⟩
      exact absurd hlt (by unfold maxParamLength; omega)

/- The mixed widths of a host buffer size: a 16-bit word, a byte, then two 16-bit words. -/
example : (Command.hostBufferSize 0x1234 0x56 0x789A 0xBCDE).toPacket =
    .ok [0x01, 0x33, 0x0C, 7, 0x34, 0x12, 0x56, 0x9A, 0x78, 0xDE, 0xBC] := by rfl

end Command

end HciHost
