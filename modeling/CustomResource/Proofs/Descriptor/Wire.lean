import CustomResource.Descriptor.Wire
import Mathlib.Algebra.Group.Nat.Defs

/-!
# Reading back what was written

What is written can be read back, whatever follows it: a varint, a key, a field.  A reader takes the field off
the front and goes on behind it, with the levels it has.  Readers of fields are given fuel, one unit for each
byte, and never run out of it (`readFieldsWithin_eq_readFields`).
-/

namespace CustomResource.Descriptor.Wire

/-! ## Varints -/

/-- Seven bits fit a byte in each group but the last, which has one. -/
theorem readGroups_writeGroups (groups n : Nat) (h : n < 2 * 128 ^ groups) (rest : Bytes) :
    readGroups groups (writeGroups groups n ++ rest) = some (n, rest) := by
  induction groups generalizing n with
  | zero =>
      have hbyte : (UInt8.ofNat n).toNat = n := UInt8.toNat_ofNat_of_lt' (show n < 256 by omega)
      rw [writeGroups, List.singleton_append, readGroups, hbyte, if_pos (by omega)]
  | succ groups ih =>
      by_cases hlast : n < 128
      · have hbyte : (UInt8.ofNat n).toNat = n := UInt8.toNat_ofNat_of_lt' (show n < 256 by omega)
        rw [writeGroups, if_pos hlast, List.singleton_append, readGroups, hbyte, if_pos hlast]
      · have hbyte : (UInt8.ofNat (n % 128 + 128)).toNat = n % 128 + 128 :=
          UInt8.toNat_ofNat_of_lt' (show n % 128 + 128 < 256 by omega)
        have hhigh : n / 128 < 2 * 128 ^ groups := by
          rw [Nat.div_lt_iff_lt_mul (by decide), Nat.mul_assoc, ← Nat.pow_succ]
          exact h
        rw [writeGroups, if_neg hlast, List.cons_append, readGroups, hbyte, if_neg (by omega),
          ih _ hhigh]
        simp only [Option.some.injEq, Prod.mk.injEq, and_true]
        omega

/-- A varint holds 64 bits. -/
theorem readVarint_writeVarint {n : Nat} (h : n < 2 ^ 64) (rest : Bytes) :
    readVarint (writeVarint n ++ rest) = some (n, rest) :=
  readGroups_writeGroups 9 n h rest

theorem length_of_readGroups {groups n : Nat} {bytes rest : Bytes}
    (h : readGroups groups bytes = some (n, rest)) : rest.length < bytes.length := by
  induction groups generalizing n bytes with
  | zero =>
      cases bytes with
      | nil => simp [readGroups] at h
      | cons byte more =>
          rw [readGroups] at h
          split at h
          · cases h
            simp
          · cases h
  | succ groups ih =>
      cases bytes with
      | nil => simp [readGroups] at h
      | cons byte more =>
          rw [readGroups] at h
          split at h
          · cases h
            simp
          · split at h
            · next hmore =>
                cases h
                have hlt := ih hmore
                rw [List.length_cons]
                omega
            · cases h

/-! ## Keys -/

theorem Shape.ofCode?_code (shape : Shape) : Shape.ofCode? shape.code = some shape := by
  cases shape <;> rfl

theorem Shape.code_lt (shape : Shape) : shape.code < 8 := by
  cases shape <;> decide

/-- The numbers that fields may have. -/
def IsFieldNumber (number : Nat) : Prop :=
  0 < number ∧ number < 2 ^ 29
  deriving Decidable

theorem readKey_writeKey {number : Nat} (hnumber : IsFieldNumber number) (shape : Shape)
    (rest : Bytes) : readKey (writeKey number shape ++ rest) = some (number, shape, rest) := by
  obtain ⟨hpos, hlt⟩ := hnumber
  have hcode := shape.code_lt
  have hmod : (8 * number + shape.code) % 8 = shape.code := by omega
  have hdiv : (8 * number + shape.code) / 8 = number := by omega
  have hkey : 8 * number + shape.code < 0x100000000 := by omega
  rw [readKey, writeKey, readVarint_writeVarint (by omega)]
  simp only [Option.bind_eq_bind, Option.bind_some, hmod, hdiv, Shape.ofCode?_code]
  rw [if_pos ⟨hkey, hpos⟩]

theorem length_of_readKey {bytes rest : Bytes} {number : Nat} {shape : Shape}
    (h : readKey bytes = some (number, shape, rest)) : rest.length < bytes.length := by
  simp only [readKey, Option.bind_eq_bind, Option.bind_eq_some_iff] at h
  obtain ⟨⟨key, after⟩, hvarint, code, -, hkey⟩ := h
  split at hkey
  · cases hkey
    exact length_of_readGroups hvarint
  · cases hkey

/-! ## Values -/

theorem length_of_dropBytes {count : Nat} {bytes rest : Bytes} (h : dropBytes count bytes = some rest) :
    rest.length ≤ bytes.length := by
  rw [dropBytes] at h
  split at h
  · cases h
    simp
  · cases h

theorem length_of_readDelimited {bytes payload rest : Bytes}
    (h : readDelimited bytes = some (payload, rest)) : rest.length ≤ bytes.length := by
  simp only [readDelimited, Option.bind_eq_bind, Option.bind_eq_some_iff] at h
  obtain ⟨⟨length, after⟩, hvarint, hpayload⟩ := h
  have hlt : after.length < bytes.length := length_of_readGroups hvarint
  split at hpayload
  · cases hpayload
    have hdrop : (after.drop length).length ≤ after.length := by simp
    exact Nat.le_of_lt (Nat.lt_of_le_of_lt hdrop hlt)
  · cases hpayload

theorem length_of_readVarint {bytes rest : Bytes} (h : (readVarint bytes).map (·.2) = some rest) :
    rest.length ≤ bytes.length := by
  obtain ⟨⟨n, after⟩, hvarint, rfl⟩ := Option.map_eq_some_iff.1 h
  exact Nat.le_of_lt (length_of_readGroups hvarint)

/-- If neither of two steps leaves more bytes than it got, both together do not. -/
theorem length_of_bind {count : Nat} {step : Option Bytes} {next : Bytes → Option Bytes} {rest : Bytes}
    (hstep : ∀ behind, step = some behind → behind.length ≤ count)
    (hnext : ∀ behind, next behind = some rest → rest.length ≤ behind.length)
    (h : step.bind next = some rest) : rest.length ≤ count := by
  obtain ⟨behind, hbehind, hrest⟩ := Option.bind_eq_some_iff.1 h
  exact Nat.le_trans (hnext behind hrest) (hstep behind hbehind)

theorem length_of_skipGroup {fuel levels number : Nat} {bytes rest : Bytes}
    (h : skipGroup fuel levels number bytes = some rest) : rest.length ≤ bytes.length := by
  induction fuel generalizing levels number bytes rest with
  | zero => cases h
  | succ fuel ih =>
      simp only [skipGroup, Option.bind_eq_bind, Option.bind_eq_some_iff] at h
      obtain ⟨⟨inner, shape, after⟩, hkey, hrest⟩ := h
      have hlt := length_of_readKey hkey
      split at hrest
      · split at hrest
        · cases hrest
          exact Nat.le_of_lt hlt
        · cases hrest
      · cases levels with
        | zero => cases hrest
        | succ below =>
            -- What is skipped after the key leaves no more bytes, and so does the rest of the group.
            have hgroup : ∀ behind, skipGroup fuel (below + 1) number behind = some rest →
                rest.length ≤ behind.length := fun _ => ih
            refine Nat.le_trans ?_ (Nat.le_of_lt hlt)
            cases shape with
            | varint => exact length_of_bind (fun _ => length_of_readVarint) hgroup hrest
            | fixed64 => exact length_of_bind (fun _ => length_of_dropBytes) hgroup hrest
            | delimited =>
                refine length_of_bind (fun _ hdelimited => ?_) hgroup hrest
                obtain ⟨⟨payload, last⟩, hpayload, rfl⟩ := Option.map_eq_some_iff.1 hdelimited
                exact length_of_readDelimited hpayload
            | groupStart => exact length_of_bind (fun _ => ih) hgroup hrest
            | groupEnd => cases hrest
            | fixed32 => exact length_of_bind (fun _ => length_of_dropBytes) hgroup hrest

theorem length_of_readValue {levels number : Nat} {shape : Shape} {bytes rest : Bytes} {value : Value}
    (h : readValue levels number shape bytes = some (value, rest)) : rest.length ≤ bytes.length := by
  cases shape with
  | varint =>
      obtain ⟨⟨n, after⟩, hvarint, heq⟩ := Option.map_eq_some_iff.1 h
      cases heq
      exact Nat.le_of_lt (length_of_readGroups hvarint)
  | fixed64 =>
      obtain ⟨after, hdrop, heq⟩ := Option.map_eq_some_iff.1 h
      cases heq
      exact length_of_dropBytes hdrop
  | delimited =>
      obtain ⟨⟨payload, after⟩, hpayload, heq⟩ := Option.map_eq_some_iff.1 h
      cases heq
      exact length_of_readDelimited hpayload
  | groupStart =>
      cases levels with
      | zero => cases h
      | succ below =>
          obtain ⟨after, hskip, heq⟩ := Option.map_eq_some_iff.1 h
          cases heq
          exact length_of_skipGroup hskip
  | groupEnd => cases h
  | fixed32 =>
      obtain ⟨after, hdrop, heq⟩ := Option.map_eq_some_iff.1 h
      cases heq
      exact length_of_dropBytes hdrop

/-! ## Fields -/

/-- Fuel for every byte is enough, and more fuel changes nothing. -/
theorem readFieldsWithin_eq_readFields (levels : Nat) {fuel : Nat} {bytes : Bytes}
    (h : bytes.length ≤ fuel) : readFieldsWithin levels fuel bytes = readFields levels bytes := by
  have hany : ∀ (fuel other : Nat) (bytes : Bytes), bytes.length ≤ fuel → bytes.length ≤ other →
      readFieldsWithin levels fuel bytes = readFieldsWithin levels other bytes := by
    intro fuel
    induction fuel with
    | zero =>
        intro other bytes hfuel _
        obtain rfl : bytes = [] := List.eq_nil_of_length_eq_zero (by omega)
        rw [readFieldsWithin, readFieldsWithin]
    | succ fuel ih =>
        intro other bytes hfuel hother
        cases bytes with
        | nil => rw [readFieldsWithin, readFieldsWithin]
        | cons byte more =>
            rw [List.length_cons] at hfuel hother
            obtain ⟨other, rfl⟩ : ∃ n, other = n + 1 := ⟨other - 1, by omega⟩
            rw [readFieldsWithin, readFieldsWithin]
            refine Option.bind_congr ?_
            rintro ⟨number, shape, rest⟩ hkey
            refine Option.bind_congr ?_
            rintro ⟨value, behind⟩ hvalue
            have hrest := length_of_readKey hkey
            have hbehind := length_of_readValue hvalue
            rw [List.length_cons] at hrest
            show (readFieldsWithin levels fuel behind).bind _ = (readFieldsWithin levels other behind).bind _
            rw [ih other behind (by omega) (by omega)]
  exact hany fuel bytes.length bytes h (Nat.le_refl _)

/-- Reading takes a key and a value off the front, and goes on. -/
theorem readFields_cons {levels number : Nat} {shape : Shape} {value : Value} {bytes after rest : Bytes}
    (hkey : readKey bytes = some (number, shape, after))
    (hvalue : readValue levels number shape after = some (value, rest)) :
    readFields levels bytes = (readFields levels rest).map ((number, value) :: ·) := by
  have hafter := length_of_readKey hkey
  have hrest := length_of_readValue hvalue
  cases bytes with
  | nil => simp at hafter
  | cons byte more =>
      rw [List.length_cons] at hafter
      rw [readFields, List.length_cons, readFieldsWithin, hkey]
      simp only [Option.bind_eq_bind, Option.bind_some, hvalue]
      rw [readFieldsWithin_eq_readFields levels (by omega : rest.length ≤ more.length)]
      cases readFields levels rest <;> rfl

/-! ## Written fields -/

theorem length_payload_lt {number : Nat} {payload : Bytes} {bound : Nat}
    (h : (writeDelimited number payload).length < bound) : payload.length < bound := by
  simp only [writeDelimited, List.length_append] at h
  omega

section Written

variable {number : Nat} (levels : Nat) (hnumber : IsFieldNumber number)
include hnumber

/-- A field with a payload is read back, whatever the levels. -/
theorem readFields_writeDelimited {payload : Bytes}
    (h : (writeDelimited number payload).length < 2 ^ 64) (rest : Bytes) :
    readFields levels (writeDelimited number payload ++ rest) =
      (readFields levels rest).map ((number, .delimited payload) :: ·) := by
  have hlength := length_payload_lt h
  have hkey := readKey_writeKey hnumber .delimited (writeVarint payload.length ++ (payload ++ rest))
  have hpayload : readDelimited (writeVarint payload.length ++ (payload ++ rest)) =
      some (payload, rest) := by
    rw [readDelimited, readVarint_writeVarint hlength]
    simp
  rw [writeDelimited, List.append_assoc, List.append_assoc]
  refine readFields_cons hkey ?_
  rw [readValue, hpayload]
  rfl

/-- A field with a varint is read back, whatever the levels. -/
theorem readFields_writeVarint {n : Nat} (hn : n < 2 ^ 64) (rest : Bytes) :
    readFields levels (writeKey number .varint ++ writeVarint n ++ rest) =
      (readFields levels rest).map ((number, .varint n) :: ·) := by
  rw [List.append_assoc]
  refine readFields_cons (readKey_writeKey hnumber .varint _) ?_
  rw [readValue, readVarint_writeVarint hn]
  rfl

end Written

/-! ## Scalars -/

/-- A set scalar is written as a field with a value that tells it, an unset one is not written. -/
structure IsScalar {β : Type} (read : Value → Option β) (write : Nat → Option β → Bytes) : Prop where
  write_none : ∀ number, write number none = []
  exists_value : ∀ b, ∃ value, read value = some b ∧
    ∀ levels number, IsFieldNumber number → (write number (some b)).length < 2 ^ 64 → ∀ rest,
      readFields levels (write number (some b) ++ rest) =
        (readFields levels rest).map ((number, value) :: ·)

/-- The bytes of an array in order. -/
theorem toList_eq_toList_data (bytes : ByteArray) : bytes.toList = bytes.data.toList := by
  have hloop : ∀ (i : Nat) (seen : List UInt8),
      ByteArray.toList.loop bytes i seen = seen.reverse ++ bytes.data.toList.drop i := by
    intro i seen
    fun_induction ByteArray.toList.loop bytes i seen with
    | case1 i seen hlt ih =>
        have hdrop : bytes.data.toList.drop i = bytes.get! i :: bytes.data.toList.drop (i + 1) := by
          rw [List.drop_eq_getElem_cons (by simpa using hlt)]
          simp [ByteArray.get!, hlt]
        rw [ih, hdrop, List.reverse_cons, List.append_assoc, List.singleton_append]
    | case2 i seen hlast =>
        have hdrop : bytes.data.toList.drop i = [] := List.drop_eq_nil_of_le (by simpa using hlast)
        rw [hdrop, List.append_nil]
  exact hloop 0 []

theorem text?_toUTF8 (text : String) : Value.text? (.delimited text.toUTF8.toList) = some text := by
  have hbytes : (⟨text.toUTF8.toList.toArray⟩ : ByteArray) = text.toUTF8 := by
    rw [toList_eq_toList_data]
  rw [Value.text?, hbytes, String.fromUTF8?]
  exact dif_pos text.isValidUTF8

theorem isScalar_text : IsScalar Value.text? writeText where
  write_none := fun _ => rfl
  exists_value := fun text => ⟨.delimited text.toUTF8.toList, text?_toUTF8 text,
    fun levels _ hnumber hlength => readFields_writeDelimited levels hnumber hlength⟩

/-- The low half of an integer that was extended to 64 bits is the integer. -/
theorem int32?_toUInt64 (n : Int32) : Value.int32? (.varint n.toInt64.toUInt64.toNat) = some n := by
  have hbits : (Int32.ofNat n.toInt64.toUInt64.toNat).toBitVec = n.toBitVec := by
    show BitVec.ofNat 32 (n.toBitVec.signExtend 64).toNat = n.toBitVec
    ext i hi
    have hwide : i < 64 := by omega
    simp [BitVec.getElem_signExtend, hi, hwide]
  rw [Value.int32?, Int32.toBitVec_inj.1 hbits]

theorem isScalar_int32 : IsScalar Value.int32? writeInt32 where
  write_none := fun _ => rfl
  exists_value := fun n => ⟨.varint n.toInt64.toUInt64.toNat, int32?_toUInt64 n,
    fun levels _ hnumber _ => readFields_writeVarint levels hnumber (UInt64.toNat_lt _)⟩

theorem isScalar_bool : IsScalar Value.bool? writeBool where
  write_none := fun _ => rfl
  exists_value := by
    intro b
    have hlt : b.toNat < 2 ^ 64 := Nat.lt_of_le_of_lt b.toNat_le (by decide)
    refine ⟨.varint b.toNat, ?_, fun levels _ hnumber _ => readFields_writeVarint levels hnumber hlt⟩
    cases b <;> rfl

end CustomResource.Descriptor.Wire
