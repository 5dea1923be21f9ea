import CustomResource.Descriptor.Decoding
import CustomResource.Descriptor.Encoding
import CustomResource.Proofs.Descriptor.Wire

/-!
# Descriptors survive a round trip

A descriptor that is written and read again is the same: what was unset is unset, and what was set to its
default is set.  The one condition is that it is not nested deeper than a reader may go, and it is exact: the
set of files is read back if its depth is at most `maxLevels`, and is refused otherwise
(`decodeFiles_encodeFiles`).

The depth counts the embedded messages on the way to the innermost, `Message.depth`.  A reader that meets
what was written for one field number goes on behind it in the state that has the field set (`Restores`); a
descriptor is read number by number, in the order in which it was written.
-/

namespace CustomResource.Descriptor

open Wire

/-! ## Depth -/

/-- The depth of what embeds descriptors of the given depths. -/
def nesting : List Nat → Nat
  | [] => 0
  | depth :: rest => max (depth + 1) (nesting rest)

theorem nesting_le_iff {depths : List Nat} {levels : Nat} :
    nesting depths ≤ levels ↔ ∀ depth ∈ depths, depth < levels := by
  induction depths with
  | nil => simp [nesting]
  | cons depth rest ih => rw [nesting, Nat.max_le, Nat.succ_le_iff, ih, List.forall_mem_cons]

/-- Descriptors that embed nothing. -/
def flat {α : Type} (_ : α) : Nat :=
  0

/-- The depth of an enum type, whose values are embedded. -/
def Enum.depth (desc : Enum) : Nat :=
  nesting (desc.values.map flat)

mutual

/-- The depth of a message. -/
def Message.depth : Message → Nat
  | ⟨_, fields, messages, enums, options, oneofs⟩ =>
      nesting (fields.map flat ++ nestedDepths messages ++ enums.map Enum.depth ++
        options.toList.map flat ++ oneofs.map flat)

/-- The depths of messages. -/
def nestedDepths : List Message → List Nat
  | [] => []
  | message :: rest => message.depth :: nestedDepths rest

end

/-- The depth of a file. -/
def File.depth (file : File) : Nat :=
  nesting (file.messages.map Message.depth ++ file.enums.map Enum.depth)

/-- The depth of a set of files. -/
def FileSet.depth (files : FileSet) : Nat :=
  nesting (files.map File.depth)

theorem nestedDepths_eq_map (messages : List Message) :
    nestedDepths messages = messages.map Message.depth := by
  induction messages with
  | nil => rfl
  | cons message rest ih => rw [nestedDepths, ih, List.map_cons]

theorem encodeNested_eq_flatMap (number : Nat) (messages : List Message) :
    encodeNested number messages = messages.flatMap fun message => writeDelimited number message.encode := by
  induction messages with
  | nil => rfl
  | cons message rest ih => rw [encodeNested, ih, List.flatMap_cons]

/-! ## Reading on -/

/-- A reader that meets the given bytes in one state goes on behind them in another, if they fit its levels;
if they do not, it fails. -/
structure Restores {α : Type} (levels : Nat) (apply : α → Nat × Value → Option α) (bytes : Bytes)
    (before after : α) (fits : Prop) : Prop where
  eq_after : fits → bytes.length < 2 ^ 64 → ∀ rest,
    applyFields levels apply before (bytes ++ rest) = applyFields levels apply after rest
  eq_none : ¬fits → bytes.length < 2 ^ 64 → ∀ rest,
    applyFields levels apply before (bytes ++ rest) = none

section Reading

variable {α β ι : Type} {levels number : Nat} {apply : α → Nat × Value → Option α}

/-- The first field is applied first. -/
theorem applyFields_eq_bind {bytes rest : Bytes} {value : Value}
    (h : readFields levels bytes = (readFields levels rest).map ((number, value) :: ·)) (before : α) :
    applyFields levels apply before bytes =
      (apply before (number, value)).bind fun after => applyFields levels apply after rest := by
  rw [applyFields, h]
  cases happly : apply before (number, value) <;> cases hrest : readFields levels rest <;>
    simp [applyFields, happly, hrest]

namespace Restores

/-- Nothing is read from nothing. -/
theorem nil (state : α) : Restores levels apply [] state state True where
  eq_after := fun _ _ _ => rfl
  eq_none := fun hnot => absurd trivial hnot

theorem append {bytes more : Bytes} {before between after : α} {fits moreFits : Prop}
    (hfirst : Restores levels apply bytes before between fits)
    (hsecond : Restores levels apply more between after moreFits) :
    Restores levels apply (bytes ++ more) before after (fits ∧ moreFits) where
  eq_after := by
    rintro ⟨hfits, hmore⟩ hlength rest
    rw [List.length_append] at hlength
    rw [List.append_assoc, hfirst.eq_after hfits (by omega), hsecond.eq_after hmore (by omega)]
  eq_none := by
    intro hnot hlength rest
    rw [List.length_append] at hlength
    rw [List.append_assoc]
    by_cases hfits : fits
    · rw [hfirst.eq_after hfits (by omega)]
      exact hsecond.eq_none (fun hmore => hnot ⟨hfits, hmore⟩) (by omega) rest
    · exact hfirst.eq_none hfits (by omega) _

/-- A repeated field grows by what is written, one after the other. -/
theorem repeated {write : ι → Bytes} {fits : ι → Prop} (set : List ι → α) (items : List ι)
    (h : ∀ item done, Restores levels apply (write item) (set done) (set (done ++ [item])) (fits item)) :
    Restores levels apply (items.flatMap write) (set []) (set items) (∀ item ∈ items, fits item) := by
  suffices hdone : ∀ done, Restores levels apply (items.flatMap write) (set done) (set (done ++ items))
      (∀ item ∈ items, fits item) from hdone []
  induction items with
  | nil =>
      intro done
      rw [List.append_nil]
      simpa using nil (set done)
  | cons item rest ih =>
      intro done
      have hrest := (h item done).append (ih (done ++ [item]))
      rw [List.append_assoc, List.singleton_append] at hrest
      simpa using hrest

/-- One field is applied. -/
theorem field {bytes : Bytes} {value : Value} {before after : α} {fits : Prop}
    (hwritten : bytes.length < 2 ^ 64 → ∀ rest,
      readFields levels (bytes ++ rest) = (readFields levels rest).map ((number, value) :: ·))
    (hsome : fits → bytes.length < 2 ^ 64 → apply before (number, value) = some after)
    (hnone : ¬fits → bytes.length < 2 ^ 64 → apply before (number, value) = none) :
    Restores levels apply bytes before after fits where
  eq_after := by
    intro hfits hlength rest
    rw [applyFields_eq_bind (hwritten hlength rest), hsome hfits hlength, Option.bind_some]
  eq_none := by
    intro hnot hlength rest
    rw [applyFields_eq_bind (hwritten hlength rest), hnone hnot hlength, Option.bind_none]

section Scalars

variable {read : Value → Option β} {write : Nat → Option β → Bytes}

/-- A scalar that is written is applied. -/
theorem oneScalar (hscalar : IsScalar read write) (hnumber : IsFieldNumber number) (b : β)
    {before after : α} (h : ∀ value, read value = some b → apply before (number, value) = some after) :
    Restores levels apply (write number (some b)) before after True := by
  obtain ⟨value, hvalue, hwritten⟩ := hscalar.exists_value b
  exact field (hwritten levels number hnumber) (fun _ _ => h value hvalue)
    fun hnot => absurd trivial hnot

/-- A scalar that is unset so far is set if it was written. -/
theorem scalar (hscalar : IsScalar read write) (hnumber : IsFieldNumber number) (set : Option β → α)
    (b : Option β)
    (h : ∀ value, apply (set none) (number, value) = read value >>= fun b => some (set (some b))) :
    Restores levels apply (write number b) (set none) (set b) True := by
  cases b with
  | none =>
      rw [hscalar.write_none]
      exact nil _
  | some b =>
      refine oneScalar hscalar hnumber b fun value hvalue => ?_
      rw [h, hvalue]
      rfl

/-- Scalars that are written one after the other are applied in order. -/
theorem scalars (hscalar : IsScalar read write) (hnumber : IsFieldNumber number) (set : List β → α)
    (list : List β)
    (h : ∀ done value, apply (set done) (number, value) = read value >>= fun b => some (set (done ++ [b]))) :
    Restores levels apply (list.flatMap fun b => write number (some b)) (set []) (set list)
      (∀ b ∈ list, True) := by
  refine repeated set list fun b done => oneScalar hscalar hnumber b fun value hvalue => ?_
  rw [h, hvalue]
  rfl

end Scalars

end Restores

end Reading

/-! ## Embedded descriptors -/

/-- A reader with a number of levels left reads back what is written, if it is not deeper than that. -/
def RoundTrips {α : Type} (levels : Nat) (read : Bytes → Option α) (write : α → Bytes) (depth : α → Nat) :
    Prop :=
  ∀ a, (write a).length < 2 ^ 64 → read (write a) = if depth a ≤ levels then some a else none

/-- What a reader goes on behind is what it has read when the bytes end there. -/
theorem Restores.roundTrip {α : Type} {levels depth : Nat} {apply : α → Nat × Value → Option α}
    {bytes : Bytes} {initial a : α} {fits : Prop} (h : Restores levels apply bytes initial a fits)
    (hfits : fits ↔ depth ≤ levels) (hlength : bytes.length < 2 ^ 64) :
    applyFields levels apply initial bytes = if depth ≤ levels then some a else none := by
  rw [← List.append_nil bytes]
  split
  · next hle => exact h.eq_after (hfits.2 hle) hlength []
  · next hdeep => exact h.eq_none (fun hin => hdeep (hfits.1 hin)) hlength []

section Embedded

variable {α ι : Type} {levels number : Nat} {apply : α → Nat × Value → Option α}
  {read : Nat → Bytes → Option ι} {write : ι → Bytes} {depth : ι → Nat}

/-- An embedded descriptor is read with one level less. -/
theorem embedded_eq (hread : ∀ below < levels, RoundTrips below (read below) write depth) {item : ι}
    (hlength : (write item).length < 2 ^ 64) :
    embedded levels read (.delimited (write item)) = if depth item < levels then some item else none := by
  cases levels with
  | zero => rfl
  | succ below =>
      simp only [Nat.lt_succ_iff]
      exact hread below (Nat.lt_succ_self below) item hlength

section

variable (hread : ∀ below < levels, RoundTrips below (read below) write depth)
  (hnumber : IsFieldNumber number)
include hread hnumber

/-- An embedded descriptor is applied, if it is not deeper than the levels below. -/
theorem Restores.oneEmbedded (next : ι → α) (item : ι) {before : α}
    (h : ∀ value, apply before (number, value) = embedded levels read value >>= fun item => some (next item)) :
    Restores levels apply (writeDelimited number (write item)) before (next item) (depth item < levels) := by
  refine field (readFields_writeDelimited levels hnumber) ?_ ?_
  · intro hfits hlength
    rw [h, embedded_eq hread (length_payload_lt hlength), if_pos hfits]
    rfl
  · intro hdeep hlength
    rw [h, embedded_eq hread (length_payload_lt hlength), if_neg hdeep]
    rfl

/-- An embedded descriptor that is unset so far is set if it was written. -/
theorem Restores.embedded (set : Option ι → α) (item? : Option ι)
    (h : ∀ value, apply (set none) (number, value) =
      Descriptor.embedded levels read value >>= fun item => some (set (some item))) :
    Restores levels apply (item?.toList.flatMap fun item => writeDelimited number (write item)) (set none)
      (set item?) (∀ item ∈ item?.toList, depth item < levels) := by
  cases item? with
  | none => simpa using nil (set none)
  | some item => simpa using oneEmbedded hread hnumber (fun item => set (some item)) item h

/-- Embedded descriptors that are written one after the other are applied in order. -/
theorem Restores.allEmbedded (set : List ι → α) (items : List ι)
    (h : ∀ done value, apply (set done) (number, value) =
      Descriptor.embedded levels read value >>= fun item => some (set (done ++ [item]))) :
    Restores levels apply (items.flatMap fun item => writeDelimited number (write item)) (set []) (set items)
      (∀ item ∈ items, depth item < levels) :=
  repeated set items fun item done =>
    oneEmbedded hread hnumber (fun item => set (done ++ [item])) item (h done)

end

end Embedded

/-! ## Descriptors -/

theorem EnumValue.roundTrips (levels : Nat) : RoundTrips levels (decode levels) encode flat := by
  rintro ⟨name, number⟩ hlength
  refine Restores.roundTrip (.append
    (.scalar isScalar_text (by decide) (fun name => ({ name } : EnumValue)) name fun _ => rfl)
    (.scalar isScalar_int32 (by decide) (fun number => ({ name, number } : EnumValue)) number fun _ => rfl))
    ?_ hlength
  simp [flat]

theorem Enum.roundTrips (levels : Nat) : RoundTrips levels (decode levels) encode depth := by
  rintro ⟨name, values⟩ hlength
  refine Restores.roundTrip (.append
    (.scalar isScalar_text (by decide) (fun name => ({ name } : Enum)) name fun _ => rfl)
    (.allEmbedded (fun below _ => EnumValue.roundTrips below) (by decide)
      (fun values => ({ name, values } : Enum)) values fun _ _ => rfl)) ?_ hlength
  rw [true_and, depth, nesting_le_iff, List.forall_mem_map]

theorem Field.roundTrips (levels : Nat) : RoundTrips levels (decode levels) encode flat := by
  rintro ⟨name, number, label, type, typeName, defaultValue, oneofIndex, jsonName, proto3Optional⟩ hlength
  -- One step for each field number: what was written before it is set by then, what follows is not.
  refine Restores.roundTrip (.append (.append (.append (.append (.append (.append (.append (.append
    (.scalar isScalar_text (by decide)
      (Field.mk · none none none none none none none none) name fun _ => rfl)
    (.scalar isScalar_int32 (by decide)
      (Field.mk name · none none none none none none none) number fun _ => rfl))
    (.scalar isScalar_int32 (by decide)
      (Field.mk name number · none none none none none none) label fun _ => rfl))
    (.scalar isScalar_int32 (by decide)
      (Field.mk name number label · none none none none none) type fun _ => rfl))
    (.scalar isScalar_text (by decide)
      (Field.mk name number label type · none none none none) typeName fun _ => rfl))
    (.scalar isScalar_text (by decide)
      (Field.mk name number label type typeName · none none none) defaultValue fun _ => rfl))
    (.scalar isScalar_int32 (by decide)
      (Field.mk name number label type typeName defaultValue · none none) oneofIndex fun _ => rfl))
    (.scalar isScalar_text (by decide)
      (Field.mk name number label type typeName defaultValue oneofIndex · none) jsonName fun _ => rfl))
    (.scalar isScalar_bool (by decide)
      (Field.mk name number label type typeName defaultValue oneofIndex jsonName) proto3Optional
      fun _ => rfl)) ?_ hlength
  simp [flat]

theorem Oneof.roundTrips (levels : Nat) : RoundTrips levels (decode levels) encode flat := by
  rintro ⟨name⟩ hlength
  refine Restores.roundTrip
    (.scalar isScalar_text (by decide) (fun name => ({ name } : Oneof)) name fun _ => rfl) ?_ hlength
  simp [flat]

theorem MessageOptions.roundTrips (levels : Nat) : RoundTrips levels (decode {} levels) encode flat := by
  rintro ⟨mapEntry⟩ hlength
  refine Restores.roundTrip
    (.scalar isScalar_bool (by decide) (fun mapEntry => ({ mapEntry } : MessageOptions)) mapEntry
      fun _ => rfl) ?_ hlength
  simp [flat]

/-- A message as readers with any number of levels read it: at the last one nothing is embedded. -/
theorem Message.decode_eq (levels : Nat) :
    decode levels = applyFields levels (fun desc (number, value) =>
      match number with
      | 1 => do return { desc with name := some (← value.text?) }
      | 2 => do return { desc with fields := desc.fields ++ [← embedded levels Field.decode value] }
      | 3 => do return { desc with messages := desc.messages ++ [← embedded levels decode value] }
      | 4 => do return { desc with enums := desc.enums ++ [← embedded levels Enum.decode value] }
      | 7 => do
          let initial := desc.options.getD {}
          return { desc with options := some (← embedded levels (MessageOptions.decode initial) value) }
      | 8 => do return { desc with oneofs := desc.oneofs ++ [← embedded levels Oneof.decode value] }
      | _ => skipField levels desc) {} := by
  cases levels with
  | zero =>
      rw [decode]
      congr
      funext desc ⟨number, value⟩
      dsimp only
      split
      · rfl
      · -- Whatever is not the name would be embedded or skipped, for which there is no level.
        split
        · contradiction
        all_goals rfl
  | succ below => rfl

theorem Message.roundTrips (levels : Nat) : RoundTrips levels (decode levels) encode depth := by
  induction levels using Nat.strongRecOn with
  | ind levels ih =>
    rintro ⟨name, fields, messages, enums, options, oneofs⟩ hlength
    rw [decode_eq]
    rw [encode, encodeNested_eq_flatMap] at hlength ⊢
    refine Restores.roundTrip (.append (.append (.append (.append (.append
      (.scalar isScalar_text (by decide) (Message.mk · [] [] [] none []) name fun _ => rfl)
      (.allEmbedded (fun below _ => Field.roundTrips below) (by decide) (Message.mk name · [] [] none [])
        fields fun _ _ => rfl))
      (.allEmbedded ih (by decide) (Message.mk name fields · [] none []) messages fun _ _ => rfl))
      (.allEmbedded (fun below _ => Enum.roundTrips below) (by decide)
        (Message.mk name fields messages · none []) enums fun _ _ => rfl))
      (.embedded (fun below _ => MessageOptions.roundTrips below) (by decide)
        (Message.mk name fields messages enums · []) options fun _ => rfl))
      (.allEmbedded (fun below _ => Oneof.roundTrips below) (by decide)
        (Message.mk name fields messages enums options) oneofs fun _ _ => rfl)) ?_ hlength
    rw [true_and, depth, nesting_le_iff, nestedDepths_eq_map]
    simp only [List.forall_mem_append, List.forall_mem_map]

theorem File.roundTrips (levels : Nat) : RoundTrips levels (decode levels) encode depth := by
  rintro ⟨name, package, imports, messages, enums, dialect⟩ hlength
  rw [encode, encodeNested_eq_flatMap] at hlength ⊢
  refine Restores.roundTrip (.append (.append (.append (.append (.append
    (.scalar isScalar_text (by decide) (File.mk · none [] [] [] none) name fun _ => rfl)
    (.scalar isScalar_text (by decide) (File.mk name · [] [] [] none) package fun _ => rfl))
    (.scalars isScalar_text (by decide) (File.mk name package · [] [] none) imports fun _ _ => rfl))
    (.allEmbedded (fun below _ => Message.roundTrips below) (by decide)
      (File.mk name package imports · [] none) messages fun _ _ => rfl))
    (.allEmbedded (fun below _ => Enum.roundTrips below) (by decide)
      (File.mk name package imports messages · none) enums fun _ _ => rfl))
    (.scalar isScalar_text (by decide) (File.mk name package imports messages enums) dialect
      fun _ => rfl)) ?_ hlength
  rw [depth, nesting_le_iff, List.forall_mem_append, List.forall_mem_map, List.forall_mem_map]
  simp

/-! ## Sets of files -/

/-- What a reader of sets makes of a field. -/
def applyFile (files : FileSet) : Nat × Value → Option FileSet
  | (1, value) => (embedded maxLevels File.decode value).map fun file => files ++ [file]
  | _ => some files

theorem decodeFiles_eq (bytes : Bytes) : decodeFiles bytes = applyFields maxLevels applyFile [] bytes := by
  rw [decodeFiles]
  congr
  funext files ⟨number, value⟩
  by_cases hnumber : number = 1
  · subst hnumber
    cases hfile : embedded maxLevels File.decode value <;> simp [applyFile, hfile]
  · simp [applyFile, hnumber, skipField, maxLevels]

/-- Reading goes on behind a set of files, unless they are nested too deep. -/
theorem restores_encodeFiles (files : FileSet) :
    Restores maxLevels applyFile (encodeFiles files) [] files (∀ file ∈ files, file.depth < maxLevels) := by
  refine .allEmbedded (fun below _ => File.roundTrips below) (by decide) id files fun files value => ?_
  cases hfile : embedded maxLevels File.decode value <;> simp [applyFile, hfile]

theorem FileSet.depth_le_iff {files : FileSet} {levels : Nat} :
    FileSet.depth files ≤ levels ↔ ∀ file ∈ files, file.depth < levels := by
  rw [FileSet.depth, nesting_le_iff, List.forall_mem_map]

/-- A set of files is read back unless it is nested too deep, and is refused otherwise. -/
theorem decodeFiles_encodeFiles {files : FileSet} (hlength : (encodeFiles files).length < 2 ^ 64) :
    decodeFiles (encodeFiles files) = if files.depth ≤ maxLevels then some files else none := by
  rw [decodeFiles_eq]
  exact (restores_encodeFiles files).roundTrip FileSet.depth_le_iff.symm hlength

/-- Files that are there already do not matter to what is read behind them. -/
theorem applyFile_append (before after : FileSet) (field : Nat × Value) :
    applyFile (before ++ after) field = (applyFile after field).map (before ++ ·) := by
  obtain ⟨number, value⟩ := field
  by_cases hnumber : number = 1
  · subst hnumber
    simp [applyFile, Function.comp_def]
  · simp [applyFile, hnumber]

theorem foldlM_applyFile_append (before after : FileSet) (fields : List (Nat × Value)) :
    fields.foldlM applyFile (before ++ after) = (fields.foldlM applyFile after).map (before ++ ·) := by
  induction fields generalizing after with
  | nil => rfl
  | cons field rest ih =>
      rw [List.foldlM_cons, List.foldlM_cons, applyFile_append]
      cases applyFile after field with
      | none => rfl
      | some more => exact ih more

/-- What stands behind the encoding of a set is read as if it stood alone. -/
theorem decodeFiles_append {files : FileSet} (hdepth : files.depth ≤ maxLevels)
    (hlength : (encodeFiles files).length < 2 ^ 64) (rest : Bytes) :
    decodeFiles (encodeFiles files ++ rest) = (decodeFiles rest).map (files ++ ·) := by
  rw [decodeFiles_eq, (restores_encodeFiles files).eq_after (FileSet.depth_le_iff.1 hdepth) hlength,
    decodeFiles_eq, applyFields, applyFields]
  cases readFields maxLevels rest with
  | none => rfl
  | some fields =>
      have happend := foldlM_applyFile_append files [] fields
      rw [List.append_nil] at happend
      exact happend

end CustomResource.Descriptor
