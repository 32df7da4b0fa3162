import Dpe.Commands.Decode

/-! # Decoding undoes encoding

    `Command::deserialize` returns a command exactly if the buffer holds
    the header of the command, the bytes of the command, and whatever
    else behind them, and if the profile accepts the command.  Both
    directions come from one equivalence for each parser. -/

namespace Dpe

open Layout

variable {b : Build} {address : Nat} {bytes raw : Bytes} {profile : DpeProfile}

/-! ## Encodings -/

/-- The alignment of the structure of a command. -/
def Command.align : Command b → Nat
  | destroyCtx _ => 1
  | getProfile _ | initCtx _ | deriveContext _ | certifyKey _ | sign _ | rotateCtx _
  | getCertificateChain _ | updateContextMeasurement _ => 4

/-- Words are enough for every command. -/
theorem Command.aligned (cmd : Command b) (h : address % 4 = 0) :
    address % cmd.align = 0 := by
  cases cmd with
  | destroyCtx => exact Nat.mod_one _
  | getProfile | initCtx | deriveContext | certifyKey | sign | rotateCtx
  | getCertificateChain | updateContextMeasurement => exact h

/-- The flags of a command choose its variant, and raw data is not longer
    than its room. -/
def SignCommand.Selected : SignCommand → Prop
  | p256 .. | p384 .. => True
  | mldsa87 _ _ flags _ => contains flags IS_RAW = false
  | mldsa87Raw _ _ flags size _ =>
      contains flags IS_RAW = true ∧ size.toNat ≤ MLDSA87_RAW_MAX_SIZE

/-- The commands that an instance of the profile accepts. -/
def Command.Accepted (profile : DpeProfile) : Command b → Prop
  | certifyKey cmd => cmd.profile = profile
  | sign cmd => cmd.profile = profile ∧ cmd.Selected
  | rotateCtx _ => b.disabled.rotateContext = false
  | getProfile _ | initCtx _ | deriveContext _ | destroyCtx _ | getCertificateChain _
  | updateContextMeasurement _ => True

/-- The header is that of the command.  `GetProfile` may name any
    profile. -/
structure CommandHdr.IsOf (profile : DpeProfile) (cmd : Command b) (hdr : CommandHdr) :
    Prop where
  magic : hdr.magic = DPE_COMMAND_MAGIC
  cmdId : hdr.cmdId = cmd.id
  profile : cmd.id ≠ Command.GET_PROFILE → hdr.profile = profile.toU32

/-- The bytes are a header of the command, the command, and a tail. -/
def Command.Encoded (profile : DpeProfile) (cmd : Command b) (raw : Bytes) : Prop :=
  ∃ hdr : CommandHdr, hdr.IsOf profile cmd ∧ hdr.asBytes ++ cmd.asBytes <+: raw

theorem CommandHdr.isOf_new (profile : DpeProfile) (cmd : Command b) :
    (CommandHdr.new profile cmd.id).IsOf profile cmd := ⟨rfl, rfl, fun _ => rfl⟩

/-! ## Parsing -/

/-- A parser returns what it has read. -/
theorem parseCommand_ok {α β : Type} {l : Layout α} {build : α → β} {x : β} :
    parseCommand l build address bytes = .ok x
      ↔ ∃ a, build a = x ∧ address % l.align = 0 ∧ l.Valid a
        ∧ l.toBytes a <+: bytes := by
  unfold parseCommand
  constructor
  · intro h
    split at h
    · rename_i a hread
      cases h
      exact ⟨a, rfl, l.refFromPrefix_iff.mp hread⟩
    · cases h
  · rintro ⟨a, rfl, hread⟩
    rw [l.refFromPrefix_iff.mpr hread]

/-- `parseCommand_ok` for a structure all of whose values are valid. -/
theorem parseCommand_total {α β : Type} {l : Layout α} {build : α → β} {x : β}
    (hvalid : ∀ a, l.Valid a) :
    parseCommand l build address bytes = .ok x
      ↔ ∃ a, build a = x ∧ address % l.align = 0 ∧ l.toBytes a <+: bytes := by
  rw [parseCommand_ok]
  simp only [hvalid, true_and]

theorem SignCommand.digestLayout_valid {labelSize digestSize : Nat}
    (a : ContextHandle × Vector UInt8 labelSize × UInt32 × Vector UInt8 digestSize) :
    (digestLayout labelSize digestSize).Valid a := ⟨trivial, trivial, trivial, trivial⟩

theorem SignCommand.rawLayout_valid (a : ContextHandle × Vector UInt8 48 × UInt32
    × UInt32 × Vector UInt8 MLDSA87_RAW_MAX_SIZE) : rawLayout.Valid a :=
  ⟨trivial, trivial, trivial, trivial, trivial⟩

theorem DeriveContextCmd.layout_valid (cmd : DeriveContextCmd b) : layout.Valid cmd :=
  ⟨trivial, trivial, trivial, trivial, trivial, trivial⟩

theorem RotateCtxCmd.layout_valid (cmd : RotateCtxCmd) : layout.Valid cmd :=
  ⟨trivial, trivial⟩

theorem GetCertificateChainCmd.layout_valid (cmd : GetCertificateChainCmd) :
    layout.Valid cmd := ⟨trivial, trivial⟩

theorem UpdateContextMeasurementCmd.layout_valid (cmd : UpdateContextMeasurementCmd b) :
    layout.Valid cmd := ⟨trivial, trivial, trivial, trivial, trivial⟩

theorem CertifyKeyCmd.layout_valid {labelSize : Nat} (cmd : CertifyKeyCmd labelSize) :
    (CertifyKeyCmd.layout labelSize).Valid cmd := ⟨trivial, trivial, trivial, trivial⟩

/-- **ONE VARIANT**: a parser of the commands with `P` that reads nothing
    but them returns a command exactly if it has `P` and the payload starts
    with its bytes. -/
theorem parseCommand_variant {α β : Type} {l : Layout α} {build : α → β} {x : β}
    (P : β → Prop) (align : β → Nat) (enc : β → Bytes) (hvalid : ∀ a, l.Valid a)
    (hbuild : ∀ a, P (build a) ∧ align (build a) = l.align
      ∧ enc (build a) = l.toBytes a)
    (honly : ∀ x, P x → ∃ a, build a = x) :
    parseCommand l build address bytes = .ok x
      ↔ P x ∧ address % align x = 0 ∧ enc x <+: bytes := by
  rw [parseCommand_total hvalid]
  constructor
  · rintro ⟨a, rfl, h⟩
    obtain ⟨hP, halign, henc⟩ := hbuild a
    rw [halign, henc]
    exact ⟨hP, h⟩
  · rintro ⟨hP, h⟩
    obtain ⟨a, rfl⟩ := honly x hP
    obtain ⟨-, halign, henc⟩ := hbuild a
    rw [halign, henc] at h
    exact ⟨a, rfl, h⟩

theorem CertifyKeyCommand.deserialize_ok {cmd : CertifyKeyCommand} :
    CertifyKeyCommand.deserialize profile address bytes = .ok cmd
      ↔ cmd.profile = profile ∧ address % 4 = 0 ∧ cmd.asBytes <+: bytes := by
  cases profile with
  | p256Sha256 =>
      refine parseCommand_variant (CertifyKeyCommand.profile · = _) (fun _ => 4)
        asBytes CertifyKeyCmd.layout_valid (fun _ => ⟨rfl, rfl, rfl⟩)
        fun x hprofile => ?_
      cases x with
      | p256 cmd => exact ⟨cmd, rfl⟩
      | p384 | mldsa87 => cases hprofile
  | p384Sha384 =>
      refine parseCommand_variant (CertifyKeyCommand.profile · = _) (fun _ => 4)
        asBytes CertifyKeyCmd.layout_valid (fun _ => ⟨rfl, rfl, rfl⟩)
        fun x hprofile => ?_
      cases x with
      | p384 cmd => exact ⟨cmd, rfl⟩
      | p256 | mldsa87 => cases hprofile
  | mldsa87 =>
      refine parseCommand_variant (CertifyKeyCommand.profile · = _) (fun _ => 4)
        asBytes CertifyKeyCmd.layout_valid (fun _ => ⟨rfl, rfl, rfl⟩)
        fun x hprofile => ?_
      cases x with
      | mldsa87 cmd => exact ⟨cmd, rfl⟩
      | p256 | p384 => cases hprofile

namespace SignCommand

/-- A command starts with the header that chooses it. -/
theorem header_of_digest {handle : ContextHandle} {label : Vector UInt8 48}
    {flags : UInt32} {digest : Vector UInt8 64}
    (h : (digestLayout 48 64).toBytes (handle, label, flags, digest) <+: bytes) :
    headerLayout.toBytes (handle, label, flags) <+: bytes := by
  refine List.IsPrefix.trans ?_ h
  refine (List.prefix_append_right_inj _).mpr ((List.prefix_append_right_inj _).mpr ?_)
  exact List.prefix_append _ _

theorem header_of_raw {handle : ContextHandle} {label : Vector UInt8 48}
    {flags size : UInt32} {rawData : Vector UInt8 MLDSA87_RAW_MAX_SIZE}
    (h : rawLayout.toBytes (handle, label, flags, size, rawData) <+: bytes) :
    headerLayout.toBytes (handle, label, flags) <+: bytes := by
  refine List.IsPrefix.trans ?_ h
  refine (List.prefix_append_right_inj _).mpr ((List.prefix_append_right_inj _).mpr ?_)
  exact List.prefix_append _ _

/-- The header that is read. -/
theorem headerLayout_read (haligned : address % 4 = 0) {handle : ContextHandle}
    {label : Vector UInt8 48} {flags : UInt32}
    (h : headerLayout.toBytes (handle, label, flags) <+: bytes) :
    headerLayout.refFromPrefix address bytes = some (handle, label, flags) :=
  headerLayout.refFromPrefix_iff.mpr ⟨haligned, ⟨trivial, trivial, trivial⟩, h⟩

theorem deserializeMldsa87_ok {cmd : SignCommand} :
    deserializeMldsa87 address bytes = .ok cmd
      ↔ cmd.profile = .mldsa87 ∧ cmd.Selected ∧ address % 4 = 0
        ∧ cmd.asBytes <+: bytes := by
  unfold deserializeMldsa87
  constructor
  · intro h
    split at h
    · cases h
    rename_i handle label flags hheader
    have haligned : address % 4 = 0 := (headerLayout.refFromPrefix_iff.mp hheader).1
    split at h
    · rename_i hraw
      split at h
      · cases h
      split at h
      · cases h
      rename_i handle' label' flags' size rawData hread
      split at h
      · cases h
      rename_i hsize
      cases h
      obtain ⟨-, -, hbytes⟩ := rawLayout.refFromPrefix_iff.mp hread
      -- both were read from the front of one buffer
      cases hheader.symm.trans (headerLayout_read haligned (header_of_raw hbytes))
      exact ⟨rfl, ⟨hraw, Nat.le_of_not_lt hsize⟩, haligned, hbytes⟩
    · rename_i hraw
      obtain ⟨⟨handle', label', flags', digest⟩, rfl, -, hbytes⟩ :=
        (parseCommand_total digestLayout_valid).mp h
      cases hheader.symm.trans (headerLayout_read haligned (header_of_digest hbytes))
      exact ⟨rfl, Bool.eq_false_iff.mpr hraw, haligned, hbytes⟩
  · rintro ⟨hprofile, hselected, haligned, hbytes⟩
    cases cmd with
    | p256 | p384 => cases hprofile
    | mldsa87 handle label flags digest =>
        rw [headerLayout_read haligned (header_of_digest hbytes)]
        have hflags : contains flags IS_RAW = false := hselected
        simp only [hflags, Bool.false_eq_true, if_false]
        exact (parseCommand_total digestLayout_valid).mpr
          ⟨(handle, label, flags, digest), rfl, haligned, hbytes⟩
    | mldsa87Raw handle label flags size rawData =>
        obtain ⟨hflags, hsize⟩ := hselected
        have hvalid := rawLayout_valid (handle, label, flags, size, rawData)
        have hread := rawLayout.refFromPrefix_iff.mpr ⟨haligned, hvalid, hbytes⟩
        have hlong : ¬bytes.length < rawLayout.size := by
          rw [← rawLayout.length_toBytes _ hvalid]
          exact Nat.not_lt.mpr hbytes.length_le
        rw [headerLayout_read haligned (header_of_raw hbytes)]
        simp only [hflags, if_true, if_neg hlong, hread, if_neg (Nat.not_lt.mpr hsize)]

theorem deserialize_ok {cmd : SignCommand} :
    SignCommand.deserialize profile address bytes = .ok cmd
      ↔ (cmd.profile = profile ∧ cmd.Selected) ∧ address % 4 = 0
        ∧ cmd.asBytes <+: bytes := by
  cases profile with
  | p256Sha256 =>
      refine parseCommand_variant (fun x => profile x = _ ∧ x.Selected) (fun _ => 4)
        asBytes digestLayout_valid (fun _ => ⟨⟨rfl, trivial⟩, rfl, rfl⟩) fun x h => ?_
      cases x with
      | p256 handle label flags digest => exact ⟨(handle, label, flags, digest), rfl⟩
      | p384 | mldsa87 | mldsa87Raw => cases h.1
  | p384Sha384 =>
      refine parseCommand_variant (fun x => profile x = _ ∧ x.Selected) (fun _ => 4)
        asBytes digestLayout_valid (fun _ => ⟨⟨rfl, trivial⟩, rfl, rfl⟩) fun x h => ?_
      cases x with
      | p384 handle label flags digest => exact ⟨(handle, label, flags, digest), rfl⟩
      | p256 | mldsa87 | mldsa87Raw => cases h.1
  | mldsa87 => exact deserializeMldsa87_ok.trans and_assoc.symm

end SignCommand

/-! ## The command -/

/-- The header that is read is at the front, and it is in order. -/
theorem CommandHdr.tryFrom_ok {hdr : CommandHdr} :
    CommandHdr.tryFrom raw = .ok hdr
      ↔ hdr.asBytes <+: raw ∧ hdr.magic = DPE_COMMAND_MAGIC := by
  unfold tryFrom
  constructor
  · intro h
    split at h
    · cases h
    rename_i header hread
    split at h
    · cases h
    rename_i hmagic
    cases h
    exact ⟨((layout.ofBytes_iff raw hdr).mp hread).2, not_not.mp hmagic⟩
  · rintro ⟨hbytes, hmagic⟩
    rw [(layout.ofBytes_iff raw hdr).mpr ⟨⟨trivial, trivial, trivial⟩, hbytes⟩]
    exact if_neg fun h => h hmagic

theorem CommandHdr.tryFromWithProfile_ok {hdr : CommandHdr} :
    CommandHdr.tryFromWithProfile profile raw = .ok hdr
      ↔ CommandHdr.tryFrom raw = .ok hdr ∧
        (hdr.cmdId ≠ Command.GET_PROFILE → hdr.profile = profile.toU32) := by
  unfold tryFromWithProfile
  cases tryFrom raw with
  | error e => exact iff_of_false nofun fun h => nomatch h.1
  | ok header =>
      show (if header.cmdId ≠ Command.GET_PROFILE ∧ header.profile ≠ profile.toU32 then
        Except.error DpeErrorCode.invalidCommand else Except.ok header) = .ok hdr ↔ _
      constructor
      · intro h
        split at h
        · cases h
        rename_i hprofile
        cases h
        exact ⟨rfl, fun hid => not_not.mp fun hne => hprofile ⟨hid, hne⟩⟩
      · rintro ⟨heq, hprofile⟩
        cases heq
        exact if_neg fun h => h.2 (hprofile h.1)

namespace Command

/-- **THE PAYLOAD** of an id holds a command of that id. -/
theorem deserializePayload_ok {cmdId : UInt32} {cmd : Command b} :
    deserializePayload profile cmdId address bytes = .ok cmd
      ↔ (cmdId = cmd.id ∧ cmd.Accepted profile) ∧ address % cmd.align = 0
        ∧ cmd.asBytes <+: bytes := by
  constructor
  · intro h
    unfold deserializePayload at h
    split at h
    · rename_i hid
      obtain ⟨a, rfl, hread⟩ := (parseCommand_total fun _ => trivial).mp h
      exact ⟨⟨hid, trivial⟩, hread⟩
    split at h
    · rename_i hid
      obtain ⟨a, rfl, hread⟩ := (parseCommand_total fun _ => trivial).mp h
      exact ⟨⟨hid, trivial⟩, hread⟩
    split at h
    · rename_i hid
      obtain ⟨a, rfl, hread⟩ := (parseCommand_total DeriveContextCmd.layout_valid).mp h
      exact ⟨⟨hid, trivial⟩, hread⟩
    split at h
    · rename_i hid
      cases hcmd : CertifyKeyCommand.deserialize profile address bytes with
      | error e =>
          rw [hcmd] at h
          cases h
      | ok a =>
          rw [hcmd] at h
          cases h
          obtain ⟨hprofile, hread⟩ := CertifyKeyCommand.deserialize_ok.mp hcmd
          exact ⟨⟨hid, hprofile⟩, hread⟩
    split at h
    · rename_i hid
      cases hcmd : SignCommand.deserialize profile address bytes with
      | error e =>
          rw [hcmd] at h
          cases h
      | ok a =>
          rw [hcmd] at h
          cases h
          obtain ⟨haccepted, hread⟩ := SignCommand.deserialize_ok.mp hcmd
          exact ⟨⟨hid, haccepted⟩, hread⟩
    split at h
    · rename_i hid
      obtain ⟨a, rfl, hread⟩ := (parseCommand_total RotateCtxCmd.layout_valid).mp h
      exact ⟨hid, hread⟩
    split at h
    · rename_i hid
      obtain ⟨a, rfl, hread⟩ := (parseCommand_total fun _ => trivial).mp h
      exact ⟨⟨hid, trivial⟩, hread⟩
    split at h
    · rename_i hid
      obtain ⟨a, rfl, hread⟩ := (parseCommand_total GetCertificateChainCmd.layout_valid).mp h
      exact ⟨⟨hid, trivial⟩, hread⟩
    split at h
    · rename_i hid
      obtain ⟨a, rfl, hread⟩ :=
        (parseCommand_total UpdateContextMeasurementCmd.layout_valid).mp h
      exact ⟨⟨hid, trivial⟩, hread⟩
    cases h
  · rintro ⟨⟨rfl, haccepted⟩, h⟩
    unfold deserializePayload
    cases cmd with
    | getProfile cmd =>
        simp +decide only [id, if_true]
        exact (parseCommand_total fun _ => trivial).mpr ⟨cmd, rfl, h⟩
    | initCtx cmd =>
        simp +decide only [id, if_true, if_false]
        exact (parseCommand_total fun _ => trivial).mpr ⟨cmd, rfl, h⟩
    | deriveContext cmd =>
        simp +decide only [id, if_true, if_false]
        exact (parseCommand_total DeriveContextCmd.layout_valid).mpr ⟨cmd, rfl, h⟩
    | certifyKey cmd =>
        simp +decide only [id, if_true, if_false]
        rw [CertifyKeyCommand.deserialize_ok.mpr ⟨haccepted, h⟩]
        rfl
    | sign cmd =>
        simp +decide only [id, if_true, if_false]
        rw [SignCommand.deserialize_ok.mpr ⟨haccepted, h⟩]
        rfl
    | rotateCtx cmd =>
        simp +decide only [id, if_false, true_and]
        rw [if_pos (show b.disabled.rotateContext = false from haccepted)]
        exact (parseCommand_total RotateCtxCmd.layout_valid).mpr ⟨cmd, rfl, h⟩
    | destroyCtx cmd =>
        simp +decide only [id, if_true, if_false, false_and]
        exact (parseCommand_total fun _ => trivial).mpr ⟨cmd, rfl, h⟩
    | getCertificateChain cmd =>
        simp +decide only [id, if_true, if_false, false_and]
        exact (parseCommand_total GetCertificateChainCmd.layout_valid).mpr ⟨cmd, rfl, h⟩
    | updateContextMeasurement cmd =>
        simp +decide only [id, if_true, if_false, false_and]
        exact (parseCommand_total UpdateContextMeasurementCmd.layout_valid).mpr
          ⟨cmd, rfl, h⟩

/-- Behind a header in order, the payload decides. -/
theorem deserialize_of_header {hdr : CommandHdr}
    (hhdr : CommandHdr.tryFromWithProfile profile raw = .ok hdr)
    (hlong : ¬raw.length < CommandHdr.layout.size) :
    (deserialize profile address raw : Except DpeErrorCode (Command b))
      = deserializePayload profile hdr.cmdId (address + CommandHdr.layout.size)
          (raw.drop CommandHdr.layout.size) := by
  unfold deserialize
  rw [hhdr]
  exact if_neg hlong

/-- **THE COMMANDS THAT ARE RETURNED** are those that the profile accepts
    and whose encoding the buffer starts with. -/
theorem deserialize_ok {cmd : Command b} :
    deserialize profile address raw = .ok cmd
      ↔ cmd.Accepted profile ∧ address % cmd.align = 0 ∧ cmd.Encoded profile raw := by
  have hshift : (address + 12) % cmd.align = 0 ↔ address % cmd.align = 0 := by
    cases cmd with
    | destroyCtx => exact iff_of_true (Nat.mod_one _) (Nat.mod_one _)
    | getProfile | initCtx | deriveContext | certifyKey | sign | rotateCtx
    | getCertificateChain | updateContextMeasurement =>
        show (address + 12) % 4 = 0 ↔ address % 4 = 0
        omega
  constructor
  · intro h
    cases hhdr : CommandHdr.tryFromWithProfile profile raw with
    | error e =>
        unfold deserialize at h
        rw [hhdr] at h
        cases h
    | ok hdr =>
        obtain ⟨htry, hprofile⟩ := CommandHdr.tryFromWithProfile_ok.mp hhdr
        obtain ⟨⟨tail, rfl⟩, hmagic⟩ := CommandHdr.tryFrom_ok.mp htry
        have hlong : ¬(hdr.asBytes ++ tail).length < CommandHdr.layout.size := by
          rw [List.length_append]
          exact Nat.not_lt.mpr (Nat.le_add_right 12 _)
        rw [deserialize_of_header hhdr hlong] at h
        obtain ⟨⟨hid, haccepted⟩, haligned, hbytes⟩ := deserializePayload_ok.mp h
        refine ⟨haccepted, hshift.mp haligned, hdr, ⟨hmagic, hid, hid ▸ hprofile⟩, ?_⟩
        exact (List.prefix_append_right_inj _).mpr hbytes
  · rintro ⟨haccepted, haligned, hdr, hof, tail, rfl⟩
    rw [List.append_assoc]
    have hhdr : CommandHdr.tryFromWithProfile profile
        (hdr.asBytes ++ (cmd.asBytes ++ tail)) = .ok hdr :=
      CommandHdr.tryFromWithProfile_ok.mpr
        ⟨CommandHdr.tryFrom_ok.mpr ⟨List.prefix_append _ _, hof.magic⟩,
          hof.cmdId ▸ hof.profile⟩
    have hlong : ¬(hdr.asBytes ++ (cmd.asBytes ++ tail)).length
        < CommandHdr.layout.size := by
      rw [List.length_append]
      exact Nat.not_lt.mpr (Nat.le_add_right 12 _)
    rw [deserialize_of_header hhdr hlong]
    exact deserializePayload_ok.mpr
      ⟨⟨hof.cmdId, haccepted⟩, hshift.mpr haligned, List.prefix_append _ _⟩

end Command

/-- **DECODING UNDOES ENCODING**: what encodes a command that the profile
    accepts is decoded to it, what is decoded encodes it, and everything
    else is an error. -/
theorem decoding_undoes_encoding (profile : DpeProfile) :
    (∀ (cmd : Command b) (tail : Bytes) (address : Nat), cmd.Accepted profile →
      address % 4 = 0 →
      Command.deserialize profile address
        ((CommandHdr.new profile cmd.id).asBytes ++ cmd.asBytes ++ tail) = .ok cmd) ∧
    (∀ (address : Nat) (raw : Bytes) (cmd : Command b),
      Command.deserialize profile address raw = .ok cmd → ∃ hdr : CommandHdr,
        hdr.asBytes <+: raw ∧ hdr.magic = CommandHdr.DPE_COMMAND_MAGIC ∧
        hdr.cmdId = cmd.id ∧
        (cmd.id ≠ Command.GET_PROFILE → hdr.profile = profile.toU32) ∧
        cmd.asBytes <+: raw.drop 12 ∧ cmd.Accepted profile) ∧
    (∀ (address : Nat) (raw : Bytes),
      (∀ cmd : Command b, ¬(cmd.Accepted profile ∧ cmd.Encoded profile raw)) →
      ∃ e, (Command.deserialize profile address raw : Except DpeErrorCode (Command b))
        = .error e) := by
  refine ⟨fun cmd tail address haccepted haligned => ?_, fun address raw cmd h => ?_,
    fun address raw hnone => ?_⟩
  · exact Command.deserialize_ok.mpr ⟨haccepted, cmd.aligned haligned, _,
      CommandHdr.isOf_new _ _, List.prefix_append _ _⟩
  · obtain ⟨haccepted, -, hdr, hof, tail, rfl⟩ := Command.deserialize_ok.mp h
    rw [List.append_assoc]
    exact ⟨hdr, List.prefix_append _ _, hof.magic, hof.cmdId, hof.profile,
      List.prefix_append _ _, haccepted⟩
  · cases h : (Command.deserialize profile address raw
      : Except DpeErrorCode (Command b)) with
    | error e => exact ⟨e, rfl⟩
    | ok cmd =>
        obtain ⟨haccepted, -, hencoded⟩ := Command.deserialize_ok.mp h
        exact absurd ⟨haccepted, hencoded⟩ (hnone cmd)

end Dpe
