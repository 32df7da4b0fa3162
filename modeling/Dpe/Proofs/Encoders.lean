import Dpe.X509.Trees

/-! # The encoders write their trees

    One lemma for each encoder that cannot fail: the block it appends is
    the bytes of its tree.  An encoder is a list of smaller ones, so each
    proof lists what those append and compares the result with the
    tree. -/

namespace Dpe

open Der Tlv

namespace CertWriter

variable {b : Build}

/-! ## Names, algorithms, keys -/

/-- A tag, a size field and a list of encoders make a node. -/
theorem emits_node {tag : UInt8} {n : Nat} {es : List Encode} {body : Tlv}
    (h : Emits (.all es) body.bytes) :
    Emits (.all (encodeByte tag :: encodeSizeField n :: es))
      (node tag n body).bytes := by
  refine (Emits.cons (emits_encodeByte tag)
    (.cons (emits_encodeSizeField n) h)).congr ?_
  simp [bytes]

/-- A list of encoders, each with its tree. -/
theorem emits_cons {e : Encode} {es : List Encode} {t : Tlv} {ts : List Tlv}
    (h : Emits e t.bytes) (hs : Emits (.all es) (all ts).bytes) :
    Emits (.all (e :: es)) (all (t :: ts)).bytes :=
  .cons h hs

theorem emits_nil : Emits (.all []) (all []).bytes := .nil

/-- An encoder in front of a list of encoders that make one tree. -/
theorem emits_pair {e : Encode} {es : List Encode} {t u : Tlv}
    (h : Emits e t.bytes) (hs : Emits (.all es) u.bytes) :
    Emits (.all (e :: es)) (all [t, u]).bytes :=
  (Emits.cons h hs).congr (by simp)

/-- A list of one encoder. -/
theorem emits_single {e : Encode} {t : Tlv} (h : Emits e t.bytes) :
    Emits (.all [e]) t.bytes :=
  (Emits.cons h .nil).congr (List.append_nil _)

theorem emits_critical (critical : Option UInt8) :
    Emits (match critical with
      | some critVal =>
          .all [encodeByte BOOL_TAG, encodeSizeField BOOL_SIZE, encodeByte critVal]
      | none => pure 0) (criticalTree critical).bytes := by
  cases critical with
  | none => exact .none
  | some critVal => exact emits_node (emits_single (emits_encodeBytes [critVal]))

/-- The bytes of an extension in front of its content. -/
def extensionHeader (oid : Bytes) (critical : Option UInt8) (n : Nat) : Bytes :=
  (SEQUENCE_TAG :: lengthField (getExtensionSize oid critical.isSome n false))
    ++ (prim OID_TAG oid).bytes ++ (criticalTree critical).bytes
    ++ (OCTET_STRING_TAG :: lengthField n)

theorem extensionTree_bytes (oid : Bytes) (critical : Option UInt8) (n : Nat)
    (content : Tlv) :
    (extensionTree oid critical n content).bytes
      = extensionHeader oid critical n ++ content.bytes := by
  simp [extensionTree, extensionHeader, bytes, all]

theorem emits_encodeExtensionHeader (oid : Bytes) (critical : Option UInt8)
    (n : Nat) :
    Emits (encodeExtensionHeader oid critical n)
      (extensionHeader oid critical n) := by
  refine (Emits.cons (emits_encodeByte _) (.cons (emits_encodeSizeField _)
    (.cons (emits_encodeOid oid) (.cons (emits_critical critical)
      (.cons (emits_encodeByte _)
        (.cons (emits_encodeSizeField _) .nil)))))).congr ?_
  simp [extensionHeader]

/-- The header of an extension and its content. -/
theorem emits_extension {oid : Bytes} {critical : Option UInt8} {n : Nat}
    {es : List Encode} {content : Tlv}
    (h : Emits (.all es) content.bytes) :
    Emits (.all (encodeExtensionHeader oid critical n :: es))
      (extensionTree oid critical n content).bytes := by
  rw [extensionTree_bytes]
  exact .cons (emits_encodeExtensionHeader oid critical n) h

theorem emits_encodeRdnString (val : DirectoryString) :
    Emits (encodeRdnString val) (rdnStringTree val).bytes := by
  cases val with
  | printableString val => exact emits_encodeTlv _ val
  | utf8String val => exact emits_encodeTlv _ val

/-- The list of encoders of a name, SETs and SEQUENCEs flattened. -/
theorem emits_rdn (name : Name) :
    let cnSize := getStructureSize RDN_COMMON_NAME_OID.length true
      + getStructureSize name.cn.bytes.length true
    let serialnumberSize := getStructureSize RDN_SERIALNUMBER_OID.length true
      + getStructureSize name.serial.bytes.length true
    let rdnNameSetSize := getStructureSize cnSize true
    let rdnSerialSetSize := getStructureSize serialnumberSize true
    let rdnSeqSize := getStructureSize rdnNameSetSize true
      + getStructureSize rdnSerialSetSize true
    Emits (.all [
      encodeTagField SEQUENCE_OF_TAG, encodeSizeField rdnSeqSize,
      encodeTagField SET_OF_TAG, encodeSizeField rdnNameSetSize,
      encodeTagField SEQUENCE_TAG, encodeSizeField cnSize,
      encodeOid RDN_COMMON_NAME_OID, encodeRdnString name.cn,
      encodeTagField SET_OF_TAG, encodeSizeField rdnSerialSetSize,
      encodeTagField SEQUENCE_TAG, encodeSizeField serialnumberSize,
      encodeOid RDN_SERIALNUMBER_OID, encodeRdnString name.serial])
      (rdnTree name).bytes := by
  intro cnSize serialnumberSize rdnNameSetSize rdnSerialSetSize rdnSeqSize
  refine (Emits.cons (emits_encodeTagField _) (.cons (emits_encodeSizeField _)
    (.cons (emits_encodeTagField _) (.cons (emits_encodeSizeField _)
    (.cons (emits_encodeTagField _) (.cons (emits_encodeSizeField _)
    (.cons (emits_encodeOid _) (.cons (emits_encodeRdnString _)
    (.cons (emits_encodeTagField _) (.cons (emits_encodeSizeField _)
    (.cons (emits_encodeTagField _) (.cons (emits_encodeSizeField _)
    (.cons (emits_encodeOid _) (.cons (emits_encodeRdnString _)
      .nil)))))))))))))).congr ?_
  simp only [rdnTree, rdnAttributeTree, bytes, all, List.append_assoc,
    List.cons_append, List.nil_append, List.append_nil]
  rfl

theorem emits_encodeEcPubAlgId (curveOid : Bytes) :
    Emits (encodeEcPubAlgId curveOid) (ecPubAlgIdTree curveOid).bytes :=
  emits_node (emits_cons (emits_encodeOid _) (emits_cons (emits_encodeOid _)
    emits_nil))

theorem emits_encodeSigAlgId (profile : DpeProfile) :
    Emits (encodeSigAlgId profile) (sigAlgIdTree profile).bytes :=
  emits_node (emits_single (emits_encodeOid _))

theorem emits_encodeHashAlgId (profile : DpeProfile) :
    Emits (encodeHashAlgId profile) (hashAlgIdTree profile).bytes :=
  emits_node (emits_single (emits_encodeOid _))

theorem emits_encodeValidity (validity : CertValidity) :
    Emits (encodeValidity validity) (validityTree validity).bytes :=
  emits_node (emits_cons (emits_encodeTlv _ _) (emits_cons (emits_encodeTlv _ _)
    emits_nil))

theorem emits_encodeEcdsaSubjectPubkeyInfo (pubKey : EcdsaPubKey)
    (curveOid : Bytes) :
    Emits (encodeEcdsaSubjectPubkeyInfo pubKey curveOid)
      (ecdsaSubjectPubkeyInfoTree pubKey curveOid).bytes := by
  have hbits : Emits (.all [encodeTagField BIT_STRING_TAG,
      encodeSizeField (1 + (1 + pubKey.curveSize + pubKey.curveSize)),
      encodeByte 0, encodeByte 0x4, encodeBytes pubKey.asSlice.1,
      encodeBytes pubKey.asSlice.2])
      (node BIT_STRING_TAG (1 + (1 + pubKey.curveSize + pubKey.curveSize))
        (raw ([0, 0x4] ++ pubKey.asSlice.1 ++ pubKey.asSlice.2))).bytes := by
    refine emits_node ((Emits.cons (emits_encodeByte _) (.cons (emits_encodeByte _)
      (.cons (emits_encodeBytes _) (.cons (emits_encodeBytes _) .nil)))).congr ?_)
    simp
  exact emits_node (emits_pair (emits_encodeEcPubAlgId curveOid) hbits)

theorem emits_encodeMldsaSubjectPubkeyInfo (profile : DpeProfile)
    (pubKey : Vector UInt8 2592) :
    Emits (encodeMldsaSubjectPubkeyInfo profile pubKey)
      (mldsaSubjectPubkeyInfoTree profile pubKey).bytes := by
  have hbits : Emits (.all [encodeTagField BIT_STRING_TAG,
      encodeSizeField (1 + pubKey.toList.length), encodeByte 0,
      encodeBytes pubKey.toList])
      (node BIT_STRING_TAG (1 + pubKey.toList.length)
        (raw (0 :: pubKey.toList))).bytes := by
    refine emits_node ((Emits.cons (emits_encodeByte _)
      (.cons (emits_encodeBytes _) .nil)).congr ?_)
    simp
  exact emits_node (emits_pair (emits_encodeSigAlgId profile) hbits)

/-! ## Signatures -/

theorem emits_ecdsaSeq (sig : EcdsaSignature) :
    Emits (.all [encodeTagField SEQUENCE_TAG, encodeSizeField (ecdsaSeqSize sig),
      encodeIntegerBytes sig.asSlice.1 true, encodeIntegerBytes sig.asSlice.2 true])
      (ecdsaSeqTree sig).bytes :=
  emits_node (emits_cons (emits_encodeIntegerBytes _)
    (emits_cons (emits_encodeIntegerBytes _) emits_nil))

theorem emits_encodeEcdsaSignatureBitString (sig : EcdsaSignature) :
    Emits (encodeEcdsaSignatureBitString sig) (ecdsaBitStringTree sig).bytes := by
  refine emits_node ((Emits.cons (emits_encodeByte 0)
    (emits_ecdsaSeq sig)).congr ?_)
  simp

theorem emits_encodeMldsaSignatureBitString (sig : Vector UInt8 4627) :
    Emits (encodeMldsaSignatureBitString sig) (mldsaBitStringTree sig).bytes := by
  refine emits_node ((Emits.cons (emits_encodeByte 0)
    (.cons (emits_encodeBytes _) .nil)).congr ?_)
  simp

theorem emits_encodeEcdsaSignatureOctetString (sig : EcdsaSignature) :
    Emits (encodeEcdsaSignatureOctetString sig)
      (ecdsaOctetStringTree sig).bytes :=
  emits_node (emits_ecdsaSeq sig)

theorem emits_encodeSignatureBitString (profile : DpeProfile) (sig : Signature) :
    Emits (encodeSignatureBitString profile sig)
      (signatureBitStringTree profile sig).bytes := by
  have halg := emits_encodeSigAlgId profile
  cases sig with
  | ecdsa sig =>
      exact emits_cons halg
        (emits_cons (emits_encodeEcdsaSignatureBitString sig) emits_nil)
  | mldsa sig =>
      exact emits_cons halg
        (emits_cons (emits_encodeMldsaSignatureBitString sig) emits_nil)

theorem emits_encodeSignatureOctetString (profile : DpeProfile)
    (sig : Signature) :
    Emits (encodeSignatureOctetString profile sig)
      (signatureOctetStringTree profile sig).bytes := by
  have halg := emits_encodeSigAlgId profile
  cases sig with
  | ecdsa sig =>
      exact emits_cons halg
        (emits_cons (emits_encodeEcdsaSignatureOctetString sig) emits_nil)
  | mldsa sig =>
      exact emits_cons halg (emits_cons (emits_encodeTlv _ _) emits_nil)

/-! ## TCB infos -/

theorem emits_encodeVersion : Emits encodeVersion versionTree.bytes :=
  emits_node (emits_single (emits_encodeIntegerBytes _))

theorem emits_encodeFwid (profile : DpeProfile) (tci : TciMeasurement b) :
    Emits (encodeFwid profile tci) (fwidTree profile tci).bytes :=
  emits_node (emits_cons (emits_encodeOid _) (emits_cons (emits_encodeTlv _ _)
    emits_nil))

/-- An INTEGER under an implicit tag, in front of other encoders. -/
theorem emits_implicitInteger {tag : UInt8} {integer : UInt64}
    {es : List Encode} {ts : List Tlv} (h : Emits (.all es) (all ts).bytes) :
    Emits (.all (encodeByte tag :: encodeInteger integer false :: es))
      (all (prim tag (integerBytes (toBeBytes64 integer)) :: ts)).bytes := by
  refine (Emits.cons (emits_encodeByte tag)
    (.cons (emits_encodeIntegerBytes_untagged _) h)).congr ?_
  simp [prim, bytes]

/-- A node in front of other encoders, its own encoders flattened. -/
theorem emits_node_cons {tag : UInt8} {n : Nat} {e : Encode} {es : List Encode}
    {body : Tlv} {ts : List Tlv} (hbody : Emits e body.bytes)
    (h : Emits (.all es) (all ts).bytes) :
    Emits (.all (encodeByte tag :: encodeSizeField n :: e :: es))
      (all (node tag n body :: ts)).bytes := by
  refine (Emits.cons (emits_encodeByte tag) (.cons (emits_encodeSizeField n)
    (.cons hbody h))).congr ?_
  simp [bytes]

theorem emits_encodeIntegrityRegisters (profile : DpeProfile)
    (node' : TciNodeData b) :
    Emits (encodeIntegrityRegisters profile node')
      (integrityRegistersTree profile node').bytes :=
  emits_node (emits_node (emits_implicitInteger
    (emits_node_cons (emits_encodeFwid _ _) emits_nil)))

theorem emits_encodeTcbInfo (profile : DpeProfile) (node' : TciNodeData b)
    (supportsRecursive : Bool) :
    Emits (encodeTcbInfo profile node' supportsRecursive)
      (tcbInfoTree profile supportsRecursive node').bytes := by
  have hregisters : Emits (if supportsRecursive then
      encodeIntegrityRegisters profile node' else pure 0)
      (if supportsRecursive then integrityRegistersTree profile node'
        else raw []).bytes := by
    split
    · exact emits_encodeIntegrityRegisters profile node'
    · exact .none
  exact emits_node (emits_implicitInteger (emits_node_cons (emits_encodeFwid _ _)
    (emits_cons (emits_encodeTlv _ _) (emits_cons (emits_encodeTlv _ _)
      (emits_cons hregisters emits_nil)))))

/-! ## Extensions -/

theorem emits_encodeUeid (cfg : CertConfig) (measurements : MeasurementData b) :
    Emits (encodeUeid cfg measurements) (ueidTree cfg measurements).bytes :=
  emits_extension (emits_node (emits_single (emits_encodeTlv _ _)))

theorem emits_encodeBasicConstraints (measurements : MeasurementData b) :
    Emits (encodeBasicConstraints measurements)
      (basicConstraintsTree measurements.isCa).bytes := by
  have hca : Emits (if measurements.isCa then
      .all [encodeByte BOOL_TAG, encodeSizeField BOOL_SIZE, encodeByte 0xFF]
      else pure 0)
      (if measurements.isCa then prim BOOL_TAG [0xFF] else raw []).bytes := by
    split
    · exact emits_node (emits_single (emits_encodeBytes [0xFF]))
    · exact .none
  exact emits_extension (emits_node (emits_single hca))

theorem emits_encodeKeyUsage (isCa : Bool) :
    Emits (encodeKeyUsage isCa) (keyUsageTree isCa).bytes :=
  emits_extension (emits_node ((Emits.cons (emits_encodeByte _)
    (.cons (emits_encodeByte _) .nil)).congr rfl))

theorem emits_encodeExtendedKeyUsage (measurements : MeasurementData b) :
    Emits (encodeExtendedKeyUsage measurements)
      (extendedKeyUsageTree measurements.isCa).bytes :=
  emits_extension (emits_node (emits_single (emits_encodeOid _)))

theorem emits_encodeOtherNameValue (val : Bytes) :
    Emits (encodeOtherNameValue val) (otherNameValueTree val).bytes :=
  emits_node (emits_single (emits_encodeTlv _ _))

theorem emits_encodeOtherName (otherName : OtherName) :
    Emits (encodeOtherName otherName) (otherNameTree otherName).bytes :=
  emits_node (emits_cons (emits_encodeOid _)
    (emits_cons (emits_encodeOtherNameValue _) emits_nil))

theorem emits_encodeSubjectAltNameExtension (measurements : MeasurementData b) :
    Emits (encodeSubjectAltNameExtension measurements)
      (subjectAltNameTree measurements.subjectAltName).bytes := by
  unfold encodeSubjectAltNameExtension
  cases measurements.subjectAltName with
  | none => exact .none
  | some otherName =>
      exact emits_extension (emits_node (emits_single (emits_encodeOtherName _)))

theorem emits_encodeAuthorityKeyIdentifierExtension
    (measurements : MeasurementData b) (isX509 : Bool) :
    Emits (encodeAuthorityKeyIdentifierExtension measurements isX509)
      (authorityKeyIdentifierTree measurements isX509).bytes := by
  unfold encodeAuthorityKeyIdentifierExtension authorityKeyIdentifierTree
  split
  · exact .none
  · exact emits_extension (emits_node (emits_single (emits_encodeTlv _ _)))

theorem emits_encodeSubjectKeyIdentifierExtension
    (measurements : MeasurementData b) (isX509 : Bool) :
    Emits (encodeSubjectKeyIdentifierExtension measurements isX509)
      (subjectKeyIdentifierTree measurements isX509).bytes := by
  unfold encodeSubjectKeyIdentifierExtension subjectKeyIdentifierTree
  split
  · exact .none
  · exact emits_extension (emits_single (emits_encodeTlv _ _))

theorem emits_encodeOtherExtensions (cfg : CertConfig)
    (measurements : MeasurementData b) (isX509 : Bool) :
    Emits (encodeOtherExtensions cfg measurements isX509)
      (otherExtensionsTree cfg measurements isX509).bytes :=
  emits_cons (emits_encodeUeid _ _)
    (emits_cons (emits_encodeBasicConstraints _)
      (emits_cons (emits_encodeKeyUsage _)
        (emits_cons (emits_encodeExtendedKeyUsage _)
          (emits_cons (emits_encodeSubjectKeyIdentifierExtension _ _)
            (emits_cons (emits_encodeAuthorityKeyIdentifierExtension _ _)
              (emits_cons (emits_encodeSubjectAltNameExtension _) emits_nil))))))

/-! ## CMS -/

theorem emits_encodeIssuerAndSerialNumber (serialNumber issuerName : Bytes) :
    Emits (encodeIssuerAndSerialNumber serialNumber issuerName)
      (issuerAndSerialNumberTree serialNumber issuerName).bytes :=
  emits_node (emits_cons (t := raw issuerName) (emits_encodeBytes _)
    (emits_cons (emits_encodeIntegerBytes _) emits_nil))

theorem emits_encodeSubjectKeyIdentifier (ski : Bytes) :
    Emits (encodeSubjectKeyIdentifier ski)
      (subjectKeyIdentifierSidTree ski).bytes :=
  emits_node (emits_single (emits_encodeTlv _ _))

theorem emits_encodeSignerIdentifier (sid : SignerIdentifier b) :
    Emits (encodeSignerIdentifier sid) (signerIdentifierTree sid).bytes := by
  cases sid with
  | issuerAndSerialNumber issuerName serialNumber =>
      exact emits_encodeIssuerAndSerialNumber _ _
  | subjectKeyIdentifier ski => exact emits_encodeSubjectKeyIdentifier _

theorem emits_signerInfo (cfg : CertConfig) (sig : Signature)
    (sid : SignerIdentifier b) :
    Emits (.all [
      encodeTagField SEQUENCE_TAG,
      encodeSizeField (getSignerInfoSize cfg.profile sig sid false),
      encodeCmsVersion sid,
      encodeSignerIdentifier sid,
      encodeHashAlgId cfg.profile,
      encodeSignatureOctetString cfg.profile sig])
      (signerInfoTree cfg sig sid).bytes :=
  emits_node (emits_cons (emits_encodeIntegerBytes _)
    (emits_cons (emits_encodeSignerIdentifier sid)
      (emits_cons (emits_encodeHashAlgId _)
        (emits_cons (emits_encodeSignatureOctetString _ _) emits_nil))))

end CertWriter

end Dpe
