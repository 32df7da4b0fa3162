import Dpe.X509.Sizes

/-! # Certificate encoders

    The `encode_*` functions, in the order of the source.  An encoder
    that cannot fail is an `Encode`; one that can is an `EncM`, and the
    ones that sign run the signing callback in the environment they are
    given. -/

namespace Dpe

namespace CertWriter

variable {b : Build} {σ : Type}

/-! ## Names, algorithms, keys -/

/-- Encode the header of an X.509 extension; the caller encodes the
    content after it. -/
def encodeExtensionHeader (oid : Bytes) (critical : Option UInt8)
    (contentSize : Nat) : Encode :=
  .all [
    encodeByte SEQUENCE_TAG,
    encodeSizeField (getExtensionSize oid critical.isSome contentSize false),
    encodeOid oid,
    match critical with
    | some critVal =>
        .all [encodeByte BOOL_TAG, encodeSizeField BOOL_SIZE, encodeByte critVal]
    | none => pure 0,
    encodeByte OCTET_STRING_TAG,
    encodeSizeField contentSize]

def encodeRdnString : DirectoryString → Encode
  | .printableString val => encodeTlv PRINTABLE_STRING_TAG val
  | .utf8String val => encodeTlv UTF8_STRING_TAG val

/-- DER-encodes a RelativeDistinguishedName with CommonName and
    SerialNumber fields. -/
def encodeRdn (name : Name) : EncM σ Nat := do
  let cnSize := getStructureSize RDN_COMMON_NAME_OID.length true
    + getStructureSize name.cn.bytes.length true
  let serialnumberSize := getStructureSize RDN_SERIALNUMBER_OID.length true
    + getStructureSize name.serial.bytes.length true
  let rdnNameSetSize := getStructureSize cnSize true
  let rdnSerialSetSize := getStructureSize serialnumberSize true
  let rdnSeqSize := getStructureSize rdnNameSetSize true
    + getStructureSize rdnSerialSetSize true
  let bytesWritten ← EncM.emit (.all [
    encodeTagField SEQUENCE_OF_TAG, encodeSizeField rdnSeqSize,
    encodeTagField SET_OF_TAG, encodeSizeField rdnNameSetSize,
    encodeTagField SEQUENCE_TAG, encodeSizeField cnSize,
    encodeOid RDN_COMMON_NAME_OID, encodeRdnString name.cn,
    encodeTagField SET_OF_TAG, encodeSizeField rdnSerialSetSize,
    encodeTagField SEQUENCE_TAG, encodeSizeField serialnumberSize,
    encodeOid RDN_SERIALNUMBER_OID, encodeRdnString name.serial])
  EncM.checkNotTruncated
  pure bytesWritten

def encodeEcPubAlgId (curveOid : Bytes) : Encode :=
  .all [
    encodeTagField SEQUENCE_TAG,
    encodeSizeField (getEcPubAlgIdSize curveOid false),
    encodeOid EC_PUB_OID,
    encodeOid curveOid]

/-- `encode_ecdsa_sig_alg_id` and `encode_mldsa_sig_alg_id`: the two
    bodies are the same. -/
def encodeSigAlgId (profile : DpeProfile) : Encode :=
  .all [
    encodeTagField SEQUENCE_TAG,
    encodeSizeField (getSigAlgIdSize profile false),
    encodeOid (sigOid profile)]

def encodeHashAlgId (profile : DpeProfile) : Encode :=
  .all [
    encodeTagField SEQUENCE_TAG,
    encodeSizeField (getHashAlgIdSize profile false),
    encodeOid (hashOid profile)]

def encodeValidity (validity : CertValidity) : Encode :=
  .all [
    encodeTagField SEQUENCE_TAG,
    encodeSizeField (getValiditySize validity false),
    encodeTlv GENERALIZE_TIME_TAG validity.notBefore.val,
    encodeTlv GENERALIZE_TIME_TAG validity.notAfter.val]

/-- Encode SubjectPublicKeyInfo for an ECDSA public key. -/
def encodeEcdsaSubjectPubkeyInfo (pubKey : EcdsaPubKey) (curveOid : Bytes) :
    Encode :=
  let pointSize := 1 + pubKey.curveSize + pubKey.curveSize
  let bitstringSize := 1 + pointSize
  let seqSize := getStructureSize bitstringSize true
    + getEcPubAlgIdSize curveOid true
  .all [
    encodeTagField SEQUENCE_TAG,
    encodeSizeField seqSize,
    encodeEcPubAlgId curveOid,
    encodeTagField BIT_STRING_TAG,
    encodeSizeField bitstringSize,
    -- number of unused bits
    encodeByte 0,
    encodeByte 0x4,
    encodeBytes pubKey.asSlice.1,
    encodeBytes pubKey.asSlice.2]

/-- Encode SubjectPublicKeyInfo for an MLDSA-87 public key. -/
def encodeMldsaSubjectPubkeyInfo (profile : DpeProfile)
    (pubKey : Vector UInt8 2592) : Encode :=
  .all [
    encodeTagField SEQUENCE_TAG,
    encodeSizeField (getMldsaSubjectPubkeyInfoSize profile pubKey false),
    encodeSigAlgId profile,
    encodeTagField BIT_STRING_TAG,
    encodeSizeField (1 + pubKey.toList.length),
    -- number of unused bits
    encodeByte 0,
    encodeBytes pubKey.toList]

/-! ## Signatures -/

/-- The content of an ECDSA signature: SEQUENCE of two INTEGERs. -/
def ecdsaSeqSize (sig : EcdsaSignature) : Nat :=
  getIntegerBytesSize sig.asSlice.1 true + getIntegerBytesSize sig.asSlice.2 true

def encodeEcdsaSignatureBitString (sig : EcdsaSignature) : Encode :=
  .all [
    encodeTagField BIT_STRING_TAG,
    encodeSizeField (getStructureSize (1 + ecdsaSeqSize sig) true),
    -- unused bits
    encodeByte 0,
    encodeTagField SEQUENCE_TAG,
    encodeSizeField (ecdsaSeqSize sig),
    encodeIntegerBytes sig.asSlice.1 true,
    encodeIntegerBytes sig.asSlice.2 true]

def encodeMldsaSignatureBitString (sig : Vector UInt8 4627) : Encode :=
  .all [
    encodeTagField BIT_STRING_TAG,
    encodeSizeField (1 + sig.toList.length),
    -- unused bits
    encodeByte 0,
    encodeBytes sig.toList]

/-- Encode the algorithm and the signature as a BIT STRING. -/
def encodeSignatureBitString (profile : DpeProfile) : Signature → Encode
  | .ecdsa sig =>
      .all [encodeSigAlgId profile, encodeEcdsaSignatureBitString sig]
  | .mldsa sig =>
      .all [encodeSigAlgId profile, encodeMldsaSignatureBitString sig]

def encodeEcdsaSignatureOctetString (sig : EcdsaSignature) : Encode :=
  .all [
    encodeTagField OCTET_STRING_TAG,
    encodeSizeField (getStructureSize (ecdsaSeqSize sig) true),
    encodeTagField SEQUENCE_TAG,
    encodeSizeField (ecdsaSeqSize sig),
    encodeIntegerBytes sig.asSlice.1 true,
    encodeIntegerBytes sig.asSlice.2 true]

def encodeMldsaSignatureOctetString (sig : Vector UInt8 4627) : Encode :=
  encodeTlv OCTET_STRING_TAG sig.toList

/-- Encode the algorithm and the signature as an OCTET STRING. -/
def encodeSignatureOctetString (profile : DpeProfile) : Signature → Encode
  | .ecdsa sig =>
      .all [encodeSigAlgId profile, encodeEcdsaSignatureOctetString sig]
  | .mldsa sig =>
      .all [encodeSigAlgId profile, encodeMldsaSignatureOctetString sig]

/-! ## TCB infos -/

/-- Version is EXPLICIT field number 0. -/
def encodeVersion : Encode :=
  .all [
    encodeByte (CONTEXT_SPECIFIC ||| CONSTRUCTED),
    encodeSizeField (getIntegerSize X509_V3 true),
    encodeInteger X509_V3 true]

def encodeFwid (profile : DpeProfile) (tci : TciMeasurement b) : Encode :=
  .all [
    encodeByte SEQUENCE_TAG,
    encodeSizeField (getFwidSize profile tci.toList false),
    encodeOid (hashOid profile),
    encodeTlv OCTET_STRING_TAG tci.toList]

/-- A `u32` in big-endian order. -/
def toBeBytes (x : UInt32) : Bytes :=
  [(x >>> 24).toUInt8, (x >>> 16).toUInt8, (x >>> 8).toUInt8, x.toUInt8]

/-- The integrity registers: one register with the cumulative TCI. -/
def encodeIntegrityRegisters (profile : DpeProfile) (node : TciNodeData b) :
    Encode :=
  let fwidSize := getFwidSize profile node.tciCumulative.toList true
  let fwidListSize := getStructureSize fwidSize true
  let irNumSize := getIntegerSize INTEGRITY_REGISTER_NUM true
  let integrityRegisterSize := getStructureSize (irNumSize + fwidListSize) true
  .all [
    -- IMPLICIT [11] Constructed
    encodeByte (CONTEXT_SPECIFIC ||| CONSTRUCTED ||| 11),
    encodeSizeField integrityRegisterSize,
    encodeByte SEQUENCE_TAG,
    encodeSizeField (irNumSize + fwidListSize),
    -- registerNum INTEGER, IMPLICIT [1] Primitive
    encodeByte (CONTEXT_SPECIFIC ||| 0x01),
    encodeInteger INTEGRITY_REGISTER_NUM false,
    -- registerDigests SEQUENCE OF FWID, IMPLICIT [2] Constructed
    encodeByte (CONTEXT_SPECIFIC ||| CONSTRUCTED ||| 0x02),
    encodeSizeField fwidSize,
    encodeFwid profile node.tciCumulative]

/-- Encode a tcg-dice-TcbInfo structure. -/
def encodeTcbInfo (profile : DpeProfile) (node : TciNodeData b)
    (supportsRecursive : Bool) : Encode :=
  .all [
    encodeByte SEQUENCE_TAG,
    encodeSizeField (getTcbInfoSize profile node supportsRecursive false),
    -- svn INTEGER, IMPLICIT [3] Primitive
    encodeByte (CONTEXT_SPECIFIC ||| 0x03),
    encodeInteger node.svn.toUInt64 false,
    -- fwids SEQUENCE OF, IMPLICIT [6] Constructed
    encodeByte (CONTEXT_SPECIFIC ||| CONSTRUCTED ||| 0x06),
    encodeSizeField (getFwidSize profile node.tciCurrent.toList true),
    encodeFwid profile node.tciCurrent,
    -- vendorInfo OCTET STRING, IMPLICIT [8] Primitive
    encodeTlv (CONTEXT_SPECIFIC ||| 0x08) (toBeBytes node.locality),
    -- type OCTET STRING, IMPLICIT [9] Primitive
    encodeTlv (CONTEXT_SPECIFIC ||| 0x09) (toLeBytes node.tciType),
    if supportsRecursive then encodeIntegrityRegisters profile node else pure 0]

/-- Encode the tcg-dice-TcbInfos of the nodes; an invalid node ends it. -/
def encodeTcbInfos (profile : DpeProfile) (supportsRecursive : Bool) :
    List (Except DpeErrorCode (Context b)) → EncM σ Nat
  | [] => pure 0
  | node :: rest => do
      let context ← EncM.orFail node
      let n ← EncM.emit (encodeTcbInfo profile context.tci supportsRecursive)
      let m ← encodeTcbInfos profile supportsRecursive rest
      pure (n + m)

/-- The size of the concatenated tcb infos as the encoder computes it. -/
def tcbInfosSize (profile : DpeProfile) (measurements : MeasurementData b) :
    Except DpeErrorCode Nat := do
  if !(← measurements.tciNodes.isEmpty) then
    let firstNode ← measurements.tciNodes.firstNode
    let numNodes ← measurements.tciNodes.numNodes
    .ok (getTcbInfoSize profile firstNode measurements.supportsRecursive true
      * numNodes)
  else .ok 0

/-- The criticality of a DICE extension. -/
def diceCritical (cfg : CertConfig) : Option UInt8 :=
  if cfg.critDice then some 0xFF else none

/-- Encode a tcg-dice-MultiTcbInfo extension. -/
def encodeMultiTcbInfo (cfg : CertConfig) (measurements : MeasurementData b) :
    EncM σ Nat := do
  let tcbInfosSize ← EncM.orFail (tcbInfosSize cfg.profile measurements)
  let multiTcbInfoSize := getStructureSize tcbInfosSize true
  let n1 ← EncM.emit (.all [
    encodeExtensionHeader MULTI_TCBINFO_OID (diceCritical cfg) multiTcbInfoSize,
    encodeByte SEQUENCE_OF_TAG,
    encodeSizeField tcbInfosSize])
  let it ← EncM.orFail measurements.tciNodes.iter
  let n2 ← encodeTcbInfos cfg.profile measurements.supportsRecursive it.items
  pure (n1 + n2)

/-! ## The other extensions -/

/-- Encode a tcg-dice-Ueid extension. -/
def encodeUeid (cfg : CertConfig) (measurements : MeasurementData b) : Encode :=
  let labelSize := getStructureSize measurements.label.length true
  let extSize := getStructureSize labelSize true
  .all [
    encodeExtensionHeader UEID_OID (diceCritical cfg) extSize,
    encodeByte SEQUENCE_TAG,
    encodeSizeField labelSize,
    encodeTlv OCTET_STRING_TAG measurements.label]

/-- Encode a BasicConstraints extension. -/
def encodeBasicConstraints (measurements : MeasurementData b) : Encode :=
  let caSize := basicConstraintsCaSize measurements.isCa
  .all [
    encodeExtensionHeader BASIC_CONSTRAINTS_OID (some 0xFF)
      (getStructureSize caSize true),
    encodeByte SEQUENCE_TAG,
    encodeSizeField caSize,
    if measurements.isCa then
      .all [encodeByte BOOL_TAG, encodeSizeField BOOL_SIZE, encodeByte 0xFF]
    else pure 0]

/-- Encode a KeyUsage extension: DIGITAL_SIGNATURE, and KEY_CERT_SIGN for
    a CA. -/
def encodeKeyUsage (isCa : Bool) : Encode :=
  .all [
    encodeExtensionHeader KEY_USAGE_OID (some 0xFF) (getStructureSize 2 true),
    encodeByte BIT_STRING_TAG,
    encodeSizeField 2,
    -- trailing bits count as unused
    encodeByte (if isCa then 2 else 7),
    encodeByte (if isCa then 0x84 else 0x80)]

/-- Encode an ExtendedKeyUsage extension. -/
def encodeExtendedKeyUsage (measurements : MeasurementData b) : Encode :=
  let policyOid := policyOid measurements.isCa
  let policySize := getStructureSize policyOid.length true
  .all [
    encodeExtensionHeader EXTENDED_KEY_USAGE_OID (some 0xFF)
      (getStructureSize policySize true),
    encodeByte SEQUENCE_TAG,
    encodeSizeField policySize,
    encodeOid policyOid]

/-- The value of an otherName is EXPLICIT field number 0. -/
def encodeOtherNameValue (otherNameValue : Bytes) : Encode :=
  .all [
    encodeByte (CONTEXT_SPECIFIC ||| CONSTRUCTED ||| 0x0),
    encodeSizeField (getOtherNameValueSize otherNameValue true false),
    encodeTlv UTF8_STRING_TAG otherNameValue]

def encodeOtherName (otherName : OtherName) : Encode :=
  .all [
    encodeByte (CONTEXT_SPECIFIC ||| CONSTRUCTED ||| 0x0),
    encodeSizeField (getOtherNameSize otherName false),
    encodeOid otherName.oid,
    encodeOtherNameValue otherName.otherName.val]

/-- SubjectAltName, if the platform has one. -/
def encodeSubjectAltNameExtension (measurements : MeasurementData b) : Encode :=
  match measurements.subjectAltName with
  | none => pure 0
  | some otherName =>
      let otherNameSize := getOtherNameSize otherName true
      .all [
        encodeExtensionHeader SUBJECT_ALTERNATIVE_NAME_OID none
          (getStructureSize otherNameSize true),
        encodeByte SEQUENCE_TAG,
        encodeSizeField otherNameSize,
        encodeOtherName otherName]

/-- KeyIdentifier is IMPLICIT field number 0. -/
def encodeKeyIdentifier (keyIdentifier : Bytes) : Encode :=
  encodeTlv (CONTEXT_SPECIFIC ||| 0x0) keyIdentifier

def encodeAuthorityKeyIdentifierExtension (measurements : MeasurementData b)
    (isX509 : Bool) : Encode :=
  if !isX509 then pure 0
  else
    let keyIdentifierSize := getKeyIdentifierSize
      measurements.authorityKeyIdentifier.toList true false
    .all [
      encodeExtensionHeader AUTHORITY_KEY_IDENTIFIER_OID none
        (getStructureSize keyIdentifierSize true),
      encodeByte SEQUENCE_TAG,
      encodeSizeField keyIdentifierSize,
      encodeKeyIdentifier measurements.authorityKeyIdentifier.toList]

def encodeSubjectKeyIdentifierExtension (measurements : MeasurementData b)
    (isX509 : Bool) : Encode :=
  if !measurements.isCa || !isX509 then pure 0
  else
    .all [
      encodeExtensionHeader SUBJECT_KEY_IDENTIFIER_OID none
        (getStructureSize measurements.subjectKeyIdentifier.toList.length true),
      encodeTlv OCTET_STRING_TAG measurements.subjectKeyIdentifier.toList]

/-- The extensions after the MultiTcbInfo. -/
def encodeOtherExtensions (cfg : CertConfig) (measurements : MeasurementData b)
    (isX509 : Bool) : Encode :=
  .all [
    encodeUeid cfg measurements,
    encodeBasicConstraints measurements,
    encodeKeyUsage measurements.isCa,
    encodeExtendedKeyUsage measurements,
    encodeSubjectKeyIdentifierExtension measurements isX509,
    encodeAuthorityKeyIdentifierExtension measurements isX509,
    encodeSubjectAltNameExtension measurements]

/-- The EXPLICIT field number 3 around the extensions of a TBS. -/
def encodeExtensionsTag (cfg : CertConfig) (measurements : MeasurementData b)
    (isX509 : Bool) : EncM σ Nat :=
  if isX509 then do
    let n1 ← EncM.emit (encodeByte (CONTEXT_SPECIFIC ||| CONSTRUCTED ||| 0x03))
    let size ← EncM.orFail
      (getExtensionsSize cfg measurements true false isX509)
    let n2 ← EncM.emit (encodeSizeField size)
    pure (n1 + n2)
  else pure 0

def encodeExtensions (cfg : CertConfig) (measurements : MeasurementData b)
    (isX509 : Bool) : EncM σ Nat := do
  let n1 ← encodeExtensionsTag cfg measurements isX509
  let n2 ← EncM.emit (encodeByte SEQUENCE_OF_TAG)
  let size ← EncM.orFail (getExtensionsSize cfg measurements false false isX509)
  let n3 ← EncM.emit (encodeSizeField size)
  let n4 ← encodeMultiTcbInfo cfg measurements
  let n5 ← EncM.emit (encodeOtherExtensions cfg measurements isX509)
  pure (n1 + n2 + n3 + n4 + n5)

end CertWriter

end Dpe
