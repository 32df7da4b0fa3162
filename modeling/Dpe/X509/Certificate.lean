import Dpe.X509.Encode

/-! # Certificates, CSRs and CMS messages

    The encoders that reserve lengths and sign.  A reserved length is a
    gap of three bytes; it is filled in when the size of its content is
    known, and only a size that needs exactly three bytes is accepted. -/

namespace Dpe

/-- `sig.zeroize()`. -/
def Signature.zeroize : Signature → Signature
  | .ecdsa (.ecdsa256 _) => .zeroed (.ecdsa .bit256)
  | .ecdsa (.ecdsa384 _) => .zeroed (.ecdsa .bit384)
  | .mldsa _ => .zeroed .mldsa

/-- The signed payload variants. -/
inductive SignedPayload (b : Build) where
  | tbs (serialNumber issuerName : Bytes) (subjectName : Name)
      (pubkey : PubKey) (measurements : MeasurementData b)
      (validity : CertValidity)
  | certReqInfo (pubKey : PubKey) (subjectName : Name)
      (measurements : MeasurementData b)

namespace CertWriter

variable {b : Build} {σ : Type}

/-- The public key, if its algorithm is compiled in. -/
def encodePubKeyInfo (b : Build) (cfg : CertConfig) (pubKey : PubKey) :
    EncM σ Nat :=
  match pubKey with
  | .ecdsa (.ecdsa256 key) =>
      if b.p256 then
        EncM.emit (encodeEcdsaSubjectPubkeyInfo (.ecdsa256 key) CURVE_P256_OID)
      else throw (.err (.crypto .mismatchedAlgorithm))
  | .ecdsa (.ecdsa384 key) =>
      if b.p384 then
        EncM.emit (encodeEcdsaSubjectPubkeyInfo (.ecdsa384 key) CURVE_P384_OID)
      else throw (.err (.crypto .mismatchedAlgorithm))
  | .mldsa key =>
      if b.mlDsa then
        EncM.emit (encodeMldsaSubjectPubkeyInfo cfg.profile key)
      else throw (.err (.crypto .mismatchedAlgorithm))

/-! ## CSR attributes, signer infos -/

/-- Encode an attributes structure. -/
def encodeAttributes (cfg : CertConfig) (measurements : MeasurementData b) :
    EncM σ Nat := do
  -- Attributes is EXPLICIT field number 0
  let n1 ← EncM.emit (encodeByte (CONTEXT_SPECIFIC ||| CONSTRUCTED ||| 0x0))
  let attributesSize ← EncM.orFail (getAttributesSize cfg measurements false)
  let n2 ← EncM.emit (encodeSizeField attributesSize)
  let n3 ← EncM.emit (encodeTagField SEQUENCE_TAG)
  let attributeSize ← EncM.orFail (getAttributeSize cfg measurements false)
  let n4 ← EncM.emit (encodeSizeField attributeSize)
  let n5 ← EncM.emit (encodeOid EXTENSION_REQUEST_OID)
  -- attrValues SET OF
  let n6 ← EncM.emit (encodeTagField SET_OF_TAG)
  let extensionsSize ← EncM.orFail
    (getExtensionsSize cfg measurements true false false)
  let n7 ← EncM.emit (encodeSizeField extensionsSize)
  let n8 ← encodeExtensions cfg measurements false
  pure (n1 + n2 + n3 + n4 + n5 + n6 + n7 + n8)

def encodeCmsVersion (sid : SignerIdentifier b) : Encode :=
  encodeInteger (cmsVersion sid) true

def encodeIssuerAndSerialNumber (serialNumber issuerName : Bytes) : Encode :=
  .all [
    encodeTagField SEQUENCE_TAG,
    encodeSizeField (getIssuerAndSerialNumberSize serialNumber issuerName false),
    encodeBytes issuerName,
    encodeIntegerBytes serialNumber true]

/-- SubjectKeyIdentifier is field number 0 around an OCTET STRING. -/
def encodeSubjectKeyIdentifier (subjectKeyIdentifier : Bytes) : Encode :=
  .all [
    encodeByte (CONTEXT_SPECIFIC ||| 0x0),
    encodeSizeField (getSubjectKeyIdentifierSize subjectKeyIdentifier true false),
    encodeTlv OCTET_STRING_TAG subjectKeyIdentifier]

def encodeSignerIdentifier : SignerIdentifier b → Encode
  | .issuerAndSerialNumber issuerName serialNumber =>
      encodeIssuerAndSerialNumber serialNumber.val issuerName.val
  | .subjectKeyIdentifier ski => encodeSubjectKeyIdentifier ski.val

/-- Encode a SignerInfo. -/
def encodeSignerInfo (cfg : CertConfig) (sig : Signature)
    (sid : SignerIdentifier b) : EncM σ Nat := do
  let bytesWritten ← EncM.emit (.all [
    encodeTagField SEQUENCE_TAG,
    encodeSizeField (getSignerInfoSize cfg.profile sig sid false),
    encodeCmsVersion sid,
    encodeSignerIdentifier sid,
    encodeHashAlgId cfg.profile,
    encodeSignatureOctetString cfg.profile sig])
  EncM.checkNotTruncated
  pure bytesWritten

/-! ## Signed payloads -/

/-- Encodes a TBS certificate. -/
def encodeTbs (cfg : CertConfig) (serialNumber issuerName : Bytes)
    (subjectName : Name) (pubkey : PubKey) (measurements : MeasurementData b)
    (validity : CertValidity) : EncM σ Nat := do
  let prefixBytes ← EncM.emit (encodeTagField SEQUENCE_TAG)
  let _ ← EncM.pushBacktrack SIZE_TAG_OFFSET
  let n1 ← EncM.emit (.all [
    encodeVersion,
    encodeIntegerBytes serialNumber true,
    encodeSigAlgId cfg.profile,
    encodeBytes issuerName,
    encodeValidity validity])
  let n2 ← encodeRdn subjectName
  let n3 ← encodePubKeyInfo b cfg pubkey
  let n4 ← encodeExtensions cfg measurements true
  let bytesWritten := n1 + n2 + n3 + n4
  let sizeBytes ← EncM.backtrackAndEncodeSize [bytesWritten]
  EncM.checkNotTruncated
  pure (prefixBytes + sizeBytes + bytesWritten)

/-- Encode a certification request info. -/
def encodeCertificationRequestInfo (cfg : CertConfig) (pubKey : PubKey)
    (subjectName : Name) (measurements : MeasurementData b) : EncM σ Nat := do
  let prefixBytes ← EncM.emit (encodeTagField SEQUENCE_TAG)
  let _ ← EncM.pushBacktrack SIZE_TAG_OFFSET
  let n1 ← EncM.emit (encodeInteger CSR_V0 true)
  let n2 ← encodeRdn subjectName
  let n3 ← encodePubKeyInfo b cfg pubKey
  let n4 ← encodeAttributes cfg measurements
  let bytesWritten := n1 + n2 + n3 + n4
  let sizeBytes ← EncM.backtrackAndEncodeSize [bytesWritten]
  EncM.checkNotTruncated
  pure (prefixBytes + sizeBytes + bytesWritten)

/-- The payload alone. -/
def encodePayload (cfg : CertConfig) : SignedPayload b → EncM σ Nat
  | .tbs serialNumber issuerName subjectName pubkey measurements validity =>
      encodeTbs cfg serialNumber issuerName subjectName pubkey measurements
        validity
  | .certReqInfo pubKey subjectName measurements =>
      encodeCertificationRequestInfo cfg pubKey subjectName measurements

def SignedPayload.isCsr : SignedPayload b → Bool
  | .tbs .. => false
  | .certReqInfo .. => true

/-- Encode a signed structure: an outer SEQUENCE wrapping a payload
    followed by its signature BIT STRING. -/
def encodeSignedPayload (cfg : CertConfig) (signCb : SignCallback σ)
    (payload : SignedPayload b) : EncM σ Nat := do
  let prefixBytes ← EncM.emit (encodeTagField SEQUENCE_TAG)
  let offset ← EncM.pushBacktrack SIZE_TAG_OFFSET
  let payloadBytes ← encodePayload cfg payload
  EncM.sign signCb offset (offset + payloadBytes) (SignedPayload.isCsr payload)
  let s ← get
  let sigBytes ← EncM.emit (encodeSignatureBitString cfg.profile s.sig)
  modify fun s => { s with sig := s.sig.zeroize }
  let bodySize := payloadBytes + sigBytes
  let sizeBytes ← EncM.backtrackAndEncodeSize [bodySize]
  pure (bodySize + (prefixBytes + sizeBytes))

/-- Encode an X.509 certificate. -/
def encodeCertificate (cfg : CertConfig) (signCb : SignCallback σ)
    (serialNumber issuerName : Bytes) (subjectName : Name) (pubkey : PubKey)
    (measurements : MeasurementData b) (validity : CertValidity) :
    EncM σ Nat := do
  let bytesWritten ← encodeSignedPayload cfg signCb
    (.tbs serialNumber issuerName subjectName pubkey measurements validity)
  EncM.checkNotTruncated
  pure bytesWritten

/-- Encode an PKCS #10 CSR. -/
def encodeCsr (cfg : CertConfig) (signCb : SignCallback σ) (pubKey : PubKey)
    (subjectName : Name) (measurements : MeasurementData b) : EncM σ Nat := do
  let bytesWritten ← encodeSignedPayload cfg signCb
    (.certReqInfo pubKey subjectName measurements)
  EncM.checkNotTruncated
  pure bytesWritten

/-! ## CMS -/

/-- Encode an EncapsulatedContentInfo: an OCTET STRING with the CSR. -/
def encodeEncapsulatedContentInfo (cfg : CertConfig) (signCb : SignCallback σ)
    (pubKey : PubKey) (subjectName : Name) (measurements : MeasurementData b) :
    EncM σ Nat := do
  let prefixBytes ← EncM.emit (encodeByte SEQUENCE_TAG)
  let _ ← EncM.pushBacktrack SIZE_TAG_OFFSET
  let n1 ← EncM.emit (.all [
    encodeOid ID_DATA_OID,
    -- eContent is EXPLICIT field number 0
    encodeByte (CONTEXT_SPECIFIC ||| CONSTRUCTED ||| 0x0)])
  let _ ← EncM.pushBacktrack SIZE_TAG_OFFSET
  let n2 ← EncM.emit (encodeByte OCTET_STRING_TAG)
  let offset ← EncM.pushBacktrack SIZE_TAG_OFFSET
  let csrBytes ← encodeCsr cfg signCb pubKey subjectName measurements
  EncM.setWriter fun w =>
    { w with csrRange := some (offset, offset + csrBytes) }
  let econtent1Size := getEcontentSize csrBytes false false
  let econtent0Size := getEcontentSize csrBytes true false
  let n3 ← EncM.backtrackAndEncodeSize [econtent1Size, econtent0Size]
  let bytesWritten := n1 + n2 + n3
  let n4 ← EncM.backtrackAndEncodeSize [bytesWritten + csrBytes]
  pure (bytesWritten + csrBytes + (prefixBytes + n4))

/-- The span of the CSR inside the message. -/
def getCsrRange : EncM σ (Nat × Nat) := do
  let s ← get
  match s.writer.csrRange with
  | none => throw (.err .x509CsrUnset)
  | some range => pure range

/-- Encode a CMS ContentInfo message. -/
def encodeCms (cfg : CertConfig) (signCb : SignCallback σ) (pubKey : PubKey)
    (subjectName : Name) (measurements : MeasurementData b)
    (sid : SignerIdentifier b) : EncM σ Nat := do
  let tag0 ← EncM.emit (encodeByte SEQUENCE_TAG)
  let contentInfoPrefix := tag0 + SIZE_TAG_OFFSET
  let _ ← EncM.pushBacktrack SIZE_TAG_OFFSET
  -- SignedData is EXPLICIT field number 0
  let n1 ← EncM.emit (.all [
    encodeOid ID_SIGNED_DATA_OID,
    encodeByte (CONTEXT_SPECIFIC ||| CONSTRUCTED ||| 0x0)])
  let contentInfoBody := n1 + SIZE_TAG_OFFSET
  let _ ← EncM.pushBacktrack SIZE_TAG_OFFSET
  let tag1 ← EncM.emit (encodeTagField SEQUENCE_TAG)
  let signedDataPrefix := tag1 + SIZE_TAG_OFFSET
  let _ ← EncM.pushBacktrack SIZE_TAG_OFFSET
  let n2 ← EncM.emit (.all [
    encodeCmsVersion sid,
    encodeTagField SET_OF_TAG,
    encodeSizeField (getHashAlgIdSize cfg.profile true),
    encodeHashAlgId cfg.profile])
  let n3 ← encodeEncapsulatedContentInfo cfg signCb pubKey subjectName
    measurements
  let csrRange ← getCsrRange
  EncM.sign signCb csrRange.1 csrRange.2 false
  let s ← get
  let n4 ← EncM.emit (.all [
    encodeTagField SET_OF_TAG,
    encodeSizeField (getSignerInfoSize cfg.profile s.sig sid true)])
  let n5 ← encodeSignerInfo cfg s.sig sid
  modify fun s => { s with sig := s.sig.zeroize }
  let signedDataField1 := n2 + n3 + n4 + n5
  let signedDataField0 := signedDataPrefix + signedDataField1
  let contentInfoSize := contentInfoBody + signedDataField0
  let _ ← EncM.backtrackAndEncodeSize
    [signedDataField1, signedDataField0, contentInfoSize]
  let s ← get
  EncM.reject (!s.writer.backtracks.isEmpty) .x509InvalidState
  EncM.checkNotTruncated
  pure (contentInfoPrefix + contentInfoSize)

end CertWriter

end Dpe
