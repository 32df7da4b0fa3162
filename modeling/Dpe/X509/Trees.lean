import Dpe.Lib.Der
import Dpe.Proofs.Writer
import Dpe.X509.Certificate

/-! # The DER structures of a certificate

    For every encoder the tree of what it writes: each `node` has the
    length that the encoder puts into its length field, next to the
    contents that follow.  Nothing is said yet about the two agreeing. -/

namespace Dpe

open Der Tlv

namespace CertWriter

variable {b : Build}

/-! ## Names, algorithms, keys -/

/-- A BOOLEAN in front of the contents of a critical extension. -/
def criticalTree : Option UInt8 → Tlv
  | some critVal => prim BOOL_TAG [critVal]
  | none => raw []

/-- An extension: an OCTET STRING of `contentSize` bytes around
    `content`. -/
def extensionTree (oid : Bytes) (critical : Option UInt8) (contentSize : Nat)
    (content : Tlv) : Tlv :=
  node SEQUENCE_TAG (getExtensionSize oid critical.isSome contentSize false)
    (all [prim OID_TAG oid, criticalTree critical,
      node OCTET_STRING_TAG contentSize content])

def rdnStringTree : DirectoryString → Tlv
  | .printableString val => prim PRINTABLE_STRING_TAG val
  | .utf8String val => prim UTF8_STRING_TAG val

/-- One attribute of a name: its type and its value, in a SEQUENCE in a
    SET. -/
def rdnAttributeTree (oid : Bytes) (val : DirectoryString) : Tlv :=
  let size := getStructureSize oid.length true
    + getStructureSize val.bytes.length true
  node SET_OF_TAG (getStructureSize size true)
    (node SEQUENCE_TAG size (all [prim OID_TAG oid, rdnStringTree val]))

def rdnTree (name : Name) : Tlv :=
  let cnSize := getStructureSize RDN_COMMON_NAME_OID.length true
    + getStructureSize name.cn.bytes.length true
  let serialnumberSize := getStructureSize RDN_SERIALNUMBER_OID.length true
    + getStructureSize name.serial.bytes.length true
  node SEQUENCE_OF_TAG
    (getStructureSize (getStructureSize cnSize true) true
      + getStructureSize (getStructureSize serialnumberSize true) true)
    (all [rdnAttributeTree RDN_COMMON_NAME_OID name.cn,
      rdnAttributeTree RDN_SERIALNUMBER_OID name.serial])

def ecPubAlgIdTree (curveOid : Bytes) : Tlv :=
  node SEQUENCE_TAG (getEcPubAlgIdSize curveOid false)
    (all [prim OID_TAG EC_PUB_OID, prim OID_TAG curveOid])

def sigAlgIdTree (profile : DpeProfile) : Tlv :=
  node SEQUENCE_TAG (getSigAlgIdSize profile false)
    (prim OID_TAG (sigOid profile))

def hashAlgIdTree (profile : DpeProfile) : Tlv :=
  node SEQUENCE_TAG (getHashAlgIdSize profile false)
    (prim OID_TAG (hashOid profile))

def validityTree (validity : CertValidity) : Tlv :=
  node SEQUENCE_TAG (getValiditySize validity false)
    (all [prim GENERALIZE_TIME_TAG validity.notBefore.val,
      prim GENERALIZE_TIME_TAG validity.notAfter.val])

def ecdsaSubjectPubkeyInfoTree (pubKey : EcdsaPubKey) (curveOid : Bytes) : Tlv :=
  let pointSize := 1 + pubKey.curveSize + pubKey.curveSize
  let bitstringSize := 1 + pointSize
  node SEQUENCE_TAG
    (getStructureSize bitstringSize true + getEcPubAlgIdSize curveOid true)
    (all [ecPubAlgIdTree curveOid,
      node BIT_STRING_TAG bitstringSize
        (raw ([0, 0x4] ++ pubKey.asSlice.1 ++ pubKey.asSlice.2))])

def mldsaSubjectPubkeyInfoTree (profile : DpeProfile)
    (pubKey : Vector UInt8 2592) : Tlv :=
  node SEQUENCE_TAG (getMldsaSubjectPubkeyInfoSize profile pubKey false)
    (all [sigAlgIdTree profile,
      node BIT_STRING_TAG (1 + pubKey.toList.length) (raw (0 :: pubKey.toList))])

def pubKeyInfoTree (cfg : CertConfig) : PubKey → Tlv
  | .ecdsa (.ecdsa256 key) =>
      ecdsaSubjectPubkeyInfoTree (.ecdsa256 key) CURVE_P256_OID
  | .ecdsa (.ecdsa384 key) =>
      ecdsaSubjectPubkeyInfoTree (.ecdsa384 key) CURVE_P384_OID
  | .mldsa key => mldsaSubjectPubkeyInfoTree cfg.profile key

/-! ## Signatures -/

def ecdsaSeqTree (sig : EcdsaSignature) : Tlv :=
  node SEQUENCE_TAG (ecdsaSeqSize sig)
    (all [prim INTEGER_TAG (integerBytes sig.asSlice.1),
      prim INTEGER_TAG (integerBytes sig.asSlice.2)])

def ecdsaBitStringTree (sig : EcdsaSignature) : Tlv :=
  node BIT_STRING_TAG (getStructureSize (1 + ecdsaSeqSize sig) true)
    (all [raw [0], ecdsaSeqTree sig])

def mldsaBitStringTree (sig : Vector UInt8 4627) : Tlv :=
  node BIT_STRING_TAG (1 + sig.toList.length) (raw (0 :: sig.toList))

def ecdsaOctetStringTree (sig : EcdsaSignature) : Tlv :=
  node OCTET_STRING_TAG (getStructureSize (ecdsaSeqSize sig) true)
    (ecdsaSeqTree sig)

def signatureBitStringTree (profile : DpeProfile) : Signature → Tlv
  | .ecdsa sig =>
      all [sigAlgIdTree profile,
        node BIT_STRING_TAG (getStructureSize (1 + ecdsaSeqSize sig) true)
          (all [raw [0], ecdsaSeqTree sig])]
  | .mldsa sig =>
      all [sigAlgIdTree profile,
        node BIT_STRING_TAG (1 + sig.toList.length) (raw (0 :: sig.toList))]

/-- The algorithm of a signature, and the header and the declared length
    of its BIT STRING. -/
def signatureBitStringSize (profile : DpeProfile) : Signature → Nat
  | .ecdsa sig => getSigAlgIdSize profile true
      + getStructureSize (ecdsaBitStringTree sig).declared true
  | .mldsa sig => getSigAlgIdSize profile true
      + getStructureSize (mldsaBitStringTree sig).declared true

def signatureOctetStringTree (profile : DpeProfile) : Signature → Tlv
  | .ecdsa sig =>
      all [sigAlgIdTree profile,
        node OCTET_STRING_TAG (getStructureSize (ecdsaSeqSize sig) true)
          (ecdsaSeqTree sig)]
  | .mldsa sig =>
      all [sigAlgIdTree profile, prim OCTET_STRING_TAG sig.toList]

/-! ## TCB infos -/

def versionTree : Tlv :=
  node (CONTEXT_SPECIFIC ||| CONSTRUCTED) (getIntegerSize X509_V3 true)
    (prim INTEGER_TAG (integerBytes (toBeBytes64 X509_V3)))

def fwidTree (profile : DpeProfile) (tci : TciMeasurement b) : Tlv :=
  node SEQUENCE_TAG (getFwidSize profile tci.toList false)
    (all [prim OID_TAG (hashOid profile), prim OCTET_STRING_TAG tci.toList])

def integrityRegistersTree (profile : DpeProfile) (node' : TciNodeData b) : Tlv :=
  let fwidSize := getFwidSize profile node'.tciCumulative.toList true
  let fwidListSize := getStructureSize fwidSize true
  let irNumSize := getIntegerSize INTEGRITY_REGISTER_NUM true
  node (CONTEXT_SPECIFIC ||| CONSTRUCTED ||| 11)
    (getStructureSize (irNumSize + fwidListSize) true)
    (node SEQUENCE_TAG (irNumSize + fwidListSize)
      (all [
        prim (CONTEXT_SPECIFIC ||| 0x01)
          (integerBytes (toBeBytes64 INTEGRITY_REGISTER_NUM)),
        node (CONTEXT_SPECIFIC ||| CONSTRUCTED ||| 0x02) fwidSize
          (fwidTree profile node'.tciCumulative)]))

/-- The TcbInfo of a node: its svn, current TCI, locality, type and, if
    asked for, cumulative TCI. -/
def tcbInfoTree (profile : DpeProfile) (supportsRecursive : Bool)
    (node' : TciNodeData b) : Tlv :=
  node SEQUENCE_TAG (getTcbInfoSize profile node' supportsRecursive false)
    (all [
      prim (CONTEXT_SPECIFIC ||| 0x03)
        (integerBytes (toBeBytes64 node'.svn.toUInt64)),
      node (CONTEXT_SPECIFIC ||| CONSTRUCTED ||| 0x06)
        (getFwidSize profile node'.tciCurrent.toList true)
        (fwidTree profile node'.tciCurrent),
      prim (CONTEXT_SPECIFIC ||| 0x08) (toBeBytes node'.locality),
      prim (CONTEXT_SPECIFIC ||| 0x09) (toLeBytes node'.tciType),
      if supportsRecursive then integrityRegistersTree profile node'
      else raw []])

def tcbInfosTree (profile : DpeProfile) (supportsRecursive : Bool)
    (nodes : List (TciNodeData b)) : Tlv :=
  all (nodes.map (tcbInfoTree profile supportsRecursive))

/-- The size the code declares for the TcbInfos of `nodes`: as if each
    were as long as that of `first`. -/
def declaredTcbInfosSize (profile : DpeProfile) (supportsRecursive : Bool)
    (first : TciNodeData b) (nodes : List (TciNodeData b)) : Nat :=
  getTcbInfoSize profile first supportsRecursive true * nodes.length

/-- MultiTcbInfo: the TcbInfos of the nodes of a path. -/
def multiTcbInfoTree (cfg : CertConfig) (supportsRecursive : Bool)
    (first : TciNodeData b) (nodes : List (TciNodeData b)) : Tlv :=
  let size := declaredTcbInfosSize cfg.profile supportsRecursive first nodes
  extensionTree MULTI_TCBINFO_OID (diceCritical cfg) (getStructureSize size true)
    (node SEQUENCE_OF_TAG size (tcbInfosTree cfg.profile supportsRecursive nodes))

/-! ## The other extensions -/

def ueidTree (cfg : CertConfig) (measurements : MeasurementData b) : Tlv :=
  let labelSize := getStructureSize measurements.label.length true
  extensionTree UEID_OID (diceCritical cfg) (getStructureSize labelSize true)
    (node SEQUENCE_TAG labelSize (prim OCTET_STRING_TAG measurements.label))

def basicConstraintsTree (isCa : Bool) : Tlv :=
  let caSize := basicConstraintsCaSize isCa
  extensionTree BASIC_CONSTRAINTS_OID (some 0xFF) (getStructureSize caSize true)
    (node SEQUENCE_TAG caSize
      (if isCa then prim BOOL_TAG [0xFF] else raw []))

def keyUsageTree (isCa : Bool) : Tlv :=
  extensionTree KEY_USAGE_OID (some 0xFF) (getStructureSize 2 true)
    (node BIT_STRING_TAG 2
      (raw [if isCa then 2 else 7, if isCa then 0x84 else 0x80]))

def extendedKeyUsageTree (isCa : Bool) : Tlv :=
  let policySize := getStructureSize (policyOid isCa).length true
  extensionTree EXTENDED_KEY_USAGE_OID (some 0xFF)
    (getStructureSize policySize true)
    (node SEQUENCE_TAG policySize (prim OID_TAG (policyOid isCa)))

def otherNameValueTree (otherNameValue : Bytes) : Tlv :=
  node (CONTEXT_SPECIFIC ||| CONSTRUCTED ||| 0x0)
    (getOtherNameValueSize otherNameValue true false)
    (prim UTF8_STRING_TAG otherNameValue)

def otherNameTree (otherName : OtherName) : Tlv :=
  node (CONTEXT_SPECIFIC ||| CONSTRUCTED ||| 0x0) (getOtherNameSize otherName false)
    (all [prim OID_TAG otherName.oid,
      node (CONTEXT_SPECIFIC ||| CONSTRUCTED ||| 0x0)
        (getOtherNameValueSize otherName.otherName.val true false)
        (prim UTF8_STRING_TAG otherName.otherName.val)])

def subjectAltNameTree : Option OtherName → Tlv
  | none => raw []
  | some otherName =>
      let otherNameSize := getOtherNameSize otherName true
      extensionTree SUBJECT_ALTERNATIVE_NAME_OID none
        (getStructureSize otherNameSize true)
        (node SEQUENCE_TAG otherNameSize (otherNameTree otherName))

def authorityKeyIdentifierTree (measurements : MeasurementData b)
    (isX509 : Bool) : Tlv :=
  if !isX509 then raw []
  else
    let keyIdentifierSize := getKeyIdentifierSize
      measurements.authorityKeyIdentifier.toList true false
    extensionTree AUTHORITY_KEY_IDENTIFIER_OID none
      (getStructureSize keyIdentifierSize true)
      (node SEQUENCE_TAG keyIdentifierSize
        (prim (CONTEXT_SPECIFIC ||| 0x0)
          measurements.authorityKeyIdentifier.toList))

def subjectKeyIdentifierTree (measurements : MeasurementData b)
    (isX509 : Bool) : Tlv :=
  if !measurements.isCa || !isX509 then raw []
  else
    extensionTree SUBJECT_KEY_IDENTIFIER_OID none
      (getStructureSize measurements.subjectKeyIdentifier.toList.length true)
      (prim OCTET_STRING_TAG measurements.subjectKeyIdentifier.toList)

def otherExtensionsTree (cfg : CertConfig) (measurements : MeasurementData b)
    (isX509 : Bool) : Tlv :=
  all [
    ueidTree cfg measurements,
    basicConstraintsTree measurements.isCa,
    keyUsageTree measurements.isCa,
    extendedKeyUsageTree measurements.isCa,
    subjectKeyIdentifierTree measurements isX509,
    authorityKeyIdentifierTree measurements isX509,
    subjectAltNameTree measurements.subjectAltName]

/-! ## Extensions as the code sizes them -/

/-- What `getMultiTcbInfoSize` computes on a path whose nodes are
    `nodes`. -/
def multiTcbInfoSize (cfg : CertConfig) (supportsRecursive : Bool)
    (first : TciNodeData b) (nodes : List (TciNodeData b)) : Nat :=
  getExtensionSize MULTI_TCBINFO_OID cfg.critDice
    (getStructureSize
      (declaredTcbInfosSize cfg.profile supportsRecursive first nodes) true) true

/-- What `getExtensionsSize` computes without its wrappings. -/
def extensionsContentSize (cfg : CertConfig) (measurements : MeasurementData b)
    (first : TciNodeData b) (nodes : List (TciNodeData b)) (isX509 : Bool) : Nat :=
  multiTcbInfoSize cfg measurements.supportsRecursive first nodes
    + getUeidSize cfg measurements true
    + getBasicConstraintsSize measurements true
    + getKeyUsageSize true
    + getExtendedKeyUsageSize measurements true
    + getSubjectKeyIdentifierExtensionSize measurements true isX509
    + getAuthorityKeyIdentifierExtensionSize measurements true isX509
    + getSubjectAltNameExtensionSize measurements true

/-- The SEQUENCE OF extensions. -/
def extensionListTree (cfg : CertConfig) (measurements : MeasurementData b)
    (first : TciNodeData b) (nodes : List (TciNodeData b)) (isX509 : Bool) : Tlv :=
  node SEQUENCE_OF_TAG
    (extensionsContentSize cfg measurements first nodes isX509)
    (all [multiTcbInfoTree cfg measurements.supportsRecursive first nodes,
      otherExtensionsTree cfg measurements isX509])

/-- The extensions field: in a TBS it has a wrapping of its own. -/
def extensionsTree (cfg : CertConfig) (measurements : MeasurementData b)
    (first : TciNodeData b) (nodes : List (TciNodeData b)) (isX509 : Bool) : Tlv :=
  if isX509 then
    node (CONTEXT_SPECIFIC ||| CONSTRUCTED ||| 0x03)
      (getStructureSize
        (extensionsContentSize cfg measurements first nodes isX509) true)
      (extensionListTree cfg measurements first nodes isX509)
  else extensionListTree cfg measurements first nodes isX509

/-- The attributes of a CSR. -/
def attributesTree (cfg : CertConfig) (measurements : MeasurementData b)
    (first : TciNodeData b) (nodes : List (TciNodeData b)) : Tlv :=
  let extensionsSize := getStructureSize
    (extensionsContentSize cfg measurements first nodes false) true
  let attributeSize := getStructureSize ID_DATA_OID.length true
    + getStructureSize extensionsSize true
  node (CONTEXT_SPECIFIC ||| CONSTRUCTED ||| 0x0)
    (getStructureSize attributeSize true)
    (node SEQUENCE_TAG attributeSize
      (all [prim OID_TAG EXTENSION_REQUEST_OID,
        node SET_OF_TAG extensionsSize
          (extensionsTree cfg measurements first nodes false)]))

/-! ## Signed structures -/

/-- A structure whose length is filled in behind its contents. -/
def sized (tag : UInt8) (body : Tlv) : Tlv := node tag body.size body

def tbsTree (cfg : CertConfig) (serialNumber issuerName : Bytes)
    (subjectName : Name) (pubkey : PubKey) (measurements : MeasurementData b)
    (validity : CertValidity) (first : TciNodeData b)
    (nodes : List (TciNodeData b)) : Tlv :=
  sized SEQUENCE_TAG (all [
    versionTree,
    prim INTEGER_TAG (integerBytes serialNumber),
    sigAlgIdTree cfg.profile,
    raw issuerName,
    validityTree validity,
    rdnTree subjectName,
    pubKeyInfoTree cfg pubkey,
    extensionsTree cfg measurements first nodes true])

def certReqInfoTree (cfg : CertConfig) (pubKey : PubKey) (subjectName : Name)
    (measurements : MeasurementData b) (first : TciNodeData b)
    (nodes : List (TciNodeData b)) : Tlv :=
  sized SEQUENCE_TAG (all [
    prim INTEGER_TAG (integerBytes (toBeBytes64 CSR_V0)),
    rdnTree subjectName,
    pubKeyInfoTree cfg pubKey,
    attributesTree cfg measurements first nodes])

def payloadTree (cfg : CertConfig) (first : TciNodeData b)
    (nodes : List (TciNodeData b)) : SignedPayload b → Tlv
  | .tbs serialNumber issuerName subjectName pubkey measurements validity =>
      tbsTree cfg serialNumber issuerName subjectName pubkey measurements
        validity first nodes
  | .certReqInfo pubKey subjectName measurements =>
      certReqInfoTree cfg pubKey subjectName measurements first nodes

/-- A payload and its signature. -/
def signedTree (cfg : CertConfig) (first : TciNodeData b)
    (nodes : List (TciNodeData b)) (payload : SignedPayload b)
    (sig : Signature) : Tlv :=
  sized SEQUENCE_TAG (all [payloadTree cfg first nodes payload,
    signatureBitStringTree cfg.profile sig])

/-! ## CMS -/

def cmsVersionTree (sid : SignerIdentifier b) : Tlv :=
  prim INTEGER_TAG (integerBytes (toBeBytes64 (cmsVersion sid)))

def issuerAndSerialNumberTree (serialNumber issuerName : Bytes) : Tlv :=
  node SEQUENCE_TAG
    (getIssuerAndSerialNumberSize serialNumber issuerName false)
    (all [raw issuerName, prim INTEGER_TAG (integerBytes serialNumber)])

/-- A key identifier that names the signer: it is in an OCTET STRING. -/
def subjectKeyIdentifierSidTree (ski : Bytes) : Tlv :=
  node (CONTEXT_SPECIFIC ||| 0x0) (getSubjectKeyIdentifierSize ski true false)
    (prim OCTET_STRING_TAG ski)

def signerIdentifierTree : SignerIdentifier b → Tlv
  | .issuerAndSerialNumber issuerName serialNumber =>
      node SEQUENCE_TAG
        (getIssuerAndSerialNumberSize serialNumber.val issuerName.val false)
        (all [raw issuerName.val,
          prim INTEGER_TAG (integerBytes serialNumber.val)])
  | .subjectKeyIdentifier ski =>
      node (CONTEXT_SPECIFIC ||| 0x0)
        (getSubjectKeyIdentifierSize ski.val true false)
        (prim OCTET_STRING_TAG ski.val)

def signerInfoTree (cfg : CertConfig) (sig : Signature)
    (sid : SignerIdentifier b) : Tlv :=
  node SEQUENCE_TAG (getSignerInfoSize cfg.profile sig sid false)
    (all [cmsVersionTree sid, signerIdentifierTree sid,
      hashAlgIdTree cfg.profile, signatureOctetStringTree cfg.profile sig])

/-- The CSR in its OCTET STRING. -/
def encapsulatedTree (csr : Tlv) : Tlv :=
  sized SEQUENCE_TAG (all [prim OID_TAG ID_DATA_OID,
    sized (CONTEXT_SPECIFIC ||| CONSTRUCTED ||| 0x0) (sized OCTET_STRING_TAG csr)])

/-- A CMS message around a CSR: `csrSig` signs the CSR and `sig` the
    message. -/
def cmsTree (cfg : CertConfig) (pubKey : PubKey) (subjectName : Name)
    (measurements : MeasurementData b) (sid : SignerIdentifier b)
    (first : TciNodeData b) (nodes : List (TciNodeData b))
    (csrSig sig : Signature) : Tlv :=
  let csr := signedTree cfg first nodes
    (.certReqInfo pubKey subjectName measurements) csrSig
  sized SEQUENCE_TAG (all [prim OID_TAG ID_SIGNED_DATA_OID,
    sized (CONTEXT_SPECIFIC ||| CONSTRUCTED ||| 0x0)
      (sized SEQUENCE_TAG (all [
        cmsVersionTree sid,
        node SET_OF_TAG (getHashAlgIdSize cfg.profile true)
          (hashAlgIdTree cfg.profile),
        encapsulatedTree csr,
        node SET_OF_TAG (getSignerInfoSize cfg.profile sig sid true)
          (signerInfoTree cfg sig sid)]))])

end CertWriter

end Dpe
