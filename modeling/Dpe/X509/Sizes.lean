import Dpe.Model.Instance
import Dpe.X509.Writer

/-! # Precomputed sizes of the certificate structures

    The `get_*_size` functions: each repeats in arithmetic what an
    encoder of the next module writes. -/

namespace Dpe

variable {b : Build}

/-! ## What goes into a certificate -/

inductive DirectoryString where
  | printableString (val : Bytes)
  | utf8String (val : Bytes)

def DirectoryString.bytes : DirectoryString → Bytes
  | printableString val => val
  | utf8String val => val

/-- An X.509 name: common name and serial number. -/
structure Name where
  cn : DirectoryString
  serial : DirectoryString

/-- The nodes from the root of a tree to a context. -/
structure TciNodes (b : Build) where
  startIdx : Nat
  contexts : List (Context b)

namespace TciNodes

def iter (t : TciNodes b) : Except DpeErrorCode (RootToChildIter b) :=
  RootToChildIter.new t.startIdx t.contexts

def new (startIdx : Nat) (contexts : List (Context b)) :
    Except DpeErrorCode (TciNodes b) := do
  let tciNodes : TciNodes b := { startIdx := startIdx, contexts := contexts }
  let it ← tciNodes.iter
  if it.items.length > b.maxHandles then
    .error InternalErrorCode.tciNodeCountExceeded
  else .ok tciNodes

def isEmpty (t : TciNodes b) : Except DpeErrorCode Bool := do
  let it ← t.iter
  .ok it.path.isEmpty

def numNodes (t : TciNodes b) : Except DpeErrorCode Nat := do
  let it ← t.iter
  .ok it.numNodes

def firstNode (t : TciNodes b) : Except DpeErrorCode (TciNodeData b) := do
  let it ← t.iter
  let context ← it.firstNode
  .ok context.tci

end TciNodes

structure MeasurementData (b : Build) where
  tciNodes : TciNodes b
  label : Bytes
  isCa : Bool
  supportsRecursive : Bool
  subjectKeyIdentifier : Vector UInt8 MAX_KEY_IDENTIFIER_SIZE
  authorityKeyIdentifier : Vector UInt8 MAX_KEY_IDENTIFIER_SIZE
  subjectAltName : Option OtherName

/-! ## Object identifiers and constants -/

def ECDSA_WITH_SHA256_OID : Bytes :=
  [0x2A, 0x86, 0x48, 0xCE, 0x3D, 0x04, 0x03, 0x02]
def CURVE_P256_OID : Bytes := [0x2A, 0x86, 0x48, 0xCE, 0x3D, 0x03, 0x01, 0x07]
def HASH_SHA256_OID : Bytes :=
  [0x60, 0x86, 0x48, 0x01, 0x65, 0x03, 0x04, 0x02, 0x01]
def ECDSA_WITH_SHA384_OID : Bytes :=
  [0x2A, 0x86, 0x48, 0xCE, 0x3D, 0x04, 0x03, 0x03]
def CURVE_P384_OID : Bytes := [0x2B, 0x81, 0x04, 0x00, 0x22]

namespace CertWriter

def X509_V3 : UInt64 := 2
def CMS_V1 : UInt64 := 1
def CMS_V3 : UInt64 := 3
def CSR_V0 : UInt64 := 0

/-- There is only ever one integrity register per TCB info. -/
def INTEGRITY_REGISTER_NUM : UInt64 := 0

def MLDSA_OID : Bytes := [0x60, 0x86, 0x48, 0x01, 0x65, 0x03, 0x04, 0x03, 0x13]
def EC_PUB_OID : Bytes := [0x2A, 0x86, 0x48, 0xCE, 0x3D, 0x02, 0x01]
def HASH_SHA384_OID : Bytes :=
  [0x60, 0x86, 0x48, 0x01, 0x65, 0x03, 0x04, 0x02, 0x02]
def RDN_COMMON_NAME_OID : Bytes := [0x55, 0x04, 0x03]
def RDN_SERIALNUMBER_OID : Bytes := [0x55, 0x04, 0x05]
def MULTI_TCBINFO_OID : Bytes := [0x67, 0x81, 0x05, 0x05, 0x04, 0x05]
def UEID_OID : Bytes := [0x67, 0x81, 0x05, 0x05, 0x04, 0x04]
def ECA_OID : Bytes := [0x67, 0x81, 0x05, 0x05, 0x04, 0x64, 0x0C]
def ATTEST_LOC_OID : Bytes := [0x67, 0x81, 0x05, 0x05, 0x04, 0x64, 0x09]
def BASIC_CONSTRAINTS_OID : Bytes := [0x55, 0x1D, 0x13]
def KEY_USAGE_OID : Bytes := [0x55, 0x1D, 0x0F]
def EXTENDED_KEY_USAGE_OID : Bytes := [0x55, 0x1D, 0x25]
def SUBJECT_KEY_IDENTIFIER_OID : Bytes := [0x55, 0x1D, 0x0E]
def AUTHORITY_KEY_IDENTIFIER_OID : Bytes := [0x55, 0x1D, 0x23]
def SUBJECT_ALTERNATIVE_NAME_OID : Bytes := [0x55, 0x1D, 0x11]
def ID_SIGNED_DATA_OID : Bytes :=
  [0x2A, 0x86, 0x48, 0x86, 0xF7, 0x0D, 0x01, 0x07, 0x02]
def ID_DATA_OID : Bytes :=
  [0x2A, 0x86, 0x48, 0x86, 0xF7, 0x0D, 0x01, 0x07, 0x01]
def EXTENSION_REQUEST_OID : Bytes :=
  [0x2A, 0x86, 0x48, 0x86, 0xF7, 0x0D, 0x01, 0x09, 0x0E]

def sigOid : DpeProfile → Bytes
  | .p256Sha256 => ECDSA_WITH_SHA256_OID
  | .p384Sha384 => ECDSA_WITH_SHA384_OID
  | .mldsa87 => MLDSA_OID

def hashOid : DpeProfile → Bytes
  | .p256Sha256 => HASH_SHA256_OID
  | .p384Sha384 => HASH_SHA384_OID
  | .mldsa87 => HASH_SHA384_OID

/-! ## Algorithm identifiers, keys, validity, signatures -/

def getEcPubAlgIdSize (curveOid : Bytes) (tagged : Bool) : Nat :=
  getStructureSize
    (getBytesSize EC_PUB_OID true + getBytesSize curveOid true) tagged

/-- `get_ecdsa_sig_alg_id_size` and `get_mldsa_sig_alg_id_size`: the two
    bodies are the same. -/
def getSigAlgIdSize (profile : DpeProfile) (tagged : Bool) : Nat :=
  getStructureSize (getBytesSize (sigOid profile) true) tagged

def getHashAlgIdSize (profile : DpeProfile) (tagged : Bool) : Nat :=
  getStructureSize (getBytesSize (hashOid profile) true) tagged

def getValiditySize (validity : CertValidity) (tagged : Bool) : Nat :=
  getStructureSize (getBytesSize validity.notBefore.val true
    + getBytesSize validity.notAfter.val true) tagged

def getMldsaSubjectPubkeyInfoSize (profile : DpeProfile)
    (pubkey : Vector UInt8 2592) (tagged : Bool) : Nat :=
  let bitstringSize := getStructureSize (1 + pubkey.toList.length) true
  getStructureSize (bitstringSize + getSigAlgIdSize profile true) tagged

def getMldsaSignatureOctetStringSize (sig : Vector UInt8 4627)
    (tagged : Bool) : Nat :=
  getStructureSize sig.toList.length tagged

def getEcdsaSignatureOctetStringSize (sig : EcdsaSignature)
    (tagged : Bool) : Nat :=
  let (r, s) := sig.asSlice
  let seqSize := getStructureSize
    (getIntegerBytesSize r true + getIntegerBytesSize s true) true
  getStructureSize seqSize tagged

def getSignatureOctetStringSize (profile : DpeProfile) (sig : Signature)
    (tagged : Bool) : Nat :=
  match sig with
  | .ecdsa sig =>
      getSigAlgIdSize profile tagged + getEcdsaSignatureOctetStringSize sig tagged
  | .mldsa sig =>
      getSigAlgIdSize profile tagged + getMldsaSignatureOctetStringSize sig tagged

/-! ## TCB infos and extensions -/

/-- The size of a DICE FWID structure. -/
def getFwidSize (profile : DpeProfile) (digest : Bytes) (tagged : Bool) : Nat :=
  getStructureSize (getStructureSize (hashOid profile).length true
    + getStructureSize digest.length true) tagged

/-- The size of a tcg-dice-TcbInfo structure. -/
def getTcbInfoSize (profile : DpeProfile) (node : TciNodeData b)
    (supportsRecursive tagged : Bool) : Nat :=
  let fwidSize := getFwidSize profile node.tciCurrent.toList true
  let svnSize := getIntegerSize node.svn.toUInt64 true
  let integrityRegistersSize :=
    if supportsRecursive then
      let fwidSize := getFwidSize profile node.tciCumulative.toList true
      let fwidListSize := getStructureSize fwidSize true
      let irNumSize := getIntegerSize INTEGRITY_REGISTER_NUM true
      let integrityRegisterSize :=
        getStructureSize (irNumSize + fwidListSize) true
      getStructureSize integrityRegisterSize true
    else 0
  let fwidsSize := getStructureSize fwidSize true
  -- vendorInfo and type
  let size := fwidsSize + 2 * getStructureSize 4 true
    + integrityRegistersSize + svnSize
  getStructureSize size tagged

/-- The size of an X.509 extension wrapper. -/
def getExtensionSize (oid : Bytes) (critical : Bool) (contentSize : Nat)
    (tagged : Bool) : Nat :=
  let oidSize := getStructureSize oid.length true
  let critSize := if critical then getStructureSize BOOL_SIZE true else 0
  let octetSize := getStructureSize contentSize true
  getStructureSize (oidSize + critSize + octetSize) tagged

/-- The size of a tcg-dice-MultiTcbInfo extension. -/
def getMultiTcbInfoSize (cfg : CertConfig) (measurements : MeasurementData b)
    (tagged : Bool) : Except DpeErrorCode Nat := do
  if ← measurements.tciNodes.isEmpty then
    .error InternalErrorCode.emptyTciNodes
  else
    -- size of concatenated tcb infos
    let numNodes ← measurements.tciNodes.numNodes
    let firstNode ← measurements.tciNodes.firstNode
    let tcbInfosSize := numNodes
      * getTcbInfoSize cfg.profile firstNode measurements.supportsRecursive true
    let multiTcbInfoSize := getStructureSize tcbInfosSize true
    .ok (getExtensionSize MULTI_TCBINFO_OID cfg.critDice multiTcbInfoSize tagged)

def getUeidSize (cfg : CertConfig) (measurements : MeasurementData b)
    (tagged : Bool) : Nat :=
  let extSize := getStructureSize
    (getStructureSize measurements.label.length true) true
  getExtensionSize UEID_OID cfg.critDice extSize tagged

/-- The size of the content of a basicConstraints SEQUENCE. -/
def basicConstraintsCaSize (isCa : Bool) : Nat :=
  if isCa then getStructureSize BOOL_SIZE true else 0

def getBasicConstraintsSize (measurements : MeasurementData b)
    (tagged : Bool) : Nat :=
  let extSize := getStructureSize (basicConstraintsCaSize measurements.isCa) true
  getExtensionSize BASIC_CONSTRAINTS_OID true extSize tagged

def getKeyUsageSize (tagged : Bool) : Nat :=
  getExtensionSize KEY_USAGE_OID true (getStructureSize 2 true) tagged

/-- The purpose named in the extended key usage. -/
def policyOid (isCa : Bool) : Bytes := if isCa then ECA_OID else ATTEST_LOC_OID

def getExtendedKeyUsageSize (measurements : MeasurementData b)
    (tagged : Bool) : Nat :=
  let extSize := getStructureSize
    (getStructureSize (policyOid measurements.isCa).length true) true
  getExtensionSize EXTENDED_KEY_USAGE_OID true extSize tagged

def getSubjectKeyIdentifierExtensionSize (measurements : MeasurementData b)
    (tagged isX509 : Bool) : Nat :=
  if !measurements.isCa || !isX509 then 0
  else
    let extSize := getStructureSize
      measurements.subjectKeyIdentifier.toList.length true
    getExtensionSize SUBJECT_KEY_IDENTIFIER_OID false extSize tagged

/-- `get_key_identifier_size`, `get_subject_key_identifier_size`,
    `get_econtent_size` and `get_other_name_value_size`: a length, the
    explicit wrapping if asked for, and the tag if asked for. -/
def getWrappedSize (size : Nat) (tagged explicit : Bool) : Nat :=
  getStructureSize (getStructureSize size explicit) tagged

def getKeyIdentifierSize (keyIdentifier : Bytes) (tagged explicit : Bool) :
    Nat := getWrappedSize keyIdentifier.length tagged explicit

def getSubjectKeyIdentifierSize (subjectKeyIdentifier : Bytes)
    (tagged explicit : Bool) : Nat :=
  getWrappedSize subjectKeyIdentifier.length tagged explicit

def getEcontentSize (bytesSize : Nat) (tagged explicit : Bool) : Nat :=
  getWrappedSize bytesSize tagged explicit

def getOtherNameValueSize (otherNameValue : Bytes) (tagged explicit : Bool) :
    Nat := getWrappedSize otherNameValue.length tagged explicit

def getAuthorityKeyIdentifierExtensionSize (measurements : MeasurementData b)
    (tagged isX509 : Bool) : Nat :=
  if !isX509 then 0
  else
    let akiSize := getKeyIdentifierSize
      measurements.authorityKeyIdentifier.toList true false
    getExtensionSize AUTHORITY_KEY_IDENTIFIER_OID false
      (getStructureSize akiSize true) tagged

def getOtherNameSize (otherName : OtherName) (tagged : Bool) : Nat :=
  getStructureSize (getStructureSize otherName.oid.length true
    + getOtherNameValueSize otherName.otherName.val true true) tagged

def getSubjectAltNameExtensionSize (measurements : MeasurementData b)
    (tagged : Bool) : Nat :=
  match measurements.subjectAltName with
  | none => 0
  | some otherName =>
      let extSize := getStructureSize (getOtherNameSize otherName true) true
      getExtensionSize SUBJECT_ALTERNATIVE_NAME_OID false extSize tagged

/-- The size of the TBS extensions field. -/
def getExtensionsSize (cfg : CertConfig) (measurements : MeasurementData b)
    (tagged explicit isX509 : Bool) : Except DpeErrorCode Nat := do
  let multiTcbInfoSize ← getMultiTcbInfoSize cfg measurements true
  let size := multiTcbInfoSize
    + getUeidSize cfg measurements true
    + getBasicConstraintsSize measurements true
    + getKeyUsageSize true
    + getExtendedKeyUsageSize measurements true
    + getSubjectKeyIdentifierExtensionSize measurements true isX509
    + getAuthorityKeyIdentifierExtensionSize measurements true isX509
    + getSubjectAltNameExtensionSize measurements true
  .ok (getStructureSize (getStructureSize size explicit) tagged)

/-! ## CMS and CSR -/

/-- The CMS version differs based on the signer identifier. -/
def cmsVersion : SignerIdentifier b → UInt64
  | .issuerAndSerialNumber _ _ => CMS_V1
  | .subjectKeyIdentifier _ => CMS_V3

def getCmsVersionSize (sid : SignerIdentifier b) : Nat :=
  getIntegerSize (cmsVersion sid) true

def getIssuerAndSerialNumberSize (serialNumber issuerDer : Bytes)
    (tagged : Bool) : Nat :=
  getStructureSize (getIntegerBytesSize serialNumber true + issuerDer.length)
    tagged

def getSignerIdentifierSize (sid : SignerIdentifier b) (tagged : Bool) : Nat :=
  match sid with
  | .issuerAndSerialNumber issuerName serialNumber =>
      getIssuerAndSerialNumberSize serialNumber.val issuerName.val tagged
  | .subjectKeyIdentifier ski => getSubjectKeyIdentifierSize ski.val tagged true

def getSignerInfoSize (profile : DpeProfile) (sig : Signature)
    (sid : SignerIdentifier b) (tagged : Bool) : Nat :=
  getStructureSize (getCmsVersionSize sid + getSignerIdentifierSize sid true
    + getHashAlgIdSize profile true
    + getSignatureOctetStringSize profile sig true) tagged

def getAttributeSize (cfg : CertConfig) (measurements : MeasurementData b)
    (tagged : Bool) : Except DpeErrorCode Nat := do
  let extensionsSize ← getExtensionsSize cfg measurements true false false
  .ok (getStructureSize (getStructureSize ID_DATA_OID.length true
    + getStructureSize extensionsSize true) tagged)

def getAttributesSize (cfg : CertConfig) (measurements : MeasurementData b)
    (tagged : Bool) : Except DpeErrorCode Nat := do
  let attributeSize ← getAttributeSize cfg measurements true
  .ok (getStructureSize attributeSize tagged)

end CertWriter

end Dpe
