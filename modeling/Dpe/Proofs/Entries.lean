import Dpe.Proofs.Certified
import Dpe.Properties.Integers

/-! # Entries — what a certificate says about measurements

    A reader goes through the tree of a certificate, looks for the
    extensions with the OID of MultiTcbInfo, and takes their entries
    apart.  What it finds in a certificate or CSR is one entry for each
    node of the path, in order, and nothing else. -/

namespace Dpe

open Der Tlv

/-- A TcbInfo as it is read. -/
@[ext] structure TcbInfo where
  svn : Int
  tciCurrent : Bytes
  locality : Nat
  tciType : Nat
  tciCumulative : Option Bytes
  deriving DecidableEq

namespace CertWriter

/-! ## Reading trees -/

/-- The contents of a structure with the tag `tag`. -/
def inside (tag : UInt8) : Tlv → Option Tlv
  | node t _ body => if t = tag then some body else none
  | raw _ | cat .. => none

/-- The bytes of a structure with the tag `tag`. -/
def value (tag : UInt8) (t : Tlv) : Option Bytes :=
  match inside tag t with
  | some (raw bs) => some bs
  | some (node ..) | some (cat ..) | none => none

/-- The structures that stand one behind the other. -/
def items : Tlv → List Tlv
  | cat a b => a :: items b
  | raw _ | node .. => []

@[simp] theorem inside_node (tag : UInt8) (declared : Nat) (body : Tlv) :
    inside tag (node tag declared body) = some body := if_pos rfl

@[simp] theorem value_prim (tag : UInt8) (val : Bytes) :
    value tag (prim tag val) = some val := by
  rw [value, prim, inside_node]

@[simp] theorem items_all (ts : List Tlv) : items (all ts) = ts := by
  induction ts with
  | nil => rfl
  | cons t ts ih =>
      show t :: items (all ts) = t :: ts
      rw [ih]

@[simp] theorem items_node (tag : UInt8) (declared : Nat) (body : Tlv) :
    items (node tag declared body) = [] := rfl

@[simp] theorem items_raw (bs : Bytes) : items (raw bs) = [] := rfl

/-- The digest in a FWID. -/
def readFwid (t : Tlv) : Option Bytes := do
  let body ← inside SEQUENCE_TAG t
  match items body with
  | [_, digest] => value OCTET_STRING_TAG digest
  | _ => none

/-- The digest in a list of integrity registers. -/
def readRegisters (t : Tlv) : Option Bytes := do
  let list ← inside (CONTEXT_SPECIFIC ||| CONSTRUCTED ||| 11) t
  let register ← inside SEQUENCE_TAG list
  match items register with
  | [_, digests] =>
      let fwid ← inside (CONTEXT_SPECIFIC ||| CONSTRUCTED ||| 0x02) digests
      readFwid fwid
  | _ => none

def readTcbInfo (t : Tlv) : Option TcbInfo := do
  let body ← inside SEQUENCE_TAG t
  match items body with
  | [svn, fwids, vendorInfo, type, registers] =>
      let svn ← value (CONTEXT_SPECIFIC ||| 0x03) svn
      let fwid ← inside (CONTEXT_SPECIFIC ||| CONSTRUCTED ||| 0x06) fwids
      let tciCurrent ← readFwid fwid
      let locality ← value (CONTEXT_SPECIFIC ||| 0x08) vendorInfo
      let tciType ← value (CONTEXT_SPECIFIC ||| 0x09) type
      some {
        svn := twosComplement svn
        tciCurrent := tciCurrent
        locality := ofBigEndian 0 locality
        tciType := ofBigEndian 0 tciType.reverse
        tciCumulative := readRegisters registers }
  | _ => none

/-- The OID and the contents of an extension. -/
def readExtension (body : Tlv) : Option (Bytes × Tlv) :=
  match items body with
  | [oid, _, content] => do
      let oid ← value OID_TAG oid
      let content ← inside OCTET_STRING_TAG content
      some (oid, content)
  | _ => none

/-- The contents of the extensions `oid` in a tree. -/
def extensions (oid : Bytes) : Tlv → List Tlv
  | raw _ => []
  | cat a b => extensions oid a ++ extensions oid b
  | node _ _ body =>
      match readExtension body with
      | some (oid', content) => if oid' = oid then [content] else []
      | none => extensions oid body

/-- The entries of a MultiTcbInfo. -/
def entries (t : Tlv) : List (Option TcbInfo) :=
  match inside SEQUENCE_OF_TAG t with
  | some body => (items body).map readTcbInfo
  | none => []

/-- All entries of a certificate or CSR. -/
def readTcbInfos (t : Tlv) : List (Option TcbInfo) :=
  (extensions MULTI_TCBINFO_OID t).flatMap entries

/-! ## Reading one entry -/

theorem ofBigEndian_toBeBytes64 (x : UInt64) :
    ofBigEndian 0 (toBeBytes64 x) = x.toNat := by
  have hbyte : ∀ n : UInt64,
      (x >>> n).toUInt8.toNat = x.toNat / 2 ^ (n.toNat % 64) % 256 := by
    intro n
    rw [UInt64.toNat_toUInt8, UInt64.toNat_shiftRight, Nat.shiftRight_eq_div_pow]
  have hlt := x.toNat_lt
  simp only [toBeBytes64, ofBigEndian, hbyte, UInt64.toNat_toUInt8,
    UInt64.reduceToNat, Nat.reduceMod, Nat.reducePow]
  omega

theorem ofBigEndian_toLeBytes (x : UInt32) :
    ofBigEndian 0 (toLeBytes x).reverse = x.toNat := by
  have hlt := x.toNat_lt
  simp only [toLeBytes, List.reverse_cons, List.reverse_nil, List.nil_append,
    List.cons_append, ofBigEndian]
  rw [toNat_byte, toNat_byte, toNat_byte, UInt32.toNat_toUInt8]
  simp only [UInt32.reduceToNat, Nat.reduceMod, Nat.reducePow]
  omega

theorem ofBigEndian_toBeBytes (x : UInt32) :
    ofBigEndian 0 (toBeBytes x) = x.toNat := ofBigEndian_toLeBytes x

/-- The security version is read back. -/
theorem twosComplement_svn (svn : UInt32) :
    twosComplement (integerBytes (toBeBytes64 svn.toUInt64)) = (svn.toNat : Int) := by
  have hne : toBeBytes64 svn.toUInt64 ≠ [] := List.cons_ne_nil _ _
  rw [integerBytes_eq hne, (isInteger_padSign hne).value, ofBigEndian_toBeBytes64,
    UInt32.toNat_toUInt64]

variable {b : Build} {profile : DpeProfile}

@[simp] theorem readFwid_fwidTree (tci : TciMeasurement b) :
    readFwid (fwidTree profile tci) = some tci.toList := by
  simp [readFwid, fwidTree]

/-- What the code encodes of a node. -/
def tcbInfoOf (supportsRecursive : Bool) (node' : TciNodeData b) : TcbInfo where
  svn := node'.svn.toNat
  tciCurrent := node'.tciCurrent.toList
  locality := node'.locality.toNat
  tciType := node'.tciType.toNat
  tciCumulative := if supportsRecursive then some node'.tciCumulative.toList else none

theorem readRegisters_tree (supportsRecursive : Bool) (node' : TciNodeData b) :
    readRegisters (if supportsRecursive then integrityRegistersTree profile node'
      else raw []) = (tcbInfoOf supportsRecursive node').tciCumulative := by
  cases supportsRecursive with
  | true => simp [readRegisters, integrityRegistersTree, tcbInfoOf]
  | false => rfl

/-- **READING BACK** an entry. -/
theorem readTcbInfo_tcbInfoTree (supportsRecursive : Bool) (node' : TciNodeData b) :
    readTcbInfo (tcbInfoTree profile supportsRecursive node')
      = some (tcbInfoOf supportsRecursive node') := by
  simp only [readTcbInfo, tcbInfoTree, inside_node, items_all, value_prim,
    readFwid_fwidTree, readRegisters_tree, twosComplement_svn, ofBigEndian_toBeBytes,
    ofBigEndian_toLeBytes, Option.bind_eq_bind, Option.bind_some]
  rfl

/-! ## Looking for extensions -/

section Extensions

variable {oid : Bytes}

@[simp] theorem extensions_raw (bs : Bytes) : extensions oid (raw bs) = [] := rfl

@[simp] theorem extensions_all_nil : extensions oid (all []) = [] := rfl

@[simp] theorem extensions_all_cons (t : Tlv) (ts : List Tlv) :
    extensions oid (all (t :: ts)) = extensions oid t ++ extensions oid (all ts) := rfl

/-- What has other than three parts is no extension. -/
theorem extensions_node {tag : UInt8} {declared : Nat} {body : Tlv}
    (h : (items body).length ≠ 3) :
    extensions oid (node tag declared body) = extensions oid body := by
  have hnone : readExtension body = none := by
    unfold readExtension
    split
    · rename_i hitems
      rw [hitems] at h
      exact absurd rfl h
    · rfl
  rw [extensions, hnone]

@[simp] theorem extensions_node_raw (tag : UInt8) (declared : Nat) (bs : Bytes) :
    extensions oid (node tag declared (raw bs)) = [] := rfl

@[simp] theorem extensions_node_node (tag tag' : UInt8) (n n' : Nat) (body : Tlv) :
    extensions oid (node tag n (node tag' n' body)) = extensions oid (node tag' n' body) :=
  rfl

@[simp] theorem extensions_prim (tag : UInt8) (val : Bytes) :
    extensions oid (prim tag val) = [] := rfl

@[simp] theorem extensions_node_prim (tag tag' : UInt8) (n : Nat) (val : Bytes) :
    extensions oid (node tag n (prim tag' val)) = [] := rfl

@[simp] theorem extensions_node_all {tag : UInt8} {n : Nat} {ts : List Tlv}
    (h : ts.length ≠ 3) : extensions oid (node tag n (all ts)) = extensions oid (all ts) :=
  extensions_node (by rwa [items_all])

/-- An extension is found by its OID. -/
theorem extensions_extensionTree (oid' : Bytes) (critical : Option UInt8) (n : Nat)
    (content : Tlv) : extensions oid (extensionTree oid' critical n content)
      = if oid' = oid then [content] else [] := by
  have hread : readExtension (all [prim OID_TAG oid', criticalTree critical,
      node OCTET_STRING_TAG n content]) = some (oid', content) := by
    simp only [readExtension, items_all, value_prim, inside_node,
      Option.bind_eq_bind, Option.bind_some]
  rw [extensionTree, extensions, hread]

end Extensions

/-! ## What is found in a certificate -/

section Found

variable {cfg : CertConfig} {measurements : MeasurementData b}
  {first : TciNodeData b} {nodes : List (TciNodeData b)} {oid : Bytes}

theorem extensions_rdnTree (name : Name) : extensions oid (rdnTree name) = [] := by
  have hstring : ∀ s, extensions oid (rdnStringTree s) = [] := by
    intro s
    cases s <;> rfl
  simp [rdnTree, rdnAttributeTree, hstring]

theorem extensions_sigAlgIdTree : extensions oid (sigAlgIdTree profile) = [] := rfl

theorem extensions_hashAlgIdTree : extensions oid (hashAlgIdTree profile) = [] := rfl

theorem extensions_pubKeyInfoTree (pubKey : PubKey) :
    extensions oid (pubKeyInfoTree cfg pubKey) = [] := by
  cases pubKey with
  | ecdsa key =>
      cases key <;>
        simp [pubKeyInfoTree, ecdsaSubjectPubkeyInfoTree, ecPubAlgIdTree]
  | mldsa key =>
      simp [pubKeyInfoTree, mldsaSubjectPubkeyInfoTree, extensions_sigAlgIdTree]

theorem extensions_signatureBitStringTree (sig : Signature) :
    extensions oid (signatureBitStringTree profile sig) = [] := by
  cases sig <;> simp [signatureBitStringTree, extensions_sigAlgIdTree, ecdsaSeqTree]

theorem extensions_signerInfoTree (sig : Signature) (sid : SignerIdentifier b) :
    extensions oid (signerInfoTree cfg sig sid) = [] := by
  have hsid : extensions oid (signerIdentifierTree sid) = [] := by
    cases sid <;> simp [signerIdentifierTree]
  have hsig : extensions oid (signatureOctetStringTree cfg.profile sig) = [] := by
    cases sig <;>
      simp [signatureOctetStringTree, extensions_sigAlgIdTree, ecdsaSeqTree]
  simp [signerInfoTree, cmsVersionTree, hsid, hsig, extensions_hashAlgIdTree]

/-- No other extension has the OID of MultiTcbInfo. -/
theorem extensions_otherExtensionsTree (isX509 : Bool) :
    extensions MULTI_TCBINFO_OID (otherExtensionsTree cfg measurements isX509)
      = [] := by
  have hapart : ∀ oid' critical n content, oid' ≠ MULTI_TCBINFO_OID →
      extensions MULTI_TCBINFO_OID (extensionTree oid' critical n content) = [] := by
    intro oid' critical n content hne
    rw [extensions_extensionTree, if_neg hne]
  have hueid : extensions MULTI_TCBINFO_OID (ueidTree cfg measurements) = [] :=
    hapart _ _ _ _ (by decide)
  have hbasic : extensions MULTI_TCBINFO_OID (basicConstraintsTree measurements.isCa)
      = [] := hapart _ _ _ _ (by decide)
  have husage : extensions MULTI_TCBINFO_OID (keyUsageTree measurements.isCa) = [] :=
    hapart _ _ _ _ (by decide)
  have hextended : extensions MULTI_TCBINFO_OID
      (extendedKeyUsageTree measurements.isCa) = [] := hapart _ _ _ _ (by decide)
  have hski : extensions MULTI_TCBINFO_OID
      (subjectKeyIdentifierTree measurements isX509) = [] := by
    unfold subjectKeyIdentifierTree
    split
    · rfl
    · exact hapart _ _ _ _ (by decide)
  have haki : extensions MULTI_TCBINFO_OID
      (authorityKeyIdentifierTree measurements isX509) = [] := by
    unfold authorityKeyIdentifierTree
    split
    · rfl
    · exact hapart _ _ _ _ (by decide)
  have hsan : extensions MULTI_TCBINFO_OID
      (subjectAltNameTree measurements.subjectAltName) = [] := by
    cases measurements.subjectAltName with
    | none => rfl
    | some otherName => exact hapart _ _ _ _ (by decide)
  simp only [otherExtensionsTree, extensions_all_cons, extensions_all_nil, hueid,
    hbasic, husage, hextended, hski, haki, hsan, List.append_nil]

/-- The contents of the MultiTcbInfo of a path. -/
def multiTcbInfoContent (cfg : CertConfig) (supportsRecursive : Bool)
    (first : TciNodeData b) (nodes : List (TciNodeData b)) : Tlv :=
  node SEQUENCE_OF_TAG (declaredTcbInfosSize cfg.profile supportsRecursive first nodes)
    (tcbInfosTree cfg.profile supportsRecursive nodes)

/-- The MultiTcbInfo is found in the extensions. -/
theorem extensions_extensionsTree (isX509 : Bool) :
    extensions MULTI_TCBINFO_OID (extensionsTree cfg measurements first nodes isX509)
      = [multiTcbInfoContent cfg measurements.supportsRecursive first nodes] := by
  have hlist : extensions MULTI_TCBINFO_OID
      (extensionListTree cfg measurements first nodes isX509)
        = [multiTcbInfoContent cfg measurements.supportsRecursive first nodes] := by
    rw [extensionListTree, extensions_node_all (by simp), extensions_all_cons,
      extensions_all_cons, extensions_otherExtensionsTree, multiTcbInfoTree,
      extensions_extensionTree, if_pos rfl]
    rfl
  cases isX509 with
  | true => exact hlist
  | false => exact hlist

theorem extensions_signedTree (payload : SignedPayload b) (sig : Signature) :
    extensions MULTI_TCBINFO_OID (signedTree cfg first nodes payload sig)
      = [multiTcbInfoContent cfg (payloadMeasurements payload).supportsRecursive first
          nodes] := by
  have hpayload : extensions MULTI_TCBINFO_OID (payloadTree cfg first nodes payload)
      = [multiTcbInfoContent cfg (payloadMeasurements payload).supportsRecursive first
          nodes] := by
    cases payload with
    | tbs serialNumber issuerName subjectName pubkey measurements validity =>
        simp [payloadTree, tbsTree, sized, versionTree, validityTree,
          extensions_sigAlgIdTree, extensions_rdnTree, extensions_pubKeyInfoTree,
          extensions_extensionsTree, payloadMeasurements]
    | certReqInfo pubKey subjectName measurements =>
        have hattributes : extensions MULTI_TCBINFO_OID
            (attributesTree cfg measurements first nodes)
              = extensions MULTI_TCBINFO_OID
                (extensionsTree cfg measurements first nodes false) := by
          simp [attributesTree, extensions_node, extensionsTree, extensionListTree]
        simp [payloadTree, certReqInfoTree, sized, extensions_rdnTree,
          extensions_pubKeyInfoTree, hattributes, extensions_extensionsTree,
          payloadMeasurements]
  simp [signedTree, sized, hpayload, extensions_signatureBitStringTree]

theorem extensions_cmsTree (pubKey : PubKey) (subjectName : Name)
    (sid : SignerIdentifier b) (csrSig sig : Signature) :
    extensions MULTI_TCBINFO_OID (cmsTree cfg pubKey subjectName measurements sid first
      nodes csrSig sig)
      = [multiTcbInfoContent cfg measurements.supportsRecursive first nodes] := by
  have hcsr : ∀ tag n, extensions MULTI_TCBINFO_OID (node tag n (signedTree cfg first
      nodes (.certReqInfo pubKey subjectName measurements) csrSig))
      = [multiTcbInfoContent cfg measurements.supportsRecursive first nodes] :=
    fun _ _ => extensions_signedTree _ csrSig
  have hhash : ∀ tag n, extensions MULTI_TCBINFO_OID
      (node tag n (hashAlgIdTree cfg.profile)) = [] := fun _ _ => rfl
  have hsigner : ∀ tag n, extensions MULTI_TCBINFO_OID
      (node tag n (signerInfoTree cfg sig sid)) = [] :=
    fun _ _ => extensions_signerInfoTree sig sid
  simp [cmsTree, sized, cmsVersionTree, encapsulatedTree, hhash, hcsr, hsigner]

/-- The entries of a MultiTcbInfo are those of its nodes. -/
theorem entries_multiTcbInfoContent (supportsRecursive : Bool) :
    entries (multiTcbInfoContent cfg supportsRecursive first nodes)
      = nodes.map fun node' => some (tcbInfoOf supportsRecursive node') := by
  rw [entries, multiTcbInfoContent, inside_node]
  show (items (tcbInfosTree cfg.profile supportsRecursive nodes)).map readTcbInfo = _
  rw [tcbInfosTree, items_all, List.map_map]
  exact List.map_congr_left fun node' _ => readTcbInfo_tcbInfoTree _ node'

end Found

end CertWriter

variable {b : Build} {W : Type} {signCb : SignCallback (Env b W)} {cfg : CertConfig}
  {pubKey : PubKey} {measurements : MeasurementData b} {first : TciNodeData b}
  {nodes : List (TciNodeData b)} {format : CertificateFormat} {tree : Tlv}

/-- **WHAT IS FOUND** in what is issued: one entry for each node, in
    order. -/
theorem Issued.readTcbInfos
    (h : Issued signCb cfg pubKey measurements first nodes format tree) :
    CertWriter.readTcbInfos tree = nodes.map fun node' =>
      some (CertWriter.tcbInfoOf measurements.supportsRecursive node') := by
  have hcontent : CertWriter.extensions CertWriter.MULTI_TCBINFO_OID tree
      = [CertWriter.multiTcbInfoContent cfg measurements.supportsRecursive first
          nodes] := by
    cases h with
    | x509 => exact CertWriter.extensions_signedTree _ _
    | csr => exact CertWriter.extensions_cmsTree _ _ _ _ _
  rw [CertWriter.readTcbInfos, hcontent, List.flatMap_singleton,
    CertWriter.entries_multiTcbInfoContent]

end Dpe
