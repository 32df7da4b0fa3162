import Dpe.X509.Trees

/-! # The precomputed sizes are right — but for one

    For every tree: its length fields declare the right numbers, and its
    own size is what the size function of the source computes.  The
    exception is the MultiTcbInfo, whose size is a multiple of the size
    of ONE node; its tree is exact when the TcbInfos really take that
    many bytes together, and so is everything around it. -/

namespace Dpe

open Der Tlv

namespace CertWriter

variable {b : Build}

@[simp] theorem getStructureSize_tagged (n : Nat) :
    getStructureSize n true = 1 + lengthWidth n + n := rfl

@[simp] theorem getStructureSize_bare (n : Nat) :
    getStructureSize n false = n := rfl

/-- The size of a node whose length field is right. -/
theorem size_node_of_eq {tag : UInt8} {n : Nat} {body : Tlv}
    (h : n = body.size) : (node tag n body).size = getStructureSize n true := by
  rw [size_node, getStructureSize_tagged, h]

theorem size_prim_eq (tag : UInt8) (val : Bytes) :
    (prim tag val).size = getStructureSize val.length true :=
  size_node_of_eq rfl

theorem size_integer (tag : UInt8) (integer : Bytes) :
    (prim tag (integerBytes integer)).size = getIntegerBytesSize integer true := by
  rw [size_prim_eq, integerBytes_length]
  rfl

@[simp] theorem exact_sized (tag : UInt8) (body : Tlv) :
    (sized tag body).Exact ↔ body.Exact := and_iff_right rfl

/-! ## Names, algorithms, keys -/

theorem exact_critical (critical : Option UInt8) :
    (criticalTree critical).Exact := by
  cases critical with
  | none => exact exact_raw _
  | some critVal => exact exact_prim ..

theorem size_critical (critical : Option UInt8) :
    (criticalTree critical).size
      = if critical.isSome then getStructureSize BOOL_SIZE true else 0 := by
  cases critical with
  | none => rfl
  | some critVal => rfl

/-- The length fields of an extension are right when that of its content
    is. -/
theorem exact_extension {oid : Bytes} {critical : Option UInt8} {n : Nat}
    {content : Tlv} :
    (extensionTree oid critical n content).Exact ↔
      n = content.size ∧ content.Exact := by
  have hcritical := exact_critical critical
  unfold extensionTree
  simp only [exact_node, exact_all_cons, exact_prim, exact_all_nil, hcritical,
    size_all_cons, size_all_nil, size_prim_eq, size_critical, size_node,
    getExtensionSize, getStructureSize_bare, true_and, and_true]
  constructor
  · exact fun h => h.2
  · rintro ⟨hn, hexact⟩
    refine ⟨?_, hn, hexact⟩
    rw [hn]
    simp only [getStructureSize_tagged]
    omega

theorem size_extension {oid : Bytes} {critical : Option UInt8} {n : Nat}
    {content : Tlv} (h : n = content.size) :
    (extensionTree oid critical n content).size
      = getExtensionSize oid critical.isSome n true := by
  refine size_node_of_eq ?_
  simp only [size_all_cons, size_all_nil, size_prim_eq, size_critical, size_node,
    getExtensionSize, getStructureSize_bare, getStructureSize_tagged, ← h]
  omega

theorem exact_rdnString (val : DirectoryString) : (rdnStringTree val).Exact := by
  cases val <;> exact exact_prim ..

theorem size_rdnString (val : DirectoryString) :
    (rdnStringTree val).size = getStructureSize val.bytes.length true := by
  cases val <;> exact size_prim_eq ..

theorem exact_rdnAttribute (oid : Bytes) (val : DirectoryString) :
    (rdnAttributeTree oid val).Exact := by
  have hval := exact_rdnString val
  have hsize : getStructureSize oid.length true
      + getStructureSize val.bytes.length true
        = (all [prim OID_TAG oid, rdnStringTree val]).size := by
    simp only [size_all_cons, size_all_nil, size_prim_eq, size_rdnString,
      Nat.add_zero]
  refine ⟨(size_node_of_eq hsize).symm, hsize, ?_⟩
  simp [hval]

theorem size_rdnAttribute (oid : Bytes) (val : DirectoryString) :
    (rdnAttributeTree oid val).size
      = getStructureSize (getStructureSize (getStructureSize oid.length true
        + getStructureSize val.bytes.length true) true) true :=
  size_node_of_eq (exact_rdnAttribute oid val).1

theorem exact_rdn (name : Name) : (rdnTree name).Exact := by
  refine ⟨?_, ?_⟩
  · simp only [size_all_cons, size_all_nil, size_rdnAttribute, Nat.add_zero]
  · simp [exact_rdnAttribute]

theorem exact_ecPubAlgId (curveOid : Bytes) : (ecPubAlgIdTree curveOid).Exact := by
  refine ⟨?_, by simp⟩
  simp only [getEcPubAlgIdSize, getBytesSize, size_all_cons, size_all_nil,
    size_prim_eq, getStructureSize_bare, Nat.add_zero]

theorem exact_sigAlgId (profile : DpeProfile) : (sigAlgIdTree profile).Exact :=
  ⟨(size_prim_eq ..).symm, exact_prim ..⟩

theorem size_sigAlgId (profile : DpeProfile) :
    (sigAlgIdTree profile).size = getSigAlgIdSize profile true :=
  size_node_of_eq (exact_sigAlgId profile).1

theorem exact_hashAlgId (profile : DpeProfile) : (hashAlgIdTree profile).Exact :=
  ⟨(size_prim_eq ..).symm, exact_prim ..⟩

theorem size_hashAlgId (profile : DpeProfile) :
    (hashAlgIdTree profile).size = getHashAlgIdSize profile true :=
  size_node_of_eq (exact_hashAlgId profile).1

theorem exact_validity (validity : CertValidity) :
    (validityTree validity).Exact := by
  refine ⟨?_, by simp⟩
  simp only [getValiditySize, getBytesSize, size_all_cons, size_all_nil,
    size_prim_eq, getStructureSize_bare, Nat.add_zero]

/-- Both coordinates of a point are as long as its curve says. -/
theorem point_length (pubKey : EcdsaPubKey) :
    pubKey.asSlice.1.length = pubKey.curveSize
      ∧ pubKey.asSlice.2.length = pubKey.curveSize := by
  cases pubKey with
  | ecdsa256 key => exact ⟨key.x.length_toList, key.y.length_toList⟩
  | ecdsa384 key => exact ⟨key.x.length_toList, key.y.length_toList⟩

theorem exact_ecdsaSubjectPubkeyInfo (pubKey : EcdsaPubKey) (curveOid : Bytes) :
    (ecdsaSubjectPubkeyInfoTree pubKey curveOid).Exact := by
  obtain ⟨hx, hy⟩ := point_length pubKey
  have hbits : 1 + (1 + pubKey.curveSize + pubKey.curveSize)
      = (raw ([0, 0x4] ++ pubKey.asSlice.1 ++ pubKey.asSlice.2)).size := by
    simp only [size_raw, List.length_append, hx, hy, List.length_cons,
      List.length_nil]
    omega
  have halg : (ecPubAlgIdTree curveOid).size = getEcPubAlgIdSize curveOid true :=
    size_node_of_eq (exact_ecPubAlgId curveOid).1
  refine ⟨?_, ?_⟩
  · rw [size_all_cons, size_all_cons, size_all_nil, halg, size_node_of_eq hbits]
    omega
  · simp only [exact_all_cons, exact_all_nil, exact_node, and_true]
    exact ⟨exact_ecPubAlgId curveOid, hbits, exact_raw _⟩

theorem exact_mldsaSubjectPubkeyInfo (profile : DpeProfile)
    (pubKey : Vector UInt8 2592) :
    (mldsaSubjectPubkeyInfoTree profile pubKey).Exact := by
  have hbits : 1 + pubKey.toList.length = (raw (0 :: pubKey.toList)).size := by
    rw [size_raw, List.length_cons]
    omega
  refine ⟨?_, ?_⟩
  · rw [size_all_cons, size_all_cons, size_all_nil, size_sigAlgId,
      size_node_of_eq hbits]
    show getStructureSize (1 + pubKey.toList.length) true
      + getSigAlgIdSize profile true = _
    omega
  · simp only [exact_all_cons, exact_all_nil, exact_node, and_true]
    exact ⟨exact_sigAlgId profile, hbits, exact_raw _⟩

theorem exact_pubKeyInfo (cfg : CertConfig) (pubKey : PubKey) :
    (pubKeyInfoTree cfg pubKey).Exact := by
  cases pubKey with
  | ecdsa key => cases key <;> exact exact_ecdsaSubjectPubkeyInfo ..
  | mldsa key => exact exact_mldsaSubjectPubkeyInfo ..

/-! ## Signatures -/

theorem exact_ecdsaSeq (sig : EcdsaSignature) : (ecdsaSeqTree sig).Exact := by
  refine ⟨?_, by simp⟩
  simp only [ecdsaSeqSize, size_all_cons, size_all_nil, size_integer,
    Nat.add_zero]

theorem size_ecdsaSeq (sig : EcdsaSignature) :
    (ecdsaSeqTree sig).size = getStructureSize (ecdsaSeqSize sig) true :=
  size_node_of_eq (exact_ecdsaSeq sig).1

/-- Two big-endian integers of at most 48 bytes: the length field of
    their SEQUENCE is as wide as if a byte were added. -/
theorem lengthWidth_ecdsaSeq (sig : EcdsaSignature) :
    lengthWidth (1 + ecdsaSeqSize sig) = lengthWidth (ecdsaSeqSize sig) := by
  have hr : sig.asSlice.1.length ≤ 48 := by
    cases sig <;> simp [EcdsaSignature.asSlice]
  have hs : sig.asSlice.2.length ≤ 48 := by
    cases sig <;> simp [EcdsaSignature.asSlice]
  have hloopr := integerLenLoop_le sig.asSlice.1.length sig.asSlice.1
  have hloops := integerLenLoop_le sig.asSlice.2.length sig.asSlice.2
  have hwidth : ∀ n, n ≤ 49 → lengthWidth n = 1 := fun n hn =>
    if_pos (by omega)
  have hsize : ecdsaSeqSize sig ≤ 102 := by
    unfold ecdsaSeqSize getIntegerBytesSize
    simp only [getStructureSize_tagged]
    rw [hwidth _ (by omega), hwidth _ (by omega)]
    omega
  unfold lengthWidth
  rw [if_pos (by omega), if_pos (by omega)]

theorem exact_ecdsaBitString (sig : EcdsaSignature) :
    (ecdsaBitStringTree sig).Exact := by
  have hwidth := lengthWidth_ecdsaSeq sig
  refine ⟨?_, exact_raw _, exact_ecdsaSeq sig, trivial⟩
  simp only [size_all_cons, size_all_nil, size_raw, size_ecdsaSeq,
    getStructureSize_tagged, hwidth, List.length_cons, List.length_nil]
  omega

theorem exact_mldsaBitString (sig : Vector UInt8 4627) :
    (mldsaBitStringTree sig).Exact := by
  refine ⟨?_, exact_raw _⟩
  rw [size_raw, List.length_cons, Nat.add_comm]

theorem exact_ecdsaOctetString (sig : EcdsaSignature) :
    (ecdsaOctetStringTree sig).Exact :=
  ⟨(size_ecdsaSeq sig).symm, exact_ecdsaSeq sig⟩

theorem exact_signatureBitString (profile : DpeProfile) (sig : Signature) :
    (signatureBitStringTree profile sig).Exact := by
  have halg := exact_sigAlgId profile
  cases sig with
  | ecdsa sig => exact ⟨halg, exact_ecdsaBitString sig, trivial⟩
  | mldsa sig => exact ⟨halg, exact_mldsaBitString sig, trivial⟩

theorem size_signatureBitString (profile : DpeProfile) (sig : Signature) :
    (signatureBitStringTree profile sig).size
      = signatureBitStringSize profile sig := by
  cases sig with
  | ecdsa sig =>
      have hbits : (ecdsaBitStringTree sig).size
          = getStructureSize (ecdsaBitStringTree sig).declared true :=
        size_node_of_eq (exact_ecdsaBitString sig).1
      show (all [sigAlgIdTree profile, ecdsaBitStringTree sig]).size = _
      rw [size_all_cons, size_all_cons, size_all_nil, size_sigAlgId, hbits]
      rfl
  | mldsa sig =>
      have hbits : (mldsaBitStringTree sig).size
          = getStructureSize (mldsaBitStringTree sig).declared true :=
        size_node_of_eq (exact_mldsaBitString sig).1
      show (all [sigAlgIdTree profile, mldsaBitStringTree sig]).size = _
      rw [size_all_cons, size_all_cons, size_all_nil, size_sigAlgId, hbits]
      rfl

theorem size_ecdsaOctetString (sig : EcdsaSignature) :
    (ecdsaOctetStringTree sig).size = getEcdsaSignatureOctetStringSize sig true :=
  size_node_of_eq (exact_ecdsaOctetString sig).1

theorem exact_signatureOctetString (profile : DpeProfile) (sig : Signature) :
    (signatureOctetStringTree profile sig).Exact := by
  have halg := exact_sigAlgId profile
  cases sig with
  | ecdsa sig => exact ⟨halg, exact_ecdsaOctetString sig, trivial⟩
  | mldsa sig => exact ⟨halg, exact_prim .., trivial⟩

theorem size_signatureOctetString (profile : DpeProfile) (sig : Signature) :
    (signatureOctetStringTree profile sig).size
      = getSignatureOctetStringSize profile sig true := by
  cases sig with
  | ecdsa sig =>
      simp only [signatureOctetStringTree, size_all_cons, size_all_nil,
        size_sigAlgId, size_node_of_eq (size_ecdsaSeq sig).symm]
      rfl
  | mldsa sig =>
      simp only [signatureOctetStringTree, size_all_cons, size_all_nil,
        size_sigAlgId, size_prim_eq]
      rfl

/-! ## TCB infos -/

theorem exact_version : versionTree.Exact :=
  ⟨(size_integer ..).symm, exact_prim ..⟩

theorem exact_fwid (profile : DpeProfile) (tci : TciMeasurement b) :
    (fwidTree profile tci).Exact := by
  refine ⟨?_, by simp⟩
  simp only [getFwidSize, size_all_cons, size_all_nil, size_prim_eq,
    getStructureSize_bare, Nat.add_zero]

theorem size_fwid (profile : DpeProfile) (tci : TciMeasurement b) :
    (fwidTree profile tci).size = getFwidSize profile tci.toList true :=
  size_node_of_eq (exact_fwid profile tci).1

theorem exact_integrityRegisters (profile : DpeProfile) (node' : TciNodeData b) :
    (integrityRegistersTree profile node').Exact := by
  have hlist : (node (CONTEXT_SPECIFIC ||| CONSTRUCTED ||| 0x02)
      (getFwidSize profile node'.tciCumulative.toList true)
      (fwidTree profile node'.tciCumulative)).size
        = getStructureSize
          (getFwidSize profile node'.tciCumulative.toList true) true :=
    size_node_of_eq (size_fwid profile _).symm
  have hbody : getIntegerSize INTEGRITY_REGISTER_NUM true
      + getStructureSize (getFwidSize profile node'.tciCumulative.toList true) true
        = (all [
        prim (CONTEXT_SPECIFIC ||| 0x01)
          (integerBytes (toBeBytes64 INTEGRITY_REGISTER_NUM)),
        node (CONTEXT_SPECIFIC ||| CONSTRUCTED ||| 0x02)
          (getFwidSize profile node'.tciCumulative.toList true)
          (fwidTree profile node'.tciCumulative)]).size := by
    rw [size_all_cons, size_all_cons, size_all_nil, size_integer, hlist]
    rfl
  refine ⟨(size_node_of_eq hbody).symm, hbody, ?_⟩
  simp only [exact_all_cons, exact_all_nil, exact_prim, exact_node, and_true,
    true_and]
  exact ⟨(size_fwid profile _).symm, exact_fwid profile _⟩

theorem size_integrityRegisters (profile : DpeProfile) (node' : TciNodeData b) :
    (integrityRegistersTree profile node').size
      = getStructureSize (getStructureSize
        (getIntegerSize INTEGRITY_REGISTER_NUM true + getStructureSize
          (getFwidSize profile node'.tciCumulative.toList true) true) true) true :=
  size_node_of_eq (exact_integrityRegisters profile node').1

theorem exact_tcbInfo (profile : DpeProfile) (supportsRecursive : Bool)
    (node' : TciNodeData b) :
    (tcbInfoTree profile supportsRecursive node').Exact := by
  have hfwids : (node (CONTEXT_SPECIFIC ||| CONSTRUCTED ||| 0x06)
      (getFwidSize profile node'.tciCurrent.toList true)
      (fwidTree profile node'.tciCurrent)).size
        = getStructureSize (getFwidSize profile node'.tciCurrent.toList true) true :=
    size_node_of_eq (size_fwid profile _).symm
  refine ⟨?_, ?_⟩
  · rw [size_all_cons, size_all_cons, size_all_cons, size_all_cons,
      size_all_cons, size_all_nil, size_integer, hfwids, size_prim_eq,
      size_prim_eq]
    show getStructureSize (getFwidSize profile node'.tciCurrent.toList true) true
        + 2 * getStructureSize 4 true + _
        + getIntegerBytesSize (toBeBytes64 node'.svn.toUInt64) true = _
    have h4 : (toBeBytes node'.locality).length = 4 := rfl
    have h4' : (toLeBytes node'.tciType).length = 4 := rfl
    cases supportsRecursive with
    | true =>
        simp only [if_true, size_integrityRegisters, h4, h4']
        omega
    | false =>
        simp only [Bool.false_eq_true, if_false, size_raw, List.length_nil, h4, h4']
        omega
  · simp only [exact_all_cons, exact_all_nil, exact_prim, exact_node, and_true,
      true_and]
    refine ⟨⟨(size_fwid profile _).symm, exact_fwid profile _⟩, ?_⟩
    split
    · exact exact_integrityRegisters profile node'
    · exact exact_raw _

/-- The size of a TcbInfo. -/
theorem size_tcbInfo (profile : DpeProfile) (supportsRecursive : Bool)
    (node' : TciNodeData b) :
    (tcbInfoTree profile supportsRecursive node').size
      = getTcbInfoSize profile node' supportsRecursive true :=
  size_node_of_eq (exact_tcbInfo profile supportsRecursive node').1

/-- The TcbInfos of the nodes take the bytes that the code declares. -/
def Uniform (profile : DpeProfile) (supportsRecursive : Bool)
    (first : TciNodeData b) (nodes : List (TciNodeData b)) : Prop :=
  declaredTcbInfosSize profile supportsRecursive first nodes
    = (nodes.map fun node' =>
      getTcbInfoSize profile node' supportsRecursive true).sum

theorem size_tcbInfos (profile : DpeProfile) (supportsRecursive : Bool)
    (nodes : List (TciNodeData b)) :
    (tcbInfosTree profile supportsRecursive nodes).size
      = (nodes.map fun node' =>
        getTcbInfoSize profile node' supportsRecursive true).sum := by
  unfold tcbInfosTree
  rw [size_all, List.map_map]
  congr 1
  exact List.map_congr_left fun node' _ => size_tcbInfo ..

theorem exact_tcbInfos (profile : DpeProfile) (supportsRecursive : Bool)
    (nodes : List (TciNodeData b)) :
    (tcbInfosTree profile supportsRecursive nodes).Exact := by
  refine exact_all.mpr ?_
  intro t ht
  obtain ⟨node', -, rfl⟩ := List.mem_map.mp ht
  exact exact_tcbInfo ..

/-- **THE MULTITCBINFO** is exact when its TcbInfos are as long as
    declared. -/
theorem exact_multiTcbInfo (cfg : CertConfig) (supportsRecursive : Bool)
    (first : TciNodeData b) (nodes : List (TciNodeData b)) :
    (multiTcbInfoTree cfg supportsRecursive first nodes).Exact ↔
      Uniform cfg.profile supportsRecursive first nodes := by
  have hexact := exact_tcbInfos cfg.profile supportsRecursive nodes
  unfold multiTcbInfoTree Uniform
  rw [exact_extension, exact_node, size_tcbInfos]
  constructor
  · exact fun h => h.2.1
  · intro h
    refine ⟨?_, h, hexact⟩
    rw [size_node, size_tcbInfos, getStructureSize_tagged, ← h]

theorem diceCritical_isSome (cfg : CertConfig) :
    (diceCritical cfg).isSome = cfg.critDice := by
  unfold diceCritical
  cases cfg.critDice <;> rfl

theorem size_multiTcbInfo {cfg : CertConfig} {supportsRecursive : Bool}
    {first : TciNodeData b} {nodes : List (TciNodeData b)}
    (h : Uniform cfg.profile supportsRecursive first nodes) :
    (multiTcbInfoTree cfg supportsRecursive first nodes).size
      = multiTcbInfoSize cfg supportsRecursive first nodes := by
  have hn := ((exact_extension).mp
    ((exact_multiTcbInfo cfg supportsRecursive first nodes).mpr h)).1
  unfold multiTcbInfoSize
  rw [← diceCritical_isSome cfg]
  exact size_extension hn

/-! ## The other extensions -/

/-- An extension whose content is one structure. -/
theorem exact_extension_node {oid : Bytes} {critical : Option UInt8}
    {tag : UInt8} {n : Nat} {body : Tlv} (hn : n = body.size)
    (hbody : body.Exact) :
    (extensionTree oid critical (getStructureSize n true)
      (node tag n body)).Exact :=
  exact_extension.mpr ⟨(size_node_of_eq hn).symm, hn, hbody⟩

theorem size_extension_node {oid : Bytes} {critical : Option UInt8}
    {tag : UInt8} {n : Nat} {body : Tlv} (hn : n = body.size) :
    (extensionTree oid critical (getStructureSize n true)
      (node tag n body)).size
      = getExtensionSize oid critical.isSome (getStructureSize n true) true :=
  size_extension (size_node_of_eq hn).symm

theorem exact_ueid (cfg : CertConfig) (measurements : MeasurementData b) :
    (ueidTree cfg measurements).Exact :=
  exact_extension_node (size_prim_eq ..).symm (exact_prim ..)

theorem size_ueid (cfg : CertConfig) (measurements : MeasurementData b) :
    (ueidTree cfg measurements).size = getUeidSize cfg measurements true := by
  unfold getUeidSize
  rw [← diceCritical_isSome cfg]
  exact size_extension_node (size_prim_eq ..).symm

/-- The content of basicConstraints. -/
theorem size_basicConstraintsCa (isCa : Bool) :
    basicConstraintsCaSize isCa
      = (if isCa then prim BOOL_TAG [0xFF] else raw []).size := by
  cases isCa <;> rfl

theorem exact_basicConstraints (isCa : Bool) :
    (basicConstraintsTree isCa).Exact := by
  refine exact_extension_node (size_basicConstraintsCa isCa) ?_
  split
  · exact exact_prim ..
  · exact exact_raw _

theorem size_basicConstraints (measurements : MeasurementData b) :
    (basicConstraintsTree measurements.isCa).size
      = getBasicConstraintsSize measurements true :=
  size_extension_node (size_basicConstraintsCa measurements.isCa)

theorem exact_keyUsage (isCa : Bool) : (keyUsageTree isCa).Exact :=
  exact_extension_node rfl (exact_raw _)

theorem size_keyUsage (isCa : Bool) :
    (keyUsageTree isCa).size = getKeyUsageSize true :=
  size_extension_node rfl

theorem exact_extendedKeyUsage (isCa : Bool) :
    (extendedKeyUsageTree isCa).Exact :=
  exact_extension_node (size_prim_eq ..).symm (exact_prim ..)

theorem size_extendedKeyUsage (measurements : MeasurementData b) :
    (extendedKeyUsageTree measurements.isCa).size
      = getExtendedKeyUsageSize measurements true :=
  size_extension_node (size_prim_eq ..).symm

theorem size_subjectKeyIdentifier (measurements : MeasurementData b)
    (isX509 : Bool) :
    (subjectKeyIdentifierTree measurements isX509).size
      = getSubjectKeyIdentifierExtensionSize measurements true isX509 := by
  unfold subjectKeyIdentifierTree getSubjectKeyIdentifierExtensionSize
  split
  · rfl
  · exact size_extension (size_prim_eq ..).symm

theorem exact_subjectKeyIdentifier (measurements : MeasurementData b)
    (isX509 : Bool) :
    (subjectKeyIdentifierTree measurements isX509).Exact := by
  unfold subjectKeyIdentifierTree
  split
  · exact exact_raw _
  · exact exact_extension.mpr ⟨(size_prim_eq ..).symm, exact_prim ..⟩

theorem size_authorityKeyIdentifier (measurements : MeasurementData b)
    (isX509 : Bool) :
    (authorityKeyIdentifierTree measurements isX509).size
      = getAuthorityKeyIdentifierExtensionSize measurements true isX509 := by
  unfold authorityKeyIdentifierTree getAuthorityKeyIdentifierExtensionSize
  split
  · rfl
  · exact size_extension_node (size_prim_eq ..).symm

theorem exact_authorityKeyIdentifier (measurements : MeasurementData b)
    (isX509 : Bool) :
    (authorityKeyIdentifierTree measurements isX509).Exact := by
  unfold authorityKeyIdentifierTree
  split
  · exact exact_raw _
  · exact exact_extension_node (size_prim_eq ..).symm (exact_prim ..)

theorem exact_otherNameValue (val : Bytes) : (otherNameValueTree val).Exact :=
  ⟨(size_prim_eq ..).symm, exact_prim ..⟩

theorem size_otherNameValue (val : Bytes) :
    (otherNameValueTree val).size = getOtherNameValueSize val true true :=
  size_node_of_eq (exact_otherNameValue val).1

theorem exact_otherName (otherName : OtherName) :
    (otherNameTree otherName).Exact := by
  refine ⟨?_, exact_prim .., exact_otherNameValue _, trivial⟩
  show _ = (all [prim OID_TAG otherName.oid,
    otherNameValueTree otherName.otherName.val]).size
  rw [size_all_cons, size_all_cons, size_all_nil, size_prim_eq,
    size_otherNameValue]
  rfl

theorem size_otherName (otherName : OtherName) :
    (otherNameTree otherName).size = getOtherNameSize otherName true :=
  size_node_of_eq (exact_otherName otherName).1

theorem exact_subjectAltName (san : Option OtherName) :
    (subjectAltNameTree san).Exact := by
  cases san with
  | none => exact exact_raw _
  | some otherName =>
      exact exact_extension_node (size_otherName otherName).symm
        (exact_otherName otherName)

theorem size_subjectAltName (measurements : MeasurementData b) :
    (subjectAltNameTree measurements.subjectAltName).size
      = getSubjectAltNameExtensionSize measurements true := by
  unfold getSubjectAltNameExtensionSize
  cases measurements.subjectAltName with
  | none => rfl
  | some otherName => exact size_extension_node (size_otherName otherName).symm

theorem exact_otherExtensions (cfg : CertConfig)
    (measurements : MeasurementData b) (isX509 : Bool) :
    (otherExtensionsTree cfg measurements isX509).Exact := by
  simp only [otherExtensionsTree, exact_all_cons, exact_all_nil, and_true]
  exact ⟨exact_ueid _ _, exact_basicConstraints _, exact_keyUsage _,
    exact_extendedKeyUsage _, exact_subjectKeyIdentifier _ _,
    exact_authorityKeyIdentifier _ _, exact_subjectAltName _⟩

/-! ## What is built around the extensions -/

section Signed

variable {cfg : CertConfig} {measurements : MeasurementData b}
  {first : TciNodeData b} {nodes : List (TciNodeData b)} {isX509 : Bool}

/-- The nodes of a path are as long as the code declares for them. -/
def UniformNodes (cfg : CertConfig) (measurements : MeasurementData b)
    (first : TciNodeData b) (nodes : List (TciNodeData b)) : Prop :=
  Uniform cfg.profile measurements.supportsRecursive first nodes

theorem extensionsContent_eq (h : UniformNodes cfg measurements first nodes) :
    extensionsContentSize cfg measurements first nodes isX509
      = (all [multiTcbInfoTree cfg measurements.supportsRecursive first nodes,
        otherExtensionsTree cfg measurements isX509]).size := by
  simp only [otherExtensionsTree, size_all_cons, size_all_nil,
    size_multiTcbInfo h, size_ueid, size_basicConstraints, size_keyUsage,
    size_extendedKeyUsage, size_subjectKeyIdentifier,
    size_authorityKeyIdentifier, size_subjectAltName, extensionsContentSize]
  omega

theorem exact_extensionList :
    (extensionListTree cfg measurements first nodes isX509).Exact ↔
      UniformNodes cfg measurements first nodes := by
  have hother := exact_otherExtensions cfg measurements isX509
  have hmulti := exact_multiTcbInfo cfg measurements.supportsRecursive first nodes
  unfold extensionListTree
  rw [exact_node, exact_all_cons, exact_all_cons, hmulti]
  exact ⟨fun h => h.2.1, fun h => ⟨extensionsContent_eq h, h, hother, trivial⟩⟩

theorem size_extensionList (h : UniformNodes cfg measurements first nodes) :
    (extensionListTree cfg measurements first nodes isX509).size
      = getStructureSize
        (extensionsContentSize cfg measurements first nodes isX509) true :=
  size_node_of_eq (extensionsContent_eq h)

theorem exact_extensions :
    (extensionsTree cfg measurements first nodes isX509).Exact ↔
      UniformNodes cfg measurements first nodes := by
  unfold extensionsTree
  split
  · rw [exact_node, exact_extensionList]
    exact ⟨fun h => h.2, fun h => ⟨(size_extensionList h).symm, h⟩⟩
  · exact exact_extensionList

theorem exact_attributes :
    (attributesTree cfg measurements first nodes).Exact ↔
      UniformNodes cfg measurements first nodes := by
  have hoids : ID_DATA_OID.length = EXTENSION_REQUEST_OID.length := rfl
  unfold attributesTree
  simp only [exact_node, exact_all_cons, exact_all_nil, exact_prim,
    exact_extensions, and_true, true_and]
  constructor
  · exact fun h => h.2.2.2
  · intro h
    have hset : getStructureSize
        (extensionsContentSize cfg measurements first nodes false) true
          = (extensionsTree cfg measurements first nodes false).size :=
      (size_extensionList h).symm
    have hattribute : getStructureSize ID_DATA_OID.length true
        + getStructureSize (getStructureSize
          (extensionsContentSize cfg measurements first nodes false) true) true
        = (all [prim OID_TAG EXTENSION_REQUEST_OID,
          node SET_OF_TAG (getStructureSize
            (extensionsContentSize cfg measurements first nodes false) true)
            (extensionsTree cfg measurements first nodes false)]).size := by
      rw [size_all_cons, size_all_cons, size_all_nil, size_prim_eq,
        size_node_of_eq hset, hoids, Nat.add_zero]
    exact ⟨(size_node_of_eq hattribute).symm, hattribute, hset, h⟩

/-- The measurements of a payload. -/
def payloadMeasurements : SignedPayload b → MeasurementData b
  | .tbs _ _ _ _ measurements _ => measurements
  | .certReqInfo _ _ measurements => measurements

theorem exact_payload (payload : SignedPayload b) :
    (payloadTree cfg first nodes payload).Exact ↔
      UniformNodes cfg (payloadMeasurements payload) first nodes := by
  cases payload with
  | tbs serialNumber issuerName subjectName pubkey measurements validity =>
      simp only [payloadTree, tbsTree, exact_sized, exact_all_cons,
        exact_all_nil, exact_prim, exact_raw, exact_extensions, exact_version,
        exact_sigAlgId, exact_validity, exact_rdn, exact_pubKeyInfo, true_and,
        and_true]
      rfl
  | certReqInfo pubKey subjectName measurements =>
      simp only [payloadTree, certReqInfoTree, exact_sized, exact_all_cons,
        exact_all_nil, exact_prim, exact_attributes, exact_rdn,
        exact_pubKeyInfo, true_and, and_true]
      rfl

/-- **A CERTIFICATE OR A CSR** is exact when its TcbInfos are as long as
    declared. -/
theorem exact_signed (payload : SignedPayload b) (sig : Signature) :
    (signedTree cfg first nodes payload sig).Exact ↔
      UniformNodes cfg (payloadMeasurements payload) first nodes := by
  simp only [signedTree, exact_sized, exact_all_cons, exact_all_nil,
    exact_payload, exact_signatureBitString, and_true]

end Signed

/-! ## CMS -/

theorem exact_issuerAndSerialNumber (serialNumber issuerName : Bytes) :
    (issuerAndSerialNumberTree serialNumber issuerName).Exact := by
  refine ⟨?_, exact_raw _, exact_prim .., trivial⟩
  rw [size_all_cons, size_all_cons, size_all_nil, size_integer, size_raw]
  show getIntegerBytesSize serialNumber true + issuerName.length = _
  omega

theorem exact_subjectKeyIdentifierSid (ski : Bytes) :
    (subjectKeyIdentifierSidTree ski).Exact :=
  ⟨(size_prim_eq ..).symm, exact_prim ..⟩

theorem exact_signerIdentifier (sid : SignerIdentifier b) :
    (signerIdentifierTree sid).Exact := by
  cases sid with
  | issuerAndSerialNumber issuerName serialNumber =>
      exact exact_issuerAndSerialNumber _ _
  | subjectKeyIdentifier ski => exact exact_subjectKeyIdentifierSid _

theorem size_signerIdentifier (sid : SignerIdentifier b) :
    (signerIdentifierTree sid).size = getSignerIdentifierSize sid true := by
  have hexact := exact_signerIdentifier sid
  cases sid with
  | issuerAndSerialNumber issuerName serialNumber => exact size_node_of_eq hexact.1
  | subjectKeyIdentifier ski => exact size_node_of_eq hexact.1

theorem exact_signerInfo (cfg : CertConfig) (sig : Signature)
    (sid : SignerIdentifier b) : (signerInfoTree cfg sig sid).Exact := by
  refine ⟨?_, ?_⟩
  · rw [size_all_cons, size_all_cons, size_all_cons, size_all_cons,
      size_all_nil, size_signerIdentifier, size_hashAlgId,
      size_signatureOctetString, cmsVersionTree, size_integer]
    show getIntegerBytesSize _ true + _ + _ + _ = _
    omega
  · simp only [cmsVersionTree, exact_all_cons, exact_all_nil, exact_prim,
      exact_signerIdentifier, exact_hashAlgId, exact_signatureOctetString,
      and_true]

/-- **A CMS MESSAGE** is exact when the TcbInfos of its CSR are as long
    as declared. -/
theorem exact_cms (cfg : CertConfig) (pubKey : PubKey) (subjectName : Name)
    (measurements : MeasurementData b) (sid : SignerIdentifier b)
    (first : TciNodeData b) (nodes : List (TciNodeData b))
    (csrSig sig : Signature) :
    (cmsTree cfg pubKey subjectName measurements sid first nodes csrSig
      sig).Exact ↔ UniformNodes cfg measurements first nodes := by
  have hinfo := exact_signerInfo cfg sig sid
  have hsize : getSignerInfoSize cfg.profile sig sid true
      = (signerInfoTree cfg sig sid).size := (size_node_of_eq hinfo.1).symm
  simp only [cmsTree, encapsulatedTree, cmsVersionTree, exact_sized,
    exact_all_cons, exact_all_nil, exact_prim, exact_node, exact_signed,
    exact_hashAlgId, size_hashAlgId, hinfo, hsize, true_and, and_true]
  rfl

end CertWriter

end Dpe
