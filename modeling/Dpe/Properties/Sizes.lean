import Dpe.Lib.Integer
import Dpe.Proofs.Certificates
import Dpe.Proofs.Sample

/-! # Sizes — every size function agrees with its encoder

    An encoder comes with a number computed beforehand and with the tree
    of the structure it writes.  The table of the encoders puts the three
    side by side.  They agree when the encoder appends the bytes of the
    tree, when these are as many as the number says, and when every length
    field among them declares what follows it.

    The TcbInfos of a path are sized by that of the first slot; so what
    contains them agrees on the paths whose svns are all as wide as the
    one there. -/

namespace Dpe

open Der Tlv Prog

variable {b : Build} {σ : Type}

/-! ## The nodes of a walk -/

namespace TciNodes

/-- The contexts that the walk yields, up to those it stops at. -/
def chain (t : TciNodes b) : List (Context b) :=
  match t.iter with
  | .ok it => it.items.filterMap Except.toOption
  | .error _ => []

/-- The node data of the first slot. -/
def first (t : TciNodes b) : TciNodeData b :=
  match t.firstNode with
  | .ok node' => node'
  | .error _ => .new b

/-- The svns of the nodes are all as wide as that of the first slot. -/
def EvenSvns (t : TciNodes b) : Prop :=
  ∀ node ∈ nodesOf t.chain, CertWriter.getIntegerSize node.svn.toUInt64 true
    = CertWriter.getIntegerSize t.first.svn.toUInt64 true

instance (t : TciNodes b) : Decidable t.EvenSvns :=
  inferInstanceAs (Decidable (∀ node ∈ nodesOf t.chain, _))

theorem filterMap_ok (chain : List (Context b)) :
    (chain.map (Except.ok (ε := DpeErrorCode))).filterMap Except.toOption
      = chain := by
  induction chain with
  | nil => rfl
  | cons c chain ih =>
      rw [List.map_cons, List.filterMap_cons, ih]
      rfl

/-- A valid walk yields its chain. -/
theorem walks {t : TciNodes b} (h : t.Valid) : Walks t t.first t.chain := by
  obtain ⟨first, chain, hwalks⟩ := t.exists_walks
  have hw := hwalks h
  have hfirst : t.first = first := by
    unfold TciNodes.first
    rw [hw.firstNode_eq]
  have hchain : t.chain = chain := by
    obtain ⟨-, it, hit, hitems, -⟩ := hw
    unfold TciNodes.chain
    rw [hit]
    show it.items.filterMap Except.toOption = chain
    rw [hitems, filterMap_ok]
  rw [hfirst, hchain]
  exact hw

end TciNodes

namespace CertWriter

/-! ## Even paths -/

/-- The size of a TcbInfo depends on its node by the width of the svn. -/
theorem getTcbInfoSize_congr {node node' : TciNodeData b} (profile : DpeProfile)
    (supportsRecursive tagged : Bool)
    (h : getIntegerSize node.svn.toUInt64 true
      = getIntegerSize node'.svn.toUInt64 true) :
    getTcbInfoSize profile node supportsRecursive tagged
      = getTcbInfoSize profile node' supportsRecursive tagged := by
  unfold getTcbInfoSize getFwidSize
  simp only [Vector.length_toList, h]

theorem uniform_of_evenSvns {measurements : MeasurementData b} (cfg : CertConfig)
    (h : measurements.tciNodes.EvenSvns) :
    UniformNodes cfg measurements measurements.tciNodes.first
      (nodesOf measurements.tciNodes.chain) := by
  have hconst : (nodesOf measurements.tciNodes.chain).map (fun node =>
      getTcbInfoSize cfg.profile node measurements.supportsRecursive true)
      = List.replicate (nodesOf measurements.tciNodes.chain).length
        (getTcbInfoSize cfg.profile measurements.tciNodes.first
          measurements.supportsRecursive true) := by
    rw [List.eq_replicate_iff]
    refine ⟨List.length_map _, ?_⟩
    intro n hn
    obtain ⟨node, hnode, rfl⟩ := List.mem_map.mp hn
    exact getTcbInfoSize_congr cfg.profile _ true (h node hnode)
  unfold UniformNodes Uniform declaredTcbInfosSize
  rw [hconst, List.sum_replicate_nat, Nat.mul_comm]

/-! ## The table -/

/-- An encoder, the number of bytes computed for it, and the tree of what
    it writes. -/
structure Encoding (σ : Type) where
  encode : EncM σ Nat
  size : Except DpeErrorCode Nat
  tree : Tlv

/-- An encoder that cannot fail. -/
def Encoding.plain (e : Encode) (size : Nat) (tree : Tlv) : Encoding σ :=
  ⟨EncM.emit e, .ok size, tree⟩

/-- What an encoder is given. -/
inductive Item (b : Build) where
  | tlv (tag : UInt8) (val : Bytes)
  | oid (val : Bytes)
  | integerBytes (val : Bytes)
  | integer (val : UInt64)
  | rdn (name : Name)
  | ecPubAlgId (curveOid : Bytes)
  | sigAlgId
  | hashAlgId
  | validity (val : CertValidity)
  | ecdsaSubjectPubkeyInfo (pubKey : EcdsaPubKey) (curveOid : Bytes)
  | mldsaSubjectPubkeyInfo (pubKey : Vector UInt8 2592)
  | ecdsaSignatureBitString (sig : EcdsaSignature)
  | mldsaSignatureBitString (sig : Vector UInt8 4627)
  | signatureBitString (sig : Signature)
  | ecdsaSignatureOctetString (sig : EcdsaSignature)
  | mldsaSignatureOctetString (sig : Vector UInt8 4627)
  | signatureOctetString (sig : Signature)
  | version
  | fwid (tci : TciMeasurement b)
  | tcbInfo (node' : TciNodeData b) (supportsRecursive : Bool)
  | extension (extnId : Bytes) (critical : Option UInt8) (content : Bytes)
  | multiTcbInfo (measurements : MeasurementData b)
  | ueid (measurements : MeasurementData b)
  | basicConstraints (measurements : MeasurementData b)
  | keyUsage (isCa : Bool)
  | extendedKeyUsage (measurements : MeasurementData b)
  | otherNameValue (val : Bytes)
  | otherName (val : OtherName)
  | subjectAltNameExtension (measurements : MeasurementData b)
  | keyIdentifier (val : Bytes)
  | authorityKeyIdentifierExtension (measurements : MeasurementData b)
      (isX509 : Bool)
  | subjectKeyIdentifierExtension (measurements : MeasurementData b)
      (isX509 : Bool)
  | extensions (measurements : MeasurementData b) (isX509 : Bool)
  | attributes (measurements : MeasurementData b)
  | cmsVersion (sid : SignerIdentifier b)
  | issuerAndSerialNumber (serialNumber issuerName : Bytes)
  | subjectKeyIdentifier (ski : Bytes)
  | signerIdentifier (sid : SignerIdentifier b)
  | signerInfo (sig : Signature) (sid : SignerIdentifier b)

/-- The row of each encoder.  Where the source has no size function, the
    size is the header of the structure and the length declared in it. -/
def Item.encoding (cfg : CertConfig) : Item b → Encoding σ
  | .tlv tag val => .plain (encodeTlv tag val) (getBytesSize val true) (prim tag val)
  | .oid val => .plain (encodeOid val) (getBytesSize val true) (prim OID_TAG val)
  | .integerBytes val =>
      .plain (encodeIntegerBytes val true) (getIntegerBytesSize val true)
        (prim INTEGER_TAG (CertWriter.integerBytes val))
  | .integer val =>
      .plain (encodeInteger val true) (getIntegerSize val true)
        (prim INTEGER_TAG (CertWriter.integerBytes (toBeBytes64 val)))
  | .rdn name =>
      ⟨encodeRdn name, .ok (getStructureSize (rdnTree name).declared true),
        rdnTree name⟩
  | .ecPubAlgId curveOid =>
      .plain (encodeEcPubAlgId curveOid) (getEcPubAlgIdSize curveOid true)
        (ecPubAlgIdTree curveOid)
  | .sigAlgId =>
      .plain (encodeSigAlgId cfg.profile) (getSigAlgIdSize cfg.profile true)
        (sigAlgIdTree cfg.profile)
  | .hashAlgId =>
      .plain (encodeHashAlgId cfg.profile) (getHashAlgIdSize cfg.profile true)
        (hashAlgIdTree cfg.profile)
  | .validity val =>
      .plain (encodeValidity val) (getValiditySize val true) (validityTree val)
  | .ecdsaSubjectPubkeyInfo pubKey curveOid =>
      .plain (encodeEcdsaSubjectPubkeyInfo pubKey curveOid)
        (getStructureSize
          (ecdsaSubjectPubkeyInfoTree pubKey curveOid).declared true)
        (ecdsaSubjectPubkeyInfoTree pubKey curveOid)
  | .mldsaSubjectPubkeyInfo pubKey =>
      .plain (encodeMldsaSubjectPubkeyInfo cfg.profile pubKey)
        (getMldsaSubjectPubkeyInfoSize cfg.profile pubKey true)
        (mldsaSubjectPubkeyInfoTree cfg.profile pubKey)
  | .ecdsaSignatureBitString sig =>
      .plain (encodeEcdsaSignatureBitString sig)
        (getStructureSize (ecdsaBitStringTree sig).declared true)
        (ecdsaBitStringTree sig)
  | .mldsaSignatureBitString sig =>
      .plain (encodeMldsaSignatureBitString sig)
        (getStructureSize (mldsaBitStringTree sig).declared true)
        (mldsaBitStringTree sig)
  | .signatureBitString sig =>
      .plain (encodeSignatureBitString cfg.profile sig)
        (signatureBitStringSize cfg.profile sig)
        (signatureBitStringTree cfg.profile sig)
  | .ecdsaSignatureOctetString sig =>
      .plain (encodeEcdsaSignatureOctetString sig)
        (getEcdsaSignatureOctetStringSize sig true) (ecdsaOctetStringTree sig)
  | .mldsaSignatureOctetString sig =>
      .plain (encodeMldsaSignatureOctetString sig)
        (getMldsaSignatureOctetStringSize sig true)
        (prim OCTET_STRING_TAG sig.toList)
  | .signatureOctetString sig =>
      .plain (encodeSignatureOctetString cfg.profile sig)
        (getSignatureOctetStringSize cfg.profile sig true)
        (signatureOctetStringTree cfg.profile sig)
  | .version =>
      .plain encodeVersion (getStructureSize versionTree.declared true) versionTree
  | .fwid tci =>
      .plain (encodeFwid cfg.profile tci) (getFwidSize cfg.profile tci.toList true)
        (fwidTree cfg.profile tci)
  | .tcbInfo node' supportsRecursive =>
      .plain (encodeTcbInfo cfg.profile node' supportsRecursive)
        (getTcbInfoSize cfg.profile node' supportsRecursive true)
        (tcbInfoTree cfg.profile supportsRecursive node')
  | .extension extnId critical content =>
      .plain (.all [encodeExtensionHeader extnId critical content.length,
          encodeBytes content])
        (getExtensionSize extnId critical.isSome content.length true)
        (extensionTree extnId critical content.length (raw content))
  | .multiTcbInfo measurements =>
      ⟨encodeMultiTcbInfo cfg measurements,
        getMultiTcbInfoSize cfg measurements true,
        multiTcbInfoTree cfg measurements.supportsRecursive
          measurements.tciNodes.first (nodesOf measurements.tciNodes.chain)⟩
  | .ueid measurements =>
      .plain (encodeUeid cfg measurements) (getUeidSize cfg measurements true)
        (ueidTree cfg measurements)
  | .basicConstraints measurements =>
      .plain (encodeBasicConstraints measurements)
        (getBasicConstraintsSize measurements true)
        (basicConstraintsTree measurements.isCa)
  | .keyUsage isCa =>
      .plain (encodeKeyUsage isCa) (getKeyUsageSize true) (keyUsageTree isCa)
  | .extendedKeyUsage measurements =>
      .plain (encodeExtendedKeyUsage measurements)
        (getExtendedKeyUsageSize measurements true)
        (extendedKeyUsageTree measurements.isCa)
  | .otherNameValue val =>
      .plain (encodeOtherNameValue val) (getOtherNameValueSize val true true)
        (otherNameValueTree val)
  | .otherName val =>
      .plain (encodeOtherName val) (getOtherNameSize val true) (otherNameTree val)
  | .subjectAltNameExtension measurements =>
      .plain (encodeSubjectAltNameExtension measurements)
        (getSubjectAltNameExtensionSize measurements true)
        (subjectAltNameTree measurements.subjectAltName)
  | .keyIdentifier val =>
      .plain (encodeKeyIdentifier val) (getKeyIdentifierSize val true false)
        (prim (CONTEXT_SPECIFIC ||| 0x0) val)
  | .authorityKeyIdentifierExtension measurements isX509 =>
      .plain (encodeAuthorityKeyIdentifierExtension measurements isX509)
        (getAuthorityKeyIdentifierExtensionSize measurements true isX509)
        (authorityKeyIdentifierTree measurements isX509)
  | .subjectKeyIdentifierExtension measurements isX509 =>
      .plain (encodeSubjectKeyIdentifierExtension measurements isX509)
        (getSubjectKeyIdentifierExtensionSize measurements true isX509)
        (subjectKeyIdentifierTree measurements isX509)
  | .extensions measurements isX509 =>
      -- the explicit wrapping is that of a TBS
      ⟨encodeExtensions cfg measurements isX509,
        getExtensionsSize cfg measurements true isX509 isX509,
        extensionsTree cfg measurements measurements.tciNodes.first
          (nodesOf measurements.tciNodes.chain) isX509⟩
  | .attributes measurements =>
      ⟨encodeAttributes cfg measurements,
        getAttributesSize cfg measurements true,
        attributesTree cfg measurements measurements.tciNodes.first
          (nodesOf measurements.tciNodes.chain)⟩
  | .cmsVersion sid =>
      .plain (encodeCmsVersion sid) (getCmsVersionSize sid) (cmsVersionTree sid)
  | .issuerAndSerialNumber serialNumber issuerName =>
      .plain (encodeIssuerAndSerialNumber serialNumber issuerName)
        (getIssuerAndSerialNumberSize serialNumber issuerName true)
        (issuerAndSerialNumberTree serialNumber issuerName)
  | .subjectKeyIdentifier ski =>
      .plain (encodeSubjectKeyIdentifier ski)
        (getSubjectKeyIdentifierSize ski true true)
        (subjectKeyIdentifierSidTree ski)
  | .signerIdentifier sid =>
      .plain (encodeSignerIdentifier sid) (getSignerIdentifierSize sid true)
        (signerIdentifierTree sid)
  | .signerInfo sig sid =>
      ⟨encodeSignerInfo cfg sig sid, .ok (getSignerInfoSize cfg.profile sig sid true),
        signerInfoTree cfg sig sid⟩

/-- The parts with TcbInfos in them have even svns. -/
def Item.EvenSvns : Item b → Prop
  | .multiTcbInfo measurements => measurements.tciNodes.EvenSvns
  | .extensions measurements _ => measurements.tciNodes.EvenSvns
  | .attributes measurements => measurements.tciNodes.EvenSvns
  | _ => True

/-! ## Agreement -/

/-- **AN ENCODER AND ITS SIZE AGREE**: the encoder returns the size, and
    has then appended that many bytes, those of the tree; it does so
    wherever the size can be computed and the bytes fit; and every length
    field of the tree declares the number of bytes of its contents, which
    is what a reader finds in the field's octets. -/
structure Encoding.Agrees (x : Encoding σ) : Prop where
  appends : ∀ s n s', x.encode s = .ok n s' →
    x.size = .ok n ∧ n = x.tree.size ∧ Grew s x.tree.bytes [] s'
  returns : ∀ s n, x.size = .ok n → Fits n s → ∃ s', x.encode s = .ok n s'
  exact : x.tree.Exact
  readsBack : x.tree.size < 2 ^ 32 → x.tree.ReadsBack

/-- An encoder that cannot fail, and the size of its tree. -/
theorem Encoding.Agrees.plain {e : Encode} {tree : Tlv} {n : Nat}
    (h : Emits e tree.bytes) (hexact : tree.Exact) (hn : n = tree.size) :
    (Encoding.plain e n tree : Encoding σ).Agrees where
  appends s m s' hrun := by
    obtain ⟨rfl, hgrew⟩ := (Always.emit h s).of_ok hrun
    exact ⟨congrArg Except.ok hn, rfl, hgrew⟩
  returns s m hsize _ := by
    cases hsize
    refine ⟨{ s with writer := (e.run s.writer).2 }, ?_⟩
    show EStateM.Result.ok (e.run s.writer).1 _ = _
    rw [(h s.writer).1, length_bytes, hn]
  exact := hexact
  readsBack := hexact.readsBack

/-- An encoder that can fail, but only for want of a walk or of room. -/
theorem Encoding.Agrees.ofAppends {O F : Enc σ → Prop} {x : Encoding σ}
    (h : Appends O F x.encode x.tree.bytes x.tree.size) (hexact : x.tree.Exact)
    (hsize : ∀ s, O s → x.size = .ok x.tree.size)
    (hO : ∀ s n, x.size = .ok n → O s)
    (hF : ∀ s, Fits x.tree.size s → F s) : x.Agrees where
  appends s n s' hrun := by
    obtain ⟨ho, -, rfl, hgrew⟩ := (h s).of_ok hrun
    exact ⟨hsize s ho, rfl, hgrew⟩
  returns s n hn hfits := by
    have ho := hO s n hn
    have hn' := hsize s ho
    rw [hn] at hn'
    cases hn'
    cases hrun : x.encode s with
    | ok m s' =>
        obtain ⟨-, -, rfl, -⟩ := (h s).of_ok hrun
        exact ⟨s', rfl⟩
    | error e s' => exact absurd (hF s hfits) (((h s).of_error hrun).blame ho).1
  exact := hexact
  readsBack := hexact.readsBack

section Composite

variable {cfg : CertConfig} {measurements : MeasurementData b}

/-- The MultiTcbInfo is written for a valid walk. -/
theorem appends_encodeMultiTcbInfo (cfg : CertConfig) :
    Appends (fun _ => measurements.tciNodes.Valid) (fun _ => True)
      (encodeMultiTcbInfo cfg measurements : EncM σ Nat)
      (multiTcbInfoTree cfg measurements.supportsRecursive
        measurements.tciNodes.first (nodesOf measurements.tciNodes.chain)).bytes
      (multiTcbInfoTree cfg measurements.supportsRecursive
        measurements.tciNodes.first (nodesOf measurements.tciNodes.chain)).size := by
  by_cases hvalid : measurements.tciNodes.Valid
  · exact (always_encodeMultiTcbInfo (TciNodes.walks hvalid)).appends_of hvalid
  · obtain ⟨e, he⟩ := TciNodes.iter_error hvalid
    have hsize : tcbInfosSize cfg.profile measurements = .error e := by
      unfold tcbInfosSize TciNodes.isEmpty
      rw [he]
      rfl
    intro s
    refine (Grew.refl s).attempt (.orFail_error hsize [] 0) Eq.refl hvalid
      (fun _ h => h) ?_
    intro _ himpossible
    exact himpossible.elim

/-- A size that is computed has walked the path. -/
theorem valid_of_multiTcbInfoSize {n : Nat}
    (h : getMultiTcbInfoSize cfg measurements true = .ok n) :
    measurements.tciNodes.Valid := by
  by_contra hvalid
  obtain ⟨e, he⟩ := TciNodes.iter_error hvalid
  unfold getMultiTcbInfoSize TciNodes.isEmpty at h
  rw [he] at h
  cases h

theorem valid_of_extensionsSize {n : Nat} {tagged explicit isX509 : Bool}
    (h : getExtensionsSize cfg measurements tagged explicit isX509 = .ok n) :
    measurements.tciNodes.Valid := by
  by_contra hvalid
  obtain ⟨e, he⟩ := TciNodes.iter_error hvalid
  rw [getExtensionsSize_error he] at h
  cases h

theorem valid_of_attributesSize {n : Nat} {tagged : Bool}
    (h : getAttributesSize cfg measurements tagged = .ok n) :
    measurements.tciNodes.Valid := by
  by_contra hvalid
  obtain ⟨e, he⟩ := TciNodes.iter_error hvalid
  rw [getAttributesSize_error he] at h
  cases h

theorem multiTcbInfo_agrees (h : measurements.tciNodes.EvenSvns) :
    ((Item.multiTcbInfo measurements).encoding cfg : Encoding σ).Agrees := by
  have huniform := uniform_of_evenSvns cfg h
  refine Encoding.Agrees.ofAppends (appends_encodeMultiTcbInfo cfg)
    ((exact_multiTcbInfo ..).mpr huniform) ?_ ?_ fun _ _ => trivial
  · intro _ hvalid
    show getMultiTcbInfoSize cfg measurements true = .ok _
    rw [getMultiTcbInfoSize_eq (TciNodes.walks hvalid)]
    exact congrArg Except.ok (size_multiTcbInfo huniform).symm
  · intro _ n hn
    exact valid_of_multiTcbInfoSize hn

theorem extensions_agrees (isX509 : Bool) (h : measurements.tciNodes.EvenSvns) :
    ((Item.extensions measurements isX509).encoding cfg : Encoding σ).Agrees := by
  have huniform := uniform_of_evenSvns cfg h
  have hexact : (extensionsTree cfg measurements measurements.tciNodes.first
      (nodesOf measurements.tciNodes.chain) isX509).Exact :=
    exact_extensions.mpr huniform
  refine Encoding.Agrees.ofAppends
    (appends_encodeExtensions TciNodes.walks isX509) hexact ?_ ?_ fun _ _ => trivial
  · intro _ hvalid
    have hlist : (extensionListTree cfg measurements measurements.tciNodes.first
        (nodesOf measurements.tciNodes.chain) isX509).size = _ :=
      size_extensionList huniform
    show getExtensionsSize cfg measurements true isX509 isX509 = .ok _
    rw [getExtensionsSize_eq (TciNodes.walks hvalid)]
    refine congrArg Except.ok ?_
    cases isX509 with
    | true => exact (size_node_of_eq hlist.symm).symm
    | false => exact hlist.symm
  · intro _ n hn
    exact valid_of_extensionsSize hn

theorem attributes_agrees (h : measurements.tciNodes.EvenSvns) :
    ((Item.attributes measurements).encoding cfg : Encoding σ).Agrees := by
  have hexact := exact_attributes.mpr (uniform_of_evenSvns cfg h)
  refine Encoding.Agrees.ofAppends (appends_encodeAttributes TciNodes.walks)
    hexact ?_ ?_ fun _ _ => trivial
  · intro _ hvalid
    show getAttributesSize cfg measurements true = .ok _
    unfold getAttributesSize
    rw [getAttributeSize_eq (TciNodes.walks hvalid)]
    exact congrArg Except.ok (size_node_of_eq hexact.1).symm
  · intro _ n hn
    exact valid_of_attributesSize hn

end Composite

theorem rdn_agrees (b : Build) (cfg : CertConfig) (name : Name) :
    ((Item.rdn name : Item b).encoding cfg : Encoding σ).Agrees := by
  have hexact := exact_rdn name
  exact Encoding.Agrees.ofAppends (appends_encodeRdn name) hexact
    (fun _ _ => congrArg Except.ok (size_node_of_eq hexact.1).symm)
    (fun _ _ _ => trivial) (fun _ hfits => hfits)

theorem signerInfo_agrees (cfg : CertConfig) (sig : Signature)
    (sid : SignerIdentifier b) :
    ((Item.signerInfo sig sid).encoding cfg : Encoding σ).Agrees := by
  have hexact := exact_signerInfo cfg sig sid
  exact Encoding.Agrees.ofAppends (appends_encodeSignerInfo sig sid) hexact
    (fun _ _ => congrArg Except.ok (size_node_of_eq hexact.1).symm)
    (fun _ _ _ => trivial) (fun _ hfits => hfits)

/-- **SIZES AGREE**: every encoder appends as many bytes as its size
    function says, and every length field it writes is the length of what
    follows; for what contains TcbInfos, where the svns are equally
    wide. -/
theorem sizes_agree (cfg : CertConfig) (part : Item b) (h : part.EvenSvns) :
    (part.encoding cfg : Encoding σ).Agrees := by
  cases part with
  | tlv tag val =>
      exact .plain (emits_encodeTlv tag val) (exact_prim ..)
        (size_prim_eq ..).symm
  | oid val =>
      exact .plain (emits_encodeOid val) (exact_prim ..)
        (size_prim_eq ..).symm
  | integerBytes val =>
      exact .plain (emits_encodeIntegerBytes val) (exact_prim ..)
        (size_integer ..).symm
  | integer val =>
      exact .plain (emits_encodeIntegerBytes _) (exact_prim ..)
        (size_integer ..).symm
  | rdn name => exact rdn_agrees b cfg name
  | ecPubAlgId curveOid =>
      have hexact := exact_ecPubAlgId curveOid
      exact .plain (emits_encodeEcPubAlgId curveOid) hexact
        (size_node_of_eq hexact.1).symm
  | sigAlgId =>
      exact .plain (emits_encodeSigAlgId _) (exact_sigAlgId _)
        (size_sigAlgId _).symm
  | hashAlgId =>
      exact .plain (emits_encodeHashAlgId _) (exact_hashAlgId _)
        (size_hashAlgId _).symm
  | validity val =>
      have hexact := exact_validity val
      exact .plain (emits_encodeValidity val) hexact
        (size_node_of_eq hexact.1).symm
  | ecdsaSubjectPubkeyInfo pubKey curveOid =>
      have hexact := exact_ecdsaSubjectPubkeyInfo pubKey curveOid
      exact .plain (emits_encodeEcdsaSubjectPubkeyInfo pubKey curveOid)
        hexact (size_node_of_eq hexact.1).symm
  | mldsaSubjectPubkeyInfo pubKey =>
      have hexact := exact_mldsaSubjectPubkeyInfo cfg.profile pubKey
      exact .plain (emits_encodeMldsaSubjectPubkeyInfo _ pubKey) hexact
        (size_node_of_eq hexact.1).symm
  | ecdsaSignatureBitString sig =>
      have hexact := exact_ecdsaBitString sig
      exact .plain (emits_encodeEcdsaSignatureBitString sig) hexact
        (size_node_of_eq hexact.1).symm
  | mldsaSignatureBitString sig =>
      have hexact := exact_mldsaBitString sig
      exact .plain (emits_encodeMldsaSignatureBitString sig) hexact
        (size_node_of_eq hexact.1).symm
  | signatureBitString sig =>
      exact .plain (emits_encodeSignatureBitString _ sig)
        (exact_signatureBitString _ sig) (size_signatureBitString _ sig).symm
  | ecdsaSignatureOctetString sig =>
      exact .plain (emits_encodeEcdsaSignatureOctetString sig)
        (exact_ecdsaOctetString sig) (size_ecdsaOctetString sig).symm
  | mldsaSignatureOctetString sig =>
      exact .plain (emits_encodeTlv _ _) (exact_prim ..)
        (size_prim_eq ..).symm
  | signatureOctetString sig =>
      exact .plain (emits_encodeSignatureOctetString _ sig)
        (exact_signatureOctetString _ sig) (size_signatureOctetString _ sig).symm
  | version =>
      exact .plain emits_encodeVersion exact_version
        (size_node_of_eq exact_version.1).symm
  | fwid tci =>
      exact .plain (emits_encodeFwid _ tci) (exact_fwid _ tci)
        (size_fwid _ tci).symm
  | tcbInfo node' supportsRecursive =>
      exact .plain (emits_encodeTcbInfo _ node' _)
        (exact_tcbInfo _ _ node') (size_tcbInfo _ _ node').symm
  | extension extnId critical content =>
      have hcontent : Emits (.all [encodeBytes content]) (raw content).bytes :=
        emits_single (t := raw content) (emits_encodeBytes content)
      have hn : content.length = (raw content).size := rfl
      exact .plain (emits_extension hcontent)
        (exact_extension.mpr ⟨hn, exact_raw content⟩) (size_extension hn).symm
  | multiTcbInfo measurements => exact multiTcbInfo_agrees h
  | ueid measurements =>
      exact .plain (emits_encodeUeid _ _) (exact_ueid _ _)
        (size_ueid _ _).symm
  | basicConstraints measurements =>
      exact .plain (emits_encodeBasicConstraints _)
        (exact_basicConstraints _) (size_basicConstraints _).symm
  | keyUsage isCa =>
      exact .plain (emits_encodeKeyUsage isCa) (exact_keyUsage isCa)
        (size_keyUsage isCa).symm
  | extendedKeyUsage measurements =>
      exact .plain (emits_encodeExtendedKeyUsage _)
        (exact_extendedKeyUsage _) (size_extendedKeyUsage _).symm
  | otherNameValue val =>
      exact .plain (emits_encodeOtherNameValue val)
        (exact_otherNameValue val) (size_otherNameValue val).symm
  | otherName val =>
      exact .plain (emits_encodeOtherName val) (exact_otherName val)
        (size_otherName val).symm
  | subjectAltNameExtension measurements =>
      exact .plain (emits_encodeSubjectAltNameExtension _)
        (exact_subjectAltName _) (size_subjectAltName _).symm
  | keyIdentifier val =>
      exact .plain (emits_encodeTlv _ val) (exact_prim ..)
        (size_prim_eq ..).symm
  | authorityKeyIdentifierExtension measurements isX509 =>
      exact .plain (emits_encodeAuthorityKeyIdentifierExtension _ _)
        (exact_authorityKeyIdentifier _ _) (size_authorityKeyIdentifier _ _).symm
  | subjectKeyIdentifierExtension measurements isX509 =>
      exact .plain (emits_encodeSubjectKeyIdentifierExtension _ _)
        (exact_subjectKeyIdentifier _ _) (size_subjectKeyIdentifier _ _).symm
  | extensions measurements isX509 => exact extensions_agrees isX509 h
  | attributes measurements => exact attributes_agrees h
  | cmsVersion sid =>
      exact .plain (emits_encodeIntegerBytes _) (exact_prim ..)
        (size_integer ..).symm
  | issuerAndSerialNumber serialNumber issuerName =>
      have hexact := exact_issuerAndSerialNumber serialNumber issuerName
      exact .plain (emits_encodeIssuerAndSerialNumber _ _) hexact
        (size_node_of_eq hexact.1).symm
  | subjectKeyIdentifier ski =>
      have hexact := exact_subjectKeyIdentifierSid ski
      exact .plain (emits_encodeSubjectKeyIdentifier ski) hexact
        (size_node_of_eq hexact.1).symm
  | signerIdentifier sid =>
      exact .plain (emits_encodeSignerIdentifier sid)
        (exact_signerIdentifier sid) (size_signerIdentifier sid).symm
  | signerInfo sig sid => exact signerInfo_agrees cfg sig sid

/-- A root and its child, with svns of one byte each. -/
def evenMeasurements : MeasurementData sampleBuild where
  tciNodes := ⟨1, [⟨5, 255⟩, ⟨100, 0⟩].map fun slot : UInt32 × UInt8 =>
    { Context.new sampleBuild with
      state := .active
      parentIdx := slot.2
      tci := { TciNodeData.new sampleBuild with svn := slot.1 } }⟩
  label := [1, 2, 3]
  isCa := false
  supportsRecursive := true
  subjectKeyIdentifier := .replicate 20 0
  authorityKeyIdentifier := .replicate 20 0
  subjectAltName := none

/-- The attributes of a CSR about the two. -/
theorem sizes_agree_even :
    (evenMeasurements.tciNodes.chain.map fun c => c.tci.svn) = [5, 100] ∧
    getAttributesSize ⟨.p384Sha384, true⟩ evenMeasurements true = .ok 435 ∧
    ((Item.attributes evenMeasurements).encoding ⟨.p384Sha384, true⟩
      : Encoding Unit).Agrees := by
  have heven : (Item.attributes evenMeasurements).EvenSvns := by
    show evenMeasurements.tciNodes.EvenSvns
    decide +kernel
  exact ⟨by decide +kernel, by decide +kernel, sizes_agree _ _ heven⟩

end CertWriter

end Dpe
