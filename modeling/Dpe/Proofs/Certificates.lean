import Dpe.Proofs.Signing
import Dpe.Proofs.TreeSizes
import Dpe.Proofs.Walk

/-! # Certificates and CSRs write their trees

    The encoders that can fail, up to the extensions, the attributes and
    the signer info.  An encoder of measurements is handed a walk from a
    root to a context; a walk that is valid yields a chain of contexts,
    and the tree is the tree of that chain. -/

namespace Dpe

open Der Tlv Prog

variable {b : Build} {σ : Type}

/-- The walk of `t` yields the contexts `chain`; `first` is the node data
    of the first slot. -/
structure Walks (t : TciNodes b) (first : TciNodeData b)
    (chain : List (Context b)) : Prop where
  ne_nil : chain ≠ []
  walk : ∃ it, t.iter = .ok it ∧ it.items = chain.map .ok ∧
    it.path.length = chain.length ∧ ∃ c, it.firstNode = .ok c ∧ c.tci = first

/-- The node data of a chain. -/
def nodesOf (chain : List (Context b)) : List (TciNodeData b) :=
  chain.map (·.tci)

namespace Walks

variable {t : TciNodes b} {first : TciNodeData b} {chain : List (Context b)}

theorem isEmpty_eq (h : Walks t first chain) : t.isEmpty = .ok false := by
  obtain ⟨hne, it, hit, -, hlen, -⟩ := h
  have hpos := List.length_pos_iff.mpr hne
  unfold TciNodes.isEmpty
  rw [hit]
  show Except.ok it.path.isEmpty = _
  rw [List.isEmpty_eq_false_iff.mpr (List.length_pos_iff.mp (by omega))]

theorem numNodes_eq (h : Walks t first chain) :
    t.numNodes = .ok (nodesOf chain).length := by
  obtain ⟨-, it, hit, -, hlen, -⟩ := h
  unfold TciNodes.numNodes
  rw [hit]
  show Except.ok it.path.length = _
  rw [hlen, nodesOf, List.length_map]

theorem firstNode_eq (h : Walks t first chain) : t.firstNode = .ok first := by
  obtain ⟨-, it, hit, -, -, c, hc, hfirst⟩ := h
  unfold TciNodes.firstNode
  rw [hit]
  show (it.firstNode >>= fun context => Except.ok context.tci) = _
  rw [hc, ← hfirst]
  rfl

end Walks

/-- The walk does not run into a context that is not valid. -/
def TciNodes.Valid (t : TciNodes b) : Prop := ∃ it, t.iter = .ok it

theorem Walks.valid {t : TciNodes b} {first : TciNodeData b}
    {chain : List (Context b)} (h : Walks t first chain) : t.Valid := by
  obtain ⟨-, it, hit, -⟩ := h
  exact ⟨it, hit⟩

theorem TciNodes.iter_error {t : TciNodes b} (h : ¬ t.Valid) :
    ∃ e, t.iter = .error e := by
  cases hit : t.iter with
  | ok it => exact absurd ⟨it, hit⟩ h
  | error e => exact ⟨e, rfl⟩

/-- **A VALID WALK YIELDS A CHAIN**, whatever the contexts are. -/
theorem TciNodes.exists_walks (t : TciNodes b) :
    ∃ first chain, t.Valid → Walks t first chain := by
  by_cases h : t.Valid
  · obtain ⟨it, hit⟩ := h
    have hit' := hit
    unfold iter RootToChildIter.new at hit'
    split at hit'
    · cases hit'
    · rename_i path hpath
      cases hit'
      obtain ⟨hne, hnodes⟩ := RootToChildIter.walk_ok hpath
      have hreverse : ∀ i ∈ path.reverse, ∃ c,
          RootToChildIter.getContext t.contexts i = .ok c :=
        fun i hi => hnodes i (List.mem_reverse.mp hi)
      obtain ⟨chain, hchain, hlen⟩ := RootToChildIter.yields_ok hreverse
      rw [List.length_reverse] at hlen
      obtain ⟨i, hi⟩ := List.exists_mem_of_ne_nil path hne
      obtain ⟨c, hc⟩ := hnodes i hi
      obtain ⟨c0, hc0⟩ : ∃ c0, t.contexts.head? = some c0 := by
        cases hcontexts : t.contexts with
        | nil =>
            rw [hcontexts] at hc
            cases hc
        | cons c0 rest => exact ⟨c0, rfl⟩
      refine ⟨c0.tci, chain, fun _ => ⟨?_, ⟨t.contexts, path⟩, hit, hchain,
        hlen.symm, c0, ?_, rfl⟩⟩
      · intro hnil
        rw [hnil] at hlen
        exact hne (List.length_eq_zero_iff.mp hlen.symm)
      · unfold RootToChildIter.firstNode
        dsimp only
        rw [hc0]
  · exact ⟨.new b, [], fun hvalid => absurd hvalid h⟩

/-- Whether the algorithm of a key is compiled in. -/
def PubKey.compiled (b : Build) : PubKey → Bool
  | .ecdsa (.ecdsa256 _) => b.p256
  | .ecdsa (.ecdsa384 _) => b.p384
  | .mldsa _ => b.mlDsa

namespace CertWriter

section Measurements

variable {cfg : CertConfig} {measurements : MeasurementData b}
  {first : TciNodeData b} {chain : List (Context b)}

/-! ## The sizes of a chain -/

theorem tcbInfosSize_eq (h : Walks measurements.tciNodes first chain)
    (profile : DpeProfile) :
    tcbInfosSize profile measurements = .ok (declaredTcbInfosSize profile
      measurements.supportsRecursive first (nodesOf chain)) := by
  unfold tcbInfosSize
  rw [h.isEmpty_eq, h.firstNode_eq, h.numNodes_eq]
  rfl

theorem getMultiTcbInfoSize_eq (h : Walks measurements.tciNodes first chain) :
    getMultiTcbInfoSize cfg measurements true = .ok (multiTcbInfoSize cfg
      measurements.supportsRecursive first (nodesOf chain)) := by
  unfold getMultiTcbInfoSize multiTcbInfoSize declaredTcbInfosSize
  rw [h.isEmpty_eq, h.firstNode_eq, h.numNodes_eq, Nat.mul_comm]
  rfl

theorem getExtensionsSize_eq (h : Walks measurements.tciNodes first chain)
    (tagged explicit isX509 : Bool) :
    getExtensionsSize cfg measurements tagged explicit isX509
      = .ok (getStructureSize (getStructureSize (extensionsContentSize cfg
        measurements first (nodesOf chain) isX509) explicit) tagged) := by
  unfold getExtensionsSize
  rw [getMultiTcbInfoSize_eq h]
  rfl

theorem getAttributeSize_eq (h : Walks measurements.tciNodes first chain)
    (tagged : Bool) :
    getAttributeSize cfg measurements tagged
      = .ok (getStructureSize (getStructureSize ID_DATA_OID.length true
        + getStructureSize (getStructureSize (extensionsContentSize cfg
          measurements first (nodesOf chain) false) true) true) tagged) := by
  unfold getAttributeSize
  rw [getExtensionsSize_eq h]
  rfl

theorem getAttributesSize_eq (h : Walks measurements.tciNodes first chain) :
    getAttributesSize cfg measurements false
      = .ok (getStructureSize (getStructureSize ID_DATA_OID.length true
        + getStructureSize (getStructureSize (extensionsContentSize cfg
          measurements first (nodesOf chain) false) true) true) true) := by
  unfold getAttributesSize
  rw [getAttributeSize_eq h]
  rfl

/-! ## Extensions -/

/-- The TcbInfos of a chain, one after the other. -/
theorem always_encodeTcbInfos (profile : DpeProfile) (supportsRecursive : Bool)
    (chain : List (Context b)) :
    Always (encodeTcbInfos profile supportsRecursive (chain.map .ok) : EncM σ Nat)
      (tcbInfosTree profile supportsRecursive (nodesOf chain)).bytes
      (tcbInfosTree profile supportsRecursive (nodesOf chain)).size := by
  induction chain with
  | nil => exact .pure 0
  | cons c chain ih =>
      intro s
      refine (Grew.refl s).step (.orFail rfl) fun s1 h1 => ?_
      refine h1.step (.emit (emits_encodeTcbInfo profile c.tci _)) fun s2 h2 => ?_
      refine h2.step ih fun s3 h3 => ?_
      exact h3.ret (size_all_cons ..).symm rfl

theorem always_encodeMultiTcbInfo
    (h : Walks measurements.tciNodes first chain) :
    Always (encodeMultiTcbInfo cfg measurements : EncM σ Nat)
      (multiTcbInfoTree cfg measurements.supportsRecursive first
        (nodesOf chain)).bytes
      (multiTcbInfoTree cfg measurements.supportsRecursive first
        (nodesOf chain)).size := by
  have hsize := tcbInfosSize_eq h cfg.profile
  obtain ⟨-, it, hit, hitems, -⟩ := h
  have hinfos : Always (_ : EncM σ Nat) _ _ := always_encodeTcbInfos cfg.profile
    measurements.supportsRecursive chain
  rw [← hitems] at hinfos
  intro s
  refine (Grew.refl s).step (.orFail hsize) fun s1 h1 => ?_
  refine h1.step (.emit (.cons (emits_encodeExtensionHeader _ _ _)
    (.cons (emits_encodeByte _) (.cons (emits_encodeSizeField _) .nil))))
    fun s2 h2 => ?_
  refine h2.step (.orFail hit) fun s3 h3 => ?_
  refine h3.step hinfos fun s4 h4 => ?_
  refine h4.ret ?_ ?_
  · simp only [multiTcbInfoTree, size, extensionTree_bytes, bytes,
      List.length_append, List.length_cons, List.length_nil]
    omega
  · simp [multiTcbInfoTree, extensionTree_bytes, bytes]

/-- The wrapping of the extensions of a TBS. -/
def extensionsTag (cfg : CertConfig) (measurements : MeasurementData b)
    (first : TciNodeData b) (nodes : List (TciNodeData b)) (isX509 : Bool) :
    Bytes :=
  if isX509 then
    (CONTEXT_SPECIFIC ||| CONSTRUCTED ||| 0x03) :: lengthField
      (getStructureSize
        (extensionsContentSize cfg measurements first nodes isX509) true)
  else []

theorem extensionsTree_bytes (nodes : List (TciNodeData b)) (isX509 : Bool) :
    (extensionsTree cfg measurements first nodes isX509).bytes
      = extensionsTag cfg measurements first nodes isX509
        ++ (extensionListTree cfg measurements first nodes isX509).bytes := by
  unfold extensionsTree extensionsTag
  split
  · rfl
  · rfl

theorem always_encodeExtensionsTag
    (h : Walks measurements.tciNodes first chain) (isX509 : Bool) :
    Always (encodeExtensionsTag cfg measurements isX509 : EncM σ Nat)
      (extensionsTag cfg measurements first (nodesOf chain) isX509)
      (extensionsTag cfg measurements first (nodesOf chain) isX509).length := by
  intro s
  cases isX509 with
  | false => exact Always.pure 0 s
  | true =>
      refine (Grew.refl s).step (.emit (emits_encodeByte _)) fun s1 h1 => ?_
      refine h1.step (.orFail (getExtensionsSize_eq h true false true))
        fun s2 h2 => ?_
      refine h2.step (.emit (emits_encodeSizeField _)) fun s3 h3 => ?_
      refine h3.ret ?_ ?_
      · simp [extensionsTag, Nat.add_comm]
      · simp [extensionsTag]

/-- The extensions of a chain. -/
theorem always_encodeExtensions
    (h : Walks measurements.tciNodes first chain) (isX509 : Bool) :
    Always (encodeExtensions cfg measurements isX509 : EncM σ Nat)
      (extensionsTree cfg measurements first (nodesOf chain) isX509).bytes
      (extensionsTree cfg measurements first (nodesOf chain) isX509).size := by
  intro s
  refine (Grew.refl s).step (always_encodeExtensionsTag h isX509) fun s1 h1 => ?_
  refine h1.step (.emit (emits_encodeByte _)) fun s2 h2 => ?_
  refine h2.step (.orFail (getExtensionsSize_eq h false false isX509))
    fun s3 h3 => ?_
  refine h3.step (.emit (emits_encodeSizeField _)) fun s4 h4 => ?_
  refine h4.step (always_encodeMultiTcbInfo h) fun s5 h5 => ?_
  refine h5.step (.emit (emits_encodeOtherExtensions cfg measurements isX509))
    fun s6 h6 => ?_
  refine h6.ret ?_ ?_
  · simp [size, extensionsTree_bytes, extensionListTree, bytes, Nat.add_assoc]
    omega
  · simp [extensionsTree_bytes, extensionListTree, bytes]

theorem getExtensionsSize_error {e : DpeErrorCode}
    (h : measurements.tciNodes.iter = .error e) (tagged explicit isX509 : Bool) :
    getExtensionsSize cfg measurements tagged explicit isX509 = .error e := by
  unfold getExtensionsSize getMultiTcbInfoSize TciNodes.isEmpty
  rw [h]
  rfl

/-- **THE EXTENSIONS** are written for a valid walk. -/
theorem appends_encodeExtensions
    (h : measurements.tciNodes.Valid → Walks measurements.tciNodes first chain)
    (isX509 : Bool) :
    Appends (fun _ => measurements.tciNodes.Valid) (fun _ => True)
      (encodeExtensions cfg measurements isX509 : EncM σ Nat)
      (extensionsTree cfg measurements first (nodesOf chain) isX509).bytes
      (extensionsTree cfg measurements first (nodesOf chain) isX509).size := by
  by_cases hvalid : measurements.tciNodes.Valid
  · exact (always_encodeExtensions (h hvalid) isX509).appends_of hvalid
  · obtain ⟨e, he⟩ := TciNodes.iter_error hvalid
    have hsize : ∀ tagged explicit isX509,
        getExtensionsSize cfg measurements tagged explicit isX509 = .error e :=
      getExtensionsSize_error he
    intro s
    cases isX509 with
    | false =>
        refine (Grew.refl s).step (.pure 0) fun s1 h1 => ?_
        refine h1.step (.emit (emits_encodeByte _)) fun s2 h2 => ?_
        refine h2.attempt (.orFail_error (hsize false false false) [] 0) Eq.refl hvalid (fun _ h => h) ?_
        intro _ himpossible
        exact himpossible.elim
    | true =>
        have htag : Appends (fun _ => measurements.tciNodes.Valid)
            (fun _ => True)
            (encodeExtensionsTag cfg measurements true : EncM σ Nat) [] 0 := by
          intro s
          refine (Grew.refl s).step (.emit (emits_encodeByte _)) fun s1 h1 => ?_
          refine h1.attempt (.orFail_error (hsize true false true) [] 0) Eq.refl hvalid (fun _ h => h) ?_
          intro _ himpossible
          exact himpossible.elim
        refine (Grew.refl s).attempt htag Eq.refl id (fun _ h => h) ?_
        intro _ hv
        exact absurd hv hvalid

/-! ## Names, keys, attributes -/

theorem appends_encodeRdn (name : Name) :
    Appends (fun _ => True) (Fits (rdnTree name).size)
      (encodeRdn name : EncM σ Nat) (rdnTree name).bytes (rdnTree name).size := by
  have hemit : Always (_ : EncM σ Nat) _ _ := Always.emit (emits_rdn name)
  intro s
  refine (Grew.refl s).step hemit fun s1 h1 => ?_
  have hfits : Fits 0 s1 ↔ Fits (rdnTree name).size s := by
    rw [h1.fits_iff, List.nil_append, length_bytes, Nat.add_zero]
  refine h1.attempt .checkNotTruncated Eq.refl (fun _ => trivial)
    (fun _ => hfits.mpr) fun s2 _ hcap h2 => ?_
  exact h2.done trivial (hfits.mp hcap) (length_bytes _) (by simp)

theorem appends_encodePubKeyInfo (pubKey : PubKey) :
    Appends (fun _ => pubKey.compiled b = true) (fun _ => True)
      (encodePubKeyInfo b cfg pubKey : EncM σ Nat)
      (pubKeyInfoTree cfg pubKey).bytes (pubKeyInfoTree cfg pubKey).size := by
  have hbytes := length_bytes (pubKeyInfoTree cfg pubKey)
  cases pubKey with
  | ecdsa key =>
      cases key with
      | ecdsa256 key =>
          rw [← hbytes]
          exact .guard (.emit (emits_encodeEcdsaSubjectPubkeyInfo _ _))
      | ecdsa384 key =>
          rw [← hbytes]
          exact .guard (.emit (emits_encodeEcdsaSubjectPubkeyInfo _ _))
  | mldsa key =>
      rw [← hbytes]
      exact .guard (.emit (emits_encodeMldsaSubjectPubkeyInfo _ _))

/-- The attributes of a chain. -/
theorem always_encodeAttributes
    (h : Walks measurements.tciNodes first chain) :
    Always (encodeAttributes cfg measurements : EncM σ Nat)
      (attributesTree cfg measurements first (nodesOf chain)).bytes
      (attributesTree cfg measurements first (nodesOf chain)).size := by
  intro s
  refine (Grew.refl s).step (.emit (emits_encodeByte _)) fun s1 h1 => ?_
  refine h1.step (.orFail (getAttributesSize_eq h)) fun s2 h2 => ?_
  refine h2.step (.emit (emits_encodeSizeField _)) fun s3 h3 => ?_
  refine h3.step (.emit (emits_encodeTagField _)) fun s4 h4 => ?_
  refine h4.step (.orFail (getAttributeSize_eq h false)) fun s5 h5 => ?_
  refine h5.step (.emit (emits_encodeSizeField _)) fun s6 h6 => ?_
  refine h6.step (.emit (emits_encodeOid _)) fun s7 h7 => ?_
  refine h7.step (.emit (emits_encodeTagField _)) fun s8 h8 => ?_
  refine h8.step (.orFail (getExtensionsSize_eq h true false false))
    fun s9 h9 => ?_
  refine h9.step (.emit (emits_encodeSizeField _)) fun s10 h10 => ?_
  refine h10.step (always_encodeExtensions h false) fun s11 h11 => ?_
  refine h11.ret ?_ ?_
  · simp only [attributesTree, size, bytes, all, List.length_append,
      List.length_cons, List.length_nil, getStructureSize_bare]
    omega
  · simp [attributesTree, bytes]

theorem getAttributesSize_error {e : DpeErrorCode}
    (h : measurements.tciNodes.iter = .error e) (tagged : Bool) :
    getAttributesSize cfg measurements tagged = .error e := by
  unfold getAttributesSize getAttributeSize
  rw [getExtensionsSize_error h]
  rfl

/-- **THE ATTRIBUTES** of a CSR are written for a valid walk. -/
theorem appends_encodeAttributes
    (h : measurements.tciNodes.Valid → Walks measurements.tciNodes first chain) :
    Appends (fun _ => measurements.tciNodes.Valid) (fun _ => True)
      (encodeAttributes cfg measurements : EncM σ Nat)
      (attributesTree cfg measurements first (nodesOf chain)).bytes
      (attributesTree cfg measurements first (nodesOf chain)).size := by
  by_cases hvalid : measurements.tciNodes.Valid
  · exact (always_encodeAttributes (h hvalid)).appends_of hvalid
  · obtain ⟨e, he⟩ := TciNodes.iter_error hvalid
    intro s
    refine (Grew.refl s).step (.emit (emits_encodeByte _)) fun s1 h1 => ?_
    refine h1.attempt (.orFail_error (getAttributesSize_error he false) [] 0)
      Eq.refl hvalid (fun _ h => h) ?_
    intro _ himpossible
    exact himpossible.elim

theorem appends_encodeSignerInfo (sig : Signature) (sid : SignerIdentifier b) :
    Appends (fun _ => True) (Fits (signerInfoTree cfg sig sid).size)
      (encodeSignerInfo cfg sig sid : EncM σ Nat)
      (signerInfoTree cfg sig sid).bytes (signerInfoTree cfg sig sid).size := by
  have hemit : Always (_ : EncM σ Nat) _ _ :=
    Always.emit (emits_signerInfo cfg sig sid)
  intro s
  refine (Grew.refl s).step hemit fun s1 h1 => ?_
  have hfits : Fits 0 s1 ↔ Fits (signerInfoTree cfg sig sid).size s := by
    rw [h1.fits_iff, List.nil_append, length_bytes, Nat.add_zero]
  refine h1.attempt .checkNotTruncated Eq.refl (fun _ => trivial)
    (fun _ => hfits.mpr) fun s2 _ hcap h2 => ?_
  exact h2.done trivial (hfits.mp hcap) (length_bytes _) (by simp)

end Measurements

end CertWriter

end Dpe
