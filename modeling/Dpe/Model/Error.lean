import Mathlib.Logic.Basic

/-! # Error codes — DPE, internal, crypto and platform errors

    Every fallible function of the library ends in a `DpeErrorCode`.  The
    errors of the crypto and platform traits and the internal codes are
    wrapped, as the `From` implementations of the source do it. -/

namespace Dpe

/-- Internal error code identifying a specific invariant violation. -/
inductive InternalErrorCode where
  | deriveCtxRespSliceOob
  | certifyKeyCertSliceOob
  | certifyKeyP256RespSliceOob
  | certifyKeyP384RespSliceOob
  | certifyKeyMldsa87RespSliceOob
  | asn1SizeOverflow
  | emptyTciNodes
  | encodeBytesOverflow
  | encodeBytesSliceOob
  | encodeByteOverflow
  | integerOffsetOob
  | tbsSliceOob
  | csrTbsSliceOob
  | cmsCsrRangeOob
  | tcbCountOverflow
  | keyIdHashTooSmall
  | serialNumberSliceOob
  | certSizeOverflow
  | csrSizeOverflow
  | issuerNameTooLong
  | missingExportedCdiHandle
  | handleGenerationExhausted
  | digestLengthMismatch
  | inputInfoProfileSliceOob
  | inputInfoRemainderSliceOob
  | certChainChunkSliceOob
  | childIndexOob
  | childrenBitmapIndexOob
  | parentChainIndexOob
  | contextIndexOob
  | activeContextNotFound
  | descendantIndexOob
  | tciNodeArrayOverflow
  | tciNodeCountExceeded
  | destroyParentIndexOob
  | initContextIndexOob
  | responseDeserializationFailed
  deriving DecidableEq, Repr

/-- Errors of the crypto traits; those of lower layers carry a code. -/
inductive CryptoError where
  | abstractionLayer (code : UInt32)
  | cryptoLibError (code : UInt32)
  | size
  | notImplemented
  | hashError (code : UInt32)
  | invalidExportedCdiHandle
  | exportedCdiHandleDuplicateCdi
  | exportedCdiHandleLimitExceeded
  | mismatchedAlgorithm
  deriving DecidableEq, Repr

/-- Errors of the platform trait. -/
inductive PlatformError where
  | certificateChainError
  | notImplemented
  | issuerNameError (code : UInt32)
  | printError (code : UInt32)
  | serialNumberError (code : UInt32)
  | subjectKeyIdentifierError (code : UInt32)
  | certValidityError (code : UInt32)
  | issuerKeyIdentifierError (code : UInt32)
  | subjectAlternativeNameError (code : UInt32)
  | missingUeidError
  | invalidUeidError
  deriving DecidableEq, Repr

/-- What the state validator objects to. -/
inductive ValidationError where
  | multipleNormalConnectedComponents
  | cyclesInTree
  | inactiveContextInvalidParent
  | inactiveContextWithChildren
  | badContextState
  | badContextType
  | inactiveContextWithMeasurement
  | mixedContextLocality
  | multipleDefaultContexts
  | simulationNotSupported
  | parentDoesNotExist
  | internalDiceNotSupported
  | internalInfoNotSupported
  | childDoesNotExist
  | inactiveContextWithFlagSet
  | localityMismatch
  | danglingRetiredContext
  | mixedContextTypeConnectedComponents
  | childWithMultipleParents
  | parentChildLinksCorrupted
  | allowCaNotSupported
  | allowX509NotSupported
  | inactiveParent
  | inactiveChild
  | dpeNotMarkedInitialized
  | invalidMarker
  | versionMismatch
  deriving DecidableEq, Repr

/-- The error code of a command. -/
inductive DpeErrorCode where
  | noError
  | internalError (e : InternalErrorCode)
  | invalidCommand
  | invalidArgument
  | sessionExhausted
  | initializationSeedLocked
  | outOfMemory
  | cancelledCommand
  | invalidHandle
  | invalidLocality
  | handleDefined
  | argumentNotSupported
  | alreadyInitialized
  | invalidParentLocality
  | x509CsrUnset
  | x509InvalidState
  | x509SkipsExhausted
  | x509InvalidWidth
  | x509AlgorithmMismatch
  | maxTcis
  | invalidMutRefBuf
  | invalidResponseBuf
  | uninitializedResponseHeader
  | platform (e : PlatformError)
  | crypto (e : CryptoError)
  | validation (e : ValidationError)
  deriving DecidableEq, Repr

/-- How a call ends when it does not end in a value: with an error code,
    or not at all (a loop that never finishes, a recursion without end, a
    panic). -/
inductive Stop where
  | err (e : DpeErrorCode)
  | noReturn
  deriving DecidableEq, Repr

instance : Coe InternalErrorCode DpeErrorCode := ⟨.internalError⟩
instance : Coe CryptoError DpeErrorCode := ⟨.crypto⟩
instance : Coe PlatformError DpeErrorCode := ⟨.platform⟩
instance : Coe ValidationError DpeErrorCode := ⟨.validation⟩
instance : Coe DpeErrorCode Stop := ⟨.err⟩
instance : Coe InternalErrorCode Stop := ⟨fun e => .err e⟩

/-- The discriminant of a platform error (`repr(u16)`). -/
def PlatformError.discriminant : PlatformError → UInt32
  | .certificateChainError => 0x1
  | .notImplemented => 0x2
  | .issuerNameError _ => 0x3
  | .printError _ => 0x4
  | .serialNumberError _ => 0x5
  | .subjectKeyIdentifierError _ => 0x6
  | .certValidityError _ => 0x7
  | .issuerKeyIdentifierError _ => 0x8
  | .subjectAlternativeNameError _ => 0x9
  | .missingUeidError => 0xA
  | .invalidUeidError => 0xB

/-- The discriminant of a crypto error (`repr(u16)`). -/
def CryptoError.discriminant : CryptoError → UInt32
  | .abstractionLayer _ => 0x1
  | .cryptoLibError _ => 0x2
  | .size => 0x3
  | .notImplemented => 0x4
  | .hashError _ => 0x5
  | .invalidExportedCdiHandle => 0x6
  | .exportedCdiHandleDuplicateCdi => 0x7
  | .exportedCdiHandleLimitExceeded => 0x8
  | .mismatchedAlgorithm => 0x9

/-- The discriminant of a validation error (`repr(u16)`). -/
def ValidationError.discriminant : ValidationError → UInt32
  | .multipleNormalConnectedComponents => 0x0
  | .cyclesInTree => 0x1
  | .inactiveContextInvalidParent => 0x2
  | .inactiveContextWithChildren => 0x3
  | .badContextState => 0x4
  | .badContextType => 0x5
  | .inactiveContextWithMeasurement => 0x6
  | .mixedContextLocality => 0x7
  | .multipleDefaultContexts => 0x8
  | .simulationNotSupported => 0x9
  | .parentDoesNotExist => 0xA
  | .internalDiceNotSupported => 0xB
  | .internalInfoNotSupported => 0xC
  | .childDoesNotExist => 0xD
  | .inactiveContextWithFlagSet => 0xE
  | .localityMismatch => 0xF
  | .danglingRetiredContext => 0x10
  | .mixedContextTypeConnectedComponents => 0x11
  | .childWithMultipleParents => 0x12
  | .parentChildLinksCorrupted => 0x13
  | .allowCaNotSupported => 0x14
  | .allowX509NotSupported => 0x15
  | .inactiveParent => 0x16
  | .inactiveChild => 0x17
  | .dpeNotMarkedInitialized => 0x18
  | .invalidMarker => 0x19
  | .versionMismatch => 0x1A

/-- The numeric code of an error as a response header carries it. -/
def DpeErrorCode.getErrorCode : DpeErrorCode → UInt32
  | .noError => 0
  | .internalError _ => 1
  | .invalidCommand => 2
  | .invalidArgument => 3
  | .sessionExhausted => 4
  | .initializationSeedLocked => 5
  | .outOfMemory => 6
  | .cancelledCommand => 7
  | .invalidHandle => 0x80
  | .invalidLocality => 0x81
  | .handleDefined => 0x82
  | .argumentNotSupported => 0x83
  | .alreadyInitialized => 0x84
  | .invalidParentLocality => 0x85
  | .x509CsrUnset => 0x86
  | .x509InvalidState => 0x87
  | .x509SkipsExhausted => 0x88
  | .x509InvalidWidth => 0x89
  | .x509AlgorithmMismatch => 0x90
  | .maxTcis => 0x91
  | .invalidMutRefBuf => 0x92
  | .invalidResponseBuf => 0x93
  | .uninitializedResponseHeader => 0x94
  | .platform e => 0x01000000 ||| e.discriminant
  | .crypto e => 0x02000000 ||| e.discriminant
  | .validation e => 0x03000000 ||| e.discriminant

end Dpe
