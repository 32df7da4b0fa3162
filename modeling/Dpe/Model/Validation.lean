import Dpe.Model.State

/-! # Validation — the guard against corrupted states

    `DpeValidator` looks at a state that may hold anything.  It checks
    the contexts one by one, the handles of each locality, and the shape
    of the forest: in-degrees, then a depth-first search from every root
    with one array of visited slots. -/

namespace Dpe

variable {b : Build}

/-- `return Err(e)` when the guard is up. -/
def failIf (c : Bool) (e : ValidationError) : Except ValidationError Unit :=
  if c then .error e else .ok ()

/-- The body of a loop over a list, until it fails. -/
def forAll {α : Type} (f : α → Except ValidationError Unit) :
    List α → Except ValidationError Unit
  | [] => .ok ()
  | x :: xs =>
      match f x with
      | .error e => .error e
      | .ok _ => forAll f xs

namespace State

variable (s : State b)

/-! ## One context -/

/-- Checks that the context fields do not violate supported flags. -/
def checkSupport (context : Context b) : Except ValidationError Unit := do
  failIf (!s.support.simulation && context.contextType == .simulation)
    .simulationNotSupported
  failIf (!s.support.internalDice && context.usesInternalInputDice)
    .internalDiceNotSupported
  failIf (!s.support.internalInfo && context.usesInternalInputInfo)
    .internalInfoNotSupported
  -- a root allows X.509 whatever is supported
  failIf (context.parentIdx != Context.ROOT_INDEX && !s.support.x509
    && context.allowX509) .allowX509NotSupported

/-- Checks that the fields of an inactive context are all default. -/
def validateInactiveContext (context : Context b) :
    Except ValidationError Unit := do
  failIf (context.parentIdx != Context.ROOT_INDEX)
    .inactiveContextInvalidParent
  failIf context.children.hasChildren .inactiveContextWithChildren
  failIf (context.tci != .new b) .inactiveContextWithMeasurement
  failIf (context.usesInternalInputDice || context.allowX509
    || context.usesInternalInputInfo) .inactiveContextWithFlagSet

/-- The parent of a context, if it has one, is live and has its bit. -/
def checkParent (idx : Fin b.maxHandles) : Except ValidationError Unit :=
  if (s.contexts idx).parentIdx != Context.ROOT_INDEX then
    match s.get? (s.contexts idx).parentIdx.toNat with
    | none => .error .parentDoesNotExist
    | some parentContext => do
        failIf (parentContext.state == .inactive) .inactiveParent
        failIf (!parentContext.children.hasChild b idx.val)
          .parentChildLinksCorrupted
  else .ok ()

/-- Each of the 64 bits that is set names a live context with this
    parent. -/
def checkChild (idx : Fin b.maxHandles) (childIdx : Fin 64) :
    Except ValidationError Unit :=
  match s.get? childIdx.val with
  | none => .error .childDoesNotExist
  | some child => do
      failIf (child.state == .inactive) .inactiveChild
      failIf (child.parentIdx.toNat != idx.val) .parentChildLinksCorrupted

/-- Checks that children and parent indices of a context are valid. -/
def checkChildrenAndParent (idx : Fin b.maxHandles) :
    Except ValidationError Unit := do
  failIf (decide (b.maxHandles ≤ (s.contexts idx).parentIdx.toNat)
    && (s.contexts idx).parentIdx != Context.ROOT_INDEX) .parentDoesNotExist
  s.checkParent idx
  forAll (s.checkChild idx) (flagsIter (s.contexts idx).children.bits 64)

/-- What depends on the life of the context. -/
def validateContextState (idx : Fin b.maxHandles) :
    Except ValidationError Unit :=
  match (s.contexts idx).state with
  | .inactive => validateInactiveContext (s.contexts idx)
  | .active => do
      -- there is a normal, active context only when initialized
      failIf ((s.contexts idx).contextType == .normal && !s.hasInitialized)
        .dpeNotMarkedInitialized
      s.checkChildrenAndParent idx
  | .retired => do
      s.checkChildrenAndParent idx
      failIf (((s.contexts idx).children.iter b).length == 0)
        .danglingRetiredContext

def validateContext (idx : Fin b.maxHandles) :
    Except ValidationError Unit := do
  s.checkSupport (s.contexts idx)
  s.validateContextState idx
  failIf ((s.contexts idx).contextType != .normal
    && (s.contexts idx).contextType != .simulation) .badContextType
  failIf ((s.contexts idx).locality != (s.contexts idx).tci.locality)
    .localityMismatch

/-! ## The handles of a locality -/

/-- Count the default and the other active contexts of a locality, and
    stop at the first that is one too many. -/
def countHandles (locality : UInt32) :
    List (Fin b.maxHandles) → (defaultCount nonDefaultCount : Nat) →
      Except ValidationError Unit
  | [], _, _ => .ok ()
  | idx :: rest, defaultCount, nonDefaultCount =>
      let context := s.contexts idx
      let counted := context.locality == locality && context.state == .active
      let defaultCount := defaultCount
        + if counted && context.handle.isDefault then 1 else 0
      let nonDefaultCount := nonDefaultCount
        + if counted && !context.handle.isDefault then 1 else 0
      if defaultCount > 1 then .error .multipleDefaultContexts
      else if defaultCount > 0 && nonDefaultCount > 0 then
        .error .mixedContextLocality
      else countHandles locality rest defaultCount nonDefaultCount

/-- Checks if there are multiple active default contexts or a mix of
    default and non-default contexts within the same locality. -/
def checkContextHandlesPerLocality : Except ValidationError Unit :=
  forAll (fun i => s.countHandles (s.contexts i).locality
    (List.finRange b.maxHandles) 0 0) (List.finRange b.maxHandles)

/-- Returns an error if there is any illegal state or inconsistencies
    present within the DPE instance. -/
def validateDpeState : Except ValidationError Unit := do
  failIf (s.marker != MAGIC) .invalidMarker
  failIf (s.version != VERSION) .versionMismatch
  forAll s.validateContext (List.finRange b.maxHandles)
  s.checkContextHandlesPerLocality

/-! ## The forest -/

/-- Which slots the search has visited. -/
abbrev Seen (b : Build) := Fin b.maxHandles → Bool

/-- Depth-first search from `currIdx`.  The recursion follows child bits;
    it is given `MAX_HANDLES + 1` levels. -/
def detectInvalidSubtree (contextType : ContextType) :
    Nat → Seen b → Fin b.maxHandles → Except Stop (Seen b)
  | 0, _, _ => .error .noReturn
  | fuel + 1, seen, currIdx =>
      -- a node that was already visited closes a cycle
      if (s.contexts currIdx).state == .inactive || seen currIdx then
        .error (.err (.validation .cyclesInTree))
      else if (s.contexts currIdx).contextType != contextType then
        .error (.err (.validation .mixedContextTypeConnectedComponents))
      else
        ((s.contexts currIdx).children.iter b).foldlM
          (detectInvalidSubtree contextType fuel)
          (Function.update seen currIdx true)

/-- How often a slot is a child. -/
def inDegree (idx : Fin b.maxHandles) : Nat :=
  ((List.finRange b.maxHandles).flatMap fun i =>
    (s.contexts i).children.iter b).count idx

/-- A root: live, and nobody's child. -/
def isRoot (idx : Fin b.maxHandles) : Bool :=
  s.inDegree idx == 0 && (s.contexts idx).state != .inactive

/-- Search from all root nodes, and count the normal ones. -/
def visitRoots : List (Fin b.maxHandles) → Seen b → Nat →
    Except Stop (Seen b × Nat)
  | [], seen, normalTreeCount => .ok (seen, normalTreeCount)
  | idx :: rest, seen, normalTreeCount =>
      if s.isRoot idx then
        let contextType := (s.contexts idx).contextType
        match s.detectInvalidSubtree contextType (b.maxHandles + 1) seen idx with
        | .error e => .error e
        | .ok seen =>
            visitRoots rest seen
              (normalTreeCount + if contextType == .normal then 1 else 0)
      else visitRoots rest seen normalTreeCount

/-- Determines if the contexts are a forest. -/
def validateContextForest : Except Stop Unit :=
  -- all nodes must have only one parent
  if (List.finRange b.maxHandles).any fun i => decide (1 < s.inDegree i) then
    .error (.err (.validation .childWithMultipleParents))
  else
    match s.visitRoots (List.finRange b.maxHandles) (fun _ => false) 0 with
    | .error e => .error e
    | .ok (seen, normalTreeCount) =>
        if normalTreeCount > 1 then
          .error (.err (.validation .multipleNormalConnectedComponents))
        -- a node that is undiscovered is on a cycle, or below one
        else if (List.finRange b.maxHandles).any fun i =>
            (s.contexts i).state != .inactive && !seen i then
          .error (.err (.validation .cyclesInTree))
        else .ok ()

/-- Validates that the shape of the DPE instance is well-formed and that
    there is no illegal state present within it. -/
def validateDpe : Except Stop Unit :=
  match s.validateDpeState with
  | .error e => .error (.err (.validation e))
  | .ok _ => s.validateContextForest

end State

end Dpe
