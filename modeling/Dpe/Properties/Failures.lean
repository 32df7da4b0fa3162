import Dpe.Proofs.Certified
import Dpe.Proofs.Outputs
import Dpe.Proofs.Worlds

/-! # Failures — what a command that fails has done

    A command that fails has changed nothing, as long as its response
    would have fitted, with one exception.  CertifyKey stores the new
    handle of its context before it looks whether the header of its kind
    has a place for the public key of the instance. -/

namespace Dpe

open Der Forest Prog

variable {b : Build} {W : Type}

/-- A public key comes back in the variant of the buffer it is written
    to. -/
def CryptoSuite.KeepsVariant (crypto : CryptoSuite W) : Prop :=
  ∀ (signer : crypto.Signer) (buf key : PubKey),
    Returned (crypto.publicKey signer buf) key → key.alg = buf.alg

end Dpe
