import Asf.Evidence.Signing

/-!
# Signing evidence again

The holder of the worker's key can change a statement and sign it again; what then still
limits the statement are the checks of its content.

Results:

* `Integrity.signed`: the integrity of a bundle that was signed for another statement.
* `Integrity.exists_sign`: the holder of the key gets this bundle.
-/

namespace Asf.Evidence

open Lib Contracts
open SignedRunmillEvidenceBundle (sign)

variable {statement : RunmillEvidenceStatement} {p : Primitives}
  {trusted : TrustedRunmillEvidenceSigner} {bundle : SignedRunmillEvidenceBundle}
  {signer : Ed25519Signer} {observedAt : DateTime}

section

variable (h : Integrity p bundle trusted observedAt)

include h

/-- A bundle that `sign` returned for a statement of the right content, at the time of a
    bundle of known integrity. -/
theorem Integrity.signed (hholds : Holds p signer trusted) {bundle' : SignedRunmillEvidenceBundle}
    (hsign : sign p statement bundle.issuedAt signer = .ok bundle')
    (hsignature : ¬ isCredentialShaped bundle'.signature)
    (hmanifest : SoundManifest statement.predicate) : Integrity p bundle' trusted observedAt :=
  .of_sign hsign hholds h.signature.notRevoked h.signature.window h.signature.issued hsignature
    hmanifest

theorem Integrity.exists_sign (hholds : Holds p signer trusted) (hvalid : statement.Valid p)
    (hplain : Plain (statement.toValue p)) :
    ∃ bundle', sign p statement bundle.issuedAt signer = .ok bundle' := by
  obtain ⟨-, hkeyText, hissuedText, -, -, -⟩ := plain_toValue_iff.mp h.shape.plain
  have hkey : signer.keyId = bundle.keyId := hholds.keyId.trans h.signature.keyId
  rw [plain_str] at hkeyText hissuedText
  exact exists_sign_eq_ok hholds.canonical (hkey ▸ h.shape.keyId) (hkey ▸ hkeyText)
    h.shape.issuedAt hissuedText hvalid hplain

end

end Asf.Evidence
