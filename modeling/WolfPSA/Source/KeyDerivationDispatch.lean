import WolfPSA.Source.KeyDerivationOutput

/-!
# Which back end an algorithm reaches

The families of `wolfpsa_kdf_compute_output` exclude each other, so an algorithm of a family is
served by the back end of that family although the code asks for the families one by one.
-/

namespace WolfPSA.Source

variable {Hmac Cmac : Type} {alg : Algorithm}

theorem isHashFamily_excludes {base base' : Algorithm} (member : isHashFamily base alg = true)
    (other : base ≠ base') : isHashFamily base' alg = false := by
  by_contra both
  exact other (isHashFamily_unique member (by simpa using both))

/-- The algorithm is of a family other than those of HKDF and the TLS 1.2 PRF. -/
theorem isHashFamily_after_prf {base : Algorithm} (member : isHashFamily base alg = true)
    (other : base ≠ psaAlgHkdfBase ∧ base ≠ psaAlgHkdfExtractBase ∧ base ≠ psaAlgHkdfExpandBase ∧
      base ≠ psaAlgTls12PrfBase) :
    psaAlgIsAnyHkdf alg = false ∧ psaAlgIsTls12Prf alg = false := by
  obtain ⟨hkdf, extract, expand, prf⟩ := other
  unfold psaAlgIsAnyHkdf psaAlgIsHkdf psaAlgIsHkdfExtract psaAlgIsHkdfExpand psaAlgIsTls12Prf
  rw [isHashFamily_excludes member hkdf, isHashFamily_excludes member extract,
    isHashFamily_excludes member expand, isHashFamily_excludes member prf]
  exact ⟨rfl, rfl⟩

theorem tls12PskToMs_only (psk : psaAlgIsTls12PskToMs alg = true) :
    psaAlgIsAnyHkdf alg = false ∧ psaAlgIsTls12Prf alg = false :=
  isHashFamily_after_prf psk (by decide)

theorem sp800_108CounterHmac_only (counter : psaAlgIsSp800_108CounterHmac alg = true) :
    psaAlgIsAnyHkdf alg = false ∧ psaAlgIsTls12Prf alg = false ∧
      psaAlgIsTls12PskToMs alg = false ∧ psaAlgIsPbkdf2Hmac alg = false ∧
      psaAlgIsPbkdf2 alg = false := by
  obtain ⟨hkdf, prf⟩ := isHashFamily_after_prf counter (by decide)
  have hmac : psaAlgIsPbkdf2Hmac alg = false := isHashFamily_excludes counter (by decide)
  refine ⟨hkdf, prf, isHashFamily_excludes counter (by decide), hmac, ?_⟩
  unfold psaAlgIsPbkdf2
  rw [hmac, Bool.false_or, beq_eq_false_iff_ne]
  rintro rfl
  revert counter
  decide

/-- TLS 1.2 PSK-to-MS is served by its back end. -/
theorem wolfpsaKdfComputeOutput_psk (env : KdfEnv Hmac Cmac) {ctx : KdfCtx}
    (derives : ctx.isRawKdf = false) (psk : psaAlgIsTls12PskToMs ctx.alg = true) (n : Nat) :
    wolfpsaKdfComputeOutput env ctx n = wolfpsaKdfTls12PskToMs env ctx n := by
  obtain ⟨hkdf, prf⟩ := tls12PskToMs_only psk
  unfold wolfpsaKdfComputeOutput
  simp only [derives, hkdf, prf, psk, Bool.false_eq_true, if_false, if_true]

/-- PBKDF2-AES-CMAC-PRF-128 is served by the CMAC arm of `wolfpsa_kdf_pbkdf2`. -/
theorem wolfpsaKdfComputeOutput_pbkdf2Cmac (env : KdfEnv Hmac Cmac) {ctx : KdfCtx}
    (derives : ctx.isRawKdf = false) (cmac : ctx.alg = psaAlgPbkdf2AesCmacPrf128) (n : Nat) :
    wolfpsaKdfComputeOutput env ctx n = kdfPbkdf2Cmac env ctx n := by
  unfold wolfpsaKdfComputeOutput wolfpsaKdfPbkdf2
  rw [if_neg (by simp [derives]), cmac, if_neg (by decide), if_neg (by decide), if_neg (by decide),
    if_pos (by decide), if_neg (by decide), if_pos (by decide)]

/-- The HMAC variant of SP 800-108 is served by its back end. -/
theorem wolfpsaKdfComputeOutput_counterHmac (env : KdfEnv Hmac Cmac) {ctx : KdfCtx}
    (derives : ctx.isRawKdf = false) (counter : psaAlgIsSp800_108CounterHmac ctx.alg = true) (n : Nat) :
    wolfpsaKdfComputeOutput env ctx n = wolfpsaKdfSp800_108Hmac env.wc ctx n := by
  obtain ⟨hkdf, prf, psk, -, pbkdf2⟩ := sp800_108CounterHmac_only counter
  unfold wolfpsaKdfComputeOutput
  simp only [derives, hkdf, prf, psk, pbkdf2, counter, Bool.false_eq_true, if_false, if_true]

/-- The CMAC variant of SP 800-108 is served by its back end. -/
theorem wolfpsaKdfComputeOutput_counterCmac (env : KdfEnv Hmac Cmac) {ctx : KdfCtx}
    (derives : ctx.isRawKdf = false) (cmac : ctx.alg = psaAlgSp800_108CounterCmac) (n : Nat) :
    wolfpsaKdfComputeOutput env ctx n = wolfpsaKdfSp800_108Cmac env ctx n := by
  unfold wolfpsaKdfComputeOutput
  rw [if_neg (by simp [derives]), cmac, if_neg (by decide), if_neg (by decide), if_neg (by decide),
    if_neg (by decide), if_neg (by decide), if_pos (by decide)]

end WolfPSA.Source
