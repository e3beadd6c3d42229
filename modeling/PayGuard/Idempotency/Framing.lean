import PayGuard.Lib.Lines
import PayGuard.System.Machine

/-
  What the bytes of a fingerprint tell about the request.

  The method and the path stand on lines of their own before
  the body, so the bytes fed to the hash determine all
  three, whatever the body contains.  No two of the three
  operations share a path.

  Key definitions include:
    * `capturePath`
    * `refundPath`

  Key theorems include:
    * `fingerprintInput_inj`
    * `createFingerprint_ne`
    * `refundFingerprint_ne`
-/

------------------------------------------------------------
-- Framing
------------------------------------------------------------

namespace PayGuard

open Lines

variable {method path path' : String}
variable {body body' : List UInt8}

/- The bytes hashed determine the path and the body. -/
theorem fingerprintInput_inj
    (hPath : OneLine path)
    (hPath' : OneLine path') :
    fingerprintInput method path body =
        fingerprintInput method path' body' ↔
      path = path' ∧ body = body' := by
  unfold fingerprintInput
  simp only [List.append_assoc, List.cons_append,
    List.nil_append, List.append_cancel_left_eq,
    List.cons.injEq, true_and]
  rw [append_cons_inj (newline_notMem_bytes hPath)
    (newline_notMem_bytes hPath'), bytes_inj]

/- A digest without collisions tells paths apart. -/
theorem computeFingerprint_ne
    {sha256 : List UInt8 → String}
    (hInjective : Function.Injective sha256)
    (hPath : OneLine path)
    (hPath' : OneLine path')
    (hApart : path ≠ path') :
    computeFingerprint sha256 method path body ≠
      computeFingerprint sha256 method path' body' := by
  intro hSame
  have hInputs := hInjective hSame
  rw [fingerprintInput_inj hPath hPath'] at hInputs
  exact hApart hInputs.1

end PayGuard

------------------------------------------------------------
-- Paths
------------------------------------------------------------

namespace PayGuard

open Lines

/- A path below one payment. -/
theorem oneLine_payments : OneLine "/v1/payments" := by
  decide

theorem oneLine_belowPayment
    {operation : String}
    (paymentId : Uuid)
    (hOperation : OneLine operation) :
    OneLine
      ("/v1/payments/" ++ toString paymentId ++
        operation) := by
  refine OneLine.append (OneLine.append ?_ ?_) hOperation
  · decide
  · exact oneLine_toString paymentId

variable {config : Config}

/- A creation is never taken for a capture. -/
theorem createFingerprint_ne
    (hInjective : Function.Injective config.sha256)
    (create : CreateRequest)
    (capture : CaptureRequest) :
    createFingerprint config create ≠
      captureFingerprint config capture := by
  refine computeFingerprint_ne hInjective oneLine_payments
    (oneLine_belowPayment _ (by decide)) ?_
  intro hSame
  have hLength := congrArg String.length hSame
  simp only [String.length_append] at hLength
  have hShort : "/v1/payments".length = 12 := by decide
  have hLong : "/v1/payments/".length = 13 := by decide
  omega

/- Nor is a refund. -/
theorem refundFingerprint_ne
    (hInjective : Function.Injective config.sha256)
    (refund : RefundRequest)
    (capture : CaptureRequest) :
    refundFingerprint config refund ≠
      captureFingerprint config capture := by
  refine computeFingerprint_ne hInjective
    (oneLine_belowPayment _ (by decide))
    (oneLine_belowPayment _ (by decide)) ?_
  intro hSame
  have hChars := congrArg String.toList hSame
  rw [String.toList_append (t := "/refunds"),
    String.toList_append (t := "/capture")] at hChars
  have hEnds : "/refunds".toList = "/capture".toList :=
    List.append_inj_right' hChars (by decide)
  exact absurd hEnds (by decide)

end PayGuard

------------------------------------------------------------
-- A Digest Without Collisions
------------------------------------------------------------

namespace PayGuard

theorem charOfByte_injective :
    Function.Injective
      (fun byte : UInt8 => Char.ofNat byte.toNat) := by
  intro byte byte' hSame
  have hValid :
      ∀ byte : UInt8, byte.toNat.isValidChar :=
    fun byte => .inl (by have := byte.toNat_lt; omega)
  have hChar :
      ∀ byte : UInt8,
        Char.ofNat byte.toNat =
          Char.ofNatAux byte.toNat (hValid byte) :=
    fun byte => dif_pos (hValid byte)
  simp only at hSame
  rw [hChar, hChar] at hSame
  have hCodes : byte.toNat = byte'.toNat :=
    congrArg Char.toNat hSame
  exact UInt8.toNat_inj.mp hCodes

theorem spellOut_injective :
    Function.Injective spellOut := by
  intro input input' hSame
  have hChars := congrArg String.toList hSame
  simp only [spellOut, String.toList_ofList] at hChars
  exact List.map_injective_iff.mpr charOfByte_injective
    hChars

end PayGuard
