import Mathlib.Data.Int.Notation
import Mathlib.Data.Nat.Notation

/-!
# Errors

The exceptions the modelled code raises. Every error that crosses a domain
boundary is a `SasttError` of one of the classes below, and some of them
carry a public error code; what the standard library and the vector library
raise (`ValueError`, `KeyError`) is kept apart, because several callers
catch `SasttError` only.

`PyError.diverges` is not an exception of the source. It is what a loop
that runs on forever is read as, so that a function proved never to return
it is proved to terminate.
-/

namespace Sastt

/-- The subclasses of `SasttError`. `redisQueueOverloaded` is the class the
Redis adapter defines for itself, which is not the one of the domain. -/
inductive SasttErrorClass
  | sasttError
  | unsupportedAudioFormat
  | invalidChannelLayout
  | audioTooLong
  | modelNotReady
  | modelLicenseDisabled
  | unsupportedConcurrency
  | separationFailed
  | voiceIdUncalibrated
  | insufficientSpeechForEmbedding
  | queueOverloaded
  | tenantAccessDenied
  | sessionClockDiscontinuity
  | configuration
  | invalidStateTransition
  | schemaInvariant
  | idempotencyConflict
  | redisQueueOverloaded
  | cancelled
deriving DecidableEq, Repr

/-- The `code` attribute of an error class: its standard error code, if it
has one. -/
def SasttErrorClass.code : SasttErrorClass → Option String
  | .unsupportedAudioFormat => some "UNSUPPORTED_AUDIO_FORMAT"
  | .invalidChannelLayout => some "INVALID_CHANNEL_LAYOUT"
  | .audioTooLong => some "AUDIO_TOO_LONG"
  | .modelNotReady => some "MODEL_NOT_READY"
  | .modelLicenseDisabled => some "MODEL_LICENSE_DISABLED"
  | .unsupportedConcurrency => some "UNSUPPORTED_CONCURRENCY"
  | .separationFailed => some "SEPARATION_FAILED"
  | .voiceIdUncalibrated => some "VOICE_ID_UNCALIBRATED"
  | .insufficientSpeechForEmbedding => some "INSUFFICIENT_SPEECH_FOR_EMBEDDING"
  | .queueOverloaded => some "QUEUE_OVERLOADED"
  | .tenantAccessDenied => some "TENANT_ACCESS_DENIED"
  | .sessionClockDiscontinuity => some "SESSION_CLOCK_DISCONTINUITY"
  | .sasttError | .configuration | .invalidStateTransition | .schemaInvariant
  | .idempotencyConflict | .redisQueueOverloaded | .cancelled => none

/-- A value in the `details` of an error. -/
inductive DetailValue
  | str (value : String)
  | int (value : ℤ)
  | strs (values : List String)
deriving DecidableEq, Repr

/-- An exception on its way up, or a loop that never ends. -/
inductive PyError
  /-- A `SasttError` of the given class, with its message and details. -/
  | sastt (cls : SasttErrorClass) (message : String) (details : List (String × DetailValue))
  | valueError (message : String)
  | keyError (key : String)
  /-- An `HTTPException` of the web framework. -/
  | http (status : ℕ) (detail : String)
  /-- Any other exception. -/
  | other (message : String)
  /-- The loop does not terminate. -/
  | diverges
deriving DecidableEq, Repr

namespace PyError

/-- `except SasttError`. -/
def isSastt : PyError → Bool
  | .sastt _ _ _ => true
  | _ => false

/-- `except` for one class of `SasttError`. -/
def isClass (c : SasttErrorClass) : PyError → Bool
  | .sastt cls _ _ => cls == c
  | _ => false

/-- What is not a `SasttError` is of none of its classes. -/
theorem isClass_of_not_sastt {e : PyError} (h : e.isSastt = false) (c : SasttErrorClass) :
    e.isClass c = false := by
  cases e <;> first | rfl | cases h

/-- `exc.message`, or the text of another exception. -/
def message : PyError → String
  | .sastt _ message _ | .valueError message | .other message => message
  | .keyError key => key
  | .http _ detail => detail
  | .diverges => ""

/-- `exc.code`. -/
def code : PyError → Option String
  | .sastt cls _ _ => cls.code
  | _ => none

end PyError

instance decidableEqExcept {ε α : Type} [DecidableEq ε] [DecidableEq α] :
    DecidableEq (Except ε α)
  | .error e, .error e' => decidable_of_iff (e = e') ⟨congrArg _, Except.error.inj⟩
  | .ok a, .ok a' => decidable_of_iff (a = a') ⟨congrArg _, Except.ok.inj⟩
  | .error _, .ok _ => isFalse (by simp)
  | .ok _, .error _ => isFalse (by simp)

/-! ## Texts -/

/-- `value or default`. -/
def orDefault (value : Option String) (default : String) : String :=
  match value with
  | some v => if v = "" then default else v
  | none => default

/-- `repr` of a string. Characters beyond Latin-1 stand for themselves. -/
def pyRepr (s : String) : String :=
  let quote := if s.toList.contains (Char.ofNat 39) && !s.toList.contains (Char.ofNat 34) then
    Char.ofNat 34 else Char.ofNat 39
  let escape (c : Char) : List Char :=
    if c = Char.ofNat 92 ∨ c = quote then [Char.ofNat 92, c]
    else if c = Char.ofNat 10 then [Char.ofNat 92, 'n']
    else if c = Char.ofNat 13 then [Char.ofNat 92, 'r']
    else if c = Char.ofNat 9 then [Char.ofNat 92, 't']
    else if c.toNat < 32 ∨ (127 ≤ c.toNat ∧ c.toNat < 161) ∨ c.toNat = 173 then
      [Char.ofNat 92, 'x', Nat.digitChar (c.toNat / 16), Nat.digitChar (c.toNat % 16)]
    else [c]
  String.ofList (quote :: s.toList.flatMap escape ++ [quote])

end Sastt
