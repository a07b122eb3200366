/-
  Error values.

  Their variants, with the fields they carry; the texts they print are left out. `Result T` of the
  source is `Fallible LlpError T` for a function and `Method σ LlpError T` for a `&mut self`
  method; a panic is the separate fault `Fault.panic`. `BoxError` is the `Box<dyn Error>` of
  the server and the client.
-/
import Mathlib.Data.Int.Notation
import Llp.Lib.Method

namespace Llp

/-- Errors of the packet codec. -/
inductive PacketError where
  | unsupportedVersion (version : UInt8)
  | invalidPacketSize (expected actual : ℕ)
  | packetTooLarge (size max : ℕ)
  | invalidFlags (bits : UInt8)
  | invalidPaddingSize (size max : ℕ)
  | insufficientData (required available : ℕ)
deriving DecidableEq, Repr

/-- Errors of the cryptographic wrappers. -/
inductive CryptoError where
  | encryptionError
  | decryptionError
  | nonceOverflow
deriving DecidableEq, Repr

/-- Errors of the handshake. -/
inductive HandshakeError where
  | unexpectedMessage (expected actual : String)
  | unsupportedMimicryProfile (id : UInt16)
  | invalidMessageFormat
  | verificationFailed
  | invalidState (message : String)
deriving DecidableEq, Repr

/-- Errors of session management. -/
inductive SessionError where
  | sessionNotFound (sessionId : UInt64)
  | duplicateSequenceNumber (sessionId : UInt64) (seq : UInt32)
  | tooManySessions (current max : ℕ)
  | sessionAlreadyExists (sessionId : UInt64)
  | rekeyRequired (sessionId : UInt64)
  | invalidTimestamp (sessionId : UInt64) (deltaSec : ℤ)
deriving DecidableEq, Repr

/-- The error type of `llp-core`. -/
inductive LlpError where
  | packetError (e : PacketError)
  | cryptoError (e : CryptoError)
  | handshakeError (e : HandshakeError)
  | sessionError (e : SessionError)
deriving DecidableEq, Repr

/-- The error type of `llp-mimicry`. -/
inductive MimicryError where
  | parseError (message : String)
deriving DecidableEq, Repr

/-- `Box<dyn Error>`: what `?` and `into` put in it. -/
inductive BoxError where
  | llp (e : LlpError)
  | mimicry (e : MimicryError)
  | message (text : String)
  | io
deriving DecidableEq, Repr

end Llp
