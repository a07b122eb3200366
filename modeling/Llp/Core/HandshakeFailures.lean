/-
  Failed calls of the handshake objects.

  The calls are those of `ClientCall` and `ServerCall`, with what they return. A failed call leaves
  its object as it is, from any state, so failed calls can be put anywhere into a run.

  * `handshake_failures_inert`: both objects, over any run of calls.
-/
import Llp.Core.HandshakeSafety

namespace Llp
open ByteCodec

/-- Over any run of calls from `init`: a call that fails leaves the object as it is, and a run with
    failed calls put in (those marked `false`) gives the results of the run without them, and
    ends in the same object. -/
structure FailuresInert {σ ι ο : Type} (M : Machine σ ι (Fallible LlpError ο)) (init : σ) :
    Prop where
  unchanged : ∀ calls call, (M.step (M.final init calls) call).1.isOk = false →
    (M.step (M.final init calls) call).2 = M.final init calls
  inserted : ∀ run : List (ι × Bool),
    (M.comap Prod.fst).Always (fun s x => x.2 = false → (M.step s x.1).1.isOk = false) init run →
    (M.comap Prod.fst).outputsAt Prod.snd init run =
        M.outputs init ((run.filter Prod.snd).map Prod.fst) ∧
      (M.comap Prod.fst).final init run = M.final init ((run.filter Prod.snd).map Prod.fst)

/-- It is enough to look at one call, in any state. -/
theorem FailuresInert.of_call {σ ι ο : Type} {m : ι → Method σ LlpError ο}
    (h : ∀ x, Method.FailsClean (m x)) (init : σ) : FailuresInert (Method.machine m) init where
  unchanged _ call hfail := (h call).state hfail
  inserted run hrun := by
    obtain ⟨hfinal, houtputs⟩ := ((Method.machine m).comap Prod.fst).filter_of_inert Prod.snd init
      run (Machine.always_mono _ (fun s x hx hmark => (h x.1).state (hx hmark)) init run hrun)
    rw [← houtputs, ← hfinal, Machine.outputs_comap, Machine.final_comap]
    exact ⟨rfl, rfl⟩

/-! ## The client -/

/-- What a call of the client returns. -/
inductive ClientAnswer where
  | message (bytes : Bytes)
  | sessionId (sessionId : UInt64)
  | verified

namespace ClientHandshake

variable {P : Primitives}

/-- The call, with what it returns. -/
def answer : ClientCall → Method (ClientHandshake P) LlpError ClientAnswer
  | .start clientRandom => do
      let bytes ← start clientRandom
      pure (.message bytes)
  | .processServerHello data => do
      let sessionId ← processServerHello data
      pure (.sessionId sessionId)
  | .sendClientVerify => do
      let bytes ← sendClientVerify
      pure (.message bytes)
  | .processServerVerify data => do
      processServerVerify data
      pure .verified

theorem answer_failsClean (x : ClientCall) : Method.FailsClean (answer (P := P) x) := by
  cases x with
  | start clientRandom =>
      refine .bind_pure (.of_cases fun c => ?_) _
      exact (start_cases clientRandom c).imp (fun ⟨_, h⟩ => ⟨_, _, h⟩) id
  | processServerHello data =>
      refine .bind_pure (.of_cases fun c => ?_) _
      exact (processServerHello_cases data c).imp (fun ⟨_, _, _, _, _, h⟩ => ⟨_, _, h⟩) id
  | sendClientVerify =>
      refine .bind_pure (.of_cases fun c => ?_) _
      exact (sendClientVerify_cases c).imp (fun ⟨_, _, _, _, _, _, _, h⟩ => ⟨_, _, h⟩) id
  | processServerVerify data =>
      refine .bind_pure (.of_cases fun c => ?_) _
      exact (processServerVerify_cases data c).imp
        (fun ⟨_, _, _, _, _, _, _, _, _, _, h⟩ => ⟨_, _, h⟩) id

end ClientHandshake

/-! ## The server -/

/-- What a call of the server returns. -/
inductive ServerAnswer where
  | hello (bytes : Bytes) (mimicryProfile : MimicryProfile)
  | verified
  | message (bytes : Bytes)

namespace ServerHandshake

variable {P : Primitives}

/-- The call, with what it returns. -/
def answer : ServerCall → Method (ServerHandshake P) LlpError ServerAnswer
  | .processClientHello serverRandom data => do
      let (bytes, mimicryProfile) ← processClientHello serverRandom data
      pure (.hello bytes mimicryProfile)
  | .processClientVerify data => do
      processClientVerify data
      pure .verified
  | .sendServerVerify => do
      let bytes ← sendServerVerify
      pure (.message bytes)

theorem answer_failsClean (x : ServerCall) : Method.FailsClean (answer (P := P) x) := by
  cases x with
  | processClientHello serverRandom data =>
      refine .bind_pure (.of_cases fun s => ?_) _
      exact (processClientHello_cases serverRandom data s).imp (fun ⟨_, _, _, h⟩ => ⟨_, _, h⟩) id
  | processClientVerify data =>
      refine .bind_pure (.of_cases fun s => ?_) _
      exact (processClientVerify_cases data s).imp
        (fun ⟨_, _, _, _, _, _, _, _, _, _, h⟩ => ⟨_, _, h⟩) id
  | sendServerVerify =>
      refine .bind_pure (.of_cases fun s => ?_) _
      exact (sendServerVerify_cases s).imp (fun ⟨_, _, _, _, _, _, _, h⟩ => ⟨_, _, h⟩) id

end ServerHandshake

/-- **Failed handshake calls.** Whatever a client and a server are called with, a call that fails
    changes nothing, and failed calls between the others change neither their results nor the
    object they end in, with its session key. -/
theorem handshake_failures_inert (P : Primitives) (secret : Arr 32) (profile : MimicryProfile)
    (sessionId : UInt64) :
    FailuresInert (Method.machine ClientHandshake.answer)
        (ClientHandshake.new P secret profile) ∧
      FailuresInert (Method.machine ServerHandshake.answer)
        (ServerHandshake.new P secret sessionId) :=
  ⟨.of_call ClientHandshake.answer_failsClean _, .of_call ServerHandshake.answer_failsClean _⟩

end Llp
