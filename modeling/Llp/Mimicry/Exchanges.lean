/-
  Runs of a `PacketWrapper`: any sequence of `wrap`, `unwrap` and `generate_request`.

  The wrapped packets, one after the other, are HTTP responses that tell where they end; the
  requests in between count them.

  * `wrapped_stream_read`: an HTTP reader that goes by `Content-Length` reads the packets of a run
    back, however the stream is cut, and none before all of its response is there.
  * `request_round_trip`: a request of a run names the number of packets wrapped before it, what
    is put behind it is extracted as it was, and a request that is cut short is refused.
-/
import Llp.Mimicry.Requests

namespace Llp.Mimicry
open ByteCodec Http

/-! ## The length a head tells -/

theorem VkVideoProfile.head_field (draws : Draws) (hdate : Printable draws.httpDate) (n : ℕ) :
    (head draws hdate n).field contentLengthName = some n.repr := rfl

theorem YandexMusicProfile.head_field (draws : Draws) (hdate : Printable draws.httpDate) (n : ℕ) :
    (head draws hdate n).field contentLengthName = some n.repr := rfl

theorem RuTubeProfile.head_field (draws : Draws) (hdate : Printable draws.httpDate) (n : ℕ) :
    (head draws hdate n).field contentLengthName = some n.repr := rfl

namespace PacketWrapper

/-- The response around a packet, of any length, is read as the packet. -/
theorem response_writes {draws : Draws} (hdated : draws.Dated) (packetData : Bytes)
    {profile : MimicryProfile} (hprofile : profile ≠ .none) :
    ∃ response, PacketWrapper.response draws packetData profile = some response ∧
      responses.Writes packetData response := by
  cases profile with
  | none => exact absurd rfl hprofile
  | vkVideo =>
      have hdate := printable_date hdated.vkVideo
      refine ⟨_, rfl, ?_⟩
      rw [VkVideoProfile.generateResponse_eq _ hdate]
      exact responses_writes (VkVideoProfile.head_field _ hdate _)
  | yandexMusic =>
      have hdate := printable_date hdated.yandexMusic
      refine ⟨_, rfl, ?_⟩
      rw [YandexMusicProfile.generateResponse_eq _ hdate]
      exact responses_writes (YandexMusicProfile.head_field _ hdate _)
  | ruTube =>
      have hdate := printable_date hdated.ruTube
      refine ⟨_, rfl, ?_⟩
      rw [RuTubeProfile.generateResponse_eq _ hdate]
      exact responses_writes (RuTubeProfile.head_field _ hdate _)

theorem wrap_some {draws : Draws} {packetData response : Bytes} {self : PacketWrapper}
    (h : PacketWrapper.response draws packetData self.profile = some response) :
    wrap draws packetData self =
      .ok response { self with chunkCounter := self.chunkCounter + 1 } := by
  unfold wrap
  rw [Method.get_bind, h]
  rfl

/-! ## Runs -/

/-- A call of one of the wrapper's methods. -/
inductive Call where
  | wrap (draws : Draws) (packetData : Bytes)
  | unwrap (wrappedData : Bytes)
  | generateRequest (draws : RequestDraws)

/-- The calls of `wrap`, and what they are for. -/
def Call.packet : Call → Option Bytes
  | .wrap _ packetData => some packetData
  | _ => none

/-- The dates that are drawn are what `chrono` prints. -/
def Call.Dated : Call → Prop
  | .wrap draws _ => draws.Dated
  | _ => True

def call (http : HttParse) : Call → Method PacketWrapper MimicryError Bytes
  | .wrap draws packetData => wrap draws packetData
  | .unwrap wrappedData => do
      let self ← get
      Method.lift (unwrap http self wrappedData)
  | .generateRequest draws => generateRequest draws

/-- The calls as a machine. -/
def machine (http : HttParse) : Machine PacketWrapper Call (Fallible MimicryError Bytes) :=
  Method.machine (call http)

/-- What `wrap` gives over a run. -/
def wrapped (http : HttParse) (self : PacketWrapper) (calls : List Call) :
    List (Fallible MimicryError Bytes) :=
  (machine http).outputsAt (fun c => c.packet.isSome) self calls

/-- What one call does to the wrapper: `wrap` counts the packet, the others do nothing. -/
theorem call_state (http : HttParse) {self : PacketWrapper} (hprofile : self.profile ≠ .none)
    {c : Call} (hdated : c.Dated) : ((machine http).step self c).2 =
      { self with chunkCounter := self.chunkCounter + UInt64.ofNat c.packet.toList.length } := by
  have hstay : { self with chunkCounter := self.chunkCounter + UInt64.ofNat 0 } = self := by
    show { self with chunkCounter := self.chunkCounter + 0 } = self
    rw [UInt64.add_zero]
  cases c with
  | wrap draws packetData =>
      obtain ⟨response, hresponse, -⟩ := response_writes hdated packetData hprofile
      show Method.state (wrap draws packetData self) = _
      rw [wrap_some hresponse]
      rfl
  | unwrap wrappedData =>
      refine Eq.trans ?_ hstay.symm
      show Method.state (Method.lift (unwrap http self wrappedData) self) = self
      cases unwrap http self wrappedData with
      | ok data => rfl
      | error e => rfl
  | generateRequest draws =>
      refine Eq.trans ?_ hstay.symm
      show Method.state (generateRequest draws self) = self
      rw [generateRequest_apply]
      rfl

/-- A run counts the packets that it wraps. -/
theorem final_eq (http : HttParse) {self : PacketWrapper} (hprofile : self.profile ≠ .none)
    {calls : List Call} (hdated : ∀ c ∈ calls, c.Dated) : (machine http).final self calls =
      { self with chunkCounter :=
          self.chunkCounter + UInt64.ofNat (calls.filterMap Call.packet).length } := by
  induction calls generalizing self with
  | nil =>
      show self = { self with chunkCounter := self.chunkCounter + 0 }
      rw [UInt64.add_zero]
  | cons c calls ih =>
      have hcount : (List.filterMap Call.packet (c :: calls)).length =
          c.packet.toList.length + (calls.filterMap Call.packet).length := by
        cases hpacket : c.packet with
        | none => rw [List.filterMap_cons_none hpacket, Option.toList_none, List.length_nil,
            Nat.zero_add]
        | some packet => rw [List.filterMap_cons_some hpacket, List.length_cons, Nat.add_comm]; rfl
      have hstep := call_state http hprofile (hdated c List.mem_cons_self)
      have hprofile' : ((machine http).step self c).2.profile ≠ .none := by
        rw [hstep]
        exact hprofile
      have hrest := ih hprofile' fun c' hc' => hdated c' (List.mem_cons_of_mem c hc')
      rw [Machine.final, hrest, hstep, hcount, UInt64.ofNat_add, UInt64.add_assoc]

/-- The responses of a run are written for its packets. -/
theorem wrapped_writes (http : HttParse) {self : PacketWrapper} (hprofile : self.profile ≠ .none)
    {calls : List Call} (hdated : ∀ c ∈ calls, c.Dated) : ∃ written : List Bytes,
      wrapped http self calls = written.map .ok ∧
      List.Forall₂ responses.Writes (calls.filterMap Call.packet) written := by
  induction calls generalizing self with
  | nil => exact ⟨[], rfl, .nil⟩
  | cons c calls ih =>
      have hstep := call_state http hprofile (hdated c List.mem_cons_self)
      have hprofile' : ((machine http).step self c).2.profile ≠ .none := by
        rw [hstep]
        exact hprofile
      obtain ⟨written, hwritten, hwrites⟩ :=
        ih hprofile' fun c' hc' => hdated c' (List.mem_cons_of_mem c hc')
      cases c with
      | wrap draws packetData =>
          obtain ⟨response, hresponse, hwrite⟩ :=
            response_writes (hdated _ List.mem_cons_self) packetData hprofile
          refine ⟨response :: written, ?_, .cons hwrite hwrites⟩
          show Method.result (wrap draws packetData self) :: wrapped http _ calls = _
          rw [hwritten, wrap_some hresponse]
          rfl
      | unwrap wrappedData => exact ⟨written, hwritten, hwrites⟩
      | generateRequest draws => exact ⟨written, hwritten, hwrites⟩

/-- **The wrapped packets on a stream.** In a run of calls, the packets that are wrapped, also
    empty ones, come back from the stream of their responses: a reader that goes by
    `Content-Length` reads them in order however the stream is cut, and of a stream that stops
    inside a response exactly the packets before it. The wrapper has counted them. -/
theorem wrapped_stream_read (http : HttParse) {self : PacketWrapper}
    (hprofile : self.profile ≠ .none) {calls : List Call} (hdated : ∀ c ∈ calls, c.Dated) :
    ∃ written : List Bytes, wrapped http self calls = written.map .ok ∧
      (∀ pieces, pieces.flatten = written.flatten →
        (responses.reader.outputs [] pieces).flatten = calls.filterMap Call.packet ∧
          responses.reader.final [] pieces = []) ∧
      (∀ before response after, written = before ++ response :: after →
        ∀ front, front <+: response → front ≠ response →
          ∀ pieces, pieces.flatten = before.flatten ++ front →
            (responses.reader.outputs [] pieces).flatten =
                (calls.filterMap Call.packet).take before.length ∧
              responses.reader.final [] pieces = front) ∧
      ((machine http).final self calls).chunkCounter =
        self.chunkCounter + UInt64.ofNat (calls.filterMap Call.packet).length := by
  obtain ⟨written, hwritten, hwrites⟩ := wrapped_writes http hprofile hdated
  refine ⟨written, hwritten, fun pieces => Delimiter.read_whole hwrites, ?_,
    congrArg chunkCounter (final_eq http hprofile hdated)⟩
  rintro before response after rfl front hfront hne pieces hpieces
  exact Delimiter.read_cut hwrites hfront hne hpieces

section Sample

def sampleRequestDraws : RequestDraws where
  vkVideo := {
    userAgent := Fin.last 3
    sessionId := List.Vector.replicate 16 0xAB
    quality := Fin.last 4
    format := Fin.last 2 }
  yandexMusic := {
    userAgent := Fin.last 3
    sessionToken := List.Vector.replicate 20 7
    format := Fin.last 2
    bitrate := Fin.last 3
    hash := List.Vector.replicate 10 1 }
  ruTube := {
    userAgent := Fin.last 3
    sessionId := List.Vector.replicate 12 0
    quality := Fin.last 3
    format := Fin.last 1
    deviceId := (10, 11, 65535) }

/-- An empty packet, and one that looks like the end of a head, with a request between them. -/
def sampleCalls : List Call :=
  [.wrap sampleDraws [], .generateRequest sampleRequestDraws, .wrap sampleDraws [13, 10, 13, 10]]

theorem wrapped_stream_read_sample :
    ∃ written : List Bytes,
      wrapped HttParse.scan (new .ruTube) sampleCalls = written.map .ok ∧
      (∀ pieces, pieces.flatten = written.flatten →
        (responses.reader.outputs [] pieces).flatten = [[], [13, 10, 13, 10]] ∧
          responses.reader.final [] pieces = []) ∧
      (∀ before response after, written = before ++ response :: after →
        ∀ front, front <+: response → front ≠ response →
          ∀ pieces, pieces.flatten = before.flatten ++ front →
            (responses.reader.outputs [] pieces).flatten =
                [[], [13, 10, 13, 10]].take before.length ∧
              responses.reader.final [] pieces = front) ∧
      ((machine HttParse.scan).final (new .ruTube) sampleCalls).chunkCounter = 2 := by
  have hdated : ∀ c ∈ sampleCalls, c.Dated := by
    intro c hc
    simp only [sampleCalls, List.mem_cons, List.not_mem_nil, or_false] at hc
    rcases hc with rfl | rfl | rfl
    · exact sampleDraws_dated
    · trivial
    · exact sampleDraws_dated
  have hprofile : (new .ruTube).profile ≠ .none := by decide
  exact wrapped_stream_read HttParse.scan hprofile hdated

end Sample

/-- **A request of a run**, whatever calls came before: it is the head that names the number of
    packets wrapped before it, what is put behind it is extracted as it was by the parser of each
    profile, and a request that is cut short is refused. -/
theorem request_round_trip {http : HttParse} {requests : RequestParse} (hends : requests.EndsHeads)
    (hawaits : requests.AwaitsHeads) {profile : MimicryProfile} (hprofile : profile ≠ .none)
    {calls : List Call} (hdated : ∀ c ∈ calls, c.Dated) (draws : RequestDraws)
    {extract : RequestParse → Bytes → Fallible MimicryError Bytes}
    (hextract : extract ∈ [VkVideoParser.extractRequestPayload,
      YandexMusicParser.extractRequestPayload, RuTubeParser.extractRequestPayload]) :
    ∃ head, requestHead draws (UInt64.ofNat (calls.filterMap Call.packet).length) profile =
        some head ∧
      ((machine http).step ((machine http).final (new profile) calls)
        (.generateRequest draws)).1 = .ok head.bytes ∧
      (∀ payload, extract requests (head.bytes ++ payload) = .ok payload) ∧
      ∀ data, data <+: head.bytes → data ≠ head.bytes →
        ∃ text, extract requests data = .error (.err (.parseError text)) := by
  have hparser : extract = extractRequestPayload := by
    simp only [List.mem_cons, List.not_mem_nil, or_false] at hextract
    rcases hextract with rfl | rfl | rfl <;> rfl
  subst hparser
  obtain ⟨head, hhead, hheaders⟩ := exists_requestHead draws
    (UInt64.ofNat (calls.filterMap Call.packet).length) hprofile
  refine ⟨head, hhead, ?_, extractRequestPayload_head hends hheaders,
    fun data => extractRequestPayload_cut hawaits hheaders⟩
  have hnew : (new profile).profile ≠ .none := hprofile
  rw [final_eq http hnew hdated]
  show Method.result (generateRequest draws _) = _
  rw [generateRequest_apply]
  have hcount : (new profile).chunkCounter + UInt64.ofNat (calls.filterMap Call.packet).length =
      UInt64.ofNat (calls.filterMap Call.packet).length := UInt64.zero_add _
  simp only [hcount]
  show Except.ok _ = _
  rw [show (new profile).profile = profile from rfl, hhead]
  rfl

section Sample

/-- A request behind one wrapped packet. -/
theorem request_round_trip_sample :
    ∃ head, requestHead sampleRequestDraws 1 .ruTube = some head ∧
      ((machine HttParse.scan).step
        ((machine HttParse.scan).final (new .ruTube) [.wrap sampleDraws [1]])
        (.generateRequest sampleRequestDraws)).1 = .ok head.bytes ∧
      (∀ payload, RuTubeParser.extractRequestPayload RequestParse.scan (head.bytes ++ payload) =
        .ok payload) ∧
      ∀ data, data <+: head.bytes → data ≠ head.bytes →
        ∃ text, RuTubeParser.extractRequestPayload RequestParse.scan data =
          .error (.err (.parseError text)) := by
  have hdated : ∀ c ∈ [Call.wrap sampleDraws [1]], c.Dated := by
    intro c hc
    rw [List.mem_singleton.mp hc]
    exact sampleDraws_dated
  exact request_round_trip RequestParse.scan_endsHeads
    RequestParse.scan_awaitsHeads (by decide) hdated sampleRequestDraws
    (List.mem_cons_of_mem _ (List.mem_cons_of_mem _ List.mem_cons_self))

end Sample

end PacketWrapper

end Llp.Mimicry
