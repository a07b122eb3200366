/-
  `llp-mimicry/wrapper.rs`: a serialized LLP packet as the traffic of a profile.
-/
import Llp.Core.Packet
import Llp.Mimicry.Profiles

namespace Llp.Mimicry
open ByteCodec

/-- `PacketWrapper`. The profile objects hold a random generator and a timing only. -/
structure PacketWrapper where
  profile : MimicryProfile
  chunkCounter : UInt64
deriving DecidableEq

namespace PacketWrapper

/-- What `wrap` draws, for whichever profile it has. -/
structure Draws where
  vkVideo : VkVideoProfile.Draws
  yandexMusic : YandexMusicProfile.Draws
  ruTube : RuTubeProfile.Draws

/-- `PacketWrapper::new`. -/
def new (profile : MimicryProfile) : PacketWrapper := ⟨profile, 0⟩

/-- The response of a profile around the packet; `None` is no profile. -/
def response (draws : Draws) (packetData : Bytes) : MimicryProfile → Option Bytes
  | .none => none
  | .vkVideo => some (VkVideoProfile.generateResponse draws.vkVideo packetData)
  | .yandexMusic => some (YandexMusicProfile.generateResponse draws.yandexMusic packetData)
  | .ruTube => some (RuTubeProfile.generateResponse draws.ruTube packetData)

/-- `wrap`. -/
def wrap (draws : Draws) (packetData : Bytes) : Method PacketWrapper MimicryError Bytes := do
  let self ← get
  match response draws packetData self.profile with
  | none => pure packetData
  | some response =>
      set { self with chunkCounter := self.chunkCounter + 1 }
      pure response

/-- `unwrap`. -/
def unwrap (http : HttParse) (self : PacketWrapper) (wrappedData : Bytes) :
    Fallible MimicryError Bytes :=
  match self.profile with
  | .none => .ok wrappedData
  | .vkVideo => VkVideoParser.extractResponsePayload http wrappedData
  | .yandexMusic => YandexMusicParser.extractResponsePayload http wrappedData
  | .ruTube => RuTubeParser.extractResponsePayload http wrappedData

/-- A wrapped packet is the packet behind some header block, or nothing. -/
theorem wrap_suffix {draws : Draws} {packetData wrapped : Bytes} {self self' : PacketWrapper}
    (h : wrap draws packetData self = .ok wrapped self') : packetData <:+ wrapped := by
  unfold wrap at h
  rw [Method.get_bind] at h
  cases hprofile : self.profile with
  | none =>
      rw [hprofile] at h
      cases h
      exact List.suffix_refl _
  | _ =>
      rw [hprofile] at h
      cases h
      exact List.suffix_append _ _

end PacketWrapper

end Llp.Mimicry
