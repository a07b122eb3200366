/-
  The requests of the profiles, and `PacketWrapper::generate_request`.

  `generateRequest` is a GET request of the service's client; `extractRequestPayload` parses the
  head of a request and gives the bytes after it. Each profile's request is the head of a
  well-formed request, and a payload behind it may be empty.

  * `extractRequestPayload_head`, `extractRequestPayload_cut`: what stands behind a head is
    extracted, and a head that is cut short is refused.
  * `generateRequest_apply`: what the wrapper's request is.
-/
import Llp.Lib.HttpMessages
import Llp.Mimicry.Responses

namespace Llp.Mimicry
open ByteCodec Http

/-! ## The parser -/

/-- `httparse::Request::parse`, with room for the given number of headers. -/
structure RequestParse where
  parseRequest : ℕ → Bytes → Except String Status

/-- `extract_request_payload`; the three parsers have the same body. -/
def extractRequestPayload (http : RequestParse) (data : Bytes) : Fallible MimicryError Bytes :=
  match http.parseRequest 32 data with
  | .error e => .error (.err (.parseError s!"HTTP parse error: {e}"))
  | .ok .incomplete => .error (.err (.parseError "Incomplete HTTP request"))
  | .ok (.complete headerSize) =>
      if headerSize ≥ data.length then .ok []
      else .ok (data.drop headerSize)

def VkVideoParser.extractRequestPayload := Mimicry.extractRequestPayload

def YandexMusicParser.extractRequestPayload := Mimicry.extractRequestPayload

def RuTubeParser.extractRequestPayload := Mimicry.extractRequestPayload

namespace RequestParse

/-- A head in front of any bytes is complete, at its blank line. -/
def EndsHeads (http : RequestParse) : Prop :=
  ∀ (head : RequestHead) (maxHeaders : ℕ) (rest : Bytes), head.headers.length ≤ maxHeaders →
    http.parseRequest maxHeaders (head.bytes ++ rest) = .ok (.complete head.bytes.length)

/-- A head that is cut short is incomplete, or an error. -/
def AwaitsHeads (http : RequestParse) : Prop :=
  ∀ (head : RequestHead) (maxHeaders : ℕ) (data : Bytes), head.headers.length ≤ maxHeaders →
    data <+: head.bytes → data ≠ head.bytes →
      ∀ size, http.parseRequest maxHeaders data ≠ .ok (.complete size)

/-- The parser that looks for the blank line. -/
def scan : RequestParse where
  parseRequest _ data :=
    match endOfHead data with
    | some size => .ok (.complete size)
    | none => .ok .incomplete

theorem scan_endsHeads : scan.EndsHeads := by
  intro head maxHeaders rest _
  unfold scan
  simp only [head.endOfHead_bytes rest]

theorem scan_awaitsHeads : scan.AwaitsHeads := by
  intro head maxHeaders data _ hcut hne size
  unfold scan
  simp only [head.endOfHead_cut hcut hne]
  intro h
  cases h

end RequestParse

/-- What stands behind a head is extracted, also when it is empty. -/
theorem extractRequestPayload_head {http : RequestParse} (hhttp : http.EndsHeads)
    {head : RequestHead} (hheaders : head.headers.length ≤ 32) (payload : Bytes) :
    extractRequestPayload http (head.bytes ++ payload) = .ok payload := by
  unfold extractRequestPayload
  rw [hhttp head 32 payload hheaders]
  simp only [List.length_append, List.drop_left]
  split
  · next hnone => rw [List.length_eq_zero_iff.mp (show payload.length = 0 by omega)]
  · rfl

theorem extractRequestPayload_cut {http : RequestParse} (hhttp : http.AwaitsHeads)
    {head : RequestHead} (hheaders : head.headers.length ≤ 32) {data : Bytes}
    (hcut : data <+: head.bytes) (hne : data ≠ head.bytes) :
    ∃ text, extractRequestPayload http data = .error (.err (.parseError text)) := by
  have hparse := hhttp head 32 data hheaders hcut hne
  unfold extractRequestPayload
  cases hstatus : http.parseRequest 32 data with
  | error e => exact ⟨_, rfl⟩
  | ok status =>
      cases status with
      | incomplete => exact ⟨_, rfl⟩
      | complete size => exact absurd hstatus (hparse size)

/-! ## The requests -/

/-- A number in the given base, with zeros in front up to the given width. -/
def padded (base width n : ℕ) : String :=
  String.ofList ((Nat.toDigits base n).leftpad width '0')

namespace VkVideoProfile

def USER_AGENTS : List String :=
  ["VKClient/8.34 (Android 13; SDK 33; armeabi-v7a; Samsung SM-G991B; ru)",
    "VKClient/8.33 (iOS 16.5; iPhone14,2; Scale/3.00)",
    "Mozilla/5.0 (Windows NT 10.0; Win64; x64) AppleWebKit/537.36 VK/8.34",
    "VKDesktop/5.4.2 (Windows 10.0.19045)"]

def VIDEO_QUALITIES : List String := ["240", "360", "480", "720", "1080"]

def VIDEO_FORMATS : List String := ["mp4", "webm", "ts"]

/-- What one request of the profile draws; all but the session are indices into the tables. -/
structure RequestDraws where
  userAgent : Fin USER_AGENTS.length
  sessionId : Arr 16
  quality : Fin VIDEO_QUALITIES.length
  format : Fin VIDEO_FORMATS.length

/-- `VkVideoProfile::generate_request`. -/
def generateRequest (draws : RequestDraws) (chunkId : UInt64) : Bytes :=
  let quality := VIDEO_QUALITIES.get draws.quality
  let format := VIDEO_FORMATS.get draws.format
  headerBlock
    [s!"GET /video/chunk_{chunkId}_{quality}.{format} HTTP/1.1",
      "Host: vkvideo.ru",
      s!"User-Agent: {USER_AGENTS.get draws.userAgent}",
      "Accept: */*",
      "Accept-Encoding: gzip, deflate",
      "Connection: keep-alive",
      s!"X-VK-Session: {hexEncode draws.sessionId.toList}",
      s!"X-VK-Quality: {quality}",
      "Referer: https://vk.com/video",
      "Origin: https://vk.com"]

end VkVideoProfile

namespace YandexMusicProfile

def USER_AGENTS : List String :=
  ["YandexMusic/5.37 (Android 13; Pixel 6 Pro)",
    "YandexMusic/5.36 (iOS 16.5; iPhone 14 Pro)",
    "Mozilla/5.0 (Windows NT 10.0; Win64; x64) Yandex/23.5.4",
    "YandexMusicDesktop/5.0.5"]

def BITRATES : List String := ["128", "192", "256", "320"]

/-- What one request of the profile draws; user agent, format and bitrate are indices. -/
structure RequestDraws where
  userAgent : Fin USER_AGENTS.length
  sessionToken : Arr 20
  format : Fin AUDIO_FORMATS.length
  bitrate : Fin BITRATES.length
  hash : Arr 10

/-- `YandexMusicProfile::generate_request`. -/
def generateRequest (draws : RequestDraws) (trackId : UInt64) : Bytes :=
  let format := AUDIO_FORMATS.get draws.format
  let bitrate := BITRATES.get draws.bitrate
  headerBlock
    [s!"GET /get-{format}/{trackId}_{bitrate}.{format} HTTP/1.1",
      "Host: music.yandex.ru",
      s!"User-Agent: {USER_AGENTS.get draws.userAgent}",
      "Accept: */*",
      "Accept-Encoding: gzip, deflate",
      "Connection: keep-alive",
      "X-Yandex-Music-Client: web",
      s!"X-Yandex-Music-Session: {hexEncode draws.sessionToken.toList}",
      s!"X-Yandex-Music-Bitrate: {bitrate}",
      "Referer: https://music.yandex.ru/",
      "Origin: https://music.yandex.ru",
      s!"Cookie: yandexuid={hexEncode draws.hash.toList}"]

end YandexMusicProfile

namespace RuTubeProfile

def USER_AGENTS : List String :=
  ["RuTube/4.2.1 (Android 13; SM-G998B)",
    "RuTube/4.2.0 (iOS 16.5; iPhone 14)",
    "Mozilla/5.0 (Windows NT 10.0; Win64; x64) RuTube/4.2",
    "Mozilla/5.0 (Linux; Android 13) AppleWebKit/537.36 RuTube"]

def VIDEO_QUALITIES : List String := ["360p", "480p", "720p", "1080p"]

/-- What one request of the profile draws; user agent, quality and format are indices. -/
structure RequestDraws where
  userAgent : Fin USER_AGENTS.length
  sessionId : Arr 12
  quality : Fin VIDEO_QUALITIES.length
  format : Fin VIDEO_FORMATS.length
  deviceId : UInt32 × UInt16 × UInt16

/-- `generate_device_id`. -/
def deviceId (draws : RequestDraws) : String :=
  let (a, b, c) := draws.deviceId
  s!"{padded 16 8 a.toNat}-{padded 16 4 b.toNat}-{padded 16 4 c.toNat}"

/-- `RuTubeProfile::generate_request`. -/
def generateRequest (draws : RequestDraws) (videoId : UInt64) (segmentNum : UInt32) : Bytes :=
  let quality := VIDEO_QUALITIES.get draws.quality
  let format := VIDEO_FORMATS.get draws.format
  headerBlock
    [s!"GET /video/{videoId}/{quality}/segment_{padded 10 5 segmentNum.toNat}.{format} HTTP/1.1",
      "Host: rutube.ru",
      s!"User-Agent: {USER_AGENTS.get draws.userAgent}",
      "Accept: */*",
      "Accept-Encoding: gzip, deflate",
      "Connection: keep-alive",
      s!"X-RuTube-Session: {hexEncode draws.sessionId.toList}",
      s!"X-RuTube-Device-Id: {deviceId draws}",
      s!"X-RuTube-Quality: {quality}",
      s!"Referer: https://rutube.ru/video/{videoId}/",
      "Origin: https://rutube.ru"]

end RuTubeProfile

/-! ## The heads -/

theorem mem_toDigits {base n : ℕ} (hbase : 1 < base) {c : Char} (hc : c ∈ Nat.toDigits base n) :
    ∃ d < base, c = Nat.digitChar d := by
  induction n using Nat.strongRecOn with
  | ind n ih =>
      rw [Nat.toDigits_eq_if hbase] at hc
      split at hc
      · next hlt => exact ⟨n, hlt, List.mem_singleton.mp hc⟩
      · next hge =>
          rcases List.mem_append.mp hc with hfront | hlast
          · exact ih (n / base) (Nat.div_lt_self (by omega) hbase) hfront
          · exact ⟨n % base, Nat.mod_lt n (by omega), List.mem_singleton.mp hlast⟩

theorem visible_padded {base : ℕ} (hbase : 1 < base ∧ base ≤ 16) (width n : ℕ) :
    Visible (padded base width n) := by
  have hdigit : ∀ d : Fin 16, isVisible (Nat.digitChar d) = true := by decide
  intro c hc
  rw [padded, String.toList_ofList, List.leftpad, List.mem_append] at hc
  rcases hc with hzero | hmem
  · rw [List.eq_of_mem_replicate hzero]
    exact hdigit 0
  · obtain ⟨d, hd, rfl⟩ := mem_toDigits hbase.1 hmem
    exact hdigit ⟨d, by omega⟩

/-- A GET request for a target that is a path. -/
def getLine (path : String) (hpath : Visible path) : RequestLine where
  method := "GET"
  target := "/" ++ path
  nonempty := by
    refine ⟨by decide, fun h => ?_⟩
    have hlen := congrArg String.length h
    simp at hlen
  methodChars := by decide
  targetChars := visible_append.mpr ⟨by decide, hpath⟩

namespace VkVideoProfile

def requestPath (draws : RequestDraws) (chunkId : UInt64) : String :=
  s!"video/chunk_{chunkId}_{VIDEO_QUALITIES.get draws.quality}.{VIDEO_FORMATS.get draws.format}"

theorem visible_quality : ∀ i, Visible (VIDEO_QUALITIES.get i) := by decide

theorem visible_format : ∀ i, Visible (VIDEO_FORMATS.get i) := by decide

theorem visible_requestPath (draws : RequestDraws) (chunkId : UInt64) :
    Visible (requestPath draws chunkId) := by
  have hwords : Visible "video/chunk_" ∧ Visible "_" ∧ Visible "." := by decide
  have hquality := visible_quality draws.quality
  have hformat := visible_format draws.format
  have hword : ∀ v : UInt64, Visible (toString v) := fun v => visible_nat v.toNat
  delta requestPath
  simp only [visible_append, toString_text, hwords, hquality, hformat, hword, and_self]

theorem printable_userAgent : ∀ i, Printable (USER_AGENTS.get i) := by decide

/-- The head of a request for a chunk. -/
def requestHead (draws : RequestDraws) (chunkId : UInt64) : RequestHead where
  line := getLine (requestPath draws chunkId) (visible_requestPath draws chunkId)
  headers := [
    .literal "Host" "vkvideo.ru",
    .named "User-Agent" (USER_AGENTS.get draws.userAgent) (printable_userAgent _),
    .literal "Accept" "*/*",
    .literal "Accept-Encoding" "gzip, deflate",
    .literal "Connection" "keep-alive",
    .named "X-VK-Session" (hexEncode draws.sessionId.toList) (printable_hexEncode _),
    .named "X-VK-Quality" (VIDEO_QUALITIES.get draws.quality) (visible_quality _).printable,
    .literal "Referer" "https://vk.com/video",
    .literal "Origin" "https://vk.com"]

theorem generateRequest_eq (draws : RequestDraws) (chunkId : UInt64) :
    generateRequest draws chunkId = (requestHead draws chunkId).bytes := by
  simp only [generateRequest, headerBlock_eq]
  refine congrArg headBytes ?_
  simp only [RequestHead.lines, requestHead, getLine, RequestLine.text, List.map_cons, List.map_nil]
  delta requestPath
  simp only [toString_text, String.append_assoc]
  rfl

end VkVideoProfile

namespace YandexMusicProfile

def requestPath (draws : RequestDraws) (trackId : UInt64) : String :=
  let format := AUDIO_FORMATS.get draws.format
  s!"get-{format}/{trackId}_{BITRATES.get draws.bitrate}.{format}"

theorem visible_format : ∀ i, Visible (AUDIO_FORMATS.get i) := by decide

theorem visible_bitrate : ∀ i, Visible (BITRATES.get i) := by decide

theorem visible_requestPath (draws : RequestDraws) (trackId : UInt64) :
    Visible (requestPath draws trackId) := by
  have hwords : Visible "get-" ∧ Visible "/" ∧ Visible "_" ∧ Visible "." := by decide
  have hformat := visible_format draws.format
  have hbitrate := visible_bitrate draws.bitrate
  have hword : ∀ v : UInt64, Visible (toString v) := fun v => visible_nat v.toNat
  delta requestPath
  simp only [visible_append, toString_text, hwords, hformat, hbitrate, hword, and_self]

theorem printable_userAgent : ∀ i, Printable (USER_AGENTS.get i) := by decide

theorem printable_cookie (draws : RequestDraws) :
    Printable s!"yandexuid={hexEncode draws.hash.toList}" := by
  have hname : Printable "yandexuid=" := by decide
  exact printable_append.mpr ⟨hname, printable_hexEncode _⟩

/-- The head of a request for a track. -/
def requestHead (draws : RequestDraws) (trackId : UInt64) : RequestHead where
  line := getLine (requestPath draws trackId) (visible_requestPath draws trackId)
  headers := [
    .literal "Host" "music.yandex.ru",
    .named "User-Agent" (USER_AGENTS.get draws.userAgent) (printable_userAgent _),
    .literal "Accept" "*/*",
    .literal "Accept-Encoding" "gzip, deflate",
    .literal "Connection" "keep-alive",
    .literal "X-Yandex-Music-Client" "web",
    .named "X-Yandex-Music-Session" (hexEncode draws.sessionToken.toList) (printable_hexEncode _),
    .named "X-Yandex-Music-Bitrate" (BITRATES.get draws.bitrate) (visible_bitrate _).printable,
    .literal "Referer" "https://music.yandex.ru/",
    .literal "Origin" "https://music.yandex.ru",
    .named "Cookie" s!"yandexuid={hexEncode draws.hash.toList}" (printable_cookie _)]

theorem generateRequest_eq (draws : RequestDraws) (trackId : UInt64) :
    generateRequest draws trackId = (requestHead draws trackId).bytes := by
  simp only [generateRequest, headerBlock_eq]
  refine congrArg headBytes ?_
  simp only [RequestHead.lines, requestHead, getLine, RequestLine.text, List.map_cons, List.map_nil]
  delta requestPath
  simp only [toString_text, String.append_assoc]
  rfl

end YandexMusicProfile

namespace RuTubeProfile

def requestPath (draws : RequestDraws) (videoId : UInt64) (segmentNum : UInt32) : String :=
  s!"video/{videoId}/{VIDEO_QUALITIES.get draws.quality}/" ++
    s!"segment_{padded 10 5 segmentNum.toNat}.{VIDEO_FORMATS.get draws.format}"

theorem visible_quality : ∀ i, Visible (VIDEO_QUALITIES.get i) := by decide

theorem visible_format : ∀ i, Visible (VIDEO_FORMATS.get i) := by decide

theorem visible_requestPath (draws : RequestDraws) (videoId : UInt64) (segmentNum : UInt32) :
    Visible (requestPath draws videoId segmentNum) := by
  have hwords : Visible "video/" ∧ Visible "/" ∧ Visible "segment_" ∧ Visible "." := by decide
  have hquality := visible_quality draws.quality
  have hformat := visible_format draws.format
  have hword : ∀ v : UInt64, Visible (toString v) := fun v => visible_nat v.toNat
  have hsegment := visible_padded (by decide : 1 < 10 ∧ 10 ≤ 16) 5 segmentNum.toNat
  delta requestPath
  simp only [visible_append, toString_text, hwords, hquality, hformat, hword, hsegment,
    and_self]

theorem printable_userAgent : ∀ i, Printable (USER_AGENTS.get i) := by decide

theorem printable_deviceId (draws : RequestDraws) : Printable (deviceId draws) := by
  have hdash : Printable "-" := by decide
  have hhex : ∀ width n, Printable (padded 16 width n) := fun width n =>
    (visible_padded (by decide) width n).printable
  simp only [deviceId, printable_append, toString_text, hdash, hhex, and_self]

theorem printable_referer (videoId : UInt64) :
    Printable s!"https://rutube.ru/video/{videoId}/" := by
  have hwords : Printable "https://rutube.ru/video/" ∧ Printable "/" := by decide
  have hword : ∀ v : UInt64, Printable (toString v) := fun v => printable_nat v.toNat
  simp only [printable_append, toString_text, hwords, hword, and_self]

/-- The head of a request for a segment. -/
def requestHead (draws : RequestDraws) (videoId : UInt64) (segmentNum : UInt32) : RequestHead where
  line := getLine (requestPath draws videoId segmentNum) (visible_requestPath _ _ _)
  headers := [
    .literal "Host" "rutube.ru",
    .named "User-Agent" (USER_AGENTS.get draws.userAgent) (printable_userAgent _),
    .literal "Accept" "*/*",
    .literal "Accept-Encoding" "gzip, deflate",
    .literal "Connection" "keep-alive",
    .named "X-RuTube-Session" (hexEncode draws.sessionId.toList) (printable_hexEncode _),
    .named "X-RuTube-Device-Id" (deviceId draws) (printable_deviceId _),
    .named "X-RuTube-Quality" (VIDEO_QUALITIES.get draws.quality) (visible_quality _).printable,
    .named "Referer" s!"https://rutube.ru/video/{videoId}/" (printable_referer _),
    .literal "Origin" "https://rutube.ru"]

theorem generateRequest_eq (draws : RequestDraws) (videoId : UInt64) (segmentNum : UInt32) :
    generateRequest draws videoId segmentNum = (requestHead draws videoId segmentNum).bytes := by
  simp only [generateRequest, headerBlock_eq]
  refine congrArg headBytes ?_
  simp only [RequestHead.lines, requestHead, getLine, RequestLine.text, List.map_cons, List.map_nil]
  delta requestPath
  simp only [toString_text, String.append_assoc]
  rfl

end RuTubeProfile

/-! ## The wrapper -/

namespace PacketWrapper

/-- What `generate_request` draws, for whichever profile it has. -/
structure RequestDraws where
  vkVideo : VkVideoProfile.RequestDraws
  yandexMusic : YandexMusicProfile.RequestDraws
  ruTube : RuTubeProfile.RequestDraws

/-- `generate_request`. -/
def generateRequest (draws : RequestDraws) : Method PacketWrapper MimicryError Bytes := do
  let self ← get
  match self.profile with
  | .none => pure []
  | .vkVideo => pure (VkVideoProfile.generateRequest draws.vkVideo self.chunkCounter)
  | .yandexMusic => pure (YandexMusicProfile.generateRequest draws.yandexMusic self.chunkCounter)
  | .ruTube => pure (RuTubeProfile.generateRequest draws.ruTube self.chunkCounter 0)

/-- The head of the request of a profile. -/
def requestHead (draws : RequestDraws) (chunkCounter : UInt64) :
    MimicryProfile → Option RequestHead
  | .none => none
  | .vkVideo => some (VkVideoProfile.requestHead draws.vkVideo chunkCounter)
  | .yandexMusic => some (YandexMusicProfile.requestHead draws.yandexMusic chunkCounter)
  | .ruTube => some (RuTubeProfile.requestHead draws.ruTube chunkCounter 0)

/-- A request changes nothing in the wrapper; without a profile it is empty. -/
theorem generateRequest_apply (draws : RequestDraws) (self : PacketWrapper) :
    generateRequest draws self =
      .ok (((requestHead draws self.chunkCounter self.profile).map RequestHead.bytes).getD [])
        self := by
  unfold generateRequest
  rw [Method.get_bind]
  cases self.profile with
  | none => rfl
  | vkVideo => exact congrArg (EStateM.Result.ok · self) (VkVideoProfile.generateRequest_eq _ _)
  | yandexMusic =>
      exact congrArg (EStateM.Result.ok · self) (YandexMusicProfile.generateRequest_eq _ _)
  | ruTube => exact congrArg (EStateM.Result.ok · self) (RuTubeProfile.generateRequest_eq _ _ _)

/-- An HTTP profile has a request head, with 9 to 11 headers. -/
theorem exists_requestHead (draws : RequestDraws) (chunkCounter : UInt64)
    {profile : MimicryProfile} (hprofile : profile ≠ .none) :
    ∃ head, requestHead draws chunkCounter profile = some head ∧ head.headers.length ≤ 32 := by
  cases profile with
  | none => exact absurd rfl hprofile
  | vkVideo => exact ⟨_, rfl, show 9 ≤ 32 by decide⟩
  | yandexMusic => exact ⟨_, rfl, show 11 ≤ 32 by decide⟩
  | ruTube => exact ⟨_, rfl, show 10 ≤ 32 by decide⟩

end PacketWrapper

end Llp.Mimicry
