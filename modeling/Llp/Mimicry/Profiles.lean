/-
  `llp-mimicry/profiles`: VK Video, Yandex Music and RuTube.

  `generateResponse` puts a header block in front of a payload, as an HTTP response of the
  service would; `extractResponsePayload` parses the block and gives the bytes after it. What
  a profile draws at random, and the date, are arguments. The HTTP parser is a parameter.
-/
import Llp.Lib.Bytes
import Llp.Core.Error

namespace Llp.Mimicry
open ByteCodec

/-! ## The HTTP parser -/

/-- `httparse::Status`: the end of the header block, or not all of it is there. -/
inductive Status where
  | complete (size : ℕ)
  | incomplete
deriving DecidableEq

/-- `httparse::Response::parse`, with room for the given number of headers. An error is what
    `{:?}` prints of it. -/
structure HttParse where
  parseResponse : ℕ → Bytes → Except String Status

/-- `extract_response_payload`; the three parsers have the same body. -/
def extractResponsePayload (http : HttParse) (data : Bytes) : Fallible MimicryError Bytes :=
  match http.parseResponse 32 data with
  | .error e => .error (.err (.parseError s!"HTTP parse error: {e}"))
  | .ok .incomplete => .error (.err (.parseError "Incomplete HTTP response"))
  | .ok (.complete headerSize) =>
      if headerSize ≥ data.length then .error (.err (.parseError "No payload in response"))
      else .ok (data.drop headerSize)

def VkVideoParser.extractResponsePayload := Mimicry.extractResponsePayload

def YandexMusicParser.extractResponsePayload := Mimicry.extractResponsePayload

def RuTubeParser.extractResponsePayload := Mimicry.extractResponsePayload

/-! ## The header blocks -/

/-- `hex::encode`. -/
def hexEncode (bytes : Bytes) : String :=
  String.ofList
    (bytes.flatMap fun b => [Nat.digitChar (b.toNat / 16), Nat.digitChar (b.toNat % 16)])

/-- The lines of a header block, and the empty line that ends it. -/
def headerBlock (lines : List String) : Bytes :=
  (String.join (lines.map (· ++ "\r\n")) ++ "\r\n").toUTF8.toList

namespace VkVideoProfile

/-- What one response of the profile draws. -/
structure Draws where
  httpDate : String
  sessionId : Arr 16
  rangeStart : Fin 10000000

/-- `VkVideoProfile::generate_response`. -/
def generateResponse (draws : Draws) (encryptedPayload : Bytes) : Bytes :=
  let contentLength := encryptedPayload.length
  let rangeEnd := UInt64.ofNat (draws.rangeStart.val + contentLength)
  headerBlock
    ["HTTP/1.1 206 Partial Content",
      "Server: nginx/1.20.2",
      s!"Date: {draws.httpDate}",
      "Content-Type: video/mp2t",
      s!"Content-Length: {contentLength}",
      s!"Content-Range: bytes {draws.rangeStart.val}-{rangeEnd - 1}/50000000",
      "Connection: keep-alive",
      s!"X-VK-Session: {hexEncode draws.sessionId.toList}",
      "X-VK-Server: vkvideo42",
      "Accept-Ranges: bytes",
      "Cache-Control: public, max-age=31536000",
      "Access-Control-Allow-Origin: https://vk.com"] ++ encryptedPayload

end VkVideoProfile

namespace YandexMusicProfile

def AUDIO_FORMATS : List String := ["mp3", "aac", "m4a"]

/-- What one response of the profile draws; the format is an index into `AUDIO_FORMATS`. -/
structure Draws where
  httpDate : String
  sessionToken : Arr 20
  format : Fin AUDIO_FORMATS.length
  requestId : UInt32 × UInt16 × UInt16 × UInt16 × UInt32

/-- `YandexMusicProfile::generate_response`. -/
def generateResponse (draws : Draws) (encryptedPayload : Bytes) : Bytes :=
  let contentLength := encryptedPayload.length
  let contentType :=
    match AUDIO_FORMATS.get draws.format with
    | "mp3" => "audio/mpeg"
    | "aac" => "audio/aac"
    | "m4a" => "audio/mp4"
    | _ => "audio/mpeg"
  let (a, b, c, d, e) := draws.requestId
  headerBlock
    ["HTTP/1.1 200 OK",
      "Server: nginx",
      s!"Date: {draws.httpDate}",
      s!"Content-Type: {contentType}",
      s!"Content-Length: {contentLength}",
      "Connection: keep-alive",
      s!"X-Yandex-Music-Session: {hexEncode draws.sessionToken.toList}",
      s!"X-Yandex-Req-Id: {a}-{b}-{c}-{d}-{e}",
      "Accept-Ranges: bytes",
      "Cache-Control: public, max-age=86400",
      "Access-Control-Allow-Origin: https://music.yandex.ru",
      "Timing-Allow-Origin: https://music.yandex.ru"] ++ encryptedPayload

end YandexMusicProfile

namespace RuTubeProfile

def VIDEO_FORMATS : List String := ["ts", "m4s"]

/-- What one response of the profile draws; the format is an index into `VIDEO_FORMATS`, and
    the server is one less than its number. -/
structure Draws where
  httpDate : String
  sessionId : Arr 12
  format : Fin VIDEO_FORMATS.length
  server : Fin 10

/-- `RuTubeProfile::generate_response`. -/
def generateResponse (draws : Draws) (encryptedPayload : Bytes) : Bytes :=
  let contentLength := encryptedPayload.length
  let contentType :=
    match VIDEO_FORMATS.get draws.format with
    | "ts" => "video/mp2t"
    | "m4s" => "video/iso.segment"
    | _ => "video/mp2t"
  headerBlock
    ["HTTP/1.1 200 OK",
      "Server: nginx/1.21.6",
      s!"Date: {draws.httpDate}",
      s!"Content-Type: {contentType}",
      s!"Content-Length: {contentLength}",
      "Connection: keep-alive",
      s!"X-RuTube-Session: {hexEncode draws.sessionId.toList}",
      s!"X-RuTube-Server: cdn{draws.server.val + 1}",
      "X-RuTube-Cache: HIT",
      "Accept-Ranges: bytes",
      "Cache-Control: public, max-age=604800",
      "Access-Control-Allow-Origin: https://rutube.ru",
      "Access-Control-Allow-Credentials: true"] ++ encryptedPayload

end RuTubeProfile

end Llp.Mimicry
