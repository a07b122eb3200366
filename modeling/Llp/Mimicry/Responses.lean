/-
  The responses of the profiles as HTTP.

  Each profile's header block is the head of a well-formed response, with 11 or 12 headers. What
  the parser and the calendar are relied on for is `HttParse.EndsHeads` and `Draws.Dated`.

  * `unwrap_wrap`: a wrapped packet, whatever its bytes, is unwrapped as it was, also by a wrapper
    of another HTTP profile.
-/
import Llp.Lib.Http
import Llp.Mimicry.Wrapper

namespace Llp.Mimicry
open ByteCodec Http

/-! ## The parser -/

namespace HttParse

/-- A head in front of any bytes is complete, at its blank line. -/
def EndsHeads (http : HttParse) : Prop :=
  ∀ (head : ResponseHead) (maxHeaders : ℕ) (rest : Bytes), head.headers.length ≤ maxHeaders →
    http.parseResponse maxHeaders (head.bytes ++ rest) = .ok (.complete head.bytes.length)

/-- A head that is cut short is incomplete, or an error. -/
def AwaitsHeads (http : HttParse) : Prop :=
  ∀ (head : ResponseHead) (maxHeaders : ℕ) (data : Bytes), head.headers.length ≤ maxHeaders →
    data <+: head.bytes → data ≠ head.bytes →
      ∀ size, http.parseResponse maxHeaders data ≠ .ok (.complete size)

/-- The parser that looks for the blank line. -/
def scan : HttParse where
  parseResponse _ data :=
    match endOfHead data with
    | some size => .ok (.complete size)
    | none => .ok .incomplete

theorem scan_endsHeads : scan.EndsHeads := by
  intro head maxHeaders rest _
  unfold scan
  simp only [head.endOfHead_bytes rest]

theorem scan_awaitsHeads : scan.AwaitsHeads := by
  intro head maxHeaders data _ hcut hne size
  unfold scan
  simp only [head.endOfHead_cut hcut hne]
  intro h
  cases h

end HttParse

/-! ## The date -/

/-- What `chrono` prints of the system time, which is not before 1970. -/
structure UtcTime where
  weekday : Fin 7
  day : Fin 31
  month : Fin 12
  year : ℕ
  hour : Fin 24
  minute : Fin 60
  second : Fin 60
  year_range : 1970 ≤ year ∧ year ≤ 262142

namespace UtcTime

def WEEKDAYS : List.Vector String 7 := ⟨["Sun", "Mon", "Tue", "Wed", "Thu", "Fri", "Sat"], rfl⟩

def MONTHS : List.Vector String 12 :=
  ⟨["Jan", "Feb", "Mar", "Apr", "May", "Jun", "Jul", "Aug", "Sep", "Oct", "Nov", "Dec"], rfl⟩

/-- `%d`, `%H`, `%M`, `%S`: two digits. -/
def twoDigits (n : ℕ) : String := if n < 10 then s!"0{n}" else toString n

/-- `%Y`: a year of five digits or more has a sign. -/
def yearDigits (year : ℕ) : String := if year ≤ 9999 then toString year else s!"+{year}"

/-- `format("%a, %d %b %Y %H:%M:%S GMT")`. -/
def format (t : UtcTime) : String :=
  s!"{WEEKDAYS.get t.weekday}, {twoDigits (t.day.val + 1)} {MONTHS.get t.month} " ++
    s!"{yearDigits t.year} {twoDigits t.hour.val}:{twoDigits t.minute.val}:" ++
    s!"{twoDigits t.second.val} GMT"

theorem printable_twoDigits (n : ℕ) : Printable (twoDigits n) := by
  have hzero : Printable "0" := by decide
  unfold twoDigits
  split
  · exact printable_append.mpr ⟨hzero, printable_nat n⟩
  · exact printable_nat n

theorem printable_yearDigits (year : ℕ) : Printable (yearDigits year) := by
  have hplus : Printable "+" := by decide
  unfold yearDigits
  split
  · exact printable_nat year
  · exact printable_append.mpr ⟨hplus, printable_nat year⟩

theorem printable_format (t : UtcTime) : Printable t.format := by
  have hweekday : ∀ i, Printable (WEEKDAYS.get i) := by decide
  have hmonth : ∀ i, Printable (MONTHS.get i) := by decide
  have hseparators : Printable ", " ∧ Printable " " ∧ Printable ":" ∧ Printable " GMT" := by decide
  simp [format, hweekday, hmonth, hseparators, printable_twoDigits, printable_yearDigits]

theorem length_twoDigits_le {n : ℕ} (h : n < 100) : (twoDigits n).length ≤ 2 := by
  unfold twoDigits
  split
  · next hlt =>
      have hone := (Nat.length_repr_le_iff (n := n) (k := 1) (by decide)).mpr hlt
      have hzero : "0".length = 1 := rfl
      rw [toString_text, String.length_append, hzero, Nat.toString_eq_repr]
      omega
  · exact (Nat.length_repr_le_iff (n := n) (k := 2) (by decide)).mpr h

theorem length_yearDigits_le {year : ℕ} (h : year ≤ 262142) : (yearDigits year).length ≤ 7 := by
  have hsix := (Nat.length_repr_le_iff (n := year) (k := 6) (by decide)).mpr (by omega)
  have hplus : "+".length = 1 := rfl
  unfold yearDigits
  split
  · exact Nat.le_succ_of_le hsix
  · rw [toString_text, String.length_append, hplus, Nat.toString_eq_repr]
    omega

/-- A date is short. -/
theorem length_format_le (t : UtcTime) : t.format.length ≤ 32 := by
  have hweekday : ∀ i, (WEEKDAYS.get i).length = 3 := by decide
  have hmonth : ∀ i, (MONTHS.get i).length = 3 := by decide
  have hday := length_twoDigits_le (n := t.day.val + 1) (by omega)
  have hhour := length_twoDigits_le (n := t.hour.val) (by omega)
  have hminute := length_twoDigits_le (n := t.minute.val) (by omega)
  have hsecond := length_twoDigits_le (n := t.second.val) (by omega)
  have hyear := length_yearDigits_le t.year_range.2
  have hwords : ", ".length = 2 ∧ " ".length = 1 ∧ ":".length = 1 ∧ " GMT".length = 4 :=
    ⟨rfl, rfl, rfl, rfl⟩
  simp only [format, String.length_append, toString_text, hweekday, hmonth, hwords]
  have hempty : "".length = 0 := rfl
  omega

end UtcTime

/-! ## The drawn values -/

theorem printable_hexEncode (bytes : Bytes) : Printable (hexEncode bytes) := by
  have hdigit : ∀ n : Fin 16, isPrintable (Nat.digitChar n) = true := by decide
  intro c hc
  rw [hexEncode, String.toList_ofList, List.mem_flatMap] at hc
  obtain ⟨b, -, hmem⟩ := hc
  have hb := b.toNat_lt
  simp only [List.mem_cons, List.not_mem_nil, or_false] at hmem
  rcases hmem with rfl | rfl
  · exact hdigit ⟨b.toNat / 16, by omega⟩
  · exact hdigit ⟨b.toNat % 16, by omega⟩

/-- Two digits a byte. -/
theorem hexEncode_toList_length (bytes : Bytes) :
    (hexEncode bytes).toList.length = 2 * bytes.length := by
  simp only [hexEncode, String.toList_ofList, List.length_flatMap, List.length_cons,
    List.length_nil, List.map_const', List.sum_replicate_nat]
  omega

/-- The number of decimal digits. -/
def digits (n : ℕ) : ℕ := (Nat.toDigits 10 n).length

theorem digits_le {n k : ℕ} (hk : 0 < k) (h : n < 10 ^ k) : digits n ≤ k := by
  have hle := (Nat.length_repr_le_iff (n := n) hk).mpr h
  rwa [← String.length_toList, Nat.toList_repr] at hle

/-! ## The heads -/

theorem headerBlock_eq (lines : List String) : headerBlock lines = headBytes lines := rfl

namespace VkVideoProfile

/-- `{}-{}/50000000`, the range of a content of the given length. -/
def contentRange (draws : Draws) (contentLength : ℕ) : String :=
  let rangeEnd := UInt64.ofNat (draws.rangeStart.val + contentLength)
  s!"bytes {draws.rangeStart.val}-{rangeEnd - 1}/50000000"

theorem printable_contentRange (draws : Draws) (contentLength : ℕ) :
    Printable (contentRange draws contentLength) := by
  have hwords : Printable "bytes " ∧ Printable "-" ∧ Printable "/50000000" := by decide
  have hword : ∀ v : UInt64, Printable (toString v) := fun v => printable_nat v.toNat
  simp [contentRange, hwords, hword]

/-- The head in front of a content of the given length. -/
def head (draws : Draws) (hdate : Printable draws.httpDate) (contentLength : ℕ) : ResponseHead where
  status := .mk 206 "Partial Content"
  headers := [
    .mk "Server" "nginx/1.20.2",
    { name := "Date", value := draws.httpDate, printable := hdate },
    .mk "Content-Type" "video/mp2t",
    { name := "Content-Length", value := toString contentLength, printable := printable_nat _ },
    { name := "Content-Range"
      value := contentRange draws contentLength
      printable := printable_contentRange _ _ },
    .mk "Connection" "keep-alive",
    { name := "X-VK-Session"
      value := hexEncode draws.sessionId.toList
      printable := printable_hexEncode _ },
    .mk "X-VK-Server" "vkvideo42",
    .mk "Accept-Ranges" "bytes",
    .mk "Cache-Control" "public, max-age=31536000",
    .mk "Access-Control-Allow-Origin" "https://vk.com"]

theorem generateResponse_eq (draws : Draws) (hdate : Printable draws.httpDate)
    (encryptedPayload : Bytes) : generateResponse draws encryptedPayload =
      (head draws hdate encryptedPayload.length).bytes ++ encryptedPayload := by
  simp only [generateResponse, headerBlock_eq]
  refine congrArg (headBytes · ++ encryptedPayload) ?_
  simp only [ResponseHead.lines, head, List.map_cons, List.map_nil]
  rfl

/-- The size of the head. -/
def headSize (draws : Draws) (contentLength : ℕ) : ℕ :=
  343 + draws.httpDate.length + digits contentLength + digits draws.rangeStart.val +
    digits (draws.rangeStart.val + contentLength - 1)

theorem head_length {draws : Draws} (hdate : Printable draws.httpDate) {contentLength : ℕ}
    (hpos : 0 < contentLength) (hmax : contentLength ≤ MAX_PACKET_SIZE) :
    (head draws hdate contentLength).bytes.length = headSize draws contentLength := by
  have hend : (UInt64.ofNat (draws.rangeStart.val + contentLength) - 1).toNat =
      draws.rangeStart.val + contentLength - 1 := by
    have hstart := draws.rangeStart.isLt
    have hlarge : MAX_PACKET_SIZE = 65536 := rfl
    have hword : (UInt64.ofNat (draws.rangeStart.val + contentLength)).toNat =
        draws.rangeStart.val + contentLength :=
      UInt64.toNat_ofNat_of_lt (show _ < 2 ^ 64 by omega)
    rw [UInt64.toNat_sub_of_le, hword]
    · rfl
    · rw [UInt64.le_iff_toNat_le, hword]
      show 1 ≤ _
      omega
  have hword : ∀ v : UInt64, (toString v).toList = Nat.toDigits 10 v.toNat := fun v =>
    Nat.toList_repr
  rw [ResponseHead.bytes_length]
  simp only [head, contentRange, headSize, digits, hword, hend, toString_text,
    Nat.toString_eq_repr, Nat.toList_repr, String.reduceToList, String.toList_append,
    List.cons_append, List.nil_append, List.append_assoc, List.length_append, List.length_cons,
    List.length_nil, List.map_cons, List.map_nil, List.sum_cons, List.sum_nil]
  rw [String.length_toList, hexEncode_toList_length, List.Vector.toList_length]
  omega

end VkVideoProfile

namespace YandexMusicProfile

def contentType (draws : Draws) : String :=
  match AUDIO_FORMATS.get draws.format with
  | "mp3" => "audio/mpeg"
  | "aac" => "audio/aac"
  | "m4a" => "audio/mp4"
  | _ => "audio/mpeg"

def requestId (draws : Draws) : String :=
  let (a, b, c, d, e) := draws.requestId
  s!"{a}-{b}-{c}-{d}-{e}"

theorem printable_contentType (draws : Draws) : Printable (contentType draws) := by
  have htypes : Printable "audio/mpeg" ∧ Printable "audio/aac" ∧ Printable "audio/mp4" := by
    decide
  unfold contentType
  split
  · exact htypes.1
  · exact htypes.2.1
  · exact htypes.2.2
  · exact htypes.1

theorem printable_requestId (draws : Draws) : Printable (requestId draws) := by
  have hdash : Printable "-" := by decide
  have hword : ∀ v : UInt32, Printable (toString v) := fun v => printable_nat v.toNat
  have hshort : ∀ v : UInt16, Printable (toString v) := fun v => printable_nat v.toNat
  simp [requestId, hdash, hword, hshort]

/-- The head in front of a content of the given length. -/
def head (draws : Draws) (hdate : Printable draws.httpDate) (contentLength : ℕ) : ResponseHead where
  status := .mk 200 "OK"
  headers := [
    .mk "Server" "nginx",
    { name := "Date", value := draws.httpDate, printable := hdate },
    { name := "Content-Type"
      value := contentType draws
      printable := printable_contentType _ },
    { name := "Content-Length", value := toString contentLength, printable := printable_nat _ },
    .mk "Connection" "keep-alive",
    { name := "X-Yandex-Music-Session"
      value := hexEncode draws.sessionToken.toList
      printable := printable_hexEncode _ },
    { name := "X-Yandex-Req-Id"
      value := requestId draws
      printable := printable_requestId _ },
    .mk "Accept-Ranges" "bytes",
    .mk "Cache-Control" "public, max-age=86400",
    .mk "Access-Control-Allow-Origin" "https://music.yandex.ru",
    .mk "Timing-Allow-Origin" "https://music.yandex.ru"]

theorem generateResponse_eq (draws : Draws) (hdate : Printable draws.httpDate)
    (encryptedPayload : Bytes) : generateResponse draws encryptedPayload =
      (head draws hdate encryptedPayload.length).bytes ++ encryptedPayload := by
  simp only [generateResponse, headerBlock_eq]
  refine congrArg (headBytes · ++ encryptedPayload) ?_
  -- the source's line associates to the left, over the name too
  have hid : ∀ a b c d e : String,
      "X-Yandex-Req-Id: " ++ a ++ "-" ++ b ++ "-" ++ c ++ "-" ++ d ++ "-" ++ e =
        "X-Yandex-Req-Id" ++ ": " ++ (a ++ "-" ++ b ++ "-" ++ c ++ "-" ++ d ++ "-" ++ e) := by
    intro a b c d e
    simp only [String.append_assoc]
    rfl
  simp only [ResponseHead.lines, head, contentType, requestId, List.map_cons, List.map_nil,
    toString, hid]
  rfl

/-- The size of the head. -/
def headSize (draws : Draws) (contentLength : ℕ) : ℕ :=
  let (a, b, c, d, e) := draws.requestId
  349 + draws.httpDate.length + (contentType draws).length + digits contentLength +
    digits a.toNat + digits b.toNat + digits c.toNat + digits d.toNat + digits e.toNat

theorem head_length {draws : Draws} (hdate : Printable draws.httpDate) (contentLength : ℕ) :
    (head draws hdate contentLength).bytes.length = headSize draws contentLength := by
  have hword : ∀ v : UInt32, (toString v).toList = Nat.toDigits 10 v.toNat := fun v =>
    Nat.toList_repr
  have hshort : ∀ v : UInt16, (toString v).toList = Nat.toDigits 10 v.toNat := fun v =>
    Nat.toList_repr
  rw [ResponseHead.bytes_length]
  simp only [head, requestId, headSize, digits, hword, hshort, toString_text,
    Nat.toString_eq_repr, Nat.toList_repr, String.reduceToList, String.toList_append,
    List.cons_append, List.nil_append, List.append_assoc, List.length_append, List.length_cons,
    List.length_nil, List.map_cons, List.map_nil, List.sum_cons, List.sum_nil]
  rw [String.length_toList, String.length_toList, hexEncode_toList_length,
    List.Vector.toList_length]
  omega

end YandexMusicProfile

namespace RuTubeProfile

def contentType (draws : Draws) : String :=
  match VIDEO_FORMATS.get draws.format with
  | "ts" => "video/mp2t"
  | "m4s" => "video/iso.segment"
  | _ => "video/mp2t"

theorem printable_contentType (draws : Draws) : Printable (contentType draws) := by
  have htypes : Printable "video/mp2t" ∧ Printable "video/iso.segment" := by decide
  unfold contentType
  split
  · exact htypes.1
  · exact htypes.2
  · exact htypes.1

theorem printable_server (draws : Draws) : Printable s!"cdn{draws.server.val + 1}" := by
  have hname : Printable "cdn" := by decide
  exact printable_append.mpr ⟨hname, printable_nat _⟩

/-- The head in front of a content of the given length. -/
def head (draws : Draws) (hdate : Printable draws.httpDate) (contentLength : ℕ) : ResponseHead where
  status := .mk 200 "OK"
  headers := [
    .mk "Server" "nginx/1.21.6",
    { name := "Date", value := draws.httpDate, printable := hdate },
    { name := "Content-Type"
      value := contentType draws
      printable := printable_contentType _ },
    { name := "Content-Length", value := toString contentLength, printable := printable_nat _ },
    .mk "Connection" "keep-alive",
    { name := "X-RuTube-Session"
      value := hexEncode draws.sessionId.toList
      printable := printable_hexEncode _ },
    { name := "X-RuTube-Server"
      value := s!"cdn{draws.server.val + 1}"
      printable := printable_server _ },
    .mk "X-RuTube-Cache" "HIT",
    .mk "Accept-Ranges" "bytes",
    .mk "Cache-Control" "public, max-age=604800",
    .mk "Access-Control-Allow-Origin" "https://rutube.ru",
    .mk "Access-Control-Allow-Credentials" "true"]

theorem generateResponse_eq (draws : Draws) (hdate : Printable draws.httpDate)
    (encryptedPayload : Bytes) : generateResponse draws encryptedPayload =
      (head draws hdate encryptedPayload.length).bytes ++ encryptedPayload := by
  simp only [generateResponse, headerBlock_eq]
  refine congrArg (headBytes · ++ encryptedPayload) ?_
  simp only [ResponseHead.lines, head, List.map_cons, List.map_nil]
  rfl

/-- The size of the head. -/
def headSize (draws : Draws) (contentLength : ℕ) : ℕ :=
  343 + draws.httpDate.length + (contentType draws).length + digits contentLength +
    digits (draws.server.val + 1)

theorem head_length {draws : Draws} (hdate : Printable draws.httpDate) (contentLength : ℕ) :
    (head draws hdate contentLength).bytes.length = headSize draws contentLength := by
  rw [ResponseHead.bytes_length]
  simp only [head, headSize, digits, toString_text, Nat.toString_eq_repr, Nat.toList_repr,
    String.reduceToList, String.toList_append, List.cons_append, List.nil_append, List.length_cons,
    List.length_nil, List.map_cons, List.map_nil, List.sum_cons, List.sum_nil]
  rw [String.length_toList, String.length_toList, hexEncode_toList_length,
    List.Vector.toList_length]
  omega

end RuTubeProfile

namespace PacketWrapper

/-- The dates drawn are what `chrono` prints. -/
structure Draws.Dated (draws : Draws) : Prop where
  vkVideo : ∃ t : UtcTime, draws.vkVideo.httpDate = t.format
  yandexMusic : ∃ t : UtcTime, draws.yandexMusic.httpDate = t.format
  ruTube : ∃ t : UtcTime, draws.ruTube.httpDate = t.format

theorem printable_date {httpDate : String} (h : ∃ t : UtcTime, httpDate = t.format) :
    Printable httpDate := by
  obtain ⟨t, rfl⟩ := h
  exact t.printable_format

/-- The size of the head in front of a packet. -/
def headSize (draws : Draws) (contentLength : ℕ) : MimicryProfile → ℕ
  | .none => 0
  | .vkVideo => VkVideoProfile.headSize draws.vkVideo contentLength
  | .yandexMusic => YandexMusicProfile.headSize draws.yandexMusic contentLength
  | .ruTube => RuTubeProfile.headSize draws.ruTube contentLength

/-- The head in front of a packet is short. -/
theorem headSize_le {draws : Draws} (hdated : draws.Dated) {contentLength : ℕ}
    (hmax : contentLength ≤ MAX_PACKET_SIZE) (profile : MimicryProfile) :
    headSize draws contentLength profile ≤ 1000 := by
  have hlarge : MAX_PACKET_SIZE = 65536 := rfl
  have hdate : ∀ {httpDate : String}, (∃ t : UtcTime, httpDate = t.format) →
      httpDate.length ≤ 32 := by
    rintro httpDate ⟨t, rfl⟩
    exact t.length_format_le
  have hlength := digits_le (n := contentLength) (k := 5) (by decide) (by omega)
  cases profile with
  | none => exact Nat.zero_le _
  | vkVideo =>
      have hvk := hdate hdated.vkVideo
      have hstart := digits_le (n := draws.vkVideo.rangeStart.val) (k := 7) (by decide) (by omega)
      have hend := digits_le (n := draws.vkVideo.rangeStart.val + contentLength - 1) (k := 8)
        (by decide) (by omega)
      simp only [headSize, VkVideoProfile.headSize]
      omega
  | yandexMusic =>
      have hyandex := hdate hdated.yandexMusic
      have htype : (YandexMusicProfile.contentType draws.yandexMusic).length ≤ 10 := by
        unfold YandexMusicProfile.contentType
        split <;> decide
      have hword : ∀ v : UInt32, digits v.toNat ≤ 10 := fun v =>
        digits_le (by decide) (by have := v.toNat_lt; omega)
      have hshort : ∀ v : UInt16, digits v.toNat ≤ 5 := fun v =>
        digits_le (by decide) (by have := v.toNat_lt; omega)
      obtain ⟨⟨a, b, c, d, e⟩, hid⟩ : ∃ id, draws.yandexMusic.requestId = id := ⟨_, rfl⟩
      have hsize : headSize draws contentLength .yandexMusic =
          349 + draws.yandexMusic.httpDate.length +
            (YandexMusicProfile.contentType draws.yandexMusic).length + digits contentLength +
            digits a.toNat + digits b.toNat + digits c.toNat + digits d.toNat + digits e.toNat := by
        rw [headSize, YandexMusicProfile.headSize, hid]
      have hids := And.intro (hword a) (And.intro (hshort b) (And.intro (hshort c) (hshort d)))
      have hlast := hword e
      omega
  | ruTube =>
      have hruTube := hdate hdated.ruTube
      have htype : (RuTubeProfile.contentType draws.ruTube).length ≤ 17 := by
        unfold RuTubeProfile.contentType
        split <;> decide
      have hserver := digits_le (n := draws.ruTube.server.val + 1) (k := 2) (by decide) (by omega)
      simp only [headSize, RuTubeProfile.headSize]
      omega

/-- The wrapper puts nothing in front of the packet, or the head of a response. -/
inductive Front (maxHeaders : ℕ) : MimicryProfile → Bytes → Prop where
  | bare : Front maxHeaders .none []
  | head {profile : MimicryProfile} (hprofile : profile ≠ .none) (head : ResponseHead)
      (hheaders : head.headers.length ≤ maxHeaders) : Front maxHeaders profile head.bytes

/-- What the wrapper of a profile puts in front of a packet, and its size. -/
theorem response_eq {draws : Draws} (hdated : draws.Dated) (packetData : Bytes)
    (profile : MimicryProfile) : ∃ front, Front 32 profile front ∧
      (response draws packetData profile).getD packetData = front ++ packetData ∧
      (0 < packetData.length → packetData.length ≤ MAX_PACKET_SIZE →
        front.length = headSize draws packetData.length profile) := by
  have hvk := printable_date hdated.vkVideo
  have hyandex := printable_date hdated.yandexMusic
  have hruTube := printable_date hdated.ruTube
  cases profile with
  | none => exact ⟨[], .bare, rfl, fun _ _ => rfl⟩
  | vkVideo =>
      exact ⟨_, .head (by decide) (VkVideoProfile.head draws.vkVideo hvk packetData.length)
        (show 11 ≤ 32 by decide), VkVideoProfile.generateResponse_eq _ hvk _,
        fun hpos hmax => VkVideoProfile.head_length hvk hpos hmax⟩
  | yandexMusic =>
      exact ⟨_, .head (by decide)
        (YandexMusicProfile.head draws.yandexMusic hyandex packetData.length)
        (show 11 ≤ 32 by decide), YandexMusicProfile.generateResponse_eq _ hyandex _,
        fun _ _ => YandexMusicProfile.head_length hyandex _⟩
  | ruTube =>
      exact ⟨_, .head (by decide) (RuTubeProfile.head draws.ruTube hruTube packetData.length)
        (show 12 ≤ 32 by decide), RuTubeProfile.generateResponse_eq _ hruTube _,
        fun _ _ => RuTubeProfile.head_length hruTube _⟩

/-- A wrapped packet has a length that four bytes can tell. -/
theorem response_length_lt {draws : Draws} (hdated : draws.Dated) {packetData : Bytes}
    (hpos : 0 < packetData.length) (hmax : packetData.length ≤ MAX_PACKET_SIZE)
    (profile : MimicryProfile) :
    ((response draws packetData profile).getD packetData).length < 2 ^ 32 := by
  obtain ⟨front, -, hresponse, hlength⟩ := response_eq hdated packetData profile
  have hlarge : MAX_PACKET_SIZE = 65536 := rfl
  have hhead := headSize_le hdated hmax profile
  have hfront := hlength hpos hmax
  rw [hresponse, List.length_append]
  omega

theorem wrap_apply (draws : Draws) (packetData : Bytes) (self : PacketWrapper) :
    ∃ self', self'.profile = self.profile ∧ wrap draws packetData self =
      .ok ((response draws packetData self.profile).getD packetData) self' := by
  unfold wrap
  rw [Method.get_bind]
  cases response draws packetData self.profile with
  | none => exact ⟨self, rfl, rfl⟩
  | some response => exact ⟨{ self with chunkCounter := self.chunkCounter + 1 }, rfl, rfl⟩

theorem unwrap_none {http : HttParse} {self : PacketWrapper} (hprofile : self.profile = .none)
    (data : Bytes) : self.unwrap http data = .ok data := by
  rw [unwrap, hprofile]

theorem unwrap_some {http : HttParse} {self : PacketWrapper} (hprofile : self.profile ≠ .none)
    (data : Bytes) : self.unwrap http data = extractResponsePayload http data := by
  unfold unwrap
  cases h : self.profile with
  | none => exact absurd h hprofile
  | _ => rfl

/-- What is put in front of a packet is taken off again. -/
theorem unwrap_front {http : HttParse} (hhttp : http.EndsHeads) {self : PacketWrapper}
    {profile : MimicryProfile} (hsame : self.profile = .none ↔ profile = .none) {front : Bytes}
    (hfront : Front 32 profile front) {data : Bytes} (hdata : data ≠ []) :
    self.unwrap http (front ++ data) = .ok data := by
  cases hfront with
  | bare => exact unwrap_none (hsame.mpr rfl) data
  | head hprofile head hheaders =>
      have hpos := List.length_pos_iff.mpr hdata
      have hshort : ¬ head.bytes.length ≥ (head.bytes ++ data).length := by
        rw [List.length_append]
        omega
      rw [unwrap_some fun h => hprofile (hsame.mp h), extractResponsePayload,
        hhttp head 32 data hheaders]
      simp only
      rw [if_neg hshort, List.drop_left]

/-- A head that is not all there, or has nothing behind it, is refused. -/
theorem extract_cut {http : HttParse} (hends : http.EndsHeads) (hawaits : http.AwaitsHeads)
    {head : ResponseHead} (hheaders : head.headers.length ≤ 32) {data : Bytes}
    (hcut : data <+: head.bytes) : ∃ e, extractResponsePayload http data = .error (.err e) := by
  unfold extractResponsePayload
  by_cases hwhole : data = head.bytes
  · have hparse := hends head 32 [] hheaders
    rw [List.append_nil, ← hwhole] at hparse
    rw [hparse]
    simp only
    rw [if_pos (Nat.le_refl _)]
    exact ⟨_, rfl⟩
  · have hparse := hawaits head 32 data hheaders hcut hwhole
    cases hstatus : http.parseResponse 32 data with
    | error e => exact ⟨_, rfl⟩
    | ok status =>
        cases status with
        | incomplete => exact ⟨_, rfl⟩
        | complete size => exact absurd hstatus (hparse size)

/-- **Wrapping is invertible.** A packet that is not empty, whatever its bytes, comes out of its
    wrapping as it was, also at a wrapper of another HTTP profile. -/
theorem unwrap_wrap {http : HttParse} (hhttp : http.EndsHeads) {draws : Draws}
    (hdated : draws.Dated) {packetData : Bytes} (hdata : packetData ≠ []) (self : PacketWrapper) :
    ∃ wrapped self', wrap draws packetData self = .ok wrapped self' ∧
      self'.unwrap http wrapped = .ok packetData ∧
      ∀ other : PacketWrapper, (other.profile = .none ↔ self.profile = .none) →
        other.unwrap http wrapped = .ok packetData := by
  obtain ⟨self', hprofile, hwrap⟩ := wrap_apply draws packetData self
  obtain ⟨front, hfront, hresponse, -⟩ := response_eq hdated packetData self.profile
  rw [hresponse] at hwrap
  have hother : ∀ other : PacketWrapper, (other.profile = .none ↔ self.profile = .none) →
      other.unwrap http (front ++ packetData) = .ok packetData := fun other hsame =>
    unwrap_front hhttp hsame hfront hdata
  exact ⟨_, self', hwrap, hother self' (by rw [hprofile]), hother⟩

section Sample

def sampleTime : UtcTime where
  weekday := 4
  day := 0
  month := 0
  year := 1970
  hour := 0
  minute := 0
  second := 0
  year_range := by decide

def sampleDraws : Draws where
  vkVideo := {
    httpDate := sampleTime.format
    sessionId := List.Vector.replicate 16 0xAB
    rangeStart := ⟨0, by decide⟩ }
  yandexMusic := {
    httpDate := sampleTime.format
    sessionToken := List.Vector.replicate 20 7
    format := Fin.last 2
    requestId := (1, 2, 3, 4, 5) }
  ruTube := {
    httpDate := sampleTime.format
    sessionId := List.Vector.replicate 12 0
    format := Fin.last 1
    server := ⟨9, by decide⟩ }

theorem sampleDraws_dated : sampleDraws.Dated :=
  ⟨⟨sampleTime, rfl⟩, ⟨sampleTime, rfl⟩, ⟨sampleTime, rfl⟩⟩

/-- A packet that looks like the end of a head. -/
theorem unwrap_wrap_blank_line :
    ∃ wrapped self', wrap sampleDraws [13, 10, 13, 10] (new .vkVideo) = .ok wrapped self' ∧
      self'.unwrap HttParse.scan wrapped = .ok [13, 10, 13, 10] ∧
      ∀ other : PacketWrapper, (other.profile = .none ↔ (new .vkVideo).profile = .none) →
        other.unwrap HttParse.scan wrapped = .ok [13, 10, 13, 10] :=
  unwrap_wrap HttParse.scan_endsHeads sampleDraws_dated (by decide) (new .vkVideo)

end Sample

end PacketWrapper

end Llp.Mimicry
