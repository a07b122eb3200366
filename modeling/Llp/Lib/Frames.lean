/-
  Length-prefixed frames on a byte stream that arrives in pieces.

  A frame on the wire is a 4-byte length word and its bytes. A reader of one frame keeps what it
  has taken of the length word, or the length and what it has taken of the bytes; `resume` goes
  on with the bytes that have arrived, which it takes as far as it needs them.

  * `resume_sound`: a reader in step with the wire stays so, or has read its next frame.
  * `frames_writes`: a reader that drains each piece reads frames whole.
  * `pieces_eq_of_filterMap`: a reader that takes every piece for a message reads the messages
    of the stream only if the pieces are the messages.
-/
import Llp.Lib.Bytes
import Llp.Lib.Delimited

namespace ByteCodec

/-- A byte string that a length word can count. -/
structure Frame where
  body : Bytes
  fits : body.length < 256 ^ 4

/-- The frame on the wire. -/
def Frame.encode (f : Frame) : Bytes := toBE 4 f.body.length ++ f.body

/-- Bytes behind their length. A length word takes its low 32 bits. -/
def frame (message : Bytes) : Bytes := toBE 4 (UInt32.ofNat message.length).toNat ++ message

theorem length_frame (message : Bytes) : (frame message).length = 4 + message.length := by
  rw [frame, List.length_append, toBE_length]

theorem frame_eq_encode (f : Frame) : frame f.body = f.encode := by
  have hword : (UInt32.ofNat f.body.length).toNat = f.body.length := UInt32.toNat_ofNat_of_lt f.fits
  rw [frame, hword, Frame.encode]

/-- Frames on the wire, one after the other. -/
def encodeFrames : List Frame → Bytes
  | [] => []
  | f :: fs => f.encode ++ encodeFrames fs

/-- The first word of the wire is the length of the first frame. -/
theorem length_of_encodeFrames {word rest : Bytes} {frames : List Frame} (hword : word.length = 4)
    (h : word ++ rest = encodeFrames frames) :
    ∃ f fs, frames = f :: fs ∧ word = toBE 4 f.body.length ∧ rest = f.body ++ encodeFrames fs := by
  cases frames with
  | nil =>
      have hlen := congrArg List.length h
      simp [encodeFrames, hword] at hlen
  | cons f fs =>
      rw [encodeFrames, Frame.encode, List.append_assoc] at h
      obtain ⟨hfirst, hrest⟩ := List.append_inj h (by rw [hword, toBE_length])
      exact ⟨f, fs, rfl, hfirst, hrest⟩

/-- How far a reader of one frame has come: what it has taken of the length word, or the length
    and what it has taken of the bytes. -/
inductive FrameReader where
  | length (got : Bytes)
  | body (len : ℕ) (got : Bytes)
deriving DecidableEq

namespace FrameReader

/-- A reader that has taken nothing. -/
def new : FrameReader := .length []

/-- The bytes the reader has taken. -/
def taken : FrameReader → Bytes
  | length got => got
  | body len got => toBE 4 len ++ got

/-- The reader has not taken more than it needs. -/
def Valid : FrameReader → Prop
  | length got => got.length < 4
  | body len got => len < 256 ^ 4 ∧ got.length ≤ len

theorem new_valid : new.Valid := Nat.zero_lt_succ 3

/-- What a reader comes to with the bytes that have arrived, and those it leaves. -/
inductive Outcome where
  | pending (reader : FrameReader) (rest : Bytes)
  | tooLong (rest : Bytes)
  | frame (body rest : Bytes)
deriving DecidableEq

/-- Go on with the bytes of a frame. -/
def resumeBody (len : ℕ) (got input : Bytes) : Outcome :=
  if (got ++ input.take (len - got.length)).length < len then
    .pending (.body len (got ++ input.take (len - got.length))) (input.drop (len - got.length))
  else .frame (got ++ input.take (len - got.length)) (input.drop (len - got.length))

/-- Go on with the bytes that have arrived. Frames of more than `limit` bytes are refused. -/
def resume (limit : ℕ) : FrameReader → Bytes → Outcome
  | length got, input =>
      let word := got ++ input.take (4 - got.length)
      let rest := input.drop (4 - got.length)
      if word.length < 4 then .pending (.length word) rest
      else if ofBE word > limit then .tooLong rest
      else resumeBody (ofBE word) [] rest
  | body len got, input => resumeBody len got input

/-- The outcome is in step with the wire: what is taken, left and still to come are the frames,
    or what is left and to come are those after the one that was read. -/
def Outcome.Sound (later : Bytes) (frames : List Frame) : Outcome → Prop
  | .pending reader rest => reader.Valid ∧ reader.taken ++ rest ++ later = encodeFrames frames
  | .tooLong _ => True
  | .frame bytes rest => ∃ f fs, frames = f :: fs ∧ f.body = bytes ∧
      rest ++ later = encodeFrames fs

theorem take_drop_append (k : ℕ) (got input later : Bytes) :
    got ++ input.take k ++ (input.drop k ++ later) = got ++ input ++ later := by
  rw [List.append_assoc, ← List.append_assoc (input.take k), List.take_append_drop,
    List.append_assoc]

theorem resumeBody_sound {len : ℕ} {got input later : Bytes} {frames : List Frame}
    (hvalid : (body len got).Valid)
    (h : (body len got).taken ++ input ++ later = encodeFrames frames) :
    (resumeBody len got input).Sound later frames := by
  obtain ⟨hlen, hgot⟩ := hvalid
  have hsplit : toBE 4 len ++ (got ++ input.take (len - got.length)) ++
      (input.drop (len - got.length) ++ later) = encodeFrames frames := by
    rw [← h, taken, ← List.append_assoc (toBE 4 len), take_drop_append]
  have hmost : (got ++ input.take (len - got.length)).length ≤ len := by
    rw [List.length_append, List.length_take]
    omega
  unfold resumeBody
  split
  · exact ⟨⟨hlen, hmost⟩, by rw [taken, List.append_assoc, hsplit]⟩
  · next hfull =>
      rw [List.append_assoc] at hsplit
      obtain ⟨f, fs, rfl, hword, hrest⟩ := length_of_encodeFrames (toBE_length 4 len) hsplit
      have hcount := toBE_inj hlen f.fits hword
      obtain ⟨hbody, hrest⟩ := List.append_inj hrest (by omega)
      exact ⟨f, fs, rfl, hbody.symm, hrest⟩

/-- **Resuming a reader.** A reader that is in step with the wire stays so over any piece of it
    that arrives, or has read its next frame and leaves the rest. -/
theorem resume_sound (limit : ℕ) {reader : FrameReader} {input later : Bytes}
    {frames : List Frame} (hvalid : reader.Valid)
    (h : reader.taken ++ input ++ later = encodeFrames frames) :
    (reader.resume limit input).Sound later frames := by
  cases reader with
  | body len got => exact resumeBody_sound hvalid h
  | length got =>
      have hgot : got.length < 4 := hvalid
      have hsplit : (got ++ input.take (4 - got.length)) ++
          (input.drop (4 - got.length) ++ later) = encodeFrames frames := by
        rw [← h, taken, take_drop_append]
      unfold resume
      simp only
      split
      · next hshort => exact ⟨hshort, by rw [taken, List.append_assoc, hsplit]⟩
      · next hfull =>
          have hword : (got ++ input.take (4 - got.length)).length = 4 := by
            rw [List.length_append, List.length_take] at hfull ⊢
            omega
          split
          · exact trivial
          · obtain ⟨f, fs, rfl, hlength, hrest⟩ := length_of_encodeFrames hword hsplit
            rw [hlength, ofBE_toBE 4 _ f.fits]
            refine resumeBody_sound ⟨f.fits, Nat.zero_le _⟩ ?_
            rw [taken, List.append_nil, ← hlength, List.append_assoc, hsplit]

/-- What a new reader has read, when the whole frame has arrived. -/
theorem resume_new_eq_frame {limit : ℕ} {input bytes rest : Bytes}
    (h : new.resume limit input = .frame bytes rest) :
    ¬ input.length < 4 ∧ ¬ ofBE (input.take 4) > limit ∧
      ¬ (input.drop 4).length < ofBE (input.take 4) ∧
      bytes = (input.drop 4).take (ofBE (input.take 4)) ∧
      rest = (input.drop 4).drop (ofBE (input.take 4)) := by
  unfold new resume at h
  simp only [List.nil_append, List.length_nil, Nat.sub_zero] at h
  split at h
  · cases h
  · next hword =>
      split at h
      · cases h
      · next hlimit =>
          unfold resumeBody at h
          simp only [List.nil_append, List.length_nil, Nat.sub_zero] at h
          split at h
          · cases h
          · next hfull =>
              cases h
              rw [List.length_take] at hword hfull
              exact ⟨by omega, hlimit, by omega, rfl, rfl⟩

end FrameReader

/-! ## Frames as messages -/

/-- The bytes of the first frame, when all of it is there. -/
def nextFrame (data : Bytes) : Option (Bytes × Bytes) :=
  if data.length < 4 then none
  else if (data.drop 4).length < ofBE (data.take 4) then none
  else some ((data.drop 4).take (ofBE (data.take 4)), (data.drop 4).drop (ofBE (data.take 4)))

theorem nextFrame_eq_some {data body rest : Bytes} : nextFrame data = some (body, rest) ↔
    4 ≤ data.length ∧ ofBE (data.take 4) ≤ (data.drop 4).length ∧
      (data.drop 4).take (ofBE (data.take 4)) = body ∧
      (data.drop 4).drop (ofBE (data.take 4)) = rest := by
  unfold nextFrame
  split
  · next hword => exact iff_of_false nofun fun h => absurd h.1 (Nat.not_le.mpr hword)
  · next hword =>
      split
      · next hshort => exact iff_of_false nofun fun h => absurd h.2.1 (Nat.not_le.mpr hshort)
      · next hfull =>
          rw [Option.some.injEq, Prod.mk.injEq]
          exact ⟨fun h => ⟨Nat.not_lt.mp hword, Nat.not_lt.mp hfull, h⟩, fun h => h.2.2⟩

/-- A reader of frames of any length. -/
def frames : Delimiter UInt8 Bytes where
  next := nextFrame
  shorter h := by
    obtain ⟨hword, -, -, rfl⟩ := nextFrame_eq_some.mp h
    rw [List.length_drop, List.length_drop]
    omega
  stable h later := by
    obtain ⟨hword, hfull, rfl, rfl⟩ := nextFrame_eq_some.mp h
    refine nextFrame_eq_some.mpr ?_
    rw [List.take_append_of_le_length hword, List.drop_append_of_le_length hword]
    refine ⟨?_, ?_, List.take_append_of_le_length hfull, List.drop_append_of_le_length hfull⟩
    · rw [List.length_append]
      omega
    · rw [List.length_append]
      omega

theorem frames_writes (f : Frame) : frames.Writes f.body f.encode := by
  have hlen := toBE_length 4 f.body.length
  show nextFrame f.encode = some (f.body, [])
  refine nextFrame_eq_some.mpr ?_
  rw [Frame.encode, List.take_left' hlen, List.drop_left' hlen, ofBE_toBE 4 _ f.fits,
    List.length_append, hlen]
  exact ⟨by omega, Nat.le_refl _, List.take_length, List.drop_length⟩

theorem frame_writes {message : Bytes} (h : message.length < 2 ^ 32) :
    frames.Writes message (frame message) := by
  rw [frame_eq_encode ⟨message, h⟩]
  exact frames_writes ⟨message, h⟩

/-! ## Pieces taken for messages -/

section Pieces

variable {μ α : Type} {decode : Bytes → Option α} {encode : μ → Bytes} {size : α → ℕ}

/-- What is read of the pieces is no longer than they are. -/
theorem sum_size_le (pieces : List Bytes)
    (hshort : ∀ p ∈ pieces, ∀ a, decode p = some a → size a ≤ p.length) :
    ((pieces.filterMap decode).map size).sum ≤ (pieces.map List.length).sum := by
  induction pieces with
  | nil => exact Nat.le_refl 0
  | cons p pieces ih =>
      have hrest := ih fun q hq => hshort q (List.mem_cons_of_mem p hq)
      cases hp : decode p with
      | none =>
          rw [List.filterMap_cons_none hp, List.map_cons, List.sum_cons]
          omega
      | some a =>
          have ha := hshort p List.mem_cons_self a hp
          rw [List.filterMap_cons_some hp, List.map_cons, List.map_cons, List.sum_cons,
            List.sum_cons]
          omega

/-- If what is read is as long as the pieces, each piece was read whole. -/
theorem map_length_of_filterMap {pieces : List Bytes} {as : List α}
    (hshort : ∀ p ∈ pieces, ∀ a, decode p = some a → size a ≤ p.length)
    (hne : ∀ p ∈ pieces, p ≠ []) (h : pieces.filterMap decode = as)
    (hsum : (as.map size).sum = (pieces.map List.length).sum) :
    pieces.map List.length = as.map size := by
  subst h
  induction pieces with
  | nil => rfl
  | cons p pieces ih =>
      have hshort' := fun q hq => hshort q (List.mem_cons_of_mem p hq)
      have hrest := sum_size_le pieces hshort'
      cases hp : decode p with
      | none =>
          -- a piece that is not read is missing in the sum
          rw [List.filterMap_cons_none hp, List.map_cons, List.sum_cons] at hsum
          have hpos := List.length_pos_iff.mpr (hne p List.mem_cons_self)
          omega
      | some a =>
          have ha := hshort p List.mem_cons_self a hp
          rw [List.filterMap_cons_some hp, List.map_cons, List.map_cons, List.sum_cons,
            List.sum_cons] at hsum
          rw [List.filterMap_cons_some hp, List.map_cons, List.map_cons,
            ih hshort' (fun q hq => hne q (List.mem_cons_of_mem p hq)) (by omega)]
          congr 1
          omega

/-- **Pieces and messages.** If nothing longer than a piece is read of it, and the messages are
    as long on the stream as they are read, then the messages are read only if each piece is a
    message. -/
theorem pieces_eq_of_filterMap (out : μ → α) (size : α → ℕ) {pieces : List Bytes}
    {messages : List μ}
    (hshort : ∀ p ∈ pieces, ∀ a, decode p = some a → size a ≤ p.length)
    (hsize : ∀ m ∈ messages, (encode m).length = size (out m)) (hne : ∀ p ∈ pieces, p ≠ [])
    (hstream : pieces.flatten = (messages.map encode).flatten)
    (h : pieces.filterMap decode = messages.map out) : pieces = messages.map encode := by
  have hsizes : (messages.map encode).map List.length = (messages.map out).map size := by
    rw [List.map_map, List.map_map]
    exact List.map_congr_left hsize
  have hsum : ((messages.map out).map size).sum = (pieces.map List.length).sum := by
    rw [← hsizes, ← List.length_flatten, ← List.length_flatten, hstream]
  have hlengths := map_length_of_filterMap hshort hne h hsum
  exact List.eq_iff_flatten_eq.mpr ⟨hstream, hlengths.trans hsizes.symm⟩

end Pieces

end ByteCodec
