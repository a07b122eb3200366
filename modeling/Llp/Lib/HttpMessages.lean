/-
  HTTP messages on a stream.

  A request head is a request line and header lines; it ends as a response head does. A reader
  of responses goes by `Content-Length`: the head ends at its blank line, and as many bytes as the
  first `Content-Length` line says are the body.

  * `RequestHead.endOfHead_bytes`, `RequestHead.endOfHead_cut`: where the head of a request ends.
  * `responses_writes`: a head that tells the length of the body behind it is read with it.
-/
import Llp.Lib.Delimited
import Llp.Lib.Http

namespace Http
open ByteCodec

/-! ## Request heads -/

/-- A character of a request target. -/
def isVisible (c : Char) : Bool := 33 ≤ c.toNat && c.toNat < 127

/-- A text of visible ASCII characters. -/
def Visible (s : String) : Prop := ∀ c ∈ s.toList, isVisible c = true

instance (s : String) : Decidable (Visible s) := List.decidableBAll _ _

@[simp] theorem visible_append {s t : String} : Visible (s ++ t) ↔ Visible s ∧ Visible t := by
  unfold Visible
  rw [String.toList_append]
  exact List.forall_mem_append

@[simp] theorem visible_nat (n : ℕ) : Visible n.repr := by
  intro c hc
  rw [Nat.toList_repr] at hc
  have hdigit := Nat.isDigit_of_mem_toDigits (by decide : 0 < 10) (by decide) hc
  rw [Char.isDigit_iff_toNat] at hdigit
  unfold isVisible
  simp only [Bool.and_eq_true, decide_eq_true_eq]
  have hlow : '0'.toNat = 48 := rfl
  have hhigh : '9'.toNat = 57 := rfl
  omega

theorem Visible.printable {s : String} (h : Visible s) : Printable s := by
  intro c hc
  have hrange := h c hc
  unfold isVisible at hrange
  unfold isPrintable
  simp only [Bool.and_eq_true, decide_eq_true_eq] at hrange ⊢
  omega

/-- A header name. -/
def isName (name : String) : Bool := name != "" && name.toList.all isNameChar

/-- A header whose name is written out. -/
def HeaderLine.named (name value : String) (printable : Printable value)
    (h : isName name = true := by decide) : HeaderLine where
  name := name
  value := value
  nonempty := bne_iff_ne.mp (Bool.and_eq_true_iff.mp h).1
  nameChars := (Bool.and_eq_true_iff.mp h).2
  printable := printable

/-- A header that is written out. -/
def HeaderLine.literal (name value : String)
    (h : (isName name && value.toList.all isPrintable) = true := by decide) : HeaderLine :=
  .named name value (List.all_eq_true.mp (Bool.and_eq_true_iff.mp h).2)
    (Bool.and_eq_true_iff.mp h).1

/-- A request line of HTTP/1.1. -/
structure RequestLine where
  method : String
  target : String
  nonempty : method ≠ "" ∧ target ≠ ""
  methodChars : method.toList.all isNameChar = true
  targetChars : Visible target

def RequestLine.text (self : RequestLine) : String := s!"{self.method} {self.target} HTTP/1.1"

theorem RequestLine.text_line (self : RequestLine) : Line self.text where
  nonempty h := by
    have hlen := congrArg String.length h
    simp [RequestLine.text] at hlen
  printable := by
    have hmethod : Printable self.method := fun c hc =>
      isPrintable_of_isNameChar (List.all_eq_true.mp self.methodChars c hc)
    have hwords : Printable " " ∧ Printable " HTTP/1.1" := by decide
    exact printable_append.mpr ⟨printable_append.mpr ⟨printable_append.mpr ⟨hmethod, hwords.1⟩,
      self.targetChars.printable⟩, hwords.2⟩

/-- The head of a request. -/
structure RequestHead where
  line : RequestLine
  headers : List HeaderLine

namespace RequestHead

def lines (self : RequestHead) : List String :=
  self.line.text :: self.headers.map HeaderLine.text

def bytes (self : RequestHead) : Bytes := headBytes self.lines

theorem lines_line (self : RequestHead) : ∀ l ∈ self.lines, Line l := by
  intro l hl
  rcases List.mem_cons.mp hl with rfl | hheader
  · exact self.line.text_line
  · obtain ⟨header, -, rfl⟩ := List.mem_map.mp hheader
    exact header.text_line

theorem endOfHead_bytes (self : RequestHead) (rest : Bytes) :
    endOfHead (self.bytes ++ rest) = some self.bytes.length :=
  endOfHead_lines self.lines_line rest

theorem endOfHead_cut (self : RequestHead) {data : Bytes} (h : data <+: self.bytes)
    (hne : data ≠ self.bytes) : endOfHead data = none :=
  endOfHead_prefix self.lines_line h hne

end RequestHead

/-! ## Header fields -/

/-- What follows the first line end with the given bytes behind it. -/
def afterField (field : Bytes) : Bytes → Option Bytes
  | [] => none
  | b :: rest =>
      if 13 :: 10 :: field <+: b :: rest then some (rest.drop (field.length + 1))
      else afterField field rest

theorem afterField_skip {front : Bytes} (h : (13 : UInt8) ∉ front) (field rest : Bytes) :
    afterField field (front ++ rest) = afterField field rest := by
  induction front with
  | nil => rfl
  | cons b front ih =>
      have hb : ¬ 13 :: 10 :: field <+: b :: (front ++ rest) := fun hfield =>
        h (List.mem_cons.mpr (.inl (List.cons_prefix_cons.mp hfield).1))
      rw [List.cons_append, afterField, if_neg hb, ih fun hmem => h (List.mem_cons_of_mem b hmem)]

/-- The line behind a line end begins with the field, or the field comes later. -/
theorem afterField_line (field rest : Bytes) : afterField field (13 :: 10 :: rest) =
    if field <+: rest then some (rest.drop field.length) else afterField field rest := by
  have hlf : ¬ 13 :: 10 :: field <+: 10 :: rest := fun hfield =>
    absurd (List.cons_prefix_cons.mp hfield).1 (by decide)
  have hcrlf : 13 :: 10 :: field <+: 13 :: 10 :: rest ↔ field <+: rest :=
    List.prefix_append_right_inj [13, 10]
  rw [afterField, afterField, if_neg hlf]
  simp only [hcrlf]
  rfl

theorem utf8_injective : Function.Injective utf8 := by
  intro s t h
  rw [utf8_eq, utf8_eq] at h
  exact String.toByteArray_inj.mp (ByteArray.ext (Array.toList_inj.mp h))

/-- The bytes in front of the value of a header. -/
def fieldName (name : String) : Bytes := utf8 name ++ [58, 32]

/-- No colon is in a header name. -/
theorem HeaderLine.colon_notMem (self : HeaderLine) : (58 : UInt8) ∉ utf8 self.name := by
  have hname : Printable self.name := fun c hc =>
    isPrintable_of_isNameChar (List.all_eq_true.mp self.nameChars c hc)
  rw [hname.utf8_eq_map]
  intro hmem
  obtain ⟨c, hc, hbyte⟩ := List.mem_map.mp hmem
  have hchar := List.all_eq_true.mp self.nameChars c hc
  have hrange := hname c hc
  unfold isPrintable at hrange
  simp only [Bool.and_eq_true, decide_eq_true_eq] at hrange
  have hvalue : c.toNat % 256 = 58 := congrArg UInt8.toNat hbyte
  have hcolon : c = ':' := Char.toNat_inj.mp (by rw [show c.toNat = 58 by omega]; rfl)
  rw [hcolon] at hchar
  exact absurd hchar (by decide)

theorem HeaderLine.utf8_text (self : HeaderLine) :
    utf8 self.text = fieldName self.name ++ utf8 self.value := by
  have hcolon : utf8 ": " = [58, 32] := by
    rw [utf8_eq]
    rfl
  rw [HeaderLine.text, utf8_append, utf8_append, hcolon, fieldName]

/-- A header line begins with the name of another header only if the names are the same. -/
theorem HeaderLine.name_of_prefix {self other : HeaderLine} {rest : Bytes}
    (h : fieldName other.name <+: utf8 self.text ++ rest) : other.name = self.name := by
  obtain ⟨tail, htail⟩ := h
  rw [HeaderLine.utf8_text, fieldName, fieldName] at htail
  simp only [List.append_assoc, List.cons_append, List.nil_append] at htail
  have hname : ∀ (header : HeaderLine) (t : Bytes),
      (utf8 header.name ++ 58 :: t).takeWhile (· ≠ 58) = utf8 header.name := by
    intro header t
    have hall : ∀ b ∈ utf8 header.name, decide (b ≠ 58) = true := by
      intro b hb
      rw [decide_eq_true_eq]
      exact fun hcolon => header.colon_notMem (hcolon ▸ hb)
    rw [List.takeWhile_append_of_pos hall, List.takeWhile_cons_of_neg (by decide), List.append_nil]
  have hboth := congrArg (List.takeWhile (· ≠ 58)) htail
  rw [hname, hname] at hboth
  exact utf8_injective hboth

/-- The value of the first header of the given name. -/
def ResponseHead.field (self : ResponseHead) (name : String) : Option String :=
  (self.headers.find? (·.name == name)).map HeaderLine.value

/-- In the bytes of a head, the value of a header stands behind its name. -/
theorem ResponseHead.afterField_bytes {self : ResponseHead} {other : HeaderLine} {value : String}
    (h : self.field other.name = some value) (rest : Bytes) :
    ∃ tail, afterField (fieldName other.name) (self.bytes ++ rest) =
      some (utf8 value ++ 13 :: 10 :: tail) := by
  have hheaders : ∀ headers : List HeaderLine,
      (headers.find? (·.name == other.name)).map HeaderLine.value = some value →
      ∃ tail, afterField (fieldName other.name)
        (13 :: 10 :: (headBytes (headers.map HeaderLine.text) ++ rest)) =
          some (utf8 value ++ 13 :: 10 :: tail) := by
    intro headers
    induction headers with
    | nil => exact nofun
    | cons header headers ih =>
        intro hfind
        rw [List.map_cons, headBytes_cons, List.append_assoc, List.append_assoc, afterField_line]
        rw [List.find?_cons] at hfind
        split at hfind
        · next hsame =>
            cases hfind
            have hname : header.name = other.name := eq_of_beq hsame
            rw [header.utf8_text, hname, List.append_assoc, if_pos (List.prefix_append _ _),
              List.drop_left]
            exact ⟨_, rfl⟩
        · next hdiff =>
            have hprefix : ¬ fieldName other.name <+: utf8 header.text ++
                ([13, 10] ++ (headBytes (headers.map HeaderLine.text) ++ rest)) := by
              intro hprefix
              rw [HeaderLine.name_of_prefix hprefix, beq_self_eq_true] at hdiff
              cases hdiff
            rw [if_neg hprefix, afterField_skip header.text_line.printable.cr_notMem]
            exact ih hfind
  rw [bytes, lines, headBytes_cons, List.append_assoc, List.append_assoc,
    afterField_skip self.status.text_line.printable.cr_notMem]
  exact hheaders self.headers h

/-! ## Numbers -/

/-- A decimal digit. -/
def isDigit (b : UInt8) : Bool := 48 ≤ b.toNat && b.toNat ≤ 57

/-- The number that stands in front of a line end. -/
def decimal (data : Bytes) : Option ℕ :=
  match data.takeWhile isDigit, data.dropWhile isDigit with
  | d :: ds, 13 :: _ => some (Nat.ofDigitChars 10 ((d :: ds).map fun b => Char.ofNat b.toNat) 0)
  | _, _ => none

theorem decimal_repr (n : ℕ) (tail : Bytes) : decimal (utf8 n.repr ++ 13 :: tail) = some n := by
  have hdigits : ∀ c ∈ Nat.toDigits 10 n, 48 ≤ c.toNat ∧ c.toNat ≤ 57 := by
    intro c hc
    have hdigit := Nat.isDigit_of_mem_toDigits (by decide : 0 < 10) (by decide) hc
    rw [Char.isDigit_iff_toNat] at hdigit
    exact hdigit
  have hvalue : ∀ c ∈ Nat.toDigits 10 n, c.val.toUInt8.toNat = c.toNat := by
    intro c hc
    have hrange := hdigits c hc
    show c.toNat % 256 = c.toNat
    omega
  have hbytes : utf8 n.repr = (Nat.toDigits 10 n).map fun c => c.val.toUInt8 := by
    rw [(printable_nat n).utf8_eq_map, Nat.toList_repr]
  have hall : ∀ b ∈ utf8 n.repr, isDigit b = true := by
    intro b hb
    rw [hbytes] at hb
    obtain ⟨c, hc, rfl⟩ := List.mem_map.mp hb
    have hrange := hdigits c hc
    unfold isDigit
    rw [hvalue c hc]
    simp only [Bool.and_eq_true, decide_eq_true_eq]
    exact hrange
  have hchars : (utf8 n.repr).map (fun b => Char.ofNat b.toNat) = Nat.toDigits 10 n := by
    rw [hbytes, List.map_map]
    refine (List.map_congr_left fun c hc => ?_).trans (List.map_id _)
    show Char.ofNat c.val.toUInt8.toNat = c
    rw [hvalue c hc, Char.ofNat_toNat]
  unfold decimal
  rw [List.takeWhile_append_of_pos hall, List.dropWhile_append_of_pos hall,
    List.takeWhile_cons_of_neg (by decide), List.dropWhile_cons_of_neg (by decide),
    List.append_nil]
  cases hcase : utf8 n.repr with
  | nil =>
      rw [hcase, List.map_nil] at hchars
      exact absurd hchars.symm Nat.toDigits_ne_nil
  | cons d ds =>
      rw [hcase] at hchars
      simp only [hchars, Nat.ofDigitChars_ten_toDigits]

/-! ## Responses on a stream -/

/-- The name of the header that tells the length of the body. -/
def contentLengthName : String := "Content-Length"

/-- The length of the body behind a head. -/
def contentLength (head : Bytes) : Option ℕ :=
  (afterField (fieldName contentLengthName) head).bind decimal

/-- The body of the first response, when all of it is there. -/
def nextBody (data : Bytes) : Option (Bytes × Bytes) :=
  match endOfHead data with
  | none => none
  | some size =>
      match contentLength (data.take size) with
      | none => none
      | some length =>
          if (data.drop size).length < length then none
          else some ((data.drop size).take length, (data.drop size).drop length)

theorem nextBody_eq_some {data body rest : Bytes} : nextBody data = some (body, rest) ↔
    ∃ size length, endOfHead data = some size ∧ contentLength (data.take size) = some length ∧
      length ≤ (data.drop size).length ∧ (data.drop size).take length = body ∧
      (data.drop size).drop length = rest := by
  constructor
  · intro h
    unfold nextBody at h
    split at h
    · cases h
    · next size hsize =>
        split at h
        · cases h
        · next length hlength =>
            split at h
            · cases h
            · next hfull =>
                cases h
                exact ⟨size, length, hsize, hlength, Nat.not_lt.mp hfull, rfl, rfl⟩
  · rintro ⟨size, length, hsize, hlength, hfull, rfl, rfl⟩
    unfold nextBody
    simp only [hsize, hlength]
    rw [if_neg (Nat.not_lt.mpr hfull)]

/-- A reader of responses. -/
def responses : Delimiter UInt8 Bytes where
  next := nextBody
  shorter h := by
    obtain ⟨size, length, hsize, -, -, -, rfl⟩ := nextBody_eq_some.mp h
    have hbounds := endOfHead_bounds hsize
    rw [List.length_drop, List.length_drop]
    omega
  stable h later := by
    obtain ⟨size, length, hsize, hlength, hfull, rfl, rfl⟩ := nextBody_eq_some.mp h
    have hbounds := endOfHead_bounds hsize
    refine nextBody_eq_some.mpr ⟨size, length, endOfHead_append hsize later, ?_, ?_, ?_, ?_⟩
    · rw [List.take_append_of_le_length hbounds.2]
      exact hlength
    · rw [List.drop_append_of_le_length hbounds.2, List.length_append]
      omega
    · rw [List.drop_append_of_le_length hbounds.2, List.take_append_of_le_length hfull]
    · rw [List.drop_append_of_le_length hbounds.2, List.drop_append_of_le_length hfull]

/-- **A response that tells its length.** A head and the body behind it, of the length the head
    tells, are read as that body. -/
theorem responses_writes {head : ResponseHead} {body : Bytes}
    (h : head.field contentLengthName = some body.length.repr) :
    responses.Writes body (head.bytes ++ body) := by
  have hname : contentLengthName = (HeaderLine.mk contentLengthName "").name := rfl
  rw [hname] at h
  obtain ⟨tail, hfield⟩ := head.afterField_bytes h []
  rw [List.append_nil] at hfield
  have hlength : contentLength head.bytes = some body.length := by
    show (afterField _ head.bytes).bind decimal = _
    rw [hfield]
    exact decimal_repr _ _
  refine nextBody_eq_some.mpr ⟨head.bytes.length, body.length, head.endOfHead_bytes body, ?_, ?_⟩
  · rw [List.take_left]
    exact hlength
  · rw [List.drop_left]
    exact ⟨Nat.le_refl _, List.take_length, List.drop_length⟩

end Http
