/-
  The head of an HTTP response.

  A head is a status line and header lines, each ended by CRLF, and a blank line. The lines are
  texts of printable ASCII characters, so none of them holds a line end: `StatusLine` and
  `HeaderLine` carry that with them. `endOfHead` finds the end of the first blank line.

  * `endOfHead_bytes`: in front of any bytes, a head ends where its own blank line does.
  * `endOfHead_cut`: a head that is cut short has no end.
  * `ResponseHead.bytes_length`: the size of a head.
-/
import Mathlib.Data.List.Basic
import Llp.Lib.Bytes

/-- The bytes of an array as a list. -/
theorem ByteArray.toList_eq_data (bs : ByteArray) : bs.toList = bs.data.toList := by
  have hloop : ∀ n i r, bs.size - i = n →
      ByteArray.toList.loop bs i r = r.reverse ++ bs.data.toList.drop i := by
    intro n
    induction n with
    | zero =>
        intro i r hn
        have hlen : bs.data.toList.length ≤ i := by
          rw [Array.length_toList, ByteArray.size_data]
          omega
        rw [ByteArray.toList.loop, if_neg (by omega), List.drop_of_length_le hlen,
          List.append_nil]
    | succ n ih =>
        intro i r hn
        have hi : i < bs.size := by omega
        have hlen : i < bs.data.toList.length := by
          rw [Array.length_toList, ByteArray.size_data]
          exact hi
        rw [ByteArray.toList.loop, if_pos hi, ih (i + 1) _ (by omega),
          List.drop_eq_getElem_cons hlen, List.reverse_cons, List.append_assoc]
        congr 2
        show [bs.data[i]!] ++ _ = _
        rw [getElem!_pos bs.data i hi, Array.getElem_toList]
        rfl
  exact hloop _ 0 [] rfl

namespace Http
open ByteCodec

/-! ## Texts -/

/-- The bytes of a text. -/
def utf8 (s : String) : Bytes := s.toUTF8.toList

theorem utf8_eq (s : String) : utf8 s = s.toByteArray.data.toList :=
  ByteArray.toList_eq_data s.toByteArray

@[simp] theorem utf8_length (s : String) : (utf8 s).length = s.utf8ByteSize := by
  rw [utf8_eq, Array.length_toList, ByteArray.size_data, String.size_toByteArray]

@[simp] theorem utf8_append (s t : String) : utf8 (s ++ t) = utf8 s ++ utf8 t := by
  rw [utf8_eq, utf8_eq, utf8_eq, String.toByteArray_append, ByteArray.toList_data_append]

/-- A printable ASCII character. -/
def isPrintable (c : Char) : Bool := 32 ≤ c.toNat && c.toNat < 127

/-- A text of printable ASCII characters. -/
def Printable (s : String) : Prop := ∀ c ∈ s.toList, isPrintable c = true

instance (s : String) : Decidable (Printable s) := List.decidableBAll _ _

@[simp] theorem printable_append {s t : String} :
    Printable (s ++ t) ↔ Printable s ∧ Printable t := by
  unfold Printable
  rw [String.toList_append]
  exact List.forall_mem_append

@[simp] theorem toString_text (s : String) : toString s = s := rfl

/-- The digits of a number. -/
@[simp] theorem printable_nat (n : ℕ) : Printable n.repr := by
  intro c hc
  rw [Nat.toList_repr] at hc
  have hdigit := Nat.isDigit_of_mem_toDigits (by decide : 0 < 10) (by decide) hc
  rw [Char.isDigit_iff_toNat] at hdigit
  unfold isPrintable
  simp only [Bool.and_eq_true, decide_eq_true_eq]
  have hlow : '0'.toNat = 48 := rfl
  have hhigh : '9'.toNat = 57 := rfl
  omega

theorem utf8Size_of_isPrintable {c : Char} (h : isPrintable c = true) : c.utf8Size = 1 := by
  unfold isPrintable at h
  simp only [Bool.and_eq_true, decide_eq_true_eq] at h
  rw [Char.utf8Size_eq_one_iff, UInt32.le_iff_toNat_le]
  show c.toNat ≤ 127
  omega

/-- The bytes of a printable text are the numbers of its characters. -/
theorem Printable.utf8_eq_map {s : String} (h : Printable s) :
    utf8 s = s.toList.map fun c => c.val.toUInt8 := by
  rw [utf8_eq, ← String.utf8Encode_toList, List.utf8Encode, List.data_toByteArray,
    List.toList_toArray, ← List.flatMap_pure_eq_map]
  exact List.flatMap_congr fun c hc =>
    String.utf8EncodeChar_eq_singleton (utf8Size_of_isPrintable (h c hc))

theorem Printable.utf8ByteSize_eq {s : String} (h : Printable s) :
    s.utf8ByteSize = s.length := by
  rw [← utf8_length, h.utf8_eq_map, List.length_map, String.length_toList]

/-- No line end is in a printable text. -/
theorem Printable.cr_notMem {s : String} (h : Printable s) : (13 : UInt8) ∉ utf8 s := by
  rw [h.utf8_eq_map]
  intro hmem
  obtain ⟨c, hc, hbyte⟩ := List.mem_map.mp hmem
  have hrange := h c hc
  unfold isPrintable at hrange
  simp only [Bool.and_eq_true, decide_eq_true_eq] at hrange
  have hvalue : c.toNat % 256 = (13 : UInt8).toNat := congrArg UInt8.toNat hbyte
  have hthirteen : (13 : UInt8).toNat = 13 := rfl
  omega

theorem utf8_ne_nil {s : String} (h : s ≠ "") : utf8 s ≠ [] := by
  intro hnil
  have hsize : s.utf8ByteSize = 0 := by rw [← utf8_length, hnil, List.length_nil]
  exact h (String.utf8ByteSize_eq_zero_iff.mp hsize)

/-! ## Heads -/

/-- A character of a header name. -/
def isNameChar (c : Char) : Bool := c.isAlphanum || c == '-'

/-- A status line of HTTP/1.1. -/
structure StatusLine where
  code : ℕ
  reason : String
  threeDigits : 100 ≤ code ∧ code < 1000 := by decide
  printable : Printable reason := by decide

def StatusLine.text (self : StatusLine) : String := s!"HTTP/1.1 {self.code} {self.reason}"

/-- A header line. -/
structure HeaderLine where
  name : String
  value : String
  nonempty : name ≠ "" := by decide
  nameChars : name.toList.all isNameChar = true := by decide
  printable : Printable value := by decide

def HeaderLine.text (self : HeaderLine) : String := self.name ++ ": " ++ self.value

/-- The lines of a head, each with its line end, and the blank line. -/
def headBytes (lines : List String) : Bytes :=
  utf8 (String.join (lines.map (· ++ "\r\n")) ++ "\r\n")

/-- The head of a response. -/
structure ResponseHead where
  status : StatusLine
  headers : List HeaderLine

namespace ResponseHead

def lines (self : ResponseHead) : List String :=
  self.status.text :: self.headers.map HeaderLine.text

def bytes (self : ResponseHead) : Bytes := headBytes self.lines

end ResponseHead

theorem crlf_bytes : utf8 "\r\n" = [13, 10] := by
  rw [utf8_eq]
  rfl

theorem headBytes_nil : headBytes [] = [13, 10] := by
  rw [headBytes, List.map_nil, String.join_nil, String.empty_append, crlf_bytes]

theorem headBytes_cons (line : String) (lines : List String) :
    headBytes (line :: lines) = utf8 line ++ [13, 10] ++ headBytes lines := by
  rw [headBytes, List.map_cons, String.join_cons, String.append_assoc, utf8_append, utf8_append,
    crlf_bytes]
  rfl

/-- The size of a head: its lines, and two bytes for each line end. -/
theorem headBytes_length (lines : List String) :
    (headBytes lines).length = (lines.map fun line => line.utf8ByteSize + 2).sum + 2 := by
  induction lines with
  | nil => rw [headBytes_nil]; rfl
  | cons line lines ih =>
      rw [headBytes_cons, List.length_append, List.length_append, utf8_length, ih, List.map_cons,
        List.sum_cons, Nat.add_assoc (line.utf8ByteSize + 2)]
      rfl

/-! ## The end of a head -/

/-- The position behind the first blank line. -/
def endOfHead : Bytes → Option ℕ
  | [] => none
  | b :: rest =>
      if [13, 10, 13, 10] <+: b :: rest then some 4 else (endOfHead rest).map (· + 1)

theorem endOfHead_bounds {data : Bytes} {n : ℕ} (h : endOfHead data = some n) :
    4 ≤ n ∧ n ≤ data.length := by
  induction data generalizing n with
  | nil => cases h
  | cons b rest ih =>
      unfold endOfHead at h
      split at h
      · next hblank =>
          cases h
          exact ⟨Nat.le_refl 4, hblank.length_le⟩
      · obtain ⟨m, hm, rfl⟩ := Option.map_eq_some_iff.mp h
        obtain ⟨hfour, hle⟩ := ih hm
        rw [List.length_cons]
        omega

/-- What follows a head does not move its end. -/
theorem endOfHead_append {data : Bytes} {n : ℕ} (h : endOfHead data = some n) (rest : Bytes) :
    endOfHead (data ++ rest) = some n := by
  induction data generalizing n with
  | nil => cases h
  | cons b data ih =>
      unfold endOfHead at h
      rw [List.cons_append, endOfHead, ← List.cons_append]
      split at h
      · next hblank => rw [if_pos (hblank.trans (List.prefix_append (b :: data) rest)), h]
      · next hblank =>
          obtain ⟨m, hm, rfl⟩ := Option.map_eq_some_iff.mp h
          -- the blank line found later leaves four bytes for one here
          have hroom : 4 ≤ (b :: data).length := by
            have hbounds := endOfHead_bounds hm
            rw [List.length_cons]
            omega
          have hacross : ¬ [13, 10, 13, 10] <+: b :: data ++ rest := fun hacross =>
            hblank (List.prefix_of_prefix_length_le hacross (List.prefix_append _ _) hroom)
          rw [if_neg hacross, ih hm]
          rfl

/-- The bytes of a line are passed over. -/
theorem endOfHead_skip {front : Bytes} (h : (13 : UInt8) ∉ front) (rest : Bytes) :
    endOfHead (front ++ rest) = (endOfHead rest).map (· + front.length) := by
  induction front with
  | nil => simp
  | cons b front ih =>
      have hb : ¬ [13, 10, 13, 10] <+: b :: (front ++ rest) := fun hblank =>
        h (List.mem_cons.mpr (.inl (List.cons_prefix_cons.mp hblank).1))
      rw [List.cons_append, endOfHead, if_neg hb, ih fun hmem => h (List.mem_cons_of_mem b hmem),
        Option.map_map]
      rfl

/-- A line that is no blank line ends without one. -/
theorem endOfHead_line {line rest : Bytes} (hline : (13 : UInt8) ∉ line)
    (hrest : rest.head? ≠ some 13) :
    endOfHead (line ++ [13, 10] ++ rest) = (endOfHead rest).map (· + (line.length + 2)) := by
  have hcr : ¬ [13, 10, 13, 10] <+: 13 :: 10 :: rest := by
    intro hblank
    obtain ⟨tail, rfl⟩ := (List.prefix_append_right_inj [13, 10]).mp hblank
    exact hrest rfl
  have hlf : ¬ [13, 10, 13, 10] <+: 10 :: rest := fun hblank =>
    absurd (List.cons_prefix_cons.mp hblank).1 (by decide)
  have hend : endOfHead ([13, 10] ++ rest) = (endOfHead rest).map (· + 2) := by
    show endOfHead (13 :: 10 :: rest) = _
    rw [endOfHead, if_neg hcr, endOfHead, if_neg hlf, Option.map_map]
    rfl
  rw [List.append_assoc, endOfHead_skip hline, hend, Option.map_map]
  congr 1
  funext n
  show n + 2 + line.length = n + (line.length + 2)
  omega

/-- The lines of a head are not blank. -/
structure Line (line : String) : Prop where
  nonempty : line ≠ ""
  printable : Printable line

/-- **The end of a head.** Lines that are not blank, in front of any bytes, end where the blank
    line behind them does. -/
theorem endOfHead_lines {line : String} {lines : List String} (hlines : ∀ l ∈ line :: lines, Line l)
    (rest : Bytes) :
    endOfHead (headBytes (line :: lines) ++ rest) = some (headBytes (line :: lines)).length := by
  induction lines generalizing line with
  | nil =>
      have hline := (hlines line (List.mem_cons_self ..)).printable.cr_notMem
      have hblank : [13, 10, 13, 10] <+: 13 :: 10 :: 13 :: 10 :: rest := List.prefix_append _ rest
      rw [headBytes_cons, headBytes_nil, List.append_assoc, List.append_assoc, endOfHead_skip hline]
      show (endOfHead (13 :: 10 :: 13 :: 10 :: rest)).map _ = _
      rw [endOfHead, if_pos hblank, Option.map_some, List.length_append, List.length_append,
        Nat.add_comm]
      rfl
  | cons next lines ih =>
      have hline := (hlines line (List.mem_cons_self ..)).printable.cr_notMem
      have hnext := hlines next (List.mem_cons_of_mem _ (List.mem_cons_self ..))
      have hend := @ih next fun l hl => hlines l (List.mem_cons_of_mem _ hl)
      have hhead : (headBytes (next :: lines) ++ rest).head? ≠ some 13 := by
        cases hbytes : utf8 next with
        | nil => exact absurd hbytes (utf8_ne_nil hnext.nonempty)
        | cons b bs =>
            rw [headBytes_cons, hbytes]
            intro hcr
            refine hnext.printable.cr_notMem ?_
            rw [hbytes, Option.some.inj hcr]
            exact List.mem_cons_self ..
      rw [headBytes_cons line, List.append_assoc, endOfHead_line hline hhead, hend, Option.map_some]
      simp only [List.length_append]
      rw [Nat.add_comm]
      rfl

/-- A head that is cut short has no end. -/
theorem endOfHead_prefix {line : String} {lines : List String}
    (hlines : ∀ l ∈ line :: lines, Line l) {data : Bytes} (h : data <+: headBytes (line :: lines))
    (hne : data ≠ headBytes (line :: lines)) : endOfHead data = none := by
  cases hend : endOfHead data with
  | none => rfl
  | some n =>
      -- it would be the end of the whole head, which is behind the data
      have hle := (endOfHead_bounds hend).2
      have hwhole := endOfHead_lines hlines []
      obtain ⟨rest, hrest⟩ := h
      rw [List.append_nil, ← hrest, endOfHead_append hend rest] at hwhole
      rw [Option.some.inj hwhole, List.length_append] at hle
      have hnil : rest = [] := List.length_eq_zero_iff.mp (by omega)
      rw [hnil, List.append_nil] at hrest
      exact absurd hrest hne

/-! ## Response heads -/

theorem isPrintable_of_isNameChar {c : Char} (h : isNameChar c = true) : isPrintable c = true := by
  have hrange : ∀ low high : Char, 32 ≤ low.toNat → high.toNat < 127 →
      c.val ≥ low.val ∧ c.val ≤ high.val → isPrintable c = true := by
    intro low high hlow hhigh hc
    have hge : low.toNat ≤ c.toNat := UInt32.le_iff_toNat_le.mp hc.1
    have hle : c.toNat ≤ high.toNat := UInt32.le_iff_toNat_le.mp hc.2
    unfold isPrintable
    simp only [Bool.and_eq_true, decide_eq_true_eq]
    omega
  have hclasses : isNameChar c = (decide (c.val ≥ 'A'.val ∧ c.val ≤ 'Z'.val) ||
      (decide (c.val ≥ 'a'.val) && decide (c.val ≤ 'z'.val)) ||
      (decide (c.val ≥ '0'.val) && decide (c.val ≤ '9'.val)) || c == '-') := rfl
  rw [hclasses] at h
  simp only [Bool.or_eq_true, beq_iff_eq, Bool.and_eq_true, decide_eq_true_eq] at h
  rcases h with ((hupper | hlower) | hdigit) | rfl
  · exact hrange 'A' 'Z' (by decide) (by decide) hupper
  · exact hrange 'a' 'z' (by decide) (by decide) hlower
  · exact hrange '0' '9' (by decide) (by decide) hdigit
  · rfl

theorem StatusLine.text_line (self : StatusLine) : Line self.text where
  nonempty h := by
    have hlen := congrArg String.length h
    simp [StatusLine.text] at hlen
  printable := by
    have hwords : Printable "HTTP/1.1 " ∧ Printable " " := by decide
    exact printable_append.mpr ⟨printable_append.mpr ⟨printable_append.mpr ⟨hwords.1,
      printable_nat _⟩, hwords.2⟩, self.printable⟩

theorem HeaderLine.text_line (self : HeaderLine) : Line self.text where
  nonempty h := by
    have hlen := congrArg String.length h
    simp [HeaderLine.text] at hlen
  printable := by
    have hname : Printable self.name := fun c hc =>
      isPrintable_of_isNameChar (List.all_eq_true.mp self.nameChars c hc)
    have hcolon : Printable ": " := by decide
    exact printable_append.mpr ⟨printable_append.mpr ⟨hname, hcolon⟩, self.printable⟩

namespace ResponseHead

theorem lines_line (self : ResponseHead) : ∀ l ∈ self.lines, Line l := by
  intro l hl
  rcases List.mem_cons.mp hl with rfl | hheader
  · exact self.status.text_line
  · obtain ⟨header, -, rfl⟩ := List.mem_map.mp hheader
    exact header.text_line

theorem endOfHead_bytes (self : ResponseHead) (rest : Bytes) :
    endOfHead (self.bytes ++ rest) = some self.bytes.length :=
  endOfHead_lines self.lines_line rest

theorem endOfHead_cut (self : ResponseHead) {data : Bytes} (h : data <+: self.bytes)
    (hne : data ≠ self.bytes) : endOfHead data = none :=
  endOfHead_prefix self.lines_line h hne

/-- The size of a head: the names, the values and the reason, and what is around them. -/
theorem bytes_length (self : ResponseHead) :
    self.bytes.length = 17 + self.status.reason.toList.length +
      (self.headers.map fun h => h.name.toList.length + h.value.toList.length + 4).sum := by
  have hstatus : self.status.text.utf8ByteSize = 13 + self.status.reason.toList.length := by
    have hcode : self.status.code.repr.length = 3 := by
      have hle := (Nat.length_repr_le_iff (n := self.status.code) (k := 3) (by decide)).mpr
        self.status.threeDigits.2
      have hgt := mt (Nat.length_repr_le_iff (n := self.status.code) (k := 2) (by decide)).mp
        (Nat.not_lt.mpr self.status.threeDigits.1)
      omega
    have hword : "HTTP/1.1 ".length = 9 ∧ " ".length = 1 := ⟨rfl, rfl⟩
    rw [self.status.text_line.printable.utf8ByteSize_eq, StatusLine.text, String.length_toList]
    simp [hcode, hword]
  have hheader : ∀ h : HeaderLine,
      h.text.utf8ByteSize + 2 = h.name.toList.length + h.value.toList.length + 4 := by
    intro h
    have hcolon : ": ".length = 2 := rfl
    rw [h.text_line.printable.utf8ByteSize_eq, HeaderLine.text, String.length_append,
      String.length_append, String.length_toList, String.length_toList, hcolon]
    omega
  rw [bytes, lines, headBytes_length, List.map_cons, List.sum_cons, List.map_map, hstatus]
  have hsum : (fun line : String => line.utf8ByteSize + 2) ∘ HeaderLine.text =
      fun h => h.name.toList.length + h.value.toList.length + 4 := funext hheader
  rw [hsum]
  omega

end ResponseHead

end Http
