import Mathlib.Data.List.DropRight
import ClientGen.Document.Reader

/-!
# Spans of faults

A fault is placed by its line and by the bytes of that line that were read. The place goes back to
the number of all bytes read: it is shown at the last of them, or, when the line has only begun, at
the byte behind. No span leaves the text, whatever place it is made for.
-/

namespace ClientGen.Proofs

def newlineByte : UInt8 := 10

def encode (cs : List Char) : List UInt8 := cs.flatMap String.utf8EncodeChar

def bytesOf (text : String) : List UInt8 := text.toByteArray.data.toList

/-- The place reached once some bytes are read: every newline begins a line, and the column counts
the bytes behind the last one. -/
def placeAfter (read : List UInt8) : Json.Place :=
  ⟨1 + read.count newlineByte, (read.rtakeWhile (· != newlineByte)).length⟩

/-- The place of a number of bytes read leads back to them: the reader gives this place, the offset
is that of the last byte, which stands on the line of the place, or of the byte behind if the line
has only begun. -/
structure LeadsBack (text : String) (read : Nat) (place : Json.Place) : Prop where
  reached : Json.Place.start.advance? read text.toList = some place
  offset : Span.offsetOf text.toList place.line place.column =
    some (if place.column = 0 then read else read - 1)
  line : place.column ≠ 0 → (placeAfter ((bytesOf text).take (read - 1))).line = place.line

/-- One byte, or none at the end of the text. -/
def Fits (text : String) (span : Span) : Prop :=
  span.offset + span.length ≤ (bytesOf text).length ∧
    span.length = if span.offset = (bytesOf text).length then 0 else 1

variable {cs : List Char} {ch : Char} {bs : List UInt8} {text : String}

/-! ### Bytes of characters -/

lemma bytesOf_eq (text : String) : bytesOf text = encode text.toList := by
  rw [bytesOf, ← String.utf8Encode_toList, List.utf8Encode, List.data_toByteArray, encode]

lemma encode_cons (ch : Char) (cs : List Char) :
    encode (ch :: cs) = String.utf8EncodeChar ch ++ encode cs := List.flatMap_cons

lemma length_encode (cs : List Char) : (encode cs).length = Span.byteSize cs := by
  induction cs with
  | nil => rfl
  | cons ch rest ih =>
    rw [encode_cons, List.length_append, String.length_utf8EncodeChar, ih]
    rfl

/-- A character of ASCII is its own byte; no byte of another one is in ASCII. -/
lemma byte_cases {b : UInt8} (h : b ∈ String.utf8EncodeChar ch) :
    b.toNat = ch.val.toNat ∨ 128 ≤ b.toNat := by
  simp only [String.utf8EncodeChar] at h
  split_ifs at h <;> simp only [List.mem_cons, List.not_mem_nil, or_false] at h
  · rw [h, UInt8.toNat_ofNat']
    omega
  · rcases h with rfl | rfl <;> rw [UInt8.toNat_ofNat'] <;> omega
  · rcases h with rfl | rfl | rfl <;> rw [UInt8.toNat_ofNat'] <;> omega
  · rcases h with rfl | rfl | rfl | rfl <;> rw [UInt8.toNat_ofNat'] <;> omega

lemma newlineByte_notMem (h : ch ≠ '\n') : newlineByte ∉ String.utf8EncodeChar ch := by
  intro hmem
  have hbyte : newlineByte.toNat = 10 := rfl
  rcases byte_cases hmem with hchar | hhigh
  · apply h
    rw [Char.ext_iff, ← UInt32.toNat_inj, ← hchar]
    rfl
  · omega

/-! ### Places -/

lemma placeAfter_newline (read : List UInt8) :
    placeAfter (read ++ [newlineByte]) = (placeAfter read).newLine := by
  have hcolumn : (read ++ [newlineByte]).rtakeWhile (· != newlineByte) = [] :=
    List.rtakeWhile_concat_neg _ _ _ (by decide)
  have hline : (read ++ [newlineByte]).count newlineByte = read.count newlineByte + 1 := by
    rw [List.count_append, List.count_singleton_self]
  rw [placeAfter, hcolumn, hline, ← Nat.add_assoc]
  rfl

/-- Bytes without a newline stay on the line. -/
lemma placeAfter_append (read : List UInt8) (h : newlineByte ∉ bs) :
    placeAfter (read ++ bs) = ⟨(placeAfter read).line, (placeAfter read).column + bs.length⟩ := by
  have hpass : ∀ b ∈ bs.reverse, (b != newlineByte) = true :=
    fun b hb => bne_iff_ne.2 (ne_of_mem_of_not_mem (List.mem_reverse.1 hb) h)
  have hcolumn : (read ++ bs).rtakeWhile (· != newlineByte) =
      read.rtakeWhile (· != newlineByte) ++ bs := by
    unfold List.rtakeWhile
    rw [List.reverse_append, List.takeWhile_append_of_pos hpass, List.reverse_append,
      List.reverse_reverse]
  rw [placeAfter, hcolumn, List.count_append, List.count_eq_zero.2 h, List.length_append]
  rfl

lemma after_placeAfter (read : List UInt8) (ch : Char) :
    (placeAfter read).after ch = placeAfter (read ++ String.utf8EncodeChar ch) := by
  by_cases h : ch = '\n'
  · subst h
    exact (placeAfter_newline read).symm
  · rw [placeAfter_append read (newlineByte_notMem h), String.length_utf8EncodeChar, Json.Place.after,
      if_neg (mt beq_iff_eq.1 h)]

/-- The reader places its faults by the bytes that it has read, inside a character too. -/
lemma advance?_placeAfter (read : List UInt8) {count : Nat} (h : count ≤ (encode cs).length) :
    (placeAfter read).advance? count cs = some (placeAfter (read ++ (encode cs).take count)) := by
  induction cs generalizing read count with
  | nil =>
    obtain rfl := Nat.le_zero.1 h
    rw [List.take_zero, List.append_nil]
    rfl
  | cons ch rest ih =>
    rw [encode_cons, List.length_append, String.length_utf8EncodeChar] at h
    rw [encode_cons, List.take_append, String.length_utf8EncodeChar, Json.Place.advance?]
    by_cases hzero : count = 0
    · subst hzero
      simp
    · rw [if_neg (mt beq_iff_eq.1 hzero)]
      split_ifs with hwhole
      · have hchar : (String.utf8EncodeChar ch).take count = String.utf8EncodeChar ch :=
          List.take_of_length_le (by rwa [String.length_utf8EncodeChar])
        rw [after_placeAfter, ih _ (by omega), hchar, List.append_assoc]
      · have hline : ch ≠ '\n' := by
          rintro rfl
          have hone : Char.utf8Size '\n' = 1 := rfl
          omega
        have hnone : newlineByte ∉ (String.utf8EncodeChar ch).take count :=
          fun hmem => newlineByte_notMem hline (List.mem_of_mem_take hmem)
        have hcount : ((String.utf8EncodeChar ch).take count).length = count := by
          rw [List.length_take, String.length_utf8EncodeChar]
          omega
        rw [Nat.sub_eq_zero_of_le (by omega), List.take_zero, List.append_nil,
          placeAfter_append read hnone, hcount]

/-! ### Offsets -/

/-- Bytes that end with a line hold each character whole that they reach into. -/
lemma exists_more {head rest : List UInt8}
    (hcs : String.utf8EncodeChar ch ++ encode cs = head ++ rest) (hne : head ≠ [])
    (hend : head.getLast hne = newlineByte) :
    ∃ more, head = String.utf8EncodeChar ch ++ more ∧ encode cs = more ++ rest := by
  rcases List.append_eq_append_iff.1 hcs with h | ⟨more, hchar, hrest⟩
  · exact h
  · have hmem : newlineByte ∈ String.utf8EncodeChar ch := by
      rw [hchar, ← hend]
      exact List.mem_append_left _ (List.getLast_mem hne)
    obtain rfl : ch = '\n' := by
      by_contra hch
      exact newlineByte_notMem hch hmem
    have hlength := congrArg List.length hchar
    have hpos := List.length_pos_iff.2 hne
    have hone : (String.utf8EncodeChar '\n').length = 1 := rfl
    rw [List.length_append] at hlength
    obtain rfl : more = [] := List.length_eq_zero_iff.1 (by omega)
    exact ⟨[], by rw [hchar, List.append_nil, List.append_nil], hrest.symm⟩

/-- The lines that some bytes end are those bytes, if they end with a line. -/
lemma lineStart_count {head rest : List UInt8} (hcs : encode cs = head ++ rest)
    (hend : ∀ hne : head ≠ [], head.getLast hne = newlineByte) :
    Span.lineStart (head.count newlineByte) cs = head.length := by
  induction cs generalizing head with
  | nil =>
    obtain ⟨rfl, -⟩ := List.append_eq_nil_iff.1 hcs.symm
    rfl
  | cons ch cs ih =>
    by_cases hhead : head = []
    · subst hhead
      rfl
    rw [encode_cons] at hcs
    obtain ⟨more, rfl, hmore⟩ := exists_more hcs hhead (hend hhead)
    have hlast : ∀ hne : more ≠ [], more.getLast hne = newlineByte := by
      intro hne
      rw [← hend hhead, List.getLast_append_of_ne_nil]
    rw [List.length_append, String.length_utf8EncodeChar, ← ih hmore hlast]
    by_cases hch : ch = '\n'
    · subst hch
      have hcount : (String.utf8EncodeChar '\n' ++ more).count newlineByte =
          more.count newlineByte + 1 := List.count_cons_self
      rw [hcount]
      rfl
    · have hnone := newlineByte_notMem hch
      have hne : more ≠ [] := by
        rintro rfl
        rw [List.append_nil] at hhead hend
        exact hnone (hend hhead ▸ List.getLast_mem hhead)
      obtain ⟨count, hcount⟩ : ∃ count, more.count newlineByte = count + 1 := by
        refine Nat.exists_eq_add_one.2 (List.count_pos_iff.2 ?_)
        exact hlast hne ▸ List.getLast_mem hne
      rw [List.count_append, List.count_eq_zero.2 hnone, Nat.zero_add, hcount, Span.lineStart,
        if_neg (mt beq_iff_eq.1 hch)]

/-- What was read goes up to the beginning of the line of its place, and on by the column. -/
lemma lineStart_placeAfter {read rest : List UInt8} (hcs : encode cs = read ++ rest) :
    Span.lineStart ((placeAfter read).line - 1) cs + (placeAfter read).column = read.length := by
  have hsplit := List.rdropWhile_append_rtakeWhile (p := (· != newlineByte)) (l := read)
  have hcount : (read.rdropWhile (· != newlineByte)).count newlineByte =
      read.count newlineByte := by
    have hline : (read.rtakeWhile (· != newlineByte)).count newlineByte = 0 := by
      rw [List.count_eq_zero]
      intro hmem
      exact absurd (List.mem_rtakeWhile_imp hmem) (by decide)
    conv_rhs => rw [← hsplit]
    rw [List.count_append, hline, Nat.add_zero]
  have hend : ∀ hne : read.rdropWhile (· != newlineByte) ≠ [],
      (read.rdropWhile (· != newlineByte)).getLast hne = newlineByte := by
    intro hne
    simpa using List.rdropWhile_last_not _ _ hne
  have hlines : encode cs = read.rdropWhile (· != newlineByte) ++
      (read.rtakeWhile (· != newlineByte) ++ rest) := by
    rw [← List.append_assoc, hsplit, hcs]
  have hline : (placeAfter read).line - 1 = read.count newlineByte :=
    Nat.add_sub_cancel_left ..
  have hlength := congrArg List.length hsplit
  rw [List.length_append] at hlength
  rw [hline, ← hcount, lineStart_count hlines hend]
  exact hlength

/-- The byte read last stands on the line of the place, unless it ended a line. -/
lemma line_placeAfter_concat {read : List UInt8} {b : UInt8}
    (h : (placeAfter (read ++ [b])).column ≠ 0) :
    (placeAfter read).line = (placeAfter (read ++ [b])).line := by
  by_cases hb : b = newlineByte
  · subst hb
    rw [placeAfter_newline] at h
    exact absurd rfl h
  · have hnone : newlineByte ∉ [b] := by simpa using Ne.symm hb
    rw [placeAfter_append read hnone]

lemma line_placeAfter_take {i : Nat} (hi : i ≤ bs.length)
    (h : (placeAfter (bs.take i)).column ≠ 0) :
    (placeAfter (bs.take (i - 1))).line = (placeAfter (bs.take i)).line := by
  cases i with
  | zero => exact absurd rfl h
  | succ i =>
    rw [List.take_succ_eq_append_getElem hi] at h ⊢
    exact line_placeAfter_concat h

lemma offsetOf_placeAfter {i : Nat} (hi : i ≤ (bytesOf text).length) :
    Span.offsetOf text.toList (placeAfter ((bytesOf text).take i)).line
        (placeAfter ((bytesOf text).take i)).column =
      some (if (placeAfter ((bytesOf text).take i)).column = 0 then i else i - 1) := by
  have hread : encode text.toList = (bytesOf text).take i ++ (bytesOf text).drop i := by
    rw [List.take_append_drop, bytesOf_eq]
  have hoffset := lineStart_placeAfter hread
  have hline : ((placeAfter ((bytesOf text).take i)).line == 0) = false := by
    simp [placeAfter]
  rw [List.length_take_of_le hi] at hoffset
  rw [Span.offsetOf, if_neg (by simp [hline]), ← length_encode, ← bytesOf_eq, Option.some.injEq]
  split_ifs <;> omega

lemma leadsBack_placeAfter {i : Nat} (hi : i ≤ (bytesOf text).length) :
    LeadsBack text i (placeAfter ((bytesOf text).take i)) where
  reached := by
    rw [bytesOf_eq] at hi ⊢
    exact advance?_placeAfter [] hi
  offset := offsetOf_placeAfter hi
  line := line_placeAfter_take hi

/-! ### Spans -/

lemma offsetOf_eq_none_iff (cs : List Char) (line column : Nat) :
    Span.offsetOf cs line column = none ↔ line = 0 := by
  simp [Span.offsetOf]

lemma offsetOf_le {line column offset : Nat} (h : Span.offsetOf cs line column = some offset) :
    offset ≤ Span.byteSize cs := by
  unfold Span.offsetOf at h
  split_ifs at h
  obtain rfl := Option.some.inj h
  exact Nat.min_le_right ..

lemma fits_ofPlace {line column : Nat} {span : Span}
    (h : Span.ofPlace text line column = some span) : Fits text span := by
  obtain ⟨offset, hoffset, rfl⟩ := Option.map_eq_some_iff.1 h
  have hle := offsetOf_le hoffset
  unfold Fits
  rw [bytesOf_eq, length_encode]
  by_cases hlt : offset < Span.byteSize text.toList
  · simp only [hlt, hlt.ne, if_true, if_false, and_true]
    exact hlt
  · obtain rfl : offset = Span.byteSize text.toList := by omega
    simp

/-- The place of any number of bytes read leads back to them. Whatever place a fault has, it is shown
at a span of the text unless its line is 0. -/
theorem span_of_fault (text : String) :
    (∀ i ≤ (bytesOf text).length, LeadsBack text i (placeAfter ((bytesOf text).take i))) ∧
    ∀ fault : Json.Fault,
      ((Document.ParseError.of text fault).span = none ↔ fault.place.line = 0) ∧
      ∀ span, (Document.ParseError.of text fault).span = some span → Fits text span := by
  refine ⟨fun i => leadsBack_placeAfter, fun fault => ⟨?_, fun span => fits_ofPlace⟩⟩
  rw [Document.ParseError.of, Span.ofPlace, Option.map_eq_none_iff, offsetOf_eq_none_iff]

/-- The third character takes two bytes, and the last line is empty. -/
def accented : String := "\x7b\né\n\n"

theorem span_of_fault_accented :
    3 ≤ (bytesOf accented).length ∧ placeAfter ((bytesOf accented).take 3) = ⟨2, 1⟩ ∧
      Span.offsetOf accented.toList 2 1 = some 2 ∧
      6 ≤ (bytesOf accented).length ∧ placeAfter ((bytesOf accented).take 6) = ⟨4, 0⟩ ∧
      Span.offsetOf accented.toList 4 0 = some 6 ∧
      (Document.ParseError.of accented ⟨.endInObject, ⟨7, 7⟩⟩).span = some ⟨6, 0⟩ ∧
      Fits accented ⟨6, 0⟩ := by
  have hbytes : bytesOf accented = [123, 10, 195, 169, 10, 10] := by
    rw [bytesOf_eq]
    decide
  have hinside : placeAfter ((bytesOf accented).take 3) = ⟨2, 1⟩ := by
    rw [hbytes]
    decide
  have hempty : placeAfter ((bytesOf accented).take 6) = ⟨4, 0⟩ := by
    rw [hbytes]
    decide
  have hthree : 3 ≤ (bytesOf accented).length := by simp [hbytes]
  have hsix : 6 ≤ (bytesOf accented).length := by simp [hbytes]
  have hspan : (Document.ParseError.of accented ⟨.endInObject, ⟨7, 7⟩⟩).span = some ⟨6, 0⟩ := by
    decide
  obtain ⟨hleads, hshown⟩ := span_of_fault accented
  have hinner := (hleads 3 hthree).offset
  have hlast := (hleads 6 hsix).offset
  rw [hinside] at hinner
  rw [hempty] at hlast
  exact ⟨hthree, hinside, hinner, hsix, hempty, hlast, hspan, (hshown _).2 _ hspan⟩

end ClientGen.Proofs
