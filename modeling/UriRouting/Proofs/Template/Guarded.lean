import Mathlib.Data.String.Basic
import Mathlib.Tactic
import UriRouting.Proofs.Template.Braces
import UriRouting.Proofs.Template.Filled
import UriRouting.Proofs.Template.Parentheses
import UriRouting.Proofs.Text.Utf8
import UriRouting.Template.Guarded

/-!
# Nothing goes wrong with the bytes of a template

The guarded operations stop where a counter would leave its 32 bits and where offsets do not cut a
part out of the template.  For templates of less than `2 ^ 31` bytes neither ever happens: each of
the operations comes to an end, and with the result of the operation on characters that it stands
for (`guarded_eq`).

A counter is never above the number of bytes that it has gone over, and never below minus one.  The
brackets and parentheses of a sub-pattern are counted alike (`balancedFrom_eq`).

The scan goes over bytes, but braces are found where they are characters: no other character has the
byte of a brace in it (`scanFrom_char`).  `Tracks` says how far the scan on characters is where the
scan on bytes is, and all characters keep it (`agrees`).  So the offsets that are found are those of
`Segment.locate`, where characters begin and end, and the parts between them are what is written
there (`parts_of_written`).
-/

namespace UriRouting.Guarded

open Segment (literal begun splitFrom join bodies locateFrom WellFormed)

lemma bind_ok {α β : Type} (a : α) (f : α → Guarded β) :
    (Except.ok a >>= f : Guarded β) = f a := rfl

/-! ## Counters -/

/-- The counter stands at a number. -/
def Counts (counter : Int32) (n : Nat) : Prop := counter.toInt = n

namespace Counts

variable {counter : Int32} {n : Nat}

lemma zero : Counts 0 0 := Int32.toInt_zero

lemma eq_zero_iff (h : Counts counter n) : counter = 0 ↔ n = 0 := by
  rw [← Int32.toInt_inj, h, Int32.toInt_zero, Int.natCast_eq_zero]

lemma eq_one_iff (h : Counts counter n) : counter = 1 ↔ n = 1 := by
  rw [← Int32.toInt_inj, h, Int32.toInt_one, Nat.cast_eq_one]

lemma pos_iff (h : Counts counter n) : 0 < counter ↔ 0 < n := by
  rw [Int32.lt_iff_toInt_lt, h, Int32.toInt_zero, Int.natCast_pos]

lemma not_neg (h : Counts counter n) : ¬ counter < 0 := by
  rw [Int32.lt_iff_toInt_lt, h, Int32.toInt_zero]
  omega

lemma lt (h : Counts counter n) : n < 2 ^ 31 := by
  have hrange := counter.toInt_lt
  rw [h] at hrange
  omega

end Counts

lemma move_of_range {counter : Int32} {distance moved : Int}
    (hmoved : counter.toInt + distance = moved) (hlow : -2 ^ 31 ≤ moved) (hhigh : moved < 2 ^ 31) :
    ∃ next : Int32, move counter distance = .ok next ∧ next.toInt = moved := by
  refine ⟨Int32.ofInt moved, ?_, Int32.toInt_ofInt_of_le hlow hhigh⟩
  rw [move, hmoved]
  exact if_pos ⟨hlow, Int.le_of_lt_add_one hhigh⟩

namespace Counts

variable {counter : Int32} {n : Nat}

lemma exists_raise (h : Counts counter n) (hroom : n + 1 < 2 ^ 31) :
    ∃ next, move counter 1 = .ok next ∧ Counts next (n + 1) := by
  have hmoved : counter.toInt + 1 = (n + 1 : Nat) := by rw [h, Nat.cast_add_one]
  exact move_of_range hmoved (by omega) (by omega)

lemma exists_lower (h : Counts counter (n + 1)) :
    ∃ next, move counter (-1) = .ok next ∧ Counts next n := by
  have hrange := h.lt
  have hmoved : counter.toInt + -1 = n := by
    rw [h, Nat.cast_add_one]
    omega
  exact move_of_range hmoved (by omega) (by omega)

/-- A counter can go below zero, if only by one. -/
lemma exists_below (h : Counts counter 0) : ∃ next, move counter (-1) = .ok next ∧ next < 0 := by
  have hmoved : counter.toInt + -1 = -1 := by
    rw [h]
    rfl
  obtain ⟨next, hmove, hnext⟩ := move_of_range hmoved (by omega) (by omega)
  refine ⟨next, hmove, ?_⟩
  rw [Int32.lt_iff_toInt_lt, hnext, Int32.toInt_zero]
  omega

end Counts

/-! ## Parts -/

/-- A part is cut out if the offsets are those of one, and otherwise the cut is refused. -/
lemma part_eq_ok_iff {text piece : String} {start stop : Nat} :
    part text start stop = .ok piece ↔
      IsPart text start stop ∧ String.Pos.Raw.extract text ⟨start⟩ ⟨stop⟩ = piece := by
  rw [part]
  split
  · next h => exact ⟨fun hpiece => ⟨h, Except.ok.inj hpiece⟩, fun hpiece => congrArg _ hpiece.2⟩
  · next h => exact ⟨nofun, fun hpiece => absurd hpiece.1 h⟩

lemma utf8ByteSize_ofList (text : List Char) :
    (String.ofList text).utf8ByteSize = Utf8.byteLength text := by
  rw [Segment.byteLength_eq_utf8Len]
  exact String.utf8ByteSize_ofList text

lemma utf8ByteSize_eq (text : String) : text.utf8ByteSize = Utf8.byteLength text.toList := by
  rw [← utf8ByteSize_ofList, String.ofList_toList]

lemma isValid_byteLength (before after : List Char) :
    String.Pos.Raw.IsValid (String.ofList (before ++ after)) ⟨Utf8.byteLength before⟩ := by
  rw [String.Pos.Raw.isValid_iff_exists_append]
  refine ⟨String.ofList before, String.ofList after, String.ofList_append, ?_⟩
  ext
  exact (utf8ByteSize_ofList before).symm

/-- Whatever is written in a text can be cut out of it. -/
lemma part_of_eq {template : String} {before piece : List Char} (after : List Char)
    (h : template.toList = before ++ piece ++ after) :
    part template (Utf8.byteLength before) (Utf8.byteLength (before ++ piece)) =
      .ok (String.ofList piece) := by
  have htemplate : template = String.ofList (before ++ piece ++ after) := by
    rw [← h, String.ofList_toList]
  rw [part_eq_ok_iff, htemplate]
  refine ⟨⟨?_, ?_, ?_, isValid_byteLength _ _⟩, ?_⟩
  · rw [Utf8.byteLength_append]
    exact Nat.le_add_right _ _
  · rw [utf8ByteSize_ofList, Utf8.byteLength_append (before ++ piece)]
    exact Nat.le_add_right _ _
  · rw [List.append_assoc]
    exact isValid_byteLength _ _
  · rw [Utf8.byteLength_append, Segment.byteLength_eq_utf8Len, Segment.byteLength_eq_utf8Len]
    exact String.extract_of_valid before piece after

/-! ## The scan -/

lemma byteLength_cons (c : Char) (text : List Char) :
    Utf8.byteLength (c :: text) = c.utf8Size + Utf8.byteLength text := rfl

lemma length_le_byteLength (text : List Char) : text.length ≤ Utf8.byteLength text := by
  induction text with
  | nil => exact le_rfl
  | cons c text ih =>
    have hsize := c.utf8Size_pos
    rw [List.length_cons, byteLength_cons]
    omega

lemma bytes_eq (text : String) :
    text.toByteArray.data.toList = text.toList.flatMap String.utf8EncodeChar := by
  conv_lhs => rw [← String.ofList_toList (s := text)]
  rw [String.toByteArray_ofList, List.utf8Encode]
  simp

/-- The offsets of the braces of a placeholder that has been found. -/
def Pair.ofLocated (p : Segment.Located) : Pair := ⟨p.opening, p.closing⟩

/-- The scan on bytes is where the scan on characters is in the segment that begins at `start`. -/
structure Tracks (start depth : Nat) (current : List Char) (index : Nat) (counter : Int32)
    (opening : Nat) : Prop where
  counter : Counts counter depth
  index : index = start + Utf8.byteLength (begun depth current)
  opening : depth ≠ 0 → opening = start

namespace Tracks

lemma inside {index : Nat} {counter : Int32} (h : Counts counter 1) :
    Tracks index 1 [] (index + 1) counter index := ⟨h, rfl, fun _ => rfl⟩

lemma outside {index opening : Nat} {counter : Int32} (h : Counts counter 0) :
    Tracks index 0 [] index counter opening := ⟨h, rfl, fun hdepth => absurd rfl hdepth⟩

lemma push {start depth deeper index opening : Nat} {current : List Char} {counter next : Int32}
    (h : Tracks start depth current index counter opening) (hnext : Counts next deeper)
    (hsame : deeper = 0 ↔ depth = 0) (c : Char) :
    Tracks start deeper (c :: current) (index + c.utf8Size) next opening := by
  refine ⟨hnext, ?_, fun hdeeper => h.opening (mt hsame.mpr hdeeper)⟩
  have hbegun : begun deeper (c :: current) = begun depth current ++ [c] := by
    simp [begun, hsame]
  rw [hbegun, Utf8.byteLength_append, h.index, Nat.add_assoc]
  rfl

/-- The brace that closes a placeholder follows its body. -/
lemma closing_eq {start index opening : Nat} {current : List Char} {counter : Int32}
    (h : Tracks start 1 current index counter opening) :
    start + 1 + Utf8.byteLength current.reverse = index := by
  have hindex : index = start + (1 + Utf8.byteLength current.reverse) := h.index
  omega

lemma isEmpty_iff {start index opening : Nat} {current : List Char} {counter : Int32}
    (h : Tracks start 1 current index counter opening) :
    index = opening + 1 ↔ current.isEmpty := by
  rw [List.isEmpty_iff, ← List.reverse_eq_nil_iff, ← String.utf8Len_eq_zero,
    ← Segment.byteLength_eq_utf8Len, ← h.closing_eq, h.opening one_ne_zero]
  omega

end Tracks

lemma scanFrom_append {bytes : List UInt8} (h : ∀ b ∈ bytes, b ≠ 0x7B ∧ b ≠ 0x7D) (index : Nat)
    (depth : Int32) (opening : Nat) (rest : List UInt8) :
    scanFrom index depth opening (bytes ++ rest) =
      scanFrom (index + bytes.length) depth opening rest := by
  induction bytes generalizing index with
  | nil => rfl
  | cons b bytes ih =>
    obtain ⟨⟨hopen, hclose⟩, hbytes⟩ := List.forall_mem_cons.mp h
    rw [List.cons_append, scanFrom, if_neg hopen, if_neg hclose, ih hbytes, List.length_cons,
      Nat.add_right_comm, Nat.add_assoc]

/-- A byte below 0x80 in the form of a character is the whole character, so no other character than
a brace has the byte of a brace in it. -/
lemma scanFrom_char {c : Char} (hopen : c ≠ '\x7b') (hclose : c ≠ '\x7d') (index : Nat)
    (depth : Int32) (opening : Nat) (rest : List UInt8) :
    scanFrom index depth opening (String.utf8EncodeChar c ++ rest) =
      scanFrom (index + c.utf8Size) depth opening rest := by
  have hform := Utf8.form_utf8EncodeChar c
  rw [scanFrom_append, String.length_utf8EncodeChar]
  intro b hb
  constructor
  · rintro rfl
    exact hopen (Char.toNat_inj.mp (hform.eq_of_low hb (by decide)).symm)
  · rintro rfl
    exact hclose (Char.toNat_inj.mp (hform.eq_of_low hb (by decide)).symm)

/-- Wherever the two scans are at the same place, they find the same in the text. -/
def Agrees (text : List Char) : Prop :=
  ∀ {start depth index opening : Nat} {current : List Char} {counter : Int32},
    Tracks start depth current index counter opening →
    depth + Utf8.byteLength text < 2 ^ 31 →
    scanFrom index counter opening (text.flatMap String.utf8EncodeChar) =
      .ok ((splitFrom depth current text).map fun segments =>
        (locateFrom start segments).map Pair.ofLocated)

namespace Agrees

lemma nil : Agrees [] := by
  intro start depth index opening current counter h hroom
  rw [List.flatMap_nil, scanFrom, splitFrom]
  simp only [h.counter.eq_zero_iff]
  split <;> rfl

lemma openBrace {text : List Char} (ih : Agrees text) : Agrees ('\x7b' :: text) := by
  intro start depth index opening current counter h hroom
  have hsize : Char.utf8Size '\x7b' = 1 := rfl
  rw [byteLength_cons] at hroom
  obtain ⟨next, hmove, hnext⟩ := h.counter.exists_raise (by omega)
  have hone : next = 1 ↔ depth = 0 := by
    rw [hnext.eq_one_iff]
    omega
  change scanFrom index counter opening (0x7B :: text.flatMap String.utf8EncodeChar) = _
  rw [scanFrom, if_pos rfl, hmove, bind_ok]
  simp only [hone]
  cases depth with
  | zero =>
    have hindex : start + Utf8.byteLength current.reverse = index := h.index.symm
    rw [if_pos rfl, ih (.inside hnext) (by omega), splitFrom, if_pos rfl]
    cases splitFrom 1 [] text with
    | error fault => rfl
    | ok segments =>
      rw [← hindex]
      rfl
  | succ depth =>
    rw [if_neg depth.succ_ne_zero, splitFrom, if_pos rfl]
    exact ih (h.push hnext (by simp) '\x7b') (by omega)

lemma closeBrace {text : List Char} (ih : Agrees text) : Agrees ('\x7d' :: text) := by
  intro start depth index opening current counter h hroom
  have hsize : Char.utf8Size '\x7d' = 1 := rfl
  have hne : ('\x7d' : Char) ≠ '\x7b' := by decide
  rw [byteLength_cons] at hroom
  change scanFrom index counter opening (0x7D :: text.flatMap String.utf8EncodeChar) = _
  rw [scanFrom, if_neg (by decide), if_pos rfl]
  cases depth with
  | zero =>
    obtain ⟨next, hmove, hnext⟩ := h.counter.exists_below
    rw [hmove, bind_ok, if_pos hnext]
    rfl
  | succ depth =>
    obtain ⟨next, hmove, hnext⟩ := h.counter.exists_lower
    rw [hmove, bind_ok, if_neg hnext.not_neg]
    simp only [hnext.eq_zero_iff]
    cases depth with
    | zero =>
      rw [splitFrom, if_neg hne, if_pos rfl]
      simp only [h.isEmpty_iff, if_true]
      split
      · rfl
      · rw [ih (.outside hnext) (by omega)]
        cases splitFrom 0 [] text with
        | error fault => rfl
        | ok segments =>
          simp [Except.map, locateFrom, h.closing_eq, h.opening one_ne_zero, Pair.ofLocated]
    | succ depth =>
      rw [if_neg depth.succ_ne_zero, splitFrom, if_neg hne, if_pos rfl]
      exact ih (h.push hnext (by simp) '\x7d') (by omega)

lemma other {c : Char} {text : List Char} (hopen : c ≠ '\x7b') (hclose : c ≠ '\x7d')
    (ih : Agrees text) : Agrees (c :: text) := by
  intro start depth index opening current counter h hroom
  rw [byteLength_cons] at hroom
  rw [List.flatMap_cons, scanFrom_char hopen hclose, Segment.splitFrom_cons]
  simp only [hopen, hclose, false_and, if_false]
  exact ih (h.push h.counter Iff.rfl c) (by omega)

end Agrees

lemma agrees (text : List Char) : Agrees text := by
  induction text with
  | nil => exact Agrees.nil
  | cons c text ih =>
    by_cases hopen : c = '\x7b'
    · exact hopen ▸ ih.openBrace
    by_cases hclose : c = '\x7d'
    · exact hclose ▸ ih.closeBrace
    · exact ih.other hopen hclose

/-- The scan on bytes finds the braces where they are. -/
theorem scan_eq {template : String} (hsize : template.utf8ByteSize < 2 ^ 31) :
    scan template = .ok ((Segment.split template.toList).map fun segments =>
      (locateFrom 0 segments).map Pair.ofLocated) := by
  rw [scan, bytes_eq]
  rw [utf8ByteSize_eq] at hsize
  exact agrees template.toList (.outside .zero) (by omega)

/-! ## Sub-patterns -/

lemma balancedFrom_escaped (depth classes : Nat) (rest : List Char) :
    Placeholder.balancedFrom depth classes .escaped rest =
      Placeholder.balancedFrom depth classes .plain rest.tail := by
  cases rest with
  | nil => rfl
  | cons c rest =>
    rw [Placeholder.balancedFrom.eq_def]
    simp

lemma balancedFrom_classNegated (depth classes : Nat) (rest : List Char) :
    Placeholder.balancedFrom depth (classes + 1) .classNegated rest =
      Placeholder.balancedFrom depth (classes + 1) .plain (past ']' rest) := by
  cases rest with
  | nil => rfl
  | cons c rest =>
    by_cases hclose : c = ']' <;> simp [past, Placeholder.balancedFrom, hclose]

lemma balancedFrom_classStart (depth classes : Nat) (rest : List Char) :
    Placeholder.balancedFrom depth (classes + 1) .classStart rest =
      Placeholder.balancedFrom depth (classes + 1) .plain (past ']' (past '^' rest)) := by
  rw [← balancedFrom_classNegated]
  cases rest with
  | nil => rfl
  | cons c rest =>
    by_cases hsign : c = '^' <;> simp [past, Placeholder.balancedFrom, hsign]

/-- The counters for parentheses and brackets grow by one at most with each character. -/
theorem balancedFrom_eq {depth classes : Nat} {parentheses brackets : Int32} {text : List Char}
    (hparentheses : Counts parentheses depth) (hbrackets : Counts brackets classes)
    (hdepth : depth + text.length < 2 ^ 31) (hclasses : classes + text.length < 2 ^ 31) :
    balancedFrom parentheses brackets text =
      .ok (Placeholder.balancedFrom depth classes .plain text) := by
  fun_induction balancedFrom parentheses brackets text generalizing depth classes with
  | case1 parentheses brackets =>
    -- the end
    have hzero : (parentheses == 0) = (depth == 0) := by
      rw [Bool.eq_iff_iff, beq_iff_eq, beq_iff_eq, hparentheses.eq_zero_iff]
    rw [Placeholder.balancedFrom, ← hzero]
    rfl
  | case2 parentheses brackets rest ih =>
    -- a backslash
    rw [List.length_cons] at hdepth hclasses
    have htail := rest.length_tail
    rw [ih hparentheses hbrackets (by omega) (by omega), ← balancedFrom_escaped]
    simp [Placeholder.balancedFrom]
  | case3 parentheses brackets rest hslash ih =>
    -- a bracket opens a class
    rw [List.length_cons] at hdepth hclasses
    have hsign := length_past_le '^' rest
    have hclose := length_past_le ']' (past '^' rest)
    obtain ⟨next, hmove, hnext⟩ := hbrackets.exists_raise (by omega)
    rw [hmove, bind_ok, ih next hparentheses hnext (by omega) (by omega),
      ← balancedFrom_classStart]
    simp [Placeholder.balancedFrom]
  | case4 parentheses brackets c rest hslash hopen hc ih =>
    -- a bracket closes a class
    rw [List.length_cons] at hdepth hclasses
    obtain ⟨rfl, hinside⟩ := hc
    obtain ⟨around, rfl⟩ := Nat.exists_eq_succ_of_ne_zero (hbrackets.pos_iff.mp hinside).ne'
    obtain ⟨next, hmove, hnext⟩ := hbrackets.exists_lower
    rw [hmove, bind_ok, ih next hparentheses hnext (by omega) (by omega)]
    simp [Placeholder.balancedFrom]
  | case5 parentheses brackets c rest hslash hopen hclose hc ih =>
    -- a parenthesis opens a group
    rw [List.length_cons] at hdepth hclasses
    obtain ⟨rfl, houtside⟩ := hc
    obtain rfl := hbrackets.eq_zero_iff.mp houtside
    obtain ⟨next, hmove, hnext⟩ := hparentheses.exists_raise (by omega)
    rw [hmove, bind_ok, ih next hnext hbrackets (by omega) (by omega),
      Placeholder.balancedFrom_open]
  | case6 parentheses brackets c rest hslash hopen hclose hparen hc ih =>
    -- a parenthesis closes a group, or there is none to close
    rw [List.length_cons] at hdepth hclasses
    obtain ⟨rfl, houtside⟩ := hc
    obtain rfl := hbrackets.eq_zero_iff.mp houtside
    cases depth with
    | zero =>
      obtain ⟨next, hmove, hnext⟩ := hparentheses.exists_below
      rw [hmove, bind_ok, if_pos hnext]
      simp [Placeholder.balancedFrom, pure, Except.pure]
    | succ depth =>
      obtain ⟨next, hmove, hnext⟩ := hparentheses.exists_lower
      rw [hmove, bind_ok, if_neg hnext.not_neg, ih next hnext hbrackets (by omega) (by omega),
        Placeholder.balancedFrom_close]
  | case7 parentheses brackets c rest hslash hopen hclose hparen hc ih =>
    -- any other character
    rw [List.length_cons] at hdepth hclasses
    rw [hbrackets.pos_iff] at hclose
    rw [hbrackets.eq_zero_iff] at hparen hc
    rw [ih hparentheses hbrackets (by omega) (by omega)]
    cases classes <;> simp_all [Placeholder.balancedFrom]

lemma length_le_of_cut {body sub : List Char} (h : (Placeholder.cut body).2 = some sub) :
    sub.length ≤ body.length := by
  induction body with
  | nil => cases h
  | cons c body ih =>
    rw [Placeholder.cut] at h
    split at h
    · obtain rfl := Option.some.inj h
      exact Nat.le_succ _
    · exact (ih h).trans (Nat.le_succ _)

lemma placeholder_eq {body : List Char} (hsize : body.length < 2 ^ 31) :
    placeholder (String.ofList body) = .ok (Placeholder.ofBody body) := by
  have hpattern : ((Placeholder.cut body).2.getD Placeholder.anySegment).length < 2 ^ 31 := by
    cases hsub : (Placeholder.cut body).2 with
    | none => decide
    | some sub => exact (length_le_of_cut hsub).trans_lt hsize
  have hbalanced := balancedFrom_eq .zero .zero ((Nat.zero_add _).trans_lt hpattern)
    ((Nat.zero_add _).trans_lt hpattern)
  rw [← Placeholder.balanced] at hbalanced
  rw [placeholder, Placeholder.ofBody, String.toList_ofList]
  simp only [hbalanced, bind_ok]
  by_cases hname : (Placeholder.cut body).1.isEmpty
  · rw [if_pos hname, if_pos hname]
    rfl
  rw [if_neg hname, if_neg hname]
  by_cases hsub : (Placeholder.cut body).2 = some []
  · rw [if_pos hsub, if_pos hsub]
    rfl
  rw [if_neg hsub, if_neg hsub]
  cases Placeholder.balanced ((Placeholder.cut body).2.getD Placeholder.anySegment) <;> rfl

/-! ## Parts of a template -/

/-- From an offset on, the template is what segments stand for. -/
def Written (template : String) (start : Nat) (segments : List Segment) : Prop :=
  ∃ before, template.toList = before ++ join segments ∧ Utf8.byteLength before = start

lemma Written.last {template : String} {start : Nat} {text : List Char}
    (h : Written template start [literal text]) :
    part template start template.utf8ByteSize = .ok (String.ofList text) := by
  obtain ⟨before, htemplate, rfl⟩ := h
  have hjoin : join [literal text] = text := List.append_nil text
  have hwritten : template.toList = before ++ text ++ [] := by
    rw [htemplate, hjoin, List.append_nil]
  have hsize : template.utf8ByteSize = Utf8.byteLength (before ++ text) := by
    rw [utf8ByteSize_eq, htemplate, hjoin]
  rw [hsize]
  exact part_of_eq [] hwritten

/-- The two parts up to the end of a placeholder are its literal and its body, and behind its brace
the rest begins. -/
lemma parts_of_written {template : String} {start : Nat} {text body : List Char}
    {rest : List Segment}
    (h : Written template start (literal text :: .placeholder body :: rest)) {opening closing : Nat}
    (hopening : opening = start + Utf8.byteLength text)
    (hclosing : closing = opening + 1 + Utf8.byteLength body) :
    part template start opening = .ok (String.ofList text) ∧
      part template (opening + 1) closing = .ok (String.ofList body) ∧
      Written template (closing + 1) rest := by
  obtain ⟨before, htemplate, rfl⟩ := h
  have hbrace : Utf8.byteLength ['\x7b'] = 1 := rfl
  have hbrace' : Utf8.byteLength ['\x7d'] = 1 := rfl
  have hjoin : join (literal text :: .placeholder body :: rest) =
      text ++ (['\x7b'] ++ (body ++ (['\x7d'] ++ join rest))) := by
    simp [join, Segment.text]
  rw [hjoin] at htemplate
  have hliteral : opening = Utf8.byteLength (before ++ text) := by
    rw [hopening, Utf8.byteLength_append]
  have hbegin : opening + 1 = Utf8.byteLength (before ++ text ++ ['\x7b']) := by
    rw [hliteral, Utf8.byteLength_append _ ['\x7b'], hbrace]
  have hend : closing = Utf8.byteLength (before ++ text ++ ['\x7b'] ++ body) := by
    rw [hclosing, hbegin, ← Utf8.byteLength_append]
  refine ⟨?_, ?_, before ++ text ++ ['\x7b'] ++ body ++ ['\x7d'], ?_, ?_⟩
  · rw [hliteral]
    exact part_of_eq _ (htemplate.trans (List.append_assoc _ _ _).symm)
  · rw [hbegin, hend]
    apply part_of_eq (['\x7d'] ++ join rest)
    rw [htemplate]
    simp only [List.append_assoc]
  · rw [htemplate]
    simp only [List.append_assoc]
  · rw [Utf8.byteLength_append, hbrace', hend]

lemma map_ofLocated_cons (start : Nat) (text body : List Char) (rest : List Segment) :
    (locateFrom start (literal text :: .placeholder body :: rest)).map Pair.ofLocated =
      ⟨start + Utf8.byteLength text, start + Utf8.byteLength text + 1 + Utf8.byteLength body⟩ ::
        (locateFrom (start + Utf8.byteLength text + 1 + Utf8.byteLength body + 1) rest).map
          Pair.ofLocated := rfl

/-- The offsets between which a template is cut when its braces are known: before each pair from
the end of the pair before it, inside the pair, and behind the last one. -/
def cuts (template : String) (start : Nat) : List Pair → List (Nat × Nat)
  | [] => [(start, template.utf8ByteSize)]
  | pair :: pairs => (start, pair.opening) :: (pair.opening + 1, pair.closing) ::
      cuts template (pair.closing + 1) pairs

lemma isPart_of_part {template piece : String} {start stop : Nat}
    (h : part template start stop = .ok piece) : IsPart template start stop :=
  (part_eq_ok_iff.mp h).1

/-- All cuts are between characters, in order and within the template. -/
lemma isPart_of_mem_cuts {template : String} {segments : List Segment}
    (hsegments : WellFormed segments) {start : Nat} (h : Written template start segments) :
    ∀ cut ∈ cuts template start ((locateFrom start segments).map Pair.ofLocated),
      IsPart template cut.1 cut.2 := by
  induction hsegments generalizing start with
  | last htext => exact List.forall_mem_singleton.mpr (isPart_of_part h.last)
  | cons htext hne hbody hrest ih =>
    obtain ⟨hliteral, hinside, hnext⟩ := parts_of_written h rfl rfl
    rw [map_ofLocated_cons]
    simp only [cuts, List.forall_mem_cons]
    exact ⟨isPart_of_part hliteral, isPart_of_part hinside, ih hnext⟩

lemma fillFrom_eq {template : String} {segments : List Segment} (hsegments : WellFormed segments)
    {start : Nat} (h : Written template start segments) {values : List String}
    (hcount : values.length = (bodies segments).length) :
    fillFrom template start ((locateFrom start segments).map Pair.ofLocated) values =
      .ok (String.ofList (Segment.fill segments values)) := by
  induction hsegments generalizing start values with
  | @last text htext =>
    obtain rfl : values = [] := List.eq_nil_of_length_eq_zero hcount
    have hfill : Segment.fill [literal text] [] = text := by simp [Segment.fill]
    rw [hfill]
    exact h.last
  | cons htext hne hbody hrest ih =>
    cases values with
    | nil => simp [bodies] at hcount
    | cons value values =>
      obtain ⟨hliteral, -, hnext⟩ := parts_of_written h rfl rfl
      have hothers := ih hnext (by simpa [bodies] using hcount)
      rw [Segment.fill, Segment.fill, String.ofList_append, String.ofList_append,
        String.ofList_toList, map_ofLocated_cons, fillFrom, hliteral, bind_ok, hothers, bind_ok,
        ← String.append_assoc]
      rfl

/-- The bodies are read in order, and what is read is put between the parts. -/
lemma assembleFrom_eq {template : String} (hsize : template.utf8ByteSize < 2 ^ 31)
    {segments : List Segment} (hsegments : WellFormed segments) {start : Nat}
    (h : Written template start segments) (seen : List (List Char)) :
    assembleFrom template start seen ((locateFrom start segments).map Pair.ofLocated) =
      .ok (do
        let placeholders ← Matchable.readPlaceholders template seen (bodies segments)
        return (String.ofList (Matchable.patternText segments placeholders), placeholders)) := by
  induction hsegments generalizing start seen with
  | @last text htext =>
    have hpattern : Matchable.patternText [literal text] [] = text := by
      simp [Matchable.patternText]
    have hlast := h.last
    change (do
      let last ← part template start template.utf8ByteSize
      return pure (last, [])) = _
    rw [hlast, bind_ok]
    simp only [bodies, Matchable.readPlaceholders, pure_bind, hpattern]
    rfl
  | @cons text body rest htext hne hbody hrest ih =>
    obtain ⟨hliteral, hinside, hnext⟩ := parts_of_written h rfl rfl
    have hbound : body.length < 2 ^ 31 := by
      have hstop := (isPart_of_part hinside).2.1
      have hlength := length_le_byteLength body
      omega
    rw [map_ofLocated_cons, assembleFrom, hinside, bind_ok, placeholder_eq hbound, bind_ok, bodies,
      bodies, Matchable.readPlaceholders]
    cases Placeholder.ofBody body with
    | error fault => rfl
    | ok p =>
      have hpattern (others : List Placeholder) :
          String.ofList text ++ "(" ++ String.ofList p.pattern ++ ")" ++
              String.ofList (Matchable.patternText rest others) =
            String.ofList (Matchable.patternText (literal text :: .placeholder body :: rest)
              (p :: others)) := by
        apply String.toList_inj.mp
        simp [Matchable.patternText]
      simp only [hliteral, bind_ok, ih hnext, Attempt.ofExcept_ok, pure_bind, bind_assoc, hpattern]
      split
      · simp only [bind_assoc, pure_bind]
        rfl
      · simp only [bind_assoc, pure_bind]
        rfl

/-! ## Templates -/

lemma written_of_split {template : String} {segments : List Segment}
    (h : Segment.split template.toList = .ok segments) : Written template 0 segments :=
  ⟨[], (Segment.join_split h).symm, rfl⟩

/-- Compiling a template comes to an end, and with what `Matchable.assemble` returns and notes. -/
lemma assemble_eq {template : String} (hsize : template.utf8ByteSize < 2 ^ 31)
    (anchoring : Anchoring) :
    assemble template anchoring = .ok (Matchable.assemble template anchoring) := by
  rw [assemble, scan_eq hsize, bind_ok, Matchable.assemble]
  cases hsplit : Segment.split template.toList with
  | error fault => rfl
  | ok segments =>
    obtain ⟨hsegments, -⟩ := Segment.split_eq_ok_iff.mp hsplit
    have hassembled := assembleFrom_eq hsize hsegments (written_of_split hsplit) []
    simp only [Except.map, Except.mapError, hassembled, bind_ok, Attempt.ofExcept_ok, pure_bind,
      bind_assoc, String.toList_ofList]
    rfl

/-- Filling a template comes to an end, and with what `buildUri` returns. -/
lemma buildUri_eq {template : String} (hsize : template.utf8ByteSize < 2 ^ 31)
    (values : List String) :
    buildUri template values = .ok (UriRouting.buildUri template values) := by
  rw [buildUri, scan_eq hsize, bind_ok, UriRouting.buildUri]
  cases hsplit : Segment.split template.toList with
  | error fault => rfl
  | ok segments =>
    obtain ⟨hsegments, -⟩ := Segment.split_eq_ok_iff.mp hsplit
    have hlength : ((locateFrom 0 segments).map Pair.ofLocated).length =
        (bodies segments).length := by
      rw [List.length_map, ← Segment.map_body_locateFrom 0 segments, List.length_map]
    simp only [Except.map, hlength]
    by_cases hcount : (bodies segments).length = values.length
    · have hfilled := fillFrom_eq hsegments (written_of_split hsplit) hcount.symm
      rw [if_neg (not_not.mpr hcount), if_neg (not_not.mpr hcount), hfilled, bind_ok]
      rfl
    · rw [if_pos hcount, if_pos hcount]
      rfl

/-- Nothing goes wrong in a template of less than `2 ^ 31` bytes, whatever characters are in it and
whatever values it is filled with: no counter leaves its 32 bits, neither that of the braces nor
those of the parentheses and brackets of a sub-pattern, and wherever the template is cut, the
offsets are in order, within the template and between characters.  So every operation comes to an
end, and with the result of the operation on characters. -/
theorem guarded_eq (template : String) (hsize : template.utf8ByteSize < 2 ^ 31) :
    scan template = .ok ((Segment.locate template.toList).map (List.map Pair.ofLocated)) ∧
    (∀ places, Segment.locate template.toList = .ok places →
      ∀ cut ∈ cuts template 0 (places.map Pair.ofLocated), IsPart template cut.1 cut.2) ∧
    (∀ anchoring, assemble template anchoring = .ok (Matchable.assemble template anchoring)) ∧
    ∀ values, buildUri template values = .ok (UriRouting.buildUri template values) := by
  refine ⟨?_, ?_, assemble_eq hsize, buildUri_eq hsize⟩
  · rw [scan_eq hsize, Segment.locate]
    cases Segment.split template.toList <;> rfl
  · intro places hplaces
    obtain ⟨segments, hsplit, rfl⟩ := Segment.locate_eq_ok_iff.mp hplaces
    obtain ⟨hsegments, -⟩ := Segment.split_eq_ok_iff.mp hsplit
    exact isPart_of_mem_cuts hsegments (written_of_split hsplit)

theorem guarded_eq_multibyte :
    "/é{né}→".utf8ByteSize < 2 ^ 31 ∧ scan "/é{né}→" = .ok (.ok [⟨3, 7⟩]) ∧
    (∀ cut ∈ [(0, 3), (4, 7), (8, 11)], IsPart "/é{né}→" cut.1 cut.2) ∧
    assemble "/é{né}→" .full = .ok (Matchable.assemble "/é{né}→" .full) ∧
    buildUri "/é{né}→" ["x"] = .ok (.ok "/éx→") := by
  have hsize : "/é{né}→".utf8ByteSize < 2 ^ 31 := by decide
  have hplaces : Segment.locate "/é{né}→".toList = .ok [⟨3, 7, ['n', 'é']⟩] := by decide
  obtain ⟨hscan, hcuts, hassemble, hbuild⟩ := guarded_eq "/é{né}→" hsize
  refine ⟨hsize, ?_, hcuts _ hplaces, hassemble .full, ?_⟩
  · rw [hscan, hplaces]
    rfl
  · rw [hbuild]
    rfl

/-! ## The limit -/

lemma move_of_full {counter : Int32} (h : Counts counter (2 ^ 31 - 1)) :
    move counter 1 = .error .outOfRange := by
  rw [move, h]
  rfl

lemma scanFrom_openBraces {n depth : Nat} {counter : Int32} (h : Counts counter depth)
    (hfull : 2 ^ 31 ≤ depth + n) (index opening : Nat) (rest : List UInt8) :
    scanFrom index counter opening (List.replicate n 0x7B ++ rest) = .error .outOfRange := by
  have hroom := h.lt
  induction n generalizing depth counter index opening with
  | zero => omega
  | succ n ih =>
    rw [List.replicate_succ, List.cons_append, scanFrom, if_pos rfl]
    by_cases hlast : depth = 2 ^ 31 - 1
    · rw [move_of_full (hlast ▸ h)]
      rfl
    · obtain ⟨next, hmove, hnext⟩ := h.exists_raise (by omega)
      rw [hmove, bind_ok, ih hnext (by omega) _ _ hnext.lt]

/-- The bound cannot be raised: so many braces are too many to be counted. -/
theorem scan_openBraces {n : Nat} (hn : 2 ^ 31 ≤ n) (more : String) :
    scan (String.ofList (List.replicate n '\x7b') ++ more) = .error .outOfRange := by
  have hbytes : (String.ofList (List.replicate n '\x7b') ++ more).toByteArray.data.toList =
      List.replicate n 0x7B ++ more.toByteArray.data.toList := by
    have hbrace : String.utf8EncodeChar '\x7b' = [0x7B] := by decide
    have hbraces : (List.replicate n '\x7b').flatMap String.utf8EncodeChar =
        List.replicate n 0x7B := by
      rw [List.flatMap_replicate, hbrace, List.flatten_replicate_singleton]
    rw [bytes_eq, bytes_eq, String.toList_append, String.toList_ofList, List.flatMap_append,
      hbraces]
  rw [scan, hbytes]
  exact scanFrom_openBraces .zero (by omega) 0 0 _

end UriRouting.Guarded
