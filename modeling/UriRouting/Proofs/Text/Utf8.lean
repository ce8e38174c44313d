import Mathlib.Tactic
import UriRouting.Text.Utf8

/-!
# Decoding undoes encoding

Bytes decode to a text if and only if they are the bytes of this text (`decode_eq_ok`), so bytes are
refused only where no text has them (`exists_decode_eq_error`).

`Form` says which bytes stand for a code point, in the digits of the code point and without regard
to how they are read.  A character is encoded in its form (`form_utf8EncodeChar`), a form is read
back (`decodeFrom_form`), and wherever a character was read there was a form of it
(`encode_of_decodeFrom`).  A code point has one form only, so the two directions meet.
-/

namespace UriRouting.Utf8

/-! ## Code points -/

/-- The bytes that stand for a code point: its digits to the base 64, the first with a mark that
tells how many follow. -/
inductive Form : List UInt8 → Nat → Prop
  | one {a : UInt8} {v : Nat} (ha : a.toNat = v) (hhigh : v < 0x80) : Form [a] v
  | two {a b : UInt8} {v : Nat} (ha : a.toNat = 0xC0 + v / 0x40) (hb : b.toNat = 0x80 + v % 0x40)
      (hlow : 0x80 ≤ v) (hhigh : v < 0x800) : Form [a, b] v
  | three {a b c : UInt8} {v : Nat} (ha : a.toNat = 0xE0 + v / 0x1000)
      (hb : b.toNat = 0x80 + v / 0x40 % 0x40) (hc : c.toNat = 0x80 + v % 0x40)
      (hlow : 0x800 ≤ v) (hhigh : v < 0x10000) : Form [a, b, c] v
  | four {a b c d : UInt8} {v : Nat} (ha : a.toNat = 0xF0 + v / 0x40000)
      (hb : b.toNat = 0x80 + v / 0x1000 % 0x40) (hc : c.toNat = 0x80 + v / 0x40 % 0x40)
      (hd : d.toNat = 0x80 + v % 0x40) (hlow : 0x10000 ≤ v) (hhigh : v < 0x110000) :
      Form [a, b, c, d] v

lemma Form.unique {bytes other : List UInt8} {v : Nat} (h : Form bytes v) (hother : Form other v) :
    bytes = other := by
  cases h <;> cases hother <;>
    first
    | omega
    | (simp only [List.cons.injEq, and_true, ← UInt8.toNat_inj]; omega)

lemma Form.eq_of_low {bytes : List UInt8} {v : Nat} (h : Form bytes v) {b : UInt8}
    (hb : b ∈ bytes) (hlow : b.toNat < 0x80) : b.toNat = v := by
  cases h <;> simp only [List.mem_cons, List.not_mem_nil, or_false] at hb <;>
    rcases hb with rfl | rfl | rfl | rfl <;> omega

/-! ## Characters -/

lemma valid_toNat (c : Char) : c.toNat < 0xD800 ∨ 0xDFFF < c.toNat ∧ c.toNat < 0x110000 := c.valid

lemma toNat_ofNat {v : Nat} (h : v < 0xD800 ∨ 0xDFFF < v ∧ v < 0x110000) :
    (Char.ofNat v).toNat = v := by
  have hvalid : v.isValidChar := h
  rw [Char.ofNat, dif_pos hvalid]
  rfl

lemma form_utf8EncodeChar (c : Char) : Form (String.utf8EncodeChar c) c.toNat := by
  have hvalid := valid_toNat c
  have hval : c.val.toNat = c.toNat := rfl
  have hbyte {n m : Nat} (h : n % 2 ^ 8 = m) : (UInt8.ofNat n).toNat = m := by
    rw [UInt8.toNat_ofNat', h]
  rw [String.utf8EncodeChar]
  change Form (if c.toNat ≤ 0x7f then _ else if c.toNat ≤ 0x7ff then _ else
    if c.toNat ≤ 0xffff then _ else _) c.toNat
  split
  · exact .one (hbyte (by omega)) (by omega)
  split
  · exact .two (hbyte (by omega)) (hbyte (by omega)) (by omega) (by omega)
  split
  · exact .three (hbyte (by omega)) (hbyte (by omega)) (hbyte (by omega)) (by omega) (by omega)
  · exact .four (hbyte (by omega)) (hbyte (by omega)) (hbyte (by omega)) (hbyte (by omega))
      (by omega) (by omega)

lemma isContinuation_iff {b : UInt8} : isContinuation b ↔ 0x80 ≤ b.toNat ∧ b.toNat < 0xC0 := by
  simp only [isContinuation, Bool.and_eq_true, decide_eq_true_eq, UInt8.le_iff_toNat_le,
    UInt8.toNat_ofNat]
  omega

lemma admitsSecond_iff {a b : UInt8} : admitsSecond a b ↔ 0x80 ≤ b.toNat ∧ b.toNat < 0xC0 ∧
    (a.toNat = 0xE0 → 0xA0 ≤ b.toNat) ∧ (a.toNat = 0xED → b.toNat < 0xA0) ∧
    (a.toNat = 0xF0 → 0x90 ≤ b.toNat) ∧ (a.toNat = 0xF4 → b.toNat < 0x90) := by
  rw [admitsSecond]
  simp only [← UInt8.toNat_inj, UInt8.toNat_ofNat]
  split_ifs <;>
    simp only [isContinuation_iff, Bool.and_eq_true, decide_eq_true_eq, UInt8.le_iff_toNat_le,
      UInt8.toNat_ofNat] <;> omega

/-- A character is decoded from the bytes that stand for it. -/
lemma decodeFrom_form {bytes : List UInt8} {c : Char} (h : Form bytes c.toNat) (index : Nat)
    (done : List Char) (rest : List UInt8) :
    decodeFrom index done (bytes ++ rest) =
      decodeFrom (index + bytes.length) (c :: done) rest := by
  -- surrogates would have forms that are not read
  have hvalid := valid_toNat c
  have hchar {v : Nat} (hv : v = c.toNat) : Char.ofNat v = c := by rw [hv, Char.ofNat_toNat]
  cases h with
  | one ha hhigh =>
    rw [List.singleton_append, decodeFrom.eq_def]
    simp only
    rw [if_pos, hchar ha]
    · rfl
    · simp only [UInt8.lt_iff_toNat_lt, UInt8.toNat_ofNat]
      omega
  | two ha hb hlow hhigh =>
    rw [List.cons_append, List.cons_append, List.nil_append, decodeFrom.eq_def]
    simp only
    rw [if_neg, if_neg, if_neg, if_pos, hchar]
    · rfl
    all_goals simp only [UInt8.lt_iff_toNat_lt, UInt8.toNat_ofNat, payload, Bool.or_eq_true,
      decide_eq_true_eq, Bool.not_eq_true', Bool.not_eq_false, admitsSecond_iff]
    all_goals omega
  | three ha hb hc hlow hhigh =>
    rw [List.cons_append, List.cons_append, List.cons_append, List.nil_append, decodeFrom.eq_def]
    simp only
    rw [if_neg, if_neg, if_neg, if_neg, if_neg, if_pos, hchar]
    · rfl
    all_goals simp only [UInt8.lt_iff_toNat_lt, UInt8.toNat_ofNat, payload, Bool.or_eq_true,
      decide_eq_true_eq, Bool.not_eq_true', Bool.not_eq_false, admitsSecond_iff, isContinuation_iff]
    all_goals omega
  | four ha hb hc hd hlow hhigh =>
    rw [List.cons_append, List.cons_append, List.cons_append, List.cons_append, List.nil_append,
      decodeFrom.eq_def]
    simp only
    rw [if_neg, if_neg, if_neg, if_neg, if_neg, if_neg, if_neg, hchar]
    · rfl
    all_goals simp only [UInt8.lt_iff_toNat_lt, UInt8.toNat_ofNat, payload, Bool.or_eq_true,
      decide_eq_true_eq, Bool.not_eq_true', Bool.not_eq_false, admitsSecond_iff, isContinuation_iff]
    all_goals omega

/-! ## Texts -/

/-- The bytes of a text. -/
def encode (text : String) : List UInt8 := text.toList.flatMap String.utf8EncodeChar

lemma decodeFrom_encode (index : Nat) (done text : List Char) :
    decodeFrom index done (text.flatMap String.utf8EncodeChar) = .ok (done.reverse ++ text) := by
  induction text generalizing index done with
  | nil => simp [decodeFrom]
  | cons c text ih =>
    rw [List.flatMap_cons, decodeFrom_form (form_utf8EncodeChar c), ih]
    simp

/-- What has been decoded is a text, and the bytes are those that encode it. -/
lemma encode_of_decodeFrom {index : Nat} {done text : List Char} {bytes : List UInt8}
    (h : decodeFrom index done bytes = .ok text) :
    ∃ more, text = done.reverse ++ more ∧ bytes = more.flatMap String.utf8EncodeChar := by
  have hstep {v : Nat} {form rest : List UInt8} {done : List Char} (hform : Form form v)
      (hvalid : v < 0xD800 ∨ 0xDFFF < v ∧ v < 0x110000)
      (hrest : ∃ more, text = (Char.ofNat v :: done).reverse ++ more ∧
        rest = more.flatMap String.utf8EncodeChar) :
      ∃ more, text = done.reverse ++ more ∧
        form ++ rest = more.flatMap String.utf8EncodeChar := by
    obtain ⟨more, htext, rfl⟩ := hrest
    refine ⟨Char.ofNat v :: more, by simpa using htext, ?_⟩
    have hchar := form_utf8EncodeChar (Char.ofNat v)
    rw [toNat_ofNat hvalid] at hchar
    rw [List.flatMap_cons, hform.unique hchar]
  -- four cases go on, one for each length of a form; in all others there is a fault
  fun_induction decodeFrom with
  | case1 index done =>
    obtain rfl := Except.ok.inj h
    exact ⟨[], by simp, rfl⟩
  | case2 index done a rest ha ih =>
    rw [UInt8.lt_iff_toNat_lt, UInt8.toNat_ofNat] at ha
    exact hstep (.one rfl ha) (by omega) (ih h)
  | case6 index done a ha hlead b rest hb hshort ih =>
    simp only [UInt8.lt_iff_toNat_lt, UInt8.toNat_ofNat, Bool.or_eq_true, decide_eq_true_eq,
      Bool.not_eq_true', Bool.not_eq_false, admitsSecond_iff] at ha hlead hb hshort
    refine hstep (.two ?_ ?_ ?_ ?_) ?_ (ih h) <;> simp only [payload] <;> omega
  | case9 index done a ha hlead b hb hlong c rest hc hshort ih =>
    simp only [UInt8.lt_iff_toNat_lt, UInt8.toNat_ofNat, Bool.or_eq_true, decide_eq_true_eq,
      Bool.not_eq_true', Bool.not_eq_false, admitsSecond_iff, isContinuation_iff]
      at ha hlead hb hlong hc hshort
    refine hstep (.three ?_ ?_ ?_ ?_ ?_) ?_ (ih h) <;> simp only [payload] <;> omega
  | case12 index done a ha hlead b hb hlong c hc hlonger d rest hd ih =>
    simp only [UInt8.lt_iff_toNat_lt, UInt8.toNat_ofNat, Bool.or_eq_true, decide_eq_true_eq,
      Bool.not_eq_true', Bool.not_eq_false, admitsSecond_iff, isContinuation_iff]
      at ha hlead hb hlong hc hlonger hd
    refine hstep (.four ?_ ?_ ?_ ?_ ?_ ?_) ?_ (ih h) <;> simp only [payload] <;> omega
  | _ => cases h

/-- `decode` gives a text if and only if the bytes are those of `encode`. -/
theorem decode_eq_ok {bytes : List UInt8} {text : String} :
    decode bytes = .ok text ↔ bytes = encode text := by
  rw [decode, encode]
  constructor
  · intro h
    cases hdecoded : decodeFrom 0 [] bytes with
    | error fault =>
      rw [hdecoded] at h
      cases h
    | ok chars =>
      rw [hdecoded] at h
      obtain rfl := Except.ok.inj h
      obtain ⟨more, hchars, hbytes⟩ := encode_of_decodeFrom hdecoded
      rw [hbytes, String.toList_ofList, hchars, List.reverse_nil, List.nil_append]
  · rintro rfl
    rw [decodeFrom_encode, List.reverse_nil, List.nil_append, Except.map, String.ofList_toList]

/-- Bytes are refused if and only if they are not those of any text. -/
lemma exists_decode_eq_error {bytes : List UInt8} :
    (∃ fault, decode bytes = .error fault) ↔ ∀ text, bytes ≠ encode text := by
  constructor
  · rintro ⟨fault, hfault⟩ text htext
    rw [decode_eq_ok.mpr htext] at hfault
    cases hfault
  · intro h
    cases hdecoded : decode bytes with
    | error fault => exact ⟨fault, rfl⟩
    | ok text => exact absurd (decode_eq_ok.mp hdecoded) (h text)

/-! ## Line feeds -/

lemma encode_append (text other : String) :
    encode (text ++ other) = encode text ++ encode other := by
  rw [encode, encode, encode, String.toList_append, List.flatMap_append]

lemma Form.getLast? {bytes : List UInt8} {v : Nat} (h : Form bytes v) :
    ∃ b, bytes.getLast? = some b ∧ (b.toNat < 0x80 → bytes = [b] ∧ v = b.toNat) := by
  cases h with
  | one ha hhigh => exact ⟨_, rfl, fun _ => ⟨rfl, ha.symm⟩⟩
  | @two a b v ha hb hlow hhigh => exact ⟨b, rfl, fun h => by omega⟩
  | @three a b c v ha hb hc hlow hhigh => exact ⟨c, rfl, fun h => by omega⟩
  | @four a b c d v ha hb hc hd hlow hhigh => exact ⟨d, rfl, fun h => by omega⟩

/-- Where the bytes of a text end with a line feed, the text does. -/
lemma encode_eq_concat_lineFeed {text : String} {bytes : List UInt8} :
    encode text = bytes ++ [0x0A] ↔ ∃ before, text = before ++ "\n" ∧ encode before = bytes := by
  constructor
  · intro h
    rcases List.eq_nil_or_concat text.toList with hempty | ⟨before, c, htext⟩
    · rw [encode, hempty] at h
      simp at h
    rw [List.concat_eq_append] at htext
    rw [encode, htext, List.flatMap_append, List.flatMap_singleton] at h
    obtain ⟨b, hlast, hform⟩ := (form_utf8EncodeChar c).getLast?
    have hb : b = 0x0A := by
      have hends := congrArg List.getLast? h
      rwa [List.getLast?_append, hlast, List.getLast?_concat, Option.some_or,
        Option.some.injEq] at hends
    subst hb
    obtain ⟨hbytes, hc⟩ := hform (by decide)
    rw [hbytes] at h
    refine ⟨String.ofList before, ?_, ?_⟩
    · have hlineFeed : c = '\n' := by
        rw [← Char.ofNat_toNat c, hc]
        rfl
      rw [← String.toList_inj, String.toList_append, String.toList_ofList, htext, hlineFeed]
      rfl
    · rw [encode, String.toList_ofList]
      exact List.append_cancel_right h
  · rintro ⟨before, rfl, rfl⟩
    rw [encode_append]
    rfl

end UriRouting.Utf8
