import Mathlib.Data.String.Basic
import Mathlib.Tactic
import UriRouting.Proofs.Template.Grammar
import UriRouting.Proofs.Template.Joined

/-!
# Where the placeholders of a template are

The scan of a template returns byte offsets, so the text of a placeholder is cut out of the template
without counting characters.  An offset is the number of bytes of all segments that stand before it
(`getElem?_locateFrom`); at the two offsets of a placeholder the template has braces, and between
them the body, whatever characters are around (`slices_of_mem`).  With the grammar of templates this
says all about what the scan returns and when it fails (`locate_grammar`).
-/

namespace UriRouting.Segment

/-! ## Offsets -/

lemma locateFrom_append (start : Nat) (first second : List Segment) :
    locateFrom start (first ++ second) =
      locateFrom start first ++ locateFrom (start + Utf8.byteLength (join first)) second := by
  induction first generalizing start with
  | nil => rfl
  | cons s first ih =>
    have hjoin : Utf8.byteLength (join (s :: first)) =
        Utf8.byteLength s.text + Utf8.byteLength (join first) := by
      rw [← Utf8.byteLength_append]
      rfl
    cases s with
    | literal text =>
      rw [List.cons_append, locateFrom, locateFrom, ih, hjoin, Nat.add_assoc]
      rfl
    | placeholder body =>
      rw [List.cons_append, locateFrom, locateFrom, ih, hjoin, byteLength_placeholder,
        List.cons_append]
      congr 3
      omega

lemma map_body_locateFrom (start : Nat) (segments : List Segment) :
    (locateFrom start segments).map Located.body = bodies segments := by
  induction segments generalizing start with
  | nil => rfl
  | cons s rest ih =>
    cases s with
    | literal text => exact ih _
    | placeholder body => exact congrArg (body :: ·) (ih _)

/-- The braces of a placeholder stand around its body, behind all that comes before. -/
lemma getElem?_locateFrom (before after : List Segment) (body : List Char) :
    (locateFrom 0 (before ++ placeholder body :: after))[(bodies before).length]? =
      some ⟨Utf8.byteLength (join before),
        Utf8.byteLength (join before ++ '\x7b' :: body), body⟩ := by
  have hlength : (bodies before).length = (locateFrom 0 before).length := by
    rw [← map_body_locateFrom 0 before, List.length_map]
  have hclosing : Utf8.byteLength (join before ++ '\x7b' :: body) =
      0 + Utf8.byteLength (join before) + 1 + Utf8.byteLength body := by
    have hone : Utf8.byteLength ('\x7b' :: body) = 1 + Utf8.byteLength body := rfl
    rw [Utf8.byteLength_append, hone]
    omega
  rw [hlength, locateFrom_append, List.getElem?_append_right le_rfl, Nat.sub_self, locateFrom,
    List.getElem?_cons_zero, hclosing, Nat.zero_add]

/-- Each placeholder ends before the next one begins. -/
lemma pairwise_locateFrom (start : Nat) (segments : List Segment) :
    (∀ p ∈ locateFrom start segments, start ≤ p.opening) ∧
      (locateFrom start segments).Pairwise fun p q => p.closing < q.opening := by
  induction segments generalizing start with
  | nil => exact ⟨by simp [locateFrom], .nil⟩
  | cons s rest ih =>
    cases s with
    | literal text =>
      obtain ⟨hstart, hpairs⟩ := ih (start + Utf8.byteLength text)
      refine ⟨?_, hpairs⟩
      intro p hp
      exact (Nat.le_add_right start _).trans (hstart p hp)
    | placeholder body =>
      obtain ⟨hstart, hpairs⟩ := ih (start + 1 + Utf8.byteLength body + 1)
      rw [locateFrom]
      constructor
      · intro p hp
        rcases List.mem_cons.mp hp with rfl | hp
        · exact le_rfl
        · have := hstart p hp
          omega
      · apply List.Pairwise.cons _ hpairs
        intro q hq
        exact hstart q hq

lemma exists_of_mem_locateFrom {start : Nat} {segments : List Segment} {p : Located}
    (h : p ∈ locateFrom start segments) :
    ∃ before after, segments = before ++ placeholder p.body :: after ∧
      p.opening = start + Utf8.byteLength (join before) ∧
      p.closing = p.opening + 1 + Utf8.byteLength p.body := by
  induction segments generalizing start with
  | nil => cases h
  | cons s rest ih =>
    -- a place behind the first segment is counted from the end of that segment
    have hlater {next : Nat} (hnext : next = start + Utf8.byteLength s.text)
        (h : p ∈ locateFrom next rest) :
        ∃ before after, s :: rest = before ++ placeholder p.body :: after ∧
          p.opening = start + Utf8.byteLength (join before) ∧
          p.closing = p.opening + 1 + Utf8.byteLength p.body := by
      obtain ⟨before, after, hrest, hopening, hclosing⟩ := ih h
      have hjoin : join (s :: before) = s.text ++ join before := rfl
      refine ⟨s :: before, after, by rw [hrest]; rfl, ?_, hclosing⟩
      rw [hopening, hnext, hjoin, Utf8.byteLength_append, Nat.add_assoc]
    cases s with
    | literal text => exact hlater rfl h
    | placeholder body =>
      rcases List.mem_cons.mp h with rfl | h
      · exact ⟨[], rest, rfl, rfl, rfl⟩
      · apply hlater _ h
        rw [byteLength_placeholder]
        omega

lemma byteLength_eq_utf8Len (text : List Char) :
    Utf8.byteLength text = String.utf8Len text := by
  induction text with
  | nil => rfl
  | cons c text ih =>
    rw [String.utf8Len_cons, ← ih, Nat.add_comm]
    rfl

/-- At the offsets of a placeholder the template has its braces, and its body between them. -/
lemma slices_of_eq {template : String} {before body after : List Char}
    (h : template.toList = before ++ '\x7b' :: (body ++ '\x7d' :: after)) :
    String.Pos.Raw.get? template ⟨Utf8.byteLength before⟩ = some '\x7b' ∧
      String.Pos.Raw.get? template ⟨Utf8.byteLength before + 1 + Utf8.byteLength body⟩ =
        some '\x7d' ∧
      String.Pos.Raw.extract template ⟨Utf8.byteLength before + 1⟩
        ⟨Utf8.byteLength before + 1 + Utf8.byteLength body⟩ = String.ofList body := by
  have htemplate := String.ofList_toList (s := template)
  rw [h] at htemplate
  have hopened : Utf8.byteLength before + 1 = String.utf8Len (before ++ ['\x7b']) := by
    rw [← byteLength_eq_utf8Len, Utf8.byteLength_append]
    rfl
  have hclosed : Utf8.byteLength before + 1 + Utf8.byteLength body =
      String.utf8Len (before ++ ['\x7b'] ++ body) := by
    rw [hopened, byteLength_eq_utf8Len, String.utf8Len_append (before ++ ['\x7b'])]
  refine ⟨?_, ?_, ?_⟩
  · rw [← htemplate, byteLength_eq_utf8Len, String.get?_of_valid]
    rfl
  · have hsplit : before ++ '\x7b' :: (body ++ '\x7d' :: after) =
        before ++ ['\x7b'] ++ body ++ '\x7d' :: after := by simp
    rw [← htemplate, hclosed, hsplit, String.get?_of_valid]
    rfl
  · have hsplit : before ++ '\x7b' :: (body ++ '\x7d' :: after) =
        before ++ ['\x7b'] ++ body ++ '\x7d' :: after := by simp
    have hslice := String.extract_of_valid (before ++ ['\x7b']) body ('\x7d' :: after)
    rw [← htemplate, hclosed, hopened, hsplit, String.utf8Len_append (before ++ ['\x7b'])]
    exact hslice

/-- A placeholder that is found has its braces in the template, and between them its body, which is
not empty. -/
lemma slices_of_mem {template : String} {segments : List Segment} {p : Located}
    (h : split template.toList = .ok segments) (hp : p ∈ locateFrom 0 segments) :
    p.opening + 1 < p.closing ∧
      String.Pos.Raw.get? template ⟨p.opening⟩ = some '\x7b' ∧
      String.Pos.Raw.get? template ⟨p.closing⟩ = some '\x7d' ∧
      String.Pos.Raw.extract template ⟨p.opening + 1⟩ ⟨p.closing⟩ = String.ofList p.body := by
  obtain ⟨before, after, rfl, hopening, hclosing⟩ := exists_of_mem_locateFrom hp
  have hbody : p.body ≠ [] := isRegular_of_split h (placeholder p.body) (by simp)
  have hlength : Utf8.byteLength p.body ≠ 0 := by
    rw [byteLength_eq_utf8Len, ne_eq, String.utf8Len_eq_zero]
    exact hbody
  have hwritten : template.toList = join before ++ '\x7b' :: (p.body ++ '\x7d' :: join after) := by
    rw [← join_split h]
    simp [join, text]
  rw [hclosing, hopening, Nat.zero_add]
  exact ⟨by omega, slices_of_eq hwritten⟩

/-! ## The scan -/

lemma locate_eq_ok_iff {template : List Char} {places : List Located} :
    locate template = .ok places ↔
      ∃ segments, split template = .ok segments ∧ locateFrom 0 segments = places := by
  rw [locate]
  cases split template <;> simp [Except.map]

lemma locate_eq_error_iff {template : List Char} {fault : BraceFault} :
    locate template = .error fault ↔ split template = .error fault := by
  rw [locate]
  cases split template <;> simp [Except.map]

/-- The scan of a template succeeds if and only if the template is well formed.  There is only one
way to cut it up, and the scan returns the byte offsets of the outermost braces in order: each
placeholder is where its braces stand in the template, with its body between them, and ends before
the next one begins.  Otherwise the fault is that of the first fatal beginning, whatever comes after
that, or else of the brace that is left open. -/
theorem locate_grammar (template : String) :
    ((∃ places, locate template.toList = .ok places) ↔
      ∃ segments, WellFormed segments ∧ join segments = template.toList) ∧
    (∀ first second, WellFormed first → WellFormed second → join first = template.toList →
      join second = template.toList → first = second) ∧
    (∀ places segments, locate template.toList = .ok places → WellFormed segments →
      join segments = template.toList →
      places.map Located.body = bodies segments ∧
      (∀ before body after, segments = before ++ placeholder body :: after →
        places[(bodies before).length]? = some ⟨Utf8.byteLength (join before),
          Utf8.byteLength (join before ++ '\x7b' :: body), body⟩) ∧
      places.Pairwise (fun p q => p.closing < q.opening) ∧
      ∀ p ∈ places, p.opening + 1 < p.closing ∧
        String.Pos.Raw.get? template ⟨p.opening⟩ = some '\x7b' ∧
        String.Pos.Raw.get? template ⟨p.closing⟩ = some '\x7d' ∧
        String.Pos.Raw.extract template ⟨p.opening + 1⟩ ⟨p.closing⟩ = String.ofList p.body) ∧
    (∀ fault, locate template.toList = .error fault ↔ Fails template.toList fault) ∧
    ∀ start fault more, IsFirstFatal start fault → locate (start ++ more) = .error fault := by
  refine ⟨?_, ?_, ?_, ?_, ?_⟩
  · simp only [locate_eq_ok_iff, ← split_eq_ok_iff]
    constructor
    · rintro ⟨places, segments, hsplit, -⟩
      exact ⟨segments, hsplit⟩
    · rintro ⟨segments, hsplit⟩
      exact ⟨_, segments, hsplit, rfl⟩
  · intro first second hfirst hsecond hjoin hjoin'
    have hone := split_eq_ok_iff.mpr ⟨hfirst, hjoin⟩
    have htwo := split_eq_ok_iff.mpr ⟨hsecond, hjoin'⟩
    exact Except.ok.inj (hone.symm.trans htwo)
  · intro places segments hplaces hsegments hjoin
    have hsplit := split_eq_ok_iff.mpr ⟨hsegments, hjoin⟩
    obtain ⟨found, hfound, rfl⟩ := locate_eq_ok_iff.mp hplaces
    obtain rfl : found = segments := Except.ok.inj (hfound.symm.trans hsplit)
    refine ⟨map_body_locateFrom 0 found, ?_, (pairwise_locateFrom 0 found).2, ?_⟩
    · rintro before body after rfl
      exact getElem?_locateFrom before after body
    · intro p hp
      exact slices_of_mem hsplit hp
  · intro fault
    rw [locate_eq_error_iff, split_eq_error_iff]
  · intro start fault more hstart
    rw [locate_eq_error_iff, split_eq_error_iff, fails_iff_of_isFirstFatal hstart]

end UriRouting.Segment
