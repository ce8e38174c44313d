import Mathlib.Tactic
import UriRouting.Proofs.Expression.SteadyStep
import UriRouting.Proofs.Template.Parentheses

/-!
# What does not matter to the check

Apart from parentheses, backslashes and the brackets of a class, whatever the reader of an
expression takes has no mark of the check in it: code points, the names of properties and of the
edges of words, flags and counts are spelled with other characters.  The names of groups may have a
closing bracket in them, but they stand where no class is open, and there it does not matter either.

All this holds as long as comments are not switched on, since a comment can hold anything.
-/

namespace UriRouting.Expression

open Placeholder

lemma skip_eq_self {flags : Flags} (h : flags.extended = false) (text : List Char) :
    flags.skip text = text := by
  simp [Flags.skip, h]

lemma advance_eq_drop {flags : Flags} (h : flags.extended = false) (text : List Char) :
    advance flags text = text.drop 1 := skip_eq_self h _

/-- The text from here to the rest does not matter to the check, and does not end with a hyphen. -/
def UnmarkedUpTo (text rest : List Char) : Prop :=
  ∃ taken, text = taken ++ rest ∧ Unmarked taken ∧ taken.getLast? ≠ some '-'

lemma unmarkedUpTo_refl (text : List Char) : UnmarkedUpTo text text :=
  ⟨[], rfl, unmarked_nil, by simp⟩

/-! ## Code points -/

/-- A hexadecimal digit is no mark and no hyphen. -/
lemma not_mem_of_hexDigit? {c : Char} (h : (hexDigit? c).isSome) : c ∉ '-' :: marks := by
  have hnone : (('-' :: marks).any fun m => (hexDigit? m).isSome) = false := by decide
  exact fun hc => List.any_eq_false.mp hnone c hc h

lemma unmarked_of_hexDigits {digits : List Char} (h : ∀ c ∈ digits, (hexDigit? c).isSome) :
    Unmarked digits ∧ digits.getLast? ≠ some '-' := by
  refine ⟨fun c hc hmark => not_mem_of_hexDigit? (h c hc) (List.mem_cons_of_mem _ hmark), ?_⟩
  intro hlast
  exact not_mem_of_hexDigit? (h '-' (List.mem_of_getLast? hlast)) List.mem_cons_self

lemma hexDigits_taken {flags : Flags} (hflags : flags.extended = false) {count value n : Nat}
    {text rest : List Char} (h : hexDigits flags count value text = .ok (n, rest)) :
    ∃ digits, text = digits ++ rest ∧ ∀ c ∈ digits, (hexDigit? c).isSome := by
  induction count generalizing value text with
  | zero =>
    obtain ⟨rfl, rfl⟩ : value = n ∧ text = rest := by simpa [hexDigits] using h
    exact ⟨[], rfl, by simp⟩
  | succ count ih =>
    cases text with
    | nil => simp [hexDigits] at h
    | cons c tail =>
      simp only [hexDigits, skip_eq_self hflags] at h
      split at h
      next d hd =>
        obtain ⟨digits, rfl, hdigits⟩ := ih h
        exact ⟨c :: digits, rfl, List.forall_mem_cons.mpr ⟨by simp [hd], hdigits⟩⟩
      next => cases h

lemma digits_of_hexNumber? {digits : List Char} {n : Nat} (h : hexNumber? digits = some n) :
    ∀ c ∈ digits, (hexDigit? c).isSome := by
  induction digits using List.reverseRecOn generalizing n with
  | nil => simp
  | append_singleton digits c ih =>
    simp only [hexNumber?, List.foldl_append, List.foldl_cons, List.foldl_nil,
      Option.bind_eq_some_iff, Option.map_eq_some_iff] at h
    obtain ⟨before, hbefore, d, hd, _⟩ := h
    exact List.forall_mem_append.mpr ⟨ih hbefore, List.forall_mem_singleton.mpr (by simp [hd])⟩

/-- What stands between braces is all up to the first closing brace. -/
lemma eq_of_braced {flags : Flags} (hflags : flags.extended = false) {c : Char}
    {tail content rest : List Char} (h : braced flags (c :: tail) = some (content, rest)) :
    tail = content ++ '\x7d' :: rest := by
  unfold braced at h
  generalize (c :: tail).length = fuel at h
  induction fuel generalizing c tail content with
  | zero => cases h
  | succ fuel ih =>
    rw [bracedWithin, advance_cons, skip_eq_self hflags] at h
    cases tail with
    | nil => cases h
    | cons d tail =>
      simp only at h
      split at h
      next hd =>
        obtain ⟨rfl, rfl⟩ : [] = content ∧ tail = rest := by simpa using h
        simp [hd]
      next =>
        obtain ⟨⟨inner, last⟩, hinner, hsame⟩ := Option.map_eq_some_iff.mp h
        obtain ⟨rfl, rfl⟩ : d :: inner = content ∧ last = rest := by simpa using hsame
        rw [ih hinner, List.cons_append]

lemma unmarkedUpTo_braced {flags : Flags} (hflags : flags.extended = false)
    {tail content rest : List Char} (h : braced flags ('\x7b' :: tail) = some (content, rest))
    (hcontent : Unmarked content) : UnmarkedUpTo ('\x7b' :: tail) rest := by
  refine ⟨'\x7b' :: (content ++ ['\x7d']), by simp [eq_of_braced hflags h],
    (hcontent.append (.single (by decide))).cons (by decide), ?_⟩
  rw [← List.cons_append, List.getLast?_concat]
  decide

lemma codePoint_unmarked {flags : Flags} (hflags : flags.extended = false) {count : Nat} {a : Atom}
    {text rest : List Char} (h : codePoint flags count text = .ok (a, rest)) :
    UnmarkedUpTo text rest := by
  rw [codePoint, skip_eq_self hflags] at h
  cases text with
  | nil => cases h
  | cons c tail =>
    simp only [skip_eq_self hflags] at h
    split at h
    next hc =>
      subst hc
      split at h
      next => cases h
      next digits left hbraced =>
        split at h
        next => cases h
        next =>
          split at h
          next => cases h
          next n hn =>
            split at h
            next =>
              obtain ⟨_, rfl⟩ := Prod.mk.inj (Except.ok.inj h)
              exact unmarkedUpTo_braced hflags hbraced
                (unmarked_of_hexDigits (digits_of_hexNumber? hn)).1
            next => cases h
    next =>
      split at h
      next => cases h
      next n left hdigits =>
        split at h
        next =>
          obtain ⟨_, rfl⟩ := Prod.mk.inj (Except.ok.inj h)
          obtain ⟨digits, htext, hhex⟩ := hexDigits_taken hflags hdigits
          exact ⟨digits, htext, unmarked_of_hexDigits hhex⟩
        next => cases h

/-! ## Names of properties -/

/-- Has no name of some tables a byte of a mark?  The bytes of a text are at hand, while its
characters would have to be decoded, and there are many names. -/
def namesUnmarked (tables : List (List String × List String)) : Bool :=
  tables.all fun t => t.1.all fun name => name.toByteArray.data.toList.all fun b =>
    marks.all fun m => m.toNat != b.toNat

lemma unmarked_of_names {tables : List (List String × List String)}
    (htables : namesUnmarked tables = true) {names lines : List String} {name : String}
    (ht : (names, lines) ∈ tables) (hname : name ∈ names) : Unmarked name.toList := by
  intro c hc hmark
  have hbytes : name.toByteArray.data.toList = name.toList.flatMap String.utf8EncodeChar := by
    rw [← String.utf8Encode_toList, List.utf8Encode]
    simp
  -- A mark is encoded as the byte of its number.
  obtain ⟨hb, hsame⟩ : UInt8.ofNat c.toNat ∈ String.utf8EncodeChar c ∧
      c.toNat = (UInt8.ofNat c.toNat).toNat := by
    simp only [marks, List.mem_cons, List.not_mem_nil, or_false] at hmark
    rcases hmark with rfl | rfl | rfl | rfl | rfl <;> decide
  have hmem : UInt8.ofNat c.toNat ∈ name.toByteArray.data.toList := by
    rw [hbytes]
    exact List.mem_flatMap.mpr ⟨c, hc, hb⟩
  simp only [namesUnmarked, List.all_eq_true] at htables
  have hother := htables _ ht name hname _ hmem c hmark
  simp [← hsame] at hother

/-- A table is found by one of its names. -/
lemma unmarked_of_tableNamed? {tables : List (List String × List String)} {name : String}
    {lines : List String} (htables : namesUnmarked tables = true)
    (h : CharSet.tableNamed? tables name = some lines) : Unmarked name.toList := by
  obtain ⟨t, ht, _⟩ := Option.map_eq_some_iff.mp h
  have hname : name ∈ t.1 := by simpa using List.find?_some ht
  exact unmarked_of_names htables (List.mem_of_find?_eq_some ht) hname

lemma unmarked_of_namedSet {tables : List (List String × List String)} {name : String}
    {set : CharSet} (htables : namesUnmarked tables = true)
    (h : (CharSet.tableNamed? tables name).map CharSet.ofTable = some set) :
    Unmarked name.toList := by
  obtain ⟨lines, hlines, _⟩ := Option.map_eq_some_iff.mp h
  exact unmarked_of_tableNamed? htables hlines

lemma unmarked_of_property? {name : String} {set : CharSet}
    (h : CharSet.property? name = some set) : Unmarked name.toList :=
  unmarked_of_namedSet (by decide +kernel) h

lemma unmarked_of_script? {name : String} {set : CharSet}
    (h : CharSet.script? name = some set) : Unmarked name.toList :=
  unmarked_of_namedSet (by decide +kernel) h

lemma unmarked_of_sharedScript? {name : String} {set : CharSet}
    (h : CharSet.sharedScript? name = some set) : Unmarked name.toList := by
  unfold CharSet.sharedScript? at h
  cases htable : CharSet.tableNamed? CharSet.sharedScriptTables name with
  | some lines => exact unmarked_of_tableNamed? (by decide +kernel) htable
  | none =>
    rw [htable] at h
    exact unmarked_of_script? h

/-- `agesUpTo?` ends with a version of the name that it looks for. -/
lemma exists_mem_of_agesUpTo? {version : String} {tables : List (List String × List String)}
    {lines : List String} (h : CharSet.agesUpTo? version tables = some lines) :
    ∃ t ∈ tables, version ∈ t.1 := by
  induction tables generalizing lines with
  | nil => cases h
  | cons t later ih =>
    rw [CharSet.agesUpTo?] at h
    split at h
    next hfound => exact ⟨t, List.mem_cons_self, List.contains_iff_mem.mp hfound⟩
    next =>
      obtain ⟨rest, hrest, _⟩ := Option.map_eq_some_iff.mp h
      obtain ⟨t', ht', hname⟩ := ih hrest
      exact ⟨t', List.mem_cons_of_mem _ ht', hname⟩

lemma unmarked_of_upToAge? {version : String} {set : CharSet}
    (h : CharSet.upToAge? version = some set) : Unmarked version.toList := by
  obtain ⟨lines, hlines, _⟩ := Option.map_eq_some_iff.mp h
  obtain ⟨t, ht, hname⟩ := exists_mem_of_agesUpTo? hlines
  have hages : namesUnmarked CharSet.ageTables = true := by decide +kernel
  exact unmarked_of_names hages ht hname

lemma unmarked_of_category? {name : String} {set : CharSet}
    (h : CharSet.category? name = some set) : Unmarked name.toList := by
  have hliteral {literal : String} (hname : (name == literal) = true)
      (hunmarked : Unmarked literal.toList) : Unmarked name.toList := by
    rwa [beq_iff_eq.mp hname]
  unfold CharSet.category? at h
  split_ifs at h with hany hassigned hascii hother hgroup
  · exact hliteral hany (by decide)
  · exact hliteral hassigned (by decide)
  · exact hliteral hascii (by decide)
  · exact (Bool.or_eq_true _ _ ▸ hother).elim (hliteral · (by decide)) (hliteral · (by decide))
  · exact (Bool.or_eq_true _ _ ▸ hgroup).elim (hliteral · (by decide)) (hliteral · (by decide))
  · split at h
    next g hfound =>
      have hgroups : namesUnmarked CharSet.categoryGroups = true := by decide +kernel
      have hname : name ∈ g.1 := by simpa using List.find?_some hfound
      exact unmarked_of_names hgroups (List.mem_of_find?_eq_some hfound) hname
    next => exact unmarked_of_namedSet (by decide +kernel) h

/-- The form in which names are compared keeps all marks. -/
lemma mem_comparisonForm {c : Char} {name : List Char} (hc : c ∈ marks) (h : c ∈ name) :
    c ∈ (CharSet.comparisonForm name).toList := by
  obtain ⟨hkeep, hlower, hletter⟩ :
      (decide (c.toNat < 0x80) && c != ' ' && c != '_' && c != '-') = true ∧ c.toLower = c ∧
        c ∉ ['i', 'I', 's', 'S', 'c'] := by
    simp only [marks, List.mem_cons, List.not_mem_nil, or_false] at hc
    rcases hc with rfl | rfl | rfl | rfl | rfl <;> decide
  have hmem {text : List Char} (htext : c ∈ text) : c ∈ (text.filter fun c =>
      c.toNat < 0x80 && c != ' ' && c != '_' && c != '-').map Char.toLower :=
    List.mem_map.mpr ⟨c, List.mem_filter.mpr ⟨htext, hkeep⟩, hlower⟩
  unfold CharSet.comparisonForm
  extract_lets hasIs kept
  have hcut : c ∈ if hasIs then name.drop 2 else name := by
    split
    next hIs =>
      simp only [hasIs] at hIs
      split at hIs
      next a b rest =>
        -- The letters of "is" are no marks.
        rcases List.mem_cons.mp h with rfl | h
        · simp_all
        · rcases List.mem_cons.mp h with rfl | h
          · simp_all
          · exact h
      next => cases hIs
    next => exact h
  have hkept : c ∈ kept := hmem hcut
  split
  next hsame =>
    have hone : kept = ['c'] := of_decide_eq_true (Bool.and_eq_true _ _ ▸ hsame).2
    rw [hone] at hkept
    simp_all
  next => simpa using hkept

/-- The parts between which a text is cut make it up. -/
lemma eq_of_splitAt? {part text before after : List Char}
    (h : splitAt? part text = some (before, after)) : text = before ++ (part ++ after) := by
  induction text generalizing before with
  | nil =>
    simp only [splitAt?] at h
    split at h
    next hpart =>
      obtain ⟨rfl, rfl⟩ : [] = before ∧ [] = after := by simpa using h
      simp [List.isEmpty_iff.mp hpart]
    next => cases h
  | cons c text ih =>
    rw [splitAt?] at h
    split at h
    next hprefix =>
      obtain ⟨rfl, rfl⟩ : [] = before ∧ (c :: text).drop part.length = after := by simpa using h
      obtain ⟨rest, hrest⟩ := List.isPrefixOf_iff_prefix.mp hprefix
      rw [← hrest]
      simp
    next =>
      obtain ⟨⟨start, last⟩, hfound, hsame⟩ := Option.map_eq_some_iff.mp h
      obtain ⟨rfl, rfl⟩ : c :: start = before ∧ last = after := by simpa using hsame
      rw [ih hfound, List.cons_append]

lemma unmarked_of_comparisonForm {name : List Char}
    (h : Unmarked (CharSet.comparisonForm name).toList) : Unmarked name :=
  fun c hc hmark => h c (mem_comparisonForm hmark hc) hmark

lemma unmarked_of_propertyName {name : List Char} {set : CharSet}
    (h : CharSet.ofPropertyName name = .ok set) : Unmarked name := by
  refine unmarked_of_comparisonForm ?_
  unfold CharSet.ofPropertyName at h
  extract_lets form at h
  cases hproperty : CharSet.property? form with
  | some _ => exact unmarked_of_property? hproperty
  | none =>
    cases hcategory : CharSet.category? form with
    | some _ => exact unmarked_of_category? hcategory
    | none =>
      cases hscript : CharSet.script? form with
      | some _ => exact unmarked_of_script? hscript
      | none => simp [hproperty, hcategory, hscript] at h

lemma unmarked_of_propertyValue {name value : List Char} {set : CharSet}
    (h : CharSet.ofPropertyValue name value = .ok set) : Unmarked name ∧ Unmarked value := by
  have heither {form first second : String} (hform : (form == first || form == second) = true)
      (hfirst : Unmarked first.toList) (hsecond : Unmarked second.toList) :
      Unmarked form.toList := by
    rcases Bool.or_eq_true _ _ ▸ hform with hform | hform
    · rwa [beq_iff_eq.mp hform]
    · rwa [beq_iff_eq.mp hform]
  have hforms : Unmarked (CharSet.comparisonForm name).toList ∧
      Unmarked (CharSet.comparisonForm value).toList := by
    unfold CharSet.ofPropertyValue at h
    extract_lets form given found at h
    have hfound : found = some set := by
      cases hfound : found <;> simp_all
    simp only [found] at hfound
    split_ifs at hfound with hcategory hscript hshared hage hgrapheme hword hsentence
    · exact ⟨heither hcategory (by decide) (by decide), unmarked_of_category? hfound⟩
    · exact ⟨heither hscript (by decide) (by decide), unmarked_of_script? hfound⟩
    · exact ⟨heither hshared (by decide) (by decide), unmarked_of_sharedScript? hfound⟩
    · have hname : CharSet.comparisonForm name = "age" := beq_iff_eq.mp hage
      refine ⟨?_, unmarked_of_upToAge? hfound⟩
      rw [hname]
      decide
    · exact ⟨heither hgrapheme (by decide) (by decide),
        unmarked_of_namedSet (by decide +kernel) hfound⟩
    · exact ⟨heither hword (by decide) (by decide),
        unmarked_of_namedSet (by decide +kernel) hfound⟩
    · exact ⟨heither hsentence (by decide) (by decide),
        unmarked_of_namedSet (by decide +kernel) hfound⟩
  exact ⟨unmarked_of_comparisonForm hforms.1, unmarked_of_comparisonForm hforms.2⟩

/-- A query that finds a class has no mark in it. -/
lemma unmarked_of_queriedSet {query : List Char} {found : Bool × CharSet}
    (h : queriedSet query = .ok found) : Unmarked query := by
  have hvalue {part name value : List Char} (hsplit : query = name ++ (part ++ value))
      (hpart : Unmarked part) {unequal : Bool}
      (hset : (CharSet.ofPropertyValue name value).map (unequal, ·) = .ok found) :
      Unmarked query := by
    cases hclass : CharSet.ofPropertyValue name value with
    | error _ => simp [hclass, Except.map] at hset
    | ok set =>
      obtain ⟨hname, hgiven⟩ := unmarked_of_propertyValue hclass
      rw [hsplit]
      exact hname.append (hpart.append hgiven)
  unfold queriedSet at h
  split at h
  next name value hsplit => exact hvalue (eq_of_splitAt? hsplit) (by decide) h
  next =>
    split at h
    next name value hsplit =>
      rcases Option.or_eq_some_iff.mp hsplit with hsplit | ⟨_, hsplit⟩
      · exact hvalue (eq_of_splitAt? hsplit) (by decide) h
      · exact hvalue (eq_of_splitAt? hsplit) (by decide) h
    next =>
      cases hclass : CharSet.ofPropertyName query with
      | error _ => simp [hclass, Except.map] at h
      | ok set => exact unmarked_of_propertyName hclass

lemma unmarked_of_queriedAtom {flags : Flags} {negated : Bool} {query : List Char} {a : Atom}
    (h : queriedAtom flags negated query = .ok a) : Unmarked query ∧ query ≠ ['-'] := by
  unfold queriedAtom at h
  split at h
  next => cases h
  next =>
    cases hquery : queriedSet query with
    | error _ => simp [hquery] at h
    | ok found =>
      refine ⟨unmarked_of_queriedSet hquery, ?_⟩
      rintro rfl
      have hnone : (queriedSet ['-']).isOk = false := by decide +kernel
      rw [hquery] at hnone
      cases hnone

lemma propertyClass_unmarked {flags : Flags} (hflags : flags.extended = false) {negated : Bool}
    {a : Atom} {text rest : List Char} (h : propertyClass flags negated text = .ok (a, rest)) :
    UnmarkedUpTo text rest := by
  rw [propertyClass_eq, skip_eq_self hflags] at h
  cases text with
  | nil => cases h
  | cons c tail =>
    simp only [skip_eq_self hflags] at h
    split at h
    next hc =>
      subst hc
      split at h
      next => cases h
      next query left hbraced =>
        obtain ⟨hatom, rfl⟩ := map_pair_eq_ok h
        exact unmarkedUpTo_braced hflags hbraced (unmarked_of_queriedAtom hatom).1
    next =>
      split at h
      next => cases h
      next =>
        obtain ⟨hatom, rfl⟩ := map_pair_eq_ok h
        obtain ⟨hunmarked, hhyphen⟩ := unmarked_of_queriedAtom hatom
        exact ⟨[c], rfl, hunmarked, by simpa using hhyphen⟩

/-! ## Escapes -/

lemma unmarked_of_wordEdge? {name : List Char} {edge : WordEdge}
    (h : wordEdge? name = some edge) : Unmarked name := by
  unfold wordEdge? at h
  split_ifs at h with hstart hstop hstartHalf hstopHalf
  · exact hstart ▸ by decide
  · exact hstop ▸ by decide
  · exact hstartHalf ▸ by decide
  · exact hstopHalf ▸ by decide

lemma wordBoundary_unmarked {flags : Flags} (hflags : flags.extended = false) {a : Atom}
    {text rest : List Char} (h : wordBoundary flags text = .ok (a, rest)) :
    UnmarkedUpTo text rest := by
  have hplain (hsame : Except.ok (ε := ExpressionFault)
      (Atom.look (.word .boundary flags.unicode), text) = .ok (a, rest)) :
      UnmarkedUpTo text rest := by
    obtain ⟨_, rfl⟩ := Prod.mk.inj (Except.ok.inj hsame)
    exact unmarkedUpTo_refl text
  unfold wordBoundary at h
  split at h
  next => exact hplain h
  next c tail =>
    split at h
    next => exact hplain h
    next hc =>
      obtain rfl := not_not.mp hc
      split at h
      next => cases h
      next =>
        split at h
        next => exact hplain h
        next =>
          split at h
          next => cases h
          next name left hbraced =>
            split at h
            next edge hedge =>
              obtain ⟨_, rfl⟩ := Prod.mk.inj (Except.ok.inj h)
              exact unmarkedUpTo_braced hflags hbraced (unmarked_of_wordEdge? hedge)
            next => cases h

/-- What an escape takes behind its letter does not matter to the check. -/
theorem escape_unmarked {flags : Flags} (hflags : flags.extended = false) {c : Char} {a : Atom}
    {tail rest : List Char} (h : escape flags (c :: tail) = .ok (a, rest)) :
    UnmarkedUpTo tail rest := by
  rcases escape_cons flags c with ⟨count, hcode⟩ | ⟨negated, hproperty⟩ | hboundary | ⟨atom, hatom⟩
  · rw [hcode] at h
    exact codePoint_unmarked hflags h
  · rw [hproperty] at h
    exact propertyClass_unmarked hflags h
  · rw [hboundary] at h
    exact wordBoundary_unmarked hflags h
  · rw [hatom] at h
    obtain ⟨_, rfl⟩ := map_pair_eq_ok h
    exact unmarkedUpTo_refl tail

/-! ## Names of groups -/

/-- A plain name leaves the check where it is. -/
lemma groupName_passes {names : List (List Char)} {text name rest : List Char}
    (h : groupName names text = .ok (name, rest)) (hplain : plainName text = true) :
    ∃ taken, text = taken ++ rest ∧ Passes .outside taken .outside := by
  rw [groupName_eq] at h
  split at h
  next => cases h
  next closer left hdrop =>
    obtain ⟨_, rfl⟩ := map_pair_eq_ok h
    have hcloser : closer = '>' := by
      have := List.head_dropWhile_not (p := (· != '>')) (l := text) (by simp [hdrop])
      simpa [hdrop] using this
    subst hcloser
    refine ⟨text.takeWhile (· != '>') ++ ['>'], ?_, passes_outside fun c hc => ?_⟩
    · rw [List.append_assoc, List.singleton_append, ← hdrop, List.takeWhile_append_dropWhile]
    · rcases List.mem_append.mp hc with hc | hc
      · simpa using List.all_eq_true.mp hplain c hc
      · rw [List.mem_singleton.mp hc]
        decide

/-! ## Flags -/

/-- The letter of a flag is no mark, and only one of them has to do with comments. -/
lemma letter_of_set? {flags after : Flags} {c : Char} {on : Bool}
    (h : flags.set? c on = some after) :
    c ∉ marks ∧ after.extended = if c = 'x' then on else flags.extended := by
  unfold Flags.set? at h
  split_ifs at h with hi hm hs hU hu hR hx
  all_goals
    subst c
    obtain rfl := Option.some.inj h
    exact ⟨by decide, rfl⟩

/-- The letters of flags are no marks, and comments stay off if they are not switched on. -/
lemma readFlags_unmarked {flags after : Flags} {seen : List Char} {negated isEmpty : Bool}
    {sign : Char} {text rest : List Char}
    (h : readFlags flags seen negated text = .ok (after, isEmpty, sign, rest)) :
    (sign = ':' ∨ sign = ')') ∧ (∃ letters, text = letters ++ sign :: rest ∧ Unmarked letters) ∧
      (flags.extended = false → negated = true ∨ (switchedOn text).contains 'x' = false →
        after.extended = false) := by
  induction text generalizing flags seen negated with
  | nil => cases h
  | cons c tail ih =>
    by_cases hsign : c = ':' ∨ c = ')'
    · rw [readFlags, if_pos (by simpa using hsign)] at h
      split at h
      next => cases h
      next =>
        simp only [Except.ok.injEq, Prod.mk.injEq] at h
        obtain ⟨rfl, _, rfl, rfl⟩ := h
        exact ⟨hsign, ⟨[], rfl, unmarked_nil⟩, fun hflags _ => hflags⟩
    · rw [readFlags_letter hsign] at h
      split at h
      next => cases h
      next =>
        split at h
        next hminus =>
          subst hminus
          obtain ⟨hend, ⟨letters, rfl, hletters⟩, hextended⟩ := ih h
          exact ⟨hend, ⟨'-' :: letters, rfl, hletters.cons (by decide)⟩,
            fun hflags _ => hextended hflags (.inl rfl)⟩
        next hminus =>
          split at h
          next flags' hset =>
            obtain ⟨hend, ⟨letters, rfl, hletters⟩, hextended⟩ := ih h
            obtain ⟨hletter, hon⟩ := letter_of_set? hset
            refine ⟨hend, ⟨c :: letters, rfl, hletters.cons hletter⟩, fun hflags hx => ?_⟩
            rw [switchedOn_cons hsign hminus, List.contains_cons, Bool.or_eq_false_iff] at hx
            refine hextended ?_ (hx.imp_right And.right)
            rw [hon]
            split
            next hc =>
              subst hc
              simpa using hx
            next => exact hflags
          next => cases h

/-! ## Quantifiers -/

lemma unmarked_takeWhile {kind : Char → Bool} (hkind : marks.any kind = false)
    (text : List Char) : Unmarked (text.takeWhile kind) := by
  intro c hc hmark
  have htaken := List.all_eq_true.mp (List.all_takeWhile (l := text)) c hc
  exact List.any_eq_false.mp hkind c hmark htaken

lemma sign_unmarked {r r' : Reader} {least : Nat} {most : Option Nat} {text rest : List Char}
    (h : r.sign least most text = .ok (r', rest)) :
    ∃ taken, text = taken ++ rest ∧ Unmarked taken := by
  unfold Reader.sign at h
  split at h
  · obtain ⟨_, rfl⟩ := map_pair_eq_ok h
    exact ⟨['?'], rfl, by decide⟩
  · obtain ⟨_, rfl⟩ := map_pair_eq_ok h
    exact ⟨[], rfl, unmarked_nil⟩

section Counts

variable {flags : Flags} (hflags : flags.extended = false)
include hflags

lemma countDigits_unmarked (fuel : Nat) (text : List Char) :
    ∃ taken, text = taken ++ (countDigits flags fuel text).2 ∧ Unmarked taken := by
  induction fuel generalizing text with
  | zero => exact ⟨[], rfl, unmarked_nil⟩
  | succ fuel ih =>
    cases text with
    | nil => exact ⟨[], rfl, unmarked_nil⟩
    | cons c tail =>
      simp only [countDigits, advance_cons, skip_eq_self hflags]
      split
      next hdigit =>
        have hmark : c ∉ marks := by
          have hnone : marks.any Char.isDigit = false := by decide
          exact fun hc => List.any_eq_false.mp hnone c hc hdigit
        obtain ⟨taken, htail, htaken⟩ := ih tail
        exact ⟨c :: taken, congrArg (c :: ·) htail, htaken.cons hmark⟩
      next => exact ⟨[], rfl, unmarked_nil⟩

lemma count_unmarked {n : Option Nat} {text rest : List Char}
    (h : count flags text = .ok (n, rest)) : ∃ taken, text = taken ++ rest ∧ Unmarked taken := by
  have hblank (text : List Char) : Unmarked (text.takeWhile isBlank) :=
    unmarked_takeWhile (by decide) text
  rw [count_eq] at h
  simp only [skip_eq_self hflags] at h
  obtain ⟨_, hrest⟩ := map_pair_eq_ok h
  generalize hstart : text.dropWhile isBlank = start at hrest
  obtain ⟨digits, hdigits, hunmarked⟩ := countDigits_unmarked hflags start.length start
  generalize (countDigits flags start.length start).2 = behind at hdigits hrest
  refine ⟨text.takeWhile isBlank ++ (digits ++ behind.takeWhile isBlank), ?_,
    (hblank text).append (hunmarked.append (hblank behind))⟩
  rw [← hrest, List.append_assoc, List.append_assoc, List.takeWhile_append_dropWhile, ← hdigits,
    ← hstart, List.takeWhile_append_dropWhile]

lemma boundsBehind_unmarked {first : Option Nat} {least : Nat} {most : Option Nat}
    {text rest : List Char} (h : boundsBehind flags first text = .ok (least, most, rest)) :
    ∃ taken, text = taken ++ rest ∧ Unmarked taken := by
  cases first with
  | none => exact absurd h (boundsBehind_none flags text _)
  | some first =>
    cases text with
    | nil => cases h
    | cons c tail =>
      by_cases hc : c = ','
      · subst hc
        rw [boundsBehind_comma, skip_eq_self hflags] at h
        split at h
        next => cases h
        next d left =>
          split at h
          next =>
            simp only [Except.ok.injEq, Prod.mk.injEq] at h
            obtain ⟨_, _, rfl⟩ := h
            exact ⟨[','], rfl, by decide⟩
          next =>
            split at h
            next => cases h
            next second after hcount =>
              simp only [Except.ok.injEq, Prod.mk.injEq] at h
              obtain ⟨_, _, rfl⟩ := h
              obtain ⟨taken, htext, htaken⟩ := count_unmarked hflags hcount
              exact ⟨',' :: taken, congrArg (',' :: ·) htext, htaken.cons (by decide)⟩
            next => cases h
      · rw [boundsBehind_of_ne flags first hc] at h
        simp only [Except.ok.injEq, Prod.mk.injEq] at h
        obtain ⟨_, _, rfl⟩ := h
        exact ⟨[], rfl, unmarked_nil⟩

end Counts

lemma countEnd_unmarked {r r' : Reader} (hflags : r.flags.extended = false) {least : Nat}
    {most : Option Nat} {text rest : List Char}
    (h : countEnd r least most text = .ok (r', rest)) :
    ∃ taken, text = taken ++ rest ∧ Unmarked taken := by
  cases text with
  | nil => cases h
  | cons c tail =>
    by_cases hc : c = '\x7d'
    · subst hc
      rw [countEnd_brace, skip_eq_self hflags] at h
      split at h
      next => cases h
      next =>
        obtain ⟨_, rfl⟩ := map_pair_eq_ok h
        split
        next hlazy =>
          obtain ⟨left, rfl⟩ : ∃ left, tail = '?' :: left := by
            cases tail with
            | nil => cases hlazy
            | cons d left => exact ⟨left, by simpa using hlazy⟩
          exact ⟨['\x7d', '?'], rfl, by decide⟩
        next => exact ⟨['\x7d'], rfl, by decide⟩
    · have hsign : (some c != some '\x7d') = true := by simpa using hc
      simp [countEnd, hsign, throw, throwThe, MonadExceptOf.throw, bind, Except.bind] at h

/-- A count between braces does not matter to the check. -/
lemma counted_unmarked {r r' : Reader} (hflags : r.flags.extended = false) {c : Char}
    {tail rest : List Char} (h : r.counted (c :: tail) = .ok (r', rest)) :
    ∃ taken, tail = taken ++ rest ∧ Unmarked taken := by
  rw [counted_cons, skip_eq_self hflags] at h
  split at h
  next => cases h
  next =>
    split at h
    next => cases h
    next =>
      obtain ⟨⟨first, left⟩, hcount, h⟩ := bind_eq_ok h
      obtain ⟨⟨least, most, last⟩, hbounds, hend⟩ := bind_eq_ok h
      obtain ⟨digits, rfl, hdigits⟩ := count_unmarked hflags hcount
      obtain ⟨bounds, hleft, hbounds⟩ := boundsBehind_unmarked hflags hbounds
      obtain ⟨closer, hlast, hcloser⟩ := countEnd_unmarked hflags hend
      refine ⟨digits ++ (bounds ++ closer), ?_, hdigits.append (hbounds.append hcloser)⟩
      simp only at hleft hlast
      rw [hleft, hlast, List.append_assoc, List.append_assoc]

end UriRouting.Expression
