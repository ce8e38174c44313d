import Mathlib.Tactic
import UriRouting.Proofs.Template.Tokens

/-!
# The grammar of templates

A template is well formed if it consists of literals and placeholders in turn, where no literal has
a brace in it and the body of every placeholder is not empty and balanced (`WellFormed`).  Braces
may be nested in a body to any depth, but one pass with a counter is enough: `Segment.split` cuts a
template up exactly if the grammar does, and in the only way there is (`split_eq_ok_iff`).

What is wrong with a template that is not well formed is settled by the shortest beginning of it
that no template has (`IsFatal`), whatever comes after that.  Where there is no such beginning some
brace is left open in the end (`split_eq_error_iff`).

Both are shown along a run of the scan.  The invariants are `Begun`, for the segment that the scan
is in, and `Scanned`, for all that it has passed over.
-/

namespace UriRouting.Segment

/-! ## Nesting -/

/-- How many braces a text leaves open: those that it opens less those that it closes. -/
def depth (text : List Char) : Int := text.count '\x7b' - text.count '\x7d'

@[simp] lemma depth_nil : depth [] = 0 := rfl

@[simp] lemma depth_append (first second : List Char) :
    depth (first ++ second) = depth first + depth second := by
  simp only [depth, List.count_append]
  omega

lemma depth_cons (c : Char) (text : List Char) :
    depth (c :: text) =
      (if c = '\x7b' then 1 else if c = '\x7d' then -1 else 0) + depth text := by
  by_cases hopen : c = '\x7b'
  · subst hopen
    simp [depth]
    omega
  · by_cases hclose : c = '\x7d'
    · subst hclose
      simp [depth]
      omega
    · simp [depth, hopen, hclose]

/-- Every brace that the text closes has been opened in it, and in the end none is open. -/
structure IsBalanced (text : List Char) : Prop where
  nonneg : ∀ start, start <+: text → 0 ≤ depth start
  closed : depth text = 0

/-! ## The grammar -/

/-- Literals and placeholders in turn, beginning and ending with a literal.  Literals have no
braces; bodies are balanced and not empty. -/
inductive WellFormed : List Segment → Prop
  | last {text : List Char} (htext : (literal text).IsRegular) : WellFormed [literal text]
  | cons {text body : List Char} {rest : List Segment} (htext : (literal text).IsRegular)
      (hne : body ≠ []) (hbody : IsBalanced body) (hrest : WellFormed rest) :
      WellFormed (literal text :: placeholder body :: rest)

lemma WellFormed.relead {text other : List Char} {rest : List Segment}
    (h : WellFormed (literal text :: rest)) (hother : (literal other).IsRegular) :
    WellFormed (literal other :: rest) := by
  cases h with
  | last htext => exact .last hother
  | cons htext hne hbody hrest => exact .cons hother hne hbody hrest

/-! ## Well-formed segments are found -/

lemma splitFrom_literal {text : List Char} (h : (literal text).IsRegular)
    (current rest : List Char) :
    splitFrom 0 current (text ++ rest) = splitFrom 0 (text.reverse ++ current) rest := by
  induction text generalizing current with
  | nil => rfl
  | cons c text ih =>
    obtain ⟨hopen, hclose⟩ := h
    simp only [List.mem_cons, not_or] at hopen hclose
    rw [List.cons_append, splitFrom_cons]
    simp only [Ne.symm hopen.1, Ne.symm hclose.1, false_and, if_false]
    rw [ih ⟨hopen.2, hclose.2⟩, List.reverse_cons, List.append_assoc]
    rfl

/-- A text that closes no more braces than are open in the placeholder goes on with its body. -/
lemma splitFrom_body {inner : Nat} {body : List Char}
    (h : ∀ start, start <+: body → 0 ≤ (inner : Int) + depth start) (current rest : List Char) :
    splitFrom (inner + 1) current (body ++ rest) =
      splitFrom ((inner + depth body).toNat + 1) (body.reverse ++ current) rest := by
  induction body generalizing inner current with
  | nil => simp
  | cons c body ih =>
    -- how many braces of the body are open behind its first character
    obtain ⟨next, hnext⟩ : ∃ next : Nat, (next : Int) = inner + depth [c] := by
      have hfirst := h [c] (List.prefix_append [c] body)
      exact ⟨(inner + depth [c]).toNat, Int.toNat_of_nonneg hfirst⟩
    have hbody : ∀ start, start <+: body → 0 ≤ (next : Int) + depth start := by
      intro start hstart
      have hlonger := h (c :: start) (List.cons_prefix_cons.mpr ⟨rfl, hstart⟩)
      rw [depth_cons] at hlonger
      rw [hnext, depth_cons, depth_nil]
      omega
    have hstep : splitFrom (inner + 1) current (c :: body ++ rest) =
        splitFrom (next + 1) (c :: current) (body ++ rest) := by
      rw [depth_cons, depth_nil] at hnext
      rw [List.cons_append, splitFrom_cons]
      by_cases hopen : c = '\x7b'
      · simp only [hopen, if_true] at hnext ⊢
        obtain rfl : next = inner + 1 := by omega
        simp
      · by_cases hclose : c = '\x7d'
        · simp only [hclose] at hnext ⊢
          obtain rfl : inner = next + 1 := by
            simp at hnext
            omega
          simp
        · simp only [hopen, hclose, if_false] at hnext ⊢
          obtain rfl : next = inner := by omega
          simp
    rw [hstep, ih hbody, List.reverse_cons, List.append_assoc, depth_cons c body]
    rw [depth_cons, depth_nil] at hnext
    congr 2
    omega

/-- A split finds the segments of which a text is made up. -/
lemma split_join_of_wellFormed {segments : List Segment} (h : WellFormed segments) :
    split (join segments) = .ok segments := by
  induction h with
  | @last text htext =>
    have hscan := splitFrom_literal htext [] []
    have hjoin : join [literal text] = text ++ [] := rfl
    rw [split, hjoin, hscan]
    simp [splitFrom]
  | @cons text body rest htext hne hbody hrest ih =>
    have hjoin : join (literal text :: placeholder body :: rest) =
        text ++ ('\x7b' :: (body ++ ('\x7d' :: join rest))) := by
      simp [join, Segment.text]
    have hinside : splitFrom 1 [] (body ++ '\x7d' :: join rest) =
        splitFrom 1 (body.reverse ++ []) ('\x7d' :: join rest) := by
      have hopen : ∀ start, start <+: body → 0 ≤ ((0 : Nat) : Int) + depth start := by
        simpa using hbody.nonneg
      have hscan := splitFrom_body hopen [] ('\x7d' :: join rest)
      rw [hbody.closed] at hscan
      exact hscan
    rw [split] at ih
    rw [split, hjoin, splitFrom_literal htext, splitFrom_cons]
    simp only [true_and, if_true]
    rw [hinside, splitFrom_cons]
    simp [hne, ih, Except.map]

/-! ## What is found is well formed -/

/-- What the scan knows of the segment that it is in, where so many braces are open: a literal has
no brace so far, and a body has not closed more braces than it has opened. -/
def Begun : Nat → List Char → Prop
  | 0, current => (literal current.reverse).IsRegular
  | inner + 1, current =>
    (∀ start, start <+: current.reverse → 0 ≤ depth start) ∧ depth current.reverse = inner

/-- What the rest of a template adds to the segments, where so many braces are open.  A placeholder
that has been begun comes without the literal before it. -/
def Completes (level : Nat) (segments : List Segment) : Prop :=
  WellFormed (if level = 0 then segments else literal [] :: segments)

lemma isRegular_nil : (literal []).IsRegular := ⟨List.not_mem_nil, List.not_mem_nil⟩

lemma Begun.push {level : Nat} {current : List Char} {c : Char} (h : Begun level current)
    (hfirst : level = 0 → c ≠ '\x7b' ∧ c ≠ '\x7d') (hlast : level = 1 → c ≠ '\x7d') :
    Begun (if c = '\x7b' then level + 1 else if c = '\x7d' then level - 1 else level)
      (c :: current) := by
  cases level with
  | zero =>
    obtain ⟨hopen, hclose⟩ := hfirst rfl
    obtain ⟨hopens, hcloses⟩ : (literal current.reverse).IsRegular := h
    rw [if_neg hopen, if_neg hclose]
    change (literal (c :: current).reverse).IsRegular
    simp only [IsRegular, List.mem_reverse] at hopens hcloses ⊢
    simp [hopens, hcloses, Ne.symm hopen, Ne.symm hclose]
  | succ inner =>
    obtain ⟨hnonneg, hlevel⟩ := h
    -- the number of braces open behind the new character
    obtain ⟨next, hnext, hdepth⟩ : ∃ next : Nat,
        (if c = '\x7b' then inner + 1 + 1 else if c = '\x7d' then inner + 1 - 1 else inner + 1) =
          next + 1 ∧ depth (c :: current).reverse = next := by
      rw [List.reverse_cons, depth_append, depth_cons, depth_nil, hlevel]
      by_cases hopen : c = '\x7b'
      · exact ⟨inner + 1, by simp [hopen], by simp [hopen]⟩
      · by_cases hclose : c = '\x7d'
        · have hne : inner ≠ 0 := by
            rintro rfl
            exact hlast rfl hclose
          refine ⟨inner - 1, ?_, ?_⟩
          · simp [hclose]
            omega
          · simp [hclose]
            omega
        · exact ⟨inner, by simp [hopen, hclose], by simp [hopen, hclose]⟩
    rw [hnext]
    refine ⟨?_, hdepth⟩
    intro start hstart
    rw [List.reverse_cons, List.prefix_concat_iff] at hstart
    rcases hstart with rfl | hstart
    · rw [← List.reverse_cons, hdepth]
      exact Int.natCast_nonneg next
    · exact hnonneg start hstart

/-- The rest of a template completes what has been begun. -/
lemma completes_of_splitFrom {level : Nat} {current template : List Char} {segments : List Segment}
    (h : splitFrom level current template = .ok segments) (hbegun : Begun level current) :
    Completes level segments := by
  induction template generalizing level current segments with
  | nil =>
    simp only [splitFrom] at h
    split at h
    next hlevel =>
      subst hlevel
      obtain rfl : [literal current.reverse] = segments := Except.ok.inj h
      exact .last hbegun
    next => cases h
  | cons c rest ih =>
    rw [splitFrom_cons] at h
    generalize hnext : (if c = '\x7b' then level + 1 else if c = '\x7d' then level - 1 else level) =
      next at h
    split_ifs at h with hopen hclose hend hbody
    · -- a literal ends and a body begins
      obtain ⟨rfl, rfl⟩ := hopen
      cases hrest : splitFrom 1 [] rest with
      | error _ => simp [hrest, Except.map] at h
      | ok tail =>
        obtain rfl : literal current.reverse :: tail = segments := by
          simpa [hrest, Except.map] using h
        have hstart : Begun 1 [] := by
          constructor
          · intro start hstart
            rw [List.prefix_nil.mp hstart, depth_nil]
          · rfl
        have htail : WellFormed (literal [] :: tail) := ih hrest hstart
        exact htail.relead hbegun
    · -- a body ends and a literal begins
      obtain ⟨rfl, rfl⟩ := hend
      cases hrest : splitFrom 0 [] rest with
      | error _ => simp [hrest, Except.map] at h
      | ok tail =>
        obtain rfl : placeholder current.reverse :: tail = segments := by
          simpa [hrest, Except.map] using h
        have htail : WellFormed tail := ih hrest isRegular_nil
        have hne : current.reverse ≠ [] := by simpa using hbody
        exact .cons isRegular_nil hne ⟨hbegun.1, hbegun.2⟩ htail
    · -- the segment goes on, and it stays a literal or a body
      have hpush : Begun next (c :: current) := by
        rw [← hnext]
        apply hbegun.push
        · intro hlevel
          exact ⟨fun hc => hopen ⟨hc, hlevel⟩, fun hc => hclose ⟨hc, hlevel⟩⟩
        · intro hlevel hc
          exact hend ⟨hc, hlevel⟩
      have hsame : next = 0 ↔ level = 0 := by
        rw [← hnext]
        split_ifs <;> simp_all
        omega
      have hrest := ih h hpush
      simp only [Completes, hsame] at hrest ⊢
      exact hrest

/-- `split` finds the segments that are `WellFormed` and make up the template, and there is one way
only to do so. -/
theorem split_eq_ok_iff {template : List Char} {segments : List Segment} :
    split template = .ok segments ↔ WellFormed segments ∧ join segments = template := by
  constructor
  · intro h
    exact ⟨completes_of_splitFrom h isRegular_nil, join_split h⟩
  · rintro ⟨hsegments, rfl⟩
    exact split_join_of_wellFormed hsegments

/-! ## The first fault -/

/-- A beginning that no template has: outside of all placeholders it closes a brace, or it ends with
a placeholder that has no body. -/
def IsFatal (start : List Char) : BraceFault → Prop
  | .unbalanced => ∃ before, start = before ++ ['\x7d'] ∧ depth before = 0
  | .emptyPlaceholder => ∃ before, start = before ++ ['\x7b', '\x7d'] ∧ depth before = 0

/-- A fatal beginning that has no other one before it. -/
def IsFirstFatal (start : List Char) (fault : BraceFault) : Prop :=
  IsFatal start fault ∧
    ∀ shorter other, shorter <+: start → IsFatal shorter other → shorter = start

/-- No beginning of the text is fatal. -/
def IsHarmless (text : List Char) : Prop := ∀ start fault, start <+: text → ¬ IsFatal start fault

/-- The fault of a template is that of its first fatal beginning; if it has none, then a brace is
left open. -/
def Fails (template : List Char) (fault : BraceFault) : Prop :=
  (∃ start, start <+: template ∧ IsFirstFatal start fault) ∨
    IsHarmless template ∧ fault = .unbalanced ∧ depth template ≠ 0

lemma isFatal_concat_iff {done : List Char} {c : Char} {fault : BraceFault} :
    IsFatal (done ++ [c]) fault ↔ c = '\x7d' ∧
      (fault = .unbalanced ∧ depth done = 0 ∨
        fault = .emptyPlaceholder ∧ ∃ before, done = before ++ ['\x7b'] ∧ depth before = 0) := by
  cases fault with
  | unbalanced =>
    constructor
    · rintro ⟨before, hend, hdepth⟩
      obtain ⟨rfl, hc⟩ := List.append_inj' hend rfl
      exact ⟨List.singleton_inj.mp hc, .inl ⟨rfl, hdepth⟩⟩
    · rintro ⟨rfl, ⟨-, hdepth⟩ | ⟨hfault, -⟩⟩
      · exact ⟨done, rfl, hdepth⟩
      · cases hfault
  | emptyPlaceholder =>
    constructor
    · rintro ⟨before, hend, hdepth⟩
      have htwo : before ++ ['\x7b', '\x7d'] = before ++ ['\x7b'] ++ ['\x7d'] := by simp
      rw [htwo] at hend
      obtain ⟨rfl, hc⟩ := List.append_inj' hend rfl
      exact ⟨List.singleton_inj.mp hc, .inr ⟨rfl, before, rfl, hdepth⟩⟩
    · rintro ⟨rfl, ⟨hfault, -⟩ | ⟨-, before, rfl, hdepth⟩⟩
      · cases hfault
      · exact ⟨before, by simp, hdepth⟩

lemma not_isFatal_nil (fault : BraceFault) : ¬ IsFatal [] fault := by
  cases fault <;> simp [IsFatal]

/-- A beginning is fatal for one reason only: before the last brace there is nothing open, or one
brace. -/
lemma IsFatal.unique {start : List Char} {first second : BraceFault} (hfirst : IsFatal start first)
    (hsecond : IsFatal start second) : first = second := by
  rcases List.eq_nil_or_concat start with rfl | ⟨done, c, rfl⟩
  · exact absurd hfirst (not_isFatal_nil first)
  · rw [List.concat_eq_append, isFatal_concat_iff] at hfirst hsecond
    obtain ⟨-, ⟨rfl, hzero⟩ | ⟨rfl, before, rfl, hbefore⟩⟩ := hfirst
    · obtain ⟨-, ⟨rfl, -⟩ | ⟨rfl, before, rfl, hbefore⟩⟩ := hsecond
      · rfl
      · simp [depth_cons, hbefore] at hzero
    · obtain ⟨-, ⟨rfl, hzero⟩ | ⟨rfl, -⟩⟩ := hsecond
      · simp [depth_cons, hbefore] at hzero
      · rfl

lemma IsHarmless.concat {done : List Char} {c : Char} (h : IsHarmless done)
    (hc : ∀ fault, ¬ IsFatal (done ++ [c]) fault) : IsHarmless (done ++ [c]) := by
  intro start fault hstart
  rcases List.prefix_concat_iff.mp hstart with rfl | hstart
  · exact hc fault
  · exact h start fault hstart

/-- What comes after the first fatal beginning does not matter. -/
lemma fails_iff_of_isFirstFatal {start : List Char} {fault : BraceFault}
    (h : IsFirstFatal start fault) (rest : List Char) (other : BraceFault) :
    Fails (start ++ rest) other ↔ other = fault := by
  have hprefix : start <+: start ++ rest := List.prefix_append start rest
  constructor
  · rintro (⟨first, hfirst, hfatal, hshortest⟩ | ⟨hharmless, -, -⟩)
    · -- of two first fatal beginnings each is the beginning of the other
      have hsame : first = start := by
        rcases List.prefix_or_prefix_of_prefix hfirst hprefix with hshort | hlong
        · exact h.2 first other hshort hfatal
        · exact (hshortest start fault hlong h.1).symm
      subst hsame
      exact hfatal.unique h.1
    · exact absurd h.1 (hharmless start fault hprefix)
  · rintro rfl
    exact .inl ⟨start, hprefix, h⟩

/-- What the scan knows of all that it has passed over: nothing in it is fatal, so many braces are
open, and a body that has just been begun is empty. -/
structure Scanned (done : List Char) (level : Nat) (current : List Char) : Prop where
  harmless : IsHarmless done
  depth_eq : depth done = level
  fresh : level = 1 → (current = [] ↔ ∃ before, done = before ++ ['\x7b'] ∧ depth before = 0)

lemma Scanned.isFirstFatal {done current : List Char} {level : Nat} {c : Char} {fault : BraceFault}
    (h : Scanned done level current) (hfatal : IsFatal (done ++ [c]) fault) :
    IsFirstFatal (done ++ [c]) fault := by
  refine ⟨hfatal, ?_⟩
  intro shorter other hshorter hother
  rcases List.prefix_concat_iff.mp hshorter with hsame | hshorter
  · exact hsame
  · exact absurd hother (h.harmless shorter other hshorter)

section Steps

variable {done current : List Char} {level : Nat} (h : Scanned done level current)
include h

lemma Scanned.opening (hlevel : level = 0) : Scanned (done ++ ['\x7b']) 1 [] := by
  have hdepth : depth done = 0 := by simp [h.depth_eq, hlevel]
  refine ⟨h.harmless.concat ?_, ?_, ?_⟩
  · intro fault hfatal
    obtain ⟨hbrace, -⟩ := isFatal_concat_iff.mp hfatal
    cases hbrace
  · rw [depth_append, hdepth]
    rfl
  · intro _
    simp [hdepth]

lemma Scanned.closing (hlevel : level = 1) (hbody : current ≠ []) :
    Scanned (done ++ ['\x7d']) 0 [] := by
  have hdepth : depth done = 1 := by simp [h.depth_eq, hlevel]
  refine ⟨h.harmless.concat ?_, ?_, ?_⟩
  · intro fault hfatal
    obtain ⟨-, ⟨-, hzero⟩ | ⟨-, hfresh⟩⟩ := isFatal_concat_iff.mp hfatal
    · omega
    · exact hbody ((h.fresh hlevel).mpr hfresh)
  · rw [depth_append, hdepth]
    rfl
  · intro hone
    cases hone

lemma Scanned.push {c : Char} {next : Nat} (hopen : ¬ (c = '\x7b' ∧ level = 0))
    (hclose : ¬ (c = '\x7d' ∧ level = 0)) (hend : ¬ (c = '\x7d' ∧ level = 1))
    (hnext : (if c = '\x7b' then level + 1 else if c = '\x7d' then level - 1 else level) = next) :
    Scanned (done ++ [c]) next (c :: current) := by
  refine ⟨h.harmless.concat ?_, ?_, ?_⟩
  · intro fault hfatal
    obtain ⟨rfl, ⟨-, hzero⟩ | ⟨-, before, rfl, hbefore⟩⟩ := isFatal_concat_iff.mp hfatal
    · rw [h.depth_eq] at hzero
      exact hclose ⟨rfl, by omega⟩
    · have hlevel := h.depth_eq
      rw [depth_append, hbefore, depth_cons, depth_nil] at hlevel
      exact hend ⟨rfl, by simpa [eq_comm] using hlevel⟩
  · rw [depth_append, h.depth_eq, depth_cons, depth_nil, ← hnext]
    split_ifs with hbrace hbrace'
    · simp
    · have hpositive : level ≠ 0 := fun hlevel => hclose ⟨hbrace', hlevel⟩
      omega
    · simp
  · intro hone
    refine ⟨fun hnil => absurd hnil (List.cons_ne_nil c current), ?_⟩
    rintro ⟨before, hbefore, hdepth⟩
    obtain ⟨rfl, hc⟩ := List.append_inj' hbefore rfl
    rw [h.depth_eq] at hdepth
    exact absurd ⟨List.singleton_inj.mp hc, by omega⟩ hopen

end Steps

/-- From any place that has been `Scanned` on, the scan fails as the whole template does. -/
lemma splitFrom_eq_error_iff {done current rest : List Char} {level : Nat} {fault : BraceFault}
    (h : Scanned done level current) :
    splitFrom level current rest = .error fault ↔ Fails (done ++ rest) fault := by
  induction rest generalizing done current level with
  | nil =>
    have hfirst : ¬ ∃ start, start <+: done ∧ IsFirstFatal start fault := by
      rintro ⟨start, hstart, hfatal, -⟩
      exact h.harmless start fault hstart hfatal
    rw [List.append_nil, Fails, h.depth_eq]
    simp only [hfirst, h.harmless, false_or, true_and, splitFrom]
    split_ifs with hlevel
    · simp [hlevel]
    · simp [hlevel, eq_comm]
  | cons c rest ih =>
    have hmap {first : Segment} {x : Except BraceFault (List Segment)} :
        x.map (first :: ·) = .error fault ↔ x = .error fault := by
      cases x <;> simp [Except.map]
    rw [List.append_cons, splitFrom_cons]
    generalize hnext : (if c = '\x7b' then level + 1 else if c = '\x7d' then level - 1 else level) =
      next
    split_ifs with hopen hclose hend hbody
    · obtain ⟨rfl, hlevel⟩ := hopen
      rw [hmap]
      exact ih (h.opening hlevel)
    · -- a brace closes none
      obtain ⟨rfl, hlevel⟩ := hclose
      have hdepth : depth done = 0 := by simp [h.depth_eq, hlevel]
      have hfatal : IsFatal (done ++ ['\x7d']) .unbalanced := ⟨done, rfl, hdepth⟩
      rw [fails_iff_of_isFirstFatal (h.isFirstFatal hfatal), Except.error.injEq, eq_comm]
    · -- a placeholder has no body
      obtain ⟨rfl, hlevel⟩ := hend
      have hfresh := (h.fresh hlevel).mp (List.isEmpty_iff.mp hbody)
      have hfatal : IsFatal (done ++ ['\x7d']) .emptyPlaceholder :=
        isFatal_concat_iff.mpr ⟨rfl, .inr ⟨rfl, hfresh⟩⟩
      rw [fails_iff_of_isFirstFatal (h.isFirstFatal hfatal), Except.error.injEq, eq_comm]
    · obtain ⟨rfl, hlevel⟩ := hend
      rw [hmap]
      apply ih
      apply h.closing hlevel
      rintro rfl
      exact hbody rfl
    · exact ih (h.push hopen hclose hend hnext)

/-- `split` fails at the first fatal beginning of the template, with the fault of this beginning. -/
theorem split_eq_error_iff {template : List Char} {fault : BraceFault} :
    split template = .error fault ↔ Fails template fault := by
  have hstart : Scanned [] 0 [] := by
    refine ⟨?_, rfl, ?_⟩
    · intro start fault hstart
      rw [List.prefix_nil.mp hstart]
      exact not_isFatal_nil fault
    · intro hone
      cases hone
  exact splitFrom_eq_error_iff hstart

end UriRouting.Segment
