import Mathlib.Tactic
import UriRouting.Proofs.Template.Assembled
import UriRouting.Proofs.Template.Plain

/-!
# Names and groups

The names of a template and the groups of its expression go together only if each pair of
parentheses put around a sub-pattern is the group whose number is that of the placeholder
(`Aligned`).  Comparing the number of groups with the number of placeholders does not ensure it: a
sub-pattern may make its parentheses something else, and another one make up for the missing group
with one of its own.

A template that compiles is aligned if and only if all its sub-patterns are sealed, that is, if each
can stand between two parentheses on its own.  Then a path in which the template is found is made up
of the literals, the values of the names and the remainder.
-/

namespace UriRouting

namespace Expression

/-! ## Groups at a place of a text -/

/-- The parenthesis before `inside` opens the capturing group of a number in the text, and the one
before `after` closes it. -/
def IsGroup (text : List Char) (number : Nat) (inside after : List Char) : Prop :=
  ∃ r left, Reads (Reader.start, text) (r, left) ∧ r.flags.skip left = '(' :: inside ∧
    r.groups + 1 = number ∧ r.Captures inside after

/-- No group is open, no flag is set, and there is no branch before the present one. -/
structure Reader.AtTop (r : Reader) : Prop where
  flags : r.flags = {}
  opened : r.opened = []
  branches : r.body.branches = []

/-- Each pair of parentheses is a group if the reading comes to it with nothing open. -/
def Closes (text : List Char) (pairs : List (List Char × List Char)) : Prop :=
  ∀ r : Reader, ∀ pair ∈ pairs, r.AtTop → Reads (Reader.start, text) (r, '(' :: pair.1) →
    r.Captures pair.1 pair.2

/-- A group is opened where the reading comes to the parenthesis, and nowhere else. -/
lemma IsGroup.captures {text inside after : List Char} {number : Nat}
    (h : IsGroup text number inside after) {r : Reader} (htop : r.AtTop)
    (hreads : Reads (Reader.start, text) (r, '(' :: inside)) : r.Captures inside after := by
  obtain ⟨other, left, hother, hskip, _, hcaptures⟩ := h
  have hsame : (other, left) = (r, '(' :: inside) := hother.at_place hskip hreads
  obtain ⟨rfl, _⟩ := Prod.mk.inj hsame
  exact hcaptures

/-! ## Literal text -/

lemma reads_letters {r : Reader} (htop : r.AtTop) {text : List Char}
    (hmeta : ∀ c ∈ text, isMeta c = false ∧ c ≠ '\x7b') (rest : List Char) :
    ∃ r' : Reader, Reads (r, text ++ rest) (r', rest) ∧ r'.AtTop ∧ r'.groups = r.groups ∧
      r'.body.parts.map Part.expression =
        (text.map fun c => char (CharSet.singleton c)).reverse ++
          r.body.parts.map Part.expression := by
  induction text generalizing r with
  | nil => exact ⟨r, .refl, htop, rfl, rfl⟩
  | cons c text ih =>
    obtain ⟨⟨hplain, hbrace⟩, hmeta⟩ := List.forall_mem_cons.mp hmeta
    have hround : Round (r, (c :: text) ++ rest)
        (r.add (char (CharSet.singleton c)) 0, text ++ rest) :=
      ⟨c, text ++ rest, skip_of_default htop.flags _, step_letter htop.flags hplain hbrace _⟩
    have htop' : (r.add (char (CharSet.singleton c)) 0).AtTop :=
      ⟨htop.flags, htop.opened, htop.branches⟩
    obtain ⟨r', hreads, hr', hgroups, hparts⟩ := ih htop' hmeta
    refine ⟨r', .head hround hreads, hr', hgroups, ?_⟩
    rw [hparts]
    simp [Reader.add, Body.add]

end Expression

namespace Matchable

open Expression

/-! ## Parentheses around sub-patterns -/

/-- What stands behind the text between the anchors. -/
def endAnchor : Anchoring → List Char
  | .full => ['$']
  | .leading => []

lemma anchored_eq (anchoring : Anchoring) (text : List Char) :
    anchored anchoring text = '^' :: (text ++ endAnchor anchoring) := by cases anchoring <;> rfl

/-- For each placeholder, what stands behind the parentheses put before and after its sub-pattern,
where `tail` stands behind the whole. -/
def pushed (tail : List Char) : List Segment → List Placeholder → List (List Char × List Char)
  | .literal _ :: rest, placeholders => pushed tail rest placeholders
  | .placeholder _ :: rest, p :: placeholders =>
    (p.pattern ++ ')' :: (patternText rest placeholders ++ tail),
      patternText rest placeholders ++ tail) :: pushed tail rest placeholders
  | _, _ => []

/-- The groups of the assembled expression are the parentheses put around the sub-patterns, in
order. -/
def Aligned (anchoring : Anchoring) (segments : List Segment) (placeholders : List Placeholder) :
    Prop :=
  ∀ i inside after,
    (pushed (endAnchor anchoring) segments placeholders)[i]? = some (inside, after) →
    IsGroup (anchored anchoring (patternText segments placeholders)) (i + 1) inside after

/-- The parentheses put around each sub-pattern are a group if the reading comes to them with
nothing open. -/
def AllClose (anchoring : Anchoring) (segments : List Segment) (placeholders : List Placeholder) :
    Prop :=
  Closes (anchored anchoring (patternText segments placeholders))
    (pushed (endAnchor anchoring) segments placeholders)

lemma allClose_of_aligned {anchoring : Anchoring} {segments : List Segment}
    {placeholders : List Placeholder} (h : Aligned anchoring segments placeholders) :
    AllClose anchoring segments placeholders := by
  intro r pair hpair htop hreads
  obtain ⟨i, hi, rfl⟩ := List.mem_iff_getElem.mp hpair
  exact (h i _ _ (List.getElem?_eq_getElem hi)).captures htop hreads

lemma pattern_of_mem_pushed {tail : List Char} {segments : List Segment}
    {placeholders : List Placeholder} {pair : List Char × List Char}
    (h : pair ∈ pushed tail segments placeholders) :
    ∃ p ∈ placeholders, pair.1 = p.pattern ++ ')' :: pair.2 := by
  induction segments generalizing placeholders with
  | nil => simp [pushed] at h
  | cons s rest ih =>
    cases s with
    | literal text => exact ih h
    | placeholder body =>
      cases placeholders with
      | nil => simp [pushed] at h
      | cons p placeholders =>
        rcases List.mem_cons.mp h with rfl | h
        · exact ⟨p, List.mem_cons_self, rfl⟩
        · obtain ⟨q, hq, hpair⟩ := ih h
          exact ⟨q, List.mem_cons_of_mem p hq, hpair⟩

/-! ## Reading the assembled text -/

/-- Does every literal mean itself? -/
def LiteralsPlain (segments : List Segment) : Prop :=
  ∀ text, Segment.literal text ∈ segments → ∀ c ∈ text, isMeta c = false ∧ c ≠ '\x7b'

/-- If the parentheses around the sub-patterns are groups, then each placeholder adds one part, its
group, and its sub-pattern is sealed. -/
theorem reads_patternText {text tail : List Char} {segments : List Segment}
    {placeholders : List Placeholder}
    (hlength : (Segment.bodies segments).length = placeholders.length)
    (hliteral : LiteralsPlain segments) (hcloses : Closes text (pushed tail segments placeholders))
    {r : Reader} (htop : r.AtTop)
    (hreads : Reads (Reader.start, text) (r, patternText segments placeholders ++ tail)) :
    ∃ (r' : Reader) (slots : List (Nat × Expression)), r'.AtTop ∧
      Reads (Reader.start, text) (r', tail) ∧ Ascending r.groups slots ∧
      r'.body.parts.map Part.expression =
        (Token.assembled (Segment.tokens segments) slots).reverse ++
          r.body.parts.map Part.expression ∧
      List.Forall₂ (fun pair s => IsGroup text s.1 pair.1 pair.2)
        (pushed tail segments placeholders) slots ∧
      slots.length = placeholders.length ∧ ∀ p ∈ placeholders, Sealed p.pattern := by
  induction segments generalizing placeholders r with
  | nil =>
    obtain rfl : placeholders = [] :=
      List.eq_nil_of_length_eq_zero (by simpa [Segment.bodies] using hlength.symm)
    exact ⟨r, [], htop, hreads, .nil _, rfl, .nil, rfl, by simp⟩
  | cons s rest ih =>
    have hrest : LiteralsPlain rest := fun t ht => hliteral t (List.mem_cons_of_mem s ht)
    cases s with
    | literal letters =>
      rw [patternText, List.append_assoc] at hreads
      obtain ⟨r₁, hletters, htop₁, hgroups, hparts⟩ :=
        reads_letters htop (hliteral letters List.mem_cons_self)
          (patternText rest placeholders ++ tail)
      obtain ⟨r', slots, htop', hend, hascending, hparts', hgroups', hcount, hsealed⟩ :=
        ih hlength hrest hcloses htop₁ (hreads.trans hletters)
      refine ⟨r', slots, htop', hend, hgroups ▸ hascending, ?_, hgroups', hcount, hsealed⟩
      rw [hparts', hparts, Segment.tokens, Token.assembled_map_letter]
      simp
    | placeholder body =>
      cases placeholders with
      | nil => simp [Segment.bodies] at hlength
      | cons p placeholders =>
        obtain ⟨hfirst, hcloses⟩ : (∀ r : Reader, r.AtTop → Reads (Reader.start, text)
              (r, '(' :: (p.pattern ++ ')' :: (patternText rest placeholders ++ tail))) →
            r.Captures (p.pattern ++ ')' :: (patternText rest placeholders ++ tail))
              (patternText rest placeholders ++ tail)) ∧
            Closes text (pushed tail rest placeholders) :=
          ⟨fun r => hcloses r _ List.mem_cons_self,
            fun r pair hpair => hcloses r pair (List.mem_cons_of_mem _ hpair)⟩
        have hopening : Reads (Reader.start, text)
            (r, '(' :: (p.pattern ++ ')' :: (patternText rest placeholders ++ tail))) := by
          simpa [patternText] using hreads
        have hcaptures := hfirst r htop hopening
        obtain ⟨r₁, e, depth, hpart, hflags₁, hopened₁, hbody₁, hle, hlater⟩ :=
          part_of_captures htop.flags htop.opened hcaptures
        have htop₁ : r₁.AtTop := ⟨hflags₁, hopened₁, by rw [hbody₁]; exact htop.branches⟩
        obtain ⟨r', slots, htop', hend, hascending, hparts', hgroups', hcount, hsealed⟩ :=
          ih (by simpa [Segment.bodies] using hlength) hrest hcloses htop₁ (hopening.trans hpart)
        refine ⟨r', (r.groups + 1, e) :: slots, htop', hend,
          .cons (Nat.lt_succ_self _) hle hlater hascending, ?_, .cons ?_ hgroups',
          by rw [List.length_cons, List.length_cons, hcount],
          List.forall_mem_cons.mpr ⟨?_, hsealed⟩⟩
        · rw [hparts', hbody₁, Segment.tokens, Token.assembled]
          simp [Body.add]
        · exact ⟨r, _, hopening, skip_of_default htop.flags _, rfl, hcaptures⟩
        · exact sealed_of_captures htop.flags htop.opened hcaptures

/-- A text that has an expression is read to its end, where no group is open. -/
lemma reads_of_ofText {text : List Char} {e : Expression} (h : ofText text = .ok e) :
    ∃ r left, Reads (Reader.start, text) (r, left) ∧ Finished (r, left) ∧
      e = r.body.whole.expression := by
  have hany : ofTextOfAnySize text = .ok e := by
    unfold ofText at h
    obtain ⟨found, hfound, h⟩ := bind_eq_ok h
    split at h
    next => cases h
    next =>
      obtain rfl : found = e := Except.ok.inj h
      exact hfound
  unfold ofTextOfAnySize at hany
  obtain ⟨r, hread, hany⟩ := bind_eq_ok hany
  obtain ⟨left, hreads, hend⟩ := readWithin_eq_ok_iff.mp hread
  refine ⟨r, left, hreads, hend, ?_⟩
  split at hany
  next => cases hany
  next =>
    simp only at hany
    split at hany
    next => cases hany
    next => exact (Except.ok.inj hany).symm

lemma pieces_assembled {tokens : List Token} {slots : List (Nat × Expression)} {e : Expression}
    (h : e ∈ Token.assembled tokens slots) : e.pieces = [e] := by
  induction tokens generalizing slots with
  | nil => cases h
  | cons t tokens ih =>
    cases t with
    | letter c =>
      rcases List.mem_cons.mp h with rfl | h
      · rfl
      · exact ih h
    | slot name =>
      cases slots with
      | nil => cases h
      | cons s slots =>
        rcases List.mem_cons.mp h with rfl | h
        · rfl
        · exact ih h

lemma reads_endAnchor (anchoring : Anchoring) {r : Reader} (htop : r.AtTop) :
    ∃ r' : Reader, Reads (r, endAnchor anchoring) (r', []) ∧ r'.AtTop ∧
      r'.body.parts.map Part.expression =
        (Token.endParts (decide (anchoring = .full))).reverse ++
          r.body.parts.map Part.expression := by
  cases anchoring with
  | full =>
    refine ⟨r.add (look .textStop) 0, .single ⟨'$', [], skip_of_default htop.flags _, ?_⟩,
      ⟨htop.flags, htop.opened, htop.branches⟩, rfl⟩
    have hplain := htop.flags
    simp only [Reader.step, hplain]
    rfl
  | leading => exact ⟨r, .refl, htop, rfl⟩

lemma reads_startAnchor (anchoring : Anchoring) (text : List Char) :
    Reads (Reader.start, anchored anchoring text)
      (Reader.start.add (look .textStart) 0, text ++ endAnchor anchoring) := by
  rw [anchored_eq]
  exact .single ⟨'^', _, rfl, rfl⟩

/-- Where the reading comes to the anchor at the end with nothing open, the expression is made up of
the parts that have been read. -/
lemma expression_of_reads {anchoring : Anchoring} {text : List Char} {e : Expression}
    (htext : ofText (anchored anchoring text) = .ok e) {r : Reader} (htop : r.AtTop)
    (hreads : Reads (Reader.start, anchored anchoring text) (r, endAnchor anchoring)) :
    ∃ parts : List Part, e = (Body.branch ⟨[], parts.reverse⟩).expression ∧
      parts.reverse.map Part.expression =
        (Token.endParts (decide (anchoring = .full))).reverse ++
          r.body.parts.map Part.expression := by
  obtain ⟨r', hanchor, htop', hparts⟩ := reads_endAnchor anchoring htop
  have hfinished : Finished (r', []) := skip_of_default htop'.flags []
  obtain ⟨last, left, hlast, hend, rfl⟩ := reads_of_ofText htext
  have hsame : (last, left) = (r', []) := by
    have hafter := Reads.to_end hlast (hreads.trans hanchor) hfinished
    rcases hafter.cases_head with hsame | ⟨_, hround, _⟩
    · exact hsame
    · exact absurd hround hend.not_round
  obtain ⟨rfl, _⟩ := Prod.mk.inj hsame
  refine ⟨last.body.parts.reverse, ?_, ?_⟩
  · rw [Body.whole, htop'.branches, List.reverse_reverse]
    simp only [Body.branch]
  · rw [List.reverse_reverse, hparts]

/-- If the parentheses around the sub-patterns are groups, then the expression of a template is
assembled from its tokens. -/
theorem expression_of_allClose {anchoring : Anchoring} {segments : List Segment}
    {placeholders : List Placeholder} {e : Expression}
    (hlength : (Segment.bodies segments).length = placeholders.length)
    (hliteral : LiteralsPlain segments)
    (htext : ofText (anchored anchoring (patternText segments placeholders)) = .ok e)
    (hcloses : AllClose anchoring segments placeholders) :
    ∃ slots : List (Nat × Expression), Ascending 0 slots ∧ slots.length = placeholders.length ∧
      e = ofPieces (look .textStart :: (Token.assembled (Segment.tokens segments) slots ++
        Token.endParts (decide (anchoring = .full)))) ∧
      List.Forall₂ (fun pair s => IsGroup (anchored anchoring (patternText segments placeholders))
        s.1 pair.1 pair.2) (pushed (endAnchor anchoring) segments placeholders) slots ∧
      ∀ p ∈ placeholders, Sealed p.pattern := by
  have hstart := reads_startAnchor anchoring (patternText segments placeholders)
  obtain ⟨r, slots, htop, hreads, hascending, hparts, hgroups, hcount, hsealed⟩ :=
    reads_patternText hlength hliteral hcloses ⟨rfl, rfl, rfl⟩ hstart
  obtain ⟨parts, rfl, hwhole⟩ := expression_of_reads htext htop hreads
  refine ⟨slots, hascending, hcount, ?_, hgroups, hsealed⟩
  have hexpressions : parts.map Part.expression =
      look .textStart :: (Token.assembled (Segment.tokens segments) slots ++
        Token.endParts (decide (anchoring = .full))) := by
    rw [← List.reverse_inj, ← List.map_reverse, hwhole, hparts]
    simp [Reader.start, Reader.add, Body.start, Body.add]
  have hflat : ∀ p ∈ parts, p.expression.pieces = [p.expression] := by
    intro p hp
    have hmem : p.expression ∈ parts.map Part.expression := List.mem_map_of_mem hp
    rw [hexpressions] at hmem
    rcases List.mem_cons.mp hmem with hlook | hmem
    · rw [hlook]
      rfl
    · rcases List.mem_append.mp hmem with hmem | hmem
      · exact pieces_assembled hmem
      · cases anchoring with
        | full =>
          obtain hlook : p.expression = look .textStop := by simpa [Token.endParts] using hmem
          rw [hlook]
          rfl
        | leading => simp [Token.endParts] at hmem
  rw [expression_branch hflat, hexpressions]

/-! ## Aligned templates -/

/-- The literals of a template mean themselves, its text between the anchors has an expression, and
the expression has as many groups as there are placeholders. -/
structure Assembles (anchoring : Anchoring) (segments : List Segment)
    (placeholders : List Placeholder) (e : Expression) : Prop where
  length : (Segment.bodies segments).length = placeholders.length
  literals : LiteralsPlain segments
  text : ofText (anchored anchoring (patternText segments placeholders)) = .ok e
  count : e.highestGroup = placeholders.length

section Assembles

variable {anchoring : Anchoring} {segments : List Segment} {placeholders : List Placeholder}
  {e : Expression} (h : Assembles anchoring segments placeholders e)
include h

lemma Assembles.length_names {n : Nat} (hn : n = placeholders.length) :
    n = (Token.names (Segment.tokens segments)).length := by
  rw [Segment.names_tokens, h.length, hn]

/-- There are as many numbers as placeholders, and so each group of a placeholder has its number and
no sub-pattern has a group of its own. -/
theorem Assembles.slots (hcloses : AllClose anchoring segments placeholders) :
    ∃ slots : List (Nat × Expression), slots.length = placeholders.length ∧
      slots.map Prod.fst = List.range' 1 slots.length ∧ (∀ s ∈ slots, s.2.groups = []) ∧
      e = ofPieces (look .textStart :: (Token.assembled (Segment.tokens segments) slots ++
        Token.endParts (decide (anchoring = .full)))) ∧
      List.Forall₂ (fun pair s => IsGroup (anchored anchoring (patternText segments placeholders))
        s.1 pair.1 pair.2) (pushed (endAnchor anchoring) segments placeholders) slots ∧
      ∀ p ∈ placeholders, Sealed p.pattern := by
  obtain ⟨slots, hascending, hcount, hexpression, hgroups, hsealed⟩ :=
    expression_of_allClose h.length h.literals h.text hcloses
  have hnames := h.length_names hcount
  have hbound : Bounded (0 + slots.length) slots := by
    refine Token.bounded_assembled hnames fun n hn => ?_
    have hmem : n ∈ e.groups := by
      rw [hexpression, groups_ofPieces, groupsOf_cons, groupsOf_append]
      exact List.mem_append_right _ (List.mem_append_left _ hn)
    have hle := le_highestGroup hmem
    rw [h.count] at hle
    omega
  obtain ⟨hnumbers, hbodies⟩ := hascending.numbers hbound
  exact ⟨slots, hcount, by simpa using hnumbers, hbodies, hexpression, hgroups, hsealed⟩

lemma Assembles.aligned_of_allClose (hcloses : AllClose anchoring segments placeholders) :
    Aligned anchoring segments placeholders := by
  obtain ⟨slots, _, hnumbers, _, _, hgroups, _⟩ := h.slots hcloses
  intro i inside after hpair
  obtain ⟨hi, hpair⟩ := List.getElem?_eq_some_iff.mp hpair
  have hi' : i < slots.length := hgroups.length_eq ▸ hi
  have hgroup := hgroups.get hi hi'
  have hnumber : slots[i].1 = i + 1 := by
    have hmap : (slots.map Prod.fst)[i]? = some (1 + i) := by
      rw [hnumbers, List.getElem?_range' hi', Nat.one_mul]
    rw [List.getElem?_map, List.getElem?_eq_getElem hi', Option.map_some, Option.some.injEq] at hmap
    omega
  simpa only [List.get_eq_getElem, hpair, hnumber] using hgroup

lemma Assembles.allClose_of_sealed (hsealed : ∀ p ∈ placeholders, Sealed p.pattern) :
    AllClose anchoring segments placeholders := by
  intro r pair hpair htop hreads
  obtain ⟨p, hp, hinside⟩ := pattern_of_mem_pushed hpair
  obtain ⟨last, left, hlast, hend, _⟩ := reads_of_ofText h.text
  rw [hinside] at hreads ⊢
  have hrest := Reads.to_end hreads hlast hend
  exact captures_of_sealed htop.flags htop.opened (hsealed p hp) hrest hend

/-- The groups are those of the placeholders if and only if every sub-pattern is sealed. -/
theorem Assembles.aligned_iff :
    Aligned anchoring segments placeholders ↔ ∀ p ∈ placeholders, Sealed p.pattern := by
  constructor
  · intro haligned
    obtain ⟨_, _, _, _, _, _, hsealed⟩ := h.slots (allClose_of_aligned haligned)
    exact hsealed
  · exact fun hsealed => h.aligned_of_allClose (h.allClose_of_sealed hsealed)

/-- The expression has the groups of the placeholders and no others. -/
theorem Assembles.groups (hsealed : ∀ p ∈ placeholders, Sealed p.pattern) :
    e.groups = List.range' 1 placeholders.length := by
  obtain ⟨slots, hcount, hnumbers, hbodies, rfl, _⟩ := h.slots (h.allClose_of_sealed hsealed)
  have hnames := h.length_names hcount
  have hend : groupsOf (Token.endParts (decide (anchoring = .full))) = [] := by
    cases anchoring <;> rfl
  rw [groups_ofPieces, groupsOf_cons, groupsOf_append, hend, List.append_nil,
    Token.groupsOf_assembled hnames hbodies, hnumbers, hcount]
  rfl

end Assembles

/-! ## Compiled templates -/

lemma assembles_of_compile {template : String} {anchoring : Anchoring} {m : Matchable}
    {segments : List Segment} {placeholders : List Placeholder}
    (hsplit : Segment.split template.toList = .ok segments)
    (hread : List.Forall₂ (fun body p => Placeholder.ofBody body = .ok p) (Segment.bodies segments)
      placeholders)
    (hliteral : ∀ text, Segment.literal text ∈ segments → ∀ c ∈ text, isMeta c = false)
    (hcompile : (compile template anchoring).run.value = .ok m) :
    Assembles anchoring segments placeholders m.expression ∧
      m.parameters = placeholders.map fun p => String.ofList p.name := by
  obtain ⟨segments', placeholders', hsplit', hread', htext, hcount, _, hnames, _⟩ :=
    compile_eq_ok hcompile
  obtain rfl : segments = segments' := Except.ok.inj (hsplit.symm.trans hsplit')
  have hunique : Relator.RightUnique fun (body : List Char) (p : Placeholder) =>
      Placeholder.ofBody body = .ok p := fun _ _ _ hp hq => Except.ok.inj (hp.symm.trans hq)
  obtain rfl : placeholders = placeholders' := hunique.forall₂ hread hread'
  refine ⟨⟨hread.length_eq, fun text ht c hc => ⟨hliteral text ht c hc, ?_⟩, htext, hcount⟩, hnames⟩
  rintro rfl
  exact (Segment.isRegular_of_split hsplit _ ht).1 hc

/-- What is found with an aligned template is made up of the literals, the values of the names and
the remainder. -/
theorem Assembles.fill {anchoring : Anchoring} {segments : List Segment}
    {placeholders : List Placeholder} {m : Matchable}
    (h : Assembles anchoring segments placeholders m.expression)
    (hnames : m.parameters = placeholders.map fun p => String.ofList p.name)
    (hsealed : ∀ p ∈ placeholders, Sealed p.pattern) (hdistinct : m.parameters.Nodup)
    {path : String} {hit : PathMatch} (hhit : m.captures path = some hit) :
    ∃ values : List String, m.parameters.map hit.params.get? = values.map some ∧
      path.toList = Segment.fill segments values ++ hit.remainder.toList := by
  obtain ⟨slots, hcount, hnumbers, hbodies, hexpression, _⟩ :=
    h.slots (h.allClose_of_sealed hsealed)
  have hslots := h.length_names hcount
  obtain ⟨trail, hfound, rfl⟩ := Option.map_eq_some_iff.mp hhit
  rw [search, hexpression] at hfound
  obtain ⟨values, rest, htext, hvalues, rfl⟩ :=
    Token.search_assembled hslots hnumbers hbodies hfound
  obtain ⟨hgroups, hrest⟩ := Token.groups_trailOf hvalues htext
  have hparameters : m.parameters.length = (Token.names (Segment.tokens segments)).length :=
    h.length_names (by rw [hnames, List.length_map])
  have hbound : ((List.range m.parameters.length).map fun i => String.ofList
      (Trail.groupText ((0, 0) :: Token.trailOf 1 0 (Segment.tokens segments) values) path.toList
        (i + 1))) = values.map String.ofList := by
    have hmap := congrArg (List.map String.ofList) hgroups
    rw [List.map_map] at hmap
    rw [hparameters]
    exact hmap
  refine ⟨values.map String.ofList, ?_, ?_⟩
  · simp only [hbound]
    exact Parameters.map_get?_bind hdistinct (by rw [List.length_map, hvalues, hparameters])
  · rw [Segment.fill_eq_fill_tokens _ _ (by rw [List.length_map, hvalues, Segment.names_tokens])]
    have hsame : (values.map String.ofList).map String.toList = values := by
      simp [Function.comp_def]
    simp only [hsame, hrest, String.toList_ofList]
    exact htext

/-- A template that compiles has names and groups that go together if and only if every sub-pattern
is sealed.  Then the sub-patterns have no groups of their own, and if the names are pairwise
distinct a path in which the template is found is made up of the literals, the values of the names
and the remainder. -/
theorem aligned_iff_sealed {template : String} {anchoring : Anchoring} {m : Matchable}
    {segments : List Segment} {placeholders : List Placeholder}
    (hsplit : Segment.split template.toList = .ok segments)
    (hread : List.Forall₂ (fun body p => Placeholder.ofBody body = .ok p) (Segment.bodies segments)
      placeholders)
    (hliteral : ∀ text, Segment.literal text ∈ segments → ∀ c ∈ text, isMeta c = false)
    (hcompile : (compile template anchoring).run.value = .ok m) :
    (Aligned anchoring segments placeholders ↔ ∀ p ∈ placeholders, Sealed p.pattern) ∧
      ((∀ p ∈ placeholders, Sealed p.pattern) →
        m.expression.groups = List.range' 1 placeholders.length ∧
        (m.parameters.Nodup → ∀ (path : String) (hit : PathMatch), m.captures path = some hit →
          ∃ values : List String, m.parameters.map hit.params.get? = values.map some ∧
            path.toList = Segment.fill segments values ++ hit.remainder.toList)) := by
  obtain ⟨h, hnames⟩ := assembles_of_compile hsplit hread hliteral hcompile
  refine ⟨h.aligned_iff, fun hsealed => ⟨h.groups hsealed, fun hdistinct path hit hhit => ?_⟩⟩
  exact h.fill hnames hsealed hdistinct hhit

/-- The segments of a template of two placeholders, each behind a slash. -/
def twoSegments (first second : List Char) : List Segment :=
  [.literal ['/'], .placeholder first, .literal ['/'], .placeholder second, .literal []]

lemma literals_twoSegments {first second text : List Char}
    (h : Segment.literal text ∈ twoSegments first second) : ∀ c ∈ text, isMeta c = false := by
  have htext : text = ['/'] ∨ text = [] := by
    simp only [twoSegments, List.mem_cons, Segment.literal.injEq, reduceCtorEq, List.not_mem_nil,
      or_false, false_or] at h
    tauto
  rcases htext with rfl | rfl
  · intro c hc
    obtain rfl : c = '/' := List.mem_singleton.mp hc
    rfl
  · intro c hc
    cases hc

/-- Where both sub-patterns are sealed, each name gets its own part of a path. -/
theorem aligned_iff_sealed_twoSegments :
    ∃ m hit, (compile "/{a}/{b:[0-9]+}" .leading).run.value = .ok m ∧
      Aligned .leading (twoSegments ['a'] "b:[0-9]+".toList)
        [⟨['a'], Placeholder.anySegment⟩, ⟨['b'], "[0-9]+".toList⟩] ∧
      m.expression.groups = [1, 2] ∧ m.captures "/x/12/y" = some hit ∧
      ∃ values, m.parameters.map hit.params.get? = values.map some ∧
        "/x/12/y".toList = Segment.fill (twoSegments ['a'] "b:[0-9]+".toList) values ++
          hit.remainder.toList := by
  have hfound : ((compile "/{a}/{b:[0-9]+}" .leading).run.value.toOption.bind fun m =>
      (m.captures "/x/12/y").map fun _ => decide m.parameters.Nodup) = some true := by
    decide +kernel
  have hsplit : Segment.split "/{a}/{b:[0-9]+}".toList =
      .ok (twoSegments ['a'] "b:[0-9]+".toList) := by decide +kernel
  have hread : List.Forall₂ (fun body p => Placeholder.ofBody body = .ok p)
      (Segment.bodies (twoSegments ['a'] "b:[0-9]+".toList))
      [⟨['a'], Placeholder.anySegment⟩, ⟨['b'], "[0-9]+".toList⟩] :=
    .cons (by decide +kernel) (.cons (by decide +kernel) .nil)
  have hsealed : ∀ p ∈ [(⟨['a'], Placeholder.anySegment⟩ : Placeholder), ⟨['b'], "[0-9]+".toList⟩],
      Sealed p.pattern := by decide +kernel
  obtain ⟨m, hcompile, hfound⟩ := Option.bind_eq_some_iff.mp hfound
  have hok := Attempt.toOption_eq_some.mp hcompile
  obtain ⟨hit, hhit, hdistinct⟩ := Option.map_eq_some_iff.mp hfound
  obtain ⟨haligned, hrest⟩ := aligned_iff_sealed hsplit hread (fun _ => literals_twoSegments) hok
  obtain ⟨hgroups, hfill⟩ := hrest hsealed
  exact ⟨m, hit, hok, haligned.mpr hsealed, hgroups, hhit,
    hfill (of_decide_eq_true hdistinct) _ _ hhit⟩

/-- Sub-patterns that are not sealed may compile, if one has a group too many where another has one
too few.  Here the first parentheses are no group, and both names get the text of the second
sub-pattern. -/
theorem not_aligned_of_compile :
    ∃ m hit, (compile "/{a:?:x}/{b:(y)}" .full).run.value = .ok m ∧
      ¬ Aligned .full (twoSegments "a:?:x".toList "b:(y)".toList)
        [⟨['a'], "?:x".toList⟩, ⟨['b'], "(y)".toList⟩] ∧
      m.parameters = ["a", "b"] ∧ m.captures "/x/y" = some hit ∧
      m.parameters.map hit.params.get? = [some "y", some "y"] ∧
      "/x/y".toList ≠ Segment.fill (twoSegments "a:?:x".toList "b:(y)".toList) ["y", "y"] ++
        hit.remainder.toList := by
  have hfound : ((compile "/{a:?:x}/{b:(y)}" .full).run.value.toOption.bind fun m =>
      (m.captures "/x/y").map fun hit => (m.parameters, m.parameters.map hit.params.get?,
        hit.remainder)) = some (["a", "b"], [some "y", some "y"], "") := by
    decide +kernel
  have hsplit : Segment.split "/{a:?:x}/{b:(y)}".toList =
      .ok (twoSegments "a:?:x".toList "b:(y)".toList) := by decide +kernel
  have hread : List.Forall₂ (fun body p => Placeholder.ofBody body = .ok p)
      (Segment.bodies (twoSegments "a:?:x".toList "b:(y)".toList))
      [⟨['a'], "?:x".toList⟩, ⟨['b'], "(y)".toList⟩] :=
    .cons (by decide +kernel) (.cons (by decide +kernel) .nil)
  obtain ⟨m, hcompile, hfound⟩ := Option.bind_eq_some_iff.mp hfound
  have hok := Attempt.toOption_eq_some.mp hcompile
  obtain ⟨hit, hhit, hfound⟩ := Option.map_eq_some_iff.mp hfound
  obtain ⟨hparameters, hvalues⟩ := Prod.mk.inj hfound
  obtain ⟨hvalues, hremainder⟩ := Prod.mk.inj hvalues
  obtain ⟨h, _⟩ := assembles_of_compile hsplit hread (fun _ => literals_twoSegments) hok
  refine ⟨m, hit, hok, ?_, hparameters, hhit, hvalues, ?_⟩
  · rw [h.aligned_iff]
    decide +kernel
  · rw [hremainder]
    decide +kernel

end Matchable

end UriRouting
