import Mathlib.Tactic
import UriRouting.Proofs.Expression.Enclosures
import UriRouting.Proofs.Template.Alignment

/-!
# Sub-patterns that stay in their parentheses

The anchors of a template hold for all of its expression only if no sub-pattern gets out of the
parentheses put around it: a branch outside of them has no test of the start.  That the parentheses
of each sub-pattern are balanced is checked before a template is compiled, but the check does not
agree with the reading of expressions on what a class is, and sub-patterns can get out in spite of
it (`not_contained_of_compile`).

A template that compiles contains its sub-patterns if and only if all of them are enclosed, that is,
if each stays in its parentheses on its own (`contained_iff_enclosed`).  Then a path in which it is
found starts with the first literal, whatever the sub-patterns match, and goes on with the others in
their order.  There is no condition on the groups in the sub-patterns, so this holds of more
templates than `aligned_iff_sealed`.
-/

namespace UriRouting

/-! ## Sequences of parts -/

namespace Expression

lemma code_ofPieces_append (first second : List Expression) (address : Nat) :
    (ofPieces (first ++ second)).code address = (ofPieces first).code address ++
      (ofPieces second).code (address + ((ofPieces first).code address).length) := by
  induction first generalizing address with
  | nil => rfl
  | cons e first ih =>
    rw [List.cons_append, code_ofPieces_cons, code_ofPieces_cons, ih, List.append_assoc,
      List.length_append, Nat.add_assoc]

lemma code_ofPieces_pieces (e : Expression) (address : Nat) :
    (ofPieces e.pieces).code address = e.code address := by
  induction e generalizing address with
  | seq a b iha ihb =>
    rw [pieces, code_ofPieces_append, iha, ihb]
    rfl
  | _ => rfl

lemma code_sequence (parts : List Expression) (address : Nat) :
    (sequence parts).code address = (ofPieces parts).code address := by
  rw [sequence]
  induction parts generalizing address with
  | nil => rfl
  | cons e parts ih =>
    rw [List.flatMap_cons, code_ofPieces_append, code_ofPieces_pieces, ih, code_ofPieces_cons]

lemma code_branch (parts : List Part) (address : Nat) :
    (Body.branch ⟨[], parts.reverse⟩).expression.code address =
      (ofPieces (parts.map Part.expression)).code address := by
  unfold Body.branch
  split
  next h =>
    obtain rfl : parts = [] := by simpa using h
    rfl
  next p h =>
    obtain rfl : parts = [p] := by simpa using congrArg List.reverse h
    rfl
  next => rw [List.reverse_reverse, code_sequence]

end Expression

namespace Token

/-- The parts of the expression of some tokens, where any expression stands for a slot. -/
def interleaved : List Token → List Expression → List Expression
  | letter c :: rest, slots => .char (CharSet.singleton c) :: interleaved rest slots
  | slot _ :: rest, e :: slots => e :: interleaved rest slots
  | _, _ => []

lemma interleaved_map_letter (text : List Char) (rest : List Token) (slots : List Expression) :
    interleaved (text.map letter ++ rest) slots =
      text.map (fun c => .char (CharSet.singleton c)) ++ interleaved rest slots := by
  induction text with
  | nil => rfl
  | cons c text ih => exact congrArg (_ :: ·) ih

/-- A run through the parts of tokens takes the letters, with a text for each slot between them, and
marks its end behind them. -/
theorem accepts_interleaved {p : Program} {full : Bool} {tokens : List Token}
    {slots : List Expression} (hlength : slots.length = (names tokens).length)
    {address position : Nat} {before : Option Char} {text : List Char} {trail : Trail}
    (hcode : p.code.toList.drop address =
      (Expression.ofPieces (interleaved tokens slots ++ endParts full)).code address ++ [.accept])
    (h : Program.Accepts p ⟨address, position, before, text⟩ trail) :
    ∃ values rest marks, text = fill tokens values ++ rest ∧
      values.length = (names tokens).length ∧ (full = true → rest = []) ∧
      trail = marks ++ [(1, position + (fill tokens values).length)] := by
  induction tokens generalizing slots address position before text trail with
  | nil =>
    cases full with
    | false =>
      obtain ⟨haccept, _⟩ := Program.code_of_drop hcode
      exact ⟨[], text, [], rfl, rfl, by simp, h.at_accept haccept⟩
    | true =>
      obtain ⟨hlook, hdrop⟩ := Program.code_of_drop hcode
      obtain ⟨haccept, _⟩ := Program.code_of_drop hdrop
      obtain ⟨hholds, hend⟩ := h.at_look hlook
      have hempty : text = [] := by simpa [Look.holds] using hholds
      exact ⟨[], text, [], rfl, rfl, fun _ => hempty, hend.at_accept haccept⟩
  | cons t tokens ih =>
    cases t with
    | letter c =>
      rw [interleaved, List.cons_append, Expression.code_ofPieces_cons, List.append_assoc] at hcode
      obtain ⟨hchar, hdrop⟩ := Program.code_of_drop hcode
      obtain ⟨d, left, rfl, hmem, hrest⟩ := h.at_char hchar
      obtain rfl := (contains_singleton c d).mp hmem
      obtain ⟨values, rest, marks, rfl, hvalues, hend, rfl⟩ :=
        ih (by simpa [names] using hlength) hdrop hrest
      refine ⟨values, rest, marks, rfl, by simpa [names] using hvalues, hend, ?_⟩
      rw [fill, List.length_cons, Nat.add_assoc, Nat.add_comm 1]
    | slot name =>
      cases slots with
      | nil => simp [names] at hlength
      | cons e slots =>
        rw [interleaved, List.cons_append, Expression.code_ofPieces_cons,
          List.append_assoc] at hcode
        obtain ⟨hinside, hdrop⟩ := Program.code_of_drop_append hcode
        -- The run comes out of the slot behind its end, wherever it has been inside.
        obtain ⟨first, ⟨out, place, last, left⟩, later, hrun, hout, haccepts, rfl, _⟩ :=
          h.through hinside (Expression.kept_code e address) ⟨le_rfl, Nat.le_add_right _ _⟩
        obtain ⟨value, htext, hplace⟩ := hrun.taken
        obtain rfl : text = value ++ left := htext
        obtain rfl : place = position + value.length := hplace
        obtain rfl : out = address + (e.code address).length := hout
        obtain ⟨values, rest, marks, rfl, hvalues, hend, rfl⟩ :=
          ih (by simpa [names] using hlength) hdrop haccepts
        refine ⟨value :: values, rest, first ++ marks, ?_, by simpa [names] using hvalues, hend, ?_⟩
        · rw [fill, List.append_assoc]
        · rw [fill, List.length_append, List.append_assoc, Nat.add_assoc]

/-- What is found with an expression that is laid out like the parts of tokens starts with them, and
what they leave is the rest behind the match. -/
theorem search_interleaved {full : Bool} {tokens : List Token} {slots : List Expression}
    (hlength : slots.length = (names tokens).length) {e : Expression}
    (hcode : e.code 0 = (Expression.ofPieces
      (.look .textStart :: (interleaved tokens slots ++ endParts full))).code 0)
    {text : List Char} {trail : Trail} (h : e.program.search text = some trail) :
    ∃ values, text = fill tokens values ++ text.drop trail.stop ∧
      values.length = (names tokens).length ∧ (full = true → text.drop trail.stop = []) := by
  have hprogram : e.program.code.toList.drop 0 = .look .textStart ::
      ((Expression.ofPieces (interleaved tokens slots ++ endParts full)).code 1 ++ [.accept]) := by
    rw [List.drop_zero, Expression.program, hcode, Expression.code_ofPieces_cons]
    rfl
  obtain ⟨hlook, hdrop⟩ := Program.code_of_drop hprogram
  rw [Program.search_of_start hlook] at h
  obtain ⟨found, hfound, rfl⟩ := Option.map_eq_some_iff.mp h
  obtain ⟨_, haccepts⟩ := (Program.accepts_of_enter hfound).at_look hlook
  obtain ⟨values, rest, marks, htext, hvalues, hend, rfl⟩ :=
    accepts_interleaved hlength hdrop haccepts
  have hstop : Trail.stop ((0, 0) :: (marks ++ [(1, 0 + (fill tokens values).length)])) =
      (fill tokens values).length := by
    rw [← List.cons_append, Trail.stop, last?_append]
    simp [Trail.last?]
  have hrest : text.drop (fill tokens values).length = rest := by rw [htext, List.drop_left]
  refine ⟨values, ?_, hvalues, ?_⟩
  · rw [hstop, hrest]
    exact htext
  · rw [hstop, hrest]
    exact hend

end Token

/-! ## The ends of a template -/

namespace Segment

/-- The literal text before the first placeholder. -/
def firstText : List Segment → List Char
  | literal text :: _ => text
  | _ => []

/-- The literal text behind the last placeholder. -/
def lastText : List Segment → List Char
  | [] => []
  | [literal text] => text
  | _ :: rest => lastText rest

lemma firstText_prefix_fill (segments : List Segment) (values : List String) :
    firstText segments <+: fill segments values := by
  cases segments with
  | nil => exact List.nil_prefix
  | cons s rest =>
    cases s with
    | literal text => exact List.prefix_append text _
    | placeholder body => exact List.nil_prefix

lemma lastText_suffix_fill {segments : List Segment} {values : List String}
    (h : values.length = (bodies segments).length) :
    lastText segments <:+ fill segments values := by
  induction segments generalizing values with
  | nil => exact List.nil_suffix
  | cons s rest ih =>
    cases s with
    | literal text =>
      cases rest with
      | nil =>
        change text <:+ text ++ []
        rw [List.append_nil]
      | cons t rest =>
        have hrest : lastText (t :: rest) <:+ fill (t :: rest) values := ih h
        exact hrest.trans (List.suffix_append text _)
    | placeholder body =>
      cases values with
      | nil => simp [bodies] at h
      | cons value values =>
        have hrest : lastText rest <:+ fill rest values := ih (by simpa [bodies] using h)
        have hlast : lastText (placeholder body :: rest) = lastText rest := by cases rest <;> rfl
        rw [hlast]
        exact hrest.trans (List.suffix_append value.toList _)

end Segment

namespace Matchable

open Expression

/-! ## Enclosures at a place of a text -/

/-- The parenthesis before `inside` opens a group in the text where none is open, and the group
stays open until the parenthesis before `after` closes it. -/
def IsEnclosure (text inside after : List Char) : Prop :=
  ∃ r left, Reads (Reader.start, text) (r, left) ∧ r.flags.skip left = '(' :: inside ∧
    r.opened = [] ∧ r.Encloses inside after

/-- No sub-pattern of the assembled expression gets out of the parentheses put around it. -/
def Contained (anchoring : Anchoring) (segments : List Segment) (placeholders : List Placeholder) :
    Prop :=
  ∀ pair ∈ pushed (endAnchor anchoring) segments placeholders,
    IsEnclosure (anchored anchoring (patternText segments placeholders)) pair.1 pair.2

/-- Each pair of parentheses is an enclosure if the reading comes to it with nothing open. -/
def EnclosesAll (text : List Char) (pairs : List (List Char × List Char)) : Prop :=
  ∀ r : Reader, ∀ pair ∈ pairs, r.AtTop → Reads (Reader.start, text) (r, '(' :: pair.1) →
    r.Encloses pair.1 pair.2

lemma IsEnclosure.encloses {text inside after : List Char} (h : IsEnclosure text inside after)
    {r : Reader} (hreads : Reads (Reader.start, text) (r, '(' :: inside)) :
    r.Encloses inside after := by
  obtain ⟨other, left, hother, hskip, _, hencloses⟩ := h
  have hsame : (other, left) = (r, '(' :: inside) := hother.at_place hskip hreads
  obtain ⟨rfl, _⟩ := Prod.mk.inj hsame
  exact hencloses

/-! ## Reading the assembled text -/

/-- If the parentheses around the sub-patterns are enclosures, then each placeholder adds one part,
and its sub-pattern is enclosed. -/
theorem reads_interleaved {text tail : List Char} {segments : List Segment}
    {placeholders : List Placeholder}
    (hlength : (Segment.bodies segments).length = placeholders.length)
    (hliteral : LiteralsPlain segments)
    (hencloses : EnclosesAll text (pushed tail segments placeholders)) {r : Reader} (htop : r.AtTop)
    (hreads : Reads (Reader.start, text) (r, patternText segments placeholders ++ tail)) :
    ∃ (r' : Reader) (slots : List Expression), r'.AtTop ∧ Reads (Reader.start, text) (r', tail) ∧
      r'.body.parts.map Part.expression =
        (Token.interleaved (Segment.tokens segments) slots).reverse ++
          r.body.parts.map Part.expression ∧
      slots.length = placeholders.length ∧
      (∀ pair ∈ pushed tail segments placeholders, IsEnclosure text pair.1 pair.2) ∧
      ∀ p ∈ placeholders, Enclosed p.pattern := by
  induction segments generalizing placeholders r with
  | nil =>
    obtain rfl : placeholders = [] :=
      List.eq_nil_of_length_eq_zero (by simpa [Segment.bodies] using hlength.symm)
    exact ⟨r, [], htop, hreads, rfl, rfl, by simp [pushed], by simp⟩
  | cons s rest ih =>
    have hrest : LiteralsPlain rest := fun t ht => hliteral t (List.mem_cons_of_mem s ht)
    cases s with
    | literal letters =>
      rw [patternText, List.append_assoc] at hreads
      obtain ⟨r₁, hletters, htop₁, _, hparts⟩ :=
        reads_letters htop (hliteral letters List.mem_cons_self)
          (patternText rest placeholders ++ tail)
      obtain ⟨r', slots, htop', hend, hparts', hcount, hall⟩ :=
        ih hlength hrest hencloses htop₁ (hreads.trans hletters)
      refine ⟨r', slots, htop', hend, ?_, hcount, hall⟩
      rw [hparts', hparts, Segment.tokens, Token.interleaved_map_letter]
      simp
    | placeholder body =>
      cases placeholders with
      | nil => simp [Segment.bodies] at hlength
      | cons p placeholders =>
        have hothers : EnclosesAll text (pushed tail rest placeholders) :=
          fun r pair hpair => hencloses r pair (List.mem_cons_of_mem _ hpair)
        have hopening : Reads (Reader.start, text)
            (r, '(' :: (p.pattern ++ ')' :: (patternText rest placeholders ++ tail))) := by
          simpa [patternText] using hreads
        have hfirst := hencloses r _ List.mem_cons_self htop hopening
        obtain ⟨r₁, e, depth, hpart, hflags₁, hopened₁, hbody₁⟩ :=
          part_of_encloses htop.flags htop.opened hfirst
        have htop₁ : r₁.AtTop := ⟨hflags₁, hopened₁, by rw [hbody₁]; exact htop.branches⟩
        obtain ⟨r', slots, htop', hend, hparts', hcount, hplaces, henclosed⟩ :=
          ih (by simpa [Segment.bodies] using hlength) hrest hothers htop₁ (hopening.trans hpart)
        have hplace : IsEnclosure text
            (p.pattern ++ ')' :: (patternText rest placeholders ++ tail))
            (patternText rest placeholders ++ tail) :=
          ⟨r, _, hopening, skip_of_default htop.flags _, htop.opened, hfirst⟩
        have hpattern : Enclosed p.pattern := enclosed_of_encloses htop.flags htop.opened hfirst
        refine ⟨r', e :: slots, htop', hend, ?_, by rw [List.length_cons, List.length_cons, hcount],
          List.forall_mem_cons.mpr ⟨hplace, hplaces⟩,
          List.forall_mem_cons.mpr ⟨hpattern, henclosed⟩⟩
        rw [hparts', hbody₁, Segment.tokens, Token.interleaved]
        simp [Body.add]

section Assembles

variable {anchoring : Anchoring} {segments : List Segment} {placeholders : List Placeholder}
  {e : Expression} (h : Assembles anchoring segments placeholders e)
include h

/-- If the reading comes to enclosures only, the expression is laid out like the tokens of the
template with any parts in the slots. -/
theorem Assembles.interleaved (hencloses :
      EnclosesAll (anchored anchoring (patternText segments placeholders))
        (pushed (endAnchor anchoring) segments placeholders)) :
    ∃ slots : List Expression, slots.length = (Token.names (Segment.tokens segments)).length ∧
      e.code 0 = (ofPieces (look .textStart :: (Token.interleaved (Segment.tokens segments) slots ++
        Token.endParts (decide (anchoring = .full))))).code 0 ∧
      Contained anchoring segments placeholders ∧ ∀ p ∈ placeholders, Enclosed p.pattern := by
  have hstart := reads_startAnchor anchoring (patternText segments placeholders)
  obtain ⟨r, slots, htop, hreads, hparts, hcount, hcontained, henclosed⟩ :=
    reads_interleaved h.length h.literals hencloses ⟨rfl, rfl, rfl⟩ hstart
  obtain ⟨parts, rfl, hwhole⟩ := expression_of_reads h.text htop hreads
  have hexpressions : parts.map Part.expression =
      look .textStart :: (Token.interleaved (Segment.tokens segments) slots ++
        Token.endParts (decide (anchoring = .full))) := by
    rw [← List.reverse_inj, ← List.map_reverse, hwhole, hparts]
    simp [Reader.start, Reader.add, Body.start, Body.add]
  refine ⟨slots, h.length_names hcount, ?_, hcontained, henclosed⟩
  rw [code_branch, hexpressions]

lemma Assembles.enclosesAll_of_enclosed (henclosed : ∀ p ∈ placeholders, Enclosed p.pattern) :
    EnclosesAll (anchored anchoring (patternText segments placeholders))
      (pushed (endAnchor anchoring) segments placeholders) := by
  intro r pair hpair htop hreads
  obtain ⟨p, hp, hinside⟩ := pattern_of_mem_pushed hpair
  obtain ⟨last, left, hlast, hend, _⟩ := reads_of_ofText h.text
  rw [hinside] at hreads ⊢
  have hrest := Reads.to_end hreads hlast hend
  exact encloses_of_enclosed htop.flags htop.opened (henclosed p hp) hrest hend

/-- No sub-pattern gets out of its parentheses if and only if each stays in them on its own. -/
theorem Assembles.contained_iff :
    Contained anchoring segments placeholders ↔ ∀ p ∈ placeholders, Enclosed p.pattern := by
  constructor
  · intro hcontained
    have hencloses : EnclosesAll (anchored anchoring (patternText segments placeholders))
        (pushed (endAnchor anchoring) segments placeholders) :=
      fun r pair hpair _ hreads => (hcontained pair hpair).encloses hreads
    obtain ⟨_, _, _, _, henclosed⟩ := h.interleaved hencloses
    exact henclosed
  · intro henclosed
    obtain ⟨_, _, _, hcontained, _⟩ := h.interleaved (h.enclosesAll_of_enclosed henclosed)
    exact hcontained

/-- If the sub-patterns are enclosed, what is found starts with the literals, in order and with a
text for each placeholder between them. -/
theorem Assembles.found (henclosed : ∀ p ∈ placeholders, Enclosed p.pattern) {text : List Char}
    {trail : Trail} (hfound : e.program.search text = some trail) :
    ∃ values : List String, values.length = (Segment.bodies segments).length ∧
      text = Segment.fill segments values ++ text.drop trail.stop ∧
      (anchoring = .full → text.drop trail.stop = []) := by
  obtain ⟨slots, hslots, hcode, _⟩ := h.interleaved (h.enclosesAll_of_enclosed henclosed)
  obtain ⟨values, htext, hvalues, hend⟩ := Token.search_interleaved hslots hcode hfound
  have hcount : (values.map String.ofList).length = (Segment.bodies segments).length := by
    rw [List.length_map, hvalues, Segment.names_tokens]
  have hsame : (values.map String.ofList).map String.toList = values := by
    simp [Function.comp_def]
  refine ⟨values.map String.ofList, hcount, ?_, fun hfull => hend (decide_eq_true hfull)⟩
  rw [Segment.fill_eq_fill_tokens _ _ hcount, hsame]
  exact htext

end Assembles

/-! ## Compiled templates -/

/-- A template that compiles contains its sub-patterns if and only if all of them are enclosed.
Then a path in which it is found starts with the first literal, and if the template has to match the
whole path, the path ends with the last literal and nothing of it is left. -/
theorem contained_iff_enclosed {template : String} {anchoring : Anchoring} {m : Matchable}
    {segments : List Segment} {placeholders : List Placeholder}
    (hsplit : Segment.split template.toList = .ok segments)
    (hread : List.Forall₂ (fun body p => Placeholder.ofBody body = .ok p) (Segment.bodies segments)
      placeholders)
    (hliteral : ∀ text, Segment.literal text ∈ segments → ∀ c ∈ text, isMeta c = false)
    (hcompile : (compile template anchoring).run.value = .ok m) :
    (Contained anchoring segments placeholders ↔ ∀ p ∈ placeholders, Enclosed p.pattern) ∧
      ((∀ p ∈ placeholders, Enclosed p.pattern) → ∀ path : String,
        (m.isMatch path = true → Segment.firstText segments <+: path.toList) ∧
        (anchoring = .full → ∀ hit, m.captures path = some hit →
          Segment.firstText segments <+: path.toList ∧ Segment.lastText segments <:+ path.toList ∧
            hit.remainder = "")) := by
  obtain ⟨h, _⟩ := assembles_of_compile hsplit hread hliteral hcompile
  refine ⟨h.contained_iff, fun henclosed path => ⟨fun hmatch => ?_, fun hfull hit hhit => ?_⟩⟩
  · obtain ⟨trail, htrail⟩ := Option.isSome_iff_exists.mp hmatch
    obtain ⟨values, _, htext, _⟩ := h.found henclosed htrail
    have hstarts := Segment.firstText_prefix_fill segments values
    rw [htext]
    exact hstarts.trans (List.prefix_append _ _)
  · obtain ⟨trail, htrail, rfl⟩ := Option.map_eq_some_iff.mp hhit
    obtain ⟨values, hvalues, htext, hend⟩ := h.found henclosed htrail
    have hrest := hend hfull
    have hwhole : path.toList = Segment.fill segments values := by
      rw [htext, hrest, List.append_nil]
    refine ⟨?_, ?_, by rw [hrest]⟩
    · rw [hwhole]
      exact Segment.firstText_prefix_fill segments values
    · rw [hwhole]
      exact Segment.lastText_suffix_fill hvalues

/-- The parentheses around the first sub-pattern are no group that captures, and there is a group in
the second one; but both stay in their parentheses. -/
theorem contained_iff_enclosed_twoSegments :
    ∃ m hit, (compile "/{a:?:x}/{b:(y)}" .full).run.value = .ok m ∧
      Contained .full (twoSegments "a:?:x".toList "b:(y)".toList)
        [⟨['a'], "?:x".toList⟩, ⟨['b'], "(y)".toList⟩] ∧
      m.isMatch "/x/y" = true ∧ m.captures "/x/y" = some hit ∧
      Segment.firstText (twoSegments "a:?:x".toList "b:(y)".toList) <+: "/x/y".toList ∧
      Segment.lastText (twoSegments "a:?:x".toList "b:(y)".toList) <:+ "/x/y".toList ∧
      hit.remainder = "" := by
  have hfound : ((compile "/{a:?:x}/{b:(y)}" .full).run.value.toOption.bind fun m =>
      (m.captures "/x/y").map fun _ => m.isMatch "/x/y") = some true := by
    decide +kernel
  have hsplit : Segment.split "/{a:?:x}/{b:(y)}".toList =
      .ok (twoSegments "a:?:x".toList "b:(y)".toList) := by decide +kernel
  have hread : List.Forall₂ (fun body p => Placeholder.ofBody body = .ok p)
      (Segment.bodies (twoSegments "a:?:x".toList "b:(y)".toList))
      [⟨['a'], "?:x".toList⟩, ⟨['b'], "(y)".toList⟩] :=
    .cons (by decide +kernel) (.cons (by decide +kernel) .nil)
  have henclosed : ∀ p ∈ [(⟨['a'], "?:x".toList⟩ : Placeholder), ⟨['b'], "(y)".toList⟩],
      Enclosed p.pattern := by decide +kernel
  obtain ⟨m, hcompile, hfound⟩ := Option.bind_eq_some_iff.mp hfound
  have hok := Attempt.toOption_eq_some.mp hcompile
  obtain ⟨hit, hhit, hmatch⟩ := Option.map_eq_some_iff.mp hfound
  obtain ⟨hcontained, hpaths⟩ :=
    contained_iff_enclosed hsplit hread (fun _ => literals_twoSegments) hok
  obtain ⟨_, hends⟩ := hpaths henclosed "/x/y"
  exact ⟨m, hit, hok, hcontained.mpr henclosed, hmatch, hhit, hends rfl hit hhit⟩

/-- The segments of a template with one placeholder, behind a slash. -/
def oneSegment (body : List Char) : List Segment :=
  [.literal ['/'], .placeholder body, .literal []]

lemma literals_oneSegment {body text : List Char} (h : Segment.literal text ∈ oneSegment body) :
    ∀ c ∈ text, isMeta c = false := by
  have htwo : Segment.literal text ∈ twoSegments body body := by
    simp only [oneSegment, twoSegments, List.mem_cons] at h ⊢
    tauto
  exact literals_twoSegments htwo

/-- A sub-pattern that gets out of its parentheses may compile, where the check takes the end of a
range for the start of a class.  Here the class ends at the first closing bracket and the group
behind it, and the branch that follows has no test of the start. -/
theorem not_contained_of_compile :
    ∃ m, (compile "/{a:[A-[])|(?:b}" .leading).run.value = .ok m ∧
      Segment.split "/{a:[A-[])|(?:b}".toList = .ok (oneSegment "a:[A-[])|(?:b".toList) ∧
      (∀ text, Segment.literal text ∈ oneSegment "a:[A-[])|(?:b".toList →
        ∀ c ∈ text, isMeta c = false) ∧
      ¬ Contained .leading (oneSegment "a:[A-[])|(?:b".toList) [⟨['a'], "[A-[])|(?:b".toList⟩] ∧
      m.isMatch "zzb" = true ∧
      ¬ Segment.firstText (oneSegment "a:[A-[])|(?:b".toList) <+: "zzb".toList := by
  have hfound : (compile "/{a:[A-[])|(?:b}" .leading).run.value.toOption.map
      (fun m => m.isMatch "zzb") = some true := by
    decide +kernel
  have hsplit : Segment.split "/{a:[A-[])|(?:b}".toList =
      .ok (oneSegment "a:[A-[])|(?:b".toList) := by decide +kernel
  have hread : List.Forall₂ (fun body p => Placeholder.ofBody body = .ok p)
      (Segment.bodies (oneSegment "a:[A-[])|(?:b".toList)) [⟨['a'], "[A-[])|(?:b".toList⟩] :=
    .cons (by decide +kernel) .nil
  obtain ⟨m, hcompile, hmatch⟩ := Option.map_eq_some_iff.mp hfound
  have hok := Attempt.toOption_eq_some.mp hcompile
  obtain ⟨h, _⟩ := assembles_of_compile hsplit hread (fun _ => literals_oneSegment) hok
  refine ⟨m, hok, hsplit, fun _ => literals_oneSegment, ?_, hmatch, ?_⟩
  · rw [h.contained_iff]
    decide +kernel
  · decide +kernel

end Matchable

end UriRouting
