import Mathlib.Tactic
import UriRouting.Proofs.Expression.Blocks
import UriRouting.Proofs.Template.Layout

/-!
# Expressions assembled from tokens

Where the sub-pattern of each slot is read as the body of a group, the expression of a template is a
sequence: a test of the start, a character for each letter, a group for each slot, and perhaps a
test of the end.  If the groups are numbered in order and the bodies have no groups of their own, a
run marks where the slots stand, whatever the bodies are, and the text is made up of the letters and
the texts of the groups (`search_assembled`).

The numbers need not be checked one by one: if they ascend and none is above the number of slots,
there is only one way to give them, and no number is left for a group in a body
(`Ascending.numbers`).
-/

namespace UriRouting

/-! ## Numbers of slots -/

/-- The groups of slots, each with its number and its body, have ascending numbers: each is above
`last`, the numbers in its body are higher, and those of the later slots are higher still. -/
inductive Ascending : Nat → List (Nat × Expression) → Prop
  | nil (last : Nat) : Ascending last []
  | cons {last next n : Nat} {e : Expression} {slots : List (Nat × Expression)} (above : last < n)
      (upto : n ≤ next) (inside : ∀ x ∈ e.groups, n < x ∧ x ≤ next) (rest : Ascending next slots) :
      Ascending last ((n, e) :: slots)

/-- No number of a slot, or of a group in its body, is above a bound. -/
def Bounded (top : Nat) (slots : List (Nat × Expression)) : Prop :=
  ∀ s ∈ slots, s.1 ≤ top ∧ ∀ x ∈ s.2.groups, x ≤ top

lemma Ascending.length_le {last top : Nat} {slots : List (Nat × Expression)}
    (h : Ascending last slots) (hle : last ≤ top) (hbound : Bounded top slots) :
    last + slots.length ≤ top := by
  induction h with
  | nil => exact hle
  | @cons last next n e slots above upto inside rest ih =>
    obtain ⟨⟨hn, _⟩, hrest⟩ := List.forall_mem_cons.mp hbound
    cases rest with
    | nil =>
      simp only [List.length_cons, List.length_nil]
      omega
    | cons above' upto' inside' rest' =>
      have hnext := (List.forall_mem_cons.mp hrest).1.1
      have hlength := ih (by simp only at hnext; omega) hrest
      simp only [List.length_cons] at hlength ⊢
      omega

/-- As many slots as there are numbers are numbered in order, and no body has a group. -/
theorem Ascending.numbers {last : Nat} {slots : List (Nat × Expression)} (h : Ascending last slots)
    (hbound : Bounded (last + slots.length) slots) :
    slots.map Prod.fst = List.range' (last + 1) slots.length ∧ ∀ s ∈ slots, s.2.groups = [] := by
  induction h with
  | nil => simp
  | @cons last next n e slots above upto inside rest ih =>
    obtain ⟨⟨hn, hgroups⟩, hrest⟩ := List.forall_mem_cons.mp hbound
    simp only [List.length_cons] at hn hgroups hrest
    -- The number of this slot leaves room for those of the later ones.
    have hnumber : n = last + 1 ∧ (slots = [] ∨ next = last + 1) := by
      cases rest with
      | nil => exact ⟨by simp only [List.length_nil] at hn; omega, .inl rfl⟩
      | cons above' upto' inside' rest' =>
        have hfirst := (List.forall_mem_cons.mp hrest).1.1
        have hlength := (Ascending.cons above' upto' inside' rest').length_le
          (by simp only at hfirst; omega) hrest
        exact ⟨by omega, .inr (by omega)⟩
    obtain ⟨rfl, hnext⟩ := hnumber
    have hempty : e.groups = [] := by
      rw [List.eq_nil_iff_forall_not_mem]
      intro x hx
      have hinside := inside x hx
      rcases hnext with rfl | rfl
      · have hlow := hgroups x hx
        simp only [List.length_nil] at hlow
        omega
      · omega
    rcases hnext with rfl | rfl
    · simp [hempty]
    · rw [show last + (slots.length + 1) = last + 1 + slots.length by omega] at hrest
      obtain ⟨hmap, hbodies⟩ := ih hrest
      exact ⟨by simp [hmap, List.range'_succ], List.forall_mem_cons.mpr ⟨hempty, hbodies⟩⟩

namespace Token

/-! ## The expression -/

/-- The parts of the expression of some tokens, where each slot has a group with a number and a body
of its own. -/
def assembled : List Token → List (Nat × Expression) → List Expression
  | letter c :: rest, slots => .char (CharSet.singleton c) :: assembled rest slots
  | slot _ :: rest, (n, e) :: slots => .group n e :: assembled rest slots
  | _, _ => []

lemma assembled_map_letter (text : List Char) (rest : List Token)
    (slots : List (Nat × Expression)) :
    assembled (text.map letter ++ rest) slots =
      text.map (fun c => .char (CharSet.singleton c)) ++ assembled rest slots := by
  induction text with
  | nil => rfl
  | cons c text ih => exact congrArg (_ :: ·) ih

lemma bounded_assembled {tokens : List Token} {slots : List (Nat × Expression)}
    (hlength : slots.length = (names tokens).length) {top : Nat}
    (h : ∀ n ∈ Expression.groupsOf (assembled tokens slots), n ≤ top) : Bounded top slots := by
  induction tokens generalizing slots with
  | nil =>
    obtain rfl : slots = [] := List.eq_nil_of_length_eq_zero (by simpa [names] using hlength)
    intro s hs
    cases hs
  | cons t tokens ih =>
    cases t with
    | letter c => exact ih (by simpa [names] using hlength) h
    | slot name =>
      cases slots with
      | nil => simp [names] at hlength
      | cons s slots =>
        simp only [assembled, Expression.groupsOf_cons, Expression.groups, List.cons_append,
          List.mem_cons, List.mem_append] at h
        refine List.forall_mem_cons.mpr ⟨⟨h _ (.inl rfl), fun x hx => h x (.inr (.inl hx))⟩, ?_⟩
        exact ih (by simpa [names] using hlength) fun n hn => h n (.inr (.inr hn))

/-- If the bodies have no groups, the groups of the expression are those of the slots. -/
lemma groupsOf_assembled {tokens : List Token} {slots : List (Nat × Expression)}
    (hlength : slots.length = (names tokens).length) (hbodies : ∀ s ∈ slots, s.2.groups = []) :
    Expression.groupsOf (assembled tokens slots) = slots.map Prod.fst := by
  induction tokens generalizing slots with
  | nil =>
    obtain rfl : slots = [] := List.eq_nil_of_length_eq_zero (by simpa [names] using hlength)
    rfl
  | cons t tokens ih =>
    cases t with
    | letter c => exact ih (by simpa [names] using hlength) hbodies
    | slot name =>
      cases slots with
      | nil => simp [names] at hlength
      | cons s slots =>
        obtain ⟨hempty, hbodies⟩ := List.forall_mem_cons.mp hbodies
        have hrest := ih (by simpa [names] using hlength) hbodies
        simp [assembled, Expression.groups, hempty, hrest]

/-! ## Runs -/

/-- A run through the parts of tokens takes a text of its own for each slot, and marks its ends. -/
theorem accepts_assembled {p : Program} {full : Bool} {tokens : List Token}
    {slots : List (Nat × Expression)} {index : Nat}
    (hlength : slots.length = (names tokens).length)
    (hnumbers : slots.map Prod.fst = List.range' index slots.length)
    (hbodies : ∀ s ∈ slots, s.2.groups = []) {address position : Nat} {before : Option Char}
    {text : List Char} {trail : Trail}
    (hcode : p.code.toList.drop address =
      (Expression.ofPieces (assembled tokens slots ++ endParts full)).code address ++ [.accept])
    (h : Program.Accepts p ⟨address, position, before, text⟩ trail) :
    ∃ values rest, text = fill tokens values ++ rest ∧ values.length = (names tokens).length ∧
      trail = trailOf index position tokens values := by
  induction tokens generalizing slots index address position before text trail with
  | nil =>
    refine ⟨[], text, rfl, rfl, ?_⟩
    cases full with
    | false =>
      obtain ⟨haccept, _⟩ := Program.code_of_drop hcode
      exact h.at_accept haccept
    | true =>
      obtain ⟨hlook, hdrop⟩ := Program.code_of_drop hcode
      obtain ⟨haccept, _⟩ := Program.code_of_drop hdrop
      obtain ⟨_, hend⟩ := h.at_look hlook
      exact hend.at_accept haccept
  | cons t tokens ih =>
    cases t with
    | letter c =>
      rw [assembled, List.cons_append, Expression.code_ofPieces_cons, List.append_assoc] at hcode
      obtain ⟨hchar, hdrop⟩ := Program.code_of_drop hcode
      obtain ⟨d, rest, rfl, hmem, hrest⟩ := h.at_char hchar
      obtain rfl := (contains_singleton c d).mp hmem
      obtain ⟨values, left, rfl, hvalues, rfl⟩ :=
        ih (by simpa [names] using hlength) hnumbers hbodies hdrop hrest
      exact ⟨values, left, rfl, by simpa [names] using hvalues, rfl⟩
    | slot name =>
      cases slots with
      | nil => simp [names] at hlength
      | cons s slots =>
        obtain ⟨n, e⟩ := s
        obtain ⟨hempty, hbodies⟩ := List.forall_mem_cons.mp hbodies
        simp only [List.map_cons, List.length_cons, List.range'_succ, List.cons.injEq] at hnumbers
        obtain ⟨rfl, hnumbers⟩ := hnumbers
        rw [assembled, List.cons_append, Expression.code_ofPieces_cons, List.append_assoc] at hcode
        obtain ⟨_, hdrop⟩ := Program.code_of_drop_append hcode
        obtain ⟨value, left, last, marks, rfl, hrest, rfl⟩ := h.at_group hempty hcode
        obtain ⟨values, rest, rfl, hvalues, rfl⟩ :=
          ih (by simpa [names] using hlength) hnumbers hbodies hdrop hrest
        refine ⟨value :: values, rest, ?_, by simpa [names] using hvalues, rfl⟩
        rw [fill, List.append_assoc]

/-- What is found with the expression of tokens is made up of the letters and the texts of the
groups. -/
theorem search_assembled {full : Bool} {tokens : List Token} {slots : List (Nat × Expression)}
    (hlength : slots.length = (names tokens).length)
    (hnumbers : slots.map Prod.fst = List.range' 1 slots.length)
    (hbodies : ∀ s ∈ slots, s.2.groups = []) {text : List Char} {trail : Trail}
    (h : (Expression.ofPieces (.look .textStart ::
      (assembled tokens slots ++ endParts full))).program.search text = some trail) :
    ∃ values rest, text = fill tokens values ++ rest ∧ values.length = (names tokens).length ∧
      trail = (0, 0) :: trailOf 1 0 tokens values := by
  set parts := assembled tokens slots ++ endParts full with hparts
  set p := (Expression.ofPieces (.look .textStart :: parts)).program with hp
  have hcode : p.code.toList.drop 0 =
      .look .textStart :: ((Expression.ofPieces parts).code 1 ++ [.accept]) := by
    rw [List.drop_zero, hp, Expression.program, Expression.code_ofPieces_cons]
    rfl
  obtain ⟨hlook, hdrop⟩ := Program.code_of_drop hcode
  rw [Program.search_of_start hlook] at h
  obtain ⟨marks, hfound, rfl⟩ := Option.map_eq_some_iff.mp h
  obtain ⟨_, haccepts⟩ := (Program.accepts_of_enter hfound).at_look hlook
  rw [hparts] at hdrop
  obtain ⟨values, rest, htext, hvalues, rfl⟩ :=
    accepts_assembled hlength hnumbers hbodies hdrop haccepts
  exact ⟨values, rest, htext, hvalues, rfl⟩

end Token

end UriRouting
