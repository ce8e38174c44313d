import Mathlib.Tactic
import UriRouting.Proofs.Expression.Runs
import UriRouting.Proofs.Template.Fit

/-!
# The program of a plain template

The expression of a plain template is a sequence: a test of the start of the text, a character for
each letter, a group for each slot, and perhaps a test of the end.  Its program goes from one
instruction to the next, but for the fork of a slot, which prefers to take one more character.

So the program is ranked, and from the start of the tokens it finds what `Token.fit` says
(`enter_eq_fit`).  The trail of a run marks where the slots stand, and the texts of the groups are
the values of the slots (`groupText_trailOf`).
-/

namespace UriRouting

/-! ## The expression -/

lemma Expression.code_ofPieces_cons (e : Expression) (rest : List Expression) (address : Nat) :
    (ofPieces (e :: rest)).code address =
      e.code address ++ (ofPieces rest).code (address + (e.code address).length) := by
  cases rest with
  | nil => simp [ofPieces, code]
  | cons _ _ => rfl

/-- All characters but the slash. -/
def notSlash : CharSet := (CharSet.singleton '/').compl

namespace Token

/-- The parts of the expression of some tokens; the first slot has the group of a number. -/
def parts (index : Nat) : List Token → List Expression
  | [] => []
  | letter c :: rest => .char (CharSet.singleton c) :: parts index rest
  | slot _ :: rest =>
    .group index (.iterate (.char notSlash) 1 none true) :: parts (index + 1) rest

/-- The test at the end of an expression that has to match a text to its end. -/
def endParts (full : Bool) : List Expression := if full then [.look .textStop] else []

/-- The expression of tokens that have to be found at the start of a text, or to be all of it. -/
def expression (full : Bool) (tokens : List Token) : Expression :=
  Expression.ofPieces (.look .textStart :: (parts 1 tokens ++ endParts full))

/-! ## The program -/

/-- The instructions of some tokens, from an address on, and of the end. -/
def layout (full : Bool) (index address : Nat) : List Token → List Instruction
  | [] => if full then [.look .textStop, .accept] else [.accept]
  | letter c :: rest => .char (CharSet.singleton c) :: layout full index (address + 1) rest
  | slot _ :: rest =>
    .mark (2 * index) :: .char notSlash :: .fork (address + 1) (address + 3) ::
      .mark (2 * index + 1) :: layout full (index + 1) (address + 4) rest

lemma code_parts (full : Bool) (index address : Nat) (tokens : List Token) :
    (Expression.ofPieces (parts index tokens ++ endParts full)).code address ++ [.accept] =
      layout full index address tokens := by
  induction tokens generalizing index address with
  | nil => cases full <;> rfl
  | cons t rest ih =>
    cases t with
    | letter c =>
      rw [parts, List.cons_append, Expression.code_ofPieces_cons, List.append_assoc, layout]
      exact congrArg _ (ih index (address + 1))
    | slot name =>
      rw [parts, List.cons_append, Expression.code_ofPieces_cons, List.append_assoc, layout]
      have hgroup : (Expression.group index (.iterate (.char notSlash) 1 none true)).code address =
          [.mark (2 * index), .char notSlash, .fork (address + 1) (address + 3),
            .mark (2 * index + 1)] := by
        simp [Expression.code, Instruction.choose]
      rw [hgroup]
      exact congrArg _ (ih (index + 1) (address + 4))

/-- The program of some tokens is their layout behind the test of the start. -/
lemma code_expression (full : Bool) (tokens : List Token) :
    (expression full tokens).program.code.toList = .look .textStart :: layout full 1 1 tokens := by
  rw [expression, Expression.program, Expression.code_ofPieces_cons, List.append_assoc]
  exact congrArg (Instruction.look .textStart :: ·) (code_parts full 1 1 tokens)

/-- The instructions of tokens stand in a program from an address on. -/
def LaidOut (p : Program) (full : Bool) (index address : Nat) (tokens : List Token) : Prop :=
  p.code.toList.drop address = layout full index address tokens

lemma laidOut_expression (full : Bool) (tokens : List Token) :
    LaidOut (expression full tokens).program full 1 1 tokens := by
  rw [LaidOut, code_expression]
  rfl

/-! ## Ranks -/

/-- A move that takes no character goes forward, but that a fork may go back to the instruction
before it, which takes one. -/
lemma onward_layout {full : Bool} {index address k : Nat} {tokens : List Token}
    {instruction : Instruction}
    (h : (layout full index address tokens)[k]? = some instruction) :
    ∀ b ∈ Instruction.onward (address + k) instruction,
      b = address + k + 1 ∨ ∃ j, k = j + 1 ∧ b = address + j ∧
        (layout full index address tokens)[j]? = some (.char notSlash) := by
  induction tokens generalizing index address k with
  | nil =>
    cases full with
    | false =>
      cases k with
      | zero =>
        obtain rfl : Instruction.accept = instruction := by simpa [layout] using h
        simp [Instruction.onward]
      | succ k => simp [layout] at h
    | true =>
      rcases k with _ | _ | k
      · obtain rfl : Instruction.look .textStop = instruction := by simpa [layout] using h
        simp [Instruction.onward]
      · obtain rfl : Instruction.accept = instruction := by simpa [layout] using h
        simp [Instruction.onward]
      · simp [layout] at h
  | cons t rest ih =>
    -- Behind the first token the layout goes on as that of the others.
    have hlater {index' n j : Nat} (hlayout : layout full index address (t :: rest) =
          (layout full index address (t :: rest)).take n ++ layout full index' (address + n) rest)
        (hn : ((layout full index address (t :: rest)).take n).length = n) (hk : k = n + j) :
        ∀ b ∈ Instruction.onward (address + k) instruction,
          b = address + k + 1 ∨ ∃ j, k = j + 1 ∧ b = address + j ∧
            (layout full index address (t :: rest))[j]? = some (.char notSlash) := by
      have hget (i : Nat) : (layout full index address (t :: rest))[n + i]? =
          (layout full index' (address + n) rest)[i]? := by
        rw [hlayout, List.getElem?_append_right (by omega), hn, Nat.add_sub_cancel_left]
      subst hk
      rw [hget] at h
      intro b hb
      rw [← Nat.add_assoc] at hb
      rcases ih h b hb with hb | ⟨i, rfl, hb, hi⟩
      · exact .inl (by omega)
      · exact .inr ⟨n + i, by omega, by omega, by rw [hget, hi]⟩
    cases t with
    | letter c =>
      cases k with
      | zero =>
        obtain rfl : Instruction.char (CharSet.singleton c) = instruction := by
          simpa [layout] using h
        simp [Instruction.onward]
      | succ k => exact hlater (n := 1) rfl rfl (Nat.add_comm k 1)
    | slot name =>
      rcases k with _ | _ | _ | _ | k
      · obtain rfl : Instruction.mark (2 * index) = instruction := by simpa [layout] using h
        simp [Instruction.onward]
      · obtain rfl : Instruction.char notSlash = instruction := by simpa [layout] using h
        simp [Instruction.onward]
      · obtain rfl : Instruction.fork (address + 1) (address + 3) = instruction := by
          simpa [layout] using h
        simp [Instruction.onward, layout]
      · obtain rfl : Instruction.mark (2 * index + 1) = instruction := by simpa [layout] using h
        simp [Instruction.onward]
      · exact hlater (n := 4) rfl rfl (Nat.add_comm k 4)

/-- How far an address is from the end, if a move from it takes no character. -/
def rank (p : Program) (address : Nat) : Nat :=
  match p.code[address]? with
  | none => 0
  | some (.char _) => 0
  | some .accept => 0
  | some _ => p.code.size - address

lemma rank_le (p : Program) (address : Nat) : rank p address ≤ p.code.size - address := by
  unfold rank
  split <;> omega

/-- The number of an address drops with every move that takes no character. -/
theorem ranked_expression (full : Bool) (tokens : List Token) :
    (expression full tokens).program.Ranked (rank (expression full tokens).program) := by
  set p := (expression full tokens).program with hp
  have hcode (a : Nat) :
      p.code[a]? = (Instruction.look .textStart :: layout full 1 1 tokens)[a]? := by
    rw [← code_expression, ← hp, Array.getElem?_toList]
  refine ⟨fun a => (rank_le p a).trans (Nat.sub_le _ _), fun a instruction ha b hb => ?_⟩
  have hsize : a < p.code.size := (Array.getElem?_eq_some_iff.mp ha).1
  -- Where a move takes no character the number is the distance from the end.
  have hrank : rank p a = p.code.size - a := by
    rw [rank, ha]
    cases instruction <;> simp_all [Instruction.onward]
  rw [hrank]
  have hforward (hb : b = a + 1) : rank p b < p.code.size - a := by
    have := rank_le p b
    omega
  rw [hcode] at ha
  cases a with
  | zero =>
    obtain rfl : Instruction.look .textStart = instruction := by simpa using ha
    exact hforward (by simpa [Instruction.onward] using hb)
  | succ k =>
    rw [Nat.add_comm] at hb
    rcases onward_layout ha b hb with hb | ⟨j, rfl, rfl, hj⟩
    · exact hforward (by omega)
    · have hzero : rank p (1 + j) = 0 := by
        rw [rank, hcode, Nat.add_comm, List.getElem?_cons_succ, hj]
      omega

/-! ## Sets -/

lemma contains_singleton (c d : Char) : (CharSet.singleton c).contains d = true ↔ d = c := by
  simp only [CharSet.contains, CharSet.containsCode, CharSet.singleton, List.any_cons, List.any_nil,
    Bool.or_false, Bool.and_eq_true, decide_eq_true_eq, ← Char.toNat_inj]
  omega

lemma contains_notSlash (c : Char) : notSlash.contains c = true ↔ c ≠ '/' := by
  have hset : notSlash = ⟨[(0, 46), (48, CharSet.maxCode)]⟩ := by decide +kernel
  have hmax : c.toNat ≤ CharSet.maxCode := by
    have h : c.toNat < 0xd800 ∨ 0xdfff < c.toNat ∧ c.toNat < 0x110000 := c.valid
    simp only [CharSet.maxCode]
    omega
  have hcode : c ≠ '/' ↔ c.toNat ≠ 47 := not_congr ⟨fun h => h ▸ rfl, fun h => Char.toNat_inj.mp h⟩
  rw [hset, hcode]
  simp only [CharSet.contains, CharSet.containsCode, List.any_cons, List.any_nil, Bool.or_false,
    Bool.or_eq_true, Bool.and_eq_true, decide_eq_true_eq]
  omega

/-! ## Runs -/

/-- The trail of a run through tokens that take the values, from a place on. -/
def trailOf (index position : Nat) : List Token → List (List Char) → Trail
  | [], _ => [(1, position)]
  | letter _ :: rest, values => trailOf index (position + 1) rest values
  | slot _ :: rest, values =>
    (2 * index, position) :: match values with
      | [] => []
      | value :: values => (2 * index + 1, position + value.length) ::
          trailOf (index + 1) (position + value.length) rest values

section Runs

variable {p : Program} {rank : Nat → Nat} (hp : p.Ranked rank) {full : Bool} {index address : Nat}
include hp

/-- Inside a slot, the run that takes most comes first. -/
lemma enter_eq_longest (name : List Char) {rest : List Token}
    (hchar : p.code[address + 1]? = some (.char notSlash))
    (hfork : p.code[address + 2]? = some (.fork (address + 1) (address + 3)))
    (hmark : p.code[address + 3]? = some (.mark (2 * index + 1)))
    (hrest : ∀ position before text, p.enter position before text (address + 4) =
      (fit full rest text).map fun f => trailOf (index + 1) position rest f.values)
    (start : Nat) (before : Option Char) (taken text : List Char) :
    p.enter (start + taken.length) before text (address + 1) =
      (longest (fit full rest) taken text).map fun f =>
        (trailOf index start (slot name :: rest) f.values).tail := by
  induction text generalizing before taken with
  | nil => rw [Program.enter_char_nil hp hchar]; rfl
  | cons c text ih =>
    rw [Program.enter_char_cons hp hchar, longest]
    by_cases hc : c = '/'
    · rw [if_pos hc, if_neg (by simpa [contains_notSlash] using hc)]
      rfl
    · have hlength : start + taken.length + 1 = start + (taken ++ [c]).length := by simp; omega
      rw [if_neg hc, if_pos ((contains_notSlash c).mpr hc), hlength,
        Program.enter_fork hp hfork, ih, Program.enter_mark hp hmark, hrest, Option.map_or,
        Option.map_map, Option.map_map]
      rfl

/-- From the start of the tokens their program finds what `fit` says. -/
theorem enter_eq_fit {tokens : List Token} (h : LaidOut p full index address tokens)
    (position : Nat) (before : Option Char) (text : List Char) :
    p.enter position before text address =
      (fit full tokens text).map fun f => trailOf index position tokens f.values := by
  induction tokens generalizing index address position before text with
  | nil =>
    cases full with
    | false =>
      obtain ⟨haccept, _⟩ := Program.code_of_drop h
      rw [Program.enter_accept hp haccept]
      rfl
    | true =>
      obtain ⟨hlook, hdrop⟩ := Program.code_of_drop h
      obtain ⟨haccept, _⟩ := Program.code_of_drop hdrop
      rw [Program.enter_look hp hlook, Program.enter_accept hp haccept]
      cases text <;> rfl
  | cons t rest ih =>
    cases t with
    | letter c =>
      obtain ⟨hchar, hdrop⟩ := Program.code_of_drop h
      cases text with
      | nil => rw [Program.enter_char_nil hp hchar]; rfl
      | cons d text =>
        rw [Program.enter_char_cons hp hchar, ih hdrop, fit]
        by_cases hd : d = c
        · rw [if_pos hd, if_pos ((contains_singleton c d).mpr hd)]
          rfl
        · rw [if_neg hd, if_neg (by simpa [contains_singleton] using hd)]
          rfl
    | slot name =>
      obtain ⟨hopen, hdrop⟩ := Program.code_of_drop h
      obtain ⟨hchar, hdrop⟩ := Program.code_of_drop hdrop
      obtain ⟨hfork, hdrop⟩ := Program.code_of_drop hdrop
      obtain ⟨hclose, hdrop⟩ := Program.code_of_drop hdrop
      have hslot := enter_eq_longest hp name hchar hfork hclose (ih hdrop) position before
        [] text
      rw [List.length_nil, Nat.add_zero] at hslot
      rw [Program.enter_mark hp hopen, hslot, fit, Option.map_map]
      rfl

end Runs

/-- The program of some tokens finds what `fit` says at the start of the text, and nothing further
on. -/
lemma search_eq_fit (full : Bool) (tokens : List Token) (text : List Char) :
    (expression full tokens).program.search text =
      (fit full tokens text).map fun f => (0, 0) :: trailOf 1 0 tokens f.values := by
  set p := (expression full tokens).program with hpdef
  have hp : p.Ranked (rank p) := ranked_expression full tokens
  have hlook : p.code[0]? = some (.look .textStart) := by
    rw [← Array.getElem?_toList, hpdef, code_expression]
    rfl
  rw [Program.search_of_start hlook, Program.enter_look hp hlook]
  have hfound := enter_eq_fit hp (laidOut_expression full tokens) 0 none text
  change (p.enter 0 none text 1).map _ = _
  rw [hfound, Option.map_map]
  rfl

/-! ## Groups -/

lemma last?_append (first second : Trail) (slot : Nat) :
    Trail.last? (first ++ second) slot = (second.last? slot).or (first.last? slot) := by
  simp only [Trail.last?, List.reverse_append, List.find?_append]
  cases second.reverse.find? fun m => m.1 == slot <;> simp

lemma last?_trailOf {index slot : Nat} (hslot : slot < 2 * index) (hone : slot ≠ 1) (position : Nat)
    (tokens : List Token) (values : List (List Char)) :
    (trailOf index position tokens values).last? slot = none := by
  induction tokens generalizing index position values with
  | nil => simp [trailOf, Trail.last?, hone.symm]
  | cons t rest ih =>
    cases t with
    | letter c => exact ih hslot _ _
    | slot name =>
      have hopen : 2 * index ≠ slot := by omega
      have hclose : 2 * index + 1 ≠ slot := by omega
      cases values with
      | nil => simp [trailOf, Trail.last?, hopen]
      | cons value values =>
        rw [trailOf, ← List.singleton_append, last?_append, ← List.singleton_append, last?_append,
          ih (by omega)]
        simp [Trail.last?, hopen, hclose]

/-- The text of a group is the value of its slot. -/
theorem groupText_trailOf {tokens : List Token} {values : List (List Char)}
    (hlength : values.length = (names tokens).length) {index position : Nat} (hindex : 0 < index)
    {text rest : List Char} (htext : text.drop position = fill tokens values ++ rest)
    (before : Trail) (k : Nat) (hk : k < values.length) :
    (before ++ trailOf index position tokens values).groupText text (index + k) = values[k] := by
  induction tokens generalizing index position values before k with
  | nil => simp [names] at hlength; simp [hlength] at hk
  | cons t tokens ih =>
    cases t with
    | letter c =>
      refine ih (by simpa [names] using hlength) hindex ?_ before k hk
      rw [← List.tail_drop, htext]
      rfl
    | slot name =>
      cases values with
      | nil => simp at hk
      | cons value values =>
        have hsplit : before ++ trailOf index position (slot name :: tokens) (value :: values) =
            (before ++ [(2 * index, position), (2 * index + 1, position + value.length)]) ++
              trailOf (index + 1) (position + value.length) tokens values := by
          simp [trailOf]
        rw [hsplit]
        cases k with
        | zero =>
          have hopen : (trailOf (index + 1) (position + value.length) tokens values).last?
              (2 * index) = none := last?_trailOf (by omega) (by omega) _ tokens values
          have hclose : (trailOf (index + 1) (position + value.length) tokens values).last?
              (2 * index + 1) = none := last?_trailOf (by omega) (by omega) _ tokens values
          have hmarks (m n : Nat × Nat) (slot : Nat) : Trail.last? [m, n] slot =
              if n.1 = slot then some n.2 else if m.1 = slot then some m.2 else none := by
            by_cases hn : n.1 = slot <;> by_cases hm : m.1 = slot <;> simp [Trail.last?, hn, hm]
          have htake : (text.drop position).take value.length = value := by
            rw [htext, fill, List.append_assoc, List.take_left]
          have hstart : ((before ++ [(2 * index, position),
              (2 * index + 1, position + value.length)]) ++ trailOf (index + 1)
                (position + value.length) tokens values).last? (2 * index) = some position := by
            rw [last?_append, hopen, last?_append, hmarks]
            simp
          have hstop : ((before ++ [(2 * index, position),
              (2 * index + 1, position + value.length)]) ++ trailOf (index + 1)
                (position + value.length) tokens values).last? (2 * index + 1) =
              some (position + value.length) := by
            rw [last?_append, hclose, last?_append, hmarks]
            simp
          simp only [Trail.groupText, Nat.add_zero, hstart, hstop, Nat.add_sub_cancel_left, htake]
          rfl
        | succ k =>
          have hdrop : text.drop (position + value.length) = fill tokens values ++ rest := by
            rw [← List.drop_drop, htext, fill, List.append_assoc, List.drop_left]
          have hnext := ih (by simpa [names] using hlength) (Nat.succ_pos index) hdrop
            (before ++ [(2 * index, position), (2 * index + 1, position + value.length)]) k
            (by simpa using hk)
          rw [show index + (k + 1) = index + 1 + k by omega, hnext]
          rfl

lemma stop_trailOf {tokens : List Token} {values : List (List Char)}
    (hlength : values.length = (names tokens).length) (index position : Nat) (before : Trail) :
    (before ++ trailOf index position tokens values).stop =
      position + (fill tokens values).length := by
  induction tokens generalizing index position values before with
  | nil => simp [trailOf, Trail.stop, Trail.last?, fill]
  | cons t tokens ih =>
    cases t with
    | letter c =>
      rw [trailOf, ih (by simpa [names] using hlength), fill, List.length_cons]
      omega
    | slot name =>
      cases values with
      | nil => simp [names] at hlength
      | cons value values =>
        have hsplit : before ++ trailOf index position (slot name :: tokens) (value :: values) =
            (before ++ [(2 * index, position), (2 * index + 1, position + value.length)]) ++
              trailOf (index + 1) (position + value.length) tokens values := by
          simp [trailOf]
        rw [hsplit, ih (by simpa [names] using hlength), fill, List.length_append]
        omega

/-- The groups of a run through tokens are the values of the slots, and the run ends where they end.
-/
theorem groups_trailOf {tokens : List Token} {values : List (List Char)} {text rest : List Char}
    (hlength : values.length = (names tokens).length) (htext : text = fill tokens values ++ rest) :
    ((List.range (names tokens).length).map fun i =>
        Trail.groupText ((0, 0) :: trailOf 1 0 tokens values) text (i + 1)) = values ∧
      text.drop (Trail.stop ((0, 0) :: trailOf 1 0 tokens values)) = rest := by
  constructor
  · refine List.ext_getElem (by simp [hlength]) fun k hk hk' => ?_
    have hgroup := groupText_trailOf hlength Nat.one_pos (show text.drop 0 = _ from htext) [(0, 0)]
      k hk'
    rw [Nat.add_comm 1 k] at hgroup
    rw [List.getElem_map, List.getElem_range]
    exact hgroup
  · have hstop := stop_trailOf hlength 1 0 [(0, 0)]
    rw [List.singleton_append, Nat.zero_add] at hstop
    rw [hstop, htext, List.drop_left]

end Token

end UriRouting
