import Mathlib.Tactic
import UriRouting.Proofs.Expression.GroupNumbers
import UriRouting.Proofs.Expression.Runs

/-!
# Blocks of a program

The layout of an expression is a block: no instruction in it accepts, and none leads anywhere but to
an address of the block or to the one behind it (`kept_code`).  So a run that is in a block and
accepts in the end has to come out at the address behind it, and until then it marks the slots of
the groups in the expression only (`Accepts.through`).  What the block does inside does not matter
for this.  A group that stands at an address is such a block between its two marks
(`Accepts.at_group`).
-/

namespace UriRouting

/-- Where a run can go from an address, whether it takes a character or not. -/
def Instruction.targets (address : Nat) : Instruction → List Nat
  | .char _ => [address + 1]
  | instruction => instruction.onward address

/-- Is the slot one of the ends of a group with one of the numbers? -/
def IsSlotOf (numbers : List Nat) (slot : Nat) : Prop :=
  ∃ n ∈ numbers, slot = 2 * n ∨ slot = 2 * n + 1

/-- The instruction at an address does not accept, leads to addresses from `low` to `high`, and
marks the slots of groups with the numbers only. -/
structure Instruction.Confined (low high : Nat) (numbers : List Nat) (address : Nat)
    (instruction : Instruction) : Prop where
  not_accept : instruction ≠ .accept
  targets : ∀ b ∈ instruction.targets address, low ≤ b ∧ b ≤ high
  slots : ∀ slot, instruction = .mark slot → IsSlotOf numbers slot

/-- All instructions, from an address on, are confined. -/
def Kept (low high : Nat) (numbers : List Nat) (start : Nat) (code : List Instruction) : Prop :=
  ∀ k instruction, code[k]? = some instruction →
    Instruction.Confined low high numbers (start + k) instruction

/-! ## Pieces of code -/

section Kept

variable {low high start : Nat} {numbers : List Nat} {code more : List Instruction}

lemma kept_nil : Kept low high numbers start [] := by
  intro k instruction h
  simp at h

lemma Kept.cons {instruction : Instruction}
    (first : instruction.Confined low high numbers start)
    (rest : Kept low high numbers (start + 1) code) :
    Kept low high numbers start (instruction :: code) := by
  intro k other h
  cases k with
  | zero =>
    obtain rfl : instruction = other := by simpa using h
    exact first
  | succ k =>
    have hrest := rest k other (by simpa using h)
    rwa [Nat.add_right_comm] at hrest

lemma Kept.append (first : Kept low high numbers start code)
    (second : Kept low high numbers (start + code.length) more) :
    Kept low high numbers start (code ++ more) := by
  intro k instruction h
  by_cases hk : k < code.length
  · rw [List.getElem?_append_left hk] at h
    exact first k instruction h
  · have hlength : code.length ≤ k := Nat.le_of_not_lt hk
    rw [List.getElem?_append_right hlength] at h
    have hsecond := second (k - code.length) instruction h
    rwa [show start + code.length + (k - code.length) = start + k by omega] at hsecond

lemma Kept.mono (h : Kept low high numbers start code) {low' high' : Nat} {numbers' : List Nat}
    (hlow : low' ≤ low) (hhigh : high ≤ high') (hnumbers : ∀ n ∈ numbers, n ∈ numbers') :
    Kept low' high' numbers' start code := by
  intro k instruction hk
  obtain ⟨hnot, htargets, hslots⟩ := h k instruction hk
  refine ⟨hnot, fun b hb => ?_, fun slot hslot => ?_⟩
  · have := htargets b hb
    omega
  · obtain ⟨n, hn, hends⟩ := hslots slot hslot
    exact ⟨n, hnumbers n hn, hends⟩

lemma length_pieces {block : Nat → List Instruction} {size : Nat}
    (hsize : ∀ i, (block i).length = size) (count : Nat) :
    ((List.range count).flatMap block).length = count * size := by
  induction count with
  | zero => simp
  | succ count ih =>
    rw [List.range_succ, List.flatMap_append, List.length_append, ih, Nat.succ_mul]
    simp [hsize]

lemma kept_pieces {block : Nat → List Instruction} {size : Nat}
    (hsize : ∀ i, (block i).length = size) {count : Nat}
    (h : ∀ i < count, Kept low high numbers (start + i * size) (block i)) :
    Kept low high numbers start ((List.range count).flatMap block) := by
  induction count with
  | zero => exact kept_nil
  | succ count ih =>
    rw [List.range_succ, List.flatMap_append]
    refine (ih fun i hi => h i (by omega)).append ?_
    rw [length_pieces hsize]
    simpa using h count (Nat.lt_succ_self count)

lemma piece_le {i count : Nat} (h : i < count) (start size : Nat) :
    start + i * size + size ≤ start + count * size := by
  have hsucc : (i + 1) * size ≤ count * size := Nat.mul_le_mul_right size h
  rw [Nat.succ_mul] at hsucc
  omega

end Kept

/-! ## Single instructions -/

section Confined

variable {low high address : Nat} {numbers : List Nat}

lemma confined_char (set : CharSet) (hlow : low ≤ address + 1) (hhigh : address + 1 ≤ high) :
    (Instruction.char set).Confined low high numbers address :=
  ⟨by simp, by simp [Instruction.targets, hlow, hhigh], by simp⟩

lemma confined_look (test : Look) (hlow : low ≤ address + 1) (hhigh : address + 1 ≤ high) :
    (Instruction.look test).Confined low high numbers address :=
  ⟨by simp, by simp [Instruction.targets, Instruction.onward, hlow, hhigh], by simp⟩

lemma confined_mark {slot : Nat} (hslot : IsSlotOf numbers slot) (hlow : low ≤ address + 1)
    (hhigh : address + 1 ≤ high) : (Instruction.mark slot).Confined low high numbers address := by
  refine ⟨by simp, by simp [Instruction.targets, Instruction.onward, hlow, hhigh], ?_⟩
  intro other h
  obtain rfl := Instruction.mark.inj h
  exact hslot

lemma confined_jump {target : Nat} (hlow : low ≤ target) (hhigh : target ≤ high) :
    (Instruction.jump target).Confined low high numbers address :=
  ⟨by simp, by simp [Instruction.targets, Instruction.onward, hlow, hhigh], by simp⟩

lemma confined_fork {preferred other : Nat} (hlow : low ≤ preferred ∧ low ≤ other)
    (hhigh : preferred ≤ high ∧ other ≤ high) :
    (Instruction.fork preferred other).Confined low high numbers address :=
  ⟨by simp, by simp [Instruction.targets, Instruction.onward, hlow, hhigh], by simp⟩

lemma confined_choose (greedy : Bool) {more done : Nat} (hlow : low ≤ more ∧ low ≤ done)
    (hhigh : more ≤ high ∧ done ≤ high) :
    (Instruction.choose greedy more done).Confined low high numbers address := by
  cases greedy with
  | false => exact confined_fork hlow.symm hhigh.symm
  | true => exact confined_fork hlow hhigh

end Confined

/-! ## Expressions -/

namespace Expression

/-- How long a layout is does not depend on where it stands. -/
lemma length_code (e : Expression) (p : Nat) : (e.code p).length = (e.code 0).length := by
  induction e generalizing p with
  | empty => rfl
  | char _ => rfl
  | look _ => rfl
  | group index body ih => simp [code, ih (p + 1), ih 1]
  | seq a b iha ihb =>
    simp only [code, List.length_append]
    rw [iha p, ihb (p + _), ihb (0 + _)]
  | alt a b iha ihb =>
    simp only [code, List.length_append, List.length_cons]
    rw [iha (p + 1), iha (0 + 1), ihb (p + 1 + _ + 1), ihb (0 + 1 + _ + 1)]
  | iterate body least most greedy ih =>
    have hcopies (q n : Nat) : ((List.range n).flatMap fun i =>
        body.code (q + i * (body.code 0).length)).length = n * (body.code 0).length :=
      length_pieces (fun i => ih _) n
    have hturns (q done n : Nat) : ((List.range n).flatMap fun i =>
        Instruction.choose greedy (q + i * ((body.code 0).length + 1) + 1) done ::
          body.code (q + i * ((body.code 0).length + 1) + 1)).length =
        n * ((body.code 0).length + 1) :=
      length_pieces (fun i => by rw [List.length_cons, ih]) n
    cases most with
    | some most => simp only [code, List.length_append, hcopies, hturns]
    | none =>
      cases least with
      | zero =>
        simp only [code]
        split <;> simp [ih (p + 1), ih 1]
      | succ least =>
        simp only [code, List.length_append, hcopies, List.length_singleton]
        rw [ih (p + _), ih (0 + _)]

lemma length_copies (e : Expression) (p count : Nat) :
    ((List.range count).flatMap fun i => e.code (p + i * (e.code 0).length)).length =
      count * (e.code 0).length := length_pieces (fun _ => length_code e _) count

/-- The layout of an expression is a block. -/
theorem kept_code (e : Expression) (p : Nat) :
    Kept p (p + (e.code p).length) e.groups p (e.code p) := by
  induction e generalizing p with
  | empty => exact kept_nil
  | char set => exact .cons (confined_char set (by omega) le_rfl) kept_nil
  | look test => exact .cons (confined_look test (by omega) le_rfl) kept_nil
  | group index body ih =>
    simp only [code, List.cons_append, List.length_cons, List.length_append, List.length_nil]
    have hself : index ∈ (group index body).groups := List.mem_cons_self
    refine .cons (confined_mark ⟨index, hself, .inl rfl⟩ (by omega) (by omega)) (.append ?_ ?_)
    · exact (ih (p + 1)).mono (by omega) (by omega) fun n hn => List.mem_cons_of_mem index hn
    · exact .cons (confined_mark ⟨index, hself, .inr rfl⟩ (by omega) (by omega)) kept_nil
  | seq a b iha ihb =>
    simp only [code, List.length_append]
    refine .append ?_ ?_
    · exact (iha p).mono le_rfl (by omega) fun n hn => List.mem_append_left _ hn
    · exact (ihb _).mono (by omega) (by omega) fun n hn => List.mem_append_right _ hn
  | alt a b iha ihb =>
    simp only [code, List.cons_append, List.length_cons, List.length_append]
    refine .cons (confined_fork (by omega) (by omega)) (.append ?_ (.cons ?_ ?_))
    · exact (iha (p + 1)).mono (by omega) (by omega) fun n hn => List.mem_append_left _ hn
    · exact confined_jump (by omega) (by omega)
    · exact (ihb _).mono (by omega) (by omega) fun n hn => List.mem_append_right _ hn
  | iterate body least most greedy ih =>
    have hbody (q : Nat) : Kept q (q + (body.code 0).length) body.groups q (body.code q) := by
      have hown := ih q
      rwa [length_code body q] at hown
    have hcopies (q n : Nat) {high : Nat} (hhigh : q + n * (body.code 0).length ≤ high) :
        Kept q high body.groups q ((List.range n).flatMap fun i =>
          body.code (q + i * (body.code 0).length)) := by
      refine kept_pieces (fun i => length_code body _) fun i hi => ?_
      exact (hbody _).mono (by omega) ((piece_le hi q _).trans hhigh) fun n hn => hn
    cases most with
    | some most =>
      have hturns (q : Nat) : (Instruction.choose greedy (q + 1) (p + least * (body.code 0).length +
          (most - least) * ((body.code 0).length + 1)) :: body.code (q + 1)).length =
          (body.code 0).length + 1 := by rw [List.length_cons, length_code]
      simp only [code, List.length_append, length_pieces fun i => hturns _, length_copies]
      refine .append (hcopies p least (by omega)) ?_
      rw [length_copies]
      refine kept_pieces (fun i => hturns _) fun i hi => ?_
      have hturn := piece_le hi (p + least * (body.code 0).length) ((body.code 0).length + 1)
      refine .cons (confined_choose greedy (by omega) (by omega)) ?_
      exact (hbody _).mono (by omega) (by omega) fun n hn => hn
    | none =>
      cases least with
      | zero =>
        simp only [code]
        split
        · simp only [List.cons_append, List.length_cons, List.length_append, length_code body,
            List.length_nil]
          refine .cons (confined_choose greedy (by omega) (by omega)) (.append ?_ ?_)
          · exact (hbody _).mono (by omega) (by omega) fun n hn => hn
          · exact .cons (confined_choose greedy (by omega) (by omega)) kept_nil
        · simp only [List.cons_append, List.length_cons, List.length_append, length_code body,
            List.length_nil]
          refine .cons (confined_choose greedy (by omega) (by omega)) (.append ?_ ?_)
          · exact (hbody _).mono (by omega) (by omega) fun n hn => hn
          · exact .cons (confined_jump (by omega) (by omega)) kept_nil
      | succ least =>
        simp only [code, List.length_append, length_copies, length_code body, List.length_singleton]
        refine .append (.append (hcopies p least (by omega)) ?_) ?_
        · rw [length_copies]
          exact (hbody _).mono (by omega) (by omega) fun n hn => hn
        · exact .cons (confined_choose greedy (by omega) (by omega)) kept_nil

end Expression

/-! ## Runs through a block -/

namespace Program

variable {p : Program}

/-- A move goes to a target of the instruction that it carries out. -/
lemma Move.target {s t : Stand} {marks : Trail} (h : Move p s marks t) :
    ∃ instruction, p.code[s.address]? = some instruction ∧
      t.address ∈ instruction.targets s.address ∧ ∀ m ∈ marks, instruction = .mark m.1 := by
  cases h with
  | char code _ => exact ⟨_, code, by simp [Instruction.targets], by simp⟩
  | look code _ => exact ⟨_, code, by simp [Instruction.targets, Instruction.onward], by simp⟩
  | mark code => exact ⟨_, code, by simp [Instruction.targets, Instruction.onward], by simp⟩
  | jump code => exact ⟨_, code, by simp [Instruction.targets, Instruction.onward], by simp⟩
  | preferred code => exact ⟨_, code, by simp [Instruction.targets, Instruction.onward], by simp⟩
  | other code => exact ⟨_, code, by simp [Instruction.targets, Instruction.onward], by simp⟩

/-- A run that accepts comes out of a block behind its end. -/
theorem Accepts.through {start : Nat} {numbers : List Nat} {code : List Instruction}
    (hcode : ∀ k instruction, code[k]? = some instruction → p.code[start + k]? = some instruction)
    (hkept : Kept start (start + code.length) numbers start code) {s : Stand} {trail : Trail}
    (hs : start ≤ s.address ∧ s.address ≤ start + code.length) (h : Accepts p s trail) :
    ∃ first t rest, Run p s first t ∧ t.address = start + code.length ∧ Accepts p t rest ∧
      trail = first ++ rest ∧ ∀ m ∈ first, IsSlotOf numbers m.1 := by
  obtain ⟨marks, u, hrun, haccept, rfl⟩ := h
  induction hrun with
  | stay s =>
    by_cases hend : s.address = start + code.length
    · exact ⟨[], s, _, .stay s, hend, ⟨[], s, .stay s, haccept, rfl⟩, rfl, by simp⟩
    · -- No instruction of the block accepts.
      obtain ⟨k, hk⟩ : ∃ k, s.address = start + k := ⟨s.address - start, by omega⟩
      have hinside : k < code.length := by omega
      have hinstruction := List.getElem?_eq_getElem hinside
      have hsame := hcode k _ hinstruction
      rw [← hk, haccept] at hsame
      exact absurd (Option.some.inj hsame).symm (hkept k _ hinstruction).not_accept
  | @move s t u marks trail first rest ih =>
    by_cases hend : s.address = start + code.length
    · exact ⟨[], s, _, .stay s, hend, ⟨_, u, .move first rest, haccept, rfl⟩, rfl, by simp⟩
    · obtain ⟨k, hk⟩ : ∃ k, s.address = start + k := ⟨s.address - start, by omega⟩
      have hinside : k < code.length := by omega
      have hinstruction := List.getElem?_eq_getElem hinside
      obtain ⟨instruction, hsame, htarget, hmarks⟩ := first.target
      rw [hk, hcode k _ hinstruction] at hsame
      obtain rfl := Option.some.inj hsame
      obtain ⟨_, htargets, hslots⟩ := hkept k _ hinstruction
      rw [hk] at htarget
      obtain ⟨inner, v, last, hrun, hv, haccepts, heq, hall⟩ := ih (htargets _ htarget) haccept
      refine ⟨marks ++ inner, v, last, .move first hrun, hv, haccepts, ?_, ?_⟩
      · rw [List.append_assoc, heq, List.append_assoc]
      · intro m hm
        rcases List.mem_append.mp hm with hm | hm
        · exact hslots m.1 (hmarks m hm)
        · exact hall m hm

/-- A run that accepts takes a text of its own for a group whose body has no groups, and marks its
ends. -/
theorem Accepts.at_group {n : Nat} {e : Expression} (hplain : e.groups = [])
    {a i : Nat} {b : Option Char} {text : List Char} {trail : Trail} {more : List Instruction}
    (hcode : p.code.toList.drop a = (Expression.group n e).code a ++ more)
    (h : Accepts p ⟨a, i, b, text⟩ trail) :
    ∃ value rest before marks, text = value ++ rest ∧
      Accepts p ⟨a + ((Expression.group n e).code a).length, i + value.length, before, rest⟩ marks ∧
      trail = (2 * n, i) :: (2 * n + 1, i + value.length) :: marks := by
  have hlength : a + ((Expression.group n e).code a).length =
      a + 1 + (e.code (a + 1)).length + 1 := by
    simp only [Expression.code, List.cons_append, List.length_cons, List.length_append,
      List.length_nil]
    omega
  rw [Expression.code, List.cons_append, List.cons_append, List.append_assoc] at hcode
  obtain ⟨hopen, hdrop⟩ := code_of_drop hcode
  obtain ⟨hinside, hdrop⟩ := code_of_drop_append hdrop
  obtain ⟨hclose, _⟩ := code_of_drop hdrop
  obtain ⟨marks, hbody, rfl⟩ := h.at_mark hopen
  -- The run comes out of the body behind its end, and has marked nothing there.
  obtain ⟨first, ⟨out, place, last, left⟩, rest, hrun, hout, hrest, rfl, hslots⟩ :=
    hbody.through hinside (Expression.kept_code e (a + 1)) ⟨le_rfl, Nat.le_add_right _ _⟩
  obtain rfl : first = [] := by
    rw [List.eq_nil_iff_forall_not_mem]
    intro m hm
    obtain ⟨x, hx, _⟩ := hslots m hm
    rw [hplain] at hx
    cases hx
  obtain ⟨value, htext, hplace⟩ := hrun.taken
  obtain rfl : text = value ++ left := htext
  obtain rfl : place = i + value.length := hplace
  obtain rfl : out = a + 1 + (e.code (a + 1)).length := hout
  obtain ⟨marks, hmarks, rfl⟩ := hrest.at_mark hclose
  refine ⟨value, left, last, marks, rfl, ?_, rfl⟩
  rw [hlength]
  exact hmarks

end Program

end UriRouting
