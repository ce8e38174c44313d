import Mathlib.Tactic
import UriRouting.Proofs.Expression.OnePass

/-!
# Runs of a program

What `Program.enter` finds is a run of the program: a sequence of moves from the address where it
starts to one that accepts (`accepts_of_enter`).  This holds of every program, and so a program that
begins with a test of the start of the text finds a run from there or none (`search_of_start`).

The converse, which run is found, is harder in general, because no address is tried twice at one
place.  In a program that cannot come back to an address without taking a character this makes no
difference.  `Ranked` says so by a number for each address that drops with every move that takes
nothing, and for ranked programs `enter` goes from instruction to instruction (`enter_look`,
`enter_mark`, `enter_fork`), as if nothing were remembered.
-/

namespace UriRouting

/-- Where a run can go from an address without taking a character. -/
def Instruction.onward (address : Nat) : Instruction → List Nat
  | .char _ => []
  | .look _ => [address + 1]
  | .mark _ => [address + 1]
  | .jump target => [target]
  | .fork preferred other => [preferred, other]
  | .accept => []

namespace Program

/-! ## Moves -/

/-- Where a run stands: at an address of the program, and at a place of the text with what follows
it. -/
structure Stand where
  address : Nat
  position : Nat
  before : Option Char
  text : List Char

/-- One instruction of a run, with what it marks. -/
inductive Move (p : Program) : Stand → Trail → Stand → Prop
  | char {a i : Nat} {b : Option Char} {set : CharSet} {c : Char} {rest : List Char}
      (code : p.code[a]? = some (.char set)) (mem : set.contains c = true) :
      Move p ⟨a, i, b, c :: rest⟩ [] ⟨a + 1, i + 1, some c, rest⟩
  | look {a i : Nat} {b : Option Char} {test : Look} {text : List Char}
      (code : p.code[a]? = some (.look test)) (holds : test.holds b text.head? = true) :
      Move p ⟨a, i, b, text⟩ [] ⟨a + 1, i, b, text⟩
  | mark {a i slot : Nat} {b : Option Char} {text : List Char}
      (code : p.code[a]? = some (.mark slot)) :
      Move p ⟨a, i, b, text⟩ [(slot, i)] ⟨a + 1, i, b, text⟩
  | jump {a i target : Nat} {b : Option Char} {text : List Char}
      (code : p.code[a]? = some (.jump target)) :
      Move p ⟨a, i, b, text⟩ [] ⟨target, i, b, text⟩
  | preferred {a i x y : Nat} {b : Option Char} {text : List Char}
      (code : p.code[a]? = some (.fork x y)) :
      Move p ⟨a, i, b, text⟩ [] ⟨x, i, b, text⟩
  | other {a i x y : Nat} {b : Option Char} {text : List Char}
      (code : p.code[a]? = some (.fork x y)) :
      Move p ⟨a, i, b, text⟩ [] ⟨y, i, b, text⟩

/-- A sequence of moves, with all that it marks. -/
inductive Run (p : Program) : Stand → Trail → Stand → Prop
  | stay (s : Stand) : Run p s [] s
  | move {s t u : Stand} {marks trail : Trail} (first : Move p s marks t) (rest : Run p t trail u) :
      Run p s (marks ++ trail) u

/-- A run that comes to an accepting address, with what it marks. -/
def Accepts (p : Program) (s : Stand) (trail : Trail) : Prop :=
  ∃ marks t, Run p s marks t ∧ p.code[t.address]? = some .accept ∧
    trail = marks ++ [(1, t.position)]

lemma Accepts.move {p : Program} {s t : Stand} {marks trail : Trail} (first : Move p s marks t)
    (rest : Accepts p t trail) : Accepts p s (marks ++ trail) := by
  obtain ⟨more, u, hrun, haccept, rfl⟩ := rest
  exact ⟨marks ++ more, u, .move first hrun, haccept, by simp⟩

lemma code_of_drop {p : Program} {address : Nat} {instruction : Instruction}
    {rest : List Instruction} (h : p.code.toList.drop address = instruction :: rest) :
    p.code[address]? = some instruction ∧ p.code.toList.drop (address + 1) = rest := by
  constructor
  · have hfirst : (p.code.toList.drop address)[0]? = some instruction := by rw [h]; rfl
    simpa [List.getElem?_drop] using hfirst
  · rw [← List.tail_drop, h, List.tail_cons]

lemma code_of_drop_append {p : Program} {address : Nat} {first second : List Instruction}
    (h : p.code.toList.drop address = first ++ second) :
    (∀ k instruction, first[k]? = some instruction → p.code[address + k]? = some instruction) ∧
      p.code.toList.drop (address + first.length) = second := by
  constructor
  · intro k instruction hk
    have hdrop : (p.code.toList.drop address)[k]? = some instruction := by
      rw [h, List.getElem?_append_left (List.getElem?_eq_some_iff.mp hk).1, hk]
    simpa [List.getElem?_drop] using hdrop
  · rw [← List.drop_drop, h, List.drop_left]

/-- What one place finds is a run, if what is found after it is. -/
lemma accepts_of_explore {p : Program} (here : Place) {resume : Nat → Option Trail}
    {text : List Char} (hafter : here.after = text.head?)
    (hresume : ∀ c rest a trail, text = c :: rest → resume a = some trail →
      Accepts p ⟨a + 1, here.position + 1, some c, rest⟩ trail)
    {fuel a : Nat} {seen : Visited} {trail : Trail}
    (h : (p.explore here resume fuel a seen).1 = some trail) :
    Accepts p ⟨a, here.position, here.before, text⟩ trail := by
  induction fuel generalizing a seen trail with
  | zero => simp [explore] at h
  | succ fuel ih =>
    unfold explore at h
    split at h
    · simp at h
    · split at h
      next => simp at h
      next hcode =>
        simp only [Option.some.injEq] at h
        exact ⟨[], _, .stay _, hcode, by simp [← h]⟩
      next set hcode =>
        cases text with
        | nil => simp [hafter] at h
        | cons c rest =>
          simp only [hafter, List.head?_cons] at h
          split at h
          next hmem => exact .move (.char hcode hmem) (hresume c rest a trail rfl h)
          next => simp at h
      next test hcode =>
        split at h
        next hholds => exact .move (.look hcode (hafter ▸ hholds)) (ih h)
        next => simp at h
      next slot hcode =>
        obtain ⟨more, hmore, rfl⟩ := Option.map_eq_some_iff.mp h
        exact .move (.mark hcode) (ih hmore)
      next target hcode => exact .move (.jump hcode) (ih h)
      next x y hcode =>
        rcases hfirst : p.explore here resume fuel x (seen.visit a) with ⟨found, after⟩
        simp only [hfirst] at h
        cases found with
        | some found =>
          obtain rfl : found = trail := by simpa using h
          have hvalue : (p.explore here resume fuel x (seen.visit a)).1 = some found := by
            rw [hfirst]
          exact .move (.preferred hcode) (ih hvalue)
        | none => exact .move (.other hcode) (ih h)

/-- What `enter` finds from an address is a run from there. -/
theorem accepts_of_enter {p : Program} {position : Nat} {before : Option Char} {text : List Char}
    {address : Nat} {trail : Trail} (h : p.enter position before text address = some trail) :
    Accepts p ⟨address, position, before, text⟩ trail := by
  induction text generalizing position before address trail with
  | nil => exact accepts_of_explore ⟨position, before, none⟩ rfl (by simp) h
  | cons c rest ih =>
    refine accepts_of_explore ⟨position, before, some c⟩ rfl ?_ h
    rintro d _ a found ⟨rfl, rfl⟩ hfound
    exact ih hfound

lemma Run.taken {p : Program} {s t : Stand} {trail : Trail} (h : Run p s trail t) :
    ∃ taken, s.text = taken ++ t.text ∧ t.position = s.position + taken.length := by
  induction h with
  | stay s => exact ⟨[], by simp⟩
  | move first _ ih =>
    obtain ⟨taken, htext, hposition⟩ := ih
    cases first with
    | @char _ _ _ _ c =>
      refine ⟨c :: taken, by simpa using htext, ?_⟩
      simp only [List.length_cons] at hposition ⊢
      omega
    | _ => exact ⟨taken, htext, hposition⟩

/-! ## What a run that accepts does next -/

section Accepts

variable {p : Program} {a i : Nat} {b : Option Char} {text : List Char} {trail : Trail}

/-- A run that accepts does so where it stands, or makes a move. -/
lemma Accepts.cases_move {s : Stand} (h : Accepts p s trail) :
    p.code[s.address]? = some .accept ∧ trail = [(1, s.position)] ∨
      ∃ marks t rest, Move p s marks t ∧ Accepts p t rest ∧ trail = marks ++ rest := by
  obtain ⟨marks, u, hrun, haccept, rfl⟩ := h
  cases hrun with
  | stay => exact .inl ⟨haccept, rfl⟩
  | move first rest =>
    exact .inr ⟨_, _, _, first, ⟨_, _, rest, haccept, rfl⟩, List.append_assoc _ _ _⟩

lemma Accepts.at_accept (h : Accepts p ⟨a, i, b, text⟩ trail) (hcode : p.code[a]? = some .accept) :
    trail = [(1, i)] := by
  rcases h.cases_move with ⟨_, rfl⟩ | ⟨_, _, _, hmove, _, _⟩
  · rfl
  · cases hmove <;> simp_all

lemma Accepts.at_char {set : CharSet} (h : Accepts p ⟨a, i, b, text⟩ trail)
    (hcode : p.code[a]? = some (.char set)) :
    ∃ c rest, text = c :: rest ∧ set.contains c = true ∧
      Accepts p ⟨a + 1, i + 1, some c, rest⟩ trail := by
  rcases h.cases_move with ⟨haccept, _⟩ | ⟨_, _, _, hmove, hrest, rfl⟩
  · simp_all
  · cases hmove <;> simp_all

lemma Accepts.at_look {test : Look} (h : Accepts p ⟨a, i, b, text⟩ trail)
    (hcode : p.code[a]? = some (.look test)) :
    test.holds b text.head? = true ∧ Accepts p ⟨a + 1, i, b, text⟩ trail := by
  rcases h.cases_move with ⟨haccept, _⟩ | ⟨_, _, _, hmove, hrest, rfl⟩
  · simp_all
  · cases hmove <;> simp_all

lemma Accepts.at_mark {slot : Nat} (h : Accepts p ⟨a, i, b, text⟩ trail)
    (hcode : p.code[a]? = some (.mark slot)) :
    ∃ rest, Accepts p ⟨a + 1, i, b, text⟩ rest ∧ trail = (slot, i) :: rest := by
  rcases h.cases_move with ⟨haccept, _⟩ | ⟨_, _, _, hmove, hrest, rfl⟩
  · simp_all
  · cases hmove <;> simp_all

/-- A program that begins with a test of the start finds a run from there or none at all. -/
theorem search_of_start (hcode : p.code[0]? = some (.look .textStart)) (text : List Char) :
    p.search text = (p.enter 0 none text 0).map ((0, 0) :: ·) := by
  have hlater (position : Nat) (c : Char) (text : List Char) :
      p.enter position (some c) text 0 = none := by
    cases hfound : p.enter position (some c) text 0 with
    | none => rfl
    | some trail =>
      obtain ⟨hholds, _⟩ := (accepts_of_enter hfound).at_look hcode
      cases hholds
  have hnever (position : Nat) (c : Char) (text : List Char) :
      p.firstMatch? position (some c) text = none := by
    induction text generalizing position c with
    | nil => rw [firstMatch?, hlater]; rfl
    | cons d text ih => rw [firstMatch?, hlater]; exact ih (position + 1) d
  rw [search_eq_firstMatch?]
  cases text with
  | nil => rfl
  | cons c text =>
    rw [firstMatch?, hnever]
    cases p.enter 0 none (c :: text) 0 <;> rfl

end Accepts

/-! ## Programs that cannot stand still -/

/-- The number of an address drops with every move that takes no character. -/
structure Ranked (p : Program) (rank : Nat → Nat) : Prop where
  bounded : ∀ a, rank a ≤ p.code.size
  drops : ∀ a instruction, p.code[a]? = some instruction →
    ∀ b ∈ Instruction.onward a instruction, rank b < rank a

/-- The first run from an address that accepts, where nothing is remembered of other runs.  In a
ranked program the number of the address is `fuel` enough. -/
def walk (p : Program) (here : Place) (resume : Nat → Option Trail) : Nat → Nat → Option Trail
  | 0, _ => none
  | fuel + 1, address =>
    match p.code[address]? with
    | none => none
    | some .accept => some [(1, here.position)]
    | some (.char set) =>
      match here.after with
      | none => none
      | some c => if set.contains c then resume address else none
    | some (.look test) =>
      if test.holds here.before here.after then walk p here resume fuel (address + 1) else none
    | some (.mark slot) =>
      (walk p here resume fuel (address + 1)).map fun trail => (slot, here.position) :: trail
    | some (.jump target) => walk p here resume fuel target
    | some (.fork preferred other) =>
      (walk p here resume fuel preferred).or (walk p here resume fuel other)

section Ranked

variable {p : Program} {rank : Nat → Nat} {here : Place} {resume : Nat → Option Trail}

lemma walk_fuel (hp : p.Ranked rank) {fuel more a : Nat} (hfuel : rank a < fuel)
    (hmore : rank a < more) : p.walk here resume fuel a = p.walk here resume more a := by
  induction fuel generalizing a more with
  | zero => omega
  | succ fuel ih =>
    obtain ⟨more, rfl⟩ : ∃ n, more = n + 1 := ⟨more - 1, by omega⟩
    have hdrop (instruction : Instruction) (h : p.code[a]? = some instruction) (b : Nat)
        (hb : b ∈ Instruction.onward a instruction) :
        p.walk here resume fuel b = p.walk here resume more b := by
      have := hp.drops a instruction h b hb
      exact ih (by omega) (by omega)
    unfold walk
    split
    next => rfl
    next => rfl
    next => rfl
    next h => rw [hdrop _ h (a + 1) (by simp [Instruction.onward])]
    next h => rw [hdrop _ h (a + 1) (by simp [Instruction.onward])]
    next target h => rw [hdrop _ h target (by simp [Instruction.onward])]
    next x y h =>
      rw [hdrop _ h x (by simp [Instruction.onward]), hdrop _ h y (by simp [Instruction.onward])]

/-- The first run from an address that accepts, where nothing is remembered, with fuel enough for a
ranked program. -/
def firstRun (p : Program) (here : Place) (resume : Nat → Option Trail) (a : Nat) : Option Trail :=
  p.walk here resume (p.code.size + 1) a

lemma walk_onward (hp : p.Ranked rank) {a b : Nat} {instruction : Instruction}
    (h : p.code[a]? = some instruction) (hb : b ∈ Instruction.onward a instruction) :
    p.walk here resume p.code.size b = p.firstRun here resume b := by
  have hdrop := hp.drops a instruction h b hb
  have hbound := hp.bounded a
  exact walk_fuel hp (by omega) (by omega)

section FirstRun

variable (here resume)

lemma firstRun_char {a : Nat} {set : CharSet} (h : p.code[a]? = some (.char set)) :
    p.firstRun here resume a =
      here.after.bind fun c => if set.contains c then resume a else none := by
  rw [firstRun, walk, h]
  cases here.after <;> rfl

lemma firstRun_accept {a : Nat} (h : p.code[a]? = some .accept) :
    p.firstRun here resume a = some [(1, here.position)] := by
  rw [firstRun, walk, h]

lemma firstRun_none {a : Nat} (h : p.code[a]? = none) : p.firstRun here resume a = none := by
  rw [firstRun, walk, h]

lemma firstRun_look (hp : p.Ranked rank) {a : Nat} {test : Look}
    (h : p.code[a]? = some (.look test)) :
    p.firstRun here resume a =
      if test.holds here.before here.after then p.firstRun here resume (a + 1) else none := by
  rw [firstRun, walk, h]
  simp only [walk_onward hp h (List.mem_singleton_self _)]

lemma firstRun_mark (hp : p.Ranked rank) {a slot : Nat} (h : p.code[a]? = some (.mark slot)) :
    p.firstRun here resume a =
      (p.firstRun here resume (a + 1)).map ((slot, here.position) :: ·) := by
  rw [firstRun, walk, h]
  simp only [walk_onward hp h (List.mem_singleton_self _)]

lemma firstRun_jump (hp : p.Ranked rank) {a target : Nat} (h : p.code[a]? = some (.jump target)) :
    p.firstRun here resume a = p.firstRun here resume target := by
  rw [firstRun, walk, h]
  simp only [walk_onward hp h (List.mem_singleton_self _)]

lemma firstRun_fork (hp : p.Ranked rank) {a x y : Nat} (h : p.code[a]? = some (.fork x y)) :
    p.firstRun here resume a =
      (p.firstRun here resume x).or (p.firstRun here resume y) := by
  rw [firstRun, walk, h]
  simp only [walk_onward hp h (List.mem_cons_self ..),
    walk_onward hp h (List.mem_cons_of_mem x (List.mem_singleton_self y))]

end FirstRun

/-- Every address that has been visited leads to nothing, or has a higher number. -/
def Spent (p : Program) (rank : Nat → Nat) (here : Place) (resume : Nat → Option Trail)
    (a : Nat) (seen : Visited) : Prop :=
  ∀ b, seen.has b = true → p.firstRun here resume b = none ∨ rank a < rank b

/-- Nothing is added to the visited addresses but such as lead to nothing. -/
def AddsSpent (p : Program) (here : Place) (resume : Nat → Option Trail) (seen after : Visited) :
    Prop :=
  ∀ b, after.has b = true → seen.has b = true ∨ p.firstRun here resume b = none

lemma has_visit_iff (seen : Visited) (a b : Nat) :
    (seen.visit a).has b = true ↔ seen.has b = true ∨ a = b := by
  simp [Visited.has, Visited.visit, Nat.testBit_or, Nat.testBit_two_pow]

lemma AddsSpent.visit {a : Nat} {seen after : Visited}
    (h : AddsSpent p here resume (seen.visit a) after) (hnone : p.firstRun here resume a = none) :
    AddsSpent p here resume seen after := by
  intro b hb
  rcases h b hb with hb | hb
  · rcases (has_visit_iff seen a b).mp hb with hb | rfl
    · exact .inl hb
    · exact .inr hnone
  · exact .inr hb

/-- Below an address the addresses visited before it are spent, it is spent itself, and so is what a
vain attempt has added. -/
lemma Spent.onward {a b : Nat} {seen after : Visited} (h : Spent p rank here resume a seen)
    (hb : rank b < rank a) (hadds : AddsSpent p here resume (seen.visit a) after) :
    Spent p rank here resume b after := by
  intro d hd
  rcases hadds d hd with hd | hnone
  · rcases (has_visit_iff seen a d).mp hd with hd | rfl
    · rcases h d hd with hnone | habove
      · exact .inl hnone
      · exact .inr (by omega)
    · exact .inr hb
  · exact .inl hnone

lemma AddsSpent.refl (seen : Visited) : AddsSpent p here resume seen seen := fun _ hb => .inl hb

lemma AddsSpent.trans {seen between after : Visited}
    (first : AddsSpent p here resume seen between)
    (second : AddsSpent p here resume between after) : AddsSpent p here resume seen after := by
  intro b hb
  rcases second b hb with hb | hb
  · exact first b hb
  · exact .inr hb

/-- Remembering what has been visited makes no difference: `explore` finds what `firstRun` does, and
a vain attempt adds only addresses that lead to nothing. -/
lemma explore_eq_firstRun (hp : p.Ranked rank) {fuel a : Nat} {seen : Visited}
    (hfuel : rank a < fuel) (hseen : Spent p rank here resume a seen) :
    (p.explore here resume fuel a seen).1 = p.firstRun here resume a ∧
      (p.firstRun here resume a = none →
        AddsSpent p here resume seen (p.explore here resume fuel a seen).2) := by
  induction fuel generalizing a seen with
  | zero => omega
  | succ fuel ih =>
    unfold explore
    by_cases hvisited : seen.has a = true
    · have hnone : p.firstRun here resume a = none := by
        rcases hseen a hvisited with hnone | habove
        · exact hnone
        · omega
      simp only [hvisited, if_true, hnone]
      exact ⟨trivial, fun _ => .refl seen⟩
    · simp only [hvisited, Bool.false_eq_true, if_false]
      have hself : AddsSpent p here resume (seen.visit a) (seen.visit a) := .refl _
      cases hcode : p.code[a]? with
      | none =>
        have hnone := firstRun_none here resume hcode
        exact ⟨hnone.symm, hself.visit⟩
      | some instruction =>
        have honward (b : Nat) (hb : b ∈ Instruction.onward a instruction) (after : Visited)
            (hadds : AddsSpent p here resume (seen.visit a) after) :=
          have hdrop := hp.drops a instruction hcode b hb
          ih (by omega) (hseen.onward hdrop hadds)
        cases instruction with
        | accept =>
          have hfound := firstRun_accept here resume hcode
          exact ⟨hfound.symm, hself.visit⟩
        | char set =>
          have hfound := firstRun_char here resume hcode
          cases hafter : here.after with
          | none =>
            rw [hafter, Option.bind_none] at hfound
            exact ⟨hfound.symm, hself.visit⟩
          | some c =>
            rw [hafter, Option.bind_some] at hfound
            exact ⟨hfound.symm, hself.visit⟩
        | look test =>
          have hfound := firstRun_look here resume hp hcode
          by_cases ht : test.holds here.before here.after
          · obtain ⟨hvalue, hadds⟩ := honward (a + 1) (List.mem_singleton_self _) _ hself
            simp only [ht, if_true] at hfound ⊢
            exact ⟨hvalue.trans hfound.symm, fun h => (hadds (hfound ▸ h)).visit h⟩
          · simp only [ht] at hfound ⊢
            exact ⟨hfound.symm, hself.visit⟩
        | mark slot =>
          have hfound := firstRun_mark here resume hp hcode
          obtain ⟨hvalue, hadds⟩ := honward (a + 1) (List.mem_singleton_self _) _ hself
          exact ⟨by rw [hfound, ← hvalue], fun h => (hadds (by simpa [hfound] using h)).visit h⟩
        | jump target =>
          have hfound := firstRun_jump here resume hp hcode
          obtain ⟨hvalue, hadds⟩ := honward target (List.mem_singleton_self _) _ hself
          exact ⟨hvalue.trans hfound.symm, fun h => (hadds (hfound ▸ h)).visit h⟩
        | fork x y =>
          have hfound := firstRun_fork here resume hp hcode
          obtain ⟨hvalue, hadds⟩ := honward x (List.mem_cons_self ..) _ hself
          rcases hfirst : p.explore here resume fuel x (seen.visit a) with ⟨found, after⟩
          rw [hfirst] at hvalue hadds
          rw [← hvalue] at hfound hadds
          cases found with
          | some trail => exact ⟨by rw [hfound]; simp [hfirst], fun h => by simp [hfound] at h⟩
          | none =>
            -- The second branch starts with what the first one has added.
            have hfirst' := hadds rfl
            obtain ⟨hvalue', hadds'⟩ :=
              honward y (List.mem_cons_of_mem x (List.mem_singleton_self y)) _ hfirst'
            rw [Option.none_or] at hfound
            simp only [hfirst]
            exact ⟨hvalue'.trans hfound.symm,
              fun h => (hfirst'.trans (hadds' (hfound ▸ h))).visit h⟩

end Ranked

/-! ## From instruction to instruction -/

section Ranked

variable {p : Program} {rank : Nat → Nat} (hp : p.Ranked rank) {position a : Nat}
  {before : Option Char} {text : List Char}

/-- How a run goes on at the next place after an instruction has taken the first character. -/
def afterTaking (p : Program) (position : Nat) : List Char → Nat → Option Trail
  | [], _ => none
  | c :: rest, taken => p.enter (position + 1) (some c) rest (taken + 1)

include hp

lemma enter_eq_firstRun :
    p.enter position before text a =
      p.firstRun ⟨position, before, text.head?⟩ (p.afterTaking position text) a := by
  have hbound := hp.bounded a
  have hnone : Spent p rank ⟨position, before, text.head?⟩ (p.afterTaking position text) a
      Visited.none := by
    intro b hb
    simp [Visited.has, Visited.none] at hb
  rw [← (explore_eq_firstRun hp (Nat.lt_succ_of_le hbound) hnone).1]
  cases text <;> rfl

lemma enter_accept (h : p.code[a]? = some .accept) :
    p.enter position before text a = some [(1, position)] := by
  rw [enter_eq_firstRun hp, firstRun_accept _ _ h]

lemma enter_look {test : Look} (h : p.code[a]? = some (.look test)) :
    p.enter position before text a =
      if test.holds before text.head? then p.enter position before text (a + 1) else none := by
  rw [enter_eq_firstRun hp, firstRun_look _ _ hp h, enter_eq_firstRun hp]

lemma enter_mark {slot : Nat} (h : p.code[a]? = some (.mark slot)) :
    p.enter position before text a =
      (p.enter position before text (a + 1)).map ((slot, position) :: ·) := by
  rw [enter_eq_firstRun hp, firstRun_mark _ _ hp h, enter_eq_firstRun hp]

lemma enter_fork {x y : Nat} (h : p.code[a]? = some (.fork x y)) :
    p.enter position before text a =
      (p.enter position before text x).or (p.enter position before text y) := by
  rw [enter_eq_firstRun hp, firstRun_fork _ _ hp h, enter_eq_firstRun hp, enter_eq_firstRun hp]

lemma enter_char_nil {set : CharSet} (h : p.code[a]? = some (.char set)) :
    p.enter position before [] a = none := by
  rw [enter_eq_firstRun hp, firstRun_char _ _ h]
  rfl

lemma enter_char_cons {set : CharSet} {c : Char} {rest : List Char}
    (h : p.code[a]? = some (.char set)) :
    p.enter position before (c :: rest) a =
      if set.contains c then p.enter (position + 1) (some c) rest (a + 1) else none := by
  rw [enter_eq_firstRun hp, firstRun_char _ _ h]
  rfl

end Ranked

end Program

end UriRouting
