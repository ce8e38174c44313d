import Mathlib.Tactic
import UriRouting.Proofs.Expression.Rounds
import UriRouting.Proofs.Template.Compiled
import UriRouting.Proofs.Template.Layout

/-!
# Compiled plain templates

A plain template reads as the expression of its tokens: a letter stands for itself and every slot
adds a group of the same kind.  So it compiles unless its automaton is too large (`compile_plain`),
and the compiled template captures what `Token.fit` says (`captures_ofPlain`).
-/

namespace UriRouting

/-! ## Reading the expression of tokens -/

namespace Token

/-- The text that a token stands for in an expression. -/
def pattern : Token → List Char
  | letter c => [c]
  | slot _ => '(' :: Placeholder.anySegment ++ [')']

/-- The part that a token adds, where its slot has the group of a number. -/
def part (index : Nat) : Token → Expression.Part
  | letter c => ⟨.char (CharSet.singleton c), 0, false⟩
  | slot _ => ⟨.group index (.iterate (.char notSlash) 1 none true), 3, false⟩

/-- How many groups a token opens. -/
def size : Token → Nat
  | letter _ => 0
  | slot _ => 1

/-- Can the token stand in an expression as it is?  No brace can. -/
def isReadable : Token → Bool
  | letter c => !isMeta c && c != '\x7b'
  | slot _ => true

end Token

namespace Expression

lemma step_letter {r : Reader} (hr : r.flags = {}) {c : Char} (hmeta : isMeta c = false)
    (hbrace : c ≠ '\x7b') (tail : List Char) :
    r.step c tail = .ok (r.add (char (CharSet.singleton c)) 0, tail) := by
  have hne (d : Char) (hd : isMeta d = true) : c ≠ d := by
    rintro rfl
    rw [hmeta] at hd
    cases hd
  simp only [Reader.step, hne '(' rfl, hne ')' rfl, hne '|' rfl, hne '[' rfl, hne '?' rfl,
    hne '*' rfl, hne '+' rfl, hbrace, hne '\\' rfl, hne '.' rfl, hne '^' rfl, hne '$' rfl, if_false,
    ofLetter, hr, Bool.true_or, if_true, foldedSet]
  rfl

/-- The class of all characters but the slash, whatever follows it. -/
lemma bracket_notSlash (rest : List Char) :
    bracket {} ('[' :: '^' :: '/' :: ']' :: rest) = .ok (⟨notSlash, 1⟩, rest) := by
  have hread : bracket {} ('[' :: ['^', '/', ']']) = .ok (⟨notSlash, 1⟩, []) := rfl
  obtain ⟨taken, htaken, hother⟩ := bracket_before hread
  rw [List.append_nil] at htaken
  have := hother rest
  rwa [← htaken] at this

lemma skip_of_default {flags : Flags} (h : flags = {}) (text : List Char) :
    flags.skip text = text := by
  subst h
  rfl

/-- Adds what a token stands for. -/
def Reader.addToken (r : Reader) (t : Token) : Reader :=
  { r with body := r.body.add (t.part (r.groups + 1)), groups := r.groups + t.size }

/-- A token is read as what it stands for. -/
lemma reads_token {r : Reader} (hr : r.flags = {}) {t : Token} (ht : t.isReadable = true)
    (rest : List Char) : Reads (r, t.pattern ++ rest) (r.addToken t, rest) := by
  cases t with
  | letter c =>
    simp only [Token.isReadable, Bool.and_eq_true, Bool.not_eq_true', bne_iff_ne] at ht
    exact .single ⟨c, rest, skip_of_default hr _, step_letter hr ht.1 ht.2 rest⟩
  | slot name =>
    -- The group is opened, the class is read and repeated, and the group is closed.
    obtain ⟨flags, body, opened, groups, names⟩ := r
    obtain rfl : flags = {} := hr
    let inside (parts : List Part) : Reader :=
      ⟨{}, ⟨[], parts⟩, ⟨some (groups + 1), {}, body⟩ :: opened, groups + 1, names⟩
    have hopen : Round (⟨{}, body, opened, groups, names⟩, (Token.slot name).pattern ++ rest)
        (inside [], '[' :: '^' :: '/' :: ']' :: '+' :: ')' :: rest) := ⟨'(', _, rfl, rfl⟩
    have hclass : Round (inside [], '[' :: '^' :: '/' :: ']' :: '+' :: ')' :: rest)
        (inside [⟨char notSlash, 1, false⟩], '+' :: ')' :: rest) := by
      refine ⟨'[', '^' :: '/' :: ']' :: '+' :: ')' :: rest, rfl, ?_⟩
      have hbracket := bracket_notSlash ('+' :: ')' :: rest)
      change (bracket {} _ >>= _) = _
      rw [hbracket]
      rfl
    have hmany : Round (inside [⟨char notSlash, 1, false⟩], '+' :: ')' :: rest)
        (inside [⟨iterate (char notSlash) 1 none true, 2, false⟩], ')' :: rest) :=
      ⟨'+', _, rfl, rfl⟩
    have hclose : Round (inside [⟨iterate (char notSlash) 1 none true, 2, false⟩], ')' :: rest)
        (Reader.addToken ⟨{}, body, opened, groups, names⟩ (.slot name), rest) := ⟨')', _, rfl, rfl⟩
    exact .head hopen (.head hclass (.head hmany (.single hclose)))

/-- Adds what tokens stand for, one after the other. -/
def Reader.addTokens (r : Reader) (tokens : List Token) : Reader := tokens.foldl Reader.addToken r

/-- Tokens are read one after the other. -/
lemma reads_tokens {r : Reader} (hr : r.flags = {}) {tokens : List Token}
    (ht : tokens.all Token.isReadable = true) (rest : List Char) :
    Reads (r, tokens.flatMap Token.pattern ++ rest) (r.addTokens tokens, rest) := by
  induction tokens generalizing r with
  | nil => exact .refl
  | cons t tokens ih =>
    simp only [List.all_cons, Bool.and_eq_true] at ht
    rw [List.flatMap_cons, List.append_assoc]
    exact (reads_token hr ht.1 _).trans (ih hr ht.2)

/-- The parts that tokens add, where the first slot has the group of a number. -/
def tokenParts (index : Nat) : List Token → List Part
  | [] => []
  | t :: rest => t.part index :: tokenParts (index + t.size) rest

lemma map_expression_tokenParts (index : Nat) (tokens : List Token) :
    (tokenParts index tokens).map Part.expression = Token.parts index tokens := by
  induction tokens generalizing index with
  | nil => rfl
  | cons t rest ih => cases t <;> simp [tokenParts, Token.part, Token.parts, Token.size, ih]

lemma part_of_mem_tokenParts {index : Nat} {tokens : List Token} {p : Part}
    (h : p ∈ tokenParts index tokens) : ∃ (t : Token) (i : Nat), p = t.part i := by
  induction tokens generalizing index with
  | nil => cases h
  | cons t rest ih =>
    rcases List.mem_cons.mp h with rfl | h
    · exact ⟨t, index, rfl⟩
    · exact ih h

lemma body_addTokens (r : Reader) (tokens : List Token) :
    (r.addTokens tokens).body =
      { r.body with parts := (tokenParts (r.groups + 1) tokens).reverse ++ r.body.parts } := by
  induction tokens generalizing r with
  | nil => rfl
  | cons t rest ih =>
    change ((r.addToken t).addTokens rest).body = _
    rw [ih]
    simp [Reader.addToken, Body.add, tokenParts, Nat.add_right_comm]

lemma addTokens_same (r : Reader) (tokens : List Token) :
    (r.addTokens tokens).flags = r.flags ∧ (r.addTokens tokens).opened = r.opened := by
  induction tokens generalizing r with
  | nil => exact ⟨rfl, rfl⟩
  | cons t rest ih => exact ih (r.addToken t)

lemma deepest_le {parts : List Part} {n : Nat} (h : ∀ p ∈ parts, p.depth ≤ n) :
    deepest parts ≤ n := by
  have hfold (depths : List Nat) (a : Nat) (ha : a ≤ n) (hd : ∀ d ∈ depths, d ≤ n) :
      depths.foldl max a ≤ n := by
    induction depths generalizing a with
    | nil => exact ha
    | cons d depths ih =>
      obtain ⟨hd, hrest⟩ := List.forall_mem_cons.mp hd
      exact ih (max a d) (Nat.max_le.mpr ⟨ha, hd⟩) hrest
  refine hfold _ 0 (Nat.zero_le n) fun d hd => ?_
  obtain ⟨p, hp, rfl⟩ := List.mem_map.mp hd
  exact h p hp

lemma expression_branch {parts : List Part}
    (hflat : ∀ p ∈ parts, p.expression.pieces = [p.expression]) :
    (Body.branch ⟨[], parts.reverse⟩).expression = ofPieces (parts.map Part.expression) := by
  have hpieces : ∀ parts : List Part, (∀ p ∈ parts, p.expression.pieces = [p.expression]) →
      (parts.map Part.expression).flatMap pieces = parts.map Part.expression := by
    intro parts h
    induction parts with
    | nil => rfl
    | cons p parts ih =>
      rw [List.map_cons, List.flatMap_cons, h p (List.mem_cons_self ..),
        ih fun q hq => h q (List.mem_cons_of_mem p hq)]
      rfl
  unfold Body.branch
  split
  next h =>
    obtain rfl : parts = [] := by simpa using h
    rfl
  next p h =>
    obtain rfl : parts = [p] := by simpa using congrArg List.reverse h
    rfl
  next => rw [List.reverse_reverse, sequence, hpieces parts hflat]

lemma depth_branch_le {parts : List Part} {n : Nat} (hdepth : ∀ p ∈ parts, p.depth ≤ n) :
    (Body.branch ⟨[], parts⟩).depth ≤ n + 1 := by
  unfold Body.branch
  split
  next => exact Nat.zero_le _
  next p h =>
    obtain rfl : parts = [p] := h
    exact (hdepth p (List.mem_singleton_self p)).trans (Nat.le_succ n)
  next => exact Nat.succ_le_succ (deepest_le hdepth)

/-- The parts of a plain template, with those of its anchors. -/
def anchoredParts (anchoring : Anchoring) (tokens : List Token) : List Part :=
  ⟨look .textStart, 0, false⟩ :: (tokenParts 1 tokens ++
    if anchoring = .full then [⟨look .textStop, 0, false⟩] else [])

/-- The text of a plain template is read to its end, and leaves its parts. -/
lemma reads_anchored (anchoring : Anchoring) {tokens : List Token}
    (ht : tokens.all Token.isReadable = true) :
    ∃ r : Reader, Reads
        (Reader.start, Matchable.anchored anchoring (tokens.flatMap Token.pattern)) (r, []) ∧
      r.flags = {} ∧ r.opened = [] ∧ r.body = ⟨[], (anchoredParts anchoring tokens).reverse⟩ := by
  let start := Reader.start.add (look .textStart) 0
  have hstart (tail : List Char) : Round (Reader.start, '^' :: tail) (start, tail) :=
    ⟨'^', tail, rfl, rfl⟩
  have hbody : (start.addTokens tokens).body =
      ⟨[], (tokenParts 1 tokens).reverse ++ [⟨look .textStart, 0, false⟩]⟩ :=
    body_addTokens start tokens
  obtain ⟨hflags, hopened⟩ := addTokens_same start tokens
  cases anchoring with
  | full =>
    have hstop : Round (start.addTokens tokens, ['$'])
        ((start.addTokens tokens).add (look .textStop) 0, []) := by
      refine ⟨'$', [], skip_of_default hflags _, ?_⟩
      have hplain : (start.addTokens tokens).flags = {} := hflags
      simp only [Reader.step, hplain]
      rfl
    refine ⟨_, .head (hstart _) ((reads_tokens rfl ht ['$']).trans (.single hstop)), hflags,
      hopened, ?_⟩
    change (start.addTokens tokens).body.add _ = _
    rw [hbody]
    simp [Body.add, anchoredParts]
  | leading =>
    refine ⟨_, .head (hstart _) (reads_tokens rfl ht []), hflags, hopened, ?_⟩
    rw [hbody]
    simp [anchoredParts]

lemma ofText_of_ok {text : List Char} {e : Expression} (h : ofTextOfAnySize text = .ok e) :
    ofText text = if e.fits then .ok e else .error .tooLarge := by
  cases hfits : e.fits <;> simp [ofText, h, hfits, bind, Except.bind, throw, throwThe,
    MonadExceptOf.throw, pure, Except.pure]

/-- The tokens of a plain template read as their expression. -/
theorem ofTextOfAnySize_tokens (anchoring : Anchoring) {tokens : List Token}
    (ht : tokens.all Token.isReadable = true) :
    ofTextOfAnySize (Matchable.anchored anchoring (tokens.flatMap Token.pattern)) =
      .ok (Token.expression (decide (anchoring = .full)) tokens) := by
  obtain ⟨r, hreads, hflags, hopened, hbody⟩ := reads_anchored anchoring ht
  have hread := readWithin_eq_ok_iff.mpr ⟨[], hreads, skip_of_default hflags []⟩
  have hparts : ∀ p ∈ anchoredParts anchoring tokens,
      p.expression.pieces = [p.expression] ∧ p.depth ≤ 3 := by
    intro p hp
    rw [anchoredParts, List.mem_cons, List.mem_append] at hp
    rcases hp with rfl | hp | hp
    · exact ⟨rfl, Nat.zero_le 3⟩
    · obtain ⟨t, i, rfl⟩ := part_of_mem_tokenParts hp
      cases t with
      | letter c => exact ⟨rfl, Nat.zero_le 3⟩
      | slot name => exact ⟨rfl, le_rfl⟩
    · cases anchoring with
      | full =>
        obtain rfl : p = ⟨look .textStop, 0, false⟩ := by simpa using hp
        exact ⟨rfl, Nat.zero_le 3⟩
      | leading => simp at hp
  have hexpression := expression_branch fun p hp => (hparts p hp).1
  have hshallow : (Body.branch ⟨[], (anchoredParts anchoring tokens).reverse⟩).depth ≤ 3 + 1 :=
    depth_branch_le fun p hp => (hparts p (List.mem_reverse.mp hp)).2
  have hwhole : r.body.whole = Body.branch ⟨[], (anchoredParts anchoring tokens).reverse⟩ := by
    rw [hbody]
    rfl
  have hdepth : ¬ depthLimit < r.body.whole.depth := by
    rw [hwhole, depthLimit]
    omega
  have htokens : (anchoredParts anchoring tokens).map Part.expression =
      look .textStart :: (Token.parts 1 tokens ++ Token.endParts (decide (anchoring = .full))) := by
    rw [anchoredParts, List.map_cons, List.map_append, map_expression_tokenParts]
    cases anchoring <;> rfl
  simp only [ofTextOfAnySize, hread, hopened, bind, Except.bind, List.isEmpty_nil, Bool.not_true,
    Bool.false_eq_true, if_false, hdepth, pure, Except.pure]
  rw [hwhole, hexpression, htokens, Token.expression]

end Expression

/-! ## Compiling -/

namespace Segment

lemma names_tokens (segments : List Segment) :
    Token.names (tokens segments) = bodies segments := by
  induction segments with
  | nil => rfl
  | cons s rest ih =>
    cases s with
    | literal text => rw [tokens, Token.names_append, Token.names_map_letter, ih]; rfl
    | placeholder body =>
      rw [tokens, bodies, ← ih]
      rfl

lemma fill_eq_fill_tokens (segments : List Segment) (values : List String)
    (h : values.length = (bodies segments).length) :
    fill segments values = Token.fill (tokens segments) (values.map String.toList) := by
  induction segments generalizing values with
  | nil => cases values <;> rfl
  | cons s rest ih =>
    cases s with
    | literal text => rw [tokens, Token.fill_map_letter_append, fill, ih values h]
    | placeholder body =>
      cases values with
      | nil => simp [bodies] at h
      | cons value values =>
        rw [fill, ih values (by simpa [bodies] using h)]
        rfl

end Segment

namespace Matchable

/-- Names alone are read one after the other, whether they are repeated or not. -/
lemma value_readPlaceholders (template : String) (seen : List (List Char))
    {bodies : List (List Char)} (h : ∀ body ∈ bodies, body ≠ [] ∧ ':' ∉ body) :
    (readPlaceholders template seen bodies).run.value =
      .ok (bodies.map fun body => ⟨body, Placeholder.anySegment⟩) := by
  have hne : ∀ body ∈ bodies, body ≠ [] := fun body hbody => (h body hbody).1
  have hgood : ∀ body ∈ bodies, Placeholder.IsGood body := by
    intro body hbody
    exact Placeholder.isGood_of_not_mem (hne body hbody) (h body hbody).2
  rw [value_readPlaceholders_of_good template seen hne hgood, List.map_congr_left]
  intro body hbody
  exact Placeholder.written_of_not_mem (h body hbody).2

/-- The text of the expression of plain segments is that of their tokens. -/
lemma patternText_plain (segments : List Segment) :
    patternText segments
        ((Segment.bodies segments).map fun body => ⟨body, Placeholder.anySegment⟩) =
      (Segment.tokens segments).flatMap Token.pattern := by
  induction segments with
  | nil => rfl
  | cons s rest ih =>
    cases s with
    | literal text =>
      have hletters : (text.map Token.letter).flatMap Token.pattern = text := by
        induction text with
        | nil => rfl
        | cons c text ih => exact congrArg (c :: ·) ih
      rw [Segment.tokens, List.flatMap_append, hletters, Segment.bodies, patternText, ih]
    | placeholder body =>
      rw [Segment.bodies, List.map_cons, patternText, ih]
      rfl

end Matchable

namespace Token

lemma highestGroup_ofPieces_cons (e : Expression) (rest : List Expression) :
    (Expression.ofPieces (e :: rest)).highestGroup =
      max e.highestGroup (Expression.ofPieces rest).highestGroup := by
  cases rest with
  | nil => simp [Expression.ofPieces, Expression.highestGroup]
  | cons _ _ => rfl

lemma highestGroup_parts (full : Bool) (index : Nat) (tokens : List Token) :
    max index (Expression.ofPieces (parts (index + 1) tokens ++ endParts full)).highestGroup =
      index + (names tokens).length := by
  induction tokens generalizing index with
  | nil =>
    cases full <;> simp [parts, endParts, Expression.ofPieces, Expression.highestGroup, names]
  | cons t rest ih =>
    cases t with
    | letter c =>
      rw [parts, List.cons_append, highestGroup_ofPieces_cons, Expression.highestGroup,
        Nat.zero_max]
      exact ih index
    | slot name =>
      have hnames : (names (slot name :: rest)).length = (names rest).length + 1 := rfl
      have hrest := ih (index + 1)
      rw [parts, List.cons_append, highestGroup_ofPieces_cons, hnames]
      simp only [Expression.highestGroup]
      omega

lemma highestGroup_expression (full : Bool) (tokens : List Token) :
    (expression full tokens).highestGroup = (names tokens).length := by
  rw [expression, highestGroup_ofPieces_cons, Expression.highestGroup]
  simpa using highestGroup_parts full 0 tokens

end Token

/-- What a plain template compiles to. -/
def Matchable.ofPlain (template : String) (anchoring : Anchoring) : Matchable where
  template := template
  pattern := String.ofList
    (anchored anchoring ((tokensOf template).flatMap Token.pattern))
  parameters := (Token.names (tokensOf template)).map String.ofList
  anchoring := anchoring
  expression := Token.expression (decide (anchoring = .full)) (tokensOf template)

section Plain

variable {template : String} (h : IsPlain template)
include h

lemma IsPlain.isReadable : (tokensOf template).all Token.isReadable = true := by
  obtain ⟨⟨segments, hsplit⟩, hplain⟩ := h
  rw [tokensOf_of_split hsplit] at hplain ⊢
  rw [List.all_eq_true] at hplain ⊢
  intro t ht
  cases t with
  | letter c =>
    obtain ⟨text, htext, hc⟩ := Segment.letter_mem_tokens.mp ht
    have hbrace : c ≠ '\x7b' := fun h => (Segment.isRegular_of_split hsplit _ htext).1 (h ▸ hc)
    have hmeta : (!isMeta c) = true := hplain _ ht
    simp [Token.isReadable, hmeta, hbrace]
  | slot name => rfl

/-- A plain template compiles, unless its automaton is too large. -/
theorem compile_plain (anchoring : Anchoring) :
    (Matchable.compile template anchoring).run.value =
      if (Matchable.ofPlain template anchoring).expression.fits then
        .ok (Matchable.ofPlain template anchoring)
      else .error (.invalidPattern template .tooLarge) := by
  have hreadable := h.isReadable
  obtain ⟨⟨segments, hsplit⟩, hplain⟩ := h
  have htokens := tokensOf_of_split hsplit
  rw [htokens] at hplain hreadable
  have hbodies : ∀ body ∈ Segment.bodies segments, body ≠ [] ∧ ':' ∉ body := by
    intro body hbody
    have hplace := Segment.mem_bodies.mp hbody
    have hslot := Segment.slot_mem_tokens.mpr hplace
    refine ⟨Segment.isRegular_of_split hsplit _ hplace, ?_⟩
    simpa [Token.isPlain] using List.all_eq_true.mp hplain _ hslot
  have hread := Expression.ofText_of_ok (Expression.ofTextOfAnySize_tokens anchoring hreadable)
  have hcompile : (Matchable.compile template anchoring).run.value =
      (Matchable.assemble template anchoring).run.value := rfl
  have hofPlain : (Matchable.ofPlain template anchoring).expression =
      Token.expression (decide (anchoring = .full)) (Segment.tokens segments) := by
    rw [Matchable.ofPlain, htokens]
  rw [hcompile, Matchable.assemble, hofPlain]
  simp only [Attempt.value_bind, Attempt.value_ofExcept, hsplit, Except.mapError,
    Matchable.value_readPlaceholders template [] hbodies, Matchable.patternText_plain, hread]
  split_ifs with hfits
  · have hgroups : (Token.expression (decide (anchoring = .full))
        (Segment.tokens segments)).highestGroup = (Segment.bodies segments).length := by
      rw [Token.highestGroup_expression, Segment.names_tokens]
    simp only [List.length_map, hgroups, ne_eq, not_true, if_false, Attempt.value_pure,
      List.map_map, Function.comp_def]
    rw [Matchable.ofPlain, htokens, Segment.names_tokens]
  · rfl

/-- What a plain template has been compiled to is what it reads as. -/
lemma eq_ofPlain_of_compile {anchoring : Anchoring} {m : Matchable}
    (hok : (Matchable.compile template anchoring).run.value = .ok m) :
    m = .ofPlain template anchoring := by
  rw [compile_plain h] at hok
  split at hok
  · exact (Except.ok.inj hok).symm
  · cases hok

end Plain

/-! ## Matching -/

/-- The names of the slots, each with the value of a fit. -/
def Token.bindings (tokens : List Token) (f : Fit) : List (String × String) :=
  ((names tokens).map String.ofList).zip (f.values.map String.ofList)

namespace Token

/-- The groups of a run through fitting tokens are their values, and it ends where they end. -/
lemma groups_of_fit {full : Bool} {tokens : List Token} {text : List Char} {f : Fit}
    (h : fit full tokens text = some f) :
    ((List.range (names tokens).length).map fun i =>
        Trail.groupText ((0, 0) :: trailOf 1 0 tokens f.values) text (i + 1)) = f.values ∧
      text.drop (Trail.stop ((0, 0) :: trailOf 1 0 tokens f.values)) = f.rest := by
  obtain ⟨htext, hlength, _, _⟩ := fit_spec h
  exact groups_trailOf hlength htext

end Token

namespace Matchable

lemma search_ofPlain (template : String) (anchoring : Anchoring) (text : List Char) :
    (ofPlain template anchoring).search text =
      (Token.fit (decide (anchoring = .full)) (tokensOf template) text).map fun f =>
        (0, 0) :: Token.trailOf 1 0 (tokensOf template) f.values :=
  Token.search_eq_fit _ _ _

/-- The texts of the groups, as `captures` lists them, are the values of a fit. -/
lemma values_ofPlain {template : String} {anchoring : Anchoring} {path : String} {f : Fit}
    (h : Token.fit (decide (anchoring = .full)) (tokensOf template) path.toList = some f) :
    ((List.range (ofPlain template anchoring).parameters.length).map fun i =>
      String.ofList (Trail.groupText ((0, 0) :: Token.trailOf 1 0 (tokensOf template) f.values)
        path.toList (i + 1))) = f.values.map String.ofList := by
  have hgroups := congrArg (List.map String.ofList) (Token.groups_of_fit h).1
  rw [List.map_map] at hgroups
  rw [ofPlain, List.length_map]
  exact hgroups

/-- A plain template captures what `Token.fit` says of its tokens. -/
theorem captures_ofPlain (template : String) (anchoring : Anchoring) (path : String) :
    (ofPlain template anchoring).captures path =
      (Token.fit (decide (anchoring = .full)) (tokensOf template) path.toList).map fun f =>
        ⟨Parameters.bindAll (Token.bindings (tokensOf template) f), String.ofList f.rest⟩ := by
  simp only [captures, search_ofPlain, Option.map_map]
  refine Option.map_congr fun f hf => ?_
  simp only [Function.comp, values_ofPlain hf, (Token.groups_of_fit hf).2]
  rfl

theorem captured_ofPlain {template : String} {anchoring : Anchoring} {path : String} {f : Fit}
    (h : Token.fit (decide (anchoring = .full)) (tokensOf template) path.toList = some f) :
    (ofPlain template anchoring).captured path = Token.bindings (tokensOf template) f := by
  simp only [captured, search_ofPlain, h, Option.map_some, values_ofPlain h]
  rfl

end Matchable

end UriRouting
