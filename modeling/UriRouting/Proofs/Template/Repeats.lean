import Mathlib.Tactic
import UriRouting.Proofs.Template.Outcome

/-!
# Names that occur again in a template

Several placeholders of a template may have the same name.  That is no fault: a warning is left in
the log for each placeholder whose name occurred before, and the compilation goes on.

The bodies are read from left to right up to the first with a fault, so only those before it are
warned of (`journal_readPlaceholders`).  Whatever happens after that takes no warning back:
`records_compile` gives the whole log of a compilation, successful or not.

The warnings tell how many names are lost to others.  Each placeholder either has a name that is new
or is warned of (`length_repeatedNames_add_card`), and a match binds each name once.  So the
warnings make up for the difference between the number of placeholders and the size of the
parameters of any match (`compile_warns_of_repeats`).
-/

namespace UriRouting

/-! ## The log -/

/-- The warnings in the log. -/
def Journal.warnings (journal : Journal) : List LogRecord :=
  journal.records.filter fun record => record.level = .warn

namespace Matchable

/-- The line of the log that says that a name occurs again. -/
def repeatRecord (template name : String) : LogRecord :=
  ⟨.warn, "Duplicate route parameter name, last value wins",
    [("template", .text template), ("parameter", .text name)]⟩

/-- The line of the log that says that a template has been compiled. -/
def compiledRecord (m : Matchable) : LogRecord :=
  ⟨.debug, "Compiled route pattern",
    [("template", .text m.template), ("pattern", .text m.pattern),
      ("parameters", .text (quotedList m.parameters)), ("anchoring", .text m.anchoring.logName)]⟩

/-! ## Names in a list -/

/-- The names in a list that occurred before in it, each with its position. -/
def repeatedNames (names : List String) : List (String × Nat) :=
  names.zipIdx.filter fun e => e.1 ∈ names.take e.2

lemma mem_repeatedNames {names : List String} {name : String} {k : Nat} :
    (name, k) ∈ repeatedNames names ↔ names[k]? = some name ∧ name ∈ names.take k := by
  rw [repeatedNames, List.mem_filter, List.mk_mem_zipIdx_iff_getElem?, decide_eq_true_eq]

lemma pairwise_repeatedNames (names : List String) :
    (repeatedNames names).Pairwise fun a b => a.2 < b.2 := by
  refine List.Pairwise.filter _ ?_
  rw [← List.pairwise_map (f := Prod.snd), List.zipIdx_map_snd]
  exact List.pairwise_lt_range'

lemma repeatedNames_concat (names : List String) (name : String) :
    repeatedNames (names ++ [name]) =
      repeatedNames names ++ if name ∈ names then [(name, names.length)] else [] := by
  have hbefore : names.zipIdx.filter (fun e => e.1 ∈ (names ++ [name]).take e.2) =
      repeatedNames names := by
    refine List.filter_congr fun e he => ?_
    have hlt : e.2 < names.length := by simpa using List.snd_lt_add_of_mem_zipIdx he
    rw [List.take_append_of_le_length hlt.le]
  rw [repeatedNames, List.zipIdx_append, List.filter_append, hbefore]
  by_cases h : name ∈ names <;> simp [h]

lemma length_repeatedNames_add_card (names : List String) :
    (repeatedNames names).length + names.toFinset.card = names.length := by
  induction names using List.reverseRecOn with
  | nil => rfl
  | append_singleton names name ih =>
    rw [repeatedNames_concat, List.length_append, List.length_append, List.toFinset_append]
    by_cases h : name ∈ names
    · have hsame : names.toFinset ∪ [name].toFinset = names.toFinset := by simp [h]
      rw [if_pos h, hsame, ← ih]
      simp only [List.length_singleton]
      omega
    · have hnew : (names.toFinset ∪ [name].toFinset).card = names.toFinset.card + 1 := by
        rw [Finset.card_union_of_disjoint (by simp [h])]
        simp
      rw [if_neg h, hnew, ← ih]
      simp only [List.length_singleton, List.length_nil]
      omega

/-! ## Bodies -/

/-- The name that is written in a body. -/
def writtenName (body : List Char) : String := String.ofList (Placeholder.written body).name

/-- A placeholder has the name of an earlier one, and nothing is wrong with it nor with any before
it. -/
structure RepeatsAt (bodies : List (List Char)) (k : Nat) (name : String) : Prop where
  named : (bodies.map writtenName)[k]? = some name
  earlier : name ∈ (bodies.take k).map writtenName
  good : ∀ body ∈ bodies.take (k + 1), Placeholder.IsGood body

lemma exists_good_append (bodies : List (List Char)) :
    ∃ good rest, bodies = good ++ rest ∧ (∀ body ∈ good, Placeholder.IsGood body) ∧
      ∀ body ∈ rest.head?, ¬ Placeholder.IsGood body := by
  rcases exists_first_bad bodies with hgood | ⟨before, body, after, fault, rfl, hbefore, hbad⟩
  · exact ⟨bodies, [], (List.append_nil bodies).symm, hgood, by simp⟩
  · refine ⟨before, body :: after, rfl, hbefore, ?_⟩
    intro first hfirst
    obtain rfl := Option.some.inj hfirst
    exact fun hgood => hgood fault hbad

/-- Only a placeholder before the first fault repeats a name. -/
lemma repeatsAt_iff {good rest : List (List Char)} (hgood : ∀ body ∈ good, Placeholder.IsGood body)
    (hrest : ∀ body ∈ rest.head?, ¬ Placeholder.IsGood body) {k : Nat} {name : String} :
    RepeatsAt (good ++ rest) k name ↔ (name, k) ∈ repeatedNames (good.map writtenName) := by
  rw [mem_repeatedNames, ← List.map_take]
  constructor
  · intro h
    -- otherwise the first body with a fault is at this position or before it
    have hk : k < good.length := by
      by_contra hle
      cases rest with
      | nil =>
        have hnone : ((good ++ []).map writtenName)[k]? = none := by
          simpa using not_lt.mp hle
        rw [h.named] at hnone
        cases hnone
      | cons body after =>
        refine hrest body rfl (h.good body ?_)
        rw [List.take_append, show k + 1 - good.length = k - good.length + 1 by omega]
        simp
    refine ⟨?_, ?_⟩
    · rw [← h.named, List.map_append, List.getElem?_append_left (by simpa using hk)]
    · simpa [List.take_append_of_le_length hk.le] using h.earlier
  · rintro ⟨hnamed, hearlier⟩
    have hk : k < good.length := by simpa using (List.getElem?_eq_some_iff.mp hnamed).1
    refine ⟨?_, ?_, ?_⟩
    · rw [List.map_append, List.getElem?_append_left (by simpa using hk), hnamed]
    · rwa [List.take_append_of_le_length hk.le]
    · intro body hbody
      rw [List.take_append_of_le_length hk] at hbody
      exact hgood body (List.mem_of_mem_take hbody)

/-! ## What is noted -/

section Journal

variable (template : String)

lemma journal_readPlaceholders_cons (seen : List (List Char)) (body : List Char)
    (rest : List (List Char)) :
    (readPlaceholders template seen (body :: rest)).run.journal =
      match Placeholder.ofBody body with
      | .error _ => []
      | .ok p =>
        (if p.name ∈ seen then [.repeatedParameter template (String.ofList p.name)] else []) ++
          (readPlaceholders template (seen ++ [p.name]) rest).run.journal := by
  rw [readPlaceholders, Attempt.journal_bind, Attempt.journal_ofExcept, Attempt.value_ofExcept,
    List.nil_append]
  cases Placeholder.ofBody body with
  | error fault => rfl
  | ok p =>
    have hothers : (do
        let others ← readPlaceholders template (seen ++ [p.name]) rest
        return p :: others : Attempt TemplateFault (List Placeholder)).run.journal =
          (readPlaceholders template (seen ++ [p.name]) rest).run.journal := by
      rw [Attempt.journal_bind]
      cases (readPlaceholders template (seen ++ [p.name]) rest).run.value <;> simp
    by_cases h : p.name ∈ seen
    · simp only [List.contains_iff_mem.mpr h, if_true, if_pos h]
      rw [Attempt.journal_bind, Attempt.value_note]
      exact congrArg (_ ++ ·) hothers
    · have hnew : seen.contains p.name = false := by simpa using h
      simp only [hnew, Bool.false_eq_true, if_false, if_neg h]
      exact hothers

/-- What is noted about later bodies comes after what is noted about those before them. -/
lemma journal_readPlaceholders_append (seen : List (List Char)) {good : List (List Char)}
    (hne : ∀ body ∈ good, body ≠ []) (hgood : ∀ body ∈ good, Placeholder.IsGood body)
    (rest : List (List Char)) :
    (readPlaceholders template seen (good ++ rest)).run.journal =
      (readPlaceholders template seen good).run.journal ++
        (readPlaceholders template (seen ++ good.map fun body => (Placeholder.written body).name)
          rest).run.journal := by
  induction good generalizing seen with
  | nil => simp [readPlaceholders]
  | cons body good ih =>
    obtain ⟨hbody, hne⟩ := List.forall_mem_cons.mp hne
    obtain ⟨hfirst, hgood⟩ := List.forall_mem_cons.mp hgood
    have hread := Placeholder.ofBody_of_isGood hbody hfirst
    rw [List.cons_append, journal_readPlaceholders_cons, journal_readPlaceholders_cons, hread]
    simp only [ih _ hne hgood, List.map_cons, List.append_assoc, List.singleton_append]

lemma journal_readPlaceholders_of_bad (seen : List (List Char)) {rest : List (List Char)}
    (hne : ∀ body ∈ rest, body ≠ []) (hrest : ∀ body ∈ rest.head?, ¬ Placeholder.IsGood body) :
    (readPlaceholders template seen rest).run.journal = [] := by
  cases rest with
  | nil => rfl
  | cons body after =>
    obtain ⟨fault, hbad⟩ := not_forall_not.mp (hrest body rfl)
    have hread := (Placeholder.ofBody_eq_error_iff (hne body List.mem_cons_self)).mpr hbad
    rw [journal_readPlaceholders_cons, hread]

lemma journal_readPlaceholders_of_good {good : List (List Char)}
    (hne : ∀ body ∈ good, body ≠ []) (hgood : ∀ body ∈ good, Placeholder.IsGood body) :
    (readPlaceholders template [] good).run.journal =
      (repeatedNames (good.map writtenName)).map fun e => .repeatedParameter template e.1 := by
  induction good using List.reverseRecOn with
  | nil => rfl
  | append_singleton good body ih =>
    obtain ⟨hne, hbody⟩ := List.forall_mem_append.mp hne
    obtain ⟨hgood, hlast⟩ := List.forall_mem_append.mp hgood
    have hread := Placeholder.ofBody_of_isGood (hbody body List.mem_cons_self)
      (hlast body List.mem_cons_self)
    have hseen : (Placeholder.written body).name ∈
          good.map (fun body => (Placeholder.written body).name) ↔
        writtenName body ∈ good.map writtenName := by
      simp [writtenName, String.ofList_inj]
    rw [journal_readPlaceholders_append template [] hne hgood, ih hne hgood,
      journal_readPlaceholders_cons, hread, List.map_append, List.map_singleton,
      repeatedNames_concat, List.map_append, List.nil_append]
    by_cases h : writtenName body ∈ good.map writtenName
    · simp only [hseen, if_pos h]
      rfl
    · simp only [hseen, if_neg h]
      rfl

/-- While bodies are read, the names that occur again before the first fault are noted. -/
theorem journal_readPlaceholders {good rest : List (List Char)}
    (hne : ∀ body ∈ good ++ rest, body ≠ []) (hgood : ∀ body ∈ good, Placeholder.IsGood body)
    (hrest : ∀ body ∈ rest.head?, ¬ Placeholder.IsGood body) :
    (readPlaceholders template [] (good ++ rest)).run.journal =
      (repeatedNames (good.map writtenName)).map fun e => .repeatedParameter template e.1 := by
  obtain ⟨hne, hne'⟩ := List.forall_mem_append.mp hne
  rw [journal_readPlaceholders_append template [] hne hgood,
    journal_readPlaceholders_of_bad template _ hne' hrest, List.append_nil,
    journal_readPlaceholders_of_good template hne hgood]

end Journal

/-! ## Compilations -/

section Compile

variable {template : String}

/-- All lines that a compilation leaves in the log. -/
theorem records_compile (template : String) (anchoring : Anchoring) :
    (compile template anchoring).run.journal.records =
      (assemble template anchoring).run.journal.records ++
        match (compile template anchoring).run.value with
        | .ok m => [compiledRecord m]
        | .error _ => [] := by
  have hjournal : (compile template anchoring).run.journal =
      (assemble template anchoring).run.journal ++
        [outcome (compile template anchoring).run.value] := rfl
  rw [hjournal, Journal.records, List.filterMap_append]
  cases (compile template anchoring).run.value <;> rfl

lemma journal_assemble_of_split_error {fault : BraceFault}
    (hsplit : Segment.split template.toList = .error fault) (anchoring : Anchoring) :
    (assemble template anchoring).run.journal = [] := by
  rw [assemble, Attempt.journal_bind, Attempt.value_ofExcept, hsplit]
  rfl

lemma journal_assemble {segments : List Segment}
    (hsplit : Segment.split template.toList = .ok segments) (anchoring : Anchoring) :
    (assemble template anchoring).run.journal =
      (readPlaceholders template [] (Segment.bodies segments)).run.journal := by
  rw [assemble, Attempt.journal_bind, Attempt.value_ofExcept, hsplit]
  simp only [Except.mapError, Attempt.journal_ofExcept, List.nil_append]
  rw [Attempt.journal_bind]
  cases (readPlaceholders template [] (Segment.bodies segments)).run.value with
  | error fault => exact List.append_nil _
  | ok placeholders =>
    -- The expression is read and its groups are counted without a remark.
    have hsilent (e : Expression) : (do
        if e.highestGroup ≠ placeholders.length then
          throw (.capturingGroup template)
        return (⟨template, String.ofList (anchored anchoring (patternText segments placeholders)),
          placeholders.map fun p => String.ofList p.name, anchoring, e⟩ : Matchable) :
          Attempt TemplateFault Matchable).run.journal = [] := by
      split <;> rfl
    simp only
    rw [Attempt.journal_bind, Attempt.journal_ofExcept, List.nil_append]
    split
    · exact (congrArg _ (hsilent _)).trans (List.append_nil _)
    · exact List.append_nil _

end Compile

lemma parameters_of_compile {template : String} {anchoring : Anchoring} {m : Matchable}
    (h : (compile template anchoring).run.value = .ok m) {segments : List Segment}
    (hsplit : Segment.split template.toList = .ok segments) :
    m.parameters = (Segment.bodies segments).map writtenName ∧
      ∀ body ∈ Segment.bodies segments, Placeholder.IsGood body := by
  cases value_compile_eq_iff.mp h with
  | compiled hsegments hgood _ _ =>
    obtain rfl := Except.ok.inj (hsegments.symm.trans hsplit)
    exact ⟨rfl, hgood⟩

lemma length_params_of_captures {m : Matchable} {path : String} {hit : PathMatch}
    (h : m.captures path = some hit) :
    hit.params.entries.length = m.parameters.toFinset.card := by
  rw [params_of_captures h, Parameters.length_bindAll, names_captured h]

/-- What is noted before the outcome of a compilation are the names that occur again. -/
lemma exists_repeats (template : String) (anchoring : Anchoring) :
    ∃ repeats : List (String × Nat),
      repeats.Pairwise (fun a b => a.2 < b.2) ∧
      (∀ name k, (name, k) ∈ repeats ↔
        ∃ segments, Segment.split template.toList = .ok segments ∧
          RepeatsAt (Segment.bodies segments) k name) ∧
      (assemble template anchoring).run.journal =
        repeats.map (fun e => .repeatedParameter template e.1) ∧
      ∀ m, (compile template anchoring).run.value = .ok m →
        repeats = repeatedNames m.parameters := by
  cases hsplit : Segment.split template.toList with
  | error fault =>
    refine ⟨[], .nil, by simp, journal_assemble_of_split_error hsplit anchoring, ?_⟩
    intro m hm
    obtain ⟨segments, _, hsegments, _⟩ := compile_eq_ok hm
    rw [hsplit] at hsegments
    cases hsegments
  | ok segments =>
    obtain ⟨good, rest, hbodies, hgood, hrest⟩ := exists_good_append (Segment.bodies segments)
    have hne : ∀ body ∈ good ++ rest, body ≠ [] := by
      rw [← hbodies]
      intro body hbody
      exact ne_nil_of_mem_bodies hsplit hbody
    refine ⟨repeatedNames (good.map writtenName), pairwise_repeatedNames _, ?_, ?_, ?_⟩
    · intro name k
      rw [← repeatsAt_iff hgood hrest, ← hbodies]
      simp
    · rw [journal_assemble hsplit, hbodies, journal_readPlaceholders template hne hgood hrest]
    · intro m hm
      obtain ⟨hparameters, hall⟩ := parameters_of_compile hm hsplit
      have hnone : rest = [] := by
        cases rest with
        | nil => rfl
        | cons body after => exact absurd (hall body (by simp [hbodies])) (hrest body rfl)
      rw [hparameters, hbodies, hnone, List.append_nil]

lemma records_map_repeatedParameter (template : String) (repeats : List (String × Nat)) :
    (Journal.records (repeats.map fun e => .repeatedParameter template e.1)) =
      repeats.map fun e => repeatRecord template e.1 := by
  rw [Journal.records, List.filterMap_map, ← List.filterMap_eq_map]
  rfl

/-- While a template is compiled, a warning is left in the log for each placeholder that has the
name of an earlier one, in the order of the template and whatever comes of the compilation, provided
that the braces are in order and that nothing is wrong with this placeholder and those before it.
If the template compiles, this is said last, and there is nothing else in the log.  Then there are
as many warnings as there are more parameters than names, and the parameters of a match are fewer
than those of the template by the number of warnings. -/
theorem compile_warns_of_repeats (template : String) (anchoring : Anchoring) :
    ∃ repeats : List (String × Nat),
      repeats.Pairwise (fun a b => a.2 < b.2) ∧
      (∀ name k, (name, k) ∈ repeats ↔
        ∃ segments, Segment.split template.toList = .ok segments ∧
          RepeatsAt (Segment.bodies segments) k name) ∧
      (compile template anchoring).run.journal.warnings =
        repeats.map (fun e => repeatRecord template e.1) ∧
      (compile template anchoring).run.journal.records =
        (compile template anchoring).run.journal.warnings ++
          (match (compile template anchoring).run.value with
            | .ok m => [compiledRecord m]
            | .error _ => []) ∧
      ∀ m, (compile template anchoring).run.value = .ok m →
        (compile template anchoring).run.journal.warnings.length + m.parameters.toFinset.card =
          m.parameters.length ∧
        ∀ path hit, m.captures path = some hit →
          hit.params.entries.length + (compile template anchoring).run.journal.warnings.length =
            m.parameters.length := by
  obtain ⟨repeats, hordered, hmem, hnoted, hcompiled⟩ := exists_repeats template anchoring
  have hrecords := records_compile template anchoring
  rw [hnoted, records_map_repeatedParameter] at hrecords
  have hwarnings : (compile template anchoring).run.journal.warnings =
      repeats.map fun e => repeatRecord template e.1 := by
    have hall : (repeats.map fun e => repeatRecord template e.1).filter
        (fun record => record.level = .warn) = repeats.map fun e => repeatRecord template e.1 := by
      rw [List.filter_eq_self]
      intro record hrecord
      obtain ⟨e, -, rfl⟩ := List.mem_map.mp hrecord
      rfl
    rw [Journal.warnings, hrecords, List.filter_append, hall]
    cases (compile template anchoring).run.value <;> simp [compiledRecord]
  refine ⟨repeats, hordered, hmem, hwarnings, ?_, ?_⟩
  · rw [hwarnings, hrecords]
  · intro m hm
    have hlength : (compile template anchoring).run.journal.warnings.length +
        m.parameters.toFinset.card = m.parameters.length := by
      rw [hwarnings, List.length_map, hcompiled m hm, length_repeatedNames_add_card]
    refine ⟨hlength, ?_⟩
    intro path hit hhit
    rw [length_params_of_captures hhit, ← hlength, Nat.add_comm]

/-- Of three placeholders two have one name. -/
theorem compile_warns_of_repeats_threePlaceholders :
    ∃ m hit, (compile "/{id}/{page}/{id}" .full).run.value = .ok m ∧
      m.captures "/7/x/42" = some hit ∧ m.parameters.length = 3 ∧
      (compile "/{id}/{page}/{id}" .full).run.journal.warnings =
        [repeatRecord "/{id}/{page}/{id}" "id"] ∧
      hit.params.entries.length + 1 = 3 := by
  have hrun : ((compile "/{id}/{page}/{id}" .full).run.value.toOption.bind fun m =>
      m.captures "/7/x/42").isSome := by
    decide +kernel
  have hwarnings : (compile "/{id}/{page}/{id}" .full).run.journal.warnings =
      [repeatRecord "/{id}/{page}/{id}" "id"] := by
    decide +kernel
  have hthree : ∀ m ∈ (compile "/{id}/{page}/{id}" .full).run.value.toOption,
      m.parameters.length = 3 := by
    decide +kernel
  obtain ⟨hit, hhit⟩ := Option.isSome_iff_exists.mp hrun
  obtain ⟨m, hm, hcaptures⟩ := Option.bind_eq_some_iff.mp hhit
  have hcompiled := Attempt.toOption_eq_some.mp hm
  obtain ⟨repeats, -, -, -, -, hlengths⟩ := compile_warns_of_repeats "/{id}/{page}/{id}" .full
  have hsize := (hlengths m hcompiled).2 "/7/x/42" hit hcaptures
  rw [hwarnings, hthree m hm] at hsize
  exact ⟨m, hit, hcompiled, hcaptures, hthree m hm, hwarnings, hsize⟩

/-- A name is warned of even if the last placeholder has no sub-pattern behind its colon. -/
example : (compile "/{id}/{id}/{page:}" .full).run.journal.records =
    [repeatRecord "/{id}/{id}/{page:}" "id"] := by
  decide +kernel

end Matchable

end UriRouting
