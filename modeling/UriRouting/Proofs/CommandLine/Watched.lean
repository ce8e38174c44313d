import Mathlib.Tactic
import UriRouting.CommandLine.Run
import UriRouting.Proofs.Attempt
import UriRouting.Proofs.CommandLine.Lines
import UriRouting.Proofs.CommandLine.OneLine

/-!
# What a run prints

A run whose table cannot be loaded prints nothing (`run_of_error`).  Otherwise a run that watches
answers the lines of its input one after the other, up to the first that is not UTF-8.

However the input comes in, it is answered as if it were there at once (`value_watchEvents`): what
is left of the bytes so far is the beginning of a line, and answers to lines one after the other are
the answers to all of them (`answerLines_append`).  What these answers are is said without the loop
by `answerLines_spec`.
-/

namespace UriRouting.CommandLine

/-! ## Loading -/

lemma toOption_openRouter (content : FileContent) :
    (openRouter content).run.value.toOption = (Router.ofFile content).run.value.toOption := by
  rw [openRouter, Router.ofFile, Attempt.value_bind, Attempt.value_bind, Attempt.value_ofExcept,
    Attempt.value_ofExcept]
  cases Table.ofFile content with
  | error fault => rfl
  | ok table =>
    simp only [Except.mapError, Attempt.value_adapt]
    cases (Router.ofTable table).run.value <;> rfl

lemma value_run (command : Command) (content : FileContent) (events : List Event) :
    (run command content events).value = match (openRouter content).run.value with
      | .error fault => .failed fault
      | .ok router => (carryOut router events command).value := by
  rw [run, Recorded.value_bind]
  cases (openRouter content).run.value <;> rfl

lemma run_of_ok {content : FileContent} {router : Router}
    (h : (Router.ofFile content).run.value = .ok router) (command : Command)
    (events : List Event) :
    (run command content events).value = (carryOut router events command).value := by
  have hopen : (openRouter content).run.value = .ok router := by
    rw [← Attempt.toOption_eq_some, toOption_openRouter, h]
    rfl
  rw [value_run, hopen]

lemma run_of_error {content : FileContent} {fault : LoadFault}
    (h : (Router.ofFile content).run.value = .error fault) (command : Command)
    (events : List Event) :
    ∃ fault, (run command content events).value = .failed fault := by
  cases hopen : (openRouter content).run.value with
  | error fault =>
    refine ⟨fault, ?_⟩
    rw [value_run, hopen]
  | ok router =>
    have hload := toOption_openRouter content
    rw [hopen, h] at hload
    cases hload

/-! ## Answers to lines -/

section Answers

variable (router : Router)

lemma value_answerLines_cons (line : List UInt8) (rest : List (List UInt8)) :
    (answerLines router (line :: rest)).value = match pathOf line with
      | .error fault => ([], some fault)
      | .ok path? =>
        (path?.toList.map (fun path => (answerPath router path).value) ++
          (answerLines router rest).value.1, (answerLines router rest).value.2) := by
  rw [answerLines]
  cases pathOf line with
  | error fault => rfl
  | ok path? => cases path? <;> rfl

/-- Lines after a line that is not UTF-8 are not answered. -/
lemma answerLines_append (first second : List (List UInt8)) :
    (answerLines router (first ++ second)).value =
      match (answerLines router first).value with
      | (lines, some fault) => (lines, some fault)
      | (lines, none) =>
        (lines ++ (answerLines router second).value.1, (answerLines router second).value.2) := by
  induction first with
  | nil => rfl
  | cons line first ih =>
    rw [List.cons_append, value_answerLines_cons, value_answerLines_cons, ih]
    cases pathOf line with
    | error fault => rfl
    | ok path? =>
      obtain ⟨lines, fault?⟩ := (answerLines router first).value
      cases fault? <;> simp

/-- Line feeds behind the lines change no answer. -/
lemma answerLines_lineFeeds (complete rest : List (List UInt8)) :
    (answerLines router (complete.map (· ++ [0x0A]) ++ rest)).value.1 =
        (answerLines router (complete ++ rest)).value.1 ∧
      (answerLines router (complete.map (· ++ [0x0A]) ++ rest)).value.2.isSome =
        (answerLines router (complete ++ rest)).value.2.isSome := by
  induction complete with
  | nil => exact ⟨rfl, rfl⟩
  | cons line complete ih =>
    rw [List.map_cons, List.cons_append, List.cons_append, value_answerLines_cons,
      value_answerLines_cons]
    have hpath := pathOf_concat_lineFeed line
    cases hline : pathOf line with
    | error fault =>
      -- the faults may differ, since one of them can be that the bytes end too early
      cases hlineFeed : pathOf (line ++ [0x0A]) with
      | error other => exact ⟨rfl, rfl⟩
      | ok path? =>
        rw [hline, hlineFeed] at hpath
        cases hpath
    | ok path? =>
      rw [hline] at hpath
      rw [Attempt.toOption_eq_some.mp hpath]
      obtain ⟨hlines, hfault⟩ := ih
      refine ⟨?_, hfault⟩
      simp only [hlines]

/-- Up to the first line that is not UTF-8, the path of each line that has one is answered. -/
lemma answerLines_spec (lines : List (List UInt8)) :
    ∃ (texts : List String) (rest : List (List UInt8)) (paths : List String),
      lines = texts.map Utf8.encode ++ rest ∧
      (∀ line ∈ rest.head?, ∀ text, line ≠ Utf8.encode text) ∧
      List.Forall₂ (fun text path => IsTrimmed text.toList path.toList) texts paths ∧
      (answerLines router lines).value.1 =
        (paths.filter (· ≠ "")).map (fun path => (answerPath router path).value) ∧
      ((answerLines router lines).value.2.isSome ↔ rest ≠ []) := by
  induction lines with
  | nil => exact ⟨[], [], [], rfl, by simp, .nil, rfl, by simp [answerLines]⟩
  | cons line lines ih =>
    cases hdecoded : Utf8.decode line with
    | error fault =>
      have hpath : pathOf line = .error fault := by
        rw [pathOf, hdecoded]
        rfl
      refine ⟨[], line :: lines, [], rfl, ?_, .nil, ?_, ?_⟩
      · intro first hfirst
        obtain rfl := Option.some.inj hfirst
        exact Utf8.exists_decode_eq_error.mp ⟨fault, hdecoded⟩
      · rw [value_answerLines_cons, hpath]
        rfl
      · rw [value_answerLines_cons, hpath]
        simp
    | ok text =>
      obtain rfl := Utf8.decode_eq_ok.mp hdecoded
      obtain ⟨texts, rest, paths, rfl, hrest, htrimmed, hlines, hfault⟩ := ih
      refine ⟨text :: texts, rest, String.ofList (trimBlank text.toList) :: paths, rfl, hrest,
        .cons ?_ htrimmed, ?_, ?_⟩
      · rw [String.toList_ofList]
        exact isTrimmed_trimBlank text.toList
      · rw [value_answerLines_cons, pathOf_encode, hlines]
        cases trimBlank text.toList <;> simp
      · rw [value_answerLines_cons, pathOf_encode]
        exact hfault

end Answers

/-! ## Watching -/

/-- The output of a run that has answered lines. -/
def Output.ofAnswers (answers : List String × Option Utf8.Fault) : Output :=
  ⟨answers.1, answers.2.map .input⟩

/-- What is left of a line that is not complete. -/
def Watch.left (w : Watch) (bytes : List UInt8) : List UInt8 :=
  ((linesOf (w.pending ++ bytes)).filter fun line => !isComplete line).flatten

lemma value_watchEvents_received (w : Watch) (bytes : List UInt8) (rest : List Event) :
    (watchEvents w (.received bytes :: rest)).value =
      match (answerLines w.feed.current
        ((linesOf (w.pending ++ bytes)).filter isComplete)).value with
      | (lines, some fault) => ⟨lines, some (.input fault)⟩
      | (lines, none) =>
        ⟨lines ++ (watchEvents { w with pending := w.left bytes } rest).value.lines,
          (watchEvents { w with pending := w.left bytes } rest).value.fault⟩ := by
  rw [watchEvents, Recorded.value_bind]
  simp only [Watch.receive, Recorded.value_bind, Recorded.value_pure]
  obtain ⟨lines, fault?⟩ :=
    (answerLines w.feed.current ((linesOf (w.pending ++ bytes)).filter isComplete)).value
  cases fault? <;> rfl

/-- However the input comes in, its lines are answered one after the other. -/
lemma value_watchEvents (w : Watch) (chunks : List (List UInt8)) :
    (watchEvents w (chunks.map Event.received ++ [.ended])).value =
      .ofAnswers (answerLines w.feed.current (linesOf (w.pending ++ chunks.flatten))).value := by
  induction chunks generalizing w with
  | nil =>
    rw [List.flatten_nil, List.append_nil]
    rfl
  | cons bytes chunks ih =>
    rw [List.map_cons, List.cons_append, value_watchEvents_received, ih, List.flatten_cons,
      ← List.append_assoc, linesOf_append (w.pending ++ bytes), answerLines_append]
    obtain ⟨lines, fault?⟩ :=
      (answerLines w.feed.current ((linesOf (w.pending ++ bytes)).filter isComplete)).value
    cases fault? <;> rfl

/-! ## Runs -/

lemma value_lookUp {content : FileContent} {router : Router}
    (h : (Router.ofFile content).run.value = .ok router) (table path : String)
    (events : List Event) :
    (run (.lookUp table [path]) content events).value =
      ⟨[(answerPath router path).value], none⟩ := by
  rw [run_of_ok h, carryOut]
  simp only [List.mapM_cons, List.mapM_nil]
  rfl

lemma value_watch {content : FileContent} {router : Router}
    (h : (Router.ofFile content).run.value = .ok router) (table : String)
    (chunks : List (List UInt8)) :
    (run (.watch table) content (chunks.map Event.received ++ [.ended])).value =
      .ofAnswers (answerLines router (linesOf chunks.flatten)).value := by
  rw [run_of_ok h, carryOut, value_watchEvents]
  rfl

/-- Where the table cannot be loaded, no command prints anything, and each fails.  Otherwise a run
that watches cuts its input at the line feeds, however it came in; what comes after the last one is
a line too unless it is empty.  It answers the lines before the first one that is not UTF-8: of each
text, in order, the white space around it is left away, and if something is left, the one line is
printed that is printed where this path is looked up.  The run fails if and only if there is a line
that is not UTF-8. -/
theorem run_refuses_or_answers (content : FileContent) :
    (∀ fault, (Router.ofFile content).run.value = .error fault → ∀ command events,
      (run command content events).value.text = "" ∧
      (run command content events).value.status = 1) ∧
    ∀ router, (Router.ofFile content).run.value = .ok router → ∀ table chunks,
      ∃ complete last texts rest paths,
        IsCut (List.flatten chunks) complete last ∧
        complete ++ lastLine last = texts.map Utf8.encode ++ rest ∧
        (∀ line ∈ rest.head?, ∀ text, line ≠ Utf8.encode text) ∧
        List.Forall₂ (fun text path => IsTrimmed text.toList path.toList) texts paths ∧
        List.Forall₂
          (fun path line => IsOneLine line ∧
            ∀ events, (run (.lookUp table [path]) content events).value = ⟨[line], none⟩)
          (paths.filter (· ≠ ""))
          (run (.watch table) content (chunks.map Event.received ++ [.ended])).value.lines ∧
        (run (.watch table) content (chunks.map Event.received ++ [.ended])).value.status =
          if rest = [] then 0 else 1 := by
  constructor
  · intro fault hfault command events
    obtain ⟨other, houtput⟩ := run_of_error hfault command events
    rw [houtput]
    exact ⟨rfl, rfl⟩
  · intro router hrouter table chunks
    obtain ⟨complete, last, hcut⟩ := exists_isCut (List.flatten chunks)
    obtain ⟨hlines, hfault⟩ := answerLines_lineFeeds router complete (lastLine last)
    obtain ⟨texts, rest, paths, hinput, hrest, htrimmed, hanswers, hstops⟩ :=
      answerLines_spec router (complete ++ lastLine last)
    refine ⟨complete, last, texts, rest, paths, hcut, hinput, hrest, htrimmed, ?_, ?_⟩
    · rw [value_watch hrouter, linesOf_of_isCut hcut, Output.ofAnswers, hlines, hanswers,
        List.forall₂_map_right_iff, List.forall₂_same]
      intro path _
      exact ⟨isOneLine_answer path _, value_lookUp hrouter table path⟩
    · rw [value_watch hrouter, linesOf_of_isCut hcut, Output.status, Output.ofAnswers,
        Option.isSome_map, hfault]
      by_cases hempty : rest = []
      · rw [if_pos hempty, if_neg]
        exact fun hsome => hstops.mp hsome hempty
      · rw [if_neg hempty, if_pos (hstops.mpr hempty)]

/-- A table with one route. -/
def pageTable : FileContent :=
  .ok (Utf8.encode "[[routes]]\ntemplate = \"/\x7bpage\x7d\"\ntarget = \"page\"\n")

/-- Five lines that come in as three pieces; the fourth is not UTF-8, and the last is not ended. -/
def fiveLines : List (List UInt8) :=
  [Utf8.encode "/a\n \n/", Utf8.encode "b\x0d\n" ++ [0xFF, 0x0A], Utf8.encode "/c"]

/-- Without a file nothing is printed.  Of five lines, those with a path before the one that is not
UTF-8 are answered, although one of them came in as two pieces. -/
theorem run_refuses_or_answers_fiveLines :
    (run (.check "table") (.error .missing) []).value.text = "" ∧
    (run (.watch "table") pageTable (fiveLines.map Event.received ++ [.ended])).value.lines =
      ["\x7b\"matched\":true,\"name\":null,\"params\":\x7b\"page\":\"a\"\x7d," ++
          "\"path\":\"/a\",\"target\":\"page\"\x7d",
        "\x7b\"matched\":true,\"name\":null,\"params\":\x7b\"page\":\"b\"\x7d," ++
          "\"path\":\"/b\",\"target\":\"page\"\x7d"] ∧
    ∃ complete last, IsCut fiveLines.flatten complete last ∧
      ∃ line ∈ complete ++ lastLine last, ∀ text, line ≠ Utf8.encode text := by
  obtain ⟨hrefused, -⟩ := run_refuses_or_answers (.error .missing)
  obtain ⟨-, hanswered⟩ := run_refuses_or_answers pageTable
  have hloads : (Router.ofFile pageTable).run.value.toOption.isSome := by decide +kernel
  have hfails : (run (.watch "table") pageTable
      (fiveLines.map Event.received ++ [.ended])).value.status = 1 := by
    decide +kernel
  obtain ⟨router, hrouter⟩ := Option.isSome_iff_exists.mp hloads
  obtain ⟨complete, last, texts, rest, paths, hcut, hinput, hrest, -, -, hstatus⟩ :=
    hanswered router (Attempt.toOption_eq_some.mp hrouter) "table" fiveLines
  refine ⟨(hrefused _ rfl (.check "table") []).1, by decide +kernel, complete, last, hcut, ?_⟩
  cases rest with
  | nil =>
    rw [hfails, if_pos rfl] at hstatus
    cases hstatus
  | cons line rest => exact ⟨line, by simp [hinput], hrest line rfl⟩

end UriRouting.CommandLine
