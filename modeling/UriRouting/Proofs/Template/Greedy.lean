import Mathlib.Tactic
import UriRouting.Proofs.Template.Filled
import UriRouting.Proofs.Template.Joined

/-!
# What a plain template captures

A plain template whose placeholders touch each other, or whose literals recur in the values, can
share out one path in many ways.  `SharesOut` says what all of them have in common, without regard
to how a match is found: the path is the literals of the template with values between them, and no
value is empty or has a slash.

The values that a match binds are the first ones in a fixed order: the first value is as long as
possible, then the second one, and so on (`captures_greediest`).  For tokens this is
`fit_eq_some_iff`, of which one half is that a fit shares out the text at all (`fit_spec`), and the
other that no way to share it out is better (`exists_fit_ge`).

So a template that need not take all of a path turns back for nothing but its own last letters.
Where the whole path can be taken it is taken, with the same values (`captures_full_iff_leading`).
What counts there is the number of slashes: all of them belong to the literals, so what a shorter
match leaves has none, and the last value could have had more of it (`exists_fits_longer`).
-/

namespace UriRouting

/-- The lengths of the values. -/
def Fit.lengths (f : Fit) : List Nat := f.values.map List.length

@[simp] lemma Fit.lengths_cons (value : List Char) (f : Fit) :
    (f.cons value).lengths = value.length :: f.lengths := rfl

namespace Token

/-- The text consists of the tokens, with the values in place of the slots, and what is left. -/
structure Fits (full : Bool) (tokens : List Token) (text : List Char) (f : Fit) : Prop where
  count : f.values.length = (names tokens).length
  nonempty : ∀ value ∈ f.values, value ≠ [] ∧ '/' ∉ value
  text_eq : text = fill tokens f.values ++ f.rest
  whole : full = true → f.rest = []

lemma fits_of_fit {full : Bool} {tokens : List Token} {text : List Char} {f : Fit}
    (h : fit full tokens text = some f) : Fits full tokens text f := by
  obtain ⟨htext, hcount, hvalues, hwhole⟩ := fit_spec h
  exact ⟨hcount, hvalues, htext, hwhole⟩

lemma Fits.leading {full : Bool} {tokens : List Token} {text : List Char} {f : Fit}
    (h : Fits full tokens text f) : Fits false tokens text f :=
  { h with whole := fun hfull => by cases hfull }

lemma fits_nil {full : Bool} {text : List Char} {f : Fit} (h : Fits full [] text f) :
    f = ⟨[], text⟩ ∧ (full = true → text = []) := by
  obtain ⟨values, rest⟩ := f
  obtain rfl : values = [] := List.eq_nil_of_length_eq_zero h.count
  obtain rfl : text = rest := h.text_eq
  exact ⟨rfl, h.whole⟩

lemma fits_letter {full : Bool} {c : Char} {rest : List Token} {text : List Char} {f : Fit}
    (h : Fits full (letter c :: rest) text f) : ∃ left, text = c :: left ∧ Fits full rest left f :=
  ⟨_, h.text_eq, by simpa [names] using h.count, h.nonempty, rfl, h.whole⟩

lemma fits_slot {full : Bool} {name : List Char} {rest : List Token} {text : List Char} {f : Fit}
    (h : Fits full (slot name :: rest) text f) :
    ∃ value left g, f = Fit.cons value g ∧ text = value ++ left ∧ value ≠ [] ∧ '/' ∉ value ∧
      Fits full rest left g := by
  obtain ⟨values, behind⟩ := f
  cases values with
  | nil => simpa [names] using h.count
  | cons value values =>
    obtain ⟨⟨hne, hslash⟩, hvalues⟩ := List.forall_mem_cons.mp h.nonempty
    refine ⟨value, fill rest values ++ behind, ⟨values, behind⟩, rfl, ?_, hne, hslash, ?_⟩
    · rw [h.text_eq, fill, List.append_assoc]
    · exact ⟨by simpa [names] using h.count, hvalues, rfl, h.whole⟩

/-! ## No fit is better -/

/-- If a slot can have some text, then it gets this text or a longer one. -/
lemma exists_longest_ge {next : List Char → Option Fit} {taken more left : List Char} {g : Fit}
    (htaken : '/' ∉ taken) (hne : more ≠ []) (hslash : '/' ∉ more) (hnext : next left = some g) :
    ∃ value f, longest next taken (more ++ left) = some (Fit.cons (taken ++ value) f) ∧
      (value = more ∧ f = g ∨ more.length < value.length) := by
  induction more generalizing taken with
  | nil => exact absurd rfl hne
  | cons c more ih =>
    simp only [List.mem_cons, not_or] at hslash
    obtain ⟨hc, hmore⟩ := hslash
    have hfree : '/' ∉ taken ++ [c] := by simp [htaken, hc]
    rw [List.cons_append, longest, if_neg (Ne.symm hc)]
    cases more with
    | nil =>
      -- The slot may have got more than this one character.
      cases hlonger : longest next (taken ++ [c]) left with
      | none => exact ⟨[c], g, by simp [hlonger, hnext], .inl ⟨rfl, rfl⟩⟩
      | some f =>
        obtain ⟨extra, f, rfl, hextra, -⟩ := longest_spec hlonger hfree
        have hlength : 0 < extra.length := List.length_pos_iff.mpr hextra
        exact ⟨c :: extra, f, by simp [hlonger], .inr (by simpa using hlength)⟩
    | cons d more =>
      obtain ⟨value, f, hlongest, hbetter⟩ := ih hfree (by simp) hmore
      refine ⟨c :: value, f, by rw [hlongest]; simp, ?_⟩
      rcases hbetter with ⟨rfl, rfl⟩ | hlength
      · exact .inl ⟨rfl, rfl⟩
      · exact .inr (by simpa using hlength)

/-- If a text can be shared out, then it is shared out, and in no worse way. -/
lemma exists_fit_ge {full : Bool} {tokens : List Token} {text : List Char} {g : Fit}
    (h : Fits full tokens text g) :
    ∃ f, fit full tokens text = some f ∧ (g = f ∨ g.lengths < f.lengths) := by
  induction tokens generalizing text g with
  | nil =>
    obtain ⟨rfl, hwhole⟩ := fits_nil h
    refine ⟨⟨[], text⟩, ?_, .inl rfl⟩
    cases full with
    | false => rfl
    | true => rw [hwhole rfl]; rfl
  | cons t rest ih =>
    cases t with
    | letter c =>
      obtain ⟨left, rfl, hrest⟩ := fits_letter h
      obtain ⟨f, hf, hbetter⟩ := ih hrest
      exact ⟨f, by rw [fit, if_pos rfl, hf], hbetter⟩
    | slot name =>
      obtain ⟨value, left, g, rfl, rfl, hne, hslash, hrest⟩ := fits_slot h
      obtain ⟨f, hf, hbetter⟩ := ih hrest
      obtain ⟨longer, f', hlongest, hlonger⟩ :=
        exists_longest_ge (by simp : '/' ∉ []) hne hslash hf
      refine ⟨Fit.cons longer f', by rw [fit, hlongest, List.nil_append], ?_⟩
      simp only [Fit.lengths_cons, List.cons_lt_cons_iff]
      -- The first values settle it, unless they are the same.
      rcases hlonger with ⟨rfl, rfl⟩ | hlength
      · rcases hbetter with rfl | hless
        · exact .inl rfl
        · exact .inr (.inr ⟨rfl, hless⟩)
      · exact .inr (.inl hlength)

/-- Of all ways to share out a text, tokens fit it in the one with the longest first value, then the
longest second one, and so on; if there is any way, they fit. -/
theorem fit_eq_some_iff {full : Bool} {tokens : List Token} {text : List Char} {f : Fit} :
    fit full tokens text = some f ↔
      Fits full tokens text f ∧ ∀ g, Fits full tokens text g → g = f ∨ g.lengths < f.lengths := by
  constructor
  · intro h
    refine ⟨fits_of_fit h, ?_⟩
    intro g hg
    obtain ⟨f', hf', hbetter⟩ := exists_fit_ge hg
    obtain rfl : f = f' := Option.some.inj (h.symm.trans hf')
    exact hbetter
  · rintro ⟨hfits, hbest⟩
    obtain ⟨f', hf', hbetter⟩ := exists_fit_ge hfits
    rcases hbetter with rfl | hless
    · exact hf'
    · -- Neither can be better than the other.
      rcases hbest f' (fits_of_fit hf') with rfl | hmore
      · exact hf'
      · exact absurd (hless.trans hmore) (lt_irrefl _)

/-! ## Slashes -/

lemma count_slash_fill {tokens : List Token} {values : List (List Char)}
    (hcount : values.length = (names tokens).length) (hvalues : ∀ value ∈ values, '/' ∉ value) :
    (fill tokens values).count '/' = tokens.count (letter '/') := by
  induction tokens generalizing values with
  | nil => rfl
  | cons t rest ih =>
    cases t with
    | letter c =>
      rw [fill, List.count_cons, List.count_cons, ih (by simpa [names] using hcount) hvalues]
      simp
    | slot name =>
      cases values with
      | nil => simp [names] at hcount
      | cons value values =>
        obtain ⟨hvalue, hvalues⟩ := List.forall_mem_cons.mp hvalues
        rw [fill, List.count_append, List.count_eq_zero.mpr hvalue,
          ih (by simpa [names] using hcount) hvalues, List.count_cons_of_ne (by simp), Nat.zero_add]

/-- Tokens are letters, or they end with a slot and some letters. -/
lemma exists_last_slot (tokens : List Token) :
    (∃ letters : List Char, tokens = letters.map letter) ∨
      ∃ before name, ∃ letters : List Char, tokens = before ++ slot name :: letters.map letter := by
  induction tokens with
  | nil => exact .inl ⟨[], rfl⟩
  | cons t rest ih =>
    rcases ih with ⟨letters, rfl⟩ | ⟨before, name, letters, rfl⟩
    · cases t with
      | letter c => exact .inl ⟨c :: letters, rfl⟩
      | slot name => exact .inr ⟨[], name, letters, rfl⟩
    · exact .inr ⟨t :: before, name, letters, rfl⟩

lemma exists_fill_last {before : List Token} {name letters : List Char}
    {values : List (List Char)}
    (hcount : values.length = (names (before ++ slot name :: letters.map letter)).length) :
    ∃ earlier value, values = earlier ++ [value] ∧ ∀ other,
      fill (before ++ slot name :: letters.map letter) (earlier ++ [other]) =
        fill before earlier ++ (other ++ letters) := by
  have hnames : names (before ++ slot name :: letters.map letter) = names before ++ [name] := by
    rw [names_append, ← names_map_letter letters]
    rfl
  rw [hnames, List.length_append, List.length_singleton] at hcount
  rcases List.eq_nil_or_concat' values with rfl | ⟨earlier, value, rfl⟩
  · cases hcount
  · have hearlier : earlier.length = (names before).length := by simpa using hcount
    refine ⟨earlier, value, rfl, ?_⟩
    intro other
    have hletters := fill_map_letter_append letters [] []
    simp only [List.append_nil, fill] at hletters
    rw [fill_append hearlier, fill, hletters]

/-- If all of a text can be shared out, then no slash is left over by any way to share out a
beginning of it: there are as many slashes as letters that are one. -/
lemma Fits.slash_not_mem_rest {tokens : List Token} {text : List Char} {f g : Fit}
    (hf : Fits true tokens text f) (hg : Fits false tokens text g) : '/' ∉ g.rest := by
  have hall := count_slash_fill hf.count fun value hvalue => (hf.nonempty value hvalue).2
  have hsome := count_slash_fill hg.count fun value hvalue => (hg.nonempty value hvalue).2
  have hwhole := congrArg (List.count '/') hf.text_eq
  have htext := congrArg (List.count '/') hg.text_eq
  rw [hf.whole rfl, List.append_nil, hall] at hwhole
  rw [List.count_append, hsome, hwhole] at htext
  exact List.count_eq_zero.mp (by omega)

/-- A text that ends with some letters, and also with these letters and more behind them, has
something in front of its last letters: as much as stood behind them, and with no slash unless there
was one. -/
lemma exists_before_letters {letters rest text : List Char} (hend : letters <:+ text)
    (hrest : letters ++ rest <:+ text) :
    ∃ more, more ++ letters = letters ++ rest ∧ more.length = rest.length ∧
      ('/' ∉ rest → '/' ∉ more) := by
  obtain ⟨more, hmore⟩ := List.suffix_of_suffix_length_le hend hrest (by simp)
  have hlength := congrArg List.length hmore
  have hcount := congrArg (List.count '/') hmore
  simp only [List.length_append] at hlength
  rw [List.count_append, List.count_append] at hcount
  refine ⟨more, hmore, by omega, ?_⟩
  intro hfree
  rw [← List.count_eq_zero] at hfree ⊢
  omega

/-- If all of a text can be shared out, then any way that leaves some of it is not the best one: the
last slot can have more. -/
lemma exists_fits_longer {tokens : List Token} {text : List Char} {f g : Fit}
    (hf : Fits true tokens text f) (hg : Fits false tokens text g) (hrest : g.rest ≠ []) :
    ∃ longer, Fits true tokens text longer ∧ g.lengths < longer.lengths := by
  have hslash := hf.slash_not_mem_rest hg
  have hwhole := hf.text_eq
  have htext := hg.text_eq
  rw [hf.whole rfl, List.append_nil] at hwhole
  rcases exists_last_slot tokens with ⟨letters, rfl⟩ | ⟨before, name, letters, rfl⟩
  · -- Without slots there is only one text that the tokens make up.
    have hfill (values : List (List Char)) : fill (letters.map letter) values = letters := by
      simpa [fill] using fill_map_letter_append letters [] values
    rw [hwhole, hfill, hfill, List.self_eq_append_right] at htext
    exact absurd htext hrest
  · obtain ⟨earlier, value, hvalues, hfill⟩ := exists_fill_last hg.count
    obtain ⟨start, last, hstart, hends⟩ := exists_fill_last hf.count
    rw [hstart, hends, ← List.append_assoc] at hwhole
    rw [hvalues, hfill, List.append_assoc, List.append_assoc, ← List.append_assoc] at htext
    -- What `g` leaves behind the last letters, the last value can have in front of them.
    obtain ⟨more, hmore, hlength, hfree⟩ :=
      exists_before_letters ⟨_, hwhole.symm⟩ ⟨_, htext.symm⟩
    obtain ⟨hne, hvalue⟩ := hg.nonempty value (by simp [hvalues])
    refine ⟨⟨earlier ++ [value ++ more], []⟩, ⟨?_, ?_, ?_, fun _ => rfl⟩, ?_⟩
    · rw [← hg.count, hvalues]
      simp
    · intro v hv
      rcases List.mem_append.mp hv with hv | hv
      · exact hg.nonempty v (by simp [hvalues, hv])
      · obtain rfl := List.mem_singleton.mp hv
        exact ⟨by simp [hne], by simp [hvalue, hfree hslash]⟩
    · rw [hfill, htext, ← hmore]
      simp
    · have hmore : value.length < (value ++ more).length := by
        have hpos := List.length_pos_iff.mpr hrest
        rw [List.length_append]
        omega
      rw [Fit.lengths, Fit.lengths, hvalues, List.map_append, List.map_append]
      exact List.append_left_lt (List.cons_lt_cons_iff.mpr (.inl hmore))

/-- Tokens that fit all of a text fit it the same way if they are free to leave some. -/
theorem fit_full_eq (tokens : List Token) (text : List Char) :
    fit true tokens text = (fit false tokens text).filter fun f => f.rest.isEmpty := by
  apply Option.ext
  intro f
  rw [Option.filter_eq_some_iff, List.isEmpty_iff, fit_eq_some_iff, fit_eq_some_iff]
  constructor
  · rintro ⟨hf, hbest⟩
    refine ⟨⟨hf.leading, ?_⟩, hf.whole rfl⟩
    intro g hg
    by_cases hrest : g.rest = []
    · exact hbest g { hg with whole := fun _ => hrest }
    · obtain ⟨longer, hlonger, hless⟩ := exists_fits_longer hf hg hrest
      rcases hbest longer hlonger with rfl | hmore
      · exact .inr hless
      · exact .inr (hless.trans hmore)
  · rintro ⟨⟨hf, hbest⟩, hrest⟩
    exact ⟨{ hf with whole := fun _ => hrest }, fun g hg => hbest g hg.leading⟩

end Token

/-! ## Paths -/

/-- The path consists of the literals, with a value for each placeholder between them, and of the
rest.  No value is empty or has a slash, and where all of the path is to be taken there is no rest.
-/
structure SharesOut (anchoring : Anchoring) (segments : List Segment) (path : String)
    (values : List String) (rest : String) : Prop where
  count : values.length = (Segment.bodies segments).length
  nonempty : ∀ value ∈ values, value ≠ "" ∧ '/' ∉ value.toList
  path_eq : path = interleave (Segment.literals segments) values ++ rest
  whole : anchoring = .full → rest = ""

/-- To share out a path among segments is to share out its characters among their tokens. -/
lemma sharesOut_iff {template : String} {segments : List Segment}
    (hsplit : Segment.split template.toList = .ok segments) {anchoring : Anchoring} {path : String}
    {values : List String} {rest : String} :
    SharesOut anchoring segments path values rest ↔
      Token.Fits (decide (anchoring = .full)) (tokensOf template) path.toList
        ⟨values.map String.toList, rest.toList⟩ := by
  obtain ⟨hsegments, -⟩ := Segment.split_eq_ok_iff.mp hsplit
  have hnames : Token.names (tokensOf template) = Segment.bodies segments := by
    rw [tokensOf_of_split hsplit, Segment.names_tokens]
  have hfill (hcount : values.length = (Segment.bodies segments).length) :
      (interleave (Segment.literals segments) values).toList =
        Token.fill (tokensOf template) (values.map String.toList) := by
    rw [← Segment.fill_eq_interleave hsegments hcount, String.toList_ofList,
      Segment.fill_eq_fill_tokens segments values hcount, tokensOf_of_split hsplit]
  constructor
  · intro h
    refine ⟨?_, ?_, ?_, ?_⟩
    · rw [List.length_map, hnames, h.count]
    · intro text htext
      obtain ⟨value, hvalue, rfl⟩ := List.mem_map.mp htext
      simpa using h.nonempty value hvalue
    · rw [h.path_eq, String.toList_append, hfill h.count]
    · intro hfull
      rw [h.whole (of_decide_eq_true hfull)]
      rfl
  · intro h
    have hcount : values.length = (Segment.bodies segments).length := by
      rw [← hnames, ← h.count, List.length_map]
    refine ⟨hcount, ?_, ?_, ?_⟩
    · intro value hvalue
      simpa using h.nonempty value.toList (List.mem_map_of_mem hvalue)
    · apply String.toList_inj.mp
      rw [String.toList_append, hfill hcount]
      exact h.text_eq
    · intro hfull
      apply String.toList_inj.mp
      exact h.whole (decide_eq_true hfull)

namespace Matchable

/-- A plain template is found in a path if the path can be shared out.  The values are then those of
the way with the longest first value, among these the one with the longest second value, and so on,
and each name has the value of its last placeholder. -/
theorem captures_greediest {template : String} {segments : List Segment}
    (hsplit : Segment.split template.toList = .ok segments) (hplain : IsPlain template)
    {anchoring : Anchoring} {m : Matchable}
    (h : (compile template anchoring).run.value = .ok m) (path : String) :
    ((∃ hit, m.captures path = some hit) ↔
      ∃ values rest, SharesOut anchoring segments path values rest) ∧
    ∀ hit, m.captures path = some hit → ∃ values,
      SharesOut anchoring segments path values hit.remainder ∧
      (∀ others rest, SharesOut anchoring segments path others rest →
        others = values ∧ rest = hit.remainder ∨
          others.map String.length < values.map String.length) ∧
      ∀ name, hit.params.get? name = Parameters.lastValue
        (((Segment.bodies segments).map String.ofList).zip values) name := by
  have hnames : Token.names (tokensOf template) = Segment.bodies segments := by
    rw [tokensOf_of_split hsplit, Segment.names_tokens]
  rw [eq_ofPlain_of_compile hplain h, captures_ofPlain]
  constructor
  · constructor
    · rintro ⟨hit, hhit⟩
      obtain ⟨f, hf, -⟩ := Option.map_eq_some_iff.mp hhit
      refine ⟨f.values.map String.ofList, String.ofList f.rest, ?_⟩
      rw [sharesOut_iff hsplit]
      simpa using Token.fits_of_fit hf
    · rintro ⟨values, rest, hshares⟩
      rw [sharesOut_iff hsplit] at hshares
      obtain ⟨f, hf, -⟩ := Token.exists_fit_ge hshares
      exact ⟨_, by rw [hf]; rfl⟩
  · intro hit hhit
    obtain ⟨f, hf, rfl⟩ := Option.map_eq_some_iff.mp hhit
    obtain ⟨hfits, hbest⟩ := Token.fit_eq_some_iff.mp hf
    refine ⟨f.values.map String.ofList, ?_, ?_, ?_⟩
    · rw [sharesOut_iff hsplit]
      simpa using hfits
    · intro others rest hothers
      rw [sharesOut_iff hsplit] at hothers
      rcases hbest _ hothers with hsame | hless
      · left
        rw [← hsame]
        simp
      · right
        simpa [Fit.lengths, Function.comp_def, String.length_toList] using hless
    · intro name
      rw [Parameters.get?_bindAll, Token.bindings, hnames]

/-- Placeholders that touch each other, and a name that is used twice. -/
def touchingTemplate : String := "/\x7ba\x7d\x7bb\x7d-\x7ba\x7d"

/-- The segments of `touchingTemplate`. -/
def touchingSegments : List Segment :=
  [.literal ['/'], .placeholder ['a'], .literal [], .placeholder ['b'], .literal ['-'],
    .placeholder ['a'], .literal []]

lemma sharesOut_touchingSegments :
    SharesOut .leading touchingSegments "/x-yz-u-v/w" ["x-yz-", "u", "v"] "/w" where
  count := rfl
  nonempty := by decide
  path_eq := by decide
  whole h := by cases h

/-- `touchingTemplate` is found in a path in the best of several ways. -/
theorem captures_greediest_touching : ∃ m,
    Segment.split touchingTemplate.toList = .ok touchingSegments ∧ IsPlain touchingTemplate ∧
    (compile touchingTemplate .leading).run.value = .ok m ∧
    ∃ hit, m.captures "/x-yz-u-v/w" = some hit ∧ ∃ values,
      SharesOut .leading touchingSegments "/x-yz-u-v/w" values hit.remainder ∧
      (∀ others rest, SharesOut .leading touchingSegments "/x-yz-u-v/w" others rest →
        others = values ∧ rest = hit.remainder ∨
          others.map String.length < values.map String.length) ∧
      ∀ name, hit.params.get? name = Parameters.lastValue (["a", "b", "a"].zip values) name := by
  have hsplit : Segment.split touchingTemplate.toList = .ok touchingSegments := by decide +kernel
  have hplain : IsPlain touchingTemplate := by decide +kernel
  obtain ⟨m, hm⟩ : ∃ m, (compile touchingTemplate .leading).run.value.toOption = some m :=
    Option.isSome_iff_exists.mp (by decide +kernel)
  rw [Attempt.toOption_eq_some] at hm
  obtain ⟨hfound, hvalues⟩ := captures_greediest hsplit hplain hm "/x-yz-u-v/w"
  obtain ⟨hit, hhit⟩ := hfound.mpr ⟨_, _, sharesOut_touchingSegments⟩
  exact ⟨m, hsplit, hplain, hm, hit, hhit, hvalues hit hhit⟩

/-- Compiled for the beginning of a path, a plain template takes the whole path whenever it takes it
if compiled for the whole path, and with the same parameters; in all other paths in which it is
found it leaves something. -/
theorem captures_full_iff_leading {template : String} (hplain : IsPlain template)
    {whole beginning : Matchable} (hwhole : (compile template .full).run.value = .ok whole)
    (hbeginning : (compile template .leading).run.value = .ok beginning) (path : String)
    (hit : PathMatch) :
    whole.captures path = some hit ↔
      beginning.captures path = some hit ∧ hit.remainder = "" := by
  have hfull : decide (Anchoring.full = .full) = true := rfl
  have hleading : decide (Anchoring.leading = .full) = false := rfl
  rw [eq_ofPlain_of_compile hplain hwhole, eq_ofPlain_of_compile hplain hbeginning,
    captures_ofPlain, captures_ofPlain, hfull, hleading, Token.fit_full_eq]
  constructor
  · intro h
    obtain ⟨f, hf, rfl⟩ := Option.map_eq_some_iff.mp h
    obtain ⟨hfit, hrest⟩ := Option.filter_eq_some_iff.mp hf
    have hend : f.rest = [] := List.isEmpty_iff.mp hrest
    rw [hfit]
    exact ⟨rfl, by rw [hend]⟩
  · rintro ⟨h, hrest⟩
    obtain ⟨f, hf, rfl⟩ := Option.map_eq_some_iff.mp h
    have hend : f.rest = [] := by simpa using congrArg String.toList hrest
    rw [hf]
    simp [hend]

/-- Either way `touchingTemplate` takes all of a path that ends with its last value. -/
theorem captures_full_iff_leading_touching : ∃ whole beginning hit,
    IsPlain touchingTemplate ∧ (compile touchingTemplate .full).run.value = .ok whole ∧
    (compile touchingTemplate .leading).run.value = .ok beginning ∧
    whole.captures "/x-yz-u-v" = some hit ∧ beginning.captures "/x-yz-u-v" = some hit ∧
      hit.remainder = "" := by
  have hplain : IsPlain touchingTemplate := by decide +kernel
  obtain ⟨whole, hwhole⟩ : ∃ m, (compile touchingTemplate .full).run.value.toOption = some m :=
    Option.isSome_iff_exists.mp (by decide +kernel)
  obtain ⟨beginning, hbeginning⟩ :
      ∃ m, (compile touchingTemplate .leading).run.value.toOption = some m :=
    Option.isSome_iff_exists.mp (by decide +kernel)
  rw [Attempt.toOption_eq_some] at hwhole hbeginning
  obtain ⟨hit, hhit⟩ : ∃ hit, whole.captures "/x-yz-u-v" = some hit := by
    rw [eq_ofPlain_of_compile hplain hwhole]
    exact Option.isSome_iff_exists.mp (by decide +kernel)
  have hboth := captures_full_iff_leading hplain hwhole hbeginning "/x-yz-u-v" hit
  exact ⟨whole, beginning, hit, hplain, hwhole, hbeginning, hhit, hboth.mp hhit⟩

end Matchable

end UriRouting
