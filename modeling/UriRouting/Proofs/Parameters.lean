import Mathlib.Tactic
import UriRouting.Parameters

/-!
# The laws of parameters

Binding a sequence of entries gives each name the value of its last entry (`get?_insertAll`), and
what is bound twice leaves no trace of the first value (`insertAll_entries`).  So merging the
mappings of two sequences is binding the sequences one after the other (`merge_bindAll`), whatever
names they share.
-/

namespace UriRouting.Parameters

/-- The value of the last entry that has a name. -/
def lastValue (entries : List (String × String)) (name : String) : Option String :=
  (entries.reverse.find? fun e => e.1 == name).map Prod.snd

/-- The mapping that a sequence of entries makes up. -/
def bindAll (entries : List (String × String)) : Parameters := empty.insertAll entries

lemma bind_eq_bindAll (names values : List String) :
    bind names values = bindAll (names.zip values) := rfl

@[simp] lemma insertAll_nil (params : Parameters) : params.insertAll [] = params := rfl

lemma insertAll_append (params : Parameters) (first second : List (String × String)) :
    params.insertAll (first ++ second) = (params.insertAll first).insertAll second := by
  simp [insertAll, List.foldl_append]

lemma insertAll_concat (params : Parameters) (entries : List (String × String))
    (e : String × String) :
    params.insertAll (entries ++ [e]) = (params.insertAll entries).insert e.1 e.2 := by
  simp [insertAll]

/-! ## Values -/

@[simp] lemma get?_empty (name : String) : empty.get? name = none := rfl

@[simp] lemma lastValue_nil (name : String) : lastValue [] name = none := rfl

lemma lastValue_append (first second : List (String × String)) (name : String) :
    lastValue (first ++ second) name = (lastValue second name).or (lastValue first name) := by
  simp only [lastValue, List.reverse_append, List.find?_append]
  cases second.reverse.find? fun e => e.1 == name <;> simp

lemma lastValue_singleton (e : String × String) (name : String) :
    lastValue [e] name = if e.1 = name then some e.2 else none := by
  by_cases h : e.1 = name <;> simp [lastValue, h]

lemma get?_insert (params : Parameters) (name value other : String) :
    (params.insert name value).get? other =
      if name = other then some value else params.get? other := by
  simp only [get?, insert, List.find?_append]
  by_cases h : name = other
  · subst h
    have hnone :
        (params.entries.filter fun e => e.1 != name).find? (fun e => e.1 == name) = none := by
      rw [List.find?_eq_none]
      intro e he
      simpa using (List.mem_filter.mp he).2
    simp [hnone]
  · have hsame : (params.entries.filter fun e => e.1 != name).find? (fun e => e.1 == other) =
        params.entries.find? (fun e => e.1 == other) := by
      rw [List.find?_filter]
      congr 1
      funext e
      by_cases he : e.1 = other
      · simp [he, Ne.symm h]
      · simp [he]
    simp [hsame, h]

/-- Each name has the value of its last entry, or else the value that it had before. -/
lemma get?_insertAll (params : Parameters) (entries : List (String × String)) (name : String) :
    (params.insertAll entries).get? name = (lastValue entries name).or (params.get? name) := by
  induction entries using List.reverseRecOn with
  | nil => simp
  | append_singleton entries e ih =>
    rw [insertAll_concat, get?_insert, ih, lastValue_append, lastValue_singleton]
    split <;> simp

/-- Each name has the value of its last entry. -/
theorem get?_bindAll (entries : List (String × String)) (name : String) :
    (bindAll entries).get? name = lastValue entries name := by
  simp [bindAll, get?_insertAll]

lemma isSome_lastValue (entries : List (String × String)) (name : String) :
    (lastValue entries name).isSome = true ↔ name ∈ entries.map Prod.fst := by
  simp only [lastValue, Option.isSome_map, List.find?_isSome, List.mem_reverse, List.mem_map,
    beq_iff_eq]

lemma lastValue_eq_none {entries : List (String × String)} {name : String}
    (h : name ∉ entries.map Prod.fst) : lastValue entries name = none := by
  rw [← Option.not_isSome_iff_eq_none, isSome_lastValue]
  exact h

lemma lastValue_of_not_mem {names : List String} {name : String} (h : name ∉ names)
    (values : List String) : lastValue (names.zip values) name = none := by
  apply lastValue_eq_none
  intro hmem
  obtain ⟨e, he, rfl⟩ := List.mem_map.mp hmem
  exact h (List.of_mem_zip he).1

lemma mem_of_lastValue {entries : List (String × String)} {name value : String}
    (h : lastValue entries name = some value) : (name, value) ∈ entries := by
  obtain ⟨e, he, rfl⟩ := Option.map_eq_some_iff.mp h
  have hname : e.1 = name := by simpa using List.find?_some he
  have hmem : e ∈ entries := List.mem_reverse.mp (List.mem_of_find?_eq_some he)
  rwa [← hname]

lemma lastValue_of_last {before after : List (String × String)} {name value : String}
    (h : name ∉ after.map Prod.fst) :
    lastValue (before ++ (name, value) :: after) name = some value := by
  have hafter : lastValue after name = none := lastValue_eq_none h
  rw [← List.singleton_append, lastValue_append, lastValue_append, hafter, lastValue_singleton]
  simp

/-- The last value of a name is that of an entry after which the name does not occur. -/
lemma lastValue_eq_some_iff {entries : List (String × String)} {name value : String} :
    lastValue entries name = some value ↔
      ∃ before after, entries = before ++ (name, value) :: after ∧
        name ∉ after.map Prod.fst := by
  constructor
  · intro h
    obtain ⟨e, he, rfl⟩ := Option.map_eq_some_iff.mp h
    obtain ⟨hname, later, earlier, hentries, hlater⟩ := List.find?_eq_some_iff_append.mp he
    have hname : e.1 = name := by simpa using hname
    refine ⟨earlier.reverse, later.reverse, ?_, ?_⟩
    · rw [← hname, ← List.reverse_reverse entries, hentries]
      simp
    · rw [List.map_reverse, List.mem_reverse]
      intro hmem
      obtain ⟨other, hother, heq⟩ := List.mem_map.mp hmem
      simpa [heq] using hlater other hother
  · rintro ⟨before, after, rfl, hafter⟩
    exact lastValue_of_last hafter

/-- Names that are pairwise distinct keep the values that they are bound to. -/
theorem map_get?_bind {names values : List String} (hnames : names.Nodup)
    (hlength : values.length = names.length) :
    names.map (bind names values).get? = values.map some := by
  have hvalues : names.map (lastValue (names.zip values)) = values.map some := by
    induction names generalizing values with
    | nil =>
      obtain rfl : values = [] := List.eq_nil_of_length_eq_zero hlength
      rfl
    | cons name names ih =>
      cases values with
      | nil => cases hlength
      | cons value values =>
        obtain ⟨hfree, hnames⟩ := List.nodup_cons.mp hnames
        have hrest := ih hnames (Nat.succ.inj hlength)
        have hcons (other : String) : lastValue ((name :: names).zip (value :: values)) other =
            (lastValue (names.zip values) other).or
              (if name = other then some value else none) := by
          rw [List.zip_cons_cons, ← List.singleton_append, lastValue_append, lastValue_singleton]
        rw [List.map_cons, List.map_cons, hcons, lastValue_of_not_mem hfree, if_pos rfl,
          Option.none_or, ← hrest]
        refine congrArg (some value :: ·) (List.map_congr_left fun other hother => ?_)
        have hne : name ≠ other := fun h => hfree (h ▸ hother)
        rw [hcons, if_neg hne, Option.or_none]
  rw [← hvalues]
  exact List.map_congr_left fun name _ => get?_bindAll _ name

/-! ## Names -/

lemma mem_names_iff (params : Parameters) (name : String) :
    name ∈ params.names ↔ (params.get? name).isSome = true := by
  simp only [names, get?, Option.isSome_map, List.find?_isSome, List.mem_map, beq_iff_eq]

/-- Binding entries binds their names and no others. -/
theorem mem_names_bindAll (entries : List (String × String)) (name : String) :
    name ∈ (bindAll entries).names ↔ name ∈ entries.map Prod.fst := by
  rw [mem_names_iff, get?_bindAll, isSome_lastValue]

lemma nodup_names_insert {params : Parameters} (h : params.names.Nodup) (name value : String) :
    (params.insert name value).names.Nodup := by
  have hkept : ((params.entries.filter fun e => e.1 != name).map Prod.fst).Sublist params.names :=
    List.filter_sublist.map Prod.fst
  have hnew : name ∉ (params.entries.filter fun e => e.1 != name).map Prod.fst := by
    simp
  rw [names, insert, List.map_append, List.map_singleton, ← List.concat_eq_append]
  exact (h.sublist hkept).concat hnew

lemma nodup_names_bindAll (entries : List (String × String)) : (bindAll entries).names.Nodup := by
  induction entries using List.reverseRecOn with
  | nil => exact List.nodup_nil
  | append_singleton entries e ih =>
    rw [bindAll, insertAll_concat]
    exact nodup_names_insert ih e.1 e.2

/-- A mapping is as large as the number of different names that were bound. -/
theorem length_bindAll (entries : List (String × String)) :
    (bindAll entries).entries.length = (entries.map Prod.fst).toFinset.card := by
  have hnames : (bindAll entries).names.toFinset = (entries.map Prod.fst).toFinset := by
    ext name
    rw [List.mem_toFinset, List.mem_toFinset, mem_names_bindAll]
  rw [← hnames, List.toFinset_card_of_nodup (nodup_names_bindAll entries), names, List.length_map]

/-! ## Merging -/

/-- Forgets a name. -/
private def without (entries : List (String × String)) (name : String) : List (String × String) :=
  entries.filter fun e => e.1 != name

private lemma without_without (entries : List (String × String)) (name : String) :
    without (without entries name) name = without entries name := by
  simp [without]

private lemma without_comm (entries : List (String × String)) (name other : String) :
    without (without entries name) other = without (without entries other) name := by
  simp only [without, List.filter_filter, Bool.and_comm]

/-- Forgetting a name in the end is the same as never hearing of it. -/
private lemma without_insertAll (params : Parameters) (entries : List (String × String))
    (name : String) :
    without (params.insertAll entries).entries name =
      (insertAll ⟨without params.entries name⟩ (without entries name)).entries := by
  induction entries using List.reverseRecOn with
  | nil => rfl
  | append_singleton entries e ih =>
    have hsplit : without (entries ++ [e]) name = without entries name ++ without [e] name := by
      simp [without]
    have hinsert : (params.insertAll (entries ++ [e])).entries =
        without (params.insertAll entries).entries e.1 ++ [e] := by
      rw [insertAll_concat]
      rfl
    rw [hinsert, hsplit]
    by_cases h : e.1 = name
    · subst h
      have hnil : without [e] e.1 = [] := by simp [without]
      rw [hnil, List.append_nil, ← ih]
      simp [without]
    · have hone : without [e] name = [e] := by simp [without, h]
      rw [hone, insertAll_concat]
      change without (without _ e.1 ++ [e]) name = without _ e.1 ++ [e]
      rw [← ih, without_comm _ name e.1]
      simp [without, h]

/-- Binding entries anew does not bring back values that later entries replaced. -/
lemma insertAll_entries (params : Parameters) (entries : List (String × String)) :
    params.insertAll (bindAll entries).entries = params.insertAll entries := by
  induction entries using List.reverseRecOn with
  | nil => rfl
  | append_singleton entries e ih =>
    have hbind :
        (bindAll (entries ++ [e])).entries = without (bindAll entries).entries e.1 ++ [e] := by
      rw [bindAll, insertAll_concat]
      rfl
    rw [hbind, insertAll_concat, insertAll_concat]
    -- Both sides forget the name of `e` before they bind it.
    have hforget : without (params.insertAll (without (bindAll entries).entries e.1)).entries e.1 =
        without (params.insertAll entries).entries e.1 := by
      rw [without_insertAll, without_without, ← without_insertAll, ih]
    change Parameters.mk (without _ e.1 ++ [e]) = Parameters.mk (without _ e.1 ++ [e])
    rw [hforget]

/-- Merging two mappings is binding their entries one after the other. -/
theorem merge_bindAll (first second : List (String × String)) :
    (bindAll first).merge (bindAll second) = bindAll (first ++ second) := by
  rw [merge, insertAll_entries, bindAll, bindAll, insertAll_append]

end UriRouting.Parameters
