import Mathlib.Tactic
import UriRouting.Proofs.Attempt
import UriRouting.Proofs.Router.SearchOrder
import UriRouting.Router.OfTable

/-!
# Merging layer by layer

Each template on the way down to a route binds a layer of its own: its names, and a value for each
of them.  Names may repeat within a layer and from one layer to the next.  A lookup merges the
layers on its way back up, from the innermost one outwards; a reader who follows the path would
merge them from the outermost one inwards.

Both give the mapping that binds all names of all layers at once (`mergeInward_eq`,
`mergeOutward_eq`), because merging two layers is binding the second one after the first
(`bound_append`).  So what a name is bound to depends on its last position in all the layers only
(`get?_bound_eq_some_iff`), and neither on the way in which the layers are nested nor on the order
in which they are merged.
-/

namespace UriRouting

/-- Names with a value for each, as one template binds them. -/
structure Layer where
  names : List String
  values : List String
  length_eq : values.length = names.length

namespace Layer

/-- The mapping that a layer makes up. -/
def bound (layer : Layer) : Parameters := Parameters.bind layer.names layer.values

/-- A layer without names. -/
def empty : Layer := ⟨[], [], rfl⟩

/-- One layer inside another, as a single one. -/
def append (outer inner : Layer) : Layer where
  names := outer.names ++ inner.names
  values := outer.values ++ inner.values
  length_eq := by rw [List.length_append, List.length_append, outer.length_eq, inner.length_eq]

/-- All layers, the outermost first, as a single one. -/
def join (layers : List Layer) : Layer := layers.foldr append empty

/-- Merges layers from the outermost one inwards. -/
def mergeInward (layers : List Layer) : Parameters :=
  layers.foldl (fun params layer => params.merge layer.bound) Parameters.empty

/-- Merges layers from the innermost one outwards. -/
def mergeOutward : List Layer → Parameters
  | [] => Parameters.empty
  | layer :: inner => layer.bound.merge (mergeOutward inner)

/-! ## Merging is binding at once -/

/-- The names of a layer, each with its value. -/
def entries (layer : Layer) : List (String × String) := layer.names.zip layer.values

lemma bound_eq_bindAll (layer : Layer) : layer.bound = Parameters.bindAll layer.entries := rfl

lemma entries_append (outer inner : Layer) :
    (outer.append inner).entries = outer.entries ++ inner.entries :=
  List.zip_append outer.length_eq.symm

lemma map_fst_entries (layer : Layer) : layer.entries.map Prod.fst = layer.names :=
  List.map_fst_zip layer.length_eq.ge

/-- Merging two layers is binding the names of the second after those of the first. -/
theorem bound_append (outer inner : Layer) :
    outer.bound.merge inner.bound = (outer.append inner).bound := by
  rw [bound_eq_bindAll, bound_eq_bindAll, bound_eq_bindAll, entries_append,
    Parameters.merge_bindAll]

lemma append_assoc (first second third : Layer) :
    (first.append second).append third = first.append (second.append third) := by
  simp [append]

lemma append_empty (layer : Layer) : layer.append empty = layer := by
  simp [append, empty]

lemma foldl_merge_bound (outer : Layer) (layers : List Layer) :
    layers.foldl (fun params layer => params.merge layer.bound) outer.bound =
      (outer.append (join layers)).bound := by
  induction layers generalizing outer with
  | nil => rw [List.foldl_nil, join, List.foldr_nil, append_empty]
  | cons layer inner ih =>
    rw [List.foldl_cons, bound_append, ih, append_assoc]
    rfl

theorem mergeInward_eq (layers : List Layer) : mergeInward layers = (join layers).bound :=
  foldl_merge_bound empty layers

theorem mergeOutward_eq (layers : List Layer) : mergeOutward layers = (join layers).bound := by
  induction layers with
  | nil => rfl
  | cons layer inner ih =>
    rw [mergeOutward, ih, bound_append]
    rfl

/-! ## What the mapping says -/

/-- A name is bound to the value at its last position. -/
theorem get?_bound_eq_some_iff {layer : Layer} {name value : String} :
    layer.bound.get? name = some value ↔
      ∃ i : Nat, layer.names[i]? = some name ∧ layer.values[i]? = some value ∧
        name ∉ layer.names.drop (i + 1) := by
  rw [bound_eq_bindAll, Parameters.get?_bindAll, Parameters.lastValue_eq_some_iff]
  constructor
  · rintro ⟨before, after, hentries, hafter⟩
    have hlast : layer.entries[before.length]? = some (name, value) := by simp [hentries]
    obtain ⟨hname, hvalue⟩ := List.getElem?_zip_eq_some.mp hlast
    refine ⟨before.length, hname, hvalue, ?_⟩
    rw [← map_fst_entries, ← List.map_drop, hentries]
    simpa using hafter
  · rintro ⟨i, hname, hvalue, hafter⟩
    have hlast : layer.entries[i]? = some (name, value) :=
      List.getElem?_zip_eq_some.mpr ⟨hname, hvalue⟩
    obtain ⟨hi, hget⟩ := List.getElem?_eq_some_iff.mp hlast
    refine ⟨layer.entries.take i, layer.entries.drop (i + 1), ?_, ?_⟩
    · rw [← hget, ← List.drop_eq_getElem_cons hi, List.take_append_drop]
    · rwa [List.map_drop, map_fst_entries]

lemma mem_names_bound {layer : Layer} {name : String} :
    name ∈ layer.bound.names ↔ name ∈ layer.names := by
  rw [bound_eq_bindAll, Parameters.mem_names_bindAll, map_fst_entries]

lemma names_join (layers : List Layer) : (join layers).names = layers.flatMap Layer.names := by
  induction layers with
  | nil => rfl
  | cons layer inner ih =>
    rw [List.flatMap_cons, ← ih]
    rfl

lemma values_join (layers : List Layer) : (join layers).values = layers.flatMap Layer.values := by
  induction layers with
  | nil => rfl
  | cons layer inner ih =>
    rw [List.flatMap_cons, ← ih]
    rfl

/-! ## The layers of a lookup -/

/-- Several templates are found one after the other, each in what the one before it left of a path,
and each binds its parameters as a layer. -/
inductive BoundAlong : List Matchable → String → List Layer → Prop
  | nil (path : String) : BoundAlong [] path []
  | cons {m : Matchable} {chain : List Matchable} {path : String} {hit : PathMatch} {layer : Layer}
      {inner : List Layer} (found : m.captures path = some hit) (names : layer.names = m.parameters)
      (bound : hit.params = layer.bound) (rest : BoundAlong chain hit.remainder inner) :
      BoundAlong (m :: chain) path (layer :: inner)

lemma exists_of_captures {m : Matchable} {path : String} {hit : PathMatch}
    (h : m.captures path = some hit) :
    ∃ layer : Layer, layer.names = m.parameters ∧ hit.params = layer.bound ∧
      m.captured path = layer.entries := by
  obtain ⟨trail, htrail, rfl⟩ := Option.map_eq_some_iff.mp h
  let values := (List.range m.parameters.length).map fun i =>
    String.ofList (trail.groupText path.toList (i + 1))
  exact ⟨⟨m.parameters, values, by simp [values]⟩, rfl, rfl, Matchable.captured_of_search htrail⟩

/-- What templates capture along a path is what they bind, layer by layer. -/
lemma exists_boundAlong {chain : List Matchable} {path : String}
    {captured : List (List (String × String))} (h : layersAlong chain path = some captured) :
    ∃ layers, BoundAlong chain path layers ∧ captured.flatten = (join layers).entries := by
  induction chain generalizing path captured with
  | nil =>
    obtain rfl := Option.some.inj h
    exact ⟨[], .nil path, rfl⟩
  | cons m chain ih =>
    obtain ⟨hit, rest, hhit, hrest, rfl⟩ := layersAlong_cons h
    obtain ⟨inner, hinner, hflat⟩ := ih hrest
    obtain ⟨layer, hnames, hbound, hcaptured⟩ := exists_of_captures hhit
    refine ⟨layer :: inner, .cons hhit hnames hbound hinner, ?_⟩
    rw [List.flatten_cons, hflat, hcaptured]
    exact (entries_append layer (join inner)).symm

/-- A lookup merges what the templates on the way down to its route bind, from the innermost one
outwards. -/
theorem params_of_lookup {r : Router} {path : String} {found : Found}
    (h : r.lookup path = some found) :
    ∃ e ∈ r.searchOrder, ∃ layers, found.route = e.route ∧ BoundAlong e.chain path layers ∧
      found.params = mergeOutward layers := by
  rw [Router.lookup_eq_findSome?] at h
  obtain ⟨e, he, hfound⟩ := List.exists_of_findSome?_eq_some h
  obtain ⟨captured, hcaptured, rfl⟩ := Option.map_eq_some_iff.mp hfound
  obtain ⟨layers, hlayers, hflat⟩ := exists_boundAlong hcaptured
  refine ⟨e, he, layers, rfl, hlayers, ?_⟩
  rw [mergeOutward_eq, bound_eq_bindAll, ← hflat]

/-- Merging two layers is binding their names and values one after the other.  So any number of
layers can be merged from the outermost one inwards or from the innermost one outwards, as a lookup
does it: the mapping is the same, it binds the names that occur in some layer, each once, and it
gives each of them the value at its last position in all the layers. -/
theorem merge_eq_bind_append :
    (∀ outer inner : Layer,
      (Parameters.bind outer.names outer.values).merge (Parameters.bind inner.names inner.values) =
        Parameters.bind (outer.names ++ inner.names) (outer.values ++ inner.values)) ∧
    (∀ layers : List Layer, mergeInward layers = mergeOutward layers ∧
      (mergeOutward layers).names.Nodup ∧
      (∀ name, name ∈ (mergeOutward layers).names ↔ ∃ layer ∈ layers, name ∈ layer.names) ∧
      ∀ name value, (mergeOutward layers).get? name = some value ↔
        ∃ i : Nat, (layers.flatMap Layer.names)[i]? = some name ∧
          (layers.flatMap Layer.values)[i]? = some value ∧
          name ∉ (layers.flatMap Layer.names).drop (i + 1)) ∧
    ∀ (r : Router) (path : String) (found : Found), (r.find path).value = some found →
      ∃ e ∈ r.searchOrder, ∃ layers, found.route = e.route ∧ BoundAlong e.chain path layers ∧
        found.params = mergeOutward layers := by
  refine ⟨bound_append, ?_, fun r path found => params_of_lookup⟩
  intro layers
  rw [mergeInward_eq, mergeOutward_eq, ← names_join, ← values_join]
  refine ⟨rfl, Parameters.nodup_names_bindAll _, ?_, fun name value => get?_bound_eq_some_iff⟩
  intro name
  rw [mem_names_bound, names_join, List.mem_flatMap]

/-- The route has a placeholder of the same name as the router around it. -/
def shadowingTable : Table where
  routers := [{ mount := "/{id}", routes := [⟨none, "/{id}/{page}", "page"⟩] }]

/-- The value of the route is the one that counts, in whichever order the layers are merged. -/
theorem merge_eq_bind_append_shadowing :
    ∃ r found, (Router.ofTable shadowingTable).run.value = .ok r ∧
      (r.find "/7/42/x").value = some found ∧ found.params.get? "id" = some "42" ∧
      ∃ e ∈ r.searchOrder, ∃ layers, BoundAlong e.chain "/7/42/x" layers ∧
        found.params = mergeOutward layers ∧ found.params = mergeInward layers := by
  have hrun : ((Router.ofTable shadowingTable).run.value.toOption.bind fun r =>
      (r.find "/7/42/x").value).map (fun found => found.params.get? "id") = some (some "42") := by
    decide +kernel
  obtain ⟨found, hfound, hid⟩ := Option.map_eq_some_iff.mp hrun
  obtain ⟨r, hr, hfind⟩ := Option.bind_eq_some_iff.mp hfound
  obtain ⟨-, hlayers, hlookup⟩ := merge_eq_bind_append
  obtain ⟨e, he, layers, -, hbound, hparams⟩ := hlookup r "/7/42/x" found hfind
  refine ⟨r, found, Attempt.toOption_eq_some.mp hr, hfind, hid, e, he, layers, hbound, hparams, ?_⟩
  rw [hparams, (hlayers layers).1]

end Layer

end UriRouting
