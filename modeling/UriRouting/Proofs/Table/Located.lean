import Mathlib.Tactic
import UriRouting.Table.Check

/-!
# The places of a table

A route has a place in its table: the positions of the routers around it, outermost first, and its
own position among the routes of the innermost one.  Going down a table by positions alone leads to
the route at a place (`Table.routeAt?`), and reading the table in its own order comes by all routes
with their places (`Table.locatedRoutes`).  The reading comes by every route that stands somewhere
and by nothing else (`Table.mem_locatedRoutes`), and from each place to a later one
(`Table.pairwise_precedes_locatedRoutes`).  Later is a matter of the places alone
(`Location.Precedes`): the positions of routers are compared as words are in a dictionary, where a
word comes before those it begins, just as the routes of a router come before the routers in it.

Places are written down as texts, and no two places as the same text (`Location.show_injective`).
-/

namespace UriRouting

/-! ## The order of places -/

/-- Does a place come before another one?  In the same router the positions of the routes count.
Otherwise it is the routers around that count, in the order of a dictionary. -/
def Location.Precedes (first second : Location) : Prop :=
  first.routers < second.routers ∨ first.routers = second.routers ∧ first.route < second.route

namespace Location

lemma precedes_iff_toLex {first second : Location} :
    first.Precedes second ↔
      toLex (first.routers, first.route) < toLex (second.routers, second.route) := by
  rw [Prod.Lex.toLex_lt_toLex]
  rfl

lemma Precedes.ne {first second : Location} (h : first.Precedes second) : first ≠ second := by
  rintro rfl
  exact lt_irrefl _ (precedes_iff_toLex.mp h)

lemma Precedes.not_precedes {first second : Location} (h : first.Precedes second) :
    ¬ second.Precedes first := by
  intro hback
  exact lt_asymm (precedes_iff_toLex.mp h) (precedes_iff_toLex.mp hback)

lemma precedes_deeper (around : List Nat) (i j : Nat) (inner : List Nat) (k : Nat) :
    (⟨around, i⟩ : Location).Precedes ⟨around ++ j :: inner, k⟩ := by
  have hlex := List.Lex.append_left (· < ·) (List.Lex.nil (a := j) (l := inner)) around
  rw [List.append_nil] at hlex
  exact .inl hlex

lemma precedes_beside {i j : Nat} (hij : i < j) (around first second : List Nat) (k l : Nat) :
    (⟨around ++ i :: first, k⟩ : Location).Precedes ⟨around ++ j :: second, l⟩ :=
  .inl (List.Lex.append_left (· < ·) (.rel hij) around)

/-! ## The texts of places -/

lemma show_nil (i : Nat) :
    (⟨[], i⟩ : Location).show = "routes[" ++ toString i ++ "]" := rfl

lemma show_cons (j : Nat) (inner : List Nat) (i : Nat) :
    (⟨j :: inner, i⟩ : Location).show =
      "routers[" ++ toString j ++ "]." ++ (⟨inner, i⟩ : Location).show := rfl

lemma show_nil_ne_cons (i j : Nat) (inner : List Nat) (k : Nat) :
    (⟨[], i⟩ : Location).show ≠ (⟨j :: inner, k⟩ : Location).show := by
  intro h
  -- a route and a router differ in the sixth letter
  have htext := congrArg String.toList h
  simp [show_nil, show_cons] at htext

lemma toList_toString (i : Nat) : (toString i).toList = Nat.toDigits 10 i := by
  rw [Nat.toString_eq_ofList_toDigits, String.toList_ofList]

lemma takeWhile_isDigit_bracketed (i : Nat) (rest : List Char) :
    ((toString i).toList ++ ']' :: rest).takeWhile Char.isDigit = Nat.toDigits 10 i := by
  have hdigits : ∀ c ∈ Nat.toDigits 10 i, c.isDigit := by
    intro c hc
    exact Nat.isDigit_of_mem_toDigits (by decide) (by decide) hc
  rw [toList_toString, List.takeWhile_append_of_pos hdigits,
    List.takeWhile_cons_of_neg (by decide), List.append_nil]

/-- A position can be read off a text, up to the bracket behind it. -/
lemma eq_of_bracketed {i j : Nat} {first second : List Char}
    (h : (toString i).toList ++ ']' :: first = (toString j).toList ++ ']' :: second) :
    i = j ∧ first = second := by
  have hdigits := congrArg (List.takeWhile Char.isDigit) h
  rw [takeWhile_isDigit_bracketed, takeWhile_isDigit_bracketed] at hdigits
  have hij : i = j := by
    calc i = Nat.ofDigitChars 10 (Nat.toDigits 10 i) 0 := Nat.ofDigitChars_ten_toDigits.symm
      _ = Nat.ofDigitChars 10 (Nat.toDigits 10 j) 0 := by rw [hdigits]
      _ = j := Nat.ofDigitChars_ten_toDigits
  subst hij
  exact ⟨rfl, (List.cons.inj (List.append_cancel_left h)).2⟩

/-- No two places are written down as the same text. -/
theorem show_injective : Function.Injective Location.show := by
  rintro ⟨around, i⟩ ⟨around', i'⟩ h
  induction around generalizing around' with
  | nil =>
    cases around' with
    | nil =>
      have htext := congrArg String.toList h
      simp only [show_nil, String.toList_append, List.append_assoc] at htext
      obtain ⟨rfl, -⟩ := eq_of_bracketed (List.append_cancel_left htext)
      rfl
    | cons j' inner' => exact absurd h (show_nil_ne_cons i j' inner' i')
  | cons j inner ih =>
    cases around' with
    | nil => exact absurd h.symm (show_nil_ne_cons i' j inner i)
    | cons j' inner' =>
      have htext := congrArg String.toList h
      simp only [show_cons, String.toList_append, List.append_assoc] at htext
      obtain ⟨rfl, hrest⟩ := eq_of_bracketed (List.append_cancel_left htext)
      -- behind the bracket there is a dot
      have hinner := ih inner' (String.toList_inj.mp (List.cons.inj hrest).2)
      obtain ⟨rfl, rfl⟩ := Location.mk.inj hinner
      rfl

end Location

/-! ## The routes of a table with their places -/

/-- The route at a position in the router that some positions lead to. -/
def RouterEntry.routeAt? (entry : RouterEntry) (i : Nat) : List Nat → Option RouteEntry
  | [] => entry.routes[i]?
  | j :: inner => entry.routers[j]?.bind fun router => router.routeAt? i inner

/-- A table as a router that is mounted nowhere. -/
def Table.root (table : Table) : RouterEntry := ⟨"", table.routes, table.routers⟩

/-- The route at a place. -/
def Table.routeAt? (table : Table) (location : Location) : Option RouteEntry :=
  table.root.routeAt? location.route location.routers

/-- Routes with their places, from a position on. -/
def locatedFrom (around : List Nat) (i : Nat) (entries : List RouteEntry) :
    List (Location × RouteEntry) :=
  (entries.zipIdx i).map fun (entry, k) => (⟨around, k⟩, entry)

mutual

/-- The routes of a router with their places, where `around` leads to the router. -/
def RouterEntry.locatedRoutes (around : List Nat) : RouterEntry → List (Location × RouteEntry)
  | ⟨_, routes, routers⟩ => locatedFrom around 0 routes ++ locatedRoutesOf around 0 routers

/-- The routes of several routers with their places, the first router at a position. -/
def locatedRoutesOf (around : List Nat) : Nat → List RouterEntry → List (Location × RouteEntry)
  | _, [] => []
  | i, entry :: rest =>
    entry.locatedRoutes (around ++ [i]) ++ locatedRoutesOf around (i + 1) rest

end

/-- The routes of a table with their places, in the order of the table. -/
def Table.locatedRoutes (table : Table) : List (Location × RouteEntry) :=
  table.root.locatedRoutes []

lemma locatedFrom_cons (around : List Nat) (i : Nat) (entry : RouteEntry)
    (rest : List RouteEntry) :
    locatedFrom around i (entry :: rest) =
      (⟨around, i⟩, entry) :: locatedFrom around (i + 1) rest := rfl

lemma map_snd_locatedFrom (around : List Nat) (i : Nat) (entries : List RouteEntry) :
    (locatedFrom around i entries).map Prod.snd = entries := by
  rw [locatedFrom, List.map_map]
  exact List.zipIdx_map_fst i entries

lemma mem_locatedFrom {around : List Nat} {entries : List RouteEntry} {location : Location}
    {entry : RouteEntry} :
    (location, entry) ∈ locatedFrom around 0 entries ↔
      location.routers = around ∧ entries[location.route]? = some entry := by
  rw [locatedFrom, List.mem_map]
  constructor
  · rintro ⟨⟨entry, k⟩, hmem, heq⟩
    cases heq
    exact ⟨rfl, List.mk_mem_zipIdx_iff_getElem?.mp hmem⟩
  · rintro ⟨rfl, hentry⟩
    exact ⟨(entry, location.route), List.mk_mem_zipIdx_iff_getElem?.mpr hentry, rfl⟩

lemma pairwise_precedes_locatedFrom (around : List Nat) (i : Nat) (entries : List RouteEntry) :
    (locatedFrom around i entries).Pairwise fun first second => first.1.Precedes second.1 := by
  induction entries generalizing i with
  | nil => exact .nil
  | cons entry rest ih =>
    rw [locatedFrom_cons]
    refine List.pairwise_cons.mpr ⟨?_, ih (i + 1)⟩
    intro later hlater
    obtain ⟨⟨_, k⟩, hk, rfl⟩ := List.mem_map.mp hlater
    exact .inr ⟨rfl, List.le_snd_of_mem_zipIdx hk⟩

/-! ### Nothing is left out -/

mutual

lemma RouterEntry.map_snd_locatedRoutes (around : List Nat) (entry : RouterEntry) :
    (entry.locatedRoutes around).map Prod.snd = entry.allRoutes := by
  match entry with
  | ⟨_, routes, routers⟩ =>
    rw [RouterEntry.locatedRoutes, RouterEntry.allRoutes, List.map_append, map_snd_locatedFrom,
      map_snd_locatedRoutesOf]

lemma map_snd_locatedRoutesOf (around : List Nat) (i : Nat) (entries : List RouterEntry) :
    (locatedRoutesOf around i entries).map Prod.snd = allRoutesOf entries := by
  match entries with
  | [] => rfl
  | entry :: rest =>
    rw [locatedRoutesOf, allRoutesOf, List.map_append, entry.map_snd_locatedRoutes,
      map_snd_locatedRoutesOf around (i + 1) rest]

end

mutual

lemma RouterEntry.mem_locatedRoutes {around : List Nat} {entry : RouterEntry}
    {location : Location} {route : RouteEntry} :
    (location, route) ∈ entry.locatedRoutes around ↔
      ∃ inner, location.routers = around ++ inner ∧
        entry.routeAt? location.route inner = some route := by
  match entry with
  | ⟨_, routes, routers⟩ =>
    rw [RouterEntry.locatedRoutes, List.mem_append, mem_locatedFrom, mem_locatedRoutesOf]
    constructor
    · rintro (⟨hrouters, hroute⟩ | ⟨k, router, inner, hrouter, hrouters, hroute⟩)
      · exact ⟨[], by rw [hrouters, List.append_nil], hroute⟩
      · refine ⟨k :: inner, by rw [hrouters, Nat.zero_add], ?_⟩
        exact Option.bind_eq_some_iff.mpr ⟨router, hrouter, hroute⟩
    · rintro ⟨inner, hrouters, hroute⟩
      cases inner with
      | nil => exact .inl ⟨by rw [hrouters, List.append_nil], hroute⟩
      | cons k inner =>
        obtain ⟨router, hrouter, hroute⟩ := Option.bind_eq_some_iff.mp hroute
        exact .inr ⟨k, router, inner, hrouter, by rw [hrouters, Nat.zero_add], hroute⟩

lemma mem_locatedRoutesOf {around : List Nat} {i : Nat} {entries : List RouterEntry}
    {location : Location} {route : RouteEntry} :
    (location, route) ∈ locatedRoutesOf around i entries ↔
      ∃ k router inner, entries[k]? = some router ∧
        location.routers = around ++ (i + k) :: inner ∧
        router.routeAt? location.route inner = some route := by
  match entries with
  | [] => simp [locatedRoutesOf]
  | entry :: rest =>
    rw [locatedRoutesOf, List.mem_append, RouterEntry.mem_locatedRoutes, mem_locatedRoutesOf]
    constructor
    · rintro (⟨inner, hrouters, hroute⟩ | ⟨k, router, inner, hrouter, hrouters, hroute⟩)
      · rw [List.append_assoc] at hrouters
        exact ⟨0, entry, inner, rfl, hrouters, hroute⟩
      · rw [Nat.add_right_comm] at hrouters
        exact ⟨k + 1, router, inner, hrouter, hrouters, hroute⟩
    · rintro ⟨k, router, inner, hrouter, hrouters, hroute⟩
      cases k with
      | zero =>
        obtain rfl := Option.some.inj hrouter
        rw [Nat.add_zero, List.append_cons] at hrouters
        exact .inl ⟨inner, hrouters, hroute⟩
      | succ k =>
        rw [← Nat.add_assoc, Nat.add_right_comm] at hrouters
        exact .inr ⟨k, router, inner, hrouter, hrouters, hroute⟩

end

/-- The reading comes by the routes that stand somewhere. -/
theorem Table.mem_locatedRoutes {table : Table} {location : Location} {route : RouteEntry} :
    (location, route) ∈ table.locatedRoutes ↔ table.routeAt? location = some route := by
  rw [Table.locatedRoutes, RouterEntry.mem_locatedRoutes]
  simp only [List.nil_append, exists_eq_left']
  rfl

/-! ### Everything is in order -/

mutual

lemma RouterEntry.pairwise_precedes_locatedRoutes (around : List Nat) (entry : RouterEntry) :
    (entry.locatedRoutes around).Pairwise fun first second => first.1.Precedes second.1 := by
  match entry with
  | ⟨_, routes, routers⟩ =>
    rw [RouterEntry.locatedRoutes, List.pairwise_append]
    refine ⟨pairwise_precedes_locatedFrom around 0 routes,
      pairwise_precedes_locatedRoutesOf around 0 routers, ?_⟩
    rintro ⟨first, _⟩ hfirst ⟨second, _⟩ hsecond
    obtain ⟨hfirst, -⟩ := mem_locatedFrom.mp hfirst
    obtain ⟨k, _, inner, -, hsecond, -⟩ := mem_locatedRoutesOf.mp hsecond
    obtain ⟨_, i⟩ := first
    obtain ⟨_, j⟩ := second
    cases hfirst
    cases hsecond
    exact Location.precedes_deeper _ i _ inner j

lemma pairwise_precedes_locatedRoutesOf (around : List Nat) (i : Nat)
    (entries : List RouterEntry) :
    (locatedRoutesOf around i entries).Pairwise fun first second =>
      first.1.Precedes second.1 := by
  match entries with
  | [] => exact .nil
  | entry :: rest =>
    rw [locatedRoutesOf, List.pairwise_append]
    refine ⟨entry.pairwise_precedes_locatedRoutes (around ++ [i]),
      pairwise_precedes_locatedRoutesOf around (i + 1) rest, ?_⟩
    rintro ⟨first, _⟩ hfirst ⟨second, _⟩ hsecond
    obtain ⟨inner, hfirst, -⟩ := RouterEntry.mem_locatedRoutes.mp hfirst
    obtain ⟨k, _, inner', -, hsecond, -⟩ := mem_locatedRoutesOf.mp hsecond
    obtain ⟨_, m⟩ := first
    obtain ⟨_, n⟩ := second
    rw [List.append_assoc] at hfirst
    cases hfirst
    cases hsecond
    have hik : i < i + 1 + k := by omega
    exact Location.precedes_beside hik around inner inner' m n

end

/-- The reading goes from each place to a later one. -/
theorem Table.pairwise_precedes_locatedRoutes (table : Table) :
    table.locatedRoutes.Pairwise fun first second => first.1.Precedes second.1 :=
  table.root.pairwise_precedes_locatedRoutes []

/-- What the reading has come by when it comes to a place is what stands at earlier places. -/
lemma Table.mem_before_iff {table : Table} {before after : List (Location × RouteEntry)}
    {location : Location} {entry : RouteEntry}
    (h : table.locatedRoutes = before ++ (location, entry) :: after)
    {earlier : Location} {other : RouteEntry} :
    (earlier, other) ∈ before ↔
      earlier.Precedes location ∧ table.routeAt? earlier = some other := by
  have hpairwise := table.pairwise_precedes_locatedRoutes
  rw [h, List.pairwise_append, List.pairwise_cons] at hpairwise
  obtain ⟨-, ⟨hafter, -⟩, hbefore⟩ := hpairwise
  rw [← Table.mem_locatedRoutes, h, List.mem_append, List.mem_cons]
  constructor
  · intro hmem
    exact ⟨hbefore _ hmem _ List.mem_cons_self, .inl hmem⟩
  · rintro ⟨hprecedes, hmem | hmem | hmem⟩
    · exact hmem
    · exact absurd (Prod.mk.inj hmem).1 hprecedes.ne
    · exact absurd hprecedes (hafter _ hmem).not_precedes

end UriRouting
