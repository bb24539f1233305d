import Fulfilment.Registry
import Mathlib.Data.List.Nodup

/-!
# Routes of registered endpoints

No two registered endpoints answer the same route, whatever is registered, loaded and removed one
after the other, and whether it is accepted or refused. An endpoint is refused exactly when its
route is that of another one; a registered endpoint may move to another route under its identifier,
which leaves its old route free.

## Main definitions

* `Registry.Routed` - a registry in which each route has at most one endpoint
* `RouteChange`, `Registry.after` - what changes the endpoints of a registry

## Main results

* `Registry.Routed.register`, `Registry.Routed.after` - the changes keep the routes apart
* `Registry.Routed.found_iff` - the endpoint of a route is the one that is found
* `Registry.Routed.refused_iff` - when an endpoint is refused
* `Registry.routes_after` - all of this after any changes
-/

namespace Fulfilment

/-! ### Routes as texts -/

/-- An English letter is mapped to its capital: it has no expansion, and of the runs only the first
covers any. -/
theorem Text.mapChar_of_ascii {c : Char} (ascii : c.toNat < 128) :
    mapChar upperRuns upperExpansions c = [c.toUpper] := by
  have expansions : ∀ e ∈ upperExpansions, 128 ≤ e.1 := by decide +kernel
  have runs : ∀ r ∈ upperRuns.tail, 128 ≤ r.first := by decide +kernel
  have small : ∀ n < 128, (if 97 ≤ n ∧ n ≤ 122 then Char.ofNat (n - 32) else Char.ofNat n) =
      (Char.ofNat n).toUpper := by decide +kernel
  have unexpanded : upperExpansions.lookup c.toNat = none := by
    refine List.lookup_eq_none_iff.mpr fun e mem => ?_
    have far := expansions e mem
    simp
    omega
  have uncovered : upperRuns.tail.find? (·.covers c.toNat) = none := by
    refine List.find?_eq_none.mpr fun r mem => ?_
    have far := runs r mem
    simp [CaseRun.covers]
    omega
  have capital := small c.toNat ascii
  rw [Char.ofNat_toNat] at capital
  have whole : upperRuns = ⟨97, 122, 1, -32⟩ :: upperRuns.tail := rfl
  -- What is left is the first run, which holds the small letters.
  rw [mapChar, unexpanded, ← capital, mapRuns, whole, List.find?_cons, uncovered]
  by_cases letter : 97 ≤ c.toNat ∧ c.toNat ≤ 122
  · have covered : CaseRun.covers ⟨97, 122, 1, -32⟩ c.toNat = true := by
      simpa [CaseRun.covers, Nat.mod_one] using letter
    have moved : ((c.toNat : Int) + -32).toNat = c.toNat - 32 := by omega
    simp only [covered, letter, and_self, if_true, moved]
  · have missed : CaseRun.covers ⟨97, 122, 1, -32⟩ c.toNat = false := by
      simpa [CaseRun.covers, Nat.mod_one] using letter
    simp only [missed, if_neg letter]

/-- A text in English letters is in upper case when each letter is. -/
theorem Text.upper_of_ascii {s : String} (ascii : ∀ c ∈ s.toList, c.toNat < 128) :
    Text.upper s = s.toUpper := by
  have mapped : s.toList.flatMap (mapChar upperRuns upperExpansions) =
      s.toList.map Char.toUpper := by
    rw [← List.flatMap_singleton' (s.toList.map Char.toUpper), List.flatMap_map]
    exact List.flatMap_congr fun c mem => mapChar_of_ascii (ascii c mem)
  rw [upper, mapCase, mapped, String.toUpper, ← String.toList_map, String.ofList_toList]

/-- A character whose capital is an English one is English. -/
theorem Text.ascii_of_toUpper {c : Char} (capital : c.toUpper.toNat < 128) : c.toNat < 128 := by
  unfold Char.toUpper at capital
  split at capital
  next small =>
    have last : c.toNat ≤ 'z'.toNat := small.2
    exact Nat.lt_of_le_of_lt last (by decide)
  · exact capital

namespace Method

/-- The words of the methods are English and have no colon. -/
theorem mem_word (m : Method) : ∀ c ∈ m.word.toList, c ≠ ':' ∧ c.toNat < 128 := by
  cases m <;> simp [word]

theorem word_injective {m m' : Method} (same : m.word = m'.word) : m = m' := by
  revert same
  cases m <;> cases m' <;> decide

/-- In whatever letters a method is written, its word is found. -/
theorem upper_of_toUpper {word : String} {m : Method} (same : word.toUpper = m.word) :
    Text.upper word = m.word := by
  rw [Text.upper_of_ascii, same]
  intro c mem
  have capital : c.toUpper ∈ m.word.toList := by
    rw [← same, String.toUpper, String.toList_map]
    exact List.mem_map_of_mem mem
  exact Text.ascii_of_toUpper (m.mem_word _ capital).2

/-- A route can be read in one way only: the method ends at the first colon. -/
theorem route_injective {m m' : Method} {path path' : String}
    (same : m.word ++ ":" ++ path = m'.word ++ ":" ++ path') : m = m' ∧ path = path' := by
  have before (m : Method) (path : String) :
      (m.word ++ ":" ++ path).toList.takeWhile (· ≠ ':') = m.word.toList := by
    rw [String.toList_append, String.toList_append, List.append_assoc,
      List.takeWhile_append_of_pos fun c mem => by simpa using (m.mem_word c mem).1]
    simp
  have words : m.word = m'.word := by
    rw [← String.toList_inj, ← before m path, ← before m' path', same]
  obtain rfl := word_injective words
  refine ⟨rfl, ?_⟩
  simpa [String.append_assoc] using same

end Method

/-- A route tells its method and its path. -/
theorem Endpoint.route_eq_iff {e : Endpoint} {m : Method} {path : String} :
    e.route = m.word ++ ":" ++ path ↔ e.method = m ∧ e.path = path := by
  constructor
  · exact Method.route_injective
  · rintro ⟨rfl, rfl⟩
    rfl

/-! ### Registrations -/

namespace Registration

variable {α β : Type} {P : Registry → Prop}

/-- Whether a registration keeps a property of registries, also when it fails. -/
def Keeps (P : Registry → Prop) (p : Registration α) : Prop := ∀ r, P r → P (p.perform r).2

theorem keeps_lift (x : Except Failure α) : Keeps P (liftM x) := fun _ before => before

theorem keeps_bind {p : Registration α} {f : α → Registration β} (first : p.Keeps P)
    (second : ∀ a, (f a).Keeps P) : (p >>= f).Keeps P := by
  intro r before
  rw [perform_bind]
  have middle := first r before
  rcases performed : p.perform r with ⟨f | a, r'⟩ <;> rw [performed] at middle
  · exact middle
  · exact second a r' middle

theorem keeps_modifyGet {change : Registry → α × Registry} (each : ∀ r, P r → P (change r).2) :
    Keeps P (modifyGet change) := each

theorem keeps_pure (a : α) : Keeps P (pure a) := fun _ before => before

/-- A loop keeps what each turn keeps. -/
theorem keeps_forIn {as : List α} {turn : α → β → Registration (ForInStep β)}
    (each : ∀ a b, (turn a b).Keeps P) (b : β) : Keeps P (forIn as b turn) := by
  induction as generalizing b with
  | nil => exact keeps_pure b
  | cons a as ih =>
    rw [List.forIn_cons]
    refine keeps_bind (each a b) fun step => ?_
    cases step with
    | done b => exact keeps_pure b
    | yield b => exact ih b

/-- Loading keeps what each single registration keeps. -/
theorem keeps_loadEach {register : Value → Registration α} (each : ∀ v, (register v).Keeps P)
    (v : Value) : (Registry.loadEach register v).Keeps P := by
  refine keeps_bind (keeps_lift v.parts) fun vs => keeps_bind ?_ fun _ => keeps_pure ()
  exact keeps_forIn (fun v _ => keeps_bind (each v) fun _ => keeps_pure _) _

end Registration

namespace Registry

variable {r : Registry} {now : Timestamp} {e : Endpoint}

/-- Whether the endpoints are registered under identifiers of their own, and no two of them on one
route. -/
structure Routed (r : Registry) : Prop where
  /-- Every endpoint has an identifier and is registered under it. -/
  own : ∀ entry ∈ r.endpoints, entry.1 = entry.2.id ∧ entry.1 ≠ ""
  /-- No two endpoints are registered under one identifier. -/
  nodup : r.endpoints.names.Nodup
  /-- Endpoints of one route are registered under one identifier. -/
  apart : ∀ a ∈ r.endpoints, ∀ b ∈ r.endpoints, a.2.route = b.2.route → a.1 = b.1

theorem Routed.congr {r' : Registry} (h : r.Routed) (same : r'.endpoints = r.endpoints) :
    r'.Routed :=
  ⟨same ▸ h.own, same ▸ h.nodup, same ▸ h.apart⟩

theorem routed_empty (issued : Nat) : Routed { issued } where
  own _ mem := by cases mem
  nodup := List.nodup_nil
  apart _ mem := by cases mem

/-- What is removed leaves the others apart. -/
theorem Routed.sublist {r' : Registry} (h : r.Routed) (fewer : r'.endpoints.Sublist r.endpoints) :
    r'.Routed where
  own entry mem := h.own entry (fewer.subset mem)
  nodup := (fewer.map _).nodup h.nodup
  apart a memA b memB := h.apart a (fewer.subset memA) b (fewer.subset memB)

/-- An endpoint is known by its route. -/
theorem Routed.unique (h : r.Routed) {e e' : Endpoint} (mem : e ∈ r.endpoints.entries)
    (mem' : e' ∈ r.endpoints.entries) (same : e.route = e'.route) : e = e' := by
  obtain ⟨⟨id, e⟩, there, rfl⟩ := List.mem_map.mp mem
  obtain ⟨⟨id', e'⟩, there', rfl⟩ := List.mem_map.mp mem'
  obtain rfl : id = id' := h.apart _ there _ there' same
  have found := Catalog.get?_of_mem h.nodup there
  rw [Catalog.get?_of_mem h.nodup there'] at found
  exact (Option.some.inj found).symm

/-- The endpoint that is found on a route is the one that is registered for it. -/
theorem Routed.endpointOn?_eq_some (h : r.Routed) {route : String} :
    r.endpointOn? route = some e ↔ e ∈ r.endpoints.entries ∧ e.route = route := by
  constructor
  · intro found
    exact ⟨List.mem_of_find?_eq_some found, by simpa using List.find?_some found⟩
  · rintro ⟨mem, rfl⟩
    cases found : r.endpointOn? e.route with
    | none =>
      have absent := List.find?_eq_none.mp found e mem
      simp at absent
    | some e' =>
      have same : e'.route = e.route := by simpa using List.find?_some found
      exact congrArg some (h.unique (List.mem_of_find?_eq_some found) mem same)

theorem identify_ne (kind id : String) (r : Registry) : (r.identify kind id).1 ≠ "" := by
  unfold identify
  split
  · have long := Identifier.length_numbered kind (r.issued + 1)
    intro empty
    rw [show Identifier.numbered kind (r.issued + 1) = "" from empty] at long
    cases long
  next given => exact given

/-- A rival has the route under another identifier. -/
theorem Routed.rival?_eq_some (h : r.Routed) {route id : String} {e : Endpoint} :
    r.rival? route id = some e ↔ e ∈ r.endpoints.entries ∧ e.route = route ∧ e.id ≠ id := by
  rw [rival?, Option.filter_eq_some_iff, h.endpointOn?_eq_some, and_assoc]
  simp

/-- An endpoint without a rival does not get in the way of another one. -/
theorem Routed.addEndpoint (h : r.Routed) (now : Timestamp)
    (free : r.rival? e.route e.id = none) : (r.addEndpoint now e).2.Routed := by
  have endpoints := endpoints_addEndpoint now e r
  have route : (r.addEndpoint now e).1.route = e.route := rfl
  have id := id_addEndpoint now e r
  generalize (r.addEndpoint now e).1 = added at endpoints route id
  have given : added.id ≠ "" := id ▸ identify_ne _ _ _
  -- Whoever has the route already is replaced, since a rival would have another identifier.
  have replaced : ∀ entry ∈ r.endpoints, entry.2.route = e.route → entry.1 = added.id := by
    intro entry mem same
    obtain ⟨own, ne⟩ := h.own entry mem
    have known : entry.2.id = e.id := by
      by_contra other
      have rival := h.rival?_eq_some.mpr ⟨List.mem_map_of_mem mem, same, other⟩
      rw [free] at rival
      cases rival
    rw [own] at ne ⊢
    rw [id, known, identify, if_neg (known ▸ ne)]
  have cases_ : ∀ entry ∈ r.endpoints.put added.id added,
      entry ∈ r.endpoints ∨ entry = (added.id, added) := by
    intro entry mem
    refine (Catalog.mem_put mem).imp_right fun ⟨name, value⟩ => ?_
    exact Prod.ext (eq_of_beq name) value
  -- Whether an entry is old or new decides each of the three.
  refine ⟨?_, ?_, ?_⟩ <;> rw [endpoints]
  · intro entry mem
    rcases cases_ entry mem with old | rfl
    · exact h.own entry old
    · exact ⟨rfl, given⟩
  · exact Catalog.nodup_names_put h.nodup _ _
  · intro a memA b memB same
    rcases cases_ a memA with oldA | rfl <;> rcases cases_ b memB with oldB | rfl
    · exact h.apart a oldA b oldB same
    · exact replaced a oldA (same.trans route)
    · exact (replaced b oldB (same.symm.trans route)).symm
    · rfl

/-! ### What changes the endpoints -/

/-- An endpoint is registered, or it is refused and nothing is changed: the document is mistaken, or
another endpoint has the route. -/
theorem perform_registerEndpoint (now : Timestamp) (v : Value) (r : Registry) :
    (registerEndpoint now v).perform r =
      match Endpoint.check v with
      | .refused issues => (.error (.invalid issues), r)
      | .accepted e =>
        match r.rival? e.route e.id with
        | some other => (.error (.routeTaken e.route other.id), r)
        | none => (.ok (r.addEndpoint now e).1, (r.addEndpoint now e).2) := by
  rw [registerEndpoint, Registration.perform_bind, Registration.perform_lift]
  cases Endpoint.check v with
  | refused issues => rfl
  | accepted e =>
    have looked : (get : Registration Registry).perform r = (.ok r, r) := rfl
    simp only [Failure.ofChecked, Registration.perform_bind, looked]
    cases r.rival? e.route e.id <;> rfl

/-- What is registered keeps the routes apart. -/
theorem keeps_registerEndpoint (now : Timestamp) (v : Value) :
    (registerEndpoint now v).Keeps Routed := by
  intro r h
  rw [perform_registerEndpoint]
  split
  · exact h
  split
  · exact h
  · exact h.addEndpoint now ‹_›

theorem keeps_registerWorkflow (now : Timestamp) (v : Value) :
    (registerWorkflow now v).Keeps Routed := by
  refine Registration.keeps_bind (Registration.keeps_lift _) fun w => ?_
  exact Registration.keeps_modifyGet fun r h => h.congr (endpoints_addWorkflow now w r)

theorem keeps_registerForm (now : Timestamp) (v : Value) :
    (registerForm now v).Keeps Routed := by
  refine Registration.keeps_bind (Registration.keeps_lift _) fun f => ?_
  exact Registration.keeps_modifyGet fun r h => h.congr (endpoints_addForm now f r)

theorem keeps_load (now : Timestamp) (d : Definitions) : (load now d).Keeps Routed := by
  refine Registration.keeps_bind ?_ fun _ => Registration.keeps_bind ?_ fun _ => ?_
  · exact Registration.keeps_loadEach (keeps_registerWorkflow now) d.workflows
  · exact Registration.keeps_loadEach (keeps_registerForm now) d.forms
  · exact Registration.keeps_loadEach (keeps_registerEndpoint now) d.endpoints

/-- Removing a definition takes away entries and adds none. -/
theorem sublist_without {α : Type} {definitions left : Catalog String α} {id : Value} {known : Bool}
    (removed : without definitions id = .ok (known, left)) : left.Sublist definitions := by
  unfold without at removed
  split at removed
  · cases removed
    exact List.nil_sublist _
  · cases removed
    exact List.filter_sublist
  · obtain ⟨-, -, same⟩ := Failure.map_eq_ok_iff.mp removed
    cases same
    exact List.Sublist.refl _

theorem sublist_deleteEndpoint {id : Value} {known : Bool} {r' : Registry}
    (deleted : r.deleteEndpoint id = .ok (known, r')) :
    r'.endpoints.Sublist r.endpoints := by
  obtain ⟨⟨known, left⟩, removed, same⟩ := Failure.map_eq_ok_iff.mp deleted
  cases same
  exact sublist_without removed

end Registry

/-- What changes the endpoints of a registry. -/
inductive RouteChange where
  /-- Registers the endpoint that a document describes. -/
  | create (now : Timestamp) (v : Value)
  /-- Registers definitions. -/
  | load (now : Timestamp) (d : Registry.Definitions)
  /-- Removes the endpoint of an identifier. -/
  | delete (id : Value)

namespace Registry

/-- The registry after a change, whether it succeeds or fails. -/
def after (r : Registry) : RouteChange → Registry
  | .create now v => ((registerEndpoint now v).perform r).2
  | .load now d => ((load now d).perform r).2
  | .delete id =>
    match r.deleteEndpoint id with
    | .ok (_, r') => r'
    | .error _ => r

/-- Each change keeps the routes apart. -/
theorem Routed.after {r : Registry} (h : r.Routed) (c : RouteChange) : (r.after c).Routed := by
  cases c with
  | create now v => exact keeps_registerEndpoint now v r h
  | load now d => exact keeps_load now d r h
  | delete id =>
    rw [Registry.after]
    cases deleted : r.deleteEndpoint id with
    | error f => exact h
    | ok known => exact h.sublist (sublist_deleteEndpoint deleted)

/-- So do any changes. -/
theorem Routed.foldl_after {r : Registry} (h : r.Routed) (changes : List RouteChange) :
    (changes.foldl Registry.after r).Routed := by
  induction changes generalizing r with
  | nil => exact h
  | cons c cs ih => exact ih (h.after c)

/-- Endpoints answer different routes. -/
theorem Routed.nodup_routes {r : Registry} (h : r.Routed) :
    (r.endpoints.entries.map fun e => (e.method, e.path)).Nodup := by
  rw [Catalog.entries, List.map_map]
  refine List.Nodup.map_on ?_ (List.Nodup.of_map _ h.nodup)
  rintro ⟨id, e⟩ mem ⟨id', e'⟩ mem' same
  obtain ⟨method, path⟩ := Prod.mk.inj same
  have route : e.route = e'.route := Endpoint.route_eq_iff.mpr ⟨method, path⟩
  have unique := h.unique (List.mem_map_of_mem mem) (List.mem_map_of_mem mem') route
  exact Prod.ext (h.apart _ mem _ mem' route) unique

/-- The endpoint of a method, in whatever letters it is written, and of a path is found. -/
theorem Routed.findEndpoint_iff {r : Registry} (h : r.Routed) {m : Method} {word : String}
    (written : word.toUpper = m.word) (path : String) :
    ∃ found, r.findEndpoint (.text word) (.text path) = .ok found ∧
      ∀ e, found = some e ↔ e ∈ r.endpoints.entries ∧ e.method = m ∧ e.path = path := by
  refine ⟨r.endpointOn? (m.word ++ ":" ++ path), ?_, fun e => ?_⟩
  · rw [findEndpoint, Method.upper_of_toUpper written]
    rfl
  · rw [h.endpointOn?_eq_some, Endpoint.route_eq_iff]

/-- An endpoint is refused if and only if another one has its route. -/
theorem Routed.refused_iff {r : Registry} (h : r.Routed) (now : Timestamp) {v : Value}
    {e : Endpoint} (valid : Endpoint.check v = .accepted e) :
    (∃ f, ((registerEndpoint now v).perform r).1 = .error f) ↔
      ∃ other ∈ r.endpoints.entries,
        other.id ≠ e.id ∧ other.method = e.method ∧ other.path = e.path := by
  have rivals : (∃ other, r.rival? e.route e.id = some other) ↔
      ∃ other ∈ r.endpoints.entries,
        other.id ≠ e.id ∧ other.method = e.method ∧ other.path = e.path := by
    refine exists_congr fun other => ?_
    have route : other.route = e.route ↔ other.method = e.method ∧ other.path = e.path :=
      Endpoint.route_eq_iff
    rw [h.rival?_eq_some, route]
    exact and_congr_right' and_comm
  rw [← rivals, perform_registerEndpoint]
  simp only [valid]
  cases r.rival? e.route e.id <;> simp

/-- A registration that is refused changes nothing. -/
theorem perform_of_refused {now : Timestamp} {v : Value} {r : Registry} {f : Failure}
    (refused : ((registerEndpoint now v).perform r).1 = .error f) :
    ((registerEndpoint now v).perform r).2 = r := by
  rw [perform_registerEndpoint] at refused ⊢
  split at refused
  · rfl
  split at refused
  · rfl
  · cases refused

/-- **Each route has at most one endpoint.** After any changes no two endpoints have the same method
and path, each is registered under its own identifier, and the one of a route is found, if there is
one. An endpoint is refused exactly when another one has its route, and whatever is refused changes
nothing. -/
theorem routes_after (changes : List RouteChange) (issued : Nat) :
    let r := changes.foldl after { issued }
    (r.endpoints.entries.map fun e => (e.method, e.path)).Nodup ∧
      (∀ entry ∈ r.endpoints, entry.1 = entry.2.id ∧
        r.endpoints.get? entry.1 = some entry.2) ∧
      (∀ (m : Method) (word path : String), word.toUpper = m.word →
        ∃ found, r.findEndpoint (.text word) (.text path) = .ok found ∧
          ∀ e, found = some e ↔ e ∈ r.endpoints.entries ∧ e.method = m ∧ e.path = path) ∧
      (∀ now v e, Endpoint.check v = .accepted e →
        ((∃ f, ((registerEndpoint now v).perform r).1 = .error f) ↔
          ∃ other ∈ r.endpoints.entries,
            other.id ≠ e.id ∧ other.method = e.method ∧ other.path = e.path)) ∧
      ∀ now v f, ((registerEndpoint now v).perform r).1 = .error f →
        ((registerEndpoint now v).perform r).2 = r := by
  intro r
  have routed : r.Routed := (routed_empty issued).foldl_after changes
  refine ⟨routed.nodup_routes, fun entry mem => ⟨(routed.own entry mem).1, ?_⟩, ?_, ?_, ?_⟩
  · exact Catalog.get?_of_mem routed.nodup mem
  · intro m word path written
    exact routed.findEndpoint_iff written path
  · intro now v e valid
    exact routed.refused_iff now valid
  · intro now v f refused
    exact perform_of_refused refused

/-- An endpoint moves to another route, and its old route goes to a new endpoint. A third one is
refused on the route to which the first has moved. -/
theorem routes_after_sample :
    let document (id path : String) : Value := .object [("id", .text id), ("name", "Orders"),
      ("path", .text path), ("handler", .object [("type", "custom")])]
    let changes : List RouteChange := [.create default (document "ep-1" "/a"),
      .create default (document "ep-1" "/b"), .create default (document "" "/a")]
    let r := changes.foldl after { issued := 0 }
    r.endpoints.entries.map (fun e => (e.id, e.method, e.path)) =
        [("ep-1", .post, "/b"), (Identifier.numbered "endpoint" 1, .post, "/a")] ∧
      (∃ e, r.findEndpoint "post" "/b" = .ok (some e) ∧ e.id = "ep-1") ∧
      ∃ e, Endpoint.check (document "ep-2" "/b") = .accepted e ∧
        ∃ f, ((registerEndpoint default (document "ep-2" "/b")).perform r).1 = .error f := by
  intro document changes r
  have table : r.endpoints.entries.map (fun e => (e.id, e.method, e.path)) =
      [("ep-1", .post, "/b"), (Identifier.numbered "endpoint" 1, .post, "/a")] := by
    decide +kernel
  obtain ⟨moved, rest, entries, first, -⟩ := List.map_eq_cons_iff.mp table
  have mem : moved ∈ r.endpoints.entries := entries ▸ List.mem_cons_self
  obtain ⟨id, method, path⟩ : moved.id = "ep-1" ∧ moved.method = .post ∧ moved.path = "/b" := by
    simpa using first
  obtain ⟨-, -, finds, refuses, -⟩ := routes_after changes 0
  obtain ⟨found, same, known⟩ := finds .post "post" "/b" (by decide +kernel)
  rw [(known moved).mpr ⟨mem, method, path⟩] at same
  refine ⟨table, ⟨moved, same, id⟩, _, rfl, (refuses default _ _ rfl).mpr ⟨moved, mem, ?_⟩⟩
  exact ⟨by rw [id]; decide, method, path⟩

end Registry

end Fulfilment
