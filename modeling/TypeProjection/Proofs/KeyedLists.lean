import Mathlib.Data.List.Nodup
import TypeProjection.Pairs
import TypeProjection.Proofs.DistinctLists

/-!
# Keys of lists of pairs

The keys of a list of pairs that is read as a finite map. What is put into such a list comes last,
unless its key is there: the keys of what has been put, one after another, are the distinct ones in
the order in which they came first.
-/

namespace TypeProjection

variable {α β : Type} {key : String} {value : α} {entries base : List (String × α)}

/-- The keys of a list of pairs, in order. -/
def keys (entries : List (String × α)) : List String := entries.map (·.1)

theorem keys_cons {e : String × α} : keys (e :: entries) = e.1 :: keys entries := rfl

theorem keys_putPair : keys (putPair key value entries) =
    keys entries ++ if key ∈ keys entries then [] else [key] := by
  induction entries with
  | nil => rfl
  | cons e entries ih =>
    unfold putPair
    by_cases he : e.1 = key
    · rw [if_pos (beq_iff_eq.mpr he), if_pos (he ▸ List.mem_cons_self ..), List.append_nil]
      rfl
    · have hmem : key ∈ e.1 :: keys entries ↔ key ∈ keys entries :=
        List.mem_cons.trans (or_iff_right (Ne.symm he))
      rw [if_neg (by simpa using he), keys_cons, ih, keys_cons, List.cons_append]
      simp only [hmem]

/-- A key that is put among others comes last, unless it is there. -/
theorem keys_putPair_eq_distinct (h : (keys entries).Nodup) :
    keys (putPair key value entries) = distinct (keys entries ++ [key]) := by
  rw [keys_putPair, distinct_append, distinct_of_nodup h]
  congr 1
  by_cases hk : key ∈ keys entries
  · simp [distinct, hk]
  · simp [distinct, hk]

theorem keys_putPairs_eq_distinct (h : (keys base).Nodup) :
    keys (putPairs base entries) = distinct (keys base ++ keys entries) := by
  unfold putPairs
  induction entries generalizing base with
  | nil =>
    have hnil : keys ([] : List (String × α)) = [] := rfl
    rw [List.foldl_nil, hnil, List.append_nil, distinct_of_nodup h]
  | cons e entries ih =>
    have hput : keys (putPair e.1 e.2 base) = distinct (keys base ++ [e.1]) :=
      keys_putPair_eq_distinct h
    rw [List.foldl_cons, ih (hput ▸ nodup_distinct _), hput, distinct_append_left, keys_cons,
      List.append_assoc]
    rfl

theorem lookup_of_mem (h : (keys entries).Nodup) {e : String × α} (he : e ∈ entries) :
    entries.lookup e.1 = some e.2 := by
  induction entries with
  | nil => cases he
  | cons x entries ih =>
    obtain ⟨hx, hentries⟩ : x.1 ∉ keys entries ∧ (keys entries).Nodup := List.nodup_cons.mp h
    rw [List.lookup_cons]
    rcases List.mem_cons.mp he with rfl | he
    · rw [beq_self_eq_true]
    · have hmem : e.1 ∈ keys entries := List.mem_map_of_mem he
      have hne : e.1 ≠ x.1 := fun hk => hx (hk ▸ hmem)
      rw [beq_false_of_ne hne]
      exact ih hentries he

/-- A mapping with an order is known by its keys and by what stands under them. -/
theorem eq_of_keys_lookup {others : List (String × α)} (hkeys : keys entries = keys others)
    (hnodup : (keys others).Nodup) (hlookup : ∀ k, entries.lookup k = others.lookup k) :
    entries = others := by
  have hpair : ∀ es : List (String × α), (keys es).Nodup →
      es = (keys es).filterMap fun k => (es.lookup k).map fun v => (k, v) := by
    intro es hes
    have hsome : ∀ e ∈ es, ((es.lookup e.1).map fun v => (e.1, v)) = some e := by
      intro e he
      rw [lookup_of_mem hes he]
      rfl
    rw [keys, List.filterMap_map]
    exact ((List.filterMap_congr hsome).trans List.filterMap_some).symm
  rw [hpair entries (hkeys ▸ hnodup), hpair others hnodup, hkeys]
  simp only [hlookup]

/-- The keys of the entries with a property are the keys that have it by what stands under them. -/
theorem keys_filter (h : (keys entries).Nodup) (P : String → α → Bool) :
    keys (entries.filter fun e => P e.1 e.2) =
      (keys entries).filter fun n => (entries.lookup n).any (P n) := by
  unfold keys
  rw [List.filter_map]
  congr 1
  refine List.filter_congr fun e he => ?_
  rw [Function.comp_apply, lookup_of_mem h he]
  rfl

/-- What stands under a key among the entries with a property. -/
theorem lookup_filter_entries (h : (keys entries).Nodup) (P : String → α → Bool) (k : String) :
    (entries.filter fun e => P e.1 e.2).lookup k = (entries.lookup k).filter (P k) := by
  induction entries with
  | nil => rfl
  | cons e entries ih =>
    obtain ⟨he, hentries⟩ : e.1 ∉ keys entries ∧ (keys entries).Nodup := List.nodup_cons.mp h
    rw [List.filter_cons, List.lookup_cons]
    cases hk : k == e.1 with
    | true =>
      obtain rfl := beq_iff_eq.mp hk
      have hnone : (entries.filter fun e => P e.1 e.2).lookup e.1 = none := by
        refine List.lookup_eq_none_iff.mpr fun x hx => ?_
        rw [bne_iff_ne]
        exact fun heq => he (heq ▸ List.mem_map_of_mem (List.mem_filter.mp hx).1)
      cases hP : P e.1 e.2 with
      | true =>
        rw [if_pos rfl, List.lookup_cons, hk, Option.filter_some, hP]
        rfl
      | false =>
        rw [if_neg Bool.false_ne_true, hnone, Option.filter_some, hP]
        rfl
    | false =>
      dsimp only
      rw [← ih hentries]
      split
      · rw [List.lookup_cons, hk]
      · rfl

theorem keys_filterMap {f : String × α → Option (String × β)} {P : String → α → Bool}
    (hf : ∀ e, (f e).map (·.1) = if P e.1 e.2 then some e.1 else none) :
    keys (entries.filterMap f) = keys (entries.filter fun e => P e.1 e.2) := by
  induction entries with
  | nil => rfl
  | cons e entries ih =>
    have he := hf e
    rw [List.filterMap_cons, List.filter_cons]
    cases hP : P e.1 e.2 with
    | true =>
      rw [hP, if_pos rfl] at he
      obtain ⟨m, hm, hkey⟩ := Option.map_eq_some_iff.mp he
      rw [hm, if_pos rfl, keys_cons, keys_cons, ih, hkey]
    | false =>
      rw [hP] at he
      rw [Option.map_eq_none_iff.mp he]
      exact ih

end TypeProjection
