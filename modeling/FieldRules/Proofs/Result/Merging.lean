import FieldRules.Result.Ledger
import Mathlib.Data.List.Basic
import Mathlib.Logic.Relation

/-!
# Merged results

Two results of a ledger can be merged into a third one, which is entered behind them. It does not matter how three
results are merged (`Result.merge_assoc`), and a merged result is balanced if both of its parts are
(`Result.Balanced.merge`).

What is counted later is counted for one result alone: the entries of the others stay as they are
(`Ledger.getElem?_accumulateAll`). But a result that is nested in a field is shown with that field, wherever the field
is listed, so another result looks the same afterwards unless the one that is counted for lies within it
(`Ledger.result_congr`).
-/

namespace FieldRules

/-! ## Results by themselves -/

namespace Tally

theorem firstMessage_assoc (a? b? c? : Option String) :
    firstMessage (firstMessage a? b?) c? = firstMessage a? (firstMessage b? c?) := by
  rcases a? with _ | a
  · rfl
  · by_cases ha : a = ""
    · rw [ha]
      rfl
    · -- The first message is not empty, so it is the message of the whole in either way.
      have hfirst : ∀ d?, firstMessage (some a) d? = some a := by
        intro d?
        unfold firstMessage
        split <;> simp_all
      rw [hfirst, hfirst, hfirst]

theorem merge_assoc (s t u : Tally) : (s.merge t).merge u = s.merge (t.merge u) := by
  simp only [merge, Bool.and_assoc, Nat.add_assoc, firstMessage_assoc]

end Tally

namespace Result

theorem merge_assoc (r s t : Result) : (r.merge s).merge t = r.merge (s.merge t) := by
  simp only [merge, Tally.merge_assoc, List.append_assoc]

/-- The counts of a result agree with each other and with the rejected fields, and every field is counted. -/
structure Balanced (r : Result) : Prop where
  passed : r.tally.passed = true ↔ r.tally.errorCount = 0
  errors : r.tally.errorCount = r.rejected.length
  total : r.tally.passedCount + r.tally.errorCount + r.tally.ignoredCount = r.tally.total

theorem Balanced.merge {r s : Result} (hr : r.Balanced) (hs : s.Balanced) : (r.merge s).Balanced where
  passed := by
    simp only [Result.merge, Tally.merge, Bool.and_eq_true, hr.passed, hs.passed]
    omega
  errors := by
    simp only [Result.merge, Tally.merge, List.length_append, hr.errors, hs.errors]
  total := by
    have htotal := hr.total
    have htotal' := hs.total
    simp only [Result.merge, Tally.merge]
    omega

end Result

/-! ## What is counted later -/

/-- What is counted for a result: a field that passed, one that was not looked at, or a rejected one, which is
listed. -/
inductive Accumulation where
  | pass
  | ignore
  | reject (element : Nat)

/-- The result with one thing more that is counted for it. -/
def ResultDraft.accumulate (r : ResultDraft) : Accumulation → ResultDraft
  | .pass => { r with tally := r.tally.pass }
  | .ignore => { r with tally := r.tally.ignore }
  | .reject element => { tally := r.tally.reject, rejected := r.rejected ++ [element] }

namespace Ledger

/-- The ledger after something has been counted for one of its results. -/
def accumulate (l : Ledger) (n : Nat) : Accumulation → Ledger
  | .pass => l.pass n
  | .ignore => l.ignore n
  | .reject element => l.reject n element

/-- The ledger after some things have been counted, each for a result of its own. -/
def accumulateAll (l : Ledger) (entries : List (Nat × Accumulation)) : Ledger :=
  entries.foldl (fun l (n, a) => l.accumulate n a) l

/-- What is counted for one of the results. -/
def accumulationsOf (n : Nat) (entries : List (Nat × Accumulation)) : List Accumulation :=
  (entries.filter fun entry => entry.1 = n).map Prod.snd

section Accumulations
variable (l : Ledger) (n k : Nat) (a : Accumulation) (entry : Nat × Accumulation) (entries : List (Nat × Accumulation))

theorem accumulateAll_cons :
    l.accumulateAll (entry :: entries) = (l.accumulate entry.1 entry.2).accumulateAll entries := rfl

theorem accumulationsOf_cons : accumulationsOf k (entry :: entries)
    = if entry.1 = k then entry.2 :: accumulationsOf k entries else accumulationsOf k entries := by
  unfold accumulationsOf
  by_cases h : entry.1 = k <;> simp [h]

theorem accumulate_eq : l.accumulate n a = l.editResult n fun r => r.accumulate a := by
  cases a <;> rfl

theorem elements_accumulateAll : (l.accumulateAll entries).elements = l.elements := by
  induction entries generalizing l with
  | nil => rfl
  | cons entry entries ih =>
    rw [accumulateAll_cons, ih, accumulate_eq]
    rfl

theorem getElem?_accumulate :
    (l.accumulate n a).results[k]? = l.results[k]?.map fun r => if n = k then r.accumulate a else r := by
  rw [accumulate_eq, editResult, List.getElem?_modify]
  by_cases h : n = k <;> simp [h]

/-- The result has what has been counted for it, in its order, and nothing else. -/
theorem getElem?_accumulateAll : (l.accumulateAll entries).results[k]?
    = l.results[k]?.map fun r => (accumulationsOf k entries).foldl ResultDraft.accumulate r := by
  induction entries generalizing l with
  | nil => exact Option.map_id'.symm
  | cons entry entries ih =>
    rw [accumulateAll_cons, ih, getElem?_accumulate, Option.map_map]
    congr 1
    funext r
    rw [accumulationsOf_cons]
    by_cases h : entry.1 = k <;> simp [h]

theorem length_accumulateAll : (l.accumulateAll entries).results.length = l.results.length := by
  induction entries generalizing l with
  | nil => rfl
  | cons entry entries ih =>
    rw [accumulateAll_cons, ih, accumulate_eq]
    exact List.length_modify _ _ _

end Accumulations

/-! ## Results as they are shown -/

/-- A result lists a rejected field that another result is nested in. -/
def Holds (l : Ledger) (n inner : Nat) : Prop :=
  ∃ r e d, l.results[n]? = some r ∧ e ∈ r.rejected ∧ l.elements[e]? = some d ∧ d.entry = .nested inner

/-- A result lies within another one: it is that one, or it is nested in one of its fields, directly or further
down. -/
def Within (l : Ledger) (inner n : Nat) : Prop :=
  Relation.ReflTransGen l.Holds n inner

section Views
variable {l l' : Ledger}

theorem holds_of_mem {n e m : Nat} {d : ElementDraft} (he : e ∈ ((l.results[n]?).getD {}).rejected)
    (hd : l.elements[e]? = some d) (hm : d.entry = .nested m) : l.Holds n m := by
  cases hr : l.results[n]? with
  | none =>
    rw [hr] at he
    cases he
  | some r =>
    rw [hr] at he
    exact ⟨r, e, d, hr, he, hd, hm⟩

/-- A field looks the same in two ledgers if the results within it are the same. -/
theorem elementWithin_congr (helements : l'.elements = l.elements) (depth e : Nat)
    (h : ∀ d n k, l.elements[e]? = some d → d.entry = .nested n → l.Within k n → l'.results[k]? = l.results[k]?) :
    l'.elementWithin depth e = l.elementWithin depth e := by
  induction depth generalizing e with
  | zero =>
    unfold elementWithin
    rw [helements]
  | succ depth ih =>
    unfold elementWithin
    rw [helements]
    cases hdraft : l.elements[e]? with
    | none => rfl
    | some d =>
      rw [Option.getD_some]
      cases hentry : d.entry with
      | blank => simp only [hentry]
      | rejections rs => simp only [hentry]
      | nested n =>
        have hresult : l'.results[n]? = l.results[n]? := h d n n hdraft hentry .refl
        simp only [hentry, hresult]
        congr 1
        -- The fields below lie within results that lie within this one.
        refine List.map_congr_left fun e' he' => ih e' fun d' n' k hd' hn' hk => ?_
        exact h d n k hdraft hentry (.head (holds_of_mem he' hd' hn') hk)

/-- A result looks the same in two ledgers if it and the results within it are the same. -/
theorem result_congr {n : Nat} (helements : l'.elements = l.elements)
    (hlength : l'.results.length = l.results.length)
    (h : ∀ k, l.Within k n → l'.results[k]? = l.results[k]?) : l'.result n = l.result n := by
  unfold result
  rw [h n .refl]
  dsimp only
  congr 1
  refine List.map_congr_left fun e he => ?_
  unfold element
  rw [hlength]
  exact elementWithin_congr helements _ e fun d m k hd hm hk => h k (.head (holds_of_mem he hd hm) hk)

/-- A result looks the same as before unless something has been counted for a result that lies within it. -/
theorem result_accumulateAll {n : Nat} {entries : List (Nat × Accumulation)}
    (h : ∀ entry ∈ entries, ¬ l.Within entry.1 n) : (l.accumulateAll entries).result n = l.result n := by
  refine result_congr (elements_accumulateAll _ _) (length_accumulateAll _ _) fun k hk => ?_
  have hnone : accumulationsOf k entries = [] := by
    unfold accumulationsOf
    rw [List.map_eq_nil_iff, List.filter_eq_nil_iff]
    intro entry hentry hsame
    rw [← of_decide_eq_true hsame] at hk
    exact h entry hentry hk
  rw [getElem?_accumulateAll, hnone]
  exact Option.map_id'

end Views

/-! ## Merging -/

section Merging
variable {l : Ledger} {a b c n k : Nat}

/-- A merged result has a number of its own, and all results keep theirs. -/
theorem getElem?_merge (l : Ledger) (a b : Nat) (hk : k < l.results.length) :
    (l.merge a b).results[k]? = l.results[k]? :=
  List.getElem?_append_left hk

theorem length_merge (l : Ledger) (a b : Nat) : (l.merge a b).results.length = l.results.length + 1 := by
  simp [merge, addResult]

/-- The result with a number is the merged one of two others. -/
def IsMerge (l : Ledger) (n a b : Nat) : Prop :=
  ∃ r s, l.results[a]? = some r ∧ l.results[b]? = some s ∧
    l.results[n]? = some { tally := r.tally.merge s.tally, rejected := r.rejected ++ s.rejected }

theorem isMerge_merge (ha : a < l.results.length) (hb : b < l.results.length) :
    (l.merge a b).IsMerge l.results.length a b := by
  refine ⟨l.results[a], l.results[b], ?_, ?_, ?_⟩
  · rw [getElem?_merge l a b ha, List.getElem?_eq_getElem ha]
  · rw [getElem?_merge l a b hb, List.getElem?_eq_getElem hb]
  · unfold merge
    rw [List.getElem?_eq_getElem ha, List.getElem?_eq_getElem hb]
    exact List.getElem?_concat_length

/-- A result stays the merged one when others are merged. -/
theorem IsMerge.merge (h : l.IsMerge n a b) (c d : Nat) : (l.merge c d).IsMerge n a b := by
  obtain ⟨r, s, hr, hs, hn⟩ := h
  have hkept : ∀ (k : Nat) (t : ResultDraft), l.results[k]? = some t → (l.merge c d).results[k]? = some t := by
    intro k t hk
    rw [getElem?_merge l c d (List.getElem?_eq_some_iff.1 hk).1, hk]
  exact ⟨r, s, hkept a r hr, hkept b s hs, hkept n _ hn⟩

/-- A merged result looks like what is seen of its parts, merged. -/
theorem IsMerge.result (h : l.IsMerge n a b) : l.result n = (l.result a).merge (l.result b) := by
  obtain ⟨r, s, hr, hs, hn⟩ := h
  simp only [Ledger.result, Result.merge, hr, hs, hn, Option.getD_some, List.map_append]

end Merging

/-- The ledger after three results have been merged in both ways: the first two and then the third, and the first one
with what the other two are merged into. -/
def mergeBothWays (l : Ledger) (a b c : Nat) : Ledger :=
  (((l.merge a b).merge l.results.length c).merge b c).merge a (l.results.length + 2)

/-- Merging three results in the one way and in the other gives results that look the same. -/
theorem result_mergeBothWays {l : Ledger} {a b c : Nat} (ha : a < l.results.length) (hb : b < l.results.length)
    (hc : c < l.results.length) : (l.mergeBothWays a b c).result (l.results.length + 1)
      = (l.mergeBothWays a b c).result (l.results.length + 3) := by
  have hlength := length_merge l a b
  have hlength₂ := length_merge (l.merge a b) l.results.length c
  have hlength₃ := length_merge ((l.merge a b).merge l.results.length c) b c
  have hab : (l.merge a b).IsMerge l.results.length a b := isMerge_merge ha hb
  have hab_c : ((l.merge a b).merge l.results.length c).IsMerge (l.results.length + 1) l.results.length c := by
    rw [← hlength]
    apply isMerge_merge <;> omega
  have hbc : (((l.merge a b).merge l.results.length c).merge b c).IsMerge (l.results.length + 2) b c := by
    rw [show l.results.length + 2 = ((l.merge a b).merge l.results.length c).results.length by omega]
    apply isMerge_merge <;> omega
  have ha_bc : (l.mergeBothWays a b c).IsMerge (l.results.length + 3) a (l.results.length + 2) := by
    rw [show l.results.length + 3 = (((l.merge a b).merge l.results.length c).merge b c).results.length by omega]
    apply isMerge_merge <;> omega
  -- In the last ledger each of the four merged results looks like its parts, merged.
  have hab_c' := ((hab_c.merge b c).merge a (l.results.length + 2)).result
  have hab' := (((hab.merge l.results.length c).merge b c).merge a (l.results.length + 2)).result
  have hbc' := (hbc.merge a (l.results.length + 2)).result
  have ha_bc' := ha_bc.result
  unfold mergeBothWays at *
  rw [hab_c', hab', ha_bc', hbc', Result.merge_assoc]

/-- **Merged results.** It does not matter how three results are merged. A merged result lists the rejected fields of
its parts one after the other, and is balanced if they are. Whatever is counted later, for the merged result, for its
parts or for any others: each result has what has been counted for itself and nothing else, the fields stay as they
are, and a result looks the same as before unless something has been counted for a result that lies within it. -/
theorem merge_laws {l : Ledger} {a b c : Nat} (ha : a < l.results.length) (hb : b < l.results.length)
    (hc : c < l.results.length) :
    (l.mergeBothWays a b c).result (l.results.length + 1)
      = (l.mergeBothWays a b c).result (l.results.length + 3) ∧
    ((l.merge a b).result l.results.length).rejected
      = ((l.merge a b).result a).rejected ++ ((l.merge a b).result b).rejected ∧
    (((l.merge a b).result a).Balanced → ((l.merge a b).result b).Balanced →
      ((l.merge a b).result l.results.length).Balanced) ∧
    (∀ k < l.results.length, (l.merge a b).results[k]? = l.results[k]?) ∧
    ∀ entries k, ((l.merge a b).accumulateAll entries).elements = (l.merge a b).elements ∧
      ((l.merge a b).accumulateAll entries).results[k]? = ((l.merge a b).results[k]?.map fun r =>
        (accumulationsOf k entries).foldl ResultDraft.accumulate r) ∧
      ((∀ entry ∈ entries, ¬ (l.merge a b).Within entry.1 k) →
        ((l.merge a b).accumulateAll entries).result k = (l.merge a b).result k) := by
  have hmerged := (isMerge_merge ha hb).result
  refine ⟨result_mergeBothWays ha hb hc, ?_, ?_, fun k hk => getElem?_merge l a b hk, fun entries k => ?_⟩
  · rw [hmerged]
    rfl
  · intro hbalanced hbalanced'
    rw [hmerged]
    exact hbalanced.merge hbalanced'
  · exact ⟨elements_accumulateAll _ _, getElem?_accumulateAll _ _ _, result_accumulateAll⟩

/-- An order that is rejected for its customer, the result of the customer, and an order that passed. -/
def orders : Ledger where
  elements := [⟨"customer", "customer", none, .nested 1⟩,
    ⟨"name", "name", some .none, .rejections [⟨"required", "required", "name is required", []⟩]⟩]
  results := [
    ⟨⟨false, 1, 0, 1, 0, some "Validation failed"⟩, [0]⟩,
    ⟨⟨false, 2, 1, 1, 0, some "Validation failed"⟩, [1]⟩,
    ⟨⟨true, 1, 1, 0, 0, some ""⟩, []⟩]

/-- Nothing but the result of the customer is nested in a field. -/
theorem eq_of_holds_orders {n inner : Nat} (h : (orders.merge 0 2).Holds n inner) : inner = 1 := by
  obtain ⟨-, e, d, -, -, hd, hentry⟩ := h
  match e, hd with
  | 0, hd =>
    obtain rfl := Option.some.inj hd
    exact (Entry.nested.inj hentry).symm
  | 1, hd =>
    obtain rfl := Option.some.inj hd
    cases hentry

theorem merge_laws_orders :
    (orders.mergeBothWays 0 2 1).result 4 = (orders.mergeBothWays 0 2 1).result 6 ∧
      ((orders.merge 0 2).result 3).Balanced ∧
      ((orders.merge 0 2).accumulateAll [(3, .pass), (3, .reject 1)]).result 0 = (orders.merge 0 2).result 0 := by
  obtain ⟨hways, -, hbalanced, -, hlater⟩ :=
    merge_laws (l := orders) (a := 0) (b := 2) (c := 1) (by decide) (by decide) (by decide)
  refine ⟨hways, hbalanced ⟨?_, rfl, rfl⟩ ⟨?_, rfl, rfl⟩, (hlater _ 0).2.2 fun entry hentry hwithin => ?_⟩
  · decide
  · decide
  · have hmerged : entry.1 = 3 := by
      rcases hentry with _ | ⟨_, _ | ⟨_, hentry⟩⟩
      · rfl
      · rfl
      · cases hentry
    rw [hmerged] at hwithin
    rcases Relation.ReflTransGen.cases_tail hwithin with hself | ⟨n, -, hholds⟩
    · cases hself
    · cases eq_of_holds_orders hholds

/-- How many fields have passed in what is nested in the rejected fields. -/
def nestedCounts (r : Result) : List (Option Nat) :=
  r.rejected.map fun e => e.nested?.map fun inner => inner.tally.passedCount

/-- What is counted for the customer is seen in the order that the customer belongs to, and in what the two are
merged into. -/
theorem merge_shows_nested : 0 < orders.results.length ∧ 1 < orders.results.length ∧
    ((orders.merge 0 1).accumulateAll [(1, .pass)]).result 0 ≠ (orders.merge 0 1).result 0 ∧
    ((orders.merge 0 1).accumulateAll [(1, .pass)]).result 3 ≠ (orders.merge 0 1).result 3 := by
  refine ⟨by decide, by decide, fun h => ?_, fun h => ?_⟩
  · have hcount : [some 2] = [some 1] := congrArg nestedCounts h
    cases hcount
  · have hcount : [some 2, none] = [some 1, none] := congrArg nestedCounts h
    cases hcount

end Ledger

end FieldRules
