import FieldRules.Proofs.Regex.Fit

/-!
# Patterns of a whole line

Patterns that start with the start of a line and end with its end. As a pattern has to match a whole text, the two say
nothing more about it, and the text is one of a row of nodes (`matchesSource_line`).
-/

namespace FieldRules.Regex

namespace Fit

variable {a : Fit} {before s after : List Char}

/-- A text that fits each of a row, one after the other. -/
def row : List Fit → Fit
  | [] => empty
  | a :: rest => a.cat (row rest)

theorem row_append (as bs : List Fit) {before s after : List Char} :
    row (as ++ bs) before s after ↔ ((row as).cat (row bs)) before s after := by
  induction as generalizing before s after with
  | nil => exact empty_cat.symm
  | cons a as ih =>
    rw [List.cons_append, row, row, cat_assoc]
    exact cat_congr_right fun _ _ _ => ih

/-! ## Repetitions of one character -/

theorem times_one {holds : Char → Bool} {n : Nat} :
    (one holds).times n before s after ↔ s.length = n ∧ ∀ c ∈ s, holds c = true := by
  induction n generalizing before s with
  | zero =>
    rw [List.length_eq_zero_iff]
    exact ⟨fun h => ⟨h, by rw [show s = [] from h]; exact List.forall_mem_nil _⟩, And.left⟩
  | succ n ih =>
    constructor
    · rintro ⟨_, y, rfl, ⟨c, hc, rfl⟩, hy⟩
      obtain ⟨hlength, hall⟩ := ih.1 hy
      exact ⟨congrArg (· + 1) hlength, List.forall_mem_cons.2 ⟨hc, hall⟩⟩
    · rintro ⟨hlength, hall⟩
      cases s with
      | nil => cases hlength
      | cons c y =>
        obtain ⟨hc, hy⟩ := List.forall_mem_cons.1 hall
        exact ⟨[c], y, rfl, ⟨c, hc, rfl⟩, ih.2 ⟨Nat.succ.inj hlength, hy⟩⟩

theorem repetition_one {holds : Char → Bool} {least : Nat} :
    (one holds).repetition least none before s after ↔ least ≤ s.length ∧ ∀ c ∈ s, holds c = true := by
  constructor
  · rintro ⟨k, -, hs⟩
    obtain ⟨hlength, hall⟩ := times_one.1 hs
    exact ⟨by omega, hall⟩
  · rintro ⟨hlength, hall⟩
    exact ⟨s.length - least, nofun, times_one.2 ⟨by omega, hall⟩⟩

theorem repetition_optional : a.repetition 0 (some 1) before s after ↔ s = [] ∨ a before s after := by
  constructor
  · rintro ⟨k, hk, hs⟩
    rw [Nat.zero_add] at hs
    have hk := hk 1 rfl
    rcases k with _ | _ | k
    · exact .inl hs
    · exact .inr (cat_empty.1 hs)
    · omega
  · rintro (rfl | hs)
    · exact ⟨0, fun _ _ => Nat.zero_le _, rfl⟩
    · refine ⟨1, ?_, cat_empty.2 hs⟩
      rintro m hm
      cases hm
      exact Nat.le_refl 1

end Fit

/-! ## Rows of nodes -/

theorem Node.fit_sequence (ns : List Node) (flags : Flags) {before s after : List Char} :
    (sequence ns).fit flags before s after ↔ Fit.row (ns.map (·.fit flags)) before s after := by
  induction ns generalizing before s after with
  | nil => exact Iff.rfl
  | cons n ns ih =>
    cases ns with
    | nil => exact Fit.cat_empty.symm
    | cons m ns => exact Fit.cat_congr_right fun _ _ _ => ih

theorem Node.isPlain_sequence (ns : List Node) : (sequence ns).isPlain = ns.all isPlain := by
  induction ns with
  | nil => rfl
  | cons n ns ih =>
    cases ns with
    | nil => exact (Bool.and_true _).symm
    | cons m ns => exact congrArg (n.isPlain && ·) ih

/-- The nodes of a row between the start and the end of a line. -/
def Node.line (ns : List Node) : Node :=
  sequence (.anchor .lineStart :: (ns ++ [.anchor .lineEnd]))

theorem Node.isPlain_line {ns : List Node} (h : ns.all isPlain = true) : (line ns).isPlain = true := by
  rw [line, isPlain_sequence, List.all_cons, List.all_append, h]
  rfl

/-- The ends of a line are the ends of the text. -/
theorem Node.fit_line (ns : List Node) (flags : Flags) {s : List Char} :
    (line ns).fit flags [] s [] ↔ Fit.row (ns.map (·.fit flags)) [] s [] := by
  rw [line, fit_sequence, List.map_cons, List.map_append]
  constructor
  · rintro ⟨_, y, rfl, ⟨rfl, -⟩, hy⟩
    obtain ⟨x, _, rfl, hx, z, w, rfl, ⟨rfl, -⟩, rfl⟩ := (Fit.row_append ..).1 hy
    rwa [List.append_nil, List.nil_append, List.append_nil]
  · intro hs
    refine ⟨[], s, rfl, ⟨rfl, rfl⟩, (Fit.row_append ..).2 ⟨s, [], (List.append_nil s).symm, hs, ?_⟩⟩
    exact ⟨[], [], rfl, ⟨rfl, rfl⟩, rfl⟩

/-- **A text matches a pattern of a whole line if it fits the row of its nodes.** -/
theorem matchesSource_line {source : String} {ns : List Node}
    (hcompile : (Regex.compile source).toOption = some ⟨source, {}, .line ns⟩) (hplain : ns.all Node.isPlain = true)
    (s : List Char) : matchesSource source s = true ↔ Fit.row (ns.map (·.fit {})) [] s [] := by
  cases hsource : Regex.compile source with
  | error problem =>
    rw [hsource] at hcompile
    cases hcompile
  | ok r =>
    rw [hsource] at hcompile
    obtain rfl := Option.some.inj hcompile
    rw [matchesSource, hsource]
    exact (Regex.matches_iff (Node.isPlain_line hplain) s).trans (Node.fit_line ns {})

end FieldRules.Regex
