import FieldRules.Regex.Source
import Mathlib.Tactic.Common

/-!
# What patterns match

A matcher tries the ways to match one after the other and hands each place to what follows. Which texts it accepts can
be said without the order of the tries: a text fits a node between the text before it and the text after it.

* `Fit` are the texts that fit, and `Node.fit` are those of a node;
* `Finds` says of a matcher that it finds what fits: whatever it hands on is behind a text that fits, and it succeeds
  if what follows accepts the place behind one of them;
* `Node.finds` is the agreement of the two for the nodes that are plain, and `matches_iff` that for a whole pattern.

A node is plain if no choice within it is made for good and it does not look at what groups have captured or at what
is behind it.
-/

namespace FieldRules.Regex

/-! ## Texts that fit -/

/-- Which texts fit between a text before them, from its last character to its first, and a text after them. -/
abbrev Fit := List Char → List Char → List Char → Prop

namespace Fit

/-- The empty text. -/
def empty : Fit := fun _ s _ => s = []

/-- One character that fulfils a condition. -/
def one (holds : Char → Bool) : Fit := fun _ s _ => ∃ c, holds c = true ∧ s = [c]

/-- A text that fits, and another one behind it. -/
def cat (a b : Fit) : Fit := fun before s after =>
  ∃ x y, s = x ++ y ∧ a before x (y ++ after) ∧ b (x.reverse ++ before) y after

/-- A text of either of two sorts. -/
def alt (a b : Fit) : Fit := fun before s after => a before s after ∨ b before s after

/-- As many texts one after the other. -/
def times (a : Fit) : Nat → Fit
  | 0 => empty
  | n + 1 => a.cat (times a n)

/-- At least so many texts one after the other, and at most so many; a greatest number below the least one counts as
that. -/
def repetition (a : Fit) (least : Nat) (most : Option Nat) : Fit := fun before s after =>
  ∃ k, (∀ m ∈ most, k ≤ m - least) ∧ a.times (least + k) before s after

/-- The empty text in front of a text that fits, or in front of none. -/
def ahead (a : Fit) (negated : Bool) : Fit := fun before s after =>
  s = [] ∧ ((∃ x y, after = x ++ y ∧ a before x y) ↔ negated = false)

end Fit

/-- The texts that fit a node. -/
def Node.fit : Node → Flags → Fit
  | empty, _ => .empty
  | literal code, flags => .one (isCode flags code)
  | any, flags => .one fun c => flags.dotAll || c != '\n'
  | set negated items, flags => .one fun c => items.any (SetItem.holds flags c) != negated
  | anchor a, flags => fun before s after => s = [] ∧ a.holds flags ⟨before, after, 0, []⟩ = true
  | cat a b, flags => (a.fit flags).cat (b.fit flags)
  | alt a b, flags => (a.fit flags).alt (b.fit flags)
  | group _ on off body, flags => body.fit (flags.change on off)
  | loop _ least most body, flags => (body.fit flags).repetition least most
  | look _ negated body, flags => (body.fit flags).ahead negated
  | backreference _, _ => fun _ _ _ => False
  | atomic _, _ => fun _ _ _ => False
  | conditional .., _ => fun _ _ _ => False

/-- A node in which nothing is chosen for good, and nothing depends on groups or on what is behind a place. -/
def Node.isPlain : Node → Bool
  | empty => true
  | literal _ => true
  | any => true
  | set .. => true
  | anchor _ => true
  | cat a b => a.isPlain && b.isPlain
  | alt a b => a.isPlain && b.isPlain
  | group _ _ _ body => body.isPlain
  | loop greed _ _ body => greed != .possessive && body.isPlain
  | look behind _ body => behind.isNone && body.isPlain
  | backreference _ => false
  | atomic _ => false
  | conditional .. => false

namespace Fit

variable {a b c : Fit} {k m n : Nat} {before s after : List Char}

theorem cat_assoc : ((a.cat b).cat c) before s after ↔ (a.cat (b.cat c)) before s after := by
  constructor
  · rintro ⟨_, z, rfl, ⟨x, y, rfl, hx, hy⟩, hz⟩
    rw [← List.append_assoc] at hx
    rw [List.reverse_append, List.append_assoc] at hz
    exact ⟨x, y ++ z, List.append_assoc x y z, hx, y, z, rfl, hy, hz⟩
  · rintro ⟨x, _, rfl, hx, y, z, rfl, hy, hz⟩
    rw [List.append_assoc] at hx
    rw [← List.append_assoc, ← List.reverse_append] at hz
    exact ⟨x ++ y, z, (List.append_assoc x y z).symm, ⟨x, y, rfl, hx, hy⟩, hz⟩

theorem empty_cat : (empty.cat b) before s after ↔ b before s after := by
  constructor
  · rintro ⟨_, y, rfl, rfl, hy⟩
    exact hy
  · exact fun h => ⟨[], s, rfl, rfl, h⟩

theorem cat_empty : (a.cat empty) before s after ↔ a before s after := by
  constructor
  · rintro ⟨x, _, rfl, hx, rfl⟩
    rwa [List.append_nil]
  · exact fun h => ⟨s, [], (List.append_nil s).symm, h, rfl⟩

theorem cat_congr_right (h : ∀ before s after, b before s after ↔ c before s after) :
    (a.cat b) before s after ↔ (a.cat c) before s after :=
  exists_congr fun _ => exists_congr fun _ => and_congr_right' (and_congr_right' (h ..))

theorem times_add (m n : Nat) {before s after : List Char} :
    a.times (m + n) before s after ↔ (a.times m).cat (a.times n) before s after := by
  induction m generalizing before s after with
  | zero => rw [Nat.zero_add, times, empty_cat]
  | succ m ih =>
    rw [Nat.succ_add, times, times, cat_assoc]
    exact cat_congr_right fun _ _ _ => ih

/-- A text that fits, and another one behind it unless the first one is empty. -/
def turn (a next : Fit) : Fit := fun before s after =>
  (s = [] ∧ a before [] after) ∨
    ∃ x y, x ≠ [] ∧ s = x ++ y ∧ a before x (y ++ after) ∧ next (x.reverse ++ before) y after

/-- At most so many texts one after the other, the last one of which alone may be empty. -/
def upTo (a : Fit) : Nat → Fit
  | 0 => empty
  | n + 1 => empty.alt (a.turn (upTo a n))

theorem upTo_nil (a : Fit) (n : Nat) (before after : List Char) : a.upTo n before [] after := by
  cases n with
  | zero => rfl
  | succ n => exact .inl rfl

theorem exists_times_of_upTo (h : a.upTo n before s after) : ∃ k ≤ n, a.times k before s after := by
  induction n generalizing before s with
  | zero => exact ⟨0, Nat.le_refl 0, h⟩
  | succ n ih =>
    rcases h with rfl | ⟨rfl, -⟩ | ⟨x, y, -, rfl, hx, hy⟩
    · exact ⟨0, Nat.zero_le _, rfl⟩
    · exact ⟨0, Nat.zero_le _, rfl⟩
    · obtain ⟨k, hk, hy⟩ := ih hy
      exact ⟨k + 1, Nat.succ_le_succ hk, x, y, rfl, hx, hy⟩

/-- Empty texts can be left out, and then there are no more of them than characters. -/
theorem upTo_of_times (h : a.times k before s after) (hn : k ≤ n ∨ s.length ≤ n) : a.upTo n before s after := by
  induction k generalizing before s n with
  | zero =>
    obtain rfl := h
    exact upTo_nil a n before after
  | succ k ih =>
    obtain ⟨x, y, rfl, hx, hy⟩ := h
    by_cases hempty : x = []
    · -- An empty text is skipped: the others are as many texts and the same characters.
      subst hempty
      exact ih hy (hn.imp_left fun h => by omega)
    · have hpos : 0 < x.length := List.length_pos_iff.2 hempty
      rw [List.length_append] at hn
      cases n with
      | zero => omega
      | succ n => exact .inr (.inr ⟨x, y, hempty, rfl, hx, ih hy (by omega)⟩)

end Fit

/-! ## Matchers -/

/-- The place behind the first `s` characters, with `after` left, whatever has been captured on the way. -/
def Place.past (p : Place) (s after : List Char) (captured : List (Nat × List Char)) : Place where
  before := s.reverse ++ p.before
  rest := after
  index := p.index + s.length
  captured := captured

@[simp] theorem Place.index_past (p : Place) (s after : List Char) (captured : List (Nat × List Char)) :
    (p.past s after captured).index = p.index + s.length := rfl

theorem Place.past_past (p : Place) (x y s after : List Char) (captured captured' : List (Nat × List Char)) :
    (p.past x s captured).past y after captured' = p.past (x ++ y) after captured' := by
  simp only [past, List.reverse_append, List.append_assoc, List.length_append, Nat.add_assoc]

/-- A matcher finds what fits: what it comes to is what follows makes of the place behind a text that fits, and it comes
to something if that accepts the place behind one of them. -/
structure Finds (m : Matcher) (fit : Fit) : Prop where
  sound : ∀ {p onward q}, m p onward = some q →
    ∃ s after captured, p.rest = s ++ after ∧ fit p.before s after ∧ onward (p.past s after captured) = some q
  complete : ∀ {p onward s after}, p.rest = s ++ after → fit p.before s after →
    (∀ captured, (onward (p.past s after captured)).isSome) → (m p onward).isSome

section Finds
variable {m m' : Matcher} {fit fit' : Fit}

theorem Finds.congr (h : Finds m fit) (hfit : ∀ before s after, fit before s after ↔ fit' before s after) :
    Finds m fit' where
  sound hq := by
    obtain ⟨s, after, captured, hrest, hs, honward⟩ := h.sound hq
    exact ⟨s, after, captured, hrest, (hfit ..).1 hs, honward⟩
  complete hrest hs honward := h.complete hrest ((hfit ..).2 hs) honward

/-- Goes on from a place that fulfils a condition. -/
theorem finds_test (holds : Place → Bool)
    (hholds : ∀ p, holds p = holds ⟨p.before, p.rest, 0, []⟩) :
    Finds (fun p onward => if holds p then onward p else none)
      fun before s after => s = [] ∧ holds ⟨before, after, 0, []⟩ = true where
  sound {p onward q} hq := by
    by_cases h : holds p = true
    · rw [if_pos h] at hq
      exact ⟨[], p.rest, p.captured, rfl, ⟨rfl, (hholds p).symm.trans h⟩, hq⟩
    · rw [if_neg h] at hq
      cases hq
  complete {p onward s after} hrest hs honward := by
    obtain ⟨rfl, h⟩ := hs
    obtain rfl : p.rest = after := hrest
    rw [if_pos ((hholds p).trans h)]
    exact honward p.captured

theorem finds_empty : Finds (fun p onward => onward p) Fit.empty :=
  (finds_test (fun _ => true) fun _ => rfl).congr fun _ _ _ => and_iff_left rfl

theorem finds_one (holds : Char → Bool) : Finds (one holds) (Fit.one holds) where
  sound {p onward q} hq := by
    unfold one at hq
    split at hq
    · next c rest hrest =>
      by_cases h : holds c = true
      · rw [if_pos h] at hq
        exact ⟨[c], rest, p.captured, hrest, ⟨c, h, rfl⟩, hq⟩
      · rw [if_neg h] at hq
        cases hq
    · cases hq
  complete {p onward s after} hrest hs honward := by
    obtain ⟨c, h, rfl⟩ := hs
    have hrest' : p.rest = c :: after := hrest
    simp only [one, hrest', if_pos h]
    exact honward p.captured

theorem Finds.cat (h : Finds m fit) (h' : Finds m' fit') :
    Finds (fun p onward => m p fun q => m' q onward) (fit.cat fit') where
  sound {p onward q} hq := by
    obtain ⟨x, _, _, hrest, hx, hq⟩ := h.sound hq
    obtain ⟨y, after, captured, rfl, hy, hq⟩ := h'.sound hq
    rw [Place.past_past] at hq
    exact ⟨x ++ y, after, captured, hrest.trans (List.append_assoc x y after).symm, ⟨x, y, rfl, hx, hy⟩, hq⟩
  complete {p onward s after} hrest hs honward := by
    obtain ⟨x, y, rfl, hx, hy⟩ := hs
    refine h.complete (hrest.trans (List.append_assoc x y after)) hx fun captured => h'.complete rfl hy ?_
    intro captured'
    rw [Place.past_past]
    exact honward captured'

theorem Finds.alt (h : Finds m fit) (h' : Finds m' fit') :
    Finds (fun p onward => (m p onward).or (m' p onward)) (fit.alt fit') where
  sound {p onward q} hq := by
    rcases Option.or_eq_some_iff.1 hq with hq | ⟨-, hq⟩
    · obtain ⟨s, after, captured, hrest, hs, honward⟩ := h.sound hq
      exact ⟨s, after, captured, hrest, .inl hs, honward⟩
    · obtain ⟨s, after, captured, hrest, hs, honward⟩ := h'.sound hq
      exact ⟨s, after, captured, hrest, .inr hs, honward⟩
  complete {p onward s after} hrest hs honward := by
    rw [Option.isSome_or, Bool.or_eq_true]
    exact hs.imp (h.complete hrest · honward) (h'.complete hrest · honward)

/-- A group only notes what it has captured. -/
theorem Finds.group (h : Finds m fit) (note : Place → Place → List (Nat × List Char)) :
    Finds (fun p onward => m p fun q => onward { q with captured := note p q }) fit where
  sound {p onward q} hq := by
    obtain ⟨s, after, captured, hrest, hs, hq⟩ := h.sound hq
    exact ⟨s, after, note p (p.past s after captured), hrest, hs, hq⟩
  complete {p onward s after} hrest hs honward := h.complete hrest hs fun _ => honward _

/-- What is found from a place, without going on from where it ends. -/
theorem Finds.isSome_iff (h : Finds m fit) (p : Place) :
    (m p some).isSome ↔ ∃ x y, p.rest = x ++ y ∧ fit p.before x y := by
  constructor
  · intro hsome
    obtain ⟨q, hq⟩ := Option.isSome_iff_exists.1 hsome
    obtain ⟨x, y, -, hrest, hx, -⟩ := h.sound hq
    exact ⟨x, y, hrest, hx⟩
  · rintro ⟨x, y, hrest, hx⟩
    exact h.complete hrest hx fun _ => rfl

theorem Finds.ahead (h : Finds m fit) :
    Finds (fun p onward => (m p some).bind fun q => onward { p with captured := q.captured }) (fit.ahead false) where
  sound {p onward q} hq := by
    obtain ⟨found, hfound, hq⟩ := Option.bind_eq_some_iff.1 hq
    have hahead := (h.isSome_iff p).1 (Option.isSome_iff_exists.2 ⟨found, hfound⟩)
    exact ⟨[], p.rest, found.captured, rfl, ⟨rfl, iff_of_true hahead rfl⟩, hq⟩
  complete {p onward s after} hrest hs honward := by
    obtain ⟨rfl, hahead⟩ := hs
    obtain rfl : p.rest = after := hrest
    obtain ⟨found, hfound⟩ := Option.isSome_iff_exists.1 ((h.isSome_iff p).2 (hahead.2 rfl))
    rw [hfound]
    exact honward found.captured

theorem Finds.notAhead (h : Finds m fit) :
    Finds (fun p onward => if (m p some).isSome then none else onward p) (fit.ahead true) where
  sound {p onward q} hq := by
    by_cases hsome : (m p some).isSome = true
    · rw [if_pos hsome] at hq
      cases hq
    · rw [if_neg hsome] at hq
      exact ⟨[], p.rest, p.captured, rfl, ⟨rfl, iff_of_false (mt (h.isSome_iff p).2 hsome) Bool.noConfusion⟩, hq⟩
  complete {p onward s after} hrest hs honward := by
    obtain ⟨rfl, hahead⟩ := hs
    obtain rfl : p.rest = after := hrest
    rw [if_neg fun hsome => Bool.noConfusion (hahead.1 ((h.isSome_iff p).1 hsome))]
    exact honward p.captured

/-! ## Repetitions -/

theorem Finds.times (h : Finds m fit) (n : Nat) : Finds (times m n) (fit.times n) := by
  induction n with
  | zero => exact finds_empty
  | succ n ih => exact h.cat ih

/-- One turn of a repetition; if it has taken no text, it is the last one. -/
def turn (m next : Matcher) : Matcher := fun p onward =>
  m p fun q => if q.index == p.index then onward q else next q onward

theorem Finds.turn (h : Finds m fit) (h' : Finds m' fit') : Finds (turn m m') (fit.turn fit') where
  sound {p onward q} hq := by
    obtain ⟨x, rest, captured, hrest, hx, hq⟩ := h.sound hq
    by_cases hempty : x = []
    · subst hempty
      rw [if_pos (by simp)] at hq
      exact ⟨[], rest, captured, hrest, .inl ⟨rfl, hx⟩, hq⟩
    · rw [if_neg (by simpa using hempty)] at hq
      obtain ⟨y, after, captured, rfl, hy, hq⟩ := h'.sound hq
      rw [Place.past_past] at hq
      exact ⟨x ++ y, after, captured, hrest.trans (List.append_assoc x y after).symm,
        .inr ⟨x, y, hempty, rfl, hx, hy⟩, hq⟩
  complete {p onward s after} hrest hs honward := by
    rcases hs with ⟨rfl, hx⟩ | ⟨x, y, hempty, rfl, hx, hy⟩
    · refine h.complete hrest hx fun captured => ?_
      rw [if_pos (by simp)]
      exact honward captured
    · refine h.complete (hrest.trans (List.append_assoc x y after)) hx fun captured => ?_
      rw [if_neg (by simpa using hempty)]
      refine h'.complete rfl hy fun captured' => ?_
      rw [Place.past_past]
      exact honward captured'

theorem greedily_succ (m : Matcher) (n : Nat) :
    greedily m (n + 1) = fun p onward => (turn m (greedily m n) p onward).or (onward p) := by
  funext p onward
  rw [greedily, turn]
  cases m p fun q => if q.index == p.index then onward q else greedily m n q onward <;> rfl

theorem lazily_succ (m : Matcher) (n : Nat) :
    lazily m (n + 1) = fun p onward => (onward p).or (turn m (lazily m n) p onward) := by
  funext p onward
  rw [lazily]
  cases onward p <;> rfl

theorem Finds.greedily (h : Finds m fit) (n : Nat) : Finds (greedily m n) (fit.upTo n) := by
  induction n with
  | zero => exact finds_empty
  | succ n ih =>
    rw [greedily_succ]
    exact ((h.turn ih).alt finds_empty).congr fun _ _ _ => or_comm

theorem Finds.lazily (h : Finds m fit) (n : Nat) : Finds (lazily m n) (fit.upTo n) := by
  induction n with
  | zero => exact finds_empty
  | succ n ih =>
    rw [lazily_succ]
    exact finds_empty.alt (h.turn ih)

/-- With as many turns as there are characters, and one, a repetition misses nothing. -/
theorem Finds.repetition {f : Nat → Matcher} (h : Finds m fit) (hf : ∀ n, Finds (f n) (fit.upTo n)) (least : Nat)
    (most : Option Nat) :
    Finds (fun p onward => Regex.times m least p fun q => f (turns least most q) q onward)
      (fit.repetition least most) := by
  -- The number of turns depends on the place, but what is found behind it does not.
  have hmore : Finds (fun q onward => f (turns least most q) q onward) fun before s after =>
      ∃ k, (∀ n ∈ most, k ≤ n - least) ∧ fit.times k before s after := by
    constructor
    · intro p onward q hq
      obtain ⟨s, after, captured, hrest, hs, hq⟩ := (hf _).sound hq
      obtain ⟨k, hk, hs⟩ := Fit.exists_times_of_upTo hs
      refine ⟨s, after, captured, hrest, ⟨k, ?_, hs⟩, hq⟩
      rintro n rfl
      exact Nat.le_trans hk (Nat.min_le_left ..)
    · rintro p onward s after hrest ⟨k, hk, hs⟩ honward
      refine (hf _).complete hrest (Fit.upTo_of_times hs ?_) honward
      have hlength : s.length ≤ p.rest.length := by
        rw [hrest, List.length_append]
        omega
      cases most with
      | none => exact .inr (Nat.le_succ_of_le hlength)
      | some n =>
        have := hk n rfl
        simp only [turns]
        omega
  refine ((h.times least).cat hmore).congr fun before s after => ?_
  constructor
  · rintro ⟨x, y, rfl, hx, k, hk, hy⟩
    exact ⟨k, hk, (Fit.times_add least k).2 ⟨x, y, rfl, hx, hy⟩⟩
  · rintro ⟨k, hk, hs⟩
    obtain ⟨x, y, rfl, hx, hy⟩ := (Fit.times_add least k).1 hs
    exact ⟨x, y, rfl, hx, k, hk, hy⟩

end Finds

/-! ## Nodes -/

theorem Anchor.holds_eq (a : Anchor) (flags : Flags) (p : Place) :
    a.holds flags p = a.holds flags ⟨p.before, p.rest, 0, []⟩ := by
  cases a <;> rfl

/-- **A plain node finds the texts that fit it.** -/
theorem Node.finds {n : Node} (h : n.isPlain = true) (flags : Flags) : Finds (n.matcher flags) (n.fit flags) := by
  -- The flags change within groups, so they are general in the induction.
  induction n generalizing flags with
  | empty => exact finds_empty
  | literal code => exact finds_one _
  | any => exact finds_one _
  | set negated items => exact finds_one _
  | anchor a => exact finds_test (a.holds flags) (a.holds_eq flags)
  | cat a b iha ihb =>
    rw [isPlain, Bool.and_eq_true] at h
    exact (iha h.1 flags).cat (ihb h.2 flags)
  | alt a b iha ihb =>
    rw [isPlain, Bool.and_eq_true] at h
    have hor : (alt a b).matcher flags = fun p onward => (a.matcher flags p onward).or (b.matcher flags p onward) := by
      funext p onward
      simp only [matcher]
      cases a.matcher flags p onward <;> rfl
    rw [hor]
    exact (iha h.1 flags).alt (ihb h.2 flags)
  | group capture on off body ih =>
    have hbody := ih h (flags.change on off)
    cases capture with
    | none => exact hbody
    | some n => exact hbody.group fun p q => (n, (q.before.take (q.index - p.index)).reverse) :: q.captured
  | loop greed least most body ih =>
    rw [isPlain, Bool.and_eq_true] at h
    have hbody := ih h.2 flags
    cases greed with
    | greedy => exact hbody.repetition hbody.greedily least most
    | lazy => exact hbody.repetition hbody.lazily least most
    | possessive => cases h.1
  | look behind negated body ih =>
    rw [isPlain, Bool.and_eq_true] at h
    have hbody := ih h.2 flags
    cases behind with
    | some n => cases h.1
    | none =>
      cases negated with
      | false =>
        have hbind : (look none false body).matcher flags = fun p onward =>
            (body.matcher flags p some).bind fun q => onward { p with captured := q.captured } := by
          funext p onward
          simp only [matcher, Option.bind_some]
          cases body.matcher flags p some <;> rfl
        rw [hbind]
        exact hbody.ahead
      | true =>
        have hif : (look none true body).matcher flags = fun p onward =>
            if (body.matcher flags p some).isSome then none else onward p := by
          funext p onward
          simp only [matcher, Option.bind_some]
          cases body.matcher flags p some <;> rfl
        rw [hif]
        exact hbody.notAhead
  | backreference group => cases h
  | atomic body => cases h
  | conditional group yes no => cases h

end FieldRules.Regex

namespace FieldRules

open Regex

/-- **A plain pattern matches the texts that fit it.** -/
theorem Regex.matches_iff {r : Regex} (h : r.node.isPlain = true) (s : List Char) :
    r.matches s = true ↔ r.node.fit r.flags [] s [] := by
  have hfinds := Node.finds h r.flags
  constructor
  · intro hmatches
    obtain ⟨q, hq⟩ := Option.isSome_iff_exists.1 hmatches
    obtain ⟨x, after, captured, hrest, hx, hq⟩ := hfinds.sound hq
    -- The whole pattern only goes on at the end of the text.
    have hafter : after = [] := by
      cases after with
      | nil => rfl
      | cons c after => cases hq
    subst hafter
    obtain rfl : s = x := hrest.trans (List.append_nil x)
    exact hx
  · exact fun hs => hfinds.complete (List.append_nil s).symm hs fun _ => rfl

end FieldRules
