import FieldRules.Proofs.Rule.Joining
import FieldRules.Proofs.Rule.PartOrder
import Mathlib.Data.List.Chain

/-!
# Repeated parts

A strict reader compares the parts of a fragment with their order only, so it accepts arguments, groups and messages
that stand there more than once, one directly behind the other, and keeps the last ones. What it accepts is a name,
any number of arguments, of groups and of messages (`parse_true_parts`). The name stands there once: what ends a
name starts another part or ends the fragment, so no name follows directly on a name (`Legible`).
-/

namespace FieldRules.Rule

open Relation (ReflTransGen)

variable {strict : Bool} {text : List Char}

/-! ## Parts in order -/

/-- A name, and then arguments, groups and messages in these numbers. -/
def partsOf (names arguments groups messages : Nat) : List Part :=
  List.replicate names .name ++ (List.replicate arguments .arguments ++
    (List.replicate groups .groups ++ List.replicate messages .message))

/-- Parts that stand in order are names, then arguments, then groups, then messages. -/
theorem exists_partsOf {parts : List Part} (h : InOrder parts) : ∃ g i j k, parts = partsOf g i j k := by
  induction parts with
  | nil => exact ⟨0, 0, 0, 0, rfl⟩
  | cons part parts ih =>
    obtain ⟨hfirst, h⟩ := List.pairwise_cons.1 h
    obtain ⟨g, i, j, k, rfl⟩ := ih h
    -- no part before the first one in the order is left
    have hnone : ∀ earlier : Part, earlier.rank < part.rank → earlier ∉ partsOf g i j k :=
      fun earlier hlt hmem => absurd (hfirst earlier hmem) (Nat.not_le.2 hlt)
    simp only [partsOf, List.mem_append, List.mem_replicate] at hnone
    cases part with
    | name => exact ⟨g + 1, i, j, k, rfl⟩
    | arguments =>
      have hg : g = 0 := by simpa using hnone .name (by decide)
      exact ⟨0, i + 1, j, k, by rw [hg]; rfl⟩
    | groups =>
      have hg : g = 0 := by simpa using hnone .name (by decide)
      have hi : i = 0 := by simpa using hnone .arguments (by decide)
      exact ⟨0, 0, j + 1, k, by rw [hg, hi]; rfl⟩
    | message =>
      have hg : g = 0 := by simpa using hnone .name (by decide)
      have hi : i = 0 := by simpa using hnone .arguments (by decide)
      have hj : j = 0 := by simpa using hnone .groups (by decide)
      exact ⟨0, 0, 0, k + 1, by rw [hg, hi, hj]; rfl⟩

/-- A part that stands in order and repeats one before it follows directly on that. -/
theorem getLast?_of_inOrder {parts : List Part} {part : Part} (h : InOrder (parts ++ [part]))
    (hpart : part ∈ parts) : parts.getLast? = some part := by
  obtain ⟨before, last, rfl⟩ : ∃ before last, parts = before ++ [last] :=
    ⟨_, _, (List.dropLast_append_getLast (List.ne_nil_of_mem hpart)).symm⟩
  obtain ⟨hbefore, -, hlast⟩ := List.pairwise_append.1 h
  have hle : last.rank ≤ part.rank := hlast last (by simp) part (by simp)
  have hge : part.rank ≤ last.rank := by
    rcases List.mem_append.1 hpart with hmem | hmem
    · exact (List.pairwise_append.1 hbefore).2.2 part hmem last (by simp)
    · rw [List.mem_singleton.1 hmem]
  obtain rfl := rank_injective (Nat.le_antisymm hle hge)
  exact List.getLast?_concat

/-! ## One name -/

/-- Names that do not follow each other directly. -/
def NamesApart (parts : List Part) : Prop :=
  parts.IsChain fun a b => ¬(a = .name ∧ b = .name)

theorem names_le_one {g i j k : Nat} (h : NamesApart (partsOf g i j k)) : g ≤ 1 := by
  match g, h with
  | 0, _ | 1, _ => omega
  | g + 2, h =>
    cases h with
    | cons_cons hab => exact absurd ⟨rfl, rfl⟩ hab

/-- What holds of a fragment that is being read, and of the text behind: the name is seen exactly if it is there, no
two names follow directly on each other, and behind a name stands what ends it. -/
structure Legible (d : Draft) (rest : List Char) : Prop where
  named : d.name?.isSome = true ↔ .name ∈ d.seen
  apart : NamesApart d.seen
  closed : d.seen.getLast? = some .name → rest = [] ∨ endsName (rest.dropWhile Text.isBlank) = true

theorem endsName_iff {c : Char} {s : List Char} :
    endsName (c :: s) = true ↔ c = '<' ∨ c = '(' ∨ c = delimiter := by
  simp [endsName, or_assoc]

/-- Behind a name that has been read stands what ends it. -/
theorem closed_of_readName {s rest : List Char} {name : String} (h : readName text s = .ok (name, rest)) :
    rest = [] ∨ endsName (rest.dropWhile Text.isBlank) = true := by
  unfold readName at h
  dsimp only at h
  split at h
  · cases h
    exact .inl rfl
  · next c after _ =>
    split at h
    · next hends =>
      cases h
      right
      rw [Bool.or_eq_true, Bool.and_eq_true] at hends
      rcases hends with hends | ⟨hblank, hends⟩
      · have hc : Text.isBlank c = false := by
          rcases endsName_iff.1 hends with rfl | rfl | rfl <;> rfl
        rwa [List.dropWhile_cons, hc, if_neg Bool.false_ne_true]
      · rwa [List.dropWhile_cons, hblank, if_pos rfl]
    · cases h

/-- What reading a part does to a draft, apart from its content. -/
theorem seen_of_readPart {part : Part} {s rest : List Char} {d d' : Draft}
    (h : readPart strict text part s d = .ok (d', rest)) :
    d'.seen = d.seen ++ [part] ∧ (d'.name?.isSome = true ↔ d.name?.isSome = true ∨ part = .name) ∧
      (part = .name → rest = [] ∨ endsName (rest.dropWhile Text.isBlank) = true) := by
  rw [readPart_eq_bind] at h
  cases part with
  | name =>
    obtain ⟨⟨name, after⟩, hname, h⟩ := bind_eq_ok h
    cases h
    exact ⟨rfl, by simp, fun _ => closed_of_readName hname⟩
  | arguments | groups | message =>
    obtain ⟨⟨content, after⟩, -, h⟩ := bind_eq_ok h
    cases h
    exact ⟨rfl, by simp, nofun⟩

theorem legible_empty (rest : List Char) : Legible {} rest :=
  ⟨by simp, .nil, nofun⟩

/-- A part that has been read leaves a fragment that is legible. -/
theorem Legible.readPart {part : Part} {c : Char} {s rest : List Char} {d d' : Draft} (h : Legible d (c :: s))
    (hpart : partAt? (c :: s) = some part) (hread : readPart strict text part (c :: s) d = .ok (d', rest)) :
    Legible d' rest := by
  obtain ⟨hseen, hname, hclosed⟩ := seen_of_readPart hread
  refine ⟨?_, ?_, ?_⟩
  · rw [hname, h.named, hseen, List.mem_append, List.mem_singleton, eq_comm (a := Part.name)]
  · rw [NamesApart, hseen]
    refine List.IsChain.append h.apart (.singleton _) ?_
    rintro last hlast next hnext ⟨rfl, rfl⟩
    cases Option.some.inj hnext
    -- a name would start with a character that ends the one before it
    have hc := isNameChar_of_partAt? hpart
    rcases h.closed hlast with hnil | hends
    · cases hnil
    · rw [List.dropWhile_cons, isBlank_of_isNameChar hc, if_neg Bool.false_ne_true] at hends
      rcases endsName_iff.1 hends with rfl | rfl | rfl <;> cases hc
  · rw [hseen, List.getLast?_concat]
    exact fun hlast => hclosed (Option.some.inj hlast)

/-- A character that is skipped does not end a name. -/
theorem Legible.skip {c : Char} {s : List Char} {d : Draft} (h : Legible d (c :: s)) (hc : c ≠ delimiter)
    (hpart : partAt? (c :: s) = none) : Legible d s := by
  refine ⟨h.named, h.apart, fun hlast => ?_⟩
  rcases h.closed hlast with hnil | hends
  · cases hnil
  · rw [List.dropWhile_cons] at hends
    split at hends
    · exact .inr hends
    · rw [partAt?_cons] at hpart
      rcases endsName_iff.1 hends with rfl | rfl | rfl
      · rw [if_pos rfl] at hpart
        split at hpart <;> cases hpart
      · cases hpart
      · exact absurd rfl hc

/-- Every fragment that is being read is legible. -/
theorem legible_of_reaches {s : List Char} {p : Place} (h : ReflTransGen (Step strict text) ⟨none, s⟩ p) :
    ∀ d, p.draft? = some d → Legible d p.rest := by
  induction h with
  | refl => exact nofun
  | @tail p p' _ hstep ih =>
    cases hstep with
    | finished | delimiter => exact nofun
    | skipped hc hpart => exact fun d hd => (ih d hd).skip hc hpart
    | @part draft? c s rest part d hc hpart hread =>
      rintro d ⟨⟩
      refine Legible.readPart ?_ hpart hread
      cases draft? with
      | none => exact legible_empty _
      | some d => exact ih d rfl

/-! ## Fragments that are ended -/

/-- At a place a part starts that has been seen in its fragment: what is read for it takes the place of what has
been read before. -/
inductive Overwrites : Place → Part → Prop
  | part {d : Draft} {c : Char} {s : List Char} {part : Part} :
      c ≠ delimiter → partAt? (c :: s) = some part → part ∈ d.seen → Overwrites ⟨some d, c :: s⟩ part

section Ends
variable {p p' p'' : Place} {d : Draft} {fs : List Fragment}

/-- From a place there is one step at most. -/
theorem Step.unique (h : Step strict text p p') (h' : Step strict text p p'') : p' = p'' := by
  cases h with
  | finished => cases h' with
    | finished => rfl
    | skipped hc | part hc => exact absurd rfl hc
  | delimiter => cases h' with
    | delimiter => rfl
    | skipped hc | part hc => exact absurd rfl hc
  | skipped hc hpart => cases h' with
    | finished | delimiter => exact absurd rfl hc
    | skipped => rfl
    | part _ hpart' =>
      rw [hpart] at hpart'
      cases hpart'
  | part hc hpart hread => cases h' with
    | finished | delimiter => exact absurd rfl hc
    | skipped _ hpart' =>
      rw [hpart] at hpart'
      cases hpart'
    | part _ hpart' hread' =>
      rw [hpart] at hpart'
      cases hpart'
      rw [hread] at hread'
      cases hread'
      rfl

/-- The reader comes, on its way from a place, to the end of a fragment with this draft. -/
def EndsDraft (strict : Bool) (text : List Char) (p : Place) (d : Draft) : Prop :=
  ∃ rest, ReflTransGen (Step strict text) p ⟨some d, delimiter :: rest⟩

/-- What is ended on the way from a place is ended there, or on the way from the place behind the step. -/
theorem endsDraft_iff (h : Step strict text p p') :
    EndsDraft strict text p d ↔ (∃ rest, p = ⟨some d, delimiter :: rest⟩) ∨ EndsDraft strict text p' d := by
  constructor
  · rintro ⟨rest, hreach⟩
    rcases hreach.cases_head with heq | ⟨q, hstep, hreach⟩
    · exact .inl ⟨rest, heq⟩
    · rw [h.unique hstep]
      exact .inr ⟨rest, hreach⟩
  · rintro (⟨rest, rfl⟩ | ⟨rest, hreach⟩)
    · exact ⟨rest, .refl⟩
    · exact ⟨rest, hreach.head h⟩

/-- Within a fragment a step leaves what is ended. -/
theorem endsDraft_iff_of_within (h : Step strict text p p') (hwithin : ∀ rest, p ≠ ⟨some d, delimiter :: rest⟩) :
    EndsDraft strict text p' d ↔ EndsDraft strict text p d := by
  rw [endsDraft_iff h]
  exact (or_iff_right fun ⟨rest, heq⟩ => hwithin rest heq).symm

theorem within_of_ne {draft? : Option Draft} {c : Char} {s : List Char} (hc : c ≠ delimiter) (rest : List Char) :
    (⟨draft?, c :: s⟩ : Place) ≠ ⟨some d, delimiter :: rest⟩ := by
  intro heq
  cases heq
  exact hc rfl

/-- A passage to the end of the text goes on behind a step. -/
theorem Passes.step (h : Passes strict text p fs ⟨none, []⟩) (hstep : Step strict text p p') :
    ∃ fs', Passes strict text p' fs' ⟨none, []⟩ := by
  cases h with
  | here => cases hstep
  | finished hfinish h => exact ⟨_, (Step.finished hfinish).unique hstep ▸ h⟩
  | delimiter h => exact ⟨_, Step.delimiter.unique hstep ▸ h⟩
  | skipped hc hpart h => exact ⟨_, (Step.skipped hc hpart).unique hstep ▸ h⟩
  | part hc hpart hread h => exact ⟨_, (Step.part hc hpart hread).unique hstep ▸ h⟩

/-- Every place that is reached lies on a passage to the end of the text. -/
theorem Passes.reach (h : Passes strict text p fs ⟨none, []⟩) (hreach : ReflTransGen (Step strict text) p p') :
    ∃ fs', Passes strict text p' fs' ⟨none, []⟩ := by
  induction hreach with
  | refl => exact ⟨fs, h⟩
  | tail _ hstep ih =>
    obtain ⟨fs', h'⟩ := ih
    exact h'.step hstep

/-- On a passage to the end of the text, each fragment comes from a draft that is ended there, and each such draft
gives one of the fragments. -/
theorem Passes.exists_drafts (h : Passes strict text p fs ⟨none, []⟩) :
    ∃ ds, (∀ d, d ∈ ds ↔ EndsDraft strict text p d) ∧
      List.Forall₂ (fun d f => finish strict text d = .ok f) ds fs := by
  -- the passage is taken from its front, so that the end of the text is kept aside
  generalize hend : (⟨none, []⟩ : Place) = q at h
  induction h with
  | here =>
    subst hend
    refine ⟨[], fun d => ⟨nofun, ?_⟩, .nil⟩
    rintro ⟨rest, hreach⟩
    rcases hreach.cases_head with heq | ⟨q, hstep, -⟩
    · cases heq
    · cases hstep
  | @finished d f rest fs q hfinish h ih =>
    obtain ⟨ds, hds, hall⟩ := ih hend
    refine ⟨d :: ds, fun d' => ?_, .cons hfinish hall⟩
    rw [List.mem_cons, hds, endsDraft_iff (.finished hfinish)]
    refine or_congr_left ⟨?_, ?_⟩
    · rintro rfl
      exact ⟨rest, rfl⟩
    · rintro ⟨_, heq⟩
      cases heq
      rfl
  | delimiter h ih =>
    obtain ⟨ds, hds, hall⟩ := ih hend
    exact ⟨ds, fun d => (hds d).trans (endsDraft_iff_of_within .delimiter fun _ heq => nomatch heq), hall⟩
  | skipped hc hpart h ih =>
    obtain ⟨ds, hds, hall⟩ := ih hend
    exact ⟨ds, fun d => (hds d).trans (endsDraft_iff_of_within (.skipped hc hpart) (within_of_ne hc)), hall⟩
  | part hc hpart hread h ih =>
    obtain ⟨ds, hds, hall⟩ := ih hend
    exact ⟨ds, fun d => (hds d).trans (endsDraft_iff_of_within (.part hc hpart hread) (within_of_ne hc)), hall⟩

/-- A fragment that has begun is ended before the end of the text, and keeps the parts that have been seen. -/
theorem Passes.exists_end {s : List Char} (h : Passes strict text ⟨some d, s⟩ fs ⟨none, []⟩) :
    ∃ d', EndsDraft strict text ⟨some d, s⟩ d' ∧ d.seen <+: d'.seen := by
  generalize hend : (⟨none, []⟩ : Place) = q at h
  generalize hstart : (⟨some d, s⟩ : Place) = p at h
  induction h generalizing d s with
  | here =>
    rw [← hstart] at hend
    cases hend
  | finished =>
    cases hstart
    exact ⟨_, ⟨_, .refl⟩, List.prefix_rfl⟩
  | delimiter => cases hstart
  | skipped hc hpart _ ih =>
    cases hstart
    obtain ⟨d', hends, hprefix⟩ := ih hend rfl
    exact ⟨d', (endsDraft_iff_of_within (.skipped hc hpart) (within_of_ne hc)).1 hends, hprefix⟩
  | part hc hpart hread _ ih =>
    cases hstart
    obtain ⟨d', hends, hprefix⟩ := ih hend rfl
    rw [(seen_of_readPart hread).1] at hprefix
    have hends := (endsDraft_iff_of_within (.part hc hpart hread) (within_of_ne hc)).1 hends
    exact ⟨d', hends, (List.prefix_append _ _).trans hprefix⟩

/-- What a strict reader accepts as a fragment is a name, and then arguments, groups and messages. -/
theorem Legible.seen_eq {f : Fragment} {rest : List Char} (h : Legible d rest)
    (hfinish : finish true text d = .ok f) : ∃ i j k, d.seen = partsOf 1 i j k := by
  obtain ⟨hloose, horder⟩ := finish_true_iff.1 hfinish
  obtain ⟨g, i, j, k, hseen⟩ := exists_partsOf horder
  have hnamed : Part.name ∈ d.seen := by
    rw [← h.named]
    unfold finish at hloose
    split at hloose
    · cases hloose
    · next hname => rw [hname, Option.isSome_some]
  have hle : g ≤ 1 := names_le_one (hseen ▸ h.apart)
  have hpos : g ≠ 0 := by
    rintro rfl
    rw [hseen] at hnamed
    simp [partsOf] at hnamed
  obtain rfl : g = 1 := by omega
  exact ⟨i, j, k, hseen⟩

/-- From every place that is reached, a fragment that has begun is ended as a strict reader accepts it. -/
theorem Passes.accepts {rest : List Char} (h : Passes true text ⟨none, text⟩ fs ⟨none, []⟩)
    (hreach : ReflTransGen (Step true text) ⟨none, text⟩ ⟨some d, rest⟩) :
    ∃ d', EndsDraft true text ⟨none, text⟩ d' ∧ InOrder d'.seen ∧ d.seen <+: d'.seen := by
  obtain ⟨fs', h'⟩ := h.reach hreach
  obtain ⟨d', ⟨rest', hends⟩, hprefix⟩ := h'.exists_end
  have hreach' := hreach.trans hends
  refine ⟨d', ⟨rest', hreach'⟩, ?_, hprefix⟩
  obtain ⟨ds, hds, hall⟩ := h.exists_drafts
  obtain ⟨f, -, hfinish⟩ := exists_of_forall₂_left hall ((hds d').2 ⟨rest', hreach'⟩)
  exact (finish_true_iff.1 hfinish).2

/-- Where a part is overwritten, a step reads it, and the draft holds it twice then. -/
theorem Overwrites.exists_step {s : List Char} {part : Part} (h : Overwrites ⟨some d, s⟩ part)
    (hp : Passes strict text ⟨some d, s⟩ fs ⟨none, []⟩) :
    ∃ d' rest, Step strict text ⟨some d, s⟩ ⟨some d', rest⟩ ∧ d'.seen = d.seen ++ [part] := by
  cases h with
  | part hc hpart hseen =>
    cases hp with
    | finished => exact absurd rfl hc
    | skipped _ hpart' =>
      rw [hpart] at hpart'
      cases hpart'
    | part _ hpart' hread =>
      rw [hpart] at hpart'
      cases hpart'
      exact ⟨_, _, .part hc hpart hread, (seen_of_readPart hread).1⟩

theorem Overwrites.mem_seen {s : List Char} {part : Part} (h : Overwrites ⟨some d, s⟩ part) : part ∈ d.seen := by
  cases h with
  | part _ _ hseen => exact hseen

/-- A part that is overwritten is not the name, and it is the last one that has been seen. -/
theorem Passes.overwritten {s : List Char} {part : Part} (h : Passes true text ⟨none, text⟩ fs ⟨none, []⟩)
    (hreach : ReflTransGen (Step true text) ⟨none, text⟩ ⟨some d, s⟩) (hover : Overwrites ⟨some d, s⟩ part) :
    part ≠ .name ∧ d.seen.getLast? = some part := by
  obtain ⟨fs', h'⟩ := h.reach hreach
  obtain ⟨d', rest, hstep, hseen⟩ := hover.exists_step h'
  have hreach' := hreach.tail hstep
  obtain ⟨d'', -, horder, hprefix⟩ := h.accepts hreach'
  have hlast : d.seen.getLast? = some part := by
    refine getLast?_of_inOrder ?_ hover.mem_seen
    rw [← hseen]
    exact horder.sublist hprefix.sublist
  refine ⟨?_, hlast⟩
  rintro rfl
  have hapart := (legible_of_reaches hreach' d' rfl).apart
  rw [hseen] at hapart
  exact (List.isChain_append.1 hapart).2.2 _ hlast _ rfl ⟨rfl, rfl⟩

/-- If nothing is overwritten, no fragment has a part twice. -/
theorem nodup_of_reaches (hnone : ∀ p part, ReflTransGen (Step strict text) ⟨none, text⟩ p → ¬Overwrites p part)
    (hreach : ReflTransGen (Step strict text) ⟨none, text⟩ p) : ∀ d, p.draft? = some d → d.seen.Nodup := by
  induction hreach with
  | refl => exact nofun
  | @tail p p' hreach hstep ih =>
    cases hstep with
    | finished | delimiter => exact nofun
    | skipped => exact ih
    | @part draft? c s rest part d hc hpart hread =>
      rintro d ⟨⟩
      rw [(seen_of_readPart hread).1]
      cases draft? with
      | none => exact List.nodup_singleton part
      | some d =>
        have hnew : part ∉ d.seen := fun hmem => hnone _ part hreach (.part hc hpart hmem)
        rw [Option.getD_some, ← List.concat_eq_append]
        exact (ih d rfl).concat hnew

end Ends

/-! ## Two arguments parts in a row -/

/-- A draft that two arguments parts in a row have been read into. -/
def twiceDraft : Draft :=
  { name? := some "x", arguments := [.int 2], seen := [.name, .arguments, .arguments] }

/-- A strict reader passes two arguments parts in a row. -/
theorem passes_twice (text : List Char) :
    Passes true text ⟨none, "x(1)(2);".toList⟩ [] ⟨some twiceDraft, [delimiter]⟩ := by
  have hprintable : ∀ n : Int, n.natAbs < 10 → ∀ l ∈ [Literal.integer n], l.Printable := by
    intro n hn l hl
    rw [List.mem_singleton.1 hl]
    exact Nat.lt_of_lt_of_le hn (Nat.pow_le_pow_right (show 0 < 10 by decide) (show 1 ≤ Number.maxDigits by decide))
  have hname := @taken_name true text "(1)(2);".toList "x" (by decide) (List.all_eq_true.1 (by decide)) rfl {}
  have hfirst := @taken_arguments true text "(2);".toList [.integer 1] (by decide) (hprintable 1 (by decide))
  have hsecond := @taken_arguments true text [delimiter] [.integer 2] (by decide) (hprintable 2 (by decide))
  have hpasses := (@Taken.passes _ _ _ none _ _ _ hname).trans (@Taken.passes _ _ _ (some _) _ _ _ (hfirst _))
  exact hpasses.trans (@Taken.passes _ _ _ (some _) _ _ _ (hsecond _))

theorem clean_twice : clean (some "x(1)(2)") = .ok "x(1)(2);" :=
  clean_eq (s := "x(1)(2)".toList) (by decide) (by decide)

/-- What two arguments parts in a row are read as. -/
theorem parse_twice : parse true (some "x(1)(2)") = .ok [.make "x" [.int 2] [] none] := by
  have hfinish : finish true "x(1)(2);".toList twiceDraft = .ok (.make "x" [.int 2] [] none) :=
    finish_true_iff.2 ⟨rfl, by unfold InOrder; decide⟩
  have hpasses := (passes_twice "x(1)(2);".toList).trans (.finished hfinish (.here _))
  rw [parse_eq clean_twice]
  exact hpasses.reads _ (by decide)

/-! ## Strict fragments -/

/-- **Parts of strict fragments.** What a strict reader reads comes from the drafts that it ends on its way through
the text, one for each fragment. Each of them has seen one name, and then any number of arguments, of groups and of
messages. None has seen a part twice exactly if the reader nowhere reads a part that the fragment already has. Where
it does read one, that part is not the name, and it follows directly on the one that it takes the place of. -/
theorem parse_true_parts {text? : Option String} {fs : List Fragment} (h : parse true text? = .ok fs) :
    ∃ text ds, clean text? = .ok text ∧
      (∀ d, d ∈ ds ↔ EndsDraft true text.toList ⟨none, text.toList⟩ d) ∧
      List.Forall₂ (fun d f => finish true text.toList d = .ok f) ds fs ∧
      (∀ d ∈ ds, ∃ i j k, d.seen = partsOf 1 i j k) ∧
      ((∀ d ∈ ds, d.seen.Nodup) ↔ ∀ p part,
        ReflTransGen (Step true text.toList) ⟨none, text.toList⟩ p → ¬Overwrites p part) ∧
      ∀ d s part, ReflTransGen (Step true text.toList) ⟨none, text.toList⟩ ⟨some d, s⟩ →
        Overwrites ⟨some d, s⟩ part → part ≠ .name ∧ d.seen.getLast? = some part := by
  obtain ⟨written, rfl⟩ : ∃ written, text? = some written := by
    cases text? with
    | none => cases h
    | some written => exact ⟨written, rfl⟩
  obtain ⟨text, hclean, hread⟩ := parse_eq_ok h
  have hpasses := passes_key hclean (Nat.lt_succ_self _) hread text.toList
  obtain ⟨ds, hds, hall⟩ := hpasses.exists_drafts
  refine ⟨text, ds, hclean, hds, hall, ?_, ?_, fun d s part => hpasses.overwritten⟩
  · intro d hd
    obtain ⟨rest, hreach⟩ := (hds d).1 hd
    obtain ⟨f, -, hfinish⟩ := exists_of_forall₂_left hall hd
    exact (legible_of_reaches hreach d rfl).seen_eq hfinish
  · constructor
    · rintro hnodup ⟨draft?, s⟩ part hreach hover
      obtain ⟨d, rfl⟩ : ∃ d, draft? = some d := by
        cases hover
        exact ⟨_, rfl⟩
      obtain ⟨fs', h'⟩ := hpasses.reach hreach
      obtain ⟨d', rest, hstep, hseen⟩ := hover.exists_step h'
      obtain ⟨d'', hends, -, hprefix⟩ := hpasses.accepts (hreach.tail hstep)
      -- The draft that ends has seen what this one has, and so the part twice.
      have htwice := (hnodup d'' ((hds d'').2 hends)).sublist hprefix.sublist
      rw [hseen, List.nodup_append] at htwice
      exact htwice.2.2 part hover.mem_seen part (List.mem_singleton_self part) rfl
    · intro hnone d hd
      obtain ⟨rest, hreach⟩ := (hds d).1 hd
      exact nodup_of_reaches hnone hreach d rfl

/-- Where the arguments stand twice, the reader comes to a place where they are overwritten. -/
theorem parse_true_parts_twice : ∃ text p part, clean (some "x(1)(2)") = .ok text ∧
    ReflTransGen (Step true text.toList) ⟨none, text.toList⟩ p ∧ Overwrites p part ∧ part ≠ .name := by
  obtain ⟨text, ds, hclean, hds, -, -, hnodup, hlast⟩ := parse_true_parts parse_twice
  obtain rfl : "x(1)(2);" = text := Except.ok.inj (clean_twice.symm.trans hclean)
  have hends : twiceDraft ∈ ds := (hds _).2 ⟨[], (passes_twice _).reaches⟩
  by_contra hnone
  refine absurd (hnodup.2 ?_ _ hends) (by decide)
  intro p part hreach hover
  refine hnone ⟨_, p, part, hclean, hreach, hover, ?_⟩
  cases hover with
  | part hc hpart hseen => exact (hlast _ _ part hreach (.part hc hpart hseen)).1

/-- **A strict reader overwrites arguments**: of those that stand behind the name, it keeps the second ones. -/
theorem parse_true_overwrites : ∃ text d, clean (some "x(1)(2)") = .ok text ∧
    parse true (some "x(1)(2)") = .ok [.make "x" [.int 2] [] none] ∧
    EndsDraft true text.toList ⟨none, text.toList⟩ d ∧ d.seen = [.name, .arguments, .arguments] ∧ ¬d.seen.Nodup :=
  ⟨_, twiceDraft, clean_twice, parse_twice,
    ⟨[], (passes_twice _).reaches⟩, rfl, by decide⟩

end FieldRules.Rule
